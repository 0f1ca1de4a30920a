import Swapsack.ByteStringProofs

/-! # Base64 as Python reads and writes it

    Writing pads to whole groups of four characters.  Reading is lenient: what is
    outside the alphabet is skipped, padding ends the text where it completes a
    group, and is skipped where it does not.

    * `decode_encode` — what is written reads back. -/

namespace Base64

open ByteString

/-! ## The alphabet -/

/-- The sixty-four characters, in the order of their values. -/
def alphabet : List Char :=
  "ABCDEFGHIJKLMNOPQRSTUVWXYZabcdefghijklmnopqrstuvwxyz0123456789+/".toList

/-- The character of six bits. -/
def charOf (n : ℕ) : Char := alphabet.getD n '='

/-- The six bits of a character of the alphabet. -/
def valueOf (c : Char) : Option ℕ := alphabet.idxOf? c

/-- The character of a value stands for it. -/
theorem valueOf_charOf {n : ℕ} (h : n < 64) : valueOf (charOf n) = some n := by
  have hall : ∀ n < 64, valueOf (charOf n) = some n := by decide +kernel
  exact hall n h

/-- It is not the padding. -/
theorem charOf_ne_pad {n : ℕ} (h : n < 64) : charOf n ≠ '=' := by
  have hall : ∀ n < 64, charOf n ≠ '=' := by decide +kernel
  exact hall n h

/-- It is an ASCII character. -/
theorem charOf_ascii {n : ℕ} : (charOf n).toNat < 128 := by
  by_cases h : n < 64
  · have hall : ∀ n < 64, (charOf n).toNat < 128 := by decide +kernel
    exact hall n h
  · have hlen : alphabet.length ≤ n := by
      have : alphabet.length = 64 := by decide
      omega
    rw [charOf, List.getD_eq_default _ _ hlen]
    decide

/-! ## Writing -/

/-- Three bytes make four characters; one or two are padded to four. -/
def encodeChars : Bytes → List Char
  | [] => []
  | [a] => [charOf (a.toNat / 4), charOf (a.toNat % 4 * 16), '=', '=']
  | [a, b] =>
      [charOf (a.toNat / 4), charOf (a.toNat % 4 * 16 + b.toNat / 16),
        charOf (b.toNat % 16 * 4), '=']
  | a :: b :: c :: rest =>
      charOf (a.toNat / 4) :: charOf (a.toNat % 4 * 16 + b.toNat / 16)
        :: charOf (b.toNat % 16 * 4 + c.toNat / 64) :: charOf (c.toNat % 64)
        :: encodeChars rest

/-- `b64encode(b).decode()`. -/
def encode (b : Bytes) : String := String.ofList (encodeChars b)

/-! ## Reading -/

/-- The rest of a text, `pos` characters into a group of which `left` is not yet
    written, behind `pads` paddings. -/
def readFrom : ℕ → ℕ → ℕ → List Char → Option Bytes
  | pos, _, _, [] => if pos = 0 then some [] else none
  | pos, left, pads, c :: s =>
      if c = '=' then
        if 2 ≤ pos then
          if 4 ≤ pos + (pads + 1) then some [] else readFrom pos left (pads + 1) s
        else readFrom pos left pads s
      else
        match valueOf c with
        | none => readFrom pos left pads s
        | some v =>
            match pos with
            | 0 => readFrom 1 v 0 s
            | 1 => (readFrom 2 (v % 16) 0 s).map (UInt8.ofNat (left * 4 + v / 16) :: ·)
            | 2 => (readFrom 3 (v % 4) 0 s).map (UInt8.ofNat (left * 16 + v / 4) :: ·)
            | _ => (readFrom 0 0 0 s).map (UInt8.ofNat (left * 64 + v) :: ·)

/-- `b64decode(s)` of a text; none is a `ValueError`. -/
def decode (s : String) : Option Bytes :=
  if s.toList.all fun c => c.toNat < 128 then readFrom 0 0 0 s.toList else none

/-! ## Reading back -/

/-! The four places of a group. -/

/-- The first character of four is held back in full, and the pads before it are forgotten.
    -/
theorem readFrom_first {v : ℕ} (hv : v < 64) (left pads : ℕ) (s : List Char) :
    readFrom 0 left pads (charOf v :: s) = readFrom 1 v 0 s := by
  rw [readFrom, if_neg (charOf_ne_pad hv), valueOf_charOf hv]
  rfl

/-- The second completes a byte and leaves four bits. -/
theorem readFrom_second {v : ℕ} (hv : v < 64) (left pads : ℕ) (s : List Char) :
    readFrom 1 left pads (charOf v :: s)
      = (readFrom 2 (v % 16) 0 s).map (UInt8.ofNat (left * 4 + v / 16) :: ·) := by
  rw [readFrom, if_neg (charOf_ne_pad hv), valueOf_charOf hv]
  rfl

/-- The third completes a byte and leaves two. -/
theorem readFrom_third {v : ℕ} (hv : v < 64) (left pads : ℕ) (s : List Char) :
    readFrom 2 left pads (charOf v :: s)
      = (readFrom 3 (v % 4) 0 s).map (UInt8.ofNat (left * 16 + v / 4) :: ·) := by
  rw [readFrom, if_neg (charOf_ne_pad hv), valueOf_charOf hv]
  rfl

/-- The fourth completes a byte and leaves nothing. -/
theorem readFrom_fourth {v : ℕ} (hv : v < 64) (left pads : ℕ) (s : List Char) :
    readFrom 3 left pads (charOf v :: s)
      = (readFrom 0 0 0 s).map (UInt8.ofNat (left * 64 + v) :: ·) := by
  rw [readFrom, if_neg (charOf_ne_pad hv), valueOf_charOf hv]
  rfl

theorem byte_eq {n : ℕ} {b : UInt8} (h : n = b.toNat) : UInt8.ofNat n = b := by
  rw [h, UInt8.ofNat_toNat]

/-- The padding that completes a group ends the text. -/
theorem readFrom_pads (pos left : ℕ) (h : pos = 2 ∨ pos = 3) :
    readFrom pos left 0 (List.replicate (4 - pos) '=') = some [] := by
  rcases h with rfl | rfl <;> rfl

/-- **What is encoded is decoded again**, whatever its length modulo three. -/
theorem readFrom_encodeChars (b : Bytes) : readFrom 0 0 0 (encodeChars b) = some b := by
  induction b using encodeChars.induct with
  | case1 => rfl
  | case2 a =>
      have ha : a.toNat < 256 := a.toNat_lt
      have hpads := readFrom_pads 2 (a.toNat % 4 * 16 % 16) (Or.inl rfl)
      have hbyte : UInt8.ofNat (a.toNat / 4 * 4 + a.toNat % 4 * 16 / 16) = a :=
        byte_eq (by omega)
      rw [encodeChars, readFrom_first (by omega), readFrom_second (by omega)]
      rw [show (['=', '='] : List Char) = List.replicate (4 - 2) '=' from rfl, hpads, hbyte]
      rfl
  | case3 a b =>
      have ha : a.toNat < 256 := a.toNat_lt
      have hb : b.toNat < 256 := b.toNat_lt
      have hpads := readFrom_pads 3 (b.toNat % 16 * 4 % 4) (Or.inr rfl)
      have hfirst : UInt8.ofNat (a.toNat / 4 * 4 + (a.toNat % 4 * 16 + b.toNat / 16) / 16) = a :=
        byte_eq (by omega)
      have hsecond : UInt8.ofNat ((a.toNat % 4 * 16 + b.toNat / 16) % 16 * 16
          + b.toNat % 16 * 4 / 4) = b := byte_eq (by omega)
      rw [encodeChars, readFrom_first (by omega), readFrom_second (by omega),
        readFrom_third (by omega)]
      rw [show (['='] : List Char) = List.replicate (4 - 3) '=' from rfl, hpads, hfirst, hsecond]
      rfl
  | case4 a b c rest ih =>
      have ha : a.toNat < 256 := a.toNat_lt
      have hb : b.toNat < 256 := b.toNat_lt
      have hc : c.toNat < 256 := c.toNat_lt
      have hfirst : UInt8.ofNat (a.toNat / 4 * 4 + (a.toNat % 4 * 16 + b.toNat / 16) / 16) = a :=
        byte_eq (by omega)
      have hsecond : UInt8.ofNat ((a.toNat % 4 * 16 + b.toNat / 16) % 16 * 16
          + (b.toNat % 16 * 4 + c.toNat / 64) / 4) = b := byte_eq (by omega)
      have hthird : UInt8.ofNat ((b.toNat % 16 * 4 + c.toNat / 64) % 4 * 64 + c.toNat % 64) = c :=
        byte_eq (by omega)
      rw [encodeChars, readFrom_first (by omega), readFrom_second (by omega),
        readFrom_third (by omega), readFrom_fourth (by omega)]
      rw [ih, hfirst, hsecond, hthird]
      rfl

/-- The text is ASCII, padding included. -/
theorem encodeChars_ascii (b : Bytes) : ∀ c ∈ encodeChars b, c.toNat < 128 := by
  have hpad : ('=' : Char).toNat < 128 := by decide
  induction b using encodeChars.induct with
  | case1 => exact fun c hc => absurd hc List.not_mem_nil
  | case2 a =>
      rw [encodeChars]
      simp only [List.forall_mem_cons, List.not_mem_nil, false_imp_iff, implies_true, and_true]
      exact ⟨charOf_ascii, charOf_ascii, hpad, hpad⟩
  | case3 a b =>
      rw [encodeChars]
      simp only [List.forall_mem_cons, List.not_mem_nil, false_imp_iff, implies_true, and_true]
      exact ⟨charOf_ascii, charOf_ascii, charOf_ascii, hpad⟩
  | case4 a b c rest ih =>
      rw [encodeChars]
      simp only [List.forall_mem_cons]
      exact ⟨charOf_ascii, charOf_ascii, charOf_ascii, charOf_ascii, ih⟩

/-- **What is written reads back.** -/
theorem decode_encode (b : Bytes) : decode (encode b) = some b := by
  have hall : ((encodeChars b).all fun c => decide (c.toNat < 128)) = true :=
    List.all_eq_true.mpr fun c hc => decide_eq_true (encodeChars_ascii b c hc)
  rw [decode, encode, String.toList_ofList, if_pos hall, readFrom_encodeChars]

/-- Two paddings do not complete a group that has only begun. -/
example : decode "QQ=Q=QQ" = some [65, 4] := by decide +kernel

end Base64
