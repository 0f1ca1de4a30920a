import Mathlib.Data.List.Basic
import Mathlib.Data.Nat.Bitwise
import Mathlib.Tactic.Ring
import Swapsack.ListKitProofs

/-! # Byte strings — fixed-width integers, UTF-8, hex, and offset readers

    A wire format is written by concatenation and read back by a cursor that
    moves through the whole input.  This file gives both sides:

    * `leBytes`/`leNat` — little-endian integers of a fixed width;
    * `encodeUtf8`/`decodeUtf8` — a text and its bytes, each determining the
      other;
    * `Reader` — a fallible read at an offset, and `Reads rd bs a`: wherever
      `bs` stands in an input, `rd` returns `a` and stops just after it.
      `Reads` composes along `bind` and along `readMany`, so a parser is
      correct as soon as its pieces are. -/

namespace ByteString

open ListKit

/-- A byte string. -/
abbrev Bytes := List UInt8

/-! ## Little-endian integers -/

/-- The `w` low bytes of `n`, least significant first. -/
def leBytes : ℕ → ℕ → Bytes
  | 0, _ => []
  | w + 1, n => UInt8.ofNat (n % 256) :: leBytes w (n / 256)

/-- The number a little-endian byte string spells. -/
def leNat : Bytes → ℕ
  | [] => 0
  | b :: bs => b.toNat + 256 * leNat bs

@[simp] theorem leBytes_length (w n : ℕ) : (leBytes w n).length = w := by
  induction w generalizing n with
  | zero => rfl
  | succ w ih => rw [leBytes, List.length_cons, ih]

/-- A number that fits its width reads back. -/
theorem leNat_leBytes {w n : ℕ} (h : n < 256 ^ w) : leNat (leBytes w n) = n := by
  induction w generalizing n with
  | zero =>
      rw [pow_zero] at h
      have hn : n = 0 := by omega
      rw [hn, leBytes, leNat]
  | succ w ih =>
      have hdiv : n / 256 < 256 ^ w := by
        rw [Nat.div_lt_iff_lt_mul (by decide)]
        rwa [pow_succ] at h
      have hbyte : (UInt8.ofNat (n % 256)).toNat = n % 256 := by
        rw [UInt8.toNat_ofNat']
        omega
      rw [leBytes, leNat, ih hdiv, hbyte]
      omega

/-- A byte string is the spelling of its number in its own width. -/
theorem leBytes_leNat (b : Bytes) : leBytes b.length (leNat b) = b := by
  induction b with
  | nil => rfl
  | cons x b ih =>
      have hx : x.toNat < 256 := x.toNat_lt
      have hmod : (x.toNat + 256 * leNat b) % 256 = x.toNat := by omega
      have hdiv : (x.toNat + 256 * leNat b) / 256 = leNat b := by omega
      rw [List.length_cons, leNat, leBytes, hmod, hdiv, ih, UInt8.ofNat_toNat]

/-- A byte string spells a number that fits its width. -/
theorem leNat_lt (b : Bytes) : leNat b < 256 ^ b.length := by
  induction b with
  | nil => exact Nat.one_pos
  | cons x b ih =>
      have hx := x.toNat_lt
      rw [leNat, List.length_cons, pow_succ]
      omega

/-- Byte strings of one length are told apart by their numbers. -/
theorem leNat_injective {a b : Bytes} (hlen : a.length = b.length)
    (h : leNat a = leNat b) : a = b := by
  have ha := leBytes_leNat a
  rw [hlen, h, leBytes_leNat b] at ha
  exact ha.symm

/-- The number a big-endian byte string spells. -/
def beNat (b : Bytes) : ℕ := leNat b.reverse

/-- The `w` low bytes of `n`, most significant first. -/
def beBytes (w n : ℕ) : Bytes := (leBytes w n).reverse

@[simp] theorem beBytes_length (w n : ℕ) : (beBytes w n).length = w := by
  rw [beBytes, List.length_reverse, leBytes_length]

/-- A big-endian number that fits its width reads back. -/
theorem beNat_beBytes {w n : ℕ} (h : n < 256 ^ w) : beNat (beBytes w n) = n := by
  rw [beNat, beBytes, List.reverse_reverse, leNat_leBytes h]

theorem beBytes_beNat (b : Bytes) : beBytes b.length (beNat b) = b := by
  have h := leBytes_leNat b.reverse
  rw [List.length_reverse] at h
  rw [beBytes, beNat, h, List.reverse_reverse]

theorem beNat_lt (b : Bytes) : beNat b < 256 ^ b.length := by
  rw [← List.length_reverse]
  exact leNat_lt b.reverse

/-! ## Text -/

/-- The UTF-8 bytes of a text. -/
def encodeUtf8 (s : String) : Bytes := s.toByteArray.data.toList

/-- The text a byte string spells, when it is valid UTF-8. -/
def decodeUtf8 (b : Bytes) : Option String := String.fromUTF8? ⟨b.toArray⟩

/-- Every text reads back from its bytes. -/
@[simp] theorem decodeUtf8_encodeUtf8 (s : String) :
    decodeUtf8 (encodeUtf8 s) = some s := by
  unfold decodeUtf8 encodeUtf8 String.fromUTF8?
  rw [dif_pos s.isValidUTF8]
  rfl

/-- A decoded text has exactly the bytes it was decoded from. -/
theorem encodeUtf8_of_decodeUtf8 {b : Bytes} {s : String}
    (h : decodeUtf8 b = some s) : encodeUtf8 s = b := by
  unfold decodeUtf8 String.fromUTF8? at h
  split at h
  · rw [← Option.some.inj h]
    rfl
  · exact nomatch h

theorem encodeUtf8_injective {s t : String} (h : encodeUtf8 s = encodeUtf8 t) :
    s = t := by
  have hs := decodeUtf8_encodeUtf8 s
  rw [h, decodeUtf8_encodeUtf8] at hs
  exact (Option.some.inj hs).symm

/-! ## Hexadecimal -/

/-- The lower-case hexadecimal digit of a nibble. -/
def hexDigit (n : ℕ) : Char :=
  if n < 10 then Char.ofNat (48 + n) else Char.ofNat (87 + n)

/-- The lower-case hexadecimal spelling of a byte string. -/
def hex (b : Bytes) : String :=
  String.ofList (b.flatMap fun x => [hexDigit (x.toNat / 16), hexDigit (x.toNat % 16)])

/-- The value of a hexadecimal digit of either case. -/
def hexValue (c : Char) : Option ℕ :=
  if '0' ≤ c ∧ c ≤ '9' then some (c.toNat - 48)
  else if 'a' ≤ c ∧ c ≤ 'f' then some (c.toNat - 87)
  else if 'A' ≤ c ∧ c ≤ 'F' then some (c.toNat - 55)
  else none

/-- ASCII whitespace, which may stand between two hexadecimal bytes. -/
def isHexSpace (c : Char) : Bool :=
  c == ' ' || ('\t' ≤ c && c ≤ '\r')

/-- The bytes a run of hexadecimal pairs spells; whitespace may separate pairs. -/
def fromHexChars : List Char → Option Bytes
  | [] => some []
  | [c] => if isHexSpace c then some [] else none
  | c :: d :: rest =>
      if isHexSpace c then fromHexChars (d :: rest)
      else
        match hexValue c, hexValue d with
        | some hi, some lo => (fromHexChars rest).map (UInt8.ofNat (16 * hi + lo) :: ·)
        | _, _ => none

/-- `bytes.fromhex`. -/
def fromHex (s : String) : Option Bytes := fromHexChars s.toList

/-! ## Readers

    A reader takes the whole input and an offset and returns a value with the
    offset it stopped at.  Slices past the end of the input are short, as a
    slice is in the languages these readers are translated from; a reader that
    must notice has to compare offsets. -/

variable {ε α β : Type}

/-- A fallible read at an offset. -/
def Reader (ε α : Type) := Bytes → ℕ → Except ε (α × ℕ)

namespace Reader

/-- Read nothing. -/
def pure (a : α) : Reader ε α := fun _ i => .ok (a, i)

/-- Refuse. -/
def throw (e : ε) : Reader ε α := fun _ _ => .error e

/-- Read, then read on from where the first read stopped. -/
def bind (rd : Reader ε α) (f : α → Reader ε β) : Reader ε β :=
  fun data i =>
    match rd data i with
    | .error e => .error e
    | .ok (a, j) => f a data j

instance : Monad (Reader ε) where
  pure := Reader.pure
  bind := Reader.bind

end Reader

/-- `data[i : i + n]`. -/
def slice (data : Bytes) (i n : ℕ) : Bytes := (data.drop i).take n

/-- The byte at `i`, as a number; for an offset inside `data`. -/
def byteAt (data : Bytes) (i : ℕ) : ℕ := leNat (slice data i 1)

theorem slice_length {data : Bytes} {i n : ℕ} (h : i + n ≤ data.length) :
    (slice data i n).length = n := by
  rw [slice, List.length_take, List.length_drop]
  omega

/-- A slice is a shorter slice and what is left of it. -/
theorem slice_add (data : Bytes) (i m n : ℕ) :
    slice data i (m + n) = slice data i m ++ slice data (i + m) n := by
  rw [slice, List.take_add, List.drop_drop]
  rfl

theorem slice_zero {data : Bytes} {n : ℕ} (h : data.length = n) :
    slice data 0 n = data := by
  rw [slice, List.drop_zero, ← h, List.take_length]

/-- The number in a slice determines the slice. -/
theorem slice_eq_of_leNat {a b : Bytes} {i n : ℕ} (ha : i + n ≤ a.length)
    (hb : i + n ≤ b.length) (h : leNat (slice a i n) = leNat (slice b i n)) :
    slice a i n = slice b i n :=
  leNat_injective (by rw [slice_length ha, slice_length hb]) h

/-- The slice of `n` bytes at the cursor. -/
def readSlice (n : ℕ) : Reader ε Bytes := fun data i => .ok (slice data i n, i + n)

/-- The little-endian number in the `w` bytes at the cursor. -/
def readLE (w : ℕ) : Reader ε ℕ := fun data i => .ok (leNat (slice data i w), i + w)

/-- `rd`, `n` times over. -/
def readMany (rd : Reader ε α) : ℕ → Reader ε (List α)
  | 0 => Reader.pure []
  | n + 1 => rd.bind fun a => (readMany rd n).bind fun as => Reader.pure (a :: as)

/-- Wherever `bs` stands in an input, `rd` returns `a` and stops after it. -/
def Reads (rd : Reader ε α) (bs : Bytes) (a : α) : Prop :=
  ∀ pre post : Bytes,
    rd (pre ++ (bs ++ post)) pre.length = .ok (a, (pre ++ bs).length)

/-- The slice at the start of what follows a prefix. -/
theorem slice_append (pre bs post : Bytes) :
    slice (pre ++ (bs ++ post)) pre.length bs.length = bs := by
  rw [slice]
  rw [List.drop_left, List.take_left]

theorem reads_pure (a : α) : Reads (Reader.pure a : Reader ε α) [] a := by
  intro pre post
  rw [List.append_nil]
  rfl

theorem reads_slice (bs : Bytes) : Reads (readSlice bs.length : Reader ε Bytes) bs bs := by
  intro pre post
  rw [readSlice]
  rw [slice_append, List.length_append]

/-- A fixed-width integer that fits is read back. -/
theorem reads_LE {w n : ℕ} (h : n < 256 ^ w) :
    Reads (readLE w : Reader ε ℕ) (leBytes w n) n := by
  intro pre post
  have hs := slice_append pre (leBytes w n) post
  rw [leBytes_length] at hs
  rw [readLE]
  rw [hs, leNat_leBytes h, List.length_append, leBytes_length]

/-- **Readers compose**: the bytes of a sequence are the bytes of its parts. -/
theorem Reads.bind {rd : Reader ε α} {f : α → Reader ε β} {bs cs : Bytes}
    {a : α} {b : β} (h₁ : Reads rd bs a) (h₂ : Reads (f a) cs b) :
    Reads (rd.bind f) (bs ++ cs) b := by
  intro pre post
  have first := h₁ pre (cs ++ post)
  have second := h₂ (pre ++ bs) post
  rw [Reader.bind]
  rw [List.append_assoc bs cs post, first]
  show f a (pre ++ (bs ++ (cs ++ post))) (pre ++ bs).length = _
  rw [← List.append_assoc pre bs, second, List.append_assoc]

/-- A reader followed by a step that reads nothing. -/
theorem Reads.map {rd : Reader ε α} {bs : Bytes} {a : α} (h : Reads rd bs a) (f : α → β) :
    Reads (rd.bind fun a => Reader.pure (f a)) bs (f a) := by
  have hpure := h.bind (f := fun a => Reader.pure (f a)) (reads_pure (f a))
  rwa [List.append_nil] at hpure

/-- Reading as many items as were written returns the items. -/
theorem reads_many {rd : Reader ε α} {as : List α} {bss : List Bytes}
    (h : List.Forall₂ (fun a bs => Reads rd bs a) as bss) :
    Reads (readMany rd as.length) bss.flatten as := by
  induction h with
  | nil => exact reads_pure []
  | @cons a bs as bss ha _ ih =>
      rw [List.flatten_cons]
      exact ha.bind (ih.map fun as => a :: as)

/-- What a reader reads marks its own end: two encodings that start the same
    input are the same. -/
theorem Reads.append_inj {rd : Reader ε α} {bs cs r s : Bytes} {a c : α}
    (hb : Reads rd bs a) (hc : Reads rd cs c) (h : bs ++ r = cs ++ s) :
    a = c ∧ bs = cs ∧ r = s := by
  have hfirst := hb [] r
  rw [h, hc [] s] at hfirst
  have hpair := Except.ok.inj hfirst
  have hlen : cs.length = bs.length := congrArg Prod.snd hpair
  obtain ⟨hbytes, hrest⟩ := List.append_inj h hlen.symm
  exact ⟨(congrArg Prod.fst hpair).symm, hbytes, hrest⟩

/-- **A concatenation is uniquely decodable** when one reader reads every piece
    and no piece is empty: it needs no count. -/
theorem reads_flatten_injective {rd : Reader ε α} {as cs : List α}
    {bss dss : List Bytes} (ha : List.Forall₂ (fun a bs => Reads rd bs a ∧ bs ≠ []) as bss)
    (hc : List.Forall₂ (fun c ds => Reads rd ds c ∧ ds ≠ []) cs dss)
    (h : bss.flatten = dss.flatten) : as = cs := by
  induction ha generalizing cs dss with
  | nil =>
      cases hc with
      | nil => rfl
      | cons hd _ =>
          rw [List.flatten_cons, List.flatten_nil] at h
          exact absurd (List.append_eq_nil_iff.mp h.symm).1 hd.2
  | cons hb _ ih =>
      cases hc with
      | nil =>
          rw [List.flatten_cons, List.flatten_nil] at h
          exact absurd (List.append_eq_nil_iff.mp h).1 hb.2
      | cons hd hds =>
          rw [List.flatten_cons, List.flatten_cons] at h
          obtain ⟨hhead, -, hrest⟩ := hb.1.append_inj hd.1 h
          rw [hhead, ih hds hrest]

/-- A reader that got through a part of the input reads the whole of it. -/
theorem Reads.whole {rd : Reader ε α} {bs : Bytes} {a : α} (h : Reads rd bs a) :
    rd bs 0 = .ok (a, bs.length) := by
  have hread := h [] []
  rwa [List.append_nil] at hread

end ByteString
