import Swapsack.ZcashAddressProofs

/-! # The text of a Tron address

    The encoder divides the number of the payload and its checksum down to
    nothing, and counts the zero bytes in front on their own.

    * `base58checkEncode_text` — the two parts are one base-58 text;
    * `base58checkDecode_encode` — which the reference decoding reads back. -/

namespace SwapsackTron

open ByteString SwapsackBech32 SwapsackZcashAddress

/-! ## The encoder -/

/-- What a SHA-256 gives. -/
abbrev Digest := { b : Bytes // b.length = 32 }

def b58Alphabet : List Char :=
  "123456789ABCDEFGHJKLMNPQRSTUVWXYZabcdefghijkmnopqrstuvwxyz".toList

/-- The loop over the number: the digit of each remainder goes in front. -/
def digitLoop (n : ℕ) (out : List Char) : List Char :=
  if n = 0 then out else digitLoop (n / 58) (b58Alphabet.getD (n % 58) '1' :: out)
termination_by n
decreasing_by exact Nat.div_lt_self (by omega) (by decide)

variable (sha256 : Bytes → Digest)

/-- The first four bytes of the hash of the hash. -/
def checksum (payload : Bytes) : Bytes := ((sha256 (sha256 payload).val).val).take 4

def base58checkEncode (payload : Bytes) : String :=
  let data := payload ++ checksum sha256 payload
  let out := digitLoop (beNat data) []
  let pad := data.length - (data.dropWhile (· == 0)).length
  String.ofList (List.replicate pad '1' ++ out)

/-! ## The reference decoding -/

/-- A zero byte for each one in front, then the bytes of the number that the other
    digits spell. -/
def base58Decode (text : List Char) : Option Bytes := do
  let digits ← text.mapM fun c => b58Alphabet.idxOf? c
  let ones := (text.takeWhile (· == '1')).length
  let number := Radix.value 58 (digits.drop ones)
  some (List.replicate ones 0 ++ (Radix.digits 256 number).map UInt8.ofNat)

/-- The payload of a text, the last four bytes of which are the checksum of the
    rest. -/
def base58checkDecode (address : String) : Option Bytes := do
  let data ← base58Decode address.toList
  let payload := data.take (data.length - 4)
  if 4 ≤ data.length ∧ data.drop (data.length - 4) = checksum sha256 payload then some payload
  else none

/-! ## The loop -/

theorem b58Alphabet_eq : b58Alphabet = base58Alphabet := rfl

/-- The loop writes the digits, the highest first. -/
theorem digitLoop_digits (n : ℕ) : ∀ out : List Char,
    digitLoop n out = (Radix.digits 58 n).map (fun d => b58Alphabet.getD d '1') ++ out := by
  induction n using Nat.strong_induction_on with
  | _ n ih =>
      intro out
      rw [digitLoop]
      by_cases hzero : n = 0
      · rw [if_pos hzero, hzero, Radix.digits, Nat.digits_zero]
        rfl
      · have hlt : n / 58 < n := Nat.div_lt_self (Nat.pos_of_ne_zero hzero) (by decide)
        have hdigits : Radix.digits 58 n = Radix.digits 58 (n / 58) ++ [n % 58] := by
          rw [Radix.digits, Nat.digits_def' (by decide) (Nat.pos_of_ne_zero hzero),
            List.reverse_cons]
          rfl
        rw [if_neg hzero, ih (n / 58) hlt, hdigits, List.map_append, List.map_singleton,
          List.append_assoc, List.singleton_append]

/-- A byte string's number is the value of its bytes. -/
theorem beNat_value (b : Bytes) : beNat b = Radix.value 256 (b.map UInt8.toNat) := by
  have hle : ∀ l : Bytes, leNat l = Nat.ofDigits 256 (l.map UInt8.toNat) := by
    intro l
    induction l with
    | nil => rfl
    | cons x l ih =>
        rw [leNat, ih, List.map_cons, Nat.ofDigits_cons]
  rw [beNat, hle, Radix.value, List.map_reverse]

/-- What `lstrip` takes off is the zero bytes in front. -/
theorem stripped_zeros (b : Bytes) :
    b.length - (b.dropWhile (· == 0)).length = Radix.zeros (b.map UInt8.toNat) := by
  induction b with
  | nil => rfl
  | cons x b ih =>
      have hle : (b.dropWhile (· == 0)).length ≤ b.length := (List.dropWhile_sublist _).length_le
      by_cases hx : x = 0
      · rw [hx, List.dropWhile_cons_of_pos rfl, List.length_cons, List.map_cons]
        show _ = Radix.zeros (b.map UInt8.toNat) + 1
        omega
      · have hne : x.toNat ≠ 0 := fun h => hx (UInt8.toNat_inj.mp h)
        rw [List.dropWhile_cons_of_neg (by simpa using hx), Nat.sub_self, List.map_cons]
        cases hn : x.toNat with
        | zero => exact absurd hn hne
        | succ n => rfl

/-- **The two parts are one text**: the ones for the zero bytes, then the digits. -/
theorem encoded_text (data : Bytes) :
    String.ofList (List.replicate (data.length - (data.dropWhile (· == 0)).length) '1'
      ++ digitLoop (beNat data) []) = base58Text data := by
  rw [digitLoop_digits, stripped_zeros, beNat_value, List.append_nil, base58Text, Radix.respell,
    List.map_append, List.map_replicate, b58Alphabet_eq]
  rfl

theorem base58checkEncode_text (payload : Bytes) :
    base58checkEncode sha256 payload = base58Text (payload ++ checksum sha256 payload) :=
  encoded_text (payload ++ checksum sha256 payload)

/-! ## Reading back -/

/-- The digit of a one is zero, and no other. -/
theorem b58Alphabet_one : ∀ d < 58, (b58Alphabet.getD d '1' == '1') = (d == 0) := by
  decide +kernel

/-- The ones in front are the zeros of the digits. -/
theorem ones_zeros {ds : List ℕ} (h : ∀ d ∈ ds, d < 58) :
    ((ds.map fun d => b58Alphabet.getD d '1').takeWhile (· == '1')).length = Radix.zeros ds := by
  rw [Radix.zeros_eq_takeWhile]
  induction ds with
  | nil => rfl
  | cons d ds ih =>
      obtain ⟨hd, hds⟩ := List.forall_mem_cons.mp h
      rw [List.map_cons, List.takeWhile_cons, List.takeWhile_cons, b58Alphabet_one d hd]
      cases hzero : d == 0 with
      | false => rfl
      | true => exact congrArg Nat.succ (ih hds)

/-- **A base-58 text is the bytes it was made of.** -/
theorem base58Decode_text (b : Bytes) : base58Decode (base58Text b).toList = some b := by
  have hdigits : ∀ d ∈ Radix.respell 256 58 (b.map UInt8.toNat), d < 58 :=
    Radix.respell_lt (by decide)
  have htext : (base58Text b).toList = (Radix.respell 256 58 (b.map UInt8.toNat)).map
      (fun d => b58Alphabet.getD d '1') := by
    rw [base58Text, String.toList_ofList, b58Alphabet_eq]
  have hread : ((Radix.respell 256 58 (b.map UInt8.toNat)).map
        fun d => b58Alphabet.getD d '1').mapM (fun c => b58Alphabet.idxOf? c)
      = some (Radix.respell 256 58 (b.map UInt8.toNat)) :=
    mapM_base58 hdigits
  have hback : List.replicate (Radix.zeros (Radix.respell 256 58 (b.map UInt8.toNat))) 0
        ++ Radix.digits 256 (Radix.value 58 (Radix.respell 256 58 (b.map UInt8.toNat)))
      = b.map UInt8.toNat :=
    Radix.respell_respell (by decide) SwapsackZcashAddress.toNat_lt
  rw [base58Decode, htext, hread, Option.bind_eq_bind, Option.bind_some, ones_zeros hdigits]
  dsimp only
  rw [Radix.value_drop_zeros]
  refine congrArg some ?_
  calc List.replicate (Radix.zeros (Radix.respell 256 58 (b.map UInt8.toNat))) 0
        ++ (Radix.digits 256
          (Radix.value 58 (Radix.respell 256 58 (b.map UInt8.toNat)))).map UInt8.ofNat
      = (List.replicate (Radix.zeros (Radix.respell 256 58 (b.map UInt8.toNat))) 0
          ++ Radix.digits 256
            (Radix.value 58 (Radix.respell 256 58 (b.map UInt8.toNat)))).map UInt8.ofNat := by
        rw [List.map_append, List.map_replicate]
        rfl
    _ = b := by rw [hback, bytes_toNat]

theorem checksum_length (payload : Bytes) : (checksum sha256 payload).length = 4 := by
  rw [checksum, List.length_take, (sha256 (sha256 payload).val).property]
  rfl

/-- **The reference decoding reads the encoder's text back**, so no two payloads
    have one text. -/
theorem base58checkDecode_encode :
    (∀ payload, base58checkDecode sha256 (base58checkEncode sha256 payload) = some payload)
    ∧ Function.Injective (base58checkEncode sha256) := by
  have hback : ∀ payload,
      base58checkDecode sha256 (base58checkEncode sha256 payload) = some payload := by
    intro payload
    have hlen : (payload ++ checksum sha256 payload).length - 4 = payload.length := by
      rw [List.length_append, checksum_length, Nat.add_sub_cancel]
    rw [base58checkDecode, base58checkEncode_text, base58Decode_text, Option.bind_eq_bind,
      Option.bind_some]
    dsimp only
    rw [hlen, List.take_left' rfl, List.drop_left' rfl, List.length_append, checksum_length,
      if_pos ⟨Nat.le_add_left 4 _, rfl⟩]
  refine ⟨hback, ?_⟩
  intro a b h
  have ha := hback a
  rw [h, hback b] at ha
  exact (Option.some.inj ha).symm

end SwapsackTron
