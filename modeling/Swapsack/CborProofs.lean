import Mathlib.Algebra.BigOperators.Group.List.Basic
import Mathlib.Data.Nat.Log
import Swapsack.ByteStringProofs

/-! # CBOR — data items, their bytes in shortest form, and their sizes

    A data item is written as a head, which carries a number in the fewest bytes
    that hold it, followed by its content.  The size of an item can be computed
    without writing it, and only the sizes of its numbers and lengths can vary.

    * `encode_length` — an item takes as many bytes as its size says;
    * `natSize_mono` — a larger number takes no fewer bytes;
    * `natSize_pow_le` — a power of 256 takes few bytes more than its exponent;
    * `sizes_perm` — the order of a list does not change its size. -/

namespace Cbor

open ByteString

/-- A CBOR data item. -/
inductive Value where
  | int (i : ℤ)
  | bytes (b : Bytes)
  | text (s : String)
  | list (items : List Value)
  | map (entries : List (Value × Value))
  | tag (n : ℕ) (content : Value)
  | bool (b : Bool)
  | null

/-! ## Heads and integers -/

/-- The bytes of a head that carries `n`. -/
def headSize (n : ℕ) : ℕ :=
  if n < 24 then 1
  else if n < 2 ^ 8 then 2
  else if n < 2 ^ 16 then 3
  else if n < 2 ^ 32 then 5
  else 9

/-- The head of an item: its major type and a number, in the fewest bytes. -/
def head (major n : ℕ) : Bytes :=
  if n < 24 then [UInt8.ofNat (32 * major + n)]
  else if n < 2 ^ 8 then UInt8.ofNat (32 * major + 24) :: beBytes 1 n
  else if n < 2 ^ 16 then UInt8.ofNat (32 * major + 25) :: beBytes 2 n
  else if n < 2 ^ 32 then UInt8.ofNat (32 * major + 26) :: beBytes 4 n
  else UInt8.ofNat (32 * major + 27) :: beBytes 8 n

/-- How many bytes a number fills. -/
def byteLength (n : ℕ) : ℕ := Nat.log 256 n + 1

/-- The size of a number: past 64 bits it is a tagged byte string. -/
def natSize (n : ℕ) : ℕ :=
  if n < 2 ^ 64 then headSize n
  else 1 + (headSize (byteLength n) + byteLength n)

/-- A number under a major type: past 64 bits it is a tagged byte string. -/
def natBytes (major n : ℕ) : Bytes :=
  if n < 2 ^ 64 then head major n
  else head 6 (major + 2) ++ (head 2 (byteLength n) ++ beBytes (byteLength n) n)

/-- A negative integer `i` is written as the number `-1 - i`. -/
def intSize (i : ℤ) : ℕ := natSize (if 0 ≤ i then i.toNat else (-1 - i).toNat)

/-- An integer; a negative one counts down from -1. -/
def intBytes (i : ℤ) : Bytes :=
  if 0 ≤ i then natBytes 0 i.toNat else natBytes 1 (-1 - i).toNat

/-- The bytes of a head. -/
theorem head_length (major n : ℕ) : (head major n).length = headSize n := by
  rw [head, headSize]
  split_ifs <;> simp

/-- Those of a natural number, a bignum among them. -/
theorem natBytes_length {major : ℕ} (hmajor : major < 22) (n : ℕ) :
    (natBytes major n).length = natSize n := by
  rw [natBytes, natSize]
  by_cases h : n < 2 ^ 64
  · rw [if_pos h, if_pos h, head_length]
  · rw [if_neg h, if_neg h, List.length_append, List.length_append, head_length,
      head_length, beBytes_length]
    have htag : headSize (major + 2) = 1 := if_pos (by omega)
    rw [htag]

/-- And those of an integer. -/
theorem intBytes_length (i : ℤ) : (intBytes i).length = intSize i := by
  rw [intBytes, intSize]
  by_cases h : 0 ≤ i
  · rw [if_pos h, if_pos h, natBytes_length (by decide)]
  · rw [if_neg h, if_neg h, natBytes_length (by decide)]

/-- A head takes one byte at least, -/
theorem one_le_headSize (n : ℕ) : 1 ≤ headSize n := by
  rw [headSize]
  split_ifs <;> omega

/-- nine at most, -/
theorem headSize_le (n : ℕ) : headSize n ≤ 9 := by
  rw [headSize]
  split_ifs <;> omega

/-- and no fewer for a larger number. -/
theorem headSize_mono : Monotone headSize := by
  intro m n hmn
  rw [headSize, headSize]
  split_ifs <;> omega

/-- **A larger number takes no fewer bytes.** -/
theorem natSize_mono : Monotone natSize := by
  intro m n hmn
  rw [natSize, natSize]
  by_cases hn : n < 2 ^ 64
  · rw [if_pos hn, if_pos (by omega)]
    exact headSize_mono hmn
  · rw [if_neg hn]
    have hlog : Nat.log 256 m ≤ Nat.log 256 n := Nat.log_mono_right hmn
    by_cases hm : m < 2 ^ 64
    · -- the shortest byte string of a large number is longer than any head
      rw [if_pos hm]
      have hsmall := headSize_le m
      have hone := one_le_headSize (byteLength n)
      have hlarge : Nat.log 256 (2 ^ 64) ≤ Nat.log 256 n :=
        Nat.log_mono_right (not_lt.mp hn)
      have height : Nat.log 256 (2 ^ 64) = 8 := by
        rw [show (2 : ℕ) ^ 64 = 256 ^ 8 by norm_num, Nat.log_pow (by decide)]
      rw [byteLength]
      omega
    · rw [if_neg hm]
      have hheads := headSize_mono (show byteLength m ≤ byteLength n by
        rw [byteLength, byteLength]; omega)
      rw [byteLength, byteLength] at *
      omega

/-- A power of 256 takes few bytes more than its exponent. -/
theorem natSize_pow_le (k : ℕ) : natSize (256 ^ k) ≤ k + 11 := by
  rw [natSize]
  by_cases h : 256 ^ k < 2 ^ 64
  · rw [if_pos h]
    exact (headSize_le _).trans (by omega)
  · rw [if_neg h, byteLength, Nat.log_pow (by decide)]
    have hhead := headSize_le (k + 1)
    omega

/-- A natural number is no longer as an integer. -/
@[simp] theorem intSize_natCast (n : ℕ) : intSize (n : ℤ) = natSize n := by
  rw [intSize, if_pos (Int.natCast_nonneg n), Int.toNat_natCast]

/-- Of two non-negative integers, the larger takes no fewer bytes. -/
theorem intSize_mono {i j : ℤ} (hi : 0 ≤ i) (hij : i ≤ j) : intSize i ≤ intSize j := by
  lift i to ℕ using hi
  lift j to ℕ using (by omega)
  rw [intSize_natCast, intSize_natCast]
  exact natSize_mono (by omega)

/-- An integer takes one byte at least. -/
theorem one_le_intSize (i : ℤ) : 1 ≤ intSize i := by
  rw [intSize, natSize]
  split_ifs
  all_goals first | exact one_le_headSize _ | omega

/-! ## Items -/

mutual
/-- The bytes of an item, in shortest form. -/
def Value.encode : Value → Bytes
  | .int i => intBytes i
  | .bytes b => head 2 b.length ++ b
  | .text s => head 3 (encodeUtf8 s).length ++ encodeUtf8 s
  | .list items => head 4 items.length ++ encodeItems items
  | .map entries => head 5 entries.length ++ encodeEntries entries
  | .tag n content => head 6 n ++ content.encode
  | .bool b => [if b then 0xf5 else 0xf4]
  | .null => [0xf6]

/-- Items, one after the other. -/
def encodeItems : List Value → Bytes
  | [] => []
  | v :: items => v.encode ++ encodeItems items

/-- Entries, each key before its value. -/
def encodeEntries : List (Value × Value) → Bytes
  | [] => []
  | (k, v) :: entries => k.encode ++ (v.encode ++ encodeEntries entries)
end

mutual
/-- The bytes an item takes in shortest form. -/
def Value.size : Value → ℕ
  | .int i => intSize i
  | .bytes b => headSize b.length + b.length
  | .text s => headSize (encodeUtf8 s).length + (encodeUtf8 s).length
  | .list items => headSize items.length + sizes items
  | .map entries => headSize entries.length + entrySizes entries
  | .tag n content => headSize n + content.size
  | .bool _ => 1
  | .null => 1

/-- The bytes of some items. -/
def sizes : List Value → ℕ
  | [] => 0
  | v :: items => v.size + sizes items

/-- The bytes of some entries. -/
def entrySizes : List (Value × Value) → ℕ
  | [] => 0
  | (k, v) :: entries => k.size + (v.size + entrySizes entries)
end

mutual
/-- **An item takes as many bytes as its size says.** -/
theorem encode_length (v : Value) : v.encode.length = v.size := by
  cases v with
  | int i => rw [Value.encode, Value.size, intBytes_length]
  | bytes b => rw [Value.encode, Value.size, List.length_append, head_length]
  | text s => rw [Value.encode, Value.size, List.length_append, head_length]
  | list items =>
      rw [Value.encode, Value.size, List.length_append, head_length,
        encodeItems_length items]
  | map entries =>
      rw [Value.encode, Value.size, List.length_append, head_length,
        encodeEntries_length entries]
  | tag n content =>
      rw [Value.encode, Value.size, List.length_append, head_length,
        encode_length content]
  | bool b => rfl
  | null => rfl

/-- The size of items is the length of their encoding. -/
theorem encodeItems_length (items : List Value) :
    (encodeItems items).length = sizes items := by
  cases items with
  | nil => rfl
  | cons v items =>
      rw [encodeItems, sizes, List.length_append, encode_length v,
        encodeItems_length items]

/-- And so is that of entries. -/
theorem encodeEntries_length (entries : List (Value × Value)) :
    (encodeEntries entries).length = entrySizes entries := by
  cases entries with
  | nil => rfl
  | cons e entries =>
      obtain ⟨k, v⟩ := e
      rw [encodeEntries, entrySizes, List.length_append, List.length_append,
        encode_length k, encode_length v, encodeEntries_length entries]
end

/-- It is the sum of the items' own. -/
theorem sizes_eq_sum (items : List Value) : sizes items = (items.map Value.size).sum := by
  induction items with
  | nil => rfl
  | cons v items ih => rw [sizes, ih, List.map_cons, List.sum_cons]

/-- Entries of two lists take what each of them takes. -/
theorem entrySizes_append (entries more : List (Value × Value)) :
    entrySizes (entries ++ more) = entrySizes entries + entrySizes more := by
  induction entries with
  | nil => rw [List.nil_append, entrySizes, Nat.zero_add]
  | cons e entries ih =>
      obtain ⟨k, v⟩ := e
      rw [List.cons_append, entrySizes, entrySizes, ih]
      omega

/-- The order of the items of a list does not change its size. -/
theorem sizes_perm {items items' : List Value} (h : items.Perm items') :
    sizes items = sizes items' := by
  rw [sizes_eq_sum, sizes_eq_sum]
  exact (h.map _).sum_eq

/-! ## Reading -/

section Read

variable {ε : Type} (bad : ε)

/-- The next `n` bytes, all of them inside the input. -/
def readBytes (n : ℕ) : Reader ε Bytes := fun data i =>
  if i + n ≤ data.length then .ok (slice data i n, i + n) else .error bad

/-- A big-endian number of `w` bytes. -/
def readNat (w : ℕ) : Reader ε ℕ :=
  (readBytes bad w).bind fun b => Reader.pure (beNat b)

/-- The number a head carries, from the low bits of its first byte. -/
def readArgument (info : ℕ) : Reader ε ℕ :=
  if info < 24 then Reader.pure info
  else if info = 24 then readNat bad 1
  else if info = 25 then readNat bad 2
  else if info = 26 then readNat bad 4
  else if info = 27 then readNat bad 8
  else Reader.throw bad

/-- A major type and the number of its head. -/
def readHead : Reader ε (ℕ × ℕ) :=
  (readNat bad 1).bind fun first =>
    (readArgument bad (first % 32)).bind fun n => Reader.pure (first / 32, n)

/-- A tagged item; the tags of large numbers are read as the numbers. -/
def tagged (n : ℕ) (content : Value) : Value :=
  match n, content with
  | 2, .bytes b => .int (beNat b)
  | 3, .bytes b => .int (-1 - beNat b)
  | n, content => .tag n content

/-- An item of at most the given depth. -/
def readItem : ℕ → Reader ε Value
  | 0 => Reader.throw bad
  | depth + 1 =>
      (readHead bad).bind fun (major, n) =>
        match major with
        | 0 => Reader.pure (.int n)
        | 1 => Reader.pure (.int (-1 - n))
        | 2 => (readBytes bad n).bind fun b => Reader.pure (.bytes b)
        | 3 =>
            (readBytes bad n).bind fun b =>
              match decodeUtf8 b with
              | none => Reader.throw bad
              | some s => Reader.pure (.text s)
        | 4 => (readMany (readItem depth) n).bind fun items => Reader.pure (.list items)
        | 5 =>
            (readMany ((readItem depth).bind fun k =>
                (readItem depth).bind fun v => Reader.pure (k, v)) n).bind fun entries =>
              Reader.pure (.map entries)
        | 6 => (readItem depth).bind fun content => Reader.pure (tagged n content)
        | _ =>
            if n = 20 then Reader.pure (.bool false)
            else if n = 21 then Reader.pure (.bool true)
            else if n = 22 then Reader.pure .null
            else Reader.throw bad

end Read

end Cbor
