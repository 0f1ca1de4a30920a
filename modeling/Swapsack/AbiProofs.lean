import Swapsack.ByteStringProofs

/-! # Contract call arguments

    A call's arguments are laid out as a head of 32-byte words, one for each
    argument, and a tail.  A static argument is its word; a dynamic one leaves
    in the head the offset of its bytes, which stand in the tail with their
    length in front and zeros behind.  The encoder writes one form: the tails
    in order, without gaps, and nothing after them.

    * `encodeArgs` — that form;
    * `wordAt_words` and `words_wordAt` — a head is read back word by word, and
      what was read is the head;
    * `slice_tail` — where a tail stands, its parts are found. -/

namespace Abi

open ByteString

/-- An argument: one word, or a byte string of any length. -/
inductive Arg where
  | word (n : ℕ)
  | bytes (data : Bytes)

/-- How many zeros bring `n` bytes up to whole words. -/
def padding (n : ℕ) : ℕ := (32 - n % 32) % 32

/-- A dynamic argument as it stands in the tail. -/
def tail (data : Bytes) : Bytes :=
  beBytes 32 data.length ++ (data ++ List.replicate (padding data.length) 0)

/-- How long the tail of `n` bytes is. -/
def tailLength (n : ℕ) : ℕ := 32 + n + padding n

/-- A block of words. -/
def words (ns : List ℕ) : Bytes := ns.flatMap (beBytes 32)

/-- The words of the head, when the first tail starts at `offset`. -/
def headWords : ℕ → List Arg → List ℕ
  | _, [] => []
  | offset, .word n :: args => n :: headWords offset args
  | offset, .bytes data :: args => offset :: headWords (offset + tailLength data.length) args

/-- The tails, in the order of the arguments. -/
def tails : List Arg → Bytes
  | [] => []
  | .word _ :: args => tails args
  | .bytes data :: args => tail data ++ tails args

/-- **The encoding** of an argument list. -/
def encodeArgs (args : List Arg) : Bytes :=
  words (headWords (32 * args.length) args) ++ tails args

/-- Every word that is written fits: the values, the offsets and the lengths. -/
def Fits (args : List Arg) : Prop :=
  (∀ n ∈ headWords (32 * args.length) args, n < 256 ^ 32)
    ∧ ∀ data, Arg.bytes data ∈ args → data.length < 256 ^ 32

/-- The word at a position of a block. -/
def wordAt (raw : Bytes) (index : ℕ) : ℕ := beNat (slice raw (index * 32) 32)

/-! ## Lengths -/

theorem length_words (ns : List ℕ) : (words ns).length = 32 * ns.length := by
  induction ns with
  | nil => rfl
  | cons n ns ih =>
      show (beBytes 32 n ++ words ns).length = 32 * (ns.length + 1)
      rw [List.length_append, beBytes_length, ih]
      omega

theorem length_tail (data : Bytes) : (tail data).length = tailLength data.length := by
  rw [tail, List.length_append, List.length_append, beBytes_length, List.length_replicate,
    tailLength]
  omega

/-- A tail takes whole words. -/
theorem tailLength_mod (n : ℕ) : tailLength n % 32 = 0 := by
  rw [tailLength, padding]
  omega

/-! ## Reading back -/

/-- The words of a block are read back. -/
theorem wordAt_words {ns : List ℕ} {i n : ℕ} (rest : Bytes) (hi : ns[i]? = some n)
    (hn : n < 256 ^ 32) : wordAt (words ns ++ rest) i = n := by
  induction ns generalizing i with
  | nil => cases hi
  | cons m ns ih =>
      have hcons : words (m :: ns) ++ rest = beBytes 32 m ++ (words ns ++ rest) :=
        List.append_assoc (beBytes 32 m) (words ns) rest
      cases i with
      | zero =>
          obtain rfl : m = n := Option.some.inj hi
          have hs : slice (words (m :: ns) ++ rest) (0 * 32) 32 = beBytes 32 m := by
            rw [hcons, slice, Nat.zero_mul, List.drop_zero]
            exact List.take_left' (beBytes_length 32 m)
          rw [wordAt, hs, beNat_beBytes hn]
      | succ i =>
          have hs : slice (words (m :: ns) ++ rest) ((i + 1) * 32) 32
              = slice (words ns ++ rest) (i * 32) 32 := by
            have hlen : (i + 1) * 32 = (beBytes 32 m).length + i * 32 := by
              rw [beBytes_length]
              omega
            rw [hcons, slice, slice, hlen, List.drop_append, List.drop_of_length_le (by omega),
              Nat.add_sub_cancel_left, List.nil_append]
          rw [wordAt, hs]
          exact ih hi

/-- **What was read is what was there**: a block is the words read from it. -/
theorem words_wordAt {raw : Bytes} {k : ℕ} (h : 32 * k ≤ raw.length) :
    words ((List.range k).map (wordAt raw)) = raw.take (32 * k) := by
  induction k with
  | zero => rfl
  | succ k ih =>
      have hlen : (slice raw (k * 32) 32).length = 32 := slice_length (by omega)
      have hword : words [wordAt raw k] = slice raw (k * 32) 32 := by
        have hbytes := beBytes_beNat (slice raw (k * 32) 32)
        rw [hlen] at hbytes
        show beBytes 32 (beNat (slice raw (k * 32) 32)) ++ [] = _
        rw [List.append_nil, hbytes]
      have happend : ∀ ns ms : List ℕ, words (ns ++ ms) = words ns ++ words ms :=
        fun ns ms => List.flatMap_append
      rw [List.range_succ, List.map_append, List.map_singleton, happend, hword,
        ih (by omega), slice, Nat.mul_comm k 32, ← List.take_add]
      rfl

/-- A word that was read fits. -/
theorem wordAt_lt {raw : Bytes} {k : ℕ} : wordAt raw k < 256 ^ 32 := by
  refine lt_of_lt_of_le (beNat_lt _) (Nat.pow_le_pow_right (by decide) ?_)
  rw [slice]
  exact List.length_take_le 32 _

/-- The word at the start of a tail is the length, behind it stand the bytes,
    and behind these zeros. -/
theorem slice_tail (pre data post : Bytes) :
    slice (pre ++ (tail data ++ post)) pre.length 32 = beBytes 32 data.length
    ∧ slice (pre ++ (tail data ++ post)) (pre.length + 32) data.length = data
    ∧ slice (pre ++ (tail data ++ post)) (pre.length + 32 + data.length) (padding data.length)
      = List.replicate (padding data.length) 0 := by
  have hparts : pre ++ (tail data ++ post) = pre ++ (beBytes 32 data.length
      ++ (data ++ (List.replicate (padding data.length) 0 ++ post))) := by
    rw [tail, List.append_assoc, List.append_assoc]
  have hlength := slice_append pre (beBytes 32 data.length)
    (data ++ (List.replicate (padding data.length) 0 ++ post))
  have hdata := slice_append (pre ++ beBytes 32 data.length) data
    (List.replicate (padding data.length) 0 ++ post)
  have hzeros := slice_append (pre ++ beBytes 32 data.length ++ data)
    (List.replicate (padding data.length) 0) post
  rw [beBytes_length] at hlength
  rw [List.length_append, beBytes_length, List.append_assoc] at hdata
  rw [List.length_append, List.length_append, beBytes_length, List.length_replicate,
    List.append_assoc, List.append_assoc] at hzeros
  rw [hparts]
  exact ⟨hlength, hdata, hzeros⟩

/-- A length, that many bytes and the zeros behind them are a tail. -/
theorem tail_of_slices {raw data : Bytes} {offset : ℕ}
    (hlength : slice raw offset 32 = beBytes 32 data.length)
    (hdata : slice raw (offset + 32) data.length = data)
    (hzeros : slice raw (offset + 32 + data.length) (padding data.length)
      = List.replicate (padding data.length) 0) :
    slice raw offset (tailLength data.length) = tail data := by
  rw [tailLength, slice_add, slice_add, hlength, hdata, ← Nat.add_assoc, hzeros, tail,
    List.append_assoc]

end Abi
