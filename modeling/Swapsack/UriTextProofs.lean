import Swapsack.ByteStringProofs
import Swapsack.PyTextProofs

/-! # URI text

    Percent-decoding and query strings the way Python's `urllib.parse` reads
    them, on lists of characters: bytes that are no UTF-8 decode to U+FFFD, and
    a `%` that no two hexadecimal digits follow stands for itself.

    * `cut_target` — cutting a URI's body at its suffixes leaves what stands
      before them, whichever of them there are. -/

namespace UriText

open ListKit ByteString PyText

/-! ## UTF-8 with replacement -/

/-- The ranges the bytes after a lead byte lie in; none for a byte that leads
    no sequence. -/
def continuations (lead : ℕ) : Option (List (ℕ × ℕ)) :=
  if lead < 0x80 then some []
  else if 0xC2 ≤ lead ∧ lead ≤ 0xDF then some [(0x80, 0xBF)]
  else if lead = 0xE0 then some [(0xA0, 0xBF), (0x80, 0xBF)]
  else if lead = 0xED then some [(0x80, 0x9F), (0x80, 0xBF)]
  else if 0xE1 ≤ lead ∧ lead ≤ 0xEF then some [(0x80, 0xBF), (0x80, 0xBF)]
  else if lead = 0xF0 then some [(0x90, 0xBF), (0x80, 0xBF), (0x80, 0xBF)]
  else if 0xF1 ≤ lead ∧ lead ≤ 0xF3 then some [(0x80, 0xBF), (0x80, 0xBF), (0x80, 0xBF)]
  else if lead = 0xF4 then some [(0x80, 0x8F), (0x80, 0xBF), (0x80, 0xBF)]
  else none

/-- How many of the next bytes lie in their ranges. -/
def continued : List (ℕ × ℕ) → Bytes → ℕ
  | (lo, hi) :: ranges, b :: bs =>
      if lo ≤ b.toNat ∧ b.toNat ≤ hi then continued ranges bs + 1 else 0
  | _, _ => 0

/-- The character a lead byte and its continuation bytes spell. -/
def codePoint (lead : UInt8) (rest : Bytes) : Char :=
  let bits := if rest = [] then lead.toNat else lead.toNat % 2 ^ (6 - rest.length)
  Char.ofNat (rest.foldl (fun n b => 64 * n + b.toNat % 64) bits)

/-- `decode("utf-8", "replace")`; the first `skip` bytes are spent already.  A
    sequence that breaks off gives one U+FFFD for what there is of it. -/
def decodeFrom : ℕ → Bytes → List Char
  | _, [] => []
  | skip + 1, _ :: bs => decodeFrom skip bs
  | 0, b :: bs =>
      match continuations b.toNat with
      | none => '\uFFFD' :: decodeFrom 0 bs
      | some ranges =>
          let n := continued ranges bs
          let c := if n = ranges.length then codePoint b (bs.take n) else '\uFFFD'
          c :: decodeFrom n bs

def decodeReplace (bs : Bytes) : List Char := decodeFrom 0 bs

/-! ## Percent-decoding -/

/-- `unquote_to_bytes` of an ASCII text. -/
def unquoteToBytes : List Char → Bytes
  | [] => []
  | [c] => [UInt8.ofNat c.toNat]
  | [c, d] => [UInt8.ofNat c.toNat, UInt8.ofNat d.toNat]
  | c :: hi :: lo :: s =>
      if c = '%' then
        match hexValue hi, hexValue lo with
        | some h, some l => UInt8.ofNat (16 * h + l) :: unquoteToBytes s
        | _, _ => UInt8.ofNat c.toNat :: unquoteToBytes (hi :: lo :: s)
      else UInt8.ofNat c.toNat :: unquoteToBytes (hi :: lo :: s)

def isAscii (c : Char) : Bool := c.toNat < 128

/-- `unquote`: runs of ASCII are decoded, other text stands for itself. -/
def unquote (s : List Char) : List Char :=
  if '%' ∉ s then s
  else
    (s.splitBy fun c d => isAscii c == isAscii d).flatMap fun run =>
      if run.all isAscii then decodeReplace (unquoteToBytes run) else run

/-! ## Query strings -/

/-- A name or a value of a query. -/
def unquotePlus (s : List Char) : String :=
  String.ofList (unquote (s.map fun c => if c = '+' then ' ' else c))

/-- One `name=value` field; a field without `=` or without a value is dropped. -/
def queryField (s : List Char) : Option (String × String) :=
  match partition '=' s with
  | (name, true, value) =>
      if value = [] then none else some (unquotePlus name, unquotePlus value)
  | _ => none

/-- `parse_qsl`. -/
def parseQsl (query : List Char) : List (String × String) :=
  (query.splitOn '&').filterMap queryField

/-- `dict` of key-value pairs: the last value of a key wins. -/
def dictOf (pairs : List (String × String)) : List (String × String) :=
  pairs.foldl (fun d p => setKey d p.1 p.2) []

/-! ## Cutting at suffixes -/

/-- A suffix starts with its own separator, or is absent. -/
def suffix (sep : Char) : Option (List Char) → List Char
  | none => []
  | some s => sep :: s

theorem partition_suffix {sep : Char} {head : List Char} (h : sep ∉ head)
    (s : Option (List Char)) : (partition sep (head ++ suffix sep s)).1 = head := by
  cases s with
  | none => rw [suffix, List.append_nil, partition_of_notMem h]
  | some s => rw [suffix, partition_append h]

/-- **Cutting leaves the target.**  A first cut at `sep₁` and a second at `sep₂`
    leave what stands before both suffixes, also when the second suffix holds
    the first separator. -/
theorem cut_target {sep₁ sep₂ : Char} {target : List Char} (hne : sep₁ ≠ sep₂)
    (h₁ : sep₁ ∉ target) (h₂ : sep₂ ∉ target) (s₁ s₂ : Option (List Char)) :
    (partition sep₂
        (partition sep₁ (target ++ suffix sep₁ s₁ ++ suffix sep₂ s₂)).1).1 = target := by
  cases s₁ with
  | some s =>
      rw [suffix, List.append_assoc, List.cons_append, partition_append h₁,
        partition_of_notMem h₂]
  | none =>
      rw [suffix, List.append_nil, partition_fst_append h₁]
      cases s₂ with
      | none =>
          rw [suffix, partition, List.append_nil, partition_of_notMem h₂]
      | some s =>
          rw [suffix, partition, if_neg (Ne.symm hne)]
          exact congrArg Prod.fst (partition_append h₂ (partition sep₁ s).1)

end UriText
