import Swapsack.CborProofs

/-! # CBOR, read back

    An item in shortest form is read back where it stands, whatever is before
    and behind it.  Numbers past 64 bits are tagged byte strings, so their two
    tags are no tags of their own.

    * `reads_head` — a head gives its type and its number;
    * `reads_encode` — an item is read back by a reader that goes deep enough. -/

namespace Cbor

open ByteString

variable {ε : Type} (bad : ε)

/-! ## Heads -/

/-- A string is read to its end. -/
theorem reads_bytes (bs : Bytes) : Reads (readBytes bad bs.length) bs bs := by
  intro pre post
  have hinside : pre.length + bs.length ≤ (pre ++ (bs ++ post)).length := by
    rw [List.length_append, List.length_append]
    omega
  rw [readBytes, if_pos hinside, slice_append, List.length_append]

/-- So is a number of a given width. -/
theorem reads_nat {w n : ℕ} (h : n < 256 ^ w) : Reads (readNat bad w) (beBytes w n) n := by
  have hread := reads_bytes bad (beBytes w n)
  rw [beBytes_length] at hread
  have hnat := hread.map beNat
  rwa [beNat_beBytes h] at hnat

/-- The first byte of a head. -/
theorem reads_first {k : ℕ} (h : k < 256) : Reads (readNat bad 1) [UInt8.ofNat k] k := by
  have hbytes : beBytes 1 k = [UInt8.ofNat k] := by
    show [UInt8.ofNat (k % 256)] = [UInt8.ofNat k]
    rw [Nat.mod_eq_of_lt h]
  rw [← hbytes]
  exact reads_nat bad h

/-- A first byte and what it announces. -/
theorem reads_headOf {major info n : ℕ} {bs : Bytes} (hmajor : major < 8) (hinfo : info < 32)
    (h : Reads (readArgument bad info) bs n) :
    Reads (readHead bad) (UInt8.ofNat (32 * major + info) :: bs) (major, n) := by
  have hmod : (32 * major + info) % 32 = info := by omega
  have hdiv : (32 * major + info) / 32 = major := by omega
  have hrest : Reads ((readArgument bad ((32 * major + info) % 32)).bind fun n =>
      Reader.pure ((32 * major + info) / 32, n)) bs (major, n) := by
    rw [hmod, hdiv]
    exact h.map (Prod.mk major)
  exact (reads_first bad (show 32 * major + info < 256 by omega)).bind hrest

/-- **A head gives its type and its number.** -/
theorem reads_head {major n : ℕ} (hmajor : major < 8) (hn : n < 2 ^ 64) :
    Reads (readHead bad) (head major n) (major, n) := by
  rw [head]
  split_ifs with hsmall hone htwo hfour
  · refine reads_headOf bad hmajor (by omega) ?_
    rw [readArgument, if_pos hsmall]
    exact reads_pure n
  · exact reads_headOf bad hmajor (by decide) (reads_nat bad (by omega))
  · exact reads_headOf bad hmajor (by decide) (reads_nat bad (by omega))
  · exact reads_headOf bad hmajor (by decide) (reads_nat bad (by omega))
  · exact reads_headOf bad hmajor (by decide) (reads_nat bad (by omega))

/-! ## Items -/

mutual
/-- How deep a reader has to go for an item; a large number is a tagged one. -/
def Value.depth : Value → ℕ
  | .int _ => 2
  | .bytes _ => 1
  | .text _ => 1
  | .list items => depths items + 1
  | .map entries => entryDepths entries + 1
  | .tag _ content => content.depth + 1
  | .bool _ => 1
  | .null => 1

/-- The depth of the deepest of some items. -/
def depths : List Value → ℕ
  | [] => 0
  | v :: items => max v.depth (depths items)

def entryDepths : List (Value × Value) → ℕ
  | [] => 0
  | (k, v) :: entries => max (max k.depth v.depth) (entryDepths entries)
end

/-- Something has to be read. -/
theorem one_le_depth (v : Value) : 1 ≤ v.depth := by
  cases v <;> simp [Value.depth]

mutual
/-- The tags of an item fit and are none of those of large numbers. -/
def Value.Plain : Value → Prop
  | .list items => PlainItems items
  | .map entries => PlainEntries entries
  | .tag n content => n < 2 ^ 64 ∧ n ≠ 2 ∧ n ≠ 3 ∧ content.Plain
  | _ => True

/-- Each of the items is plain. -/
def PlainItems : List Value → Prop
  | [] => True
  | v :: items => v.Plain ∧ PlainItems items

/-- Each key and each value is plain. -/
def PlainEntries : List (Value × Value) → Prop
  | [] => True
  | (k, v) :: entries => k.Plain ∧ v.Plain ∧ PlainEntries entries
end

/-- A bound on each item is one on the deepest. -/
theorem depths_le {items : List Value} {n : ℕ} (h : ∀ v ∈ items, v.depth ≤ n) :
    depths items ≤ n := by
  induction items with
  | nil => exact Nat.zero_le n
  | cons v items ih =>
      obtain ⟨hv, hitems⟩ := List.forall_mem_cons.mp h
      exact Nat.max_le.mpr ⟨hv, ih hitems⟩

theorem plainItems_of {items : List Value} (h : ∀ v ∈ items, v.Plain) : PlainItems items := by
  induction items with
  | nil => exact trivial
  | cons v items ih =>
      obtain ⟨hv, hitems⟩ := List.forall_mem_cons.mp h
      exact ⟨hv, ih hitems⟩

/-- A number under a type: in the head itself, or tagged. -/
theorem reads_natBytes {depth n : ℕ} (hdepth : 2 ≤ depth) (hn : natSize n < 2 ^ 64) :
    Reads (readItem bad depth) (natBytes 0 n) (.int n)
      ∧ Reads (readItem bad depth) (natBytes 1 n) (.int (-1 - n)) := by
  obtain ⟨d, rfl⟩ : ∃ d, depth = d + 2 := ⟨depth - 2, by omega⟩
  by_cases hsmall : n < 2 ^ 64
  · rw [natBytes, if_pos hsmall, natBytes, if_pos hsmall, ← List.append_nil (head 0 n),
      ← List.append_nil (head 1 n)]
    exact ⟨(reads_head bad (by decide) hsmall).bind (reads_pure _),
      (reads_head bad (by decide) hsmall).bind (reads_pure _)⟩
  · have hlen : byteLength n < 2 ^ 64 := by
      rw [natSize, if_neg hsmall] at hn
      omega
    have hfits : n < 256 ^ byteLength n := Nat.lt_pow_succ_log_self (by decide) n
    have hcontent : Reads (readItem bad (d + 1))
        (head 2 (byteLength n) ++ beBytes (byteLength n) n)
        (.bytes (beBytes (byteLength n) n)) := by
      have hbytes := (reads_bytes bad (beBytes (byteLength n) n)).map Value.bytes
      rw [beBytes_length] at hbytes
      exact (reads_head bad (by decide) hlen).bind hbytes
    have hvalue : beNat (beBytes (byteLength n) n) = n := beNat_beBytes hfits
    rw [natBytes, if_neg hsmall, natBytes, if_neg hsmall]
    constructor
    · have hpos : Value.int n = tagged 2 (.bytes (beBytes (byteLength n) n)) := by
        rw [tagged, hvalue]
      rw [hpos]
      exact (reads_head bad (by decide) (by decide)).bind (hcontent.map (tagged 2))
    · have hneg : Value.int (-1 - n) = tagged 3 (.bytes (beBytes (byteLength n) n)) := by
        rw [tagged, hvalue]
      rw [hneg]
      exact (reads_head bad (by decide) (by decide)).bind (hcontent.map (tagged 3))

/-- An integer is read back, also one that needs a bignum's two levels. -/
theorem reads_int {depth : ℕ} {i : ℤ} (hdepth : 2 ≤ depth) (hi : intSize i < 2 ^ 64) :
    Reads (readItem bad depth) (intBytes i) (.int i) := by
  rw [intSize] at hi
  rw [intBytes]
  by_cases hpos : 0 ≤ i
  · rw [if_pos hpos] at hi ⊢
    have hread := (reads_natBytes bad hdepth hi).1
    rwa [Int.toNat_of_nonneg hpos] at hread
  · rw [if_neg hpos] at hi ⊢
    have hread := (reads_natBytes bad hdepth hi).2
    rwa [Int.toNat_of_nonneg (by omega), show -1 - (-1 - i) = i by omega] at hread

/-- A tag that is not that of a large number is kept. -/
theorem tagged_plain {n : ℕ} (h2 : n ≠ 2) (h3 : n ≠ 3) (content : Value) :
    tagged n content = .tag n content := by
  rw [tagged]
  · intro b hn
    exact absurd hn h2
  · intro b hn
    exact absurd hn h3

/-- No value is empty. -/
theorem one_le_size (v : Value) : 1 ≤ v.size := by
  cases v with
  | int i => exact one_le_intSize i
  | bytes b => exact (one_le_headSize _).trans (Nat.le_add_right _ _)
  | text s => exact (one_le_headSize _).trans (Nat.le_add_right _ _)
  | list items => exact (one_le_headSize _).trans (Nat.le_add_right _ _)
  | map entries => exact (one_le_headSize _).trans (Nat.le_add_right _ _)
  | tag n content => exact (one_le_headSize _).trans (Nat.le_add_right _ _)
  | bool b => exact Nat.le_refl 1
  | null => exact Nat.le_refl 1

/-- No more items than bytes. -/
theorem length_le_sizes (items : List Value) : items.length ≤ sizes items := by
  induction items with
  | nil => exact Nat.zero_le _
  | cons v items ih =>
      have hv := one_le_size v
      rw [List.length_cons, sizes]
      omega

/-- So there are no more entries than bytes. -/
theorem length_le_entrySizes (entries : List (Value × Value)) :
    entries.length ≤ entrySizes entries := by
  induction entries with
  | nil => exact Nat.zero_le _
  | cons e entries ih =>
      have hk := one_le_size e.1
      rw [List.length_cons, entrySizes]
      omega

mutual
/-- **An item is read back** where it stands. -/
theorem reads_encode (v : Value) {depth : ℕ} (hdepth : v.depth ≤ depth) (hplain : v.Plain)
    (hsize : v.size < 2 ^ 64) : Reads (readItem bad depth) v.encode v := by
  obtain ⟨d, rfl⟩ : ∃ d, depth = d + 1 := ⟨depth - 1, by have h := one_le_depth v; omega⟩
  cases v with
  | int i => exact reads_int bad hdepth hsize
  | bytes b =>
      rw [Value.size] at hsize
      rw [Value.encode]
      exact (reads_head bad (by decide) (by omega)).bind
        ((reads_bytes bad b).map Value.bytes)
  | text s =>
      rw [Value.size] at hsize
      have htext : Reads (readItem bad (d + 1))
          (head 3 (encodeUtf8 s).length ++ (encodeUtf8 s ++ [])) (.text s) := by
        refine (reads_head bad (by decide) (by omega)).bind
          ((reads_bytes bad (encodeUtf8 s)).bind ?_)
        rw [decodeUtf8_encodeUtf8]
        exact reads_pure _
      rw [List.append_nil] at htext
      rw [Value.encode]
      exact htext
  | list items =>
      rw [Value.depth] at hdepth
      rw [Value.size] at hsize
      rw [Value.Plain] at hplain
      have hcount := length_le_sizes items
      rw [Value.encode]
      exact (reads_head bad (by decide) (by omega)).bind
        ((reads_items items (by omega) hplain (by omega)).map Value.list)
  | map entries =>
      rw [Value.depth] at hdepth
      rw [Value.size] at hsize
      rw [Value.Plain] at hplain
      have hcount := length_le_entrySizes entries
      rw [Value.encode]
      exact (reads_head bad (by decide) (by omega)).bind
        ((reads_entries entries (by omega) hplain (by omega)).map Value.map)
  | tag n content =>
      rw [Value.depth] at hdepth
      rw [Value.size] at hsize
      rw [Value.Plain] at hplain
      obtain ⟨hn, h2, h3, hplain⟩ := hplain
      have hcontent := (reads_encode content (show content.depth ≤ d by omega) hplain
        (by omega)).map (tagged n)
      rw [tagged_plain h2 h3] at hcontent
      rw [Value.encode]
      exact (reads_head bad (by decide) hn).bind hcontent
  | bool b =>
      cases b with
      | true =>
          have hread := reads_head bad (show 7 < 8 by decide) (show 21 < 2 ^ 64 by decide)
          exact hread.bind (reads_pure _)
      | false =>
          have hread := reads_head bad (show 7 < 8 by decide) (show 20 < 2 ^ 64 by decide)
          exact hread.bind (reads_pure _)
  | null =>
      have hread := reads_head bad (show 7 < 8 by decide) (show 22 < 2 ^ 64 by decide)
      exact hread.bind (reads_pure _)

/-- Items are read back one after the other. -/
theorem reads_items (items : List Value) {depth : ℕ} (hdepth : depths items ≤ depth)
    (hplain : PlainItems items) (hsize : sizes items < 2 ^ 64) :
    Reads (readMany (readItem bad depth) items.length) (encodeItems items) items := by
  cases items with
  | nil => exact reads_pure []
  | cons v items =>
      rw [depths] at hdepth
      rw [sizes] at hsize
      rw [PlainItems] at hplain
      have hitems := reads_items items (show depths items ≤ depth by omega) hplain.2 (by omega)
      exact (reads_encode v (by omega) hplain.1 (by omega)).bind (hitems.map (List.cons v))

/-- And so are entries. -/
theorem reads_entries (entries : List (Value × Value)) {depth : ℕ}
    (hdepth : entryDepths entries ≤ depth) (hplain : PlainEntries entries)
    (hsize : entrySizes entries < 2 ^ 64) :
    Reads (readMany ((readItem bad depth).bind fun k =>
      (readItem bad depth).bind fun v => Reader.pure (k, v)) entries.length)
      (encodeEntries entries) entries := by
  cases entries with
  | nil => exact reads_pure []
  | cons e entries =>
      obtain ⟨k, v⟩ := e
      rw [entryDepths] at hdepth
      rw [entrySizes] at hsize
      rw [PlainEntries] at hplain
      have hentries := reads_entries entries (show entryDepths entries ≤ depth by omega)
        hplain.2.2 (by omega)
      have hv := (reads_encode v (show v.depth ≤ depth by omega) hplain.2.1 (by omega)).map
        (Prod.mk k)
      have hentry := (reads_encode k (show k.depth ≤ depth by omega) hplain.1 (by omega)).bind
        (f := fun k => (readItem bad depth).bind fun v => Reader.pure (k, v)) hv
      rw [encodeEntries, ← List.append_assoc]
      exact hentry.bind (hentries.map (List.cons (k, v)))
end

end Cbor
