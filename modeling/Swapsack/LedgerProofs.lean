import Mathlib.Data.List.Perm.Basic
import Mathlib.Data.List.NodupEquivFin
import Swapsack.ListKitProofs

/-! # Ledgers — first entries and balances

    Two general facts behind a listing of who holds what:

    * `firstPerKey` — a dictionary filled with `setdefault`: the first element
      of each key stays (`nodup_firstPerKey`, `mem_keys_firstPerKey`);
    * `sum_sub_sum_consumed` — coins are created once and consumed at most
      once, at the value they were created with; then what was created less
      what was consumed is what is left. -/

namespace Ledger

open ListKit

variable {α κ : Type} [DecidableEq κ]

/-! ## The first of each key -/

/-- `d.setdefault(key(a), a)` on a dictionary kept as the list of its values. -/
def setDefault (key : α → κ) (kept : List α) (a : α) : List α :=
  if key a ∈ kept.map key then kept else kept ++ [a]

/-- The first element of each key. -/
def firstPerKey (key : α → κ) (l : List α) : List α := l.foldl (setDefault key) []

/-- What is kept was kept before or is the new element. -/
theorem mem_setDefault {key : α → κ} {kept : List α} {a b : α}
    (h : b ∈ setDefault key kept a) : b ∈ kept ∨ b = a := by
  rw [setDefault] at h
  split at h
  · exact Or.inl h
  · rw [List.mem_append, List.mem_singleton] at h
    exact h

/-- Its keys are those of before and the new one's. -/
theorem mem_keys_setDefault (key : α → κ) (kept : List α) (a : α) (k : κ) :
    k ∈ (setDefault key kept a).map key ↔ k ∈ kept.map key ∨ k = key a := by
  rw [setDefault]
  split
  · rename_i hmem
    constructor
    · intro h
      exact Or.inl h
    · rintro (h | rfl)
      · exact h
      · exact hmem
  · rw [List.map_append, List.mem_append, List.map_singleton, List.mem_singleton]

/-- And none of them occurs twice. -/
theorem nodup_setDefault {key : α → κ} {kept : List α} (a : α)
    (h : (kept.map key).Nodup) : ((setDefault key kept a).map key).Nodup := by
  rw [setDefault]
  split
  · exact h
  · rename_i hnew
    rw [List.map_append, List.map_singleton, List.nodup_append]
    refine ⟨h, List.nodup_singleton _, ?_⟩
    intro k hk k' hk' heq
    rw [List.mem_singleton] at hk'
    exact hnew (hk' ▸ heq ▸ hk)

/-- No key is kept twice. -/
theorem nodup_firstPerKey (key : α → κ) (l : List α) :
    ((firstPerKey key l).map key).Nodup := by
  have run : ∀ (l kept : List α), (kept.map key).Nodup →
      ((l.foldl (setDefault key) kept).map key).Nodup := by
    intro l
    induction l with
    | nil => intro kept h; exact h
    | cons a l ih => intro kept h; exact ih _ (nodup_setDefault a h)
  exact run l [] List.nodup_nil

/-- What is kept was there. -/
theorem mem_firstPerKey {key : α → κ} {l : List α} {a : α}
    (h : a ∈ firstPerKey key l) : a ∈ l := by
  have run : ∀ (l kept : List α), a ∈ l.foldl (setDefault key) kept →
      a ∈ kept ∨ a ∈ l := by
    intro l
    induction l with
    | nil => intro kept h; exact Or.inl h
    | cons b l ih =>
        intro kept h
        rcases ih _ h with hkept | hl
        · rcases mem_setDefault hkept with hkept | rfl
          · exact Or.inl hkept
          · exact Or.inr List.mem_cons_self
        · exact Or.inr (List.mem_cons_of_mem _ hl)
  rcases run l [] h with hnil | hl
  · exact nomatch hnil
  · exact hl

/-- Every key is kept. -/
theorem mem_keys_firstPerKey (key : α → κ) (l : List α) (k : κ) :
    k ∈ (firstPerKey key l).map key ↔ k ∈ l.map key := by
  have run : ∀ (l kept : List α), k ∈ (l.foldl (setDefault key) kept).map key ↔
      k ∈ kept.map key ∨ k ∈ l.map key := by
    intro l
    induction l with
    | nil => intro kept; simp
    | cons a l ih =>
        intro kept
        rw [List.foldl_cons, ih, mem_keys_setDefault, List.map_cons, List.mem_cons,
          or_assoc]
  rw [firstPerKey, run]
  simp

/-! ## Balances -/

omit [DecidableEq κ] in
/-- **What is left.**  Every row stands for a coin, a key with a value.  When no
    key has two rows or is consumed twice, and what is consumed has a row, the
    rows less what was consumed total the rows that are left. -/
theorem sum_sub_sum_consumed {rows : List α} {coin : α → κ × ℤ} {consumed : List (κ × ℤ)}
    {left : α → Bool} (hrows : (rows.map fun a => (coin a).1).Nodup)
    (hconsumed : (consumed.map Prod.fst).Nodup)
    (hsub : ∀ c ∈ consumed, c ∈ rows.map coin)
    (hleft : ∀ a ∈ rows, left a = false ↔ (coin a).1 ∈ consumed.map Prod.fst) :
    (rows.map fun a => (coin a).2).sum - (consumed.map Prod.snd).sum
      = ((rows.filter left).map fun a => (coin a).2).sum := by
  have hcoins : ((rows.map coin).map Prod.fst).Nodup := by
    rw [List.map_map]
    exact hrows
  -- the rows that are not left are the coins consumed
  have hspent : ((rows.filter fun a => !left a).map coin).Perm consumed := by
    have hsublist : ((rows.filter fun a => !left a).map coin).Sublist (rows.map coin) :=
      List.filter_sublist.map coin
    refine (List.perm_ext_iff_of_nodup (hcoins.of_map.sublist hsublist)
      hconsumed.of_map).mpr fun c => ?_
    constructor
    · intro hc
      obtain ⟨a, ha, rfl⟩ := List.mem_map.mp hc
      obtain ⟨ha, hgone⟩ := List.mem_filter.mp ha
      obtain ⟨d, hd, hda⟩ :=
        List.mem_map.mp ((hleft a ha).mp (Bool.not_eq_true' _ ▸ hgone))
      rwa [← List.inj_on_of_nodup_map hcoins (hsub d hd) (List.mem_map_of_mem ha) hda]
    · intro hc
      obtain ⟨a, ha, rfl⟩ := List.mem_map.mp (hsub c hc)
      refine List.mem_map_of_mem (List.mem_filter.mpr ⟨ha, ?_⟩)
      rw [(hleft a ha).mpr (List.mem_map_of_mem hc)]
      rfl
  have hsplit := sum_filter_add_not left (fun a => (coin a).2) rows
  have hconsumedSum : ((rows.filter fun a => !left a).map fun a => (coin a).2).sum
      = (consumed.map Prod.snd).sum := by
    rw [← (hspent.map Prod.snd).sum_eq, List.map_map]
    rfl
  omega

end Ledger
