import Mathlib.Algebra.BigOperators.Group.Finset.Piecewise
import Mathlib.Algebra.BigOperators.Group.List.Basic
import Mathlib.Algebra.Order.BigOperators.Group.Finset
import Mathlib.Algebra.Order.BigOperators.Group.List
import Mathlib.Algebra.Order.Monoid.Defs
import Mathlib.Data.List.Perm.Subperm
import Mathlib.Tactic.Abel

/-! # Greedy prefixes

    A greedy search takes things in a fixed order and stops at the first prefix
    that passes a test.

    * `firstPassing p chosen rest` — that prefix, on top of what is chosen;
    * `firstPassing_eq_none_iff` — there is none exactly when no prefix passes;
    * `firstPassing_le` — it is the shortest that passes;
    * `sum_le_sum_take` — in descending order, the first `k` things are worth
      at least as much as any other `k`;
    * `netWorth_le`, `netWorth_paysItsWay` — where things of one key share a cost,
      the things that pay their way are worth the most;
    * `netWorth_lt_of_missing`, `netWorth_lt_of_losing` — and a choice that leaves
      out one that earns, or takes one that loses, is worth less. -/

namespace Greedy

section Search

variable {α : Type} (p : List α → Prop) [DecidablePred p]

/-- The first non-empty prefix of `rest` that passes on top of `chosen`. -/
def firstPassing : List α → List α → Option (List α)
  | _, [] => none
  | chosen, a :: rest =>
      if p (chosen ++ [a]) then some (chosen ++ [a]) else firstPassing (chosen ++ [a]) rest

variable {p}

/-- Nothing is found exactly when no prefix passes. -/
theorem firstPassing_eq_none_iff {rest : List α} :
    ∀ {chosen : List α}, firstPassing p chosen rest = none
      ↔ ∀ pre, pre ≠ [] → pre <+: rest → ¬ p (chosen ++ pre) := by
  induction rest with
  | nil =>
      intro chosen
      refine iff_of_true rfl ?_
      intro pre hne hpre
      exact absurd (List.prefix_nil.mp hpre) hne
  | cons a rest ih =>
      intro chosen
      by_cases hp : p (chosen ++ [a])
      · rw [firstPassing, if_pos hp]
        refine iff_of_false (Option.some_ne_none _) ?_
        intro h
        exact h [a] (List.cons_ne_nil a []) ⟨rest, rfl⟩ hp
      · rw [firstPassing, if_neg hp, ih]
        constructor
        · intro h pre hne hpre
          cases pre with
          | nil => exact absurd rfl hne
          | cons b pre =>
              obtain ⟨rfl, htail⟩ := List.cons_prefix_cons.mp hpre
              cases pre with
              | nil => exact hp
              | cons c pre =>
                  have hpass := h (c :: pre) (List.cons_ne_nil c pre) htail
                  rw [List.append_assoc, List.singleton_append] at hpass
                  exact hpass
        · intro h pre hne hpre
          rw [List.append_assoc, List.singleton_append]
          exact h (a :: pre) (List.cons_ne_nil a pre) (List.cons_prefix_cons.mpr ⟨rfl, hpre⟩)

/-- **What is found is the shortest prefix that passes.** -/
theorem firstPassing_le {pre rest : List α} (hne : pre ≠ []) (hpre : pre <+: rest) :
    ∀ {chosen : List α}, p (chosen ++ pre) →
      ∃ first, first <+: pre ∧ firstPassing p chosen rest = some (chosen ++ first) := by
  induction rest generalizing pre with
  | nil => exact absurd (List.prefix_nil.mp hpre) hne
  | cons a rest ih =>
      intro chosen hpass
      cases pre with
      | nil => exact absurd rfl hne
      | cons b pre =>
          obtain ⟨rfl, htail⟩ := List.cons_prefix_cons.mp hpre
          by_cases hp : p (chosen ++ [b])
          · refine ⟨[b], ⟨pre, rfl⟩, ?_⟩
            rw [firstPassing, if_pos hp]
          · have hlonger : pre ≠ [] := by
              rintro rfl
              exact hp hpass
            rw [← List.singleton_append, ← List.append_assoc] at hpass
            obtain ⟨first, hfirst, hfound⟩ := ih hlonger htail hpass
            refine ⟨b :: first, List.cons_prefix_cons.mpr ⟨rfl, hfirst⟩, ?_⟩
            rw [firstPassing, if_neg hp, hfound, List.append_assoc, List.singleton_append]

end Search

/-- What passes comes first when nothing that does stands behind what does not. -/
theorem filter_prefix {α : Type} {p : α → Bool} {l : List α}
    (h : l.Pairwise fun a b => p b = true → p a = true) : l.filter p <+: l := by
  induction l with
  | nil => exact List.prefix_refl _
  | cons a l ih =>
      obtain ⟨hhead, htail⟩ := List.pairwise_cons.mp h
      by_cases ha : p a = true
      · rw [List.filter_cons_of_pos ha]
        exact List.cons_prefix_cons.mpr ⟨rfl, ih htail⟩
      · have hnone : (a :: l).filter p = [] := by
          rw [List.filter_eq_nil_iff]
          intro b hb
          rcases List.mem_cons.mp hb with rfl | hb
          · exact ha
          · exact mt (hhead b hb) ha
        rw [hnone]
        exact List.nil_prefix

/-! ## Largest first -/

section Largest

variable {α M : Type} [AddCommMonoid M] [PartialOrder M] [IsOrderedAddMonoid M] {f : α → M}

/-- In descending order no sublist beats the prefix of its length. -/
theorem sum_le_sum_take_of_sublist {l : List α} :
    ∀ {s : List α}, l.Pairwise (fun a b => f b ≤ f a) → s.Sublist l →
      (s.map f).sum ≤ ((l.take s.length).map f).sum := by
  induction l with
  | nil =>
      intro s _ hs
      rw [List.sublist_nil.mp hs, List.take_nil]
  | cons a l ih =>
      intro s hl hs
      obtain ⟨hhead, htail⟩ := List.pairwise_cons.mp hl
      cases s with
      | nil => exact le_refl _
      | cons b s =>
          rw [List.length_cons, List.take_succ_cons, List.map_cons, List.map_cons,
            List.sum_cons, List.sum_cons]
          -- the head of the sublist is the head of the list or comes after it
          have hb : f b ≤ f a := by
            rcases List.mem_cons.mp (hs.subset List.mem_cons_self) with rfl | hmem
            · exact le_refl _
            · exact hhead b hmem
          exact add_le_add hb (ih htail hs.of_cons_cons)

/-- **Largest first is best**: in descending order no choice of `k` things beats
    the first `k`. -/
theorem sum_le_sum_take {l s : List α} (hl : l.Pairwise fun a b => f b ≤ f a)
    (hs : s.Subperm l) : (s.map f).sum ≤ ((l.take s.length).map f).sum := by
  obtain ⟨s', hperm, hsub⟩ := hs
  rw [← (hperm.map f).sum_eq, ← hperm.length_eq]
  exact sum_le_sum_take_of_sublist hl hsub

end Largest

/-! ## Shared costs

    Things of one key share a cost, charged once however many of them are
    taken. -/

section Part

variable {α κ M : Type} [DecidableEq κ] [AddCommMonoid M] {key : α → κ} {l : List α}

/-- What the things of a key are worth together. -/
def part (f : α → M) (key : α → κ) (l : List α) (k : κ) : M :=
  ((l.filter fun a => key a = k).map f).sum

theorem part_cons (g : α → M) (a : α) (l : List α) (k : κ) :
    part g key (a :: l) k = (if key a = k then g a else 0) + part g key l k := by
  by_cases h : key a = k
  · rw [part, List.filter_cons_of_pos (by simpa using h), List.map_cons, List.sum_cons, if_pos h]
    rfl
  · rw [part, List.filter_cons_of_neg (by simpa using h), if_neg h, zero_add]
    rfl

theorem part_append (g : α → M) (l l' : List α) (k : κ) :
    part g key (l ++ l') k = part g key l k + part g key l' k := by
  rw [part, List.filter_append, List.map_append, List.sum_append]
  rfl

/-- Key by key a list is worth what it is worth. -/
theorem sum_part (g : α → M) {K : Finset κ} (h : ∀ a ∈ l, key a ∈ K) :
    ∑ k ∈ K, part g key l k = (l.map g).sum := by
  induction l with
  | nil => exact Finset.sum_eq_zero fun k _ => rfl
  | cons a l ih =>
      have ha := h a List.mem_cons_self
      have htail := ih fun b hb => h b (List.mem_cons_of_mem _ hb)
      simp only [part_cons, Finset.sum_add_distrib, htail, Finset.sum_ite_eq, if_pos ha,
        List.map_cons, List.sum_cons]

end Part

section Shared

variable {α κ M : Type} [DecidableEq κ] [AddCommGroup M] [LinearOrder M]
  [IsOrderedAddMonoid M] (f : α → M) (key : α → κ) (cost : κ → M)

/-- What the things of a key bring, leaving out those worth less than nothing. -/
def gain (l : List α) (k : κ) : M := part (fun a => max 0 (f a)) key l k

/-- What a choice is worth, less the cost of every key it has. -/
def netWorth (s : List α) : M := (s.map f).sum - ∑ k ∈ (s.map key).toFinset, cost k

/-- The most that a choice of these things can be worth. -/
def mostWorth (l : List α) : M :=
  ∑ k ∈ (l.map key).toFinset, max 0 (gain f key l k - cost k)

/-- A thing pays its way: it is worth something, and those of its key bring at
    least what they cost. -/
def PaysItsWay (l : List α) (a : α) : Prop :=
  0 ≤ f a ∧ cost (key a) ≤ gain f key l (key a)

instance (l : List α) : DecidablePred (PaysItsWay f key cost l) :=
  fun _ => inferInstanceAs (Decidable (_ ∧ _))

/-- What a choice keeps of one key. -/
def share (s : List α) (k : κ) : M :=
  if k ∈ s.map key then part f key s k - cost k else 0

variable {f key cost} {l s pre post : List α} {k : κ} {a : α} {δ : M}

omit [LinearOrder M] [IsOrderedAddMonoid M] in
theorem netWorth_perm (h : s.Perm l) : netWorth f key cost s = netWorth f key cost l := by
  rw [netWorth, netWorth, (h.map f).sum_eq, List.toFinset_eq_of_perm _ _ (h.map key)]

omit [LinearOrder M] [IsOrderedAddMonoid M] in
/-- The keys of other things do not count. -/
theorem netWorth_eq_sum (h : s.Subperm l) :
    netWorth f key cost s = ∑ k ∈ (l.map key).toFinset, share f key cost s k := by
  have hsub : (s.map key).toFinset ⊆ (l.map key).toFinset := by
    intro k hk
    obtain ⟨a, ha, rfl⟩ := List.mem_map.mp (List.mem_toFinset.mp hk)
    exact List.mem_toFinset.mpr (List.mem_map_of_mem (h.subset ha))
  have hown : ∀ a ∈ s, key a ∈ (s.map key).toFinset := fun a ha =>
    List.mem_toFinset.mpr (List.mem_map_of_mem ha)
  rw [netWorth, ← sum_part f hown, ← Finset.sum_sub_distrib, ← Finset.sum_subset hsub]
  · refine Finset.sum_congr rfl ?_
    intro k hk
    rw [share, if_pos (List.mem_toFinset.mp hk)]
  · intro k _ hk
    rw [share, if_neg (mt List.mem_toFinset.mpr hk)]

theorem part_le_gain : part f key s k ≤ gain f key s k :=
  List.sum_le_sum fun a _ => le_max_right 0 (f a)

/-- More things bring no less. -/
theorem gain_le (h : s.Subperm l) : gain f key s k ≤ gain f key l k := by
  obtain ⟨s', hperm, hsub⟩ := h
  have hsame : gain f key s' k = gain f key s k :=
    ((hperm.filter _).map _).sum_eq
  rw [← hsame]
  refine (List.Sublist.map _ (hsub.filter _)).sum_le_sum ?_
  intro x hx
  obtain ⟨a, -, rfl⟩ := List.mem_map.mp hx
  exact le_max_left 0 (f a)

theorem gain_perm (h : s.Perm l) (k : κ) : gain f key s k = gain f key l k :=
  le_antisymm (gain_le h.subperm) (gain_le h.symm.subperm)

/-- No choice keeps more of a key than the best one does. -/
theorem share_le (h : s.Subperm l) : share f key cost s k ≤ max 0 (gain f key l k - cost k) := by
  rw [share]
  split
  · exact le_max_of_le_right (sub_le_sub_right (part_le_gain.trans (gain_le h)) _)
  · exact le_max_left _ _

/-- **No choice is worth more.** -/
theorem netWorth_le (h : s.Subperm l) : netWorth f key cost s ≤ mostWorth f key cost l := by
  rw [netWorth_eq_sum h]
  exact Finset.sum_le_sum fun k _ => share_le h

/-- A choice that keeps less than the best of one key is worth less by as much. -/
theorem netWorth_add_le (h : s.Subperm l) (hk : k ∈ l.map key)
    (hless : share f key cost s k + δ ≤ max 0 (gain f key l k - cost k)) :
    netWorth f key cost s + δ ≤ mostWorth f key cost l := by
  have hmem := List.mem_toFinset.mpr hk
  rw [netWorth_eq_sum h, mostWorth, ← Finset.add_sum_erase _ _ hmem,
    ← Finset.add_sum_erase _ _ hmem, add_right_comm]
  exact add_le_add hless (Finset.sum_le_sum fun k _ => share_le h)

omit [IsOrderedAddMonoid M] in
/-- What pays its way brings, of its key, all there is to bring. -/
theorem part_filter (hcovered : cost k ≤ gain f key l k) :
    part f key (l.filter (PaysItsWay f key cost l)) k = gain f key l k := by
  have hall : ∀ m : List α,
      part f key (m.filter (PaysItsWay f key cost l)) k = gain f key m k := by
    intro m
    induction m with
    | nil => rfl
    | cons a m ih =>
        rw [gain, part_cons, ← gain, ← ih]
        by_cases hk : key a = k
        · by_cases ha : 0 ≤ f a
          · rw [List.filter_cons_of_pos (by simpa [PaysItsWay, hk] using ⟨ha, hcovered⟩),
              part_cons, if_pos hk, if_pos hk, max_eq_right ha]
          · rw [List.filter_cons_of_neg (by simp [PaysItsWay, ha]), if_pos hk,
              max_eq_left (not_le.mp ha).le, zero_add]
        · rw [if_neg hk, zero_add, List.filter_cons]
          split
          · rw [part_cons, if_neg hk, zero_add]
          · rfl
  exact hall l

/-- **What pays its way is worth the most.** -/
theorem netWorth_paysItsWay (hcost : ∀ k, 0 ≤ cost k) :
    netWorth f key cost (l.filter (PaysItsWay f key cost l)) = mostWorth f key cost l := by
  have hsub : (l.filter (PaysItsWay f key cost l)).Subperm l := List.filter_sublist.subperm
  rw [netWorth_eq_sum hsub]
  refine Finset.sum_congr rfl ?_
  intro k _
  rw [share]
  by_cases hcovered : cost k ≤ gain f key l k
  · rw [part_filter hcovered]
    split
    · exact (max_eq_right (sub_nonneg.mpr hcovered)).symm
    · rename_i hnone
      -- nothing of this key is worth anything, so it brings nothing and costs nothing
      have hempty : part f key (l.filter (PaysItsWay f key cost l)) k = 0 := by
        rw [part, List.filter_eq_nil_iff.mpr ?_]
        · rfl
        · intro a ha hkey
          exact hnone (List.mem_map.mpr ⟨a, ha, by simpa using hkey⟩)
      rw [part_filter hcovered] at hempty
      rw [hempty, zero_sub, max_eq_left (neg_nonpos.mpr (hcost k))]
  · have hnone : k ∉ (l.filter (PaysItsWay f key cost l)).map key := by
      intro hk
      obtain ⟨a, ha, rfl⟩ := List.mem_map.mp hk
      have hpays := (List.mem_filter.mp ha).2
      rw [decide_eq_true_eq] at hpays
      exact hcovered hpays.2
    rw [if_neg hnone, max_eq_left (sub_nonpos.mpr (not_le.mp hcovered).le)]

/-- A choice that leaves out what earns `δ` is worth less by as much. -/
theorem netWorth_lt_of_missing (h : (pre ++ post).Perm l) (ha : a ∈ post) (hearns : δ ≤ f a)
    (hgain : cost (key a) + δ ≤ gain f key l (key a)) :
    netWorth f key cost pre + δ ≤ mostWorth f key cost l := by
  have hsub : pre.Subperm l := (List.sublist_append_left pre post).subperm.trans h.subperm
  have hmem : a ∈ l := h.mem_iff.mp (List.mem_append_right pre ha)
  refine netWorth_add_le hsub (List.mem_map_of_mem hmem) (le_max_of_le_right ?_)
  rw [share]
  split
  · have hpost : max 0 (f a) ≤ gain f key post (key a) := by
      refine List.single_le_sum ?_ _ ?_
      · intro x hx
        obtain ⟨b, -, rfl⟩ := List.mem_map.mp hx
        exact le_max_left 0 (f b)
      · exact List.mem_map.mpr ⟨a, List.mem_filter.mpr ⟨ha, by simp⟩, rfl⟩
    have hsplit : gain f key l (key a) = gain f key pre (key a) + gain f key post (key a) := by
      rw [← gain_perm h]
      exact part_append _ pre post _
    have hpre : part f key pre (key a) ≤ gain f key pre (key a) := part_le_gain
    have hδ := (hearns.trans (le_max_right 0 (f a))).trans hpost
    rw [hsplit, sub_add_eq_add_sub]
    exact sub_le_sub_right (add_le_add hpre hδ) _
  · rw [zero_add]
    exact le_sub_iff_add_le'.mpr hgain

/-- A choice that takes what loses `δ` is worth less by as much. -/
theorem netWorth_lt_of_losing (h : s.Subperm l) (ha : a ∈ s)
    (hloses : f a + δ ≤ 0 ∨ gain f key l (key a) + δ ≤ cost (key a)) :
    netWorth f key cost s + δ ≤ mostWorth f key cost l := by
  refine netWorth_add_le h (List.mem_map_of_mem (h.subset ha)) ?_
  rw [share, if_pos (List.mem_map_of_mem ha)]
  have hmost : gain f key s (key a) ≤ gain f key l (key a) := gain_le h
  rcases hloses with hworth | hgain
  · refine le_max_of_le_right ?_
    have hpart : part f key s (key a) + δ ≤ gain f key s (key a) := by
      obtain ⟨before, after, rfl⟩ := List.append_of_mem ha
      have hbefore : part f key before (key a) ≤ gain f key before (key a) := part_le_gain
      have hafter : part f key after (key a) ≤ gain f key after (key a) := part_le_gain
      rw [gain, part_append, part_append, part_cons, part_cons, if_pos rfl, if_pos rfl]
      calc part f key before (key a) + (f a + part f key after (key a)) + δ
          = (part f key before (key a) + part f key after (key a)) + (f a + δ) := by abel
        _ ≤ (gain f key before (key a) + gain f key after (key a)) + max 0 (f a) := by
            exact add_le_add (add_le_add hbefore hafter) (hworth.trans (le_max_left _ _))
        _ = _ := by
            rw [gain, gain]
            abel
    rw [sub_add_eq_add_sub]
    exact sub_le_sub_right (hpart.trans hmost) _
  · refine le_max_of_le_left ?_
    have hpart : part f key s (key a) ≤ gain f key s (key a) := part_le_gain
    rw [sub_add_eq_add_sub, sub_nonpos]
    exact (add_le_add_left (hpart.trans hmost) δ).trans hgain

end Shared

end Greedy
