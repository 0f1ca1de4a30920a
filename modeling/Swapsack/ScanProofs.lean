import Mathlib.Algebra.Order.BigOperators.Group.List
import Mathlib.Algebra.Order.Group.Nat
import Mathlib.Data.Set.Finite.Lattice
import Mathlib.Data.Nat.Find
import Mathlib.Data.List.Range
import Swapsack.ListKitProofs

/-! # The gap-limit scan

    An account's branches are probed window by window until enough consecutive
    addresses are unused.  The gap is counted across the windows, and looked at
    between them only.

    * `probed_eq` — a window leaves the gap behind its last address, and finds
      the used ones;
    * `scanBranch_eq` — a branch is scanned up to the first window that ends in a
      gap long enough;
    * `exists_stop` — with finitely many used addresses there is one;
    * `scanAccount_finds` — what is found, and what cannot be missed. -/

namespace SwapsackScan

open ListKit

/-! ## The gap before an index -/

/-- How many unused indices stand right before `n`. -/
def gapBefore (used : ℕ → Bool) : ℕ → ℕ
  | 0 => 0
  | n + 1 => if used n then 0 else gapBefore used n + 1

/-- The indices the gap counts are unused. -/
theorem gapBefore_unused {used : ℕ → Bool} {n : ℕ} :
    gapBefore used n ≤ n ∧ ∀ k, n - gapBefore used n ≤ k → k < n → used k = false := by
  induction n with
  | zero => exact ⟨Nat.le_refl 0, fun k _ hk => absurd hk (Nat.not_lt_zero k)⟩
  | succ n ih =>
      obtain ⟨hle, hunused⟩ := ih
      rw [gapBefore]
      cases hn : used n with
      | true =>
          rw [if_pos rfl]
          exact ⟨Nat.zero_le _, fun k hlow hhigh => absurd hhigh (by omega)⟩
      | false =>
          rw [if_neg Bool.false_ne_true]
          refine ⟨by omega, fun k hlow hhigh => ?_⟩
          by_cases hk : k = n
          · rw [hk, hn]
          · exact hunused k (by omega) (by omega)

/-- Behind the last used index the gap grows. -/
theorem gapBefore_grows {used : ℕ → Bool} {bound : ℕ} (h : ∀ n, bound ≤ n → used n = false)
    (k : ℕ) : k ≤ gapBefore used (bound + k) := by
  induction k with
  | zero => exact Nat.zero_le _
  | succ k ih =>
      rw [← Nat.add_assoc, gapBefore, h _ (Nat.le_add_right bound k), if_neg Bool.false_ne_true]
      omega

/-! ## The scan -/

section Scan

variable {Address Info : Type} (deriveAddress : String → Address) (probe : Address → Info)
  (hasHistory : Info → Bool) (account : String) (gapLimit window : ℕ)

/-- The path of an address, its address, and what the probe said. -/
abbrev Found (Address Info : Type) := String × Address × Info

def pathAt (branch : ℤ) (index : ℕ) : String := s!"{account}/{branch}/{index}"

def recordAt (branch : ℤ) (index : ℕ) : Found Address Info :=
  let path := pathAt account branch index
  (path, deriveAddress path, probe (deriveAddress path))

/-- The loop over the records of a window: the gap behind it, and the used ones. -/
def probed : List (Found Address Info) → ℕ → ℕ × List (Found Address Info)
  | [], gap => (gap, [])
  | r :: records, gap =>
      if hasHistory r.2.2 then
        let (gap, found) := probed records 0
        (gap, r :: found)
      else probed records (gap + 1)

/-- The loop over the windows of a branch, from a gap and an index; none where the
    fuel does not suffice. -/
def scanBranch (branch : ℤ) : ℕ → ℕ → ℕ → Option (List (Found Address Info))
  | 0, _, _ => none
  | fuel + 1, gap, index =>
      if gap < gapLimit then do
        let records := (List.range window).map fun i =>
          recordAt deriveAddress probe account branch (index + i)
        let (gap, found) := probed hasHistory records gap
        let rest ← scanBranch branch fuel gap (index + window)
        some (found ++ rest)
      else some []

/-- The records of the used addresses, branch by branch. -/
def scanAccount (branches : List ℤ) (fuel : ℕ) : Option (List (Found Address Info)) :=
  (branches.mapM fun branch =>
    scanBranch deriveAddress probe hasHistory account gapLimit window branch fuel 0 0).map
      List.flatten

/-- Whether an address of a branch has a history. -/
def used (branch : ℤ) (index : ℕ) : Bool :=
  hasHistory (recordAt deriveAddress probe account branch index).2.2

/-- The used addresses among some indices. -/
def usedAmong (branch : ℤ) (indices : List ℕ) : List (Found Address Info) :=
  (indices.filter (used deriveAddress probe hasHistory account branch)).map
    (recordAt deriveAddress probe account branch)

variable {deriveAddress probe hasHistory account gapLimit window}

/-- **A window** leaves the gap behind its last address, and finds the used ones. -/
theorem probed_eq (branch : ℤ) (size index : ℕ) :
    probed hasHistory
        ((List.range' index size).map (recordAt deriveAddress probe account branch))
        (gapBefore (used deriveAddress probe hasHistory account branch) index)
      = (gapBefore (used deriveAddress probe hasHistory account branch) (index + size),
          usedAmong deriveAddress probe hasHistory account branch (List.range' index size)) := by
  induction size generalizing index with
  | zero => rfl
  | succ size ih =>
      have hnext := ih (index + 1)
      have hsum : index + 1 + size = index + (size + 1) := by omega
      rw [hsum, gapBefore] at hnext
      rw [List.range'_succ, List.map_cons, probed, usedAmong, List.filter_cons]
      show (if used deriveAddress probe hasHistory account branch index = true then _ else _) = _
      cases hused : used deriveAddress probe hasHistory account branch index with
      | true =>
          rw [hused, if_pos rfl] at hnext
          rw [if_pos rfl, if_pos rfl, hnext]
          rfl
      | false =>
          rw [hused, if_neg Bool.false_ne_true] at hnext
          rw [if_neg Bool.false_ne_true, if_neg Bool.false_ne_true, hnext]
          rfl

/-- **A branch** is scanned up to the first window behind which the gap is long
    enough. -/
theorem scanBranch_eq (branch : ℤ) (index fuel : ℕ) {steps : ℕ} (hfuel : steps < fuel)
    (hgo : ∀ k < steps, gapBefore (used deriveAddress probe hasHistory account branch)
      (index + k * window) < gapLimit)
    (hstop : gapLimit ≤ gapBefore (used deriveAddress probe hasHistory account branch)
      (index + steps * window)) :
    scanBranch deriveAddress probe hasHistory account gapLimit window branch fuel
        (gapBefore (used deriveAddress probe hasHistory account branch) index) index
      = some (usedAmong deriveAddress probe hasHistory account branch
          (List.range' index (steps * window))) := by
  induction steps generalizing index fuel with
  | zero =>
      obtain ⟨fuel, rfl⟩ := Nat.exists_eq_add_of_lt hfuel
      rw [Nat.zero_mul, Nat.add_zero] at hstop
      rw [Nat.zero_mul, scanBranch, if_neg (not_lt.mpr hstop)]
      rfl
  | succ steps ih =>
      obtain ⟨fuel, rfl⟩ : ∃ n, fuel = n + 1 := ⟨fuel - 1, by omega⟩
      have hgap := hgo 0 (Nat.succ_pos steps)
      rw [Nat.zero_mul, Nat.add_zero] at hgap
      have hrecords : (List.range window).map (fun i =>
            recordAt deriveAddress probe account branch (index + i))
          = (List.range' index window).map (recordAt deriveAddress probe account branch) := by
        rw [List.range'_eq_map_range, List.map_map]
        rfl
      -- the loop goes on behind the window
      have hnext : ∀ k, index + window + k * window = index + (k + 1) * window := by
        intro k
        rw [Nat.succ_mul]
        omega
      have hrest := ih (index + window) fuel (by omega)
        (fun k hk => by rw [hnext]; exact hgo (k + 1) (by omega)) (by rw [hnext]; exact hstop)
      rw [scanBranch, if_pos hgap, hrecords]
      dsimp only
      rw [probed_eq]
      dsimp only
      rw [hrest, Option.bind_eq_bind, Option.bind_some]
      rw [usedAmong, usedAmong, usedAmong, ← List.map_append, ← List.filter_append,
        List.range'_append_1, Nat.succ_mul, Nat.add_comm window]

/-- **There is such a window**, where finitely many addresses are used. -/
theorem exists_stop (branch : ℤ) (hwindow : 0 < window)
    (hfinite : {i | used deriveAddress probe hasHistory account branch i = true}.Finite) :
    ∃ steps, (∀ k < steps, gapBefore (used deriveAddress probe hasHistory account branch)
        (k * window) < gapLimit)
      ∧ gapLimit ≤ gapBefore (used deriveAddress probe hasHistory account branch)
        (steps * window) := by
  obtain ⟨last, hlast⟩ := hfinite.bddAbove
  have hunused : ∀ n, last + 1 ≤ n →
      used deriveAddress probe hasHistory account branch n = false := by
    intro n hn
    rw [Bool.eq_false_iff]
    intro hused
    exact absurd (hlast hused) (by omega)
  have hexists : ∃ steps, gapLimit ≤ gapBefore
      (used deriveAddress probe hasHistory account branch) (steps * window) := by
    refine ⟨last + 1 + gapLimit, ?_⟩
    obtain ⟨more, hmore⟩ := Nat.exists_eq_add_of_le
      (Nat.le_mul_of_pos_right (last + 1 + gapLimit) hwindow)
    have hgrows := gapBefore_grows hunused (gapLimit + more)
    rw [hmore, Nat.add_assoc]
    omega
  refine ⟨Nat.find hexists, fun k hk => ?_, Nat.find_spec hexists⟩
  exact not_le.mp (Nat.find_min hexists hk)

/-- What lies behind the stop stands behind a gap. -/
theorem used_below_stop {branch : ℤ} {stop i : ℕ}
    (hstop : gapLimit ≤ gapBefore (used deriveAddress probe hasHistory account branch) stop)
    (hgap : ¬ ∃ j, j + gapLimit ≤ i ∧ ∀ k, j ≤ k → k < j + gapLimit →
      used deriveAddress probe hasHistory account branch k = false) : i < stop := by
  by_contra hle
  obtain ⟨hbound, hunused⟩ :=
    @gapBefore_unused (used deriveAddress probe hasHistory account branch) stop
  exact hgap ⟨stop - gapLimit, by omega, fun k hlow hhigh => hunused k (by omega) (by omega)⟩

/-- **The scan ends and finds what it must**: on each branch used addresses only, in
    the order of their indices, and every one that no gap of the limit's length
    precedes, wherever the windows fall. -/
theorem scanAccount_finds (branches : List ℤ) (hwindow : 0 < window)
    (hfinite : ∀ branch ∈ branches,
      {i | used deriveAddress probe hasHistory account branch i = true}.Finite) :
    ∃ (indices : ℤ → List ℕ) (enough : ℕ),
      (∀ fuel, enough ≤ fuel →
        scanAccount deriveAddress probe hasHistory account gapLimit window branches fuel
          = some (branches.flatMap fun branch =>
            (indices branch).map (recordAt deriveAddress probe account branch)))
      ∧ ∀ branch ∈ branches, (indices branch).Pairwise (· < ·)
        ∧ (∀ i ∈ indices branch, used deriveAddress probe hasHistory account branch i = true)
        ∧ ∀ i, used deriveAddress probe hasHistory account branch i = true →
          (¬ ∃ j, j + gapLimit ≤ i ∧ ∀ k, j ≤ k → k < j + gapLimit →
            used deriveAddress probe hasHistory account branch k = false) →
          i ∈ indices branch := by
  have hstops : ∀ branch, ∃ steps, branch ∈ branches →
      (∀ k < steps, gapBefore (used deriveAddress probe hasHistory account branch)
        (k * window) < gapLimit)
      ∧ gapLimit ≤ gapBefore (used deriveAddress probe hasHistory account branch)
        (steps * window) := by
    intro branch
    by_cases hmem : branch ∈ branches
    · exact (exists_stop branch hwindow (hfinite branch hmem)).imp fun _ h _ => h
    · exact ⟨0, fun h => absurd h hmem⟩
  choose steps hsteps using hstops
  refine ⟨fun branch => (List.range (steps branch * window)).filter
    (used deriveAddress probe hasHistory account branch), (branches.map steps).sum + 1, ?_, ?_⟩
  · intro fuel hfuel
    have hbranches : List.Forall₂ (fun branch found =>
        scanBranch deriveAddress probe hasHistory account gapLimit window branch fuel 0 0
          = some found) branches (branches.map fun branch =>
        usedAmong deriveAddress probe hasHistory account branch
          (List.range (steps branch * window))) := by
      rw [List.forall₂_map_right_iff, List.forall₂_same]
      intro branch hmem
      have hle : steps branch ≤ (branches.map steps).sum :=
        List.le_sum_of_mem (List.mem_map_of_mem hmem)
      rw [List.range_eq_range']
      refine scanBranch_eq branch 0 fuel (by omega) (fun k hk => ?_) ?_
      · rw [Nat.zero_add]
        exact (hsteps branch hmem).1 k hk
      · rw [Nat.zero_add]
        exact (hsteps branch hmem).2
    rw [scanAccount, mapM_eq_some_iff.mpr hbranches, Option.map_some, List.flatMap]
    rfl
  · intro branch hmem
    refine ⟨List.pairwise_lt_range.filter _, fun i hi => (List.mem_filter.mp hi).2, ?_⟩
    intro i hused hgap
    exact List.mem_filter.mpr
      ⟨List.mem_range.mpr (used_below_stop (hsteps branch hmem).2 hgap), hused⟩

end Scan

/-! ## Two used addresses -/

/-- The paths of a branch differ. -/
theorem pathAt_injective (account : String) (branch : ℤ) :
    Function.Injective (pathAt account branch) := by
  intro i j h
  have hdigits : (toString i).toList = (toString j).toList :=
    congrArg String.toList ((String.append_right_inj _).mp h)
  have hvalue : ∀ n : ℕ, Nat.ofDigitChars 10 (toString n).toList 0 = n := by
    intro n
    have hrepr : (toString n).toList = Nat.toDigits 10 n := Nat.toList_repr
    rw [hrepr]
    exact Nat.ofDigitChars_toDigits (by decide) (by decide)
  rw [← hvalue i, hdigits, hvalue j]

/-- A wallet with two used addresses, in different windows. -/
def twoUsed (path : String) : Bool := path = "m/0/1" || path = "m/0/23"

theorem scanAccount_finds_two :
    ∃ (indices : ℤ → List ℕ) (enough : ℕ),
      (∀ fuel, enough ≤ fuel →
        scanAccount id twoUsed id "m" 20 10 [0, 1] fuel
          = some ([0, 1].flatMap fun branch =>
            (indices branch).map (recordAt id twoUsed "m" branch)))
      ∧ ∀ branch ∈ [0, 1], (indices branch).Pairwise (· < ·)
        ∧ (∀ i ∈ indices branch, used id twoUsed id "m" branch i = true)
        ∧ ∀ i, used id twoUsed id "m" branch i = true →
          (¬ ∃ j, j + 20 ≤ i ∧ ∀ k, j ≤ k → k < j + 20 → used id twoUsed id "m" branch k = false) →
          i ∈ indices branch := by
  refine scanAccount_finds [0, 1] (by decide) fun branch _ => ?_
  have hpaths : ({"m/0/1", "m/0/23"} : Set String).Finite := Set.toFinite _
  refine (hpaths.preimage (pathAt_injective "m" branch).injOn).subset fun i hi => ?_
  have hused : twoUsed (pathAt "m" branch i) = true := hi
  rw [twoUsed, Bool.or_eq_true, decide_eq_true_iff, decide_eq_true_iff] at hused
  exact hused

end SwapsackScan
