import Mathlib.Order.Bounds.Basic
import Mathlib.Order.Monotone.Basic

/-! # Settling a demand

    A quantity that has to meet a demand which grows with the quantity itself (a
    fee that pays for the bytes it is written in, a buffer that holds its own
    length) is found by raising it to what it demands until it demands no more.

    * `settles_of_meets` — the loop without a bound on its rounds ends where the
      bounded one meets the demand;
    * `settle_isLeast` — over a monotone demand that only depends on a bounded
      rank, the loop ends at the least quantity that meets its own demand;
    * `isLeast_fixed` — which is then exactly what it demands;
    * `isLeast_le_of_le`, `isLeast_lt_of_lt` — a demand that asks more settles
      higher. -/

namespace Settle

variable {α : Type*} [LinearOrder α]

/-- The quantities that meet what is demanded of them. -/
def Meets (f : α → α) : Set α := {x | f x ≤ x}

/-- Raise `x` to what is demanded of it until it meets the demand. -/
def settle (f : α → α) : ℕ → α → α
  | 0, x => x
  | fuel + 1, x => if f x ≤ x then x else settle f fuel (f x)

/-- The loop without a bound on its rounds: from `x` it returns `y`. -/
inductive Settles (f : α → α) : α → α → Prop
  | done {x : α} (h : f x ≤ x) : Settles f x x
  | again {x y : α} (h : ¬ f x ≤ x) (hnext : Settles f (f x) y) : Settles f x y

/-- **The loop ends** where the bounded one meets the demand. -/
theorem settles_of_meets {f : α → α} {fuel : ℕ} :
    ∀ {x : α}, settle f fuel x ∈ Meets f → Settles f x (settle f fuel x) := by
  induction fuel with
  | zero =>
      intro x h
      exact .done h
  | succ fuel ih =>
      intro x h
      rw [settle] at h ⊢
      by_cases hmeets : f x ≤ x
      · rw [if_pos hmeets]
        exact .done hmeets
      · rw [if_neg hmeets] at h ⊢
        exact .again hmeets (ih h)

/-- A quantity that meets its demand is settled. -/
theorem settle_of_meets {f : α → α} {x : α} (h : f x ≤ x) (fuel : ℕ) :
    settle f fuel x = x := by
  cases fuel with
  | zero => rfl
  | succ fuel => rw [settle, if_pos h]

/-- **The loop settles at the least quantity that meets the demand**, when it
    starts below all of them and can go round once for every rank up to that of
    one of them. -/
theorem settle_isLeast {f : α → α} {rank : α → ℕ} (hmono : Monotone f)
    (hrank : Monotone rank) (hdep : ∀ x y, rank x = rank y → f x = f y) {b : α}
    (hb : b ∈ Meets f) {fuel : ℕ} {x : α} (hx : x ∈ lowerBounds (Meets f))
    (hfuel : rank b + 2 ≤ fuel + rank x) : IsLeast (Meets f) (settle f fuel x) := by
  have hxb : rank x ≤ rank b := hrank (hx hb)
  induction fuel generalizing x with
  | zero => omega
  | succ fuel ih =>
      rw [settle]
      by_cases hmeets : f x ≤ x
      · rw [if_pos hmeets]
        exact ⟨hmeets, hx⟩
      · rw [if_neg hmeets]
        have hstart : f x ∈ lowerBounds (Meets f) := by
          intro y hy
          exact (hmono (hx hy)).trans hy
        have hraised : rank x ≤ rank (f x) := hrank (not_le.mp hmeets).le
        by_cases hsame : rank (f x) = rank x
        · -- the demand does not move any more
          have hstill : f (f x) = f x := hdep (f x) x hsame
          rw [settle_of_meets hstill.le]
          exact ⟨hstill.le, hstart⟩
        · exact ih hstart (by omega) (hrank (hstart hb))

/-- The least quantity that meets its demand is what it demands. -/
theorem isLeast_fixed {f : α → α} (hmono : Monotone f) {x : α}
    (h : IsLeast (Meets f) x) : f x = x := by
  have hbelow : f x ∈ Meets f := hmono h.1
  exact le_antisymm h.1 (h.2 hbelow)

/-- A demand that asks no less settles no lower. -/
theorem isLeast_le_of_le {f g : α → α} (hfg : ∀ x, f x ≤ g x) {x y : α}
    (hx : IsLeast (Meets f) x) (hy : IsLeast (Meets g) y) : x ≤ y := by
  have hmeets : y ∈ Meets f := (hfg y).trans hy.1
  exact hx.2 hmeets

/-- A demand that asks more settles higher. -/
theorem isLeast_lt_of_lt {f g : α → α} (hmono : Monotone f) (hfg : ∀ x, f x < g x)
    {x y : α} (hx : IsLeast (Meets f) x) (hy : IsLeast (Meets g) y) : x < y := by
  refine lt_of_le_of_ne (isLeast_le_of_le (fun z => (hfg z).le) hx hy) ?_
  intro heq
  have hstrict : f y < y := (hfg y).trans_le hy.1
  rw [← heq, isLeast_fixed hmono hx] at hstrict
  exact lt_irrefl x hstrict

end Settle
