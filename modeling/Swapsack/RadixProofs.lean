import Mathlib.Data.Nat.Digits.Lemmas

/-! # One radix for another

    A digit string, the highest digit first, written with the digits of another
    base: the value is the same number, and the zeros in front, which the value
    does not tell, are kept one for one.

    * `respell_respell` — going there and back is the identity;
    * `digits_append_low` — the digits of the high part are the first digits. -/

namespace Radix

/-- The digits of `n`, the highest first. -/
def digits (b n : ℕ) : List ℕ := (Nat.digits b n).reverse

/-- The number a digit string stands for. -/
def value (b : ℕ) (ds : List ℕ) : ℕ := Nat.ofDigits b ds.reverse

/-- How many zeros a digit string starts with. -/
def zeros : List ℕ → ℕ
  | 0 :: ds => zeros ds + 1
  | _ => 0

/-- A digit string of base `b`, in base `c`. -/
def respell (b c : ℕ) (ds : List ℕ) : List ℕ :=
  List.replicate (zeros ds) 0 ++ digits c (value b ds)

theorem digits_lt {b n d : ℕ} (hb : 1 < b) (h : d ∈ digits b n) : d < b :=
  Nat.digits_lt_base hb (List.mem_reverse.mp h)

/-- The first digit is not zero. -/
theorem digits_head {b n d : ℕ} {ds : List ℕ} (h : digits b n = d :: ds) : d ≠ 0 := by
  have hrev : Nat.digits b n = ds.reverse ++ [d] := by
    rw [← List.reverse_reverse (Nat.digits b n), ← List.reverse_cons]
    exact congrArg List.reverse h
  have hne : n ≠ 0 := by
    rintro rfl
    rw [Nat.digits_zero] at hrev
    exact absurd hrev.symm (by simp)
  have hlast := Nat.getLast_digit_ne_zero b hne
  rw [← List.getLast_congr (by simp) (Nat.digits_ne_nil_iff_ne_zero.mpr hne) hrev.symm,
    List.getLast_append_singleton] at hlast
  exact hlast

@[simp] theorem value_digits (b n : ℕ) : value b (digits b n) = n := by
  rw [value, digits, List.reverse_reverse, Nat.ofDigits_digits]

/-- Zeros in front do not count. -/
theorem value_zeros (b z : ℕ) (ds : List ℕ) :
    value b (List.replicate z 0 ++ ds) = value b ds := by
  rw [value, List.reverse_append, List.reverse_replicate, Nat.ofDigits_append_replicate_zero,
    value]

/-- Without zeros in front, the digits of the value are the string. -/
theorem digits_value {b : ℕ} (hb : 1 < b) {ds : List ℕ} (hds : ∀ d ∈ ds, d < b)
    (hhead : ∀ d ∈ ds.head?, d ≠ 0) : digits b (value b ds) = ds := by
  have hlast : ∀ h : ds.reverse ≠ [], ds.reverse.getLast h ≠ 0 := by
    intro h
    rw [List.getLast_reverse]
    exact hhead _ (List.head?_eq_some_head _)
  rw [digits, value, Nat.digits_ofDigits b hb ds.reverse
    (fun d hd => hds d (List.mem_reverse.mp hd)) hlast, List.reverse_reverse]

/-- A digit string is its zeros in front and the rest. -/
theorem zeros_split (ds : List ℕ) :
    ∃ rest, ds = List.replicate (zeros ds) 0 ++ rest ∧ ∀ d ∈ rest.head?, d ≠ 0 := by
  induction ds with
  | nil =>
      refine ⟨[], rfl, ?_⟩
      intro d hd
      cases hd
  | cons d ds ih =>
      cases d with
      | zero =>
          obtain ⟨rest, hds, hhead⟩ := ih
          refine ⟨rest, ?_, hhead⟩
          rw [zeros, List.replicate_succ, List.cons_append]
          exact congrArg (List.cons 0) hds
      | succ d =>
          refine ⟨(d + 1) :: ds, rfl, ?_⟩
          intro d' hd'
          cases hd'
          exact Nat.succ_ne_zero d

/-- The zeros are what a string starts with. -/
theorem zeros_eq_takeWhile (ds : List ℕ) : zeros ds = (ds.takeWhile (· == 0)).length := by
  induction ds with
  | nil => rfl
  | cons d ds ih =>
      cases d with
      | zero =>
          rw [zeros, ih]
          rfl
      | succ d => rfl

/-- The value is that of the digits behind the zeros. -/
theorem value_drop_zeros (b : ℕ) (ds : List ℕ) : value b (ds.drop (zeros ds)) = value b ds := by
  obtain ⟨rest, hsplit, -⟩ := zeros_split ds
  have hdrop : ds.drop (zeros ds) = rest :=
    calc ds.drop (zeros ds) = (List.replicate (zeros ds) 0 ++ rest).drop (zeros ds) :=
          congrArg (List.drop (zeros ds)) hsplit
      _ = rest := List.drop_left' List.length_replicate
  have hvalue : value b ds = value b rest :=
    (congrArg (value b) hsplit).trans (value_zeros b (zeros ds) rest)
  rw [hdrop, hvalue]

theorem zeros_append {z : ℕ} {rest : List ℕ} (h : ∀ d ∈ rest.head?, d ≠ 0) :
    zeros (List.replicate z 0 ++ rest) = z := by
  induction z with
  | zero =>
      cases rest with
      | nil => rfl
      | cons d rest =>
          cases d with
          | zero => exact absurd rfl (h 0 rfl)
          | succ d => rfl
  | succ z ih =>
      rw [List.replicate_succ, List.cons_append, zeros, ih]

theorem respell_lt {b c : ℕ} (hc : 1 < c) {ds : List ℕ} : ∀ d ∈ respell b c ds, d < c := by
  intro d hd
  rcases List.mem_append.mp hd with hd | hd
  · rw [(List.mem_replicate.mp hd).2]
    exact Nat.lt_of_succ_lt hc
  · exact digits_lt hc hd

/-- **There and back**: respelling loses nothing. -/
theorem respell_respell {b c : ℕ} (hb : 1 < b) {ds : List ℕ} (hds : ∀ d ∈ ds, d < b) :
    respell c b (respell b c ds) = ds := by
  obtain ⟨rest, hsplit, hhead⟩ := zeros_split ds
  have hvalue : value b ds = value b rest := by
    rw [hsplit, value_zeros]
  have hzeros : zeros (respell b c ds) = zeros ds := by
    refine zeros_append ?_
    cases hdigits : digits c (value b ds) with
    | nil =>
        intro d hd
        cases hd
    | cons d' ds' =>
        intro d hd
        cases hd
        exact digits_head hdigits
  have hrest : ∀ d ∈ rest, d < b := by
    intro d hd
    refine hds d ?_
    rw [hsplit]
    exact List.mem_append_right _ hd
  rw [respell, hzeros, respell, value_zeros, value_digits, hvalue, digits_value hb hrest hhead]
  exact hsplit.symm

/-- **The first digits are those of the high part.** -/
theorem digits_append_low {b : ℕ} (hb : 1 < b) (k n : ℕ) :
    ∃ low, digits b n = digits b (n / b ^ k) ++ low := by
  induction k with
  | zero =>
      refine ⟨[], ?_⟩
      rw [Nat.pow_zero, Nat.div_one, List.append_nil]
  | succ k ih =>
      obtain ⟨low, hlow⟩ := ih
      rcases Nat.eq_zero_or_pos (n / b ^ k) with hzero | hpos
      · refine ⟨low, ?_⟩
        rw [hlow, Nat.pow_succ, ← Nat.div_div_eq_div_mul, hzero, Nat.zero_div]
      · refine ⟨n / b ^ k % b :: low, ?_⟩
        rw [hlow, digits, Nat.digits_def' hb hpos, List.reverse_cons, List.append_assoc,
          Nat.pow_succ, ← Nat.div_div_eq_div_mul]
        rfl

end Radix
