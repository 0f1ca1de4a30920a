import Mathlib.Algebra.Order.Archimedean.Basic
import Mathlib.Data.Int.Log
import Mathlib.Data.Rat.Floor
import Mathlib.Tactic.FieldSimp
import Mathlib.Tactic.GCongr
import Mathlib.Tactic.Linarith
import Mathlib.Tactic.NormNum
import Mathlib.Tactic.Positivity
import Mathlib.Tactic.Ring

/-! # Binary floating point

    The numbers of IEEE 754's binary64 as rationals: rounding to the nearest, ties
    to even, with gradual underflow, and to an infinity from a certain size on.

    * `nearest_near`, `nearest_error` — how far rounding moves a number;
    * `nearest_mono`, `nearest_nearest` — rounding is monotone, and done once;
    * `nearest_natCast` — small integers are kept;
    * `floor_hundredths`, `ceil_hundredths` — what is left of hundredths that go
      through a division and a multiplication, or a multiplication by a size. -/

namespace BinaryFloat

/-! ## Rounding to an integer -/

/-- The integer nearest to `q`, ties to even. -/
def roundHalfEven (q : ℚ) : ℤ :=
  let n := ⌊q⌋
  let rest := q - n
  if rest < 1 / 2 then n
  else if 1 / 2 < rest then n + 1
  else if n % 2 = 0 then n else n + 1

/-- It is the floor, -/
theorem floor_le_roundHalfEven (q : ℚ) : ⌊q⌋ ≤ roundHalfEven q := by
  unfold roundHalfEven
  dsimp only
  split_ifs <;> omega

/-- or the integer above it. -/
theorem roundHalfEven_le (q : ℚ) : roundHalfEven q ≤ ⌊q⌋ + 1 := by
  unfold roundHalfEven
  dsimp only
  split_ifs <;> omega

/-- Rounding moves a number by a half at most. -/
theorem roundHalfEven_near (q : ℚ) : |(roundHalfEven q : ℚ) - q| ≤ 1 / 2 := by
  have hlow := Int.floor_le q
  have hhigh := Int.lt_floor_add_one q
  rw [abs_le]
  unfold roundHalfEven
  dsimp only
  split_ifs with hdown hup heven
  · constructor <;> linarith
  · push_cast
    constructor <;> linarith
  · constructor <;> linarith
  · push_cast
    constructor <;> linarith

/-- What is nearer than a half is what a number rounds to. -/
theorem roundHalfEven_eq {q : ℚ} {n : ℤ} (h : |(n : ℚ) - q| < 1 / 2) :
    roundHalfEven q = n := by
  have hnear := roundHalfEven_near q
  have hdist : |((roundHalfEven q - n : ℤ) : ℚ)| < 1 := by
    have htriangle := abs_sub_le (roundHalfEven q : ℚ) q n
    rw [abs_sub_comm q] at htriangle
    push_cast
    linarith
  rw [← Int.cast_abs] at hdist
  have hzero : |roundHalfEven q - n| < 1 := by exact_mod_cast hdist
  rw [Int.abs_lt_one_iff] at hzero
  omega

@[simp] theorem roundHalfEven_intCast (n : ℤ) : roundHalfEven n = n :=
  roundHalfEven_eq (by norm_num)

/-- A larger number rounds to no smaller one. -/
theorem roundHalfEven_mono {q r : ℚ} (h : q ≤ r) : roundHalfEven q ≤ roundHalfEven r := by
  by_cases hfloor : ⌊q⌋ < ⌊r⌋
  · have hq := roundHalfEven_le q
    have hr := floor_le_roundHalfEven r
    omega
  · have hsame : ⌊q⌋ = ⌊r⌋ := Int.le_antisymm (Int.floor_mono h) (Int.not_lt.mp hfloor)
    by_cases hdown : q - ⌊q⌋ < 1 / 2
    · have hq : roundHalfEven q = ⌊q⌋ := if_pos hdown
      rw [hq, hsame]
      exact floor_le_roundHalfEven r
    · by_cases hup : 1 / 2 < r - ⌊r⌋
      · have hr : roundHalfEven r = ⌊r⌋ + 1 :=
          (if_neg (not_lt.mpr hup.le)).trans (if_pos hup)
        rw [hr, ← hsame]
        exact roundHalfEven_le q
      · -- both are the half between two integers
        rw [not_lt, hsame] at hdown
        have hqr : r ≤ q := by linarith [not_lt.mp hup]
        rw [le_antisymm h hqr]

/-! ## Rounding to a float -/

/-- From this magnitude on a number rounds to an infinity. -/
def overflowLimit : ℚ := 2 ^ 1024 - 2 ^ 970

/-- No small number is beyond the limit. -/
theorem lt_overflowLimit {q : ℚ} (h : |q| ≤ 2 ^ 53) : |q| < overflowLimit :=
  lt_of_le_of_lt h (by decide +kernel)

/-- The distance between the floats around a number. -/
def spacing (q : ℚ) : ℚ := (2 : ℚ) ^ max (Int.log 2 |q| - 52) (-1074)

/-- The multiple of the spacing nearest to a number, ties to even. -/
def nearest (q : ℚ) : ℚ := roundHalfEven (q / spacing q) * spacing q

theorem spacing_pos (q : ℚ) : 0 < spacing q := zpow_pos two_pos _

/-- Rounding moves a number by half a spacing at most. -/
theorem nearest_near (q : ℚ) : |nearest q - q| ≤ spacing q / 2 := by
  have hpos := spacing_pos q
  have hround := roundHalfEven_near (q / spacing q)
  have hscale : nearest q - q = (roundHalfEven (q / spacing q) - q / spacing q) * spacing q := by
    rw [nearest, sub_mul, div_mul_cancel₀ q hpos.ne']
  rw [hscale, abs_mul, abs_of_pos hpos]
  nlinarith

/-- Away from zero the spacing is small. -/
theorem spacing_le {q : ℚ} (h : (2 : ℚ) ^ (-1022 : ℤ) ≤ q) : spacing q ≤ q / 2 ^ 52 := by
  have hq : 0 < q := lt_of_lt_of_le (zpow_pos two_pos _) h
  have hlog : (-1022 : ℤ) ≤ Int.log 2 q := by
    have := (Int.zpow_le_iff_le_log (b := 2) one_lt_two hq (x := -1022)).mp (by exact_mod_cast h)
    exact this
  have hself := Int.zpow_log_le_self (b := 2) one_lt_two hq
  rw [spacing, abs_of_pos hq, max_eq_left (by omega), zpow_sub₀ two_ne_zero]
  have hself' : (2 : ℚ) ^ Int.log 2 q ≤ q := by exact_mod_cast hself
  have hcast : (2 : ℚ) ^ (52 : ℤ) = 2 ^ 52 := by norm_cast
  rw [hcast]
  gcongr

/-- **The relative error** of rounding a number that is not tiny. -/
theorem nearest_error {q : ℚ} (h : (2 : ℚ) ^ (-1022 : ℤ) ≤ q) :
    |nearest q - q| ≤ q / 2 ^ 53 := by
  have hnear := nearest_near q
  have hspacing := spacing_le h
  linarith

/-- A multiple of the spacing is not rounded past. -/
theorem nearest_le {q : ℚ} {k : ℤ} (h : q ≤ k * spacing q) : nearest q ≤ k * spacing q := by
  have hpos := spacing_pos q
  have hround : roundHalfEven (q / spacing q) ≤ k := by
    rw [← roundHalfEven_intCast k]
    exact roundHalfEven_mono ((div_le_iff₀ hpos).mpr h)
  have hcast : (roundHalfEven (q / spacing q) : ℚ) ≤ k := by exact_mod_cast hround
  rw [nearest]
  gcongr

theorem le_nearest {q : ℚ} {k : ℤ} (h : k * spacing q ≤ q) : k * spacing q ≤ nearest q := by
  have hpos := spacing_pos q
  have hround : k ≤ roundHalfEven (q / spacing q) := by
    rw [← roundHalfEven_intCast k]
    exact roundHalfEven_mono ((le_div_iff₀ hpos).mpr h)
  have hcast : (k : ℚ) ≤ roundHalfEven (q / spacing q) := by exact_mod_cast hround
  rw [nearest]
  gcongr

/-- A multiple of its spacing is a float. -/
theorem nearest_eq {q : ℚ} {k : ℤ} (h : q = k * spacing q) : nearest q = q :=
  le_antisymm (by conv_rhs => rw [h]
                  exact nearest_le h.le)
    (by conv_lhs => rw [h]
        exact le_nearest h.ge)

theorem nearest_zero : nearest 0 = 0 := by
  rw [nearest, zero_div, show roundHalfEven 0 = 0 from roundHalfEven_intCast 0]
  simp

theorem nearest_nonneg {q : ℚ} (h : 0 ≤ q) : 0 ≤ nearest q := by
  have hzero : ((0 : ℤ) : ℚ) * spacing q ≤ nearest q := le_nearest (by simpa using h)
  simpa using hzero

/-- A power of two at least as large as the spacing is a multiple of it. -/
theorem zpow_eq_mul {e f : ℤ} (h : e ≤ f) : ∃ k : ℤ, (2 : ℚ) ^ f = k * 2 ^ e := by
  obtain ⟨n, rfl⟩ := Int.le.dest h
  refine ⟨2 ^ n, ?_⟩
  rw [zpow_add₀ two_ne_zero, mul_comm]
  push_cast
  rfl

/-- **Rounding is monotone.** -/
theorem nearest_mono {q r : ℚ} (hq : 0 ≤ q) (h : q ≤ r) : nearest q ≤ nearest r := by
  rcases hq.eq_or_lt with rfl | hq
  · rw [nearest_zero]
    exact nearest_nonneg h
  · have hr := hq.trans_le h
    have hlog := Int.log_mono_right (b := 2) hq h
    by_cases hsame : spacing q = spacing r
    · have hround : roundHalfEven (q / spacing q) ≤ roundHalfEven (r / spacing q) := by
        refine roundHalfEven_mono ?_
        have hpos := spacing_pos q
        gcongr
      have hcast : (roundHalfEven (q / spacing q) : ℚ) ≤ roundHalfEven (r / spacing q) := by
        exact_mod_cast hround
      rw [nearest, nearest, ← hsame]
      have hpos := spacing_pos q
      gcongr
    · -- a power of two stands between the two
      have hexp : max (Int.log 2 q - 52) (-1074) ≠ max (Int.log 2 r - 52) (-1074) := by
        intro heq
        refine hsame ?_
        rw [spacing, spacing, abs_of_pos hq, abs_of_pos hr, heq]
      have hgap : Int.log 2 q + 1 ≤ Int.log 2 r ∧ -1074 < Int.log 2 r - 52 := by omega
      have hbelow : q ≤ (2 : ℚ) ^ Int.log 2 r := by
        have hlt := Int.lt_zpow_succ_log_self (b := 2) one_lt_two q
        have hle : (2 : ℚ) ^ (Int.log 2 q + 1) ≤ 2 ^ Int.log 2 r :=
          zpow_le_zpow_right₀ one_le_two hgap.1
        exact le_trans (by exact_mod_cast hlt.le) hle
      have habove : (2 : ℚ) ^ Int.log 2 r ≤ r := by
        exact_mod_cast Int.zpow_log_le_self (b := 2) one_lt_two hr
      obtain ⟨k, hk⟩ := zpow_eq_mul (e := max (Int.log 2 q - 52) (-1074)) (f := Int.log 2 r)
        (by omega)
      obtain ⟨l, hl⟩ := zpow_eq_mul (e := max (Int.log 2 r - 52) (-1074)) (f := Int.log 2 r)
        (by omega)
      have hk' : (2 : ℚ) ^ Int.log 2 r = k * spacing q := by rw [hk, spacing, abs_of_pos hq]
      have hl' : (2 : ℚ) ^ Int.log 2 r = l * spacing r := by rw [hl, spacing, abs_of_pos hr]
      calc nearest q ≤ k * spacing q := nearest_le (hk' ▸ hbelow)
        _ = l * spacing r := hk'.symm.trans hl'
        _ ≤ nearest r := le_nearest (hl' ▸ habove)

/-- An integer below `2 ^ 53` is a float. -/
theorem nearest_natCast {n : ℕ} (h : n < 2 ^ 53) : nearest n = n := by
  have hexp : max (Int.log 2 |(n : ℚ)| - 52) (-1074) ≤ 0 := by
    rw [Nat.abs_cast, Int.log_natCast]
    have hlog : Nat.log 2 n ≤ 52 := by
      by_cases hn : n = 0
      · rw [hn, Nat.log_zero_right]
        omega
      · exact Nat.lt_succ_iff.mp (Nat.log_lt_of_lt_pow hn h)
    omega
  obtain ⟨k, hk⟩ := zpow_eq_mul hexp
  have hspacing : (1 : ℚ) = k * spacing n := hk
  refine nearest_eq (k := n * k) ?_
  push_cast
  rw [mul_assoc, ← hspacing, mul_one]

/-- **Rounding what is rounded changes nothing.** -/
theorem nearest_nearest {q : ℚ} (hq : 0 ≤ q) : nearest (nearest q) = nearest q := by
  rcases hq.eq_or_lt with rfl | hq
  · rw [nearest_zero, nearest_zero]
  rcases (nearest_nonneg hq.le).eq_or_lt with hzero | hx
  · rw [← hzero, nearest_zero]
  -- it is a positive number of spacings, at least one
  have hfloat : nearest q = roundHalfEven (q / spacing q) * spacing q := rfl
  have hone : spacing q ≤ nearest q := by
    have hround : (0 : ℚ) < roundHalfEven (q / spacing q) := by
      rw [hfloat] at hx
      exact pos_of_mul_pos_left hx (spacing_pos q).le
    have hint : (1 : ℚ) ≤ roundHalfEven (q / spacing q) := by
      have hpos : 0 < roundHalfEven (q / spacing q) := by exact_mod_cast hround
      exact_mod_cast hpos
    rw [hfloat]
    exact le_mul_of_one_le_left (spacing_pos q).le hint
  have hlog : max (Int.log 2 q - 52) (-1074) ≤ Int.log 2 (nearest q) := by
    have hmono := Int.log_mono_right (b := 2) (spacing_pos q) hone
    rw [spacing, abs_of_pos hq] at hmono
    have hpow := Int.log_zpow (R := ℚ) (b := 2) one_lt_two (max (Int.log 2 q - 52) (-1074))
    rw [Nat.cast_ofNat] at hpow
    rwa [hpow] at hmono
  by_cases hup : Int.log 2 q < Int.log 2 (nearest q)
  · -- rounded up to a power of two
    have hbelow : q ≤ (2 : ℚ) ^ Int.log 2 (nearest q) := by
      have hlt := Int.lt_zpow_succ_log_self (b := 2) one_lt_two q
      have hle : (2 : ℚ) ^ (Int.log 2 q + 1) ≤ 2 ^ Int.log 2 (nearest q) :=
        zpow_le_zpow_right₀ one_le_two hup
      exact le_trans (by exact_mod_cast hlt.le) hle
    have habove : (2 : ℚ) ^ Int.log 2 (nearest q) ≤ nearest q := by
      exact_mod_cast Int.zpow_log_le_self (b := 2) one_lt_two hx
    obtain ⟨k, hk⟩ := zpow_eq_mul hlog
    have hle : nearest q ≤ 2 ^ Int.log 2 (nearest q) := by
      have hspacing : (2 : ℚ) ^ max (Int.log 2 q - 52) (-1074) = spacing q := by
        rw [spacing, abs_of_pos hq]
      rw [hspacing] at hk
      exact (nearest_le (hk ▸ hbelow)).trans hk.ge
    obtain ⟨j, hj⟩ := zpow_eq_mul (e := max (Int.log 2 (nearest q) - 52) (-1074))
      (f := Int.log 2 (nearest q)) (by omega)
    refine nearest_eq (k := j) ?_
    rw [spacing, abs_of_pos hx, ← hj]
    exact le_antisymm hle habove
  · -- the spacing is no larger than it was
    obtain ⟨j, hj⟩ := zpow_eq_mul (e := max (Int.log 2 (nearest q) - 52) (-1074))
      (f := max (Int.log 2 q - 52) (-1074)) (by omega)
    have hspacing : spacing q = j * spacing (nearest q) := by
      rw [spacing, spacing, abs_of_pos hq, abs_of_pos hx, hj]
    refine nearest_eq (k := roundHalfEven (q / spacing q) * j) ?_
    conv_lhs => rw [hfloat, hspacing]
    push_cast
    rw [mul_assoc, ← hspacing]

/-! ## Data -/

/-- A binary64 datum; a zero is kept without its sign. -/
inductive Double where
  | finite (q : ℚ)
  | infinity (negative : Bool)
  | nan
deriving DecidableEq

namespace Double

/-- The float nearest to a number, ties to even. -/
def ofRat (q : ℚ) : Double :=
  if overflowLimit ≤ |q| then .infinity (decide (q < 0)) else .finite (nearest q)

def neg : Double → Double
  | finite q => finite (-q)
  | infinity negative => infinity (!negative)
  | nan => nan

def mul : Double → Double → Double
  | finite p, finite q => ofRat (p * q)
  | infinity negative, finite q =>
      if q = 0 then nan else infinity (negative != decide (q < 0))
  | finite q, infinity negative =>
      if q = 0 then nan else infinity (negative != decide (q < 0))
  | infinity m, infinity n => infinity (m != n)
  | _, _ => nan

def isZero : Double → Bool
  | finite q => q == 0
  | _ => false

theorem ofRat_of_lt {q : ℚ} (h : |q| < overflowLimit) : ofRat q = .finite (nearest q) :=
  if_neg (not_le.mpr h)

end Double

/-! ## Decimals -/

/-- A multiple of a power of ten that reads back as the float `q`: the nearest, or
    where it does not read back the one on the other side. -/
def decimalAt (q : ℚ) (e : ℤ) : Option ℚ :=
  let n := roundHalfEven (q / 10 ^ e)
  let other := if (n : ℚ) ≤ q / 10 ^ e then n + 1 else n - 1
  if nearest (n * 10 ^ e) = q then some (n * 10 ^ e)
  else if nearest (other * 10 ^ e) = q then some (other * 10 ^ e)
  else none

/-- The number that a float is written as: the first of the numbers of one digit, two
    digits and so on that reads back; seventeen digits always do. -/
def shortest (q : ℚ) : ℚ :=
  ((List.range 17).findSome? fun n : ℕ => decimalAt q (Int.log 10 |q| - n)).getD q

/-! ## Two operations in a row -/

/-- **The relative error** of a rounded product with a rounded factor. -/
theorem nearest_mul_error {q : ℚ} {c : ℕ} (hq : (2 : ℚ) ^ (-1021 : ℤ) ≤ q) (hc : 0 < c) :
    |nearest (nearest q * c) - q * c| ≤ q * c * (3 / 2 ^ 53) := by
  have hc' : (1 : ℚ) ≤ c := by exact_mod_cast hc
  have hstep : (2 : ℚ) ^ (-1021 : ℤ) = 2 ^ (-1022 : ℤ) * 2 := by
    rw [← zpow_add_one₀ two_ne_zero]
    norm_num
  have htiny : (0 : ℚ) < 2 ^ (-1022 : ℤ) := zpow_pos two_pos _
  have hfactor := nearest_error (q := q) (by linarith)
  have hpos : 0 < q := by linarith
  obtain ⟨hlow, hhigh⟩ := abs_le.mp hfactor
  have hhalf : q / 2 ≤ nearest q := by linarith
  have hlarge : (2 : ℚ) ^ (-1022 : ℤ) ≤ nearest q * c := by
    nlinarith
  have hproduct := nearest_error hlarge
  have hscaled : |nearest q * c - q * c| ≤ q * c / 2 ^ 53 := by
    rw [← sub_mul, abs_mul, Nat.abs_cast, mul_div_right_comm]
    gcongr
  have hbound : nearest q * c / 2 ^ 53 ≤ q * c * (2 / 2 ^ 53) := by
    have htwice : nearest q * c ≤ 2 * (q * c) := by nlinarith
    linarith
  calc |nearest (nearest q * c) - q * c|
      ≤ |nearest (nearest q * c) - nearest q * c| + |nearest q * c - q * c| := abs_sub_le _ _ _
    _ ≤ nearest q * c / 2 ^ 53 + q * c / 2 ^ 53 := add_le_add hproduct hscaled
    _ ≤ q * c * (2 / 2 ^ 53) + q * c / 2 ^ 53 := by gcongr
    _ = q * c * (3 / 2 ^ 53) := by ring

/-! ## Hundredths -/

/-- Multiplying the float of `m` hundredths by a hundred gives `m` at least. -/
def HundredthKept (m : ℕ) : Prop := (m : ℚ) ≤ nearest (nearest (m / 100) * (100 : ℕ))

instance : DecidablePred HundredthKept := fun _ => inferInstanceAs (Decidable (_ ≤ _))

/-- The hundredths in `a / v` that a division and a multiplication by a hundred leave. -/
def hundredths (a v : ℕ) : ℕ :=
  100 * a / v - (if v ∣ 100 * a ∧ ¬ HundredthKept (100 * a / v) then 1 else 0)

theorem hundredths_le (a v : ℕ) : hundredths a v ≤ 100 * a :=
  (Nat.sub_le _ _).trans (Nat.div_le_self _ _)

/-- So many hundredths of `v` are no more than `a`. -/
theorem mul_hundredths_le (a v : ℕ) : v * hundredths a v ≤ 100 * a :=
  (Nat.mul_le_mul_left v (Nat.sub_le _ _)).trans (Nat.mul_div_le _ _)

/-- A single hundredth is not lost. -/
theorem hundredths_pos_iff {a v : ℕ} (hv : 0 < v) : 0 < hundredths a v ↔ v ≤ 100 * a := by
  have hone : HundredthKept 1 := by decide +kernel
  have hquot : 1 ≤ 100 * a / v ↔ v ≤ 100 * a := by
    rw [Nat.le_div_iff_mul_le hv, one_mul]
  rw [← hquot, hundredths]
  split
  · rename_i hlost
    have hne : 100 * a / v ≠ 1 := by
      intro heq
      rw [heq] at hlost
      exact hlost.2 hone
    omega
  · omega

/-- The price of `v` at `k` hundredths comes out above the whole number it is. -/
def Overshoots (v k : ℕ) : Prop :=
  100 ∣ v * k ∧ ((v * k / 100 : ℕ) : ℚ) < nearest (nearest (k / 100) * v)

instance (v k : ℕ) : Decidable (Overshoots v k) := inferInstanceAs (Decidable (_ ∧ _))

/-- A quotient far below a hundredth has none. -/
theorem nearest_mul_lt_one {q : ℚ} (hq : 0 ≤ q) (hsmall : q ≤ 1 / 1024) :
    nearest (nearest q * (100 : ℕ)) < 1 := by
  have hquot := nearest_mono hq hsmall
  have hprod : nearest (nearest q * (100 : ℕ)) ≤ nearest (nearest (1 / 1024) * (100 : ℕ)) :=
    nearest_mono (mul_nonneg (nearest_nonneg hq) (by positivity))
      (mul_le_mul_of_nonneg_right hquot (Nat.cast_nonneg 100))
  have hlarge : (2 : ℚ) ^ (-1021 : ℤ) ≤ 1 / 1024 := by
    calc (2 : ℚ) ^ (-1021 : ℤ) ≤ 2 ^ (-10 : ℤ) := zpow_le_zpow_right₀ one_le_two (by norm_num)
      _ = 1 / 1024 := by norm_num
  have herror : |nearest (nearest (1 / 1024) * (100 : ℕ)) - 1 / 1024 * (100 : ℕ)|
      ≤ 1 / 1024 * (100 : ℕ) * (3 / 2 ^ 53) := nearest_mul_error hlarge (by decide)
  have hhigh := (abs_le.mp herror).2
  have hvalue : (1 / 1024 : ℚ) * (100 : ℕ) * (3 / 2 ^ 53) + 1 / 1024 * (100 : ℕ) < 1 := by
    norm_num
  calc nearest (nearest q * (100 : ℕ)) ≤ nearest (nearest (1 / 1024) * (100 : ℕ)) := hprod
    _ ≤ 1 / 1024 * (100 : ℕ) * (3 / 2 ^ 53) + 1 / 1024 * (100 : ℕ) := by linarith
    _ < 1 := hvalue

/-- What a division by `v` and a multiplication move the hundredths by is less than one
    part of `v`. -/
theorem hundredths_error {a v : ℕ} (hv : 0 < v) (h : 100 * a ≤ 2 ^ 51)
    (hlarge : (2 : ℚ) ^ (-1021 : ℤ) ≤ a / v) :
    |nearest (nearest (a / v) * (100 : ℕ)) - 100 * a / v| < 1 / v := by
  have hv' : (0 : ℚ) < v := by exact_mod_cast hv
  have hbound : (100 * a : ℚ) ≤ 2 ^ 51 := by exact_mod_cast h
  have hscale : (a : ℚ) / v * (100 : ℕ) = 100 * a / v := by
    push_cast
    ring
  have herror : |nearest (nearest (a / v) * (100 : ℕ)) - a / v * (100 : ℕ)|
      ≤ a / v * (100 : ℕ) * (3 / 2 ^ 53) := nearest_mul_error hlarge (by decide)
  rw [hscale] at herror
  refine herror.trans_lt ?_
  rw [div_mul_eq_mul_div, div_lt_div_iff_of_pos_right hv']
  linarith

/-- **The hundredths of a quotient**, divided and multiplied in binary: one is
    lost exactly when there is no remainder and the product comes out below. -/
theorem floor_hundredths {a v : ℕ} (hv : 0 < v) (h : 100 * a ≤ 2 ^ 51) :
    ⌊nearest (nearest (a / v) * (100 : ℕ))⌋ = hundredths a v := by
  have hv' : (0 : ℚ) < v := by exact_mod_cast hv
  have hdiv : (100 * a : ℚ) = v * (100 * a / v : ℕ) + (100 * a % v : ℕ) := by
    exact_mod_cast (Nat.div_add_mod (100 * a) v).symm
  have hrem : 100 * a % v < v := Nat.mod_lt _ hv
  have hnonneg : 0 ≤ nearest (nearest (a / v) * (100 : ℕ)) :=
    nearest_nonneg (mul_nonneg (nearest_nonneg (by positivity)) (by positivity))
  by_cases htiny : (a : ℚ) / v < 2 ^ (-1021 : ℤ)
  · -- far below a hundredth
    have hsmall : (a : ℚ) / v ≤ 1 / 1024 := by
      calc (a : ℚ) / v ≤ 2 ^ (-1021 : ℤ) := htiny.le
        _ ≤ 2 ^ (-10 : ℤ) := zpow_le_zpow_right₀ one_le_two (by norm_num)
        _ = 1 / 1024 := by norm_num
    have hbelow := nearest_mul_lt_one (by positivity) hsmall
    have hnone : 100 * a / v = 0 := by
      refine Nat.div_eq_of_lt ?_
      rw [div_le_iff₀ hv'] at hsmall
      have : (100 * a : ℚ) < v := by linarith
      exact_mod_cast this
    rw [hundredths, hnone, Nat.zero_sub, Int.floor_eq_iff]
    push_cast
    exact ⟨hnonneg, by linarith⟩
  · obtain ⟨hlow, hhigh⟩ := abs_lt.mp (hundredths_error hv h (not_lt.mp htiny))
    have hquot : 100 * (a : ℚ) / v = (100 * a / v : ℕ) + (100 * a % v : ℕ) / v := by
      rw [hdiv]
      field_simp
    have hpart : ((100 * a % v : ℕ) : ℚ) / v ≤ 1 - 1 / v := by
      rw [div_le_iff₀ hv', sub_mul, one_mul, one_div_mul_cancel hv'.ne']
      have hle : 100 * a % v + 1 ≤ v := hrem
      have hcast : ((100 * a % v : ℕ) : ℚ) + 1 ≤ v := by exact_mod_cast hle
      linarith
    rw [Int.floor_eq_iff, hundredths]
    by_cases hexact : v ∣ 100 * a
    · -- no remainder: what was moved decides
      have hone : (1 : ℚ) / v ≤ 1 := by
        rw [div_le_one hv']
        exact_mod_cast hv
      have hzero : 100 * a % v = 0 := Nat.mod_eq_zero_of_dvd hexact
      rw [hzero, Nat.cast_zero, zero_div, add_zero] at hquot
      have hkeeps : HundredthKept (100 * a / v)
          ↔ ((100 * a / v : ℕ) : ℚ) ≤ nearest (nearest (a / v) * (100 : ℕ)) := by
        rw [HundredthKept, ← hquot]
        ring_nf
      rw [hquot] at hlow hhigh
      by_cases hkept : HundredthKept (100 * a / v)
      · rw [if_neg (by simp [hkept]), Nat.sub_zero, Int.cast_natCast]
        exact ⟨hkeeps.mp hkept, by linarith⟩
      · have hlost := not_le.mp (mt hkeeps.mpr hkept)
        have hpos : 1 ≤ 100 * a / v := by
          have : (0 : ℚ) < (100 * a / v : ℕ) := lt_of_le_of_lt hnonneg hlost
          exact_mod_cast this
        rw [if_pos ⟨hexact, hkept⟩, Int.cast_natCast, Nat.cast_sub hpos, Nat.cast_one]
        exact ⟨by linarith, by linarith⟩
    · -- a remainder of one part at least absorbs it
      have hrest : 1 ≤ 100 * a % v := by
        by_contra hzero
        exact hexact (Nat.dvd_of_mod_eq_zero (by omega))
      have hrest' : (1 : ℚ) / v ≤ (100 * a % v : ℕ) / v := by
        have hcast : (1 : ℚ) ≤ (100 * a % v : ℕ) := by exact_mod_cast hrest
        gcongr
      rw [if_neg (by simp [hexact]), Nat.sub_zero, Int.cast_natCast]
      exact ⟨by linarith, by linarith⟩

/-- So many hundredths are printed and typed as they are. -/
theorem roundHalfEven_hundredths {k : ℕ} (h : k ≤ 2 ^ 51) :
    roundHalfEven (nearest (k / 100) * 100) = k := by
  refine roundHalfEven_eq ?_
  rcases Nat.eq_zero_or_pos k with rfl | hk
  · have hzero : nearest (((0 : ℕ) : ℚ) / 100) = 0 := by
      rw [Nat.cast_zero, zero_div, nearest_zero]
    rw [hzero]
    norm_num
  · have hk' : (1 : ℚ) ≤ k := by exact_mod_cast hk
    have htop : (k : ℚ) ≤ 2 ^ 51 := by exact_mod_cast h
    have hlarge : (2 : ℚ) ^ (-1022 : ℤ) ≤ k / 100 := by
      calc (2 : ℚ) ^ (-1022 : ℤ) ≤ 2 ^ (-7 : ℤ) :=
            zpow_le_zpow_right₀ one_le_two (by norm_num)
        _ ≤ 1 / 100 := by norm_num
        _ ≤ k / 100 := by gcongr
    obtain ⟨hlow, hhigh⟩ := abs_le.mp (nearest_error hlarge)
    rw [abs_lt]
    push_cast
    constructor
    · linarith
    · linarith

/-- **The price of `v` at `k` hundredths**, multiplied in binary and rounded up:
    one too many exactly when it overshoots. -/
theorem ceil_hundredths {v k : ℕ} (hv : 0 < v) (hk : 0 < k) (h : v * k ≤ 2 ^ 51) :
    ⌈nearest (nearest (k / 100) * v)⌉
      = ⌈(v * k : ℚ) / 100⌉ + if Overshoots v k then 1 else 0 := by
  have hk' : (1 : ℚ) ≤ k := by exact_mod_cast hk
  have hbound : (v * k : ℚ) ≤ 2 ^ 51 := by exact_mod_cast h
  have hlarge : (2 : ℚ) ^ (-1021 : ℤ) ≤ k / 100 := by
    calc (2 : ℚ) ^ (-1021 : ℤ) ≤ 2 ^ (-7 : ℤ) :=
          zpow_le_zpow_right₀ one_le_two (by norm_num)
      _ ≤ 1 / 100 := by norm_num
      _ ≤ k / 100 := by gcongr
  have herror := nearest_mul_error hlarge hv
  have hscale : (k : ℚ) / 100 * v = v * k / 100 := by ring
  rw [hscale] at herror
  obtain ⟨hlow, hhigh⟩ := abs_le.mp herror
  -- the error is less than a hundredth
  have hstep : (v * k : ℚ) / 100 * (3 / 2 ^ 53) < 1 / 100 := by linarith
  have hdiv : (v * k : ℚ) / 100 = (v * k / 100 : ℕ) + (v * k % 100 : ℕ) / 100 := by
    have hsplit : (v * k : ℚ) = 100 * (v * k / 100 : ℕ) + (v * k % 100 : ℕ) := by
      exact_mod_cast (Nat.div_add_mod (v * k) 100).symm
    rw [hsplit]
    ring
  have hrem : ((v * k % 100 : ℕ) : ℚ) ≤ 99 := by
    exact_mod_cast Nat.lt_succ_iff.mp (Nat.mod_lt (v * k) (by decide : 100 > 0))
  by_cases hexact : 100 ∣ v * k
  · have hzero : v * k % 100 = 0 := Nat.mod_eq_zero_of_dvd hexact
    rw [hzero, Nat.cast_zero, zero_div, add_zero] at hdiv
    rw [hdiv] at hlow hhigh hstep ⊢
    rw [Int.ceil_natCast]
    by_cases hover : Overshoots v k
    · rw [if_pos hover, Int.ceil_eq_iff, Int.cast_add, Int.cast_natCast, Int.cast_one]
      exact ⟨by linarith [hover.2], by linarith⟩
    · have hle : nearest (nearest (k / 100) * v) ≤ (v * k / 100 : ℕ) :=
        not_lt.mp fun hlt => hover ⟨hexact, hlt⟩
      rw [if_neg hover, add_zero, Int.ceil_eq_iff, Int.cast_natCast]
      exact ⟨by linarith, hle⟩
  · have hrest : (1 : ℚ) ≤ (v * k % 100 : ℕ) := by
      have hpos : 1 ≤ v * k % 100 := by
        by_contra hzero
        exact hexact (Nat.dvd_of_mod_eq_zero (by omega))
      exact_mod_cast hpos
    have hwhole : ⌈(v * k : ℚ) / 100⌉ = ((v * k / 100 : ℕ) : ℤ) + 1 := by
      rw [hdiv, Int.ceil_eq_iff, Int.cast_add, Int.cast_natCast, Int.cast_one]
      exact ⟨by linarith, by linarith⟩
    rw [if_neg fun hover => hexact hover.1, add_zero, hwhole, Int.ceil_eq_iff, Int.cast_add,
      Int.cast_natCast, Int.cast_one]
    rw [hdiv] at hlow hhigh hstep
    exact ⟨by linarith, by linarith⟩

/-- A few hundredths are read as the float nearest to them. -/
theorem ofRat_hundredths {k : ℕ} (h : k ≤ 2 ^ 51) :
    Double.ofRat (k / 100) = .finite (nearest (k / 100)) := by
  have hk : (k : ℚ) ≤ 2 ^ 51 := by exact_mod_cast h
  refine Double.ofRat_of_lt (lt_overflowLimit ?_)
  rw [abs_of_nonneg (by positivity)]
  linarith [Nat.cast_nonneg (α := ℚ) k]

end BinaryFloat
