import Mathlib.Data.Nat.Bitwise
import Mathlib.Logic.Function.Iterate

/-! # Checksums that catch a wrong symbol

    A shift register over exclusive or: each symbol shifts the register, the
    bits shifted out select generators that are fed back, and the symbol is
    added.  Changing one symbol changes the result by that difference, shifted
    on once for every symbol behind it.

    * `shift_xor`, `run_replace` — the register is linear, so the difference
      does not depend on the other symbols;
    * `eq_zero_of_shift` — shifting loses nothing when the generators' low bits
      are independent;
    * `run_replace_ne` — so one wrong symbol is caught at any length. -/

namespace TypoCode

/-! ## Feedback -/

/-- What the bits of `top` select among the generators, from position `i` on. -/
def feedFrom (top : ℕ) : List ℕ → ℕ → ℕ
  | [], _ => 0
  | g :: gs, i => (if top.testBit i then g else 0) ^^^ feedFrom top gs (i + 1)

/-- What the bits of `top` feed back. -/
def feed (gens : List ℕ) (top : ℕ) : ℕ := feedFrom top gens 0

/-- Feeding the generators is linear in the top bits. -/
theorem feedFrom_xor (a b : ℕ) (gens : List ℕ) (i : ℕ) :
    feedFrom (a ^^^ b) gens i = feedFrom a gens i ^^^ feedFrom b gens i := by
  induction gens generalizing i with
  | nil => exact (Nat.xor_self 0).symm
  | cons g gs ih =>
      have hbit : (if (a ^^^ b).testBit i then g else 0)
          = (if a.testBit i then g else 0) ^^^ (if b.testBit i then g else 0) := by
        rw [Nat.testBit_xor]
        cases a.testBit i <;> cases b.testBit i <;> simp
      rw [feedFrom, feedFrom, feedFrom, ih, hbit]
      ac_rfl

/-- It stays within the width of the generators. -/
theorem feedFrom_lt {w : ℕ} (top : ℕ) {gens : List ℕ} (h : ∀ g ∈ gens, g < 2 ^ w)
    (i : ℕ) : feedFrom top gens i < 2 ^ w := by
  induction gens generalizing i with
  | nil => exact Nat.two_pow_pos w
  | cons g gs ih =>
      rw [feedFrom]
      refine Nat.xor_lt_two_pow ?_ (ih (fun g' hg' => h g' (List.mem_cons_of_mem _ hg')) _)
      split
      · exact h g List.mem_cons_self
      · exact Nat.two_pow_pos w

/-- And zero feeds nothing. -/
theorem feedFrom_zero (gens : List ℕ) (i : ℕ) : feedFrom 0 gens i = 0 := by
  induction gens generalizing i with
  | nil => rfl
  | cons g gs ih =>
      rw [feedFrom, ih, Nat.zero_testBit, Nat.xor_zero]
      rfl

/-- Feeding back one generator after the other onto a register. -/
theorem foldl_feed (top : ℕ) (gens : List ℕ) (i c : ℕ) :
    (gens.zipIdx i).foldl (fun c gen => c ^^^ if (top >>> gen.2) &&& 1 ≠ 0 then gen.1 else 0) c
      = c ^^^ feedFrom top gens i := by
  induction gens generalizing i c with
  | nil => exact (Nat.xor_zero c).symm
  | cons g gs ih =>
      have hbit : ((top >>> i) &&& 1 ≠ 0) ↔ top.testBit i = true := by
        rw [Nat.testBit, Nat.and_comm]
        simp
      rw [List.zipIdx_cons, List.foldl_cons, ih, feedFrom, Nat.xor_assoc]
      simp only [hbit]

/-! ## The register -/

/-- A register of `width` bits fed symbols of `symbol` bits.  The generators
    stay inside the register, and their low bits tell what was shifted out. -/
structure Code where
  width : ℕ
  symbol : ℕ
  generators : List ℕ
  wide : symbol ≤ width
  generators_lt : ∀ g ∈ generators, g < 2 ^ width
  independent : ∀ top < 2 ^ symbol, feed generators top % 2 ^ symbol = 0 → top = 0

namespace Code

variable (C : Code)

/-- One shift of the register, with its feedback. -/
def shift (c : ℕ) : ℕ :=
  ((c % 2 ^ (C.width - C.symbol)) <<< C.symbol)
    ^^^ feed C.generators (c >>> (C.width - C.symbol))

/-- The register after the symbols, from `c`. -/
def run (c : ℕ) (symbols : List ℕ) : ℕ := symbols.foldl (fun c v => C.shift c ^^^ v) c

/-- A run, by its first value. -/
@[simp] theorem run_cons (c v : ℕ) (vs : List ℕ) :
    C.run c (v :: vs) = C.run (C.shift c ^^^ v) vs := rfl

/-- A run goes on where the one before it ended. -/
theorem run_append (c : ℕ) (l r : List ℕ) : C.run c (l ++ r) = C.run (C.run c l) r :=
  List.foldl_append

/-- **A step is linear.** -/
theorem shift_xor (a b : ℕ) : C.shift (a ^^^ b) = C.shift a ^^^ C.shift b := by
  rw [shift, shift, shift, feed, feed, feed, Nat.shiftRight_xor_distrib, feedFrom_xor,
    Nat.xor_mod_two_pow, Nat.shiftLeft_xor_distrib]
  ac_rfl

/-- Its result fits the register. -/
theorem shift_lt (c : ℕ) : C.shift c < 2 ^ C.width := by
  refine Nat.xor_lt_two_pow ?_ (feedFrom_lt _ C.generators_lt 0)
  have hlow : c % 2 ^ (C.width - C.symbol) < 2 ^ (C.width - C.symbol) :=
    Nat.mod_lt _ (Nat.two_pow_pos _)
  have hsplit : 2 ^ C.width = 2 ^ (C.width - C.symbol) * 2 ^ C.symbol := by
    rw [← Nat.pow_add, Nat.sub_add_cancel C.wide]
  rw [Nat.shiftLeft_eq, hsplit]
  exact Nat.mul_lt_mul_of_pos_right hlow (Nat.two_pow_pos _)

/-- **Shifting loses nothing**: the low bits of the result tell what was shifted
    out, and the rest is still there. -/
theorem eq_zero_of_shift {c : ℕ} (hc : c < 2 ^ C.width) (h : C.shift c = 0) : c = 0 := by
  have htop : c >>> (C.width - C.symbol) < 2 ^ C.symbol := by
    rw [Nat.shiftRight_eq_div_pow, Nat.div_lt_iff_lt_mul (Nat.two_pow_pos _), ← Nat.pow_add,
      Nat.add_sub_cancel' C.wide]
    exact hc
  have hfeed : feed C.generators (c >>> (C.width - C.symbol)) % 2 ^ C.symbol = 0 := by
    have hlow := congrArg (· % 2 ^ C.symbol) h
    dsimp only [shift] at hlow
    rw [Nat.xor_mod_two_pow, Nat.shiftLeft_eq, Nat.mul_mod_left, Nat.zero_xor,
      Nat.zero_mod] at hlow
    exact hlow
  have hzero := C.independent _ htop hfeed
  -- nothing was fed back, so the kept part is the whole result
  rw [shift, hzero, feed, feedFrom_zero, Nat.xor_zero, Nat.shiftLeft_eq] at h
  have hkept : c % 2 ^ (C.width - C.symbol) = 0 :=
    (Nat.mul_eq_zero.mp h).resolve_right (Nat.two_pow_pos _).ne'
  rw [Nat.shiftRight_eq_div_pow] at hzero
  rw [← Nat.div_add_mod c (2 ^ (C.width - C.symbol)), hzero, hkept,
    Nat.mul_zero]

/-- A state that is not zero never becomes zero by shifting alone. -/
theorem iterate_ne_zero {c : ℕ} (hc : c < 2 ^ C.width) (hne : c ≠ 0) (n : ℕ) :
    C.shift^[n] c ≠ 0 := by
  induction n generalizing c with
  | zero => exact hne
  | succ n ih =>
      rw [Function.iterate_succ_apply]
      exact ih (C.shift_lt c) fun h => hne (C.eq_zero_of_shift hc h)

/-- A difference in the register is carried along, whatever symbols follow. -/
theorem run_xor (c d : ℕ) (vs : List ℕ) :
    C.run (c ^^^ d) vs = C.run c vs ^^^ C.shift^[vs.length] d := by
  induction vs generalizing c d with
  | nil => rfl
  | cons v vs ih =>
      have hstep : C.shift (c ^^^ d) ^^^ v = (C.shift c ^^^ v) ^^^ C.shift d := by
        rw [shift_xor]
        ac_rfl
      rw [run_cons, run_cons, hstep, ih, List.length_cons, Function.iterate_succ_apply]

/-- **One replaced symbol** changes the result by the difference, shifted on. -/
theorem run_replace (c : ℕ) (l r : List ℕ) (x y : ℕ) :
    C.run c (l ++ x :: r) ^^^ C.run c (l ++ y :: r) = C.shift^[r.length] (x ^^^ y) := by
  have hstep : C.shift (C.run c l) ^^^ y = (C.shift (C.run c l) ^^^ x) ^^^ (x ^^^ y) := by
    rw [Nat.xor_assoc, Nat.xor_xor_cancel_left]
  rw [run_append, run_append, run_cons, run_cons, hstep, C.run_xor _ (x ^^^ y), Nat.xor_xor_cancel_left]

/-- **A wrong symbol never gives the same result**, at any length. -/
theorem run_replace_ne (c : ℕ) (l r : List ℕ) {x y : ℕ} (hx : x < 2 ^ C.width)
    (hy : y < 2 ^ C.width) (hne : x ≠ y) :
    C.run c (l ++ x :: r) ≠ C.run c (l ++ y :: r) := by
  intro hsame
  have hdiff := C.run_replace c l r x y
  rw [hsame, Nat.xor_self] at hdiff
  exact C.iterate_ne_zero (Nat.xor_lt_two_pow hx hy) (mt Nat.xor_eq_zero_iff.mp hne)
    r.length hdiff.symm

end Code

end TypoCode
