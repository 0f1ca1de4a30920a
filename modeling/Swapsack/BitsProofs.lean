import Mathlib.Data.List.Basic
import Mathlib.Data.Nat.Bitwise

/-! # Bit strings of fixed-width numbers

    A list of numbers of `w` bits each spells a bit string, most significant bit
    first.  Regrouping values of one width into values of another is cutting the
    same bit string elsewhere.

    * `bits w n` — the low `w` bits of `n`;
    * `bits_add` — a wide number is its high part and its low part;
    * `spell_injective` — the bit string determines the numbers. -/

namespace Bits

/-- The low `w` bits of `n`, most significant first. -/
def bits : ℕ → ℕ → List Bool
  | 0, _ => []
  | w + 1, n => n.testBit w :: bits w n

/-- The bit string of numbers of `w` bits. -/
def spell (w : ℕ) (ns : List ℕ) : List Bool := ns.flatMap (bits w)

@[simp] theorem bits_length (w n : ℕ) : (bits w n).length = w := by
  induction w with
  | zero => rfl
  | succ w ih => rw [bits, List.length_cons, ih]

/-- The bits are read off one by one. -/
theorem bits_congr {w m n : ℕ} (h : ∀ i < w, m.testBit i = n.testBit i) :
    bits w m = bits w n := by
  induction w with
  | zero => rfl
  | succ w ih =>
      rw [bits, bits, h w (Nat.lt_succ_self w), ih fun i hi => h i (Nat.lt_succ_of_lt hi)]

/-- Bits that agree agree one by one. -/
theorem testBit_of_bits_eq {w m n : ℕ} (h : bits w m = bits w n) :
    ∀ i < w, m.testBit i = n.testBit i := by
  induction w with
  | zero =>
      intro i hi
      exact absurd hi (Nat.not_lt_zero i)
  | succ w ih =>
      intro i hi
      obtain ⟨hhead, htail⟩ := List.cons.inj h
      rcases Nat.lt_succ_iff_lt_or_eq.mp hi with hlt | rfl
      · exact ih htail i hlt
      · exact hhead

/-- Numbers that fit are told apart by their bits. -/
theorem bits_injective {w m n : ℕ} (hm : m < 2 ^ w) (hn : n < 2 ^ w)
    (h : bits w m = bits w n) : m = n := by
  refine Nat.eq_of_testBit_eq fun i => ?_
  by_cases hi : i < w
  · exact testBit_of_bits_eq h i hi
  · have hpow : 2 ^ w ≤ 2 ^ i := Nat.pow_le_pow_right (by decide) (not_lt.mp hi)
    rw [Nat.testBit_lt_two_pow (hm.trans_le hpow), Nat.testBit_lt_two_pow (hn.trans_le hpow)]

/-- **High part and low part.** -/
theorem bits_add (a b n : ℕ) : bits (a + b) n = bits a (n >>> b) ++ bits b n := by
  induction a with
  | zero =>
      rw [Nat.zero_add]
      rfl
  | succ a ih =>
      have hbit : n.testBit (a + b) = (n >>> b).testBit a := by
        rw [Nat.testBit_shiftRight, Nat.add_comm]
      rw [Nat.succ_add, bits, ih, hbit]
      rfl

theorem bits_zero (w : ℕ) : bits w 0 = List.replicate w false := by
  induction w with
  | zero => rfl
  | succ w ih => rw [bits, ih, Nat.zero_testBit, List.replicate_succ]

/-- Masking to `w` bits changes none of them. -/
theorem bits_mod (w n : ℕ) : bits w (n % 2 ^ w) = bits w n := by
  refine bits_congr fun i hi => ?_
  rw [Nat.testBit_mod_two_pow, decide_eq_true hi, Bool.true_and]

/-- Behind a shift stand zeros. -/
theorem bits_shiftLeft (a b n : ℕ) :
    bits (a + b) (n <<< b) = bits a n ++ List.replicate b false := by
  have hlow : bits b (n <<< b) = List.replicate b false := by
    rw [← bits_mod, Nat.shiftLeft_eq, Nat.mul_mod_left, bits_zero]
  rw [bits_add, hlow, Nat.shiftLeft_shiftRight]

/-- A value that fits, put behind a number. -/
theorem bits_append {b v : ℕ} (a n : ℕ) (hv : v < 2 ^ b) :
    bits (a + b) (n <<< b ||| v) = bits a n ++ bits b v := by
  have hhigh : (n <<< b ||| v) >>> b = n := by
    rw [Nat.shiftRight_or_distrib, Nat.shiftLeft_shiftRight, Nat.shiftRight_eq_zero v b hv,
      Nat.or_zero]
  have hlow : bits b (n <<< b ||| v) = bits b v := by
    refine bits_congr fun i hi => ?_
    rw [Nat.testBit_or, Nat.testBit_shiftLeft, decide_eq_false (not_le.mpr hi), Bool.false_and,
      Bool.false_or]
  rw [bits_add, hhigh, hlow]

/-- Below a shift, adding without carry is filling in. -/
theorem xor_eq_or {b v : ℕ} (n : ℕ) (hv : v < 2 ^ b) : n <<< b ^^^ v = n <<< b ||| v := by
  refine Nat.eq_of_testBit_eq fun i => ?_
  rw [Nat.testBit_xor, Nat.testBit_or, Nat.testBit_shiftLeft]
  by_cases hi : b ≤ i
  · have hpow : 2 ^ b ≤ 2 ^ i := Nat.pow_le_pow_right (by decide) hi
    rw [Nat.testBit_lt_two_pow (hv.trans_le hpow), Bool.xor_false, Bool.or_false]
  · rw [decide_eq_false hi, Bool.false_and, Bool.false_xor, Bool.false_or]

/-- Zero bits are the bits of a number with nothing below. -/
theorem mod_eq_zero_of_bits {w n : ℕ} (h : bits w n = List.replicate w false) :
    n % 2 ^ w = 0 := by
  refine bits_injective (Nat.mod_lt _ (Nat.two_pow_pos w)) (Nat.two_pow_pos w) ?_
  rw [bits_mod, h, bits_zero]

/-! ## Several numbers -/

theorem spell_append (w : ℕ) (ms ns : List ℕ) : spell w (ms ++ ns) = spell w ms ++ spell w ns :=
  List.flatMap_append

theorem spell_cons (w n : ℕ) (ns : List ℕ) : spell w (n :: ns) = bits w n ++ spell w ns := rfl

theorem spell_singleton (w n : ℕ) : spell w [n] = bits w n := List.append_nil (bits w n)

theorem length_spell (w : ℕ) (ns : List ℕ) : (spell w ns).length = w * ns.length := by
  induction ns with
  | nil => rfl
  | cons n ns ih =>
      rw [spell_cons, List.length_append, bits_length, ih, List.length_cons, Nat.mul_succ,
        Nat.add_comm]

/-- **The bit string determines the numbers**, when it is as long. -/
theorem spell_injective {w : ℕ} {ms : List ℕ} :
    ∀ {ns : List ℕ}, ms.length = ns.length → (∀ m ∈ ms, m < 2 ^ w) → (∀ n ∈ ns, n < 2 ^ w) →
      spell w ms = spell w ns → ms = ns := by
  induction ms with
  | nil =>
      intro ns hlen _ _ _
      exact (List.length_eq_zero_iff.mp hlen.symm).symm
  | cons m ms ih =>
      intro ns hlen hms hns h
      cases ns with
      | nil => cases hlen
      | cons n ns =>
          rw [spell_cons, spell_cons] at h
          obtain ⟨hhead, htail⟩ := List.append_inj h (by rw [bits_length, bits_length])
          obtain ⟨hm, hms⟩ := List.forall_mem_cons.mp hms
          obtain ⟨hn, hns⟩ := List.forall_mem_cons.mp hns
          rw [bits_injective hm hn hhead, ih (Nat.succ.inj hlen) hms hns htail]

end Bits
