import Mathlib.Data.List.Induction
import Swapsack.BitsProofs
import Swapsack.TypoCodeProofs

/-! # Checksum symbols

    The last symbols that fill the register of a checksum code: behind any text
    there is exactly one choice of them that leaves a given value in the
    register.

    * `run_symbols_bits` — the register fed from zero holds the symbols' bits;
    * `run_checksum_iff` — the checksum is the difference to the value, cut into
      symbols. -/

namespace TypoCode

open Bits

/-- A number cut into `k` symbols of `w` bits, the highest first. -/
def digits (w k n : ℕ) : List ℕ :=
  (List.range k).map fun i => (n >>> (w * (k - 1 - i))) &&& (2 ^ w - 1)

/-- There are as many digits as asked for. -/
theorem length_digits (w k n : ℕ) : (digits w k n).length = k := by
  rw [digits, List.length_map, List.length_range]

/-- Each of them fits its width. -/
theorem digits_lt {w k n d : ℕ} (h : d ∈ digits w k n) : d < 2 ^ w := by
  obtain ⟨i, -, rfl⟩ := List.mem_map.mp h
  rw [Nat.and_two_pow_sub_one_eq_mod]
  exact Nat.mod_lt _ (Nat.two_pow_pos w)

/-- The symbols spell the number. -/
theorem spell_digits (w k n : ℕ) : spell w (digits w k n) = bits (w * k) n := by
  induction k with
  | zero => rfl
  | succ k ih =>
      have htail : (List.range k).map (fun i => (n >>> (w * (k - (i + 1)))) &&& (2 ^ w - 1))
          = digits w k n := by
        refine List.map_congr_left fun i _ => ?_
        rw [Nat.sub_sub, Nat.add_comm 1 i]
      have hcons : digits w (k + 1) n = ((n >>> (w * k)) &&& (2 ^ w - 1)) :: digits w k n := by
        rw [← htail, digits, List.range_succ_eq_map, List.map_cons, List.map_map]
        rfl
      rw [hcons, spell_cons, ih, Nat.and_two_pow_sub_one_eq_mod, bits_mod, Nat.mul_succ,
        Nat.add_comm, bits_add]

namespace Code

variable (C : Code)

/-- The zero state stays, -/
theorem shift_zero : C.shift 0 = 0 := by
  rw [shift, Nat.zero_mod, Nat.zero_shiftLeft, Nat.zero_shiftRight, feed, feedFrom_zero,
    Nat.xor_self]

/-- Nothing is fed back from a register whose top is clear. -/
theorem shift_of_lt {c : ℕ} (h : c < 2 ^ (C.width - C.symbol)) : C.shift c = c <<< C.symbol := by
  rw [shift, Nat.mod_eq_of_lt h, Nat.shiftRight_eq_zero c _ h, feed, feedFrom_zero, Nat.xor_zero]

/-- and any state fits the register after a step. -/
theorem iterate_shift_lt {c : ℕ} (n : ℕ) (h : 0 < n) : C.shift^[n] c < 2 ^ C.width := by
  cases n with
  | zero => exact absurd h (lt_irrefl 0)
  | succ n =>
      rw [Function.iterate_succ_apply']
      exact C.shift_lt _

/-- The register is what it was, shifted on, and what the symbols add to it. -/
theorem run_eq (c : ℕ) (vs : List ℕ) : C.run c vs = C.shift^[vs.length] c ^^^ C.run 0 vs := by
  have h := C.run_xor 0 c vs
  rw [Nat.zero_xor] at h
  rw [h, Nat.xor_comm]

/-- So zeros leave the zero state. -/
theorem run_zeros (k : ℕ) : C.run 0 (List.replicate k 0) = 0 := by
  induction k with
  | zero => rfl
  | succ k ih => rw [List.replicate_succ, run_cons, shift_zero, Nat.xor_self, ih]

/-- **Symbols that fit stand in the register** one behind the other. -/
theorem run_symbols_bits {vs : List ℕ} (hvs : ∀ v ∈ vs, v < 2 ^ C.symbol)
    (hlen : C.symbol * vs.length ≤ C.width) :
    C.run 0 vs < 2 ^ (C.symbol * vs.length)
      ∧ bits (C.symbol * vs.length) (C.run 0 vs) = spell C.symbol vs := by
  induction vs using List.reverseRecOn with
  | nil => exact ⟨Nat.one_pos, rfl⟩
  | append_singleton vs v ih =>
      rw [List.length_append, List.length_singleton, Nat.mul_succ] at hlen ⊢
      have hv : v < 2 ^ C.symbol := hvs v (List.mem_append_right _ List.mem_cons_self)
      obtain ⟨hlt, hbits⟩ := ih (fun w hw => hvs w (List.mem_append_left _ hw)) (by omega)
      have htop : C.run 0 vs < 2 ^ (C.width - C.symbol) :=
        hlt.trans_le (Nat.pow_le_pow_right (by decide) (by omega))
      have hstep : C.run 0 (vs ++ [v]) = C.run 0 vs <<< C.symbol ||| v := by
        rw [run_append, run_cons, C.shift_of_lt htop, ← xor_eq_or _ hv]
        rfl
      rw [hstep]
      constructor
      · refine Nat.or_lt_two_pow ?_ (hv.trans_le (Nat.pow_le_pow_right (by decide) (by omega)))
        rw [Nat.shiftLeft_eq, Nat.pow_add]
        exact Nat.mul_lt_mul_of_pos_right hlt (Nat.two_pow_pos _)
      · rw [bits_append _ _ hv, hbits, spell_append, spell_singleton]

/-- **One checksum**: behind `vs`, the symbols that leave `t` in the register are
    the difference of `t` to what zeros leave there. -/
theorem run_checksum_iff {k : ℕ} (hk : C.symbol * k = C.width) (hpos : 0 < k) (c : ℕ)
    (vs : List ℕ) {cs : List ℕ} (hlen : cs.length = k) (hcs : ∀ v ∈ cs, v < 2 ^ C.symbol)
    {t : ℕ} (ht : t < 2 ^ C.width) :
    C.run c (vs ++ cs) = t
      ↔ cs = digits C.symbol k (C.run c (vs ++ List.replicate k 0) ^^^ t) := by
  have hzeros : C.run c (vs ++ List.replicate k 0) = C.shift^[k] (C.run c vs) := by
    rw [run_append, run_eq, run_zeros, Nat.xor_zero, List.length_replicate]
  have hsymbols : C.run c (vs ++ cs) = C.shift^[k] (C.run c vs) ^^^ C.run 0 cs := by
    rw [run_append, run_eq, hlen]
  obtain ⟨hlt, hbits⟩ := C.run_symbols_bits hcs (by rw [hlen]; exact hk.le)
  rw [hlen, hk] at hlt hbits
  have hdiff : C.shift^[k] (C.run c vs) ^^^ t < 2 ^ C.width :=
    Nat.xor_lt_two_pow (C.iterate_shift_lt k hpos) ht
  rw [hzeros, hsymbols]
  generalize C.shift^[k] (C.run c vs) = s at hdiff
  constructor
  · intro h
    have hrun : C.run 0 cs = s ^^^ t := by
      rw [← h, Nat.xor_xor_cancel_left]
    refine spell_injective (by rw [hlen, length_digits]) hcs (fun v hv => digits_lt hv) ?_
    rw [spell_digits, hk, ← hbits, hrun]
  · intro h
    have hrun : C.run 0 cs = s ^^^ t := by
      refine bits_injective hlt hdiff ?_
      rw [hbits, h, spell_digits, hk]
    rw [hrun, Nat.xor_xor_cancel_left]

end Code

end TypoCode
