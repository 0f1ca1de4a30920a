import Mathlib.Data.ZMod.Basic
import Mathlib.GroupTheory.OrderOfElement
import Swapsack.ListKitProofs
import Swapsack.ByteStringProofs

/-! # Ed25519 over an abstract group

    Signatures on a cyclic group of the order of Ed25519's base point, with its points
    written as byte strings.  Scalars are byte strings too, which a library reduces modulo
    the order, adds and multiplies.

    * `scalarmultBase_mod` — a multiple of the base point, refused where it is the
      neutral point;
    * `verifies_response` — the response of a signer satisfies the verifier's equation;
    * `Scheme.sign_cases` — so what is signed verifies, whatever the scalar is. -/

namespace Ed25519

open ListKit ByteString

/-- The order of the base point. -/
def order : ℕ := 2 ^ 252 + 27742317777372353535851937790883648493

/-- There are points besides the neutral one. -/
theorem order_pos : 0 < order := by decide

/-- A reduced scalar fits its 32 bytes. -/
theorem order_lt : order < 256 ^ 32 := by decide

/-- A group with a base point of that order, and its points' spellings. -/
structure Curve where
  Point : Type
  [group : AddCommGroup Point]
  [decEq : DecidableEq Point]
  base : Point
  addOrderOf_base : addOrderOf base = order
  encode : Point → Bytes
  encode_length : ∀ p, (encode p).length = 32
  encode_injective : Function.Injective encode

attribute [instance] Curve.group Curve.decEq

/-! ## Scalars -/

/-- A library of scalars of 32 bytes and of multiples of the base point. -/
structure Library extends Curve where
  reduce : Bytes → Bytes
  scalarAdd : Bytes → Bytes → Bytes
  scalarMul : Bytes → Bytes → Bytes
  scalarmultBase : Bytes → Option Bytes
  reduce_eq : ∀ s, s.length = 64 → reduce s = leBytes 32 (leNat s % order)
  scalarAdd_eq : ∀ a b, a.length = 32 → b.length = 32 →
    scalarAdd a b = leBytes 32 ((leNat a + leNat b) % order)
  scalarMul_eq : ∀ a b, a.length = 32 → b.length = 32 →
    scalarMul a b = leBytes 32 (leNat a * leNat b % order)
  -- the neutral point is refused
  scalarmultBase_eq : ∀ n, n.length = 32 → leNat n < order →
    scalarmultBase n = if leNat n • base = 0 then none else some (encode (leNat n • base))

/-- A reduced number does, too. -/
theorem mod_order_lt (n : ℕ) : n % order < 256 ^ 32 := (Nat.mod_lt n order_pos).trans order_lt

/-- A reduced scalar is the number it spells. -/
@[simp] theorem leNat_mod_order (n : ℕ) : leNat (leBytes 32 (n % order)) = n % order :=
  leNat_leBytes (mod_order_lt n)

section Multiples

variable {c : Curve}

/-- The base point comes back to the neutral one after as many steps as its order. -/
theorem order_nsmul : order • c.base = 0 := by
  rw [← c.addOrderOf_base]
  exact addOrderOf_nsmul_eq_zero c.base

/-- So a multiple depends on the remainder only. -/
theorem mod_order_nsmul (n : ℕ) : (n % order) • c.base = n • c.base :=
  (nsmul_eq_mod_nsmul n order_nsmul).symm

/-- And no smaller multiple is neutral. -/
theorem nsmul_base_eq_zero_iff (n : ℕ) : n • c.base = 0 ↔ order ∣ n := by
  rw [← c.addOrderOf_base]
  exact addOrderOf_dvd_iff_nsmul_eq_zero.symm

/-- Reducing a scalar does not move the point. -/
theorem scalarmultBase_mod (lib : Library) (n : ℕ) : lib.scalarmultBase (leBytes 32 (n % order))
    = if order ∣ n then none else some (lib.encode (n • lib.base)) := by
  have hlt : leNat (leBytes 32 (n % order)) < order := by
    rw [leNat_mod_order]
    exact Nat.mod_lt n order_pos
  rw [lib.scalarmultBase_eq _ (leBytes_length _ _) hlt, leNat_mod_order, mod_order_nsmul]
  exact if_congr (nsmul_base_eq_zero_iff n) rfl rfl

/-! ## The equation -/

/-- What a verifier checks of a response `s` to a challenge `h`. -/
def Verifies (c : Curve) (key commitment : c.Point) (h s : ℕ) : Prop :=
  s • c.base = commitment + h • key

/-- **The response to a challenge satisfies the equation**, though each scalar in it
    has been reduced. -/
theorem verifies_response (k r h : ℕ) :
    Verifies c (k • c.base) (r • c.base) (h % order)
      ((r % order + h % order * (k % order) % order) % order) := by
  have hchallenge : (h % order * (k % order)) • c.base = (h % order) • k • c.base := by
    rw [Nat.mul_comm, mul_nsmul, mod_order_nsmul]
  rw [Verifies, mod_order_nsmul, add_nsmul, mod_order_nsmul, mod_order_nsmul, hchallenge]

end Multiples

/-! ## Signatures -/

/-- A library with a hash, and a verifier that accepts what satisfies the equation; it may
    refuse points of small order. -/
structure Scheme extends Library where
  sha512 : Bytes → Bytes
  sha512_length : ∀ b, (sha512 b).length = 64
  verify : Bytes → Bytes → Bytes → Bool
  complete : ∀ (a r : ℕ) (message : Bytes) (s : ℕ), ¬ order ∣ a → ¬ order ∣ r → s < order →
    Verifies toCurve (a • base) (r • base)
      (leNat (sha512 (encode (r • base) ++ encode (a • base) ++ message)) % order) s →
    verify (encode (a • base)) message (encode (r • base) ++ leBytes 32 s) = true

/-- How signing ends. -/
inductive Outcome where
  | signed (signature : Bytes)
  | neutral
  | badSignature
deriving DecidableEq

variable (scheme : Scheme)

/-- Sign with the reduced scalar `k`, under its public key, with the reduced nonce `r`, and
    verify. -/
def Scheme.sign (publicKey k r message : Bytes) : Outcome :=
  match scheme.scalarmultBase r with
  | none => .neutral
  | some commitment =>
      let h := scheme.reduce (scheme.sha512 (commitment ++ publicKey ++ message))
      let s := scheme.scalarAdd r (scheme.scalarMul h k)
      if scheme.verify publicKey message (commitment ++ s) then .signed (commitment ++ s)
      else .badSignature

/-- The response, by the laws of the library. -/
theorem Scheme.response_eq (k r : ℕ) {digest : Bytes} (h : digest.length = 64) :
    scheme.scalarAdd (leBytes 32 (r % order))
        (scheme.scalarMul (scheme.reduce digest) (leBytes 32 (k % order)))
      = leBytes 32 ((r % order + leNat digest % order * (k % order) % order) % order) := by
  rw [scheme.reduce_eq digest h,
    scheme.scalarMul_eq _ _ (leBytes_length _ _) (leBytes_length _ _),
    scheme.scalarAdd_eq _ _ (leBytes_length _ _) (leBytes_length _ _)]
  simp only [leNat_mod_order]

/-- **What is signed verifies**: signing fails only with a nonce that is no nonce. -/
theorem Scheme.sign_cases {k : ℕ} (hk : ¬ order ∣ k) (nonce : ℕ) (message : Bytes) :
    let publicKey := scheme.encode (k • scheme.base)
    (order ∣ nonce
      ∧ scheme.sign publicKey (leBytes 32 (k % order)) (leBytes 32 (nonce % order)) message
        = .neutral)
    ∨ ¬ order ∣ nonce ∧ ∃ signature,
        scheme.sign publicKey (leBytes 32 (k % order)) (leBytes 32 (nonce % order)) message
          = .signed signature
        ∧ signature.length = 64 ∧ scheme.verify publicKey message signature = true := by
  intro publicKey
  rw [Scheme.sign, scalarmultBase_mod]
  by_cases hnonce : order ∣ nonce
  · rw [if_pos hnonce]
    exact Or.inl ⟨hnonce, rfl⟩
  · rw [if_neg hnonce]
    refine Or.inr ⟨hnonce, ?_⟩
    dsimp only
    have hverify := scheme.complete k nonce message _ hk hnonce (Nat.mod_lt _ order_pos)
      (verifies_response k nonce _)
    rw [scheme.response_eq k nonce (scheme.sha512_length _), if_pos hverify]
    refine ⟨_, rfl, ?_, hverify⟩
    rw [List.length_append, scheme.encode_length, leBytes_length]

/-! ## The integers modulo the order

    A point of the group is known by its logarithm.  Some points are given their spellings,
    and the others are spelled as numbers from a certain one on. -/

instance : NeZero order := ⟨by decide⟩

/-- A point, as the multiple of the base point that it is. -/
@[ext] structure Multiple where
  log : ZMod order
deriving DecidableEq

namespace Multiple

def ofNat (n : ℕ) : Multiple := ⟨n⟩

def toNat (x : Multiple) : ℕ := x.log.val

instance : Zero Multiple := ⟨⟨0⟩⟩
instance : Add Multiple := ⟨fun x y => ⟨x.log + y.log⟩⟩
instance : Neg Multiple := ⟨fun x => ⟨-x.log⟩⟩
instance : Sub Multiple := ⟨fun x y => ⟨x.log - y.log⟩⟩
instance : SMul ℕ Multiple := ⟨fun n x => ⟨n * x.log⟩⟩
instance : SMul ℤ Multiple := ⟨fun n x => ⟨n * x.log⟩⟩

/-- Addition modulo the order, with multiples by multiplication. -/
instance : AddCommGroup Multiple :=
  Function.Injective.addCommGroup log (fun _ _ => Multiple.ext) rfl (fun _ _ => rfl)
    (fun _ => rfl) (fun _ _ => rfl) (fun x n => (nsmul_eq_mul n x.log).symm)
    (fun x n => (zsmul_eq_mul x.log n).symm)

/-- A point is the multiple of the base point that it is. -/
theorem nsmul_one (n : ℕ) : n • ofNat 1 = ofNat n := by
  refine Multiple.ext ?_
  show (n : ZMod order) * ((1 : ℕ) : ZMod order) = n
  rw [Nat.cast_one, mul_one]

/-- The multiples of the order are the neutral point. -/
theorem ofNat_eq_zero_iff (n : ℕ) : ofNat n = 0 ↔ order ∣ n := by
  rw [← ZMod.natCast_eq_zero_iff]
  exact ⟨congrArg log, fun h => Multiple.ext h⟩

/-- A logarithm is below the order. -/
theorem toNat_lt (x : Multiple) : x.toNat < order := ZMod.val_lt x.log

theorem ofNat_toNat (x : Multiple) : ofNat x.toNat = x :=
  Multiple.ext (ZMod.natCast_zmod_val x.log)

end Multiple

/-- The spellings of some points, none of which is a number that spells another. -/
structure Spellings where
  points : List (Multiple × Bytes)
  start : ℕ
  start_le : start + order ≤ 256 ^ 32
  length : ∀ p ∈ points, p.2.length = 32
  nodup : (points.map Prod.snd).Nodup
  apart : ∀ p ∈ points, leNat p.2 < start ∨ start + order ≤ leNat p.2

namespace Spellings

variable (spellings : Spellings)

/-- The spelling that is given of a point, or its number from `start` on. -/
def encode (x : Multiple) : Bytes :=
  (getKey spellings.points x).getD (leBytes 32 (spellings.start + x.toNat))

/-- The point that a spelling is of; those that spell none are read as numbers. -/
def decode (b : Bytes) : Multiple :=
  match spellings.points.find? (fun p => decide (p.2 = b)) with
  | some p => p.1
  | none => Multiple.ofNat (leNat b - spellings.start)

/-- Every spelling has 32 bytes. -/
theorem encode_length (x : Multiple) : (spellings.encode x).length = 32 := by
  rw [encode]
  cases hx : getKey spellings.points x with
  | none => exact leBytes_length _ _
  | some b => exact spellings.length _ (mem_of_getKey hx)

/-- A spelling is of one point. -/
theorem decode_encode (x : Multiple) : spellings.decode (spellings.encode x) = x := by
  rw [encode, decode]
  cases hx : getKey spellings.points x with
  | some b =>
      have hmem := mem_of_getKey hx
      rw [Option.getD_some]
      cases hfind : spellings.points.find? (fun p => decide (p.2 = b)) with
      | none =>
          have hnot := List.find?_eq_none.mp hfind _ hmem
          exact absurd (decide_eq_true rfl) hnot
      | some p =>
          have hp : p.2 = b := by simpa using List.find?_some hfind
          have hsame := List.inj_on_of_nodup_map spellings.nodup
            (List.mem_of_find?_eq_some hfind) hmem hp
          exact congrArg Prod.fst hsame
  | none =>
      have hvalue : leNat (leBytes 32 (spellings.start + x.toNat)) = spellings.start + x.toNat :=
        leNat_leBytes (by have := x.toNat_lt; have := spellings.start_le; omega)
      rw [Option.getD_none]
      cases hfind : spellings.points.find?
          (fun p => decide (p.2 = leBytes 32 (spellings.start + x.toNat))) with
      | none =>
          dsimp only
          rw [hvalue, Nat.add_sub_cancel_left, x.ofNat_toNat]
      | some p =>
          have hp : p.2 = leBytes 32 (spellings.start + x.toNat) := by
            simpa using List.find?_some hfind
          have hlt := x.toNat_lt
          rcases spellings.apart p (List.mem_of_find?_eq_some hfind) with hbelow | habove
          · rw [hp, hvalue] at hbelow
            omega
          · rw [hp, hvalue] at habove
            omega

/-- The group, under these spellings. -/
def curve : Curve where
  Point := Multiple
  base := Multiple.ofNat 1
  addOrderOf_base := by
    refine (addOrderOf_eq_iff order_pos).mpr ⟨?_, fun m hm hpos hzero => ?_⟩
    · rw [Multiple.nsmul_one, Multiple.ofNat_eq_zero_iff]
    · rw [Multiple.nsmul_one, Multiple.ofNat_eq_zero_iff] at hzero
      exact absurd (Nat.le_of_dvd hpos hzero) (Nat.not_le_of_lt hm)
  encode := spellings.encode
  encode_length := spellings.encode_length
  encode_injective := Function.LeftInverse.injective spellings.decode_encode

/-- The library's arithmetic, as it is documented. -/
def library : Library where
  toCurve := spellings.curve
  reduce s := leBytes 32 (leNat s % order)
  scalarAdd a b := leBytes 32 ((leNat a + leNat b) % order)
  scalarMul a b := leBytes 32 (leNat a * leNat b % order)
  scalarmultBase n :=
    if Multiple.ofNat (leNat n) = 0 then none
    else some (spellings.encode (Multiple.ofNat (leNat n)))
  reduce_eq _ _ := rfl
  scalarAdd_eq _ _ _ _ := rfl
  scalarMul_eq _ _ _ _ := rfl
  scalarmultBase_eq n _ _ := by
    show _ = if leNat n • Multiple.ofNat 1 = 0 then none
      else some (spellings.encode (leNat n • Multiple.ofNat 1))
    rw [Multiple.nsmul_one]

/-- The scheme with a hash; its verifier takes a reduced response and checks the
    equation. -/
def signatures (sha512 : Bytes → Bytes) (sha512_length : ∀ b, (sha512 b).length = 64) :
    Scheme where
  toLibrary := spellings.library
  sha512
  sha512_length
  verify key message signature :=
    let h := leNat (sha512 (signature.take 32 ++ key ++ message)) % order
    decide (leNat (signature.drop 32) < order)
      && decide (Multiple.ofNat (leNat (signature.drop 32))
        = spellings.decode (signature.take 32) + h • spellings.decode key)
  complete a r message s _ _ hs hverifies := by
    have hvalue : leNat (leBytes 32 s) = s := leNat_leBytes (hs.trans order_lt)
    have htake : ∀ x, (spellings.encode x ++ leBytes 32 s).take 32 = spellings.encode x :=
      fun x => List.take_left' (spellings.encode_length x)
    have hdrop : ∀ x, (spellings.encode x ++ leBytes 32 s).drop 32 = leBytes 32 s :=
      fun x => List.drop_left' (spellings.encode_length x)
    have hequation : Multiple.ofNat s = r • Multiple.ofNat 1
        + (leNat (sha512 (spellings.encode (r • Multiple.ofNat 1)
            ++ spellings.encode (a • Multiple.ofNat 1) ++ message)) % order)
          • a • Multiple.ofNat 1 := by
      rw [← Multiple.nsmul_one s]
      exact hverifies
    rw [Bool.and_eq_true]
    constructor
    · refine decide_eq_true ?_
      show leNat ((spellings.encode (r • Multiple.ofNat 1) ++ leBytes 32 s).drop 32) < order
      rwa [hdrop, hvalue]
    · refine decide_eq_true ?_
      show Multiple.ofNat (leNat ((spellings.encode (r • Multiple.ofNat 1)
          ++ leBytes 32 s).drop 32)) = spellings.decode ((spellings.encode (r • Multiple.ofNat 1)
          ++ leBytes 32 s).take 32) + (leNat (sha512 ((spellings.encode (r • Multiple.ofNat 1)
          ++ leBytes 32 s).take 32 ++ spellings.encode (a • Multiple.ofNat 1) ++ message))
            % order) • spellings.decode (spellings.encode (a • Multiple.ofNat 1))
      rw [hdrop, htake, hvalue, spellings.decode_encode, spellings.decode_encode]
      exact hequation

end Spellings

end Ed25519
