import Swapsack.BtcProofs
import Swapsack.RbfProofs

/-! # Bumping a stuck transaction

    `cmd_bump` plans twice.  The first plan ignores the transaction's own
    unconfirmed parents, so that every cheap refusal comes before a lookup per
    input; only then are the parents priced at the requested rate, and if they
    are short of it the plan is made again with that surcharge.  Rates are floats,
    as `--fee-rate` reads them.

    * `bumpPlan_isOk_iff` — a rate is planned when the change can pay for the
      transaction and its parents at it;
    * `bumpPlan_refused` — the rate a refusal names, and what was short;
    * `bumpPlan_retry_iff` — when re-running with the named rate succeeds. -/

namespace SwapsackBump

open ListKit BinaryFloat FeePackage PyText SwapsackBase SwapsackCoins SwapsackBtc SwapsackRbf

/-! ## The command -/

/-- The inputs as a spend of mempool money: every parent is looked up. -/
def unpriced (inputs : List Utxo) : List Utxo :=
  inputs.map fun u => { u with confirmed := false, ancestorDeficit := 0 }

/-- What the bump owes this transaction's own unconfirmed parents. -/
def bumpCpfpSurcharge (fetchTx : String → Option TxSummary)
    (replacement : Replacement) (feeRate : Double) : Except PlanError ℕ :=
  match cpfpDeficits fetchTx (unpriced replacement.inputs) feeRate with
  | .ok priced => .ok (cpfpSurcharge priced)
  | .error (.runtimeError why) => .error (.refused (.cannotPrice why))
  -- nothing else is caught
  | .error e => .error (.raised e)

/-- The planning of `cmd_bump`: the replacement and the surcharge in its fee. -/
def bumpPlan (fetchTx : String → Option TxSummary) (tx : TxSummary) (owned : Owned)
    (changePrefix : String) (feeRate : Double) : Except PlanError (Replacement × ℕ) := do
  let replacement ← planReplacement tx owned changePrefix feeRate 0 p2wpkh
    incrementalRelayFee
  let extraFee ← bumpCpfpSurcharge fetchTx replacement feeRate
  if extraFee ≠ 0 then
    let replacement ← planReplacement tx owned changePrefix feeRate extraFee p2wpkh
      incrementalRelayFee
    .ok (replacement, extraFee)
  else .ok (replacement, extraFee)

/-! ## What the parents cost -/

/-- The unconfirmed parents of a shape's inputs, as members of its package. -/
def bumpParents (fetchTx : String → Option TxSummary) (shape : Shape) : List Member :=
  packageParents fetchTx (unpriced shape.inputs)

/-- The chain has seen every transaction `tx` spends from: the parent of a
    mempool transaction is on the chain by definition. -/
def ParentsKnown (fetchTx : String → Option TxSummary) (tx : TxSummary) : Prop :=
  ∀ i ∈ tx.inputs, ∀ txid, i.txid = some txid → (fetchTx txid).isSome = true

/-- What a package's members are short of a rate in all. -/
def owed {ρ : Type} [Rate ρ] (feeRate : ρ) : List Member → Except PyError ℕ
  | [] => .ok 0
  | m :: ms => do
      let deficit ← cpfpDeficit m.fee m.vsize feeRate
      let rest ← owed feeRate ms
      .ok (deficit + rest)

section Owed

variable {fetchTx : String → Option TxSummary} {feeRate : Double}

/-- Parents are owed something together where each can be priced, and then the total. -/
theorem owed_parents {txids : List String}
    (hknown : ∀ t ∈ txids, (fetchTx t).isSome = true) {short : ℕ} :
    owed feeRate (txids.filterMap (parentMember fetchTx)) = .ok short
      ↔ (∀ t ∈ txids, ∃ d, parentDeficit fetchTx feeRate t = .ok d)
        ∧ short = (txids.map (deficitOf fetchTx feeRate)).sum := by
  induction txids generalizing short with
  | nil =>
      constructor
      · intro h
        cases h
        exact ⟨fun _ ht => absurd ht List.not_mem_nil, rfl⟩
      · rintro ⟨-, rfl⟩
        rfl
  | cons t txids ih =>
      have ih : ∀ {short : ℕ}, owed feeRate (txids.filterMap (parentMember fetchTx)) = .ok short
          ↔ (∀ t ∈ txids, ∃ d, parentDeficit fetchTx feeRate t = .ok d)
            ∧ short = (txids.map (deficitOf fetchTx feeRate)).sum :=
        ih fun t ht => hknown t (List.mem_cons_of_mem _ ht)
      obtain ⟨parent, hparent⟩ := Option.isSome_iff_exists.mp (hknown t List.mem_cons_self)
      rw [List.filterMap_cons, parentMember, hparent, List.map_cons, List.sum_cons,
        List.forall_mem_cons]
      by_cases hconf : parent.confirmed = true
      · -- mined: it is owed nothing
        have hdeficit : parentDeficit fetchTx feeRate t = .ok 0 := by
          rw [parentDeficit, hparent]
          exact if_pos hconf
        simp only [if_pos hconf, deficitOf_eq hdeficit, zero_add, ih]
        exact ⟨fun h => ⟨⟨⟨0, hdeficit⟩, h.1⟩, h.2⟩, fun h => ⟨h.1.2, h.2⟩⟩
      · have hdeficit : parentDeficit fetchTx feeRate t
            = cpfpDeficit parent.fee parent.vsize feeRate := by
          rw [parentDeficit, hparent]
          exact if_neg hconf
        simp only [if_neg hconf]
        constructor
        · intro h
          obtain ⟨d, hd, h⟩ := bind_eq_ok h
          obtain ⟨rest, hrest, h⟩ := bind_eq_ok h
          cases h
          obtain ⟨hall, rfl⟩ := ih.mp hrest
          rw [deficitOf_eq (hdeficit.trans hd)]
          exact ⟨⟨⟨d, hdeficit.trans hd⟩, hall⟩, rfl⟩
        · rintro ⟨⟨⟨d, hd⟩, hall⟩, rfl⟩
          rw [deficitOf_eq hd, owed, ← hdeficit, hd, ok_bind, ih.mpr ⟨hall, rfl⟩]
          rfl

/-- **At a lower rate the parents are owed no more.** -/
theorem owed_mono {p q : ℚ} (hp : 0 ≤ p) (hpq : p ≤ q) {parents : List Member} {short : ℕ}
    (h : owed (Double.finite q) parents = .ok short) :
    ∃ less, owed (Double.finite p) parents = .ok less ∧ less ≤ short := by
  induction parents generalizing short with
  | nil =>
      cases h
      exact ⟨0, rfl, le_refl 0⟩
  | cons m ms ih =>
      obtain ⟨d, hd, h⟩ := bind_eq_ok h
      obtain ⟨rest, hrest, h⟩ := bind_eq_ok h
      cases h
      obtain ⟨cost, hcost, hd⟩ := bind_eq_ok hd
      cases hd
      obtain ⟨less, hless, hle⟩ := cost_finite_mono hp hpq hcost
      obtain ⟨restLess, hrestLess, hrestLe⟩ := ih hrest
      refine ⟨(less - m.fee).toNat + restLess, ?_, by omega⟩
      rw [owed, cpfpDeficit, hless, ok_bind, ok_bind, hrestLess]
      rfl

end Owed

section Bump

variable {fetchTx : String → Option TxSummary} {tx : TxSummary} {owned : Owned}
  {changePrefix : String} {shape : Shape} {feeRate : Double}

/-- Pricing leaves the parents what they were. -/
theorem mempoolParents_priced {utxos priced : List Utxo}
    (h : cpfpDeficits fetchTx utxos feeRate = .ok priced) :
    mempoolParents priced = mempoolParents utxos := by
  have hforget : ∀ us : List Utxo, mempoolParents us
      = mempoolParents (us.map fun u => { u with ancestorDeficit := 0 }) := by
    intro us
    unfold mempoolParents
    rw [List.filter_map, List.map_map]
    rfl
  rw [hforget priced, (cpfpDeficits_spec h).2, ← hforget utxos]

theorem inputWithPath_txid {i : TxEntry} {u : Utxo}
    (h : inputWithPath owned i = .ok u) : i.txid = some u.txid := by
  rw [inputWithPath] at h
  split at h
  · rename_i htxid _
    split at h
    · cases h
    · cases h
      exact htxid
  · cases h

/-- Every input of a shape has a parent the chain knows. -/
theorem parentsKnown_shape (hknown : ParentsKnown fetchTx tx)
    (hshape : planShape tx owned changePrefix = .ok shape) :
    ∀ u ∈ unpriced shape.inputs, (fetchTx u.txid).isSome = true := by
  intro u hu
  obtain ⟨v, hv, rfl⟩ := List.mem_map.mp hu
  have hall := shape_inputs hshape
  obtain ⟨n, hn⟩ := List.mem_iff_getElem?.mp hv
  have hlen := hall.length_eq
  have hlt : n < shape.inputs.length := (List.getElem?_eq_some_iff.mp hn).1
  have hpair := hall.get (i := n) (by omega) hlt
  have hget : shape.inputs.get ⟨n, hlt⟩ = v := (List.getElem?_eq_some_iff.mp hn).2
  rw [hget] at hpair
  exact hknown _ (List.get_mem _ _) v.txid (inputWithPath_txid hpair)

/-- The parents of the inputs are the transactions they spend from. -/
theorem mem_mempoolParents_unpriced {inputs : List Utxo} {t : String} :
    t ∈ mempoolParents (unpriced inputs) ↔ ∃ u ∈ unpriced inputs, u.txid = t := by
  have hall : (unpriced inputs).filter (fun u => !u.confirmed) = unpriced inputs := by
    refine List.filter_eq_self.mpr fun u hu => ?_
    obtain ⟨v, -, rfl⟩ := List.mem_map.mp hu
    rfl
  rw [mempoolParents, List.mem_dedup, hall, List.mem_map]

/-- The surcharge is what the shape's parents are short of the rate. -/
theorem bumpCpfpSurcharge_ok_iff (hknown : ParentsKnown fetchTx tx)
    (hshape : planShape tx owned changePrefix = .ok shape) {r : Replacement}
    (hinputs : r.inputs = shape.inputs) {short : ℕ} :
    bumpCpfpSurcharge fetchTx r feeRate = .ok short
      ↔ owed feeRate (bumpParents fetchTx shape) = .ok short := by
  have hknown := parentsKnown_shape hknown hshape
  have hparents : ∀ t ∈ mempoolParents (unpriced shape.inputs),
      (fetchTx t).isSome = true := by
    intro t ht
    obtain ⟨u, hu, rfl⟩ := mem_mempoolParents_unpriced.mp ht
    exact hknown u hu
  have hsum : ∀ {priced}, cpfpDeficits fetchTx (unpriced shape.inputs) feeRate = .ok priced →
      cpfpSurcharge priced = ((mempoolParents (unpriced shape.inputs)).map
        (deficitOf fetchTx feeRate)).sum := by
    intro priced h
    rw [cpfpSurcharge_deficits h fun _ hu => hu, mempoolParents_priced h]
  rw [bumpParents, packageParents, owed_parents hparents, bumpCpfpSurcharge, hinputs]
  constructor
  · intro h
    cases hpriced : cpfpDeficits fetchTx (unpriced shape.inputs) feeRate with
    | error e =>
        rw [hpriced] at h
        cases e <;> cases h
    | ok priced =>
        rw [hpriced] at h
        refine ⟨fun t ht => ?_, (hsum hpriced).symm ▸ (Except.ok.inj h).symm⟩
        rw [← mempoolParents_priced hpriced, mempoolParents, List.mem_dedup] at ht
        obtain ⟨u, hu, rfl⟩ := List.mem_map.mp ht
        obtain ⟨hmem, hconf⟩ := List.mem_filter.mp hu
        exact ⟨_, (cpfpDeficits_spec hpriced).1 u hmem (by simpa using hconf)⟩
  · rintro ⟨hall, rfl⟩
    obtain ⟨priced, hpriced⟩ := cpfpDeficits_total fun u hu =>
      hall u.txid (mem_mempoolParents_unpriced.mpr ⟨u, hu, rfl⟩)
    rw [hpriced, ← hsum hpriced]

/-! ## When a rate is planned -/

/-- **A rate is planned** exactly when the change can pay, at that rate, for
    the transaction and for what its parents are short of. -/
theorem bumpPlan_isOk_iff (hknown : ParentsKnown fetchTx tx)
    (hshape : planShape tx owned changePrefix = .ok shape) :
    (∃ p, bumpPlan fetchTx tx owned changePrefix feeRate = .ok p)
      ↔ ∃ cost relay short, Rate.cost feeRate tx.vsize = .ok cost
        ∧ Rate.cost incrementalRelayFee (replacementVsize tx shape p2wpkh) = .ok relay
        ∧ owed feeRate (bumpParents fetchTx shape) = .ok short
        ∧ cost + (short : ℕ) ≤ feeCeiling tx shape p2wpkh
        ∧ tx.fee + relay ≤ feeCeiling tx shape p2wpkh := by
  rw [bumpPlan]
  simp only [planReplacement_of_shape hshape]
  constructor
  · rintro ⟨p, hp⟩
    obtain ⟨r, hr, hp⟩ := bind_eq_ok hp
    obtain ⟨short, hshort, hp⟩ := bind_eq_ok hp
    obtain ⟨cost, relay, hcost, hrelay, rfl, hle⟩ := priceReplacement_ok hr
    have howed := (bumpCpfpSurcharge_ok_iff hknown hshape rfl).mp hshort
    refine ⟨cost, relay, short, hcost, hrelay, howed, ?_, (max_le_iff.mp hle).2⟩
    split at hp
    · obtain ⟨r', hr', -⟩ := bind_eq_ok hp
      obtain ⟨cost', relay', hcost', -, -, hle'⟩ := priceReplacement_ok hr'
      obtain rfl := Except.ok.inj (hcost.symm.trans hcost')
      exact (max_le_iff.mp hle').1
    · rename_i hzero
      rw [not_not.mp hzero]
      exact (max_le_iff.mp hle).1
  · rintro ⟨cost, relay, short, hcost, hrelay, howed, hpay, hfloor⟩
    -- the stage without the parents costs no more than the one with them
    have hstage : cost + 0 ≤ feeCeiling tx shape p2wpkh := by omega
    rw [priceReplacement_of_le hcost hrelay (max_le hstage hfloor), ok_bind,
      (bumpCpfpSurcharge_ok_iff hknown hshape rfl).mpr howed, ok_bind]
    split
    · rw [priceReplacement_of_le hcost hrelay (max_le hpay hfloor), ok_bind]
      exact ⟨_, rfl⟩
    · exact ⟨_, rfl⟩

/-- What of the ceiling is left for the rate at the stage that refuses: all of it
    when the rate alone is too dear, else what the parents' shortfall leaves. -/
def leftForRate (fetchTx : String → Option TxSummary) (tx : TxSummary) (shape : Shape)
    (feeRate : Double) : ℤ :=
  let ceiling := feeCeiling tx shape p2wpkh
  match Rate.cost feeRate tx.vsize, owed feeRate (bumpParents fetchTx shape) with
  | .ok cost, .ok short => if cost ≤ ceiling then ceiling - short else ceiling
  | _, _ => ceiling

/-- A shape refused with a rate: the change covers the relay floor and the
    surcharge but not the rate, and the rate named is worked out from what is left. -/
theorem refusedRate_priceReplacement {extraFee : ℤ} {r : ℚ}
    (h : refusedRate (priceReplacement tx shape feeRate extraFee p2wpkh incrementalRelayFee)
      = some r) :
    ∃ cost relay, Rate.cost feeRate tx.vsize = .ok cost
      ∧ Rate.cost incrementalRelayFee (replacementVsize tx shape p2wpkh) = .ok relay
      ∧ extraFee ≤ feeCeiling tx shape p2wpkh
      ∧ feeCeiling tx shape p2wpkh - extraFee < cost
      ∧ tx.fee + relay ≤ feeCeiling tx shape p2wpkh
      ∧ ∃ rate, suggestedRate (feeCeiling tx shape p2wpkh - extraFee) tx.vsize = .ok rate
        ∧ r = printed2 rate := by
  obtain ⟨why, hwhy, hnames⟩ := tooLittle_of_refusedRate h
  obtain ⟨cost, relay, hcost, hrelay, hlt, hverdict⟩ := priceReplacement_refused hwhy
  obtain ⟨hextra, hfloor, hrate⟩ := (changeVerdict_namesRate hverdict r).mp hnames
  refine ⟨cost, relay, hcost, hrelay, hextra, ?_, hfloor, hrate⟩
  rcases lt_max_iff.mp hlt with hlt | hlt <;> omega

/-- What is done in two steps names a rate in the first or in the second. -/
theorem refusedRate_bind {α β : Type} {x : Except PlanError α} {f : α → Except PlanError β}
    {r : ℚ} (h : refusedRate (x >>= f) = some r) :
    refusedRate x = some r ∨ ∃ a, x = .ok a ∧ refusedRate (f a) = some r := by
  cases x with
  | error e => exact Or.inl ((refusedRate_error e).trans h)
  | ok a => exact Or.inr ⟨a, rfl, h⟩

/-- A parent that cannot be priced names no rate. -/
theorem refusedRate_surcharge (replacement : Replacement) :
    refusedRate (bumpCpfpSurcharge fetchTx replacement feeRate) = none := by
  rw [bumpCpfpSurcharge]
  split
  · rfl
  · rfl
  · rfl

/-- **Which stage names a rate**: the first, where the rate alone is too dear, or the
    second, with what the parents are short of. -/
theorem refusedRate_stage (hknown : ParentsKnown fetchTx tx)
    (hshape : planShape tx owned changePrefix = .ok shape) {r : ℚ}
    (h : refusedRate (bumpPlan fetchTx tx owned changePrefix feeRate) = some r) :
    refusedRate (priceReplacement tx shape feeRate 0 p2wpkh incrementalRelayFee) = some r
      ∨ ∃ cost short, Rate.cost feeRate tx.vsize = .ok cost
        ∧ cost ≤ feeCeiling tx shape p2wpkh
        ∧ owed feeRate (bumpParents fetchTx shape) = .ok short
        ∧ refusedRate (priceReplacement tx shape feeRate (short : ℕ) p2wpkh
          incrementalRelayFee) = some r := by
  rw [bumpPlan] at h
  simp only [planReplacement_of_shape hshape] at h
  rcases refusedRate_bind h with h | ⟨p, hp, h⟩
  · exact Or.inl h
  · obtain ⟨cost, relay, hcost, -, rfl, hle⟩ := priceReplacement_ok hp
    have hfits : cost ≤ feeCeiling tx shape p2wpkh := by
      have := (max_le_iff.mp hle).1
      omega
    rcases refusedRate_bind h with h | ⟨short, hshort, h⟩
    · rw [refusedRate_surcharge] at h
      cases h
    · have howed := (bumpCpfpSurcharge_ok_iff hknown hshape rfl).mp hshort
      split at h
      · rcases refusedRate_bind h with h | ⟨p', -, h⟩
        · exact Or.inr ⟨cost, short, hcost, hfits, howed, h⟩
        · cases h
      · cases h

/-- **A refusal with a rate**: what was left for the rate, and the rate named. -/
theorem bumpPlan_refused (hknown : ParentsKnown fetchTx tx)
    (hshape : planShape tx owned changePrefix = .ok shape) {r : ℚ}
    (h : refusedRate (bumpPlan fetchTx tx owned changePrefix feeRate) = some r) :
    ∃ cost relay, Rate.cost feeRate tx.vsize = .ok cost
      ∧ Rate.cost incrementalRelayFee (replacementVsize tx shape p2wpkh) = .ok relay
      ∧ tx.fee + relay ≤ feeCeiling tx shape p2wpkh
      ∧ 0 ≤ leftForRate fetchTx tx shape feeRate
      ∧ leftForRate fetchTx tx shape feeRate < cost
      ∧ (leftForRate fetchTx tx shape feeRate < feeCeiling tx shape p2wpkh →
        ∃ short, owed feeRate (bumpParents fetchTx shape) = .ok short
          ∧ leftForRate fetchTx tx shape feeRate = feeCeiling tx shape p2wpkh - (short : ℕ))
      ∧ ∃ rate, suggestedRate (leftForRate fetchTx tx shape feeRate) tx.vsize = .ok rate
        ∧ r = printed2 rate := by
  rcases refusedRate_stage hknown hshape h with h | ⟨cost, short, hcost, hfits, howed, h⟩
  · -- the rate alone is too dear: no parent has been priced
    obtain ⟨cost, relay, hcost, hrelay, hextra, hdear, hfloor, hrate⟩ :=
      refusedRate_priceReplacement h
    rw [sub_zero] at hdear hrate
    have hleft : leftForRate fetchTx tx shape feeRate = feeCeiling tx shape p2wpkh := by
      rw [leftForRate, hcost]
      cases owed feeRate (bumpParents fetchTx shape) with
      | error e => rfl
      | ok short => exact if_neg (not_le.mpr hdear)
    rw [hleft]
    exact ⟨cost, relay, hcost, hrelay, hfloor, hextra, hdear,
      fun hlt => absurd hlt (lt_irrefl _), hrate⟩
  · obtain ⟨cost', relay, hcost', hrelay, hextra, hdear, hfloor, hrate⟩ :=
      refusedRate_priceReplacement h
    have hleft : leftForRate fetchTx tx shape feeRate
        = feeCeiling tx shape p2wpkh - (short : ℕ) := by
      rw [leftForRate, hcost, howed]
      exact if_pos hfits
    rw [hleft]
    exact ⟨cost', relay, hcost', hrelay, hfloor, by omega, hdear,
      fun _ => ⟨short, howed, rfl⟩, hrate⟩

/-! ## Re-running with the named rate -/

/-- What `v` vbytes cost at `k` hundredths, as a float of them is multiplied. -/
theorem cost_hundredths {v k : ℕ} (hv : 0 < v) (hk : 0 < k) (h : v * k ≤ 2 ^ 51) :
    Rate.cost (Double.ofRat (k / 100)) v
      = .ok (⌈(v * k : ℚ) / 100⌉ + if Overshoots v k then 1 else 0) := by
  have hvk : v ≤ v * k := Nat.le_mul_of_pos_right v hk
  have hkv : k ≤ v * k := Nat.le_mul_of_pos_left k hv
  have hsize : nearest (v : ℚ) = v := nearest_natCast (by omega)
  have hrate : nearest ((k : ℚ) / 100) ≤ k := by
    have hmono := nearest_mono (by positivity) (div_le_self (Nat.cast_nonneg (α := ℚ) k)
      (by norm_num : (1 : ℚ) ≤ 100))
    rwa [nearest_natCast (show k < 2 ^ 53 by omega)] at hmono
  have hnonneg : 0 ≤ nearest ((k : ℚ) / 100) := nearest_nonneg (by positivity)
  have hbound : (v : ℚ) * nearest (k / 100) ≤ 2 ^ 51 := by
    have hprod : (v * k : ℚ) ≤ 2 ^ 51 := by exact_mod_cast h
    have hle : (v : ℚ) * nearest (k / 100) ≤ v * k := by gcongr
    linarith
  have hsmall : |(v : ℚ)| ≤ 2 ^ 53 := by
    have : (v : ℚ) ≤ 2 ^ 51 := by exact_mod_cast hvk.trans h
    rw [Nat.abs_cast]
    linarith
  have hproduct : |(v : ℚ) * nearest (k / 100)| ≤ 2 ^ 53 := by
    rw [abs_of_nonneg (by positivity)]
    linarith
  rw [ofRat_hundredths (hkv.trans h), cost_finite (lt_overflowLimit hsmall)
    (lt_overflowLimit (by rwa [hsize])), hsize, mul_comm (v : ℚ), ceil_hundredths hv hk h]

/-- Only at a finite rate does a size cost anything. -/
theorem ofRat_of_cost {q : ℚ} {n : ℕ} {cost : ℤ}
    (h : Rate.cost (Double.ofRat q) n = .ok cost) :
    Double.ofRat q = .finite (nearest q) := by
  rw [Double.ofRat] at h ⊢
  split at h
  · obtain ⟨size, -, h⟩ := bind_eq_ok h
    cases size with
    | finite p =>
        rw [Double.mul] at h
        split at h
        · cases h
        · cases h
    | infinity negative => cases h
    | nan => cases h
  · rename_i hfinite
    exact if_neg hfinite

/-- A rate that costs more than `a` is not below the hundredths that `a` is worth. -/
theorem nearest_hundredths_le {q : ℚ} {v k a : ℕ} {cost : ℤ} (hq : 0 ≤ q)
    (hcost : Rate.cost (Double.finite (nearest q)) v = .ok cost) (hv : v < 2 ^ 53)
    (ha : a < 2 ^ 53) (hdear : (a : ℤ) < cost) (hk : v * k ≤ 100 * a) :
    nearest (k / 100) ≤ nearest q := by
  by_contra hbelow
  rw [not_le] at hbelow
  obtain ⟨-, -, rfl⟩ := cost_finite_ok hcost
  by_cases hle : nearest q ≤ k / 100
  · -- then it costs no more than `a`
    have hprice : (v : ℚ) * nearest q ≤ a := by
      have hk' : (v * k : ℚ) ≤ 100 * a := by exact_mod_cast hk
      have hmul : (v : ℚ) * nearest q ≤ v * (k / 100) := by gcongr
      linarith
    have hround := nearest_mono (mul_nonneg (Nat.cast_nonneg v) (nearest_nonneg hq)) hprice
    rw [nearest_natCast ha] at hround
    rw [nearest_natCast hv] at hdear
    have hceil : ⌈nearest ((v : ℚ) * nearest q)⌉ ≤ (a : ℤ) := Int.ceil_le.mpr (by simpa using hround)
    omega
  · -- no float lies between a number and the float nearest to it
    have hmono := nearest_mono (by positivity : (0 : ℚ) ≤ k / 100) (not_le.mp hle).le
    rw [nearest_nearest hq] at hmono
    exact absurd hbelow (not_lt.mpr hmono)

/-- The hundredths that `a` is worth come to `a` at most. -/
theorem ceil_hundredths_le {v k a : ℕ} (h : v * k ≤ 100 * a) :
    ⌈(v * k : ℚ) / 100⌉ ≤ (a : ℤ) := by
  have hcast : (v * k : ℚ) ≤ 100 * a := by exact_mod_cast h
  refine Int.ceil_le.mpr ?_
  rw [Int.cast_natCast]
  linarith

/-- **At the hundredths named the parents owe no more** than at the rate that was too
    dear for `a`. -/
theorem owed_hundredths_le {q : ℚ} {v k a short : ℕ} {cost : ℤ} {parents : List Member}
    (hq : 0 ≤ q) (hv : 0 < v) (hva : v ≤ 100 * a) (hrange : 100 * a ≤ 2 ^ 51)
    (hk : v * k ≤ 100 * a) (hcost : Rate.cost (Double.ofRat q) v = .ok cost)
    (hdear : (a : ℤ) < cost) (howed : owed (Double.ofRat q) parents = .ok short) :
    ∃ less, owed (Double.ofRat (k / 100)) parents = .ok less ∧ less ≤ short := by
  have hkle : k ≤ 2 ^ 51 := (Nat.le_mul_of_pos_left k hv).trans (hk.trans hrange)
  have hfinite := ofRat_of_cost hcost
  rw [hfinite] at hcost howed
  have hlower := nearest_hundredths_le hq hcost (by omega) (by omega) hdear hk
  rw [ofRat_hundredths hkle]
  exact owed_mono (nearest_nonneg (by positivity)) hlower howed

/-- The parents leave the named rate room.  Where the parents' own shortfall at the
    requested rate was what did not fit, they owe no more at the rate named, and
    only its price can come out a sat too high; where the rate alone did not fit, the
    parents are priced for the first time, and have to fit beside it.  Beyond the
    integers that floats hold, the two stages' floats are compared. -/
def NamedRateFits (fetchTx : String → Option TxSummary) (tx : TxSummary)
    (shape : Shape) (feeRate : Double) : Prop :=
  let ceiling := feeCeiling tx shape p2wpkh
  let parents := bumpParents fetchTx shape
  let left := leftForRate fetchTx tx shape feeRate
  0 < tx.vsize ∧
    if 100 * left ≤ 2 ^ 51 then
      let k := hundredths left.toNat tx.vsize
      (tx.vsize : ℤ) ≤ 100 * left
        ∧ (left < ceiling ∧ ¬ Overshoots tx.vsize k
          ∨ ∃ short, owed (Double.ofRat (k / 100)) parents = .ok short
            ∧ ⌈(tx.vsize * k : ℚ) / 100⌉ + (if Overshoots tx.vsize k then 1 else 0)
                + (short : ℕ) ≤ ceiling)
    else
      let rate := Double.ofRat (namedHundredths left tx.vsize / 100)
      0 < namedHundredths left tx.vsize
        ∧ ∃ cost short, Rate.cost rate tx.vsize = .ok cost
          ∧ owed rate parents = .ok short ∧ cost + (short : ℕ) ≤ ceiling

/-- Whatever refuses a shape refuses it at every rate, and names none. -/
theorem planShape_error_namesRate {e : NotReplaceable}
    (h : planShape tx owned changePrefix = .error e) : e.namesRate = none := by
  have hshape := planShape_avoids e h
  cases e with
  | tooLittleChange why => exact absurd ⟨why, rfl⟩ hshape
  | _ => rfl

/-- A refusal that names a rate comes after a shape was found. -/
theorem bumpPlan_shape {r : ℚ}
    (h : refusedRate (bumpPlan fetchTx tx owned changePrefix feeRate) = some r) :
    ∃ shape, planShape tx owned changePrefix = .ok shape := by
  cases hs : planShape tx owned changePrefix with
  | ok shape => exact ⟨shape, rfl⟩
  | error e =>
      have hplan : bumpPlan fetchTx tx owned changePrefix feeRate = .error (.refused e) := by
        rw [bumpPlan, planReplacement, hs]
        rfl
      rw [hplan] at h
      have hnone : e.namesRate = some r := h
      rw [planShape_error_namesRate hs] at hnone
      cases hnone

end Bump

/-- **A named rate can be typed back exactly when the parents leave it room.**
    Every refusal that names `--fee-rate r` comes from a transaction that has a
    replaceable shape; `r` is positive and plans, with the chain unchanged,
    exactly when `NamedRateFits`. -/
theorem bumpPlan_retry_iff (fetchTx : String → Option TxSummary) (tx : TxSummary)
    (owned : Owned) (changePrefix : String) (feeRate r : ℚ) (hrate : 0 < feeRate)
    (hknown : ParentsKnown fetchTx tx)
    (h : refusedRate (bumpPlan fetchTx tx owned changePrefix (Double.ofRat feeRate)) = some r) :
    ∃ shape, planShape tx owned changePrefix = .ok shape
      ∧ ((0 < r ∧ ∃ p, bumpPlan fetchTx tx owned changePrefix (Double.ofRat r) = .ok p)
        ↔ NamedRateFits fetchTx tx shape (Double.ofRat feeRate)) := by
  obtain ⟨shape, hshape⟩ := bumpPlan_shape h
  refine ⟨shape, hshape, ?_⟩
  obtain ⟨cost, relay, hcost, hrelay, hfloor, hleft, hdear, hparents, rate, hnamed, rfl⟩ :=
    bumpPlan_refused hknown hshape h
  rw [bumpPlan_isOk_iff hknown hshape]
  unfold NamedRateFits
  dsimp only
  generalize hl : leftForRate fetchTx tx shape (Double.ofRat feeRate) = left at *
  rcases Nat.eq_zero_or_pos tx.vsize with hv | hv
  · -- a transaction of unknown size gets a rate of zero
    rw [suggestedRate, if_neg (not_not.mpr hv)] at hnamed
    cases hnamed
    refine iff_of_false ?_ ?_
    · rintro ⟨hpos, -⟩
      exact absurd hpos (by decide +kernel)
    · rintro ⟨hv', -⟩
      omega
  · rw [suggestedRate_ok hv hnamed]
    by_cases hrange : 100 * left ≤ 2 ^ 51
    · rw [if_pos hrange]
      lift left to ℕ using hleft
      have hrange' : 100 * left ≤ 2 ^ 51 := by exact_mod_cast hrange
      rw [namedHundredths_eq hv hrange', Int.toNat_natCast, Int.cast_natCast]
      have hmul := mul_hundredths_le left tx.vsize
      have hposIff : 0 < hundredths left tx.vsize ↔ tx.vsize ≤ 100 * left :=
        hundredths_pos_iff hv
      generalize hundredths left tx.vsize = k at hmul hposIff
      by_cases hpos : 0 < k
      · have hprice := cost_hundredths hv hpos (hmul.trans hrange')
        have hwhole := ceil_hundredths_le hmul
        constructor
        · rintro ⟨-, cost', -, short, hcost', -, howed, hpay, -⟩
          rw [hprice] at hcost'
          obtain rfl := Except.ok.inj hcost'
          exact ⟨hv, by exact_mod_cast hposIff.mp hpos, Or.inr ⟨short, howed, hpay⟩⟩
        · rintro ⟨-, -, hroom⟩
          have hpays : ∃ short, owed (Double.ofRat (k / 100)) (bumpParents fetchTx shape)
                = .ok short
              ∧ ⌈(tx.vsize * k : ℚ) / 100⌉ + (if Overshoots tx.vsize k then 1 else 0)
                  + (short : ℕ) ≤ feeCeiling tx shape p2wpkh := by
            rcases hroom with ⟨hlt, hover⟩ | hroom
            · -- at the lower rate the parents owe no more than before
              obtain ⟨short, howed, hshort⟩ := hparents hlt
              obtain ⟨less, hless, hle⟩ := owed_hundredths_le hrate.le hv (hposIff.mp hpos)
                hrange' hmul hcost hdear howed
              refine ⟨less, hless, ?_⟩
              rw [if_neg hover]
              omega
            · exact hroom
          obtain ⟨short, howed, hpay⟩ := hpays
          exact ⟨by positivity, _, relay, short, hprice, hrelay, howed, hpay, hfloor⟩
      · -- no rate at all
        refine iff_of_false ?_ ?_
        · rintro ⟨hpos', -⟩
          rw [div_pos_iff_of_pos_right (by norm_num), Nat.cast_pos] at hpos'
          exact hpos hpos'
        · rintro ⟨-, hge, -⟩
          exact hpos (hposIff.mpr (by exact_mod_cast hge))
    · rw [if_neg hrange, div_pos_iff_of_pos_right (by norm_num), Int.cast_pos]
      constructor
      · rintro ⟨hpos, cost', -, short, hcost', -, howed, hpay, -⟩
        exact ⟨hv, hpos, cost', short, hcost', howed, hpay⟩
      · rintro ⟨-, hpos, cost', short, hcost', howed, hpay⟩
        exact ⟨hpos, cost', relay, short, hcost', hrelay, howed, hpay, hfloor⟩

/-! ## A package the refusal sends round in a circle

    The stuck payment's parent also pays 1 sat/vB.  Its change can pay 1200
    sats in all, so a bump to 10 sat/vB is refused with the advice to try 6.00;
    but at 6.00 the parent, priced for the first time, is 500 sats short. -/

def stuckChain : String → Option TxSummary := fun _ =>
  some { txid := "parent", confirmed := false, blockHeight := none, fee := 100
         vsize := 100, inputs := [], outputs := [] }

theorem stuckTx_parentsKnown : ParentsKnown stuckChain stuckTx :=
  fun _ _ _ _ => rfl

theorem bumpPlan_retry_iff_stuckTx :
    ∃ shape, planShape stuckTx stuckOwned "m/84'/0'/0'/1/" = .ok shape
      ∧ ((0 < (6 : ℚ)
          ∧ ∃ p, bumpPlan stuckChain stuckTx stuckOwned "m/84'/0'/0'/1/" (Double.ofRat 6)
            = .ok p)
        ↔ NamedRateFits stuckChain stuckTx shape (Double.ofRat 10)) :=
  bumpPlan_retry_iff stuckChain stuckTx stuckOwned "m/84'/0'/0'/1/" 10 6 (by norm_num)
    stuckTx_parentsKnown (by decide +kernel)

/-- The rate a refusal names is not always one the next run accepts. -/
theorem bumpPlan_retry_refused :
    ¬ ∀ (fetchTx : String → Option TxSummary) (tx : TxSummary) (owned : Owned)
        (changePrefix : String) (feeRate r : ℚ), 0 < feeRate →
        ParentsKnown fetchTx tx →
        refusedRate (bumpPlan fetchTx tx owned changePrefix (Double.ofRat feeRate)) = some r →
        0 < r ∧ ∃ p, bumpPlan fetchTx tx owned changePrefix (Double.ofRat r) = .ok p := by
  intro h
  obtain ⟨-, p, hp⟩ := h stuckChain stuckTx stuckOwned "m/84'/0'/0'/1/" 10 6
    (by norm_num) stuckTx_parentsKnown (by decide +kernel)
  have hagain : (bumpPlan stuckChain stuckTx stuckOwned "m/84'/0'/0'/1/"
      (Double.ofRat 6)).isOk = false := by decide +kernel
  rw [hp] at hagain
  exact nomatch hagain

/-- A payment whose parent is mined and whose change can pay 440 sats: 2.20 sat/vB is
    named, and costs 441 in floats. -/
def overshootTx : TxSummary :=
  { stuckTx with
    inputs := [{ value := 50734, address := some "bc1qmine", txid := some "parent"
                 vout := some 0, sequence := some 0xFFFFFFFD }]
    outputs := [{ value := 50000, address := some "bc1qpayee" },
                { value := 534, address := some "bc1qchange" }] }

example :
    let mined : String → Option TxSummary := fun _ =>
      some { txid := "parent", confirmed := true, blockHeight := some 1, fee := 100
             vsize := 100, inputs := [], outputs := [] }
    refusedRate (bumpPlan mined overshootTx stuckOwned "m/84'/0'/0'/1/" (Double.ofRat 10))
        = some (11 / 5)
      ∧ refusedRate (bumpPlan mined overshootTx stuckOwned "m/84'/0'/0'/1/"
          (Double.ofRat (11 / 5))) = some (11 / 5) := by
  decide +kernel

end SwapsackBump
