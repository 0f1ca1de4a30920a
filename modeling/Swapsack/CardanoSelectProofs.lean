import Swapsack.CardanoOrderProofs
import Swapsack.CardanoSweepProofs

/-! # What the Cardano selection returns and refuses

    The selection is described by what it returns, for any coins, and by what its
    refusal means when every coin pays for its own bytes.

    * `select_returned` — a prefix of the coins, the recipient untouched, and
      inputs that are outputs and fee;
    * `select_refused` — a refusal means that no prefix covers the payment;
    * `covers_pool` — coins that cover the payment still do with the others added,
      when each pays for its bytes;
    * `select_sound_complete` — so a refusal means that no coins cover it. -/

namespace SwapsackCardano

open ListKit ByteString PyText SwapsackBase SwapsackCardanoTx
open SwapsackSelection (sumValues sumValues_append sumValues_singleton)
open SwapsackCardanoSweep (MissingFunds feeFor_avoids witnessCount_perm)

/-! ## Lovelace -/

/-- The coins are whole numbers of lovelace. -/
def WholeLovelace (utxos : List Utxo) : Prop := ∀ u ∈ utxos, u.value % lovelaceToUnits = 0

theorem WholeLovelace.of_subset {us vs : List Utxo} (h : WholeLovelace vs) (hsub : us ⊆ vs) :
    WholeLovelace us := fun u hu => h u (hsub hu)

theorem lovelaceOf_append_singleton (chosen : List Utxo) {u : Utxo}
    (h : u.value % lovelaceToUnits = 0) :
    lovelaceOf (chosen ++ [u]) = lovelaceOf chosen + u.value / lovelaceToUnits := by
  rw [lovelaceOf, lovelaceOf, sumValues_append, sumValues_singleton]
  exact Int.add_ediv_of_dvd_right (Int.dvd_of_emod_eq_zero h)

/-- Whole coins are worth what each of them is worth. -/
theorem lovelaceOf_eq_sum {utxos : List Utxo} (h : WholeLovelace utxos) :
    lovelaceOf utxos = (utxos.map fun u => u.value / lovelaceToUnits).sum := by
  induction utxos with
  | nil => rfl
  | cons u us ih =>
      have hu : u.value % lovelaceToUnits = 0 := h u List.mem_cons_self
      have hus := ih (h.of_subset (List.subset_cons_self u us))
      rw [List.map_cons, List.sum_cons, ← hus, lovelaceOf, lovelaceOf]
      exact Int.add_ediv_of_dvd_left (Int.dvd_of_emod_eq_zero hu)

theorem lovelaceOf_perm {us vs : List Utxo} (h : us.Perm vs) : lovelaceOf us = lovelaceOf vs := by
  rw [lovelaceOf, lovelaceOf, sumValues, sumValues, (h.map _).sum_eq]

/-! ## What a selection returns -/

section Selection

variable {ad : AdaAdapter} {params : ProtocolParams} {recipient : TxOut}
  {changeRaw : Bytes} {feeFor : List Utxo → List TxOut → Except PyError ℕ}

/-- The change and the fee are what the payment leaves, whichever sizing was
    taken. -/
theorem changeFor_conserves {chosen : List Utxo} {change : TxOut} {fee : ℕ}
    (h : changeFor recipient changeRaw feeFor chosen = .ok (change, fee)) :
    change.address = changeRaw
      ∧ lovelaceOf chosen = recipient.lovelace + change.lovelace + fee := by
  obtain ⟨first, -, h⟩ := bind_eq_ok h
  obtain ⟨exact, -, h⟩ := bind_eq_ok h
  obtain ⟨again, -, h⟩ := bind_eq_ok h
  split at h
  · cases h
    refine ⟨rfl, ?_⟩
    show lovelaceOf chosen
      = recipient.lovelace + (lovelaceOf chosen - recipient.lovelace - _) + _
    omega
  · cases h
    refine ⟨rfl, ?_⟩
    show lovelaceOf chosen
      = recipient.lovelace + (lovelaceOf chosen - recipient.lovelace - _) + _
    omega

/-- **What is returned**: a non-empty prefix, the recipient first and untouched,
    inputs that are outputs and fee, a change that may be an output, and without
    change the shortest prefix that covers. -/
theorem select_returned {pool chosen : List Utxo} {outputs : List TxOut} {fee : ℤ}
    (hwhole : WholeLovelace pool)
    (h : select ad params recipient changeRaw feeFor pool = .ok (chosen, outputs, fee)) :
    chosen ≠ [] ∧ chosen <+: pool
      ∧ (chosen.map fun u => u.value / lovelaceToUnits).sum
        = (outputs.map TxOut.lovelace).sum + fee
      ∧ ((∃ change, outputs = [recipient, change] ∧ change.address = changeRaw
          ∧ (minLovelace ad.codec change params : ℤ) ≤ change.lovelace)
        ∨ (outputs = [recipient]
          ∧ ∃ k, chosen = pool.take (k + 1) ∧ ShortestCover recipient feeFor pool k)) := by
  have hprefix : ∀ k < pool.length, pool.take (k + 1) ≠ [] ∧ pool.take (k + 1) <+: pool := by
    intro k hk
    refine ⟨?_, List.take_prefix _ _⟩
    intro hnil
    have hlen := congrArg List.length hnil
    rw [List.length_take, List.length_nil] at hlen
    omega
  cases select_cases h with
  | @kept k fee change hk hchange hmin hfirst =>
      obtain ⟨hne, hpre⟩ := hprefix k hk
      obtain ⟨haddress, htotal⟩ := changeFor_conserves hchange
      refine ⟨hne, hpre, ?_, Or.inl ⟨change, rfl, haddress, hmin⟩⟩
      rw [← lovelaceOf_eq_sum (hwhole.of_subset hpre.subset), htotal]
      simp
  | @folded k hk hcover hnone =>
      obtain ⟨hne, hpre⟩ := hprefix k hk
      refine ⟨hne, hpre, ?_, Or.inr ⟨rfl, k, rfl, hcover⟩⟩
      rw [← lovelaceOf_eq_sum (hwhole.of_subset hpre.subset)]
      simp

/-! ## What a refusal means -/

/-- Sizing the change runs out of coins only when sizing a fee does. -/
theorem changeFor_avoids (hown : ∀ chosen outputs, Avoids MissingFunds (feeFor chosen outputs))
    (chosen : List Utxo) : Avoids MissingFunds (changeFor recipient changeRaw feeFor chosen) := by
  refine (hown _ _).bind fun fee => (hown _ _).bind fun exact => (hown _ _).bind fun again => ?_
  exact avoids_ok _

/-- The loop refuses when no prefix covers the payment; it has sized the fee of
    every prefix by then. -/
theorem selectLoop_refused
    (hown : ∀ chosen outputs, Avoids MissingFunds (feeFor chosen outputs)) {pool : List Utxo}
    {msg : String} :
    ∀ {rest : List Utxo} {i : ℕ} {fold : Option (List Utxo × ℤ)},
      rest = pool.drop i → i ≤ pool.length → Remembers recipient feeFor pool i fold →
      selectLoop ad params recipient changeRaw feeFor pool rest (pool.take i) fold
        = .error (.insufficientFunds msg) →
      (∀ j < pool.length, ¬ Covers recipient feeFor (pool.take (j + 1)))
        ∧ ∀ j < pool.length, i ≤ j →
          ∃ alone, feeFor (pool.take (j + 1)) [recipient] = .ok alone := by
  intro rest
  induction rest with
  | nil =>
      intro i fold hrest hi hfold h
      have hall : i = pool.length := le_antisymm hi (List.drop_eq_nil_iff.mp hrest.symm)
      -- with a cover remembered the loop returns it
      cases fold with
      | none =>
          refine ⟨hall ▸ hfold, ?_⟩
          intro j hj hij
          omega
      | some f => cases h
  | cons utxo rest ih =>
      intro i fold hrest hi hfold h
      have hlt : i < pool.length := by
        by_contra hge
        rw [List.drop_eq_nil_iff.mpr (not_lt.mp hge)] at hrest
        cases hrest
      have hdrop := List.drop_eq_getElem_cons hlt
      rw [← hrest] at hdrop
      obtain ⟨hutxo, hrest'⟩ := List.cons.inj hdrop
      have htake : pool.take i ++ [utxo] = pool.take (i + 1) := by
        rw [hutxo, List.take_append_getElem hlt]
      -- sizing never runs out of coins, so the refusal comes from the rest of the loop
      rw [selectLoop] at h
      dsimp only at h
      rw [htake] at h
      rcases bind_eq_error h with hchange | ⟨⟨change, fee⟩, -, h⟩
      · exact absurd trivial (changeFor_avoids hown _ _ hchange)
      · dsimp only at h
        split at h
        · cases h
        · rcases bind_eq_error h with halone | ⟨alone, halone, h⟩
          · exact absurd trivial (hown _ _ _ halone)
          · obtain ⟨hnone, hsized⟩ := ih hrest' hlt (remembers_step halone hfold) h
            refine ⟨hnone, ?_⟩
            intro j hj hij
            by_cases hlast : j = i
            · exact ⟨alone, hlast ▸ halone⟩
            · exact hsized j hj (by omega)

/-- **A refusal means that no prefix covers**, the whole pool included. -/
theorem select_refused (hown : ∀ chosen outputs, Avoids MissingFunds (feeFor chosen outputs))
    {pool : List Utxo} (hpool : pool ≠ []) {msg : String}
    (h : select ad params recipient changeRaw feeFor pool = .error (.insufficientFunds msg)) :
    ¬ Covers recipient feeFor pool ∧ ∃ alone, feeFor pool [recipient] = .ok alone := by
  have hstart : Remembers recipient feeFor pool 0 none := by
    intro j hj
    omega
  have hpos : 0 < pool.length := List.length_pos_iff.mpr hpool
  have hlast : pool.take (pool.length - 1 + 1) = pool := by
    rw [Nat.sub_add_cancel hpos, List.take_length]
  obtain ⟨hnone, hsized⟩ := selectLoop_refused hown rfl (Nat.zero_le _) hstart h
  have hcover := hnone (pool.length - 1) (by omega)
  have hfee := hsized (pool.length - 1) (by omega) (Nat.zero_le _)
  rw [hlast] at hcover hfee
  exact ⟨hcover, hfee⟩

/-! ## Coins that pay their way -/

/-- Adding a coin of the pool to a selection raises the fee without change by no
    more than the coin is worth. -/
def PaysItsWay (recipient : TxOut) (feeFor : List Utxo → List TxOut → Except PyError ℕ)
    (pool : List Utxo) : Prop :=
  ∀ chosen u fee fee', (chosen ++ [u]).Subperm pool → feeFor chosen [recipient] = .ok fee →
    feeFor (chosen ++ [u]) [recipient] = .ok fee' →
    (fee' : ℤ) ≤ fee + u.value / lovelaceToUnits

/-- Covering is kept while coins that pay their way are added. -/
theorem covers_append {pool : List Utxo} (hwhole : WholeLovelace pool)
    (hpays : PaysItsWay recipient feeFor pool)
    (hsized : ∀ chosen : List Utxo, chosen.Subperm pool →
      ∃ alone, feeFor chosen [recipient] = .ok alone) {more : List Utxo} :
    ∀ {chosen : List Utxo}, (chosen ++ more).Subperm pool → Covers recipient feeFor chosen →
      Covers recipient feeFor (chosen ++ more) := by
  induction more with
  | nil =>
      intro chosen _ hcover
      rw [List.append_nil]
      exact hcover
  | cons u more ih =>
      intro chosen hsub hcover
      have happend : chosen ++ u :: more = chosen ++ [u] ++ more := by
        rw [List.append_assoc, List.singleton_append]
      rw [happend] at hsub ⊢
      have hstep : (chosen ++ [u]).Subperm pool :=
        (List.sublist_append_left _ _).subperm.trans hsub
      obtain ⟨fee, hfee, hle⟩ := hcover
      obtain ⟨fee', hfee'⟩ := hsized _ hstep
      -- the coin pays for what it adds to the fee
      have hraise := hpays chosen u fee fee' hstep hfee hfee'
      have hu : u.value % lovelaceToUnits = 0 :=
        hwhole u (hstep.subset (List.mem_append_right _ List.mem_cons_self))
      refine ih hsub ⟨fee', hfee', ?_⟩
      rw [lovelaceOf_append_singleton chosen hu]
      omega

/-- **Coins that cover the payment still do with all the others.** -/
theorem covers_pool {pool chosen : List Utxo} (hwhole : WholeLovelace pool)
    (hpays : PaysItsWay recipient feeFor pool)
    (hsized : ∀ chosen : List Utxo, chosen.Subperm pool →
      ∃ alone, feeFor chosen [recipient] = .ok alone)
    (hperm : ∀ {us vs : List Utxo} {alone : ℕ}, us.Perm vs →
      feeFor us [recipient] = .ok alone → feeFor vs [recipient] = .ok alone)
    (hsub : chosen.Subperm pool) (hcover : Covers recipient feeFor chosen) :
    Covers recipient feeFor pool := by
  -- complete the coins by the ones that are left out
  obtain ⟨same, hsame, hsublist⟩ := hsub
  obtain ⟨more, hmore⟩ := hsublist.exists_perm_append
  have hall : (chosen ++ more).Perm pool := (hsame.symm.append_right more).trans hmore.symm
  obtain ⟨alone, halone, hle⟩ := covers_append hwhole hpays hsized hall.subperm hcover
  exact ⟨alone, hperm hall halone, lovelaceOf_perm hall ▸ hle⟩

end Selection

/-! ## The fee of a spend -/

section Spend

variable (ad : AdaAdapter) (s : Spend)

/-- A fee is sized when every coin has a readable id and there are not too many
    addresses. -/
theorem feeFor_isOk_iff (chosen : List Utxo) (outputs : List TxOut) :
    (∃ fee, s.feeFor ad chosen outputs = .ok fee)
      ↔ (∀ u ∈ chosen, ∃ i, buildInput u = .ok i) ∧ witnessCount chosen ≤ 256 := by
  constructor
  · rintro ⟨fee, h⟩
    obtain ⟨tx, htx, h⟩ := bind_eq_ok h
    obtain ⟨inputs, hinputs, -⟩ := bind_eq_ok htx
    obtain ⟨dummy, hdummy, -⟩ := bind_eq_ok h
    exact ⟨mapM_isOk_iff.mp ⟨inputs, hinputs⟩, (placeholders_ok hdummy).1⟩
  · rintro ⟨hids, hfew⟩
    obtain ⟨inputs, hinputs⟩ := mapM_isOk_iff.mpr hids
    obtain ⟨fee, hfee⟩ := requiredFee_isOk ad.codec
      { inputs, outputs, fee := 0, ttl := s.ttl, memo := s.memo } s.params hfew
    refine ⟨fee, ?_⟩
    rw [Spend.feeFor, Spend.unsigned, hinputs]
    exact hfee

theorem witnessCount_subperm {us vs : List Utxo} (h : us.Subperm vs) :
    witnessCount us ≤ witnessCount vs := by
  have hsub : (us.map Utxo.address).dedup ⊆ (vs.map Utxo.address).dedup := by
    intro a ha
    rw [List.mem_dedup] at ha ⊢
    exact List.map_subset _ h.subset ha
  exact (List.subperm_of_subset (List.nodup_dedup _) hsub).length_le

/-- What can be sized for a pool can be sized for any of its coins. -/
theorem feeFor_isOk_subperm {pool chosen : List Utxo} {outputs : List TxOut}
    (hsub : chosen.Subperm pool) (h : ∃ fee, s.feeFor ad pool outputs = .ok fee) :
    ∃ fee, s.feeFor ad chosen outputs = .ok fee := by
  obtain ⟨hids, hfew⟩ := (feeFor_isOk_iff ad s pool outputs).mp h
  refine (feeFor_isOk_iff ad s chosen outputs).mpr ⟨?_, ?_⟩
  · intro u hu
    exact hids u (hsub.subset hu)
  · exact (witnessCount_subperm hsub).trans hfew

/-- Inputs are a set, so the order of the coins does not change their fee. -/
theorem feeFor_perm {us vs : List Utxo} {outputs : List TxOut} {fee : ℕ} (hperm : us.Perm vs)
    (h : s.feeFor ad us outputs = .ok fee) : s.feeFor ad vs outputs = .ok fee := by
  obtain ⟨tx, htx, h⟩ := bind_eq_ok h
  obtain ⟨inputs, hinputs, htx⟩ := bind_eq_ok htx
  cases htx
  obtain ⟨inputs', hinputs'⟩ := mapM_isOk_iff.mpr fun u hu =>
    mapM_isOk_iff.mp ⟨inputs, hinputs⟩ u (hperm.mem_iff.mpr hu)
  have hsame : inputs.Perm inputs' := mapM_ok_perm hperm hinputs hinputs'
  rw [requiredFee_perm ad.codec hsame, witnessCount_perm hperm] at h
  rw [Spend.feeFor, Spend.unsigned, hinputs']
  exact h

/-- **The selection of a spend**: what it returns, and that it refuses only what
    no coins of the pool cover. -/
theorem select_sound_complete {pool : List Utxo} (hwhole : WholeLovelace pool) :
    (∀ chosen outputs fee,
      select ad s.params s.recipient s.changeRaw (s.feeFor ad) pool
        = .ok (chosen, outputs, fee) →
      chosen ≠ [] ∧ chosen <+: pool
        ∧ (chosen.map fun u => u.value / lovelaceToUnits).sum
          = (outputs.map TxOut.lovelace).sum + fee
        ∧ ((∃ change, outputs = [s.recipient, change] ∧ change.address = s.changeRaw
            ∧ (minLovelace ad.codec change s.params : ℤ) ≤ change.lovelace)
          ∨ (outputs = [s.recipient] ∧ ∃ k, chosen = pool.take (k + 1)
            ∧ ShortestCover s.recipient (s.feeFor ad) pool k)))
      ∧ (pool ≠ [] → PaysItsWay s.recipient (s.feeFor ad) pool → ∀ msg,
        select ad s.params s.recipient s.changeRaw (s.feeFor ad) pool
          = .error (.insufficientFunds msg) →
        ∀ chosen : List Utxo, chosen.Subperm pool →
          ¬ Covers s.recipient (s.feeFor ad) chosen) := by
  constructor
  · intro chosen outputs fee h
    exact select_returned hwhole h
  · intro hpool hpays msg h chosen hsub hcover
    obtain ⟨hnone, hsized⟩ := select_refused (feeFor_avoids ad s) hpool h
    exact hnone (covers_pool hwhole hpays
      (fun chosen hsub => feeFor_isOk_subperm ad s hsub hsized) (feeFor_perm ad s) hsub hcover)

end Spend

/-- A payment to the longest address, with change to it. -/
def payLongest (lovelace : ℤ) : Spend where
  params := oneCoinParams 155381
  ttl := 200007200
  recipient := { address := longestAddress, lovelace }
  changeRaw := longestAddress
  memo := none

/-- Three outputs of five ADA each. -/
def fiveAdaPool : List Utxo := [fiveAda 0, fiveAda 1, fiveAda 2]

theorem fiveAdaPool_whole : WholeLovelace fiveAdaPool := by
  intro u hu
  simp only [fiveAdaPool, List.mem_cons, List.not_mem_nil, or_false] at hu
  rcases hu with rfl | rfl | rfl
  · decide
  · decide
  · decide

/-- No fee of a spend of them comes near what one of them is worth. -/
theorem fiveAdaPool_pays : PaysItsWay (payLongest 16000000).recipient
    ((payLongest 16000000).feeFor (oneCoinAdapter 155381)) fiveAdaPool := by
  have hsmall : ∀ us ∈ fiveAdaPool.sublists,
      ((payLongest 16000000).feeFor (oneCoinAdapter 155381) us
        [(payLongest 16000000).recipient]).toOption.all (fun fee => decide (fee ≤ 5000000))
          = true := forall_mem_of_all (by decide +kernel)
  intro chosen u fee fee' hsub _ hfee'
  obtain ⟨us, hperm, hus⟩ := hsub
  have hworth : u.value / lovelaceToUnits = 5000000 := by
    have hmem := hus.subset (hperm.mem_iff.mpr (List.mem_append_right chosen List.mem_cons_self))
    simp only [fiveAdaPool, List.mem_cons, List.not_mem_nil, or_false] at hmem
    rcases hmem with rfl | rfl | rfl
    · rfl
    · rfl
    · rfl
  have hpaid := feeFor_perm (oneCoinAdapter 155381) (payLongest 16000000) hperm.symm hfee'
  have hle := hsmall us (List.mem_sublists.mpr hus)
  rw [hpaid] at hle
  have hle' : fee' ≤ 5000000 := of_decide_eq_true hle
  rw [hworth]
  omega

/-- Two of the coins pay eight ADA; no coins of the pool pay sixteen. -/
theorem select_sound_complete_five :
    (∃ chosen outputs fee, chosen.length = 2 ∧ chosen <+: fiveAdaPool
        ∧ (chosen.map fun u => u.value / lovelaceToUnits).sum
          = (outputs.map TxOut.lovelace).sum + fee
        ∧ select (oneCoinAdapter 155381) (payLongest 8000000).params
          (payLongest 8000000).recipient (payLongest 8000000).changeRaw
          ((payLongest 8000000).feeFor (oneCoinAdapter 155381)) fiveAdaPool
            = .ok (chosen, outputs, fee))
      ∧ ∀ chosen : List Utxo, chosen.Subperm fiveAdaPool →
        ¬ Covers (payLongest 16000000).recipient
          ((payLongest 16000000).feeFor (oneCoinAdapter 155381)) chosen := by
  constructor
  · obtain ⟨⟨chosen, outputs, fee⟩, h⟩ := exists_of_isOk (show
      (select (oneCoinAdapter 155381) (payLongest 8000000).params
        (payLongest 8000000).recipient (payLongest 8000000).changeRaw
        ((payLongest 8000000).feeFor (oneCoinAdapter 155381)) fiveAdaPool).isOk = true
      by decide +kernel)
    have htwo : ((select (oneCoinAdapter 155381) (payLongest 8000000).params
        (payLongest 8000000).recipient (payLongest 8000000).changeRaw
        ((payLongest 8000000).feeFor (oneCoinAdapter 155381)) fiveAdaPool).toOption.map
          fun r => r.1.length) = some 2 := by decide +kernel
    rw [h] at htwo
    obtain ⟨-, hpre, hsum, -⟩ := (select_sound_complete (oneCoinAdapter 155381)
      (payLongest 8000000) fiveAdaPool_whole).1 chosen outputs fee h
    exact ⟨chosen, outputs, fee, Option.some.inj htwo, hpre, hsum, h⟩
  · exact (select_sound_complete (oneCoinAdapter 155381) (payLongest 16000000)
      fiveAdaPool_whole).2 (List.cons_ne_nil _ _) fiveAdaPool_pays
      "16.000000 ADA plus the fee exceeds the 15.000000 ADA spendable" (by decide +kernel)

/-- A payment of nothing where nothing costs a fee. -/
def freeSpend : Spend where
  params := { minFeeA := 0, minFeeB := 0, coinsPerUtxoByte := 0 }
  ttl := 0
  recipient := { address := longestAddress, lovelace := 0 }
  changeRaw := longestAddress
  memo := none

/-- Without any coins the loop does not go round, so it refuses also what no coin
    is needed for. -/
theorem select_refusesEmpty :
    ¬ ∀ (ad : AdaAdapter) (s : Spend) (pool : List Utxo), WholeLovelace pool →
      pool.Pairwise (fun a b => b.value ≤ a.value) →
      PaysItsWay s.recipient (s.feeFor ad) pool → ∀ msg,
      select ad s.params s.recipient s.changeRaw (s.feeFor ad) pool
        = .error (.insufficientFunds msg) →
      ∀ chosen : List Utxo, chosen.Subperm pool →
        ¬ Covers s.recipient (s.feeFor ad) chosen := by
  intro h
  have hwhole : WholeLovelace [] := by
    intro u hu
    cases hu
  have hpays : PaysItsWay freeSpend.recipient (freeSpend.feeFor (oneCoinAdapter 0)) [] := by
    intro chosen u fee fee' hsub _ _
    have hlen := hsub.length_le
    rw [List.length_append, List.length_singleton, List.length_nil] at hlen
    omega
  refine h (oneCoinAdapter 0) freeSpend [] hwhole List.Pairwise.nil hpays
    "0.000000 ADA plus the fee exceeds the 0.000000 ADA spendable" (by decide +kernel) []
    (List.Subperm.refl []) ⟨0, by decide +kernel, by decide⟩

end SwapsackCardano
