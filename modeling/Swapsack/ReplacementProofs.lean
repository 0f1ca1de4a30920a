import Swapsack.GatedProofs
import Swapsack.RebuildProofs

/-! # The gate of a fee bump

    A bump is planned on what an explorer reports, built through scripts, and
    gated against a plan reconstructed from the same replacement: the swap gate
    when a memo is carried, the send gate otherwise.  Nothing of this can
    disagree with itself.

    * `buildReplacement_outputs` — the outputs read back from the build are the
      planned ones;
    * `readBack_recipient`, `readBack_memo` — one output pays the payee, and
      the payloads are the original's;
    * `buildAndVerifyReplacement_passes_iff` — so only the fee limit decides. -/

namespace SwapsackReplacement

open ListKit ByteString PyText SwapsackBase SwapsackCoins SwapsackBtc SwapsackRbf
open SwapsackUtxo SwapsackRebuild SwapsackVerify SwapsackGated
open SwapsackSelection (sumValues)

/-! ## The gate -/

section Gate

variable [PyUnicode] {κ : Type} (ad : UtxoAdapter κ)

/-- The plan a replacement is gated against, and what the gate finds.  A memo
    goes through the swap gate: nothing is quoted again, so the hour is a
    placeholder, and the payout address stands inside the memo. -/
def gateReplacement (built : BuiltSwap κ) (replacement : Replacement) (now maxFee : ℤ) :
    GatePlan × List Problem :=
  let owned := ownedAddresses replacement.changeAddress replacement.inputs
  match replacement.memo with
  | none =>
      let plan : SendPlan := { recipient := replacement.recipient
                               amount := replacement.amount }
      (.send plan, verifyBtcSend built.outputs built.fee plan owned maxFee)
  | some memo =>
      let plan : SwapPlan := { inboundAddress := replacement.recipient
                               amount := replacement.amount, memo := .binary memo
                               expiry := now + 3600, destination := "" }
      (.swap plan, verifyBtcSwap built.outputs built.fee plan owned now maxFee)

/-- Build and gate a fee bump; the fee is also reconciled with the outputs. -/
def buildAndVerifyReplacement (mnemonic : String) (replacement : Replacement)
    (now maxFee : ℤ) : Except PyError (Prepared (BuiltSwap κ)) := do
  let built ← buildReplacement ad mnemonic replacement
  let (plan, problems) := gateReplacement built replacement now maxFee
  let realFee := sumValues replacement.inputs - (built.outputs.map TxOutput.value).sum
  .ok { quote := none, built, plan
        problems := problems
          ++ check (realFee != built.fee) (.replacementFee realFee built.fee) }

end Gate

/-! ## What the build reads back as -/

/-- A planned output as it is read back: a data output shows no address. -/
def readBack (out : TxOutput) : TxOutput :=
  match out.opReturnData with
  | some _ => { out with address := none }
  | none => out

@[simp] theorem readBack_value (out : TxOutput) : (readBack out).value = out.value := by
  unfold readBack
  split <;> rfl

@[simp] theorem readBack_opReturnData (out : TxOutput) :
    (readBack out).opReturnData = out.opReturnData := by
  unfold readBack
  split <;> rfl

theorem readBack_of_none {out : TxOutput} (h : out.opReturnData = none) :
    readBack out = out := by
  rw [readBack]
  rw [h]

section ReadBack

variable {κ : Type} {ad : UtxoAdapter κ} {mnemonic : String}

theorem extractOutput_rebuildOutput (hcodec : AddressCodec ad) {out : TxOutput}
    {o : LibOutput} (h : rebuildOutput ad out = .ok o) :
    extractOutput o = .ok (readBack out) ∧ o.value = out.value := by
  rw [rebuildOutput] at h
  cases hdata : out.opReturnData with
  | some data =>
      rw [hdata] at h
      obtain ⟨script, hscript, h⟩ := bind_eq_ok h
      cases h
      have hopcode : script.take 1 = [opReturnOpcode] := by
        rcases encodeOpReturn_cases hscript with ⟨-, rfl⟩ | ⟨-, -, rfl⟩
        · rfl
        · rfl
      refine ⟨?_, rfl⟩
      rw [extractOutput, if_pos hopcode, decodeOpReturn_encodeOpReturn hscript, ok_bind,
        readBack]
      rw [hdata]
  | none =>
      rw [hdata] at h
      cases haddress : out.address with
      | none =>
          rw [haddress] at h
          cases h
      | some address =>
          rw [haddress] at h
          refine ⟨?_, ?_⟩
          · rw [extractOutput_addOutput hcodec h, readBack_of_none hdata, ← haddress,
              ← hdata]
          · obtain ⟨s, -, rfl⟩ := addOutput_ok h
            rfl

/-- **The outputs read back are the planned ones**, and worth as much. -/
theorem buildReplacement_outputs (hcodec : AddressCodec ad) {r : Replacement}
    {built : BuiltSwap κ} (h : buildReplacement ad mnemonic r = .ok built) :
    built.outputs = r.outputs.map readBack
      ∧ built.tx.outputs.map LibOutput.value = r.outputs.map TxOutput.value := by
  obtain ⟨houts, hextract⟩ := buildReplacement_steps h
  have hall := mapM_ok_forall₂ houts
  rw [extractOutputs] at hextract
  generalize built.tx.outputs = outs at hall hextract
  generalize built.outputs = outputs at hextract
  generalize r.outputs = planned at hall
  clear h houts
  induction hall generalizing outputs with
  | nil =>
      cases hextract
      exact ⟨rfl, rfl⟩
  | cons ho _ ih =>
      rw [List.mapM_cons] at hextract
      obtain ⟨out, hout, hextract⟩ := bind_eq_ok hextract
      obtain ⟨rest, hrest, hextract⟩ := bind_eq_ok hextract
      cases hextract
      obtain ⟨hread, hvalue⟩ := extractOutput_rebuildOutput hcodec ho
      rw [hread] at hout
      cases hout
      obtain ⟨ihread, ihvalue⟩ := ih rest hrest
      exact ⟨by rw [List.map_cons, ihread], by rw [List.map_cons, List.map_cons, hvalue,
        ihvalue]⟩

/-- The build spends the recorded inputs and reports the planned fee. -/
theorem buildReplacement_inputs {r : Replacement} {built : BuiltSwap κ}
    (h : buildReplacement ad mnemonic r = .ok built) :
    built.fee = r.fee
      ∧ (built.tx.inputs.map TxInput.value).sum = (r.inputs.map Utxo.value).sum := by
  rw [buildReplacement] at h
  obtain ⟨inputs, hinputs, h⟩ := bind_eq_ok h
  obtain ⟨outs, -, h⟩ := bind_eq_ok h
  obtain ⟨outputs, -, h⟩ := bind_eq_ok h
  cases h
  refine ⟨rfl, ?_⟩
  have hpoints := congrArg (List.map fun p : String × ℤ × ℤ × ℤ => p.2.2.1)
    (addInputs_outpoints hinputs)
  rw [List.map_map, List.map_map] at hpoints
  exact congrArg List.sum hpoints

/-- The library can build a replacement whose keys derive, whose addresses it
    accepts and whose payloads fit. -/
theorem buildReplacement_isOk (hcodec : AddressCodec ad) {r : Replacement}
    (hkeys : ∀ u ∈ r.inputs, ∃ k,
      ad.hdkey mnemonic (orText u.path ad.defaultDerivation) = .ok k)
    (houts : ∀ out ∈ r.outputs, (∃ data, out.opReturnData = some data ∧ data.length ≤ 80)
      ∨ out.opReturnData = none ∧ ∃ address script, out.address = some address
        ∧ ad.addressScript address = some script) :
    ∃ built, buildReplacement ad mnemonic r = .ok built := by
  have hinputs : ∃ is, r.inputs.mapM (addInput ad mnemonic ad.defaultDerivation)
      = .ok is := by
    rw [mapM_isOk_iff]
    intro u hu
    obtain ⟨k, hk⟩ := hkeys u hu
    rw [addInput, hk, ok_bind]
    exact ⟨_, rfl⟩
  have hrebuilt : ∃ os, r.outputs.mapM (rebuildOutput ad) = .ok os := by
    rw [mapM_isOk_iff]
    intro out hout
    rcases houts out hout with ⟨data, hdata, hlen⟩ | ⟨hdata, address, script, haddr, hs⟩
    · obtain ⟨script, hscript⟩ := encodeOpReturn_isOk hlen
      rw [rebuildOutput, hdata]
      dsimp only
      rw [addOpReturn, hscript, ok_bind]
      exact ⟨_, rfl⟩
    · rw [rebuildOutput, hdata]
      dsimp only
      rw [haddr, addOutput, hs]
      exact ⟨_, rfl⟩
  obtain ⟨is, his⟩ := hinputs
  obtain ⟨os, hos⟩ := hrebuilt
  have hextract : ∃ outputs, extractOutputs ({ inputs := is, outputs := os } : Transaction κ)
      = .ok outputs := by
    rw [extractOutputs, mapM_isOk_iff]
    intro o ho
    obtain ⟨out, -, hout⟩ := mapM_ok_mem hos ho
    exact ⟨_, (extractOutput_rebuildOutput hcodec hout).1⟩
  obtain ⟨outputs, houtputs⟩ := hextract
  rw [buildReplacement, his, ok_bind, hos, ok_bind]
  dsimp only
  rw [houtputs, ok_bind]
  exact ⟨_, rfl⟩

end ReadBack

/-! ## The planned outputs -/

/-- What an explorer reports: a payload stands on data outputs only, and every
    other output shows the address it pays. -/
structure WellReported (tx : TxSummary) : Prop where
  data_opReturn : ∀ o ∈ tx.outputs, o.opReturnData.isSome = true → o.opReturn = true
  address : ∀ o ∈ tx.outputs, o.opReturn = false → o.address.isSome = true

/-- The reader of an explorer's answer puts payloads on data outputs only. -/
theorem parseTxSummary_data (payload : EsploraTx) :
    ∀ o ∈ (parseTxSummary payload).outputs, o.opReturnData.isSome = true →
      o.opReturn = true := by
  intro o ho hdata
  obtain ⟨item, -, rfl⟩ := List.mem_map.mp ho
  rw [entry] at hdata ⊢
  dsimp only at hdata ⊢
  cases htype : (item.scriptpubkeyType == some "op_return") with
  | true => rfl
  | false =>
      rw [htype] at hdata
      cases hdata

section Planned

variable {tx : TxSummary} {owned : Owned} {changePrefix : String} {feeRate : ℚ}
  {extraFee : ℤ} {script : ScriptParams} {inc : ℚ} {shape : Shape}

/-- The payee stands at one position, the only one besides the change that
    carries no data. -/
theorem shape_payee (h : planShape tx owned changePrefix = .ok shape) :
    ∃ p, p ≠ shape.changeIndex ∧ tx.outputs[p]? = some shape.payee
      ∧ shape.payee.opReturn = false
      ∧ ∀ i o, tx.outputs[i]? = some o → i ≠ shape.changeIndex → o.opReturn = false →
        i = p := by
  obtain ⟨-, -, -, -, -, hpayee⟩ := planShape_ok h
  rw [planPayee] at hpayee
  cases hpayees : payees tx shape.changeIndex with
  | nil => rw [hpayees] at hpayee; cases hpayee
  | cons p ps =>
      cases ps with
      | cons q ps => rw [hpayees] at hpayee; cases hpayee
      | nil =>
          rw [hpayees] at hpayee
          have hat : outputAt tx p = shape.payee := Except.ok.inj hpayee
          have hmem : ∀ i, i ∈ payees tx shape.changeIndex
              ↔ ∃ o, tx.outputs[i]? = some o
                ∧ (decide (i ≠ shape.changeIndex) && !o.opReturn) = true := by
            intro i
            exact mem_indicesWhere
          have hp : p ∈ payees tx shape.changeIndex := by
            rw [hpayees]
            exact List.mem_singleton_self p
          obtain ⟨o, hidx, ho⟩ := (hmem p).mp hp
          obtain ⟨hne, hdata⟩ := Bool.and_eq_true_iff.mp ho
          have hpo : outputAt tx p = o := by
            rw [outputAt]
            rw [List.getD_eq_getElem?_getD, hidx, Option.getD_some]
          rw [hpo] at hat
          subst hat
          refine ⟨p, of_decide_eq_true hne, hidx, by simpa using hdata, ?_⟩
          intro i o' hi hne' hdata'
          have hin : i ∈ payees tx shape.changeIndex := by
            rw [hmem]
            exact ⟨o', hi, by simp [hne', hdata']⟩
          rw [hpayees] at hin
          exact List.mem_singleton.mp hin

/-- The payee is not paid at the change's own address: two outputs at one
    address stand on one branch, and the change would be ambiguous. -/
theorem shape_payee_address (h : planShape tx owned changePrefix = .ok shape)
    (hreported : WellReported tx) {address : String}
    (hchange : (outputAt tx shape.changeIndex).address = some address) :
    shape.payee.address ≠ some address := by
  intro hsame
  obtain ⟨p, hne, hidx, hdata, -⟩ := shape_payee h
  obtain ⟨-, -, -, hindex, -, -⟩ := planShape_ok h
  obtain ⟨change, hcidx, hcaddr, hcowned, hcop, hcdata⟩ := shape_change h
  obtain rfl : change = address := Option.some.inj (hcaddr.symm.trans hchange)
  have hcand := changeIndex_ok_iff.mp hindex
  have hnone : shape.payee.opReturnData = none := by
    cases hd : shape.payee.opReturnData with
    | none => rfl
    | some data =>
        have hop := hreported.data_opReturn _ (List.mem_of_getElem? hidx) (by rw [hd]; rfl)
        rw [hdata] at hop
        cases hop
  have hpin : p ∈ indicesWhere (fun _ o => paysUs owned o) tx.outputs := by
    rw [mem_indicesWhere]
    refine ⟨_, hidx, ?_⟩
    rw [paysUs, hnone, hdata, hsame]
    exact hcowned
  have hcin : shape.changeIndex ∈ indicesWhere (fun _ o => paysUs owned o) tx.outputs := by
    rw [mem_indicesWhere]
    refine ⟨_, hcidx, ?_⟩
    rw [paysUs, hcdata, hcop, hcaddr]
    exact hcowned
  -- the branch is read off the address, so it is the same for both
  have hbranch : onChangeBranch tx owned changePrefix p
      = onChangeBranch tx owned changePrefix shape.changeIndex := by
    have hpat : outputAt tx p = shape.payee := by
      rw [outputAt]
      rw [List.getD_eq_getElem?_getD, hidx, Option.getD_some]
    rw [onChangeBranch, onChangeBranch, hpat, hsame, hcaddr]
  rw [changeCandidates] at hcand
  by_cases hfew : (indicesWhere (fun _ o => paysUs owned o) tx.outputs).length ≤ 1
  · rw [if_pos hfew] at hcand
    rw [hcand] at hpin
    exact hne (List.mem_singleton.mp hpin)
  · rw [if_neg hfew] at hcand
    have hc : shape.changeIndex ∈ (indicesWhere (fun _ o => paysUs owned o)
        tx.outputs).filter (onChangeBranch tx owned changePrefix) := by
      rw [hcand]
      exact List.mem_singleton_self _
    have hp : p ∈ (indicesWhere (fun _ o => paysUs owned o)
        tx.outputs).filter (onChangeBranch tx owned changePrefix) := by
      rw [List.mem_filter]
      refine ⟨hpin, ?_⟩
      rw [hbranch]
      exact (List.mem_filter.mp hc).2
    rw [hcand] at hp
    exact hne (List.mem_singleton.mp hp)

/-- The payee carries no payload. -/
theorem shape_payee_data (h : planShape tx owned changePrefix = .ok shape)
    (hreported : WellReported tx) : shape.payee.opReturnData = none := by
  obtain ⟨p, -, hidx, hdata, -⟩ := shape_payee h
  cases hd : shape.payee.opReturnData with
  | none => rfl
  | some data =>
      have hop := hreported.data_opReturn _ (List.mem_of_getElem? hidx) (by rw [hd]; rfl)
      rw [hdata] at hop
      cases hop

/-- The memo is the payload the original reports, if any. -/
theorem shape_memo (h : planShape tx owned changePrefix = .ok shape)
    (hreported : WellReported tx) :
    tx.outputs.filterMap TxEntry.opReturnData = shape.memo.toList := by
  obtain ⟨-, -, -, -, hmemo, -⟩ := planShape_ok h
  rw [← filterMap_filter_of hreported.data_opReturn]
  rw [planMemo] at hmemo
  cases hdata : tx.outputs.filter TxEntry.opReturn with
  | nil =>
      rw [hdata] at hmemo
      rw [← Except.ok.inj hmemo]
      rfl
  | cons o os =>
      cases os with
      | cons o' os => rw [hdata] at hmemo; cases hmemo
      | nil =>
          rw [hdata] at hmemo
          dsimp only at hmemo
          cases hread : o.opReturnData with
          | none => rw [hread] at hmemo; cases hmemo
          | some data =>
              rw [hread] at hmemo
              rw [← Except.ok.inj hmemo, List.filterMap_cons_some hread]
              rfl

/-- The planned output at a position, as it is read back. -/
theorem planned_getElem? (change : ℤ) (i : ℕ) :
    ((replacementOutputs tx shape.changeIndex change).map readBack)[i]?
      = tx.outputs[i]?.map fun e => readBack
          (if shape.changeIndex = i then { neutralOutput e with value := change }
            else neutralOutput e) := by
  rw [replacementOutputs]
  rw [List.getElem?_map, List.getElem?_modify, List.getElem?_map]
  cases tx.outputs[i]? with
  | none => rfl
  | some e => rfl

/-- The change output, as it is read back. -/
theorem planned_change (h : planShape tx owned changePrefix = .ok shape) (change : ℤ) :
    ∃ address, (outputAt tx shape.changeIndex).address = some address
      ∧ ((replacementOutputs tx shape.changeIndex change).map readBack)[shape.changeIndex]?
          = some { address := some address, value := change } := by
  obtain ⟨address, hidx, haddr, -, -, hdata⟩ := shape_change h
  refine ⟨address, haddr, ?_⟩
  rw [planned_getElem?, hidx, Option.map_some, if_pos rfl, readBack_of_none hdata,
    neutralOutput, haddr, hdata]

/-- Every other output is read back as the original reports it: the payee, or
    the payload without an address. -/
theorem planned_other (h : planShape tx owned changePrefix = .ok shape)
    (hreported : WellReported tx) {change : ℤ} {i : ℕ} {o : TxOutput}
    (hi : ((replacementOutputs tx shape.changeIndex change).map readBack)[i]? = some o)
    (hne : i ≠ shape.changeIndex) :
    (tx.outputs[i]? = some shape.payee
        ∧ o = { address := shape.payee.address, value := shape.payee.value })
      ∨ (o.address = none ∧ o.opReturnData.isSome = true) := by
  obtain ⟨p, -, hidx, -, honly⟩ := shape_payee h
  obtain ⟨-, -, -, -, hmemo, -⟩ := planShape_ok h
  rw [planned_getElem?, Option.map_eq_some_iff] at hi
  obtain ⟨e, he, rfl⟩ := hi
  rw [if_neg (Ne.symm hne)]
  cases hop : e.opReturn with
  | false =>
      obtain rfl := honly i e he hne hop
      obtain rfl : shape.payee = e := Option.some.inj (hidx.symm.trans he)
      have hnone := shape_payee_data h hreported
      refine Or.inl ⟨he, ?_⟩
      rw [readBack_of_none hnone, neutralOutput, hnone]
  | true =>
      have hread := (planMemo_isOk.mp ⟨_, hmemo⟩).2 e (List.mem_of_getElem? he) hop
      obtain ⟨data, hdata⟩ := Option.isSome_iff_exists.mp hread
      refine Or.inr ⟨?_, ?_⟩
      · rw [readBack, neutralOutput, hdata]
      · rw [readBack_opReturnData]
        exact hread

/-- **One output pays the payee**, what the original pays it. -/
theorem readBack_recipient (h : planShape tx owned changePrefix = .ok shape)
    (hreported : WellReported tx) (change : ℤ) :
    ((replacementOutputs tx shape.changeIndex change).map readBack).filter
        (fun o => o.address == shape.payee.address)
      = [{ address := shape.payee.address, value := shape.payee.value }] := by
  obtain ⟨p, hne, hidx, hpayee, honly⟩ := shape_payee h
  have hnone := shape_payee_data h hreported
  have haddress := hreported.address _ (List.mem_of_getElem? hidx) hpayee
  refine filter_eq_singleton (i := p) ?_ (by simp) ?_
  · rw [planned_getElem?, hidx, Option.map_some, if_neg (Ne.symm hne),
      readBack_of_none hnone, neutralOutput, hnone]
  · intro j o hj hpaid
    have hpays : o.address = shape.payee.address := by simpa using hpaid
    by_cases hjc : j = shape.changeIndex
    · -- the change pays another address
      obtain ⟨address, haddr, hchange⟩ := planned_change h change
      subst hjc
      rw [hchange] at hj
      cases hj
      exact absurd hpays.symm (shape_payee_address h hreported haddr)
    · rcases planned_other h hreported hj hjc with ⟨hpayee', -⟩ | ⟨hnoaddr, -⟩
      · exact honly j _ hpayee' hjc hpayee
      · rw [← hpays, hnoaddr] at haddress
        cases haddress

/-- **The payloads read back are the original's.** -/
theorem readBack_memo (change : ℤ) :
    ((replacementOutputs tx shape.changeIndex change).map readBack).filterMap
        TxOutput.opReturnData
      = tx.outputs.filterMap TxEntry.opReturnData := by
  have hmap : ((replacementOutputs tx shape.changeIndex change).map readBack).map
      TxOutput.opReturnData = tx.outputs.map TxEntry.opReturnData := by
    refine List.ext_getElem? fun i => ?_
    rw [List.getElem?_map, planned_getElem?, List.getElem?_map, Option.map_map]
    cases tx.outputs[i]? with
    | none => rfl
    | some e =>
        show some (readBack _).opReturnData = some e.opReturnData
        rw [readBack_opReturnData]
        split <;> rfl
  rw [filterMap_eq_map TxOutput.opReturnData, hmap,
    ← filterMap_eq_map TxEntry.opReturnData]

end Planned

/-! ## Only the fee limit decides -/

/-- What a rebuilt transaction keeps of the original: it pays the planned fee,
    pays the payee what the original did, carries the original's payload, and
    everything else is the change. -/
structure RebuiltFrom {κ : Type} (tx : TxSummary) (r : Replacement)
    (built : BuiltSwap κ) : Prop where
  real_fee : (built.tx.inputs.map TxInput.value).sum
    - (built.tx.outputs.map LibOutput.value).sum = r.fee
  payee : ∃ p e, p ≠ r.changeIndex ∧ tx.outputs[p]? = some e ∧ e.opReturn = false
    ∧ e.address = some r.recipient ∧ e.value = r.amount
    ∧ built.outputs.filter (fun o => o.address == some r.recipient)
        = [{ address := e.address, value := e.value }]
  memo : tx.outputs.filterMap TxEntry.opReturnData = r.memo.toList
    ∧ built.outputs.filterMap TxOutput.opReturnData
        = tx.outputs.filterMap TxEntry.opReturnData
  change : ∃ e, tx.outputs[r.changeIndex]? = some e ∧ e.address = some r.changeAddress
    ∧ ∀ o ∈ built.outputs, o.opReturnData = none → o.address ≠ some r.recipient →
      o = { address := some r.changeAddress, value := e.value - (r.fee - tx.fee) }

section Passes

variable [PyUnicode] {κ : Type} {ad : UtxoAdapter κ} {mnemonic : String}
  {tx : TxSummary} {owned : Owned} {changePrefix : String} {feeRate : ℚ}
  {extraFee : ℤ} {script : ScriptParams} {inc : ℚ} {r : Replacement}

omit [PyUnicode] in
/-- A built replacement is the original, rebuilt. -/
theorem rebuiltFrom_of_ok (hcodec : AddressCodec ad)
    (hplan : planReplacement tx owned changePrefix feeRate extraFee script inc = .ok r)
    (hreported : WellReported tx) (hbalance : tx.fee = tx.totalIn - tx.totalOut)
    {built : BuiltSwap κ} (hbuilt : buildReplacement ad mnemonic r = .ok built) :
    RebuiltFrom tx r built := by
  obtain ⟨houts, hvalues⟩ := buildReplacement_outputs hcodec hbuilt
  obtain ⟨-, hinputs⟩ := buildReplacement_inputs hbuilt
  obtain ⟨shape, hshape, hprice⟩ := planReplacement_cases hplan
  obtain ⟨cost, relay, -, -, rfl, -⟩ := priceReplacement_ok hprice
  obtain ⟨p, hne, hidx, hpayee, -⟩ := shape_payee hshape
  have haddress := hreported.address _ (List.mem_of_getElem? hidx) hpayee
  obtain ⟨recipient, hrecipient⟩ := Option.isSome_iff_exists.mp haddress
  have hpaid : shape.payee.address = some (shape.payee.address.getD "") := by
    rw [hrecipient]
    rfl
  have hrecipients := readBack_recipient hshape hreported
    ((outputAt tx shape.changeIndex).value
      - (max (cost + extraFee) (tx.fee + relay) - tx.fee))
  refine ⟨?_, ?_, ?_, ?_⟩
  · rw [hinputs, hvalues]
    exact planReplacement_balanced hplan hbalance
  · refine ⟨p, shape.payee, hne, hidx, hpayee, hpaid, rfl, ?_⟩
    show built.outputs.filter (fun o => o.address == some (shape.payee.address.getD "")) = _
    rw [houts, ← hpaid]
    exact hrecipients
  · rw [houts]
    exact ⟨shape_memo hshape hreported, readBack_memo _⟩
  · obtain ⟨address, hidx', haddr, -, -, -⟩ := shape_change hshape
    have hchange : (outputAt tx shape.changeIndex).address
        = some ((outputAt tx shape.changeIndex).address.getD "") := by
      rw [haddr]
      rfl
    refine ⟨outputAt tx shape.changeIndex, hidx', hchange, ?_⟩
    intro o ho hdata hother
    rw [houts] at ho
    obtain ⟨i, hi⟩ := List.mem_iff_getElem?.mp ho
    by_cases hic : i = shape.changeIndex
    · subst hic
      obtain ⟨address', haddr', hread⟩ := planned_change hshape
        ((outputAt tx shape.changeIndex).value
          - (max (cost + extraFee) (tx.fee + relay) - tx.fee))
      have heq : some o = some _ := hi.symm.trans hread
      rw [Option.some.inj heq]
      show ({ address := some address', value := _ } : TxOutput)
        = { address := some ((outputAt tx shape.changeIndex).address.getD ""), value := _ }
      rw [haddr']
      rfl
    · rcases planned_other hshape hreported hi hic with ⟨-, rfl⟩ | ⟨-, hsome⟩
      · exact absurd hpaid hother
      · rw [hdata] at hsome
        cases hsome

omit [PyUnicode] in
/-- Every planned output can be built: its payload fits, or the library knows
    its address. -/
theorem planned_buildable
    (hplan : planReplacement tx owned changePrefix feeRate extraFee script inc = .ok r)
    (hreported : WellReported tx)
    (hfits : ∀ data, r.memo = some data → data.length ≤ 80)
    (hscripts : ∀ o ∈ tx.outputs, o.opReturn = false → ∀ address,
      o.address = some address → ∃ s, ad.addressScript address = some s) :
    ∀ out ∈ r.outputs, (∃ data, out.opReturnData = some data ∧ data.length ≤ 80)
      ∨ (out.opReturnData = none ∧ ∃ address s, out.address = some address
        ∧ ad.addressScript address = some s) := by
  obtain ⟨shape, hshape, hprice⟩ := planReplacement_cases hplan
  obtain ⟨cost, relay, -, -, rfl, -⟩ := priceReplacement_ok hprice
  obtain ⟨-, -, -, -, hmemo, -⟩ := planShape_ok hshape
  intro out hout
  obtain ⟨i, hi⟩ := List.mem_iff_getElem?.mp hout
  have hplanned : (replacementOutputs tx shape.changeIndex _)[i]? = some out := hi
  rw [replacementOutputs, List.getElem?_modify, List.getElem?_map] at hplanned
  cases he : tx.outputs[i]? with
  | none =>
      rw [he] at hplanned
      cases hplanned
  | some e =>
      rw [he] at hplanned
      have hmem := List.mem_of_getElem? he
      -- the change keeps its address and carries no data, like any other output
      have haddress : out.address = e.address := by
        rw [← Option.some.inj hplanned]
        dsimp only
        split <;> rfl
      have hdata : out.opReturnData = e.opReturnData := by
        rw [← Option.some.inj hplanned]
        dsimp only
        split <;> rfl
      rw [haddress, hdata]
      cases hop : e.opReturn with
      | true =>
          have hread := (planMemo_isOk.mp ⟨_, hmemo⟩).2 e hmem hop
          obtain ⟨data, hd⟩ := Option.isSome_iff_exists.mp hread
          refine Or.inl ⟨data, hd, hfits data ?_⟩
          have hin : data ∈ shape.memo.toList := by
            rw [← shape_memo hshape hreported]
            exact List.mem_filterMap.mpr ⟨e, hmem, hd⟩
          exact Option.mem_toList.mp hin
      | false =>
          obtain ⟨address, ha⟩ := Option.isSome_iff_exists.mp
            (hreported.address e hmem hop)
          obtain ⟨s, hs⟩ := hscripts e hmem hop address ha
          refine Or.inr ⟨?_, address, s, ha, hs⟩
          cases hd : e.opReturnData with
          | none => rfl
          | some data =>
              have htrue := hreported.data_opReturn e hmem (by rw [hd]; rfl)
              rw [hop] at htrue
              cases htrue

/-- **Only the fee limit decides the gate** of a rebuilt transaction. -/
theorem gateReplacement_eq_nil_iff {built : BuiltSwap κ} (hfee : built.fee = r.fee)
    (hrebuilt : RebuiltFrom tx r built) (hnonneg : 0 ≤ r.fee)
    (hfits : ∀ data, r.memo = some data → data.length ≤ 80) (now maxFee : ℤ) :
    (gateReplacement built r now maxFee).2 = [] ↔ r.fee ≤ maxFee := by
  obtain ⟨p, e, -, -, -, haddr, hvalue, hpays⟩ := hrebuilt.payee
  have hchange : changeProblems built.outputs r.recipient
      (ownedAddresses r.changeAddress r.inputs) = [] := by
    rw [changeProblems_eq_nil]
    intro o ho hdata hother
    obtain ⟨c, -, -, hrest⟩ := hrebuilt.change
    refine ⟨r.changeAddress, List.mem_cons_self, ?_⟩
    rw [hrest o ho hdata hother]
  have hrecorded := hrebuilt.memo.2.trans hrebuilt.memo.1
  rw [gateReplacement]
  cases hmemo : r.memo with
  | none =>
      rw [hmemo] at hrecorded
      have hplain : ∀ o ∈ built.outputs, o.opReturnData = none :=
        List.filterMap_eq_nil_iff.mp hrecorded
      show verifyBtcSend _ _ _ _ _ = [] ↔ _
      rw [verifyBtcSend_eq_nil, hfee]
      constructor
      · rintro ⟨-, -, -, -, hle⟩
        exact hle
      · intro hle
        exact ⟨recipientProblems_eq_nil.mpr ⟨_, hpays, hvalue⟩, hplain, hchange, hnonneg,
          hle⟩
  | some data =>
      rw [hmemo] at hrecorded
      show verifyBtcSwap _ _ _ _ _ _ = [] ↔ _
      rw [verifyBtcSwap_eq_nil, hfee]
      constructor
      · rintro ⟨-, -, -, -, -, -, hle⟩
        exact hle
      · intro hle
        refine ⟨?_, vaultProblems_eq_nil.mpr ⟨_, hpays, hvalue⟩,
          opReturnProblems_eq_nil.mpr ⟨hrecorded, hfits data hmemo⟩, hchange, rfl, hnonneg,
          hle⟩
        show now < now + 3600
        omega

end Passes

/-- **A bump the planner accepts is gated by its fee alone.**  For a well
    reported, balanced transaction whose payload fits, whatever
    `buildAndVerifyReplacement` returns has an empty problem list exactly when
    the planned fee is within the limit, and is the original rebuilt at that
    fee.  It does return when the keys derive and the library accepts the
    addresses. -/
theorem buildAndVerifyReplacement_passes_iff [PyUnicode] {κ : Type} (ad : UtxoAdapter κ)
    (mnemonic : String) (tx : TxSummary) (owned : Owned) (changePrefix : String)
    (feeRate : ℚ) (extraFee : ℤ) (script : ScriptParams) (inc : ℚ) (r : Replacement)
    (now maxFee : ℤ) (hcodec : AddressCodec ad)
    (hplan : planReplacement tx owned changePrefix feeRate extraFee script inc = .ok r)
    (hreported : WellReported tx)
    (hfits : ∀ data, r.memo = some data → data.length ≤ 80)
    (hbalance : tx.fee = tx.totalIn - tx.totalOut)
    (hnonneg : 0 ≤ feeRate ∧ 0 ≤ extraFee ∨ 0 ≤ tx.fee ∧ 0 ≤ inc) :
    (∀ prepared, buildAndVerifyReplacement ad mnemonic r now maxFee = .ok prepared →
      (prepared.problems = [] ↔ r.fee ≤ maxFee)
      ∧ prepared.built.fee = r.fee ∧ RebuiltFrom tx r prepared.built)
    ∧ ((∀ u ∈ r.inputs, ∃ k,
          ad.hdkey mnemonic (orText u.path ad.defaultDerivation) = .ok k) →
        (∀ o ∈ tx.outputs, o.opReturn = false → ∀ address, o.address = some address →
          ∃ s, ad.addressScript address = some s) →
        ∃ prepared, buildAndVerifyReplacement ad mnemonic r now maxFee = .ok prepared) := by
  constructor
  · intro prepared hprepared
    obtain ⟨built, hbuilt, hprepared⟩ := bind_eq_ok hprepared
    cases hprepared
    have hrebuilt := rebuiltFrom_of_ok hcodec hplan hreported hbalance hbuilt
    obtain ⟨hfee, -⟩ := buildReplacement_inputs hbuilt
    obtain ⟨houts, -⟩ := buildReplacement_outputs hcodec hbuilt
    refine ⟨?_, hfee, hrebuilt⟩
    -- the reconciliation with the outputs finds nothing
    have hreal : sumValues r.inputs - (built.outputs.map TxOutput.value).sum = built.fee := by
      have hread : built.outputs.map TxOutput.value = r.outputs.map TxOutput.value := by
        rw [houts, List.map_map]
        exact List.map_congr_left fun o _ => readBack_value o
      rw [hread, hfee]
      exact planReplacement_balanced hplan hbalance
    show (gateReplacement built r now maxFee).2 ++ check _ _ = [] ↔ _
    rw [List.append_eq_nil_iff, check_eq_nil, bne_eq_false_iff_eq,
      gateReplacement_eq_nil_iff hfee hrebuilt (planReplacement_fee_nonneg hplan hnonneg)
        hfits]
    exact ⟨fun h => h.1, fun h => ⟨h, hreal⟩⟩
  · intro hkeys hscripts
    obtain ⟨built, hbuilt⟩ := buildReplacement_isOk hcodec hkeys
      (planned_buildable hplan hreported hfits hscripts)
    rw [buildAndVerifyReplacement, hbuilt, ok_bind]
    exact ⟨_, rfl⟩

/-! ## A stuck deposit

    30000 sats in, 20000 to the vault with a one-byte memo, the rest back. -/

def depositTx : TxSummary :=
  { txid := "deposit", confirmed := false, blockHeight := none, fee := 500, vsize := 180
    inputs := [{ value := 30000, address := some "bc1q8c6fshw2dlwun7ekn9qwf37cu2rn755upcp6el"
                 txid := some "bb", vout := some 1, sequence := some 0xFFFFFFFD }]
    outputs := [{ value := 20000
                  address := some "bc1qw508d6qejxtdg4y5r3zarvary0c5xw7kv8f3t4" },
                { value := 0, opReturn := true, opReturnData := some [0x61] },
                { value := 9500
                  address := some "bc1q8c6fshw2dlwun7ekn9qwf37cu2rn755upcp6el" }] }

def depositOwned : Owned := fun address =>
  if address = "bc1q8c6fshw2dlwun7ekn9qwf37cu2rn755upcp6el" then some "m/84'/0'/0'/1/0"
  else none

theorem buildAndVerifyReplacement_passes_deposit :
    let _ : PyUnicode := asciiUnicode
    ∃ r, planReplacement depositTx depositOwned "m/84'/0'/0'/1/" (5 : ℚ) 0 p2wpkh 1 = .ok r
      ∧ ∃ prepared, buildAndVerifyReplacement twoAddressWallet "seed" r 1700000000 2000
          = .ok prepared
        ∧ (prepared.problems = [] ↔ r.fee ≤ 2000)
        ∧ prepared.built.fee = r.fee ∧ RebuiltFrom depositTx r prepared.built := by
  intro _
  have hok : (planReplacement depositTx depositOwned "m/84'/0'/0'/1/" (5 : ℚ) 0 p2wpkh 1).isOk = true := by decide +kernel
  obtain ⟨r, hr⟩ := exists_of_isOk hok
  have hmemo : (planReplacement depositTx depositOwned "m/84'/0'/0'/1/" (5 : ℚ) 0 p2wpkh 1).toOption.map Replacement.memo = some (some [0x61]) := by
    decide +kernel
  have hreported : WellReported depositTx :=
    ⟨forall_mem_of_all (by decide), forall_mem_of_all (by decide)⟩
  have hfits : ∀ data, r.memo = some data → data.length ≤ 80 := by
    intro data hdata
    rw [hr] at hmemo
    have heq : some r.memo = some (some [0x61]) := hmemo
    rw [hdata] at heq
    obtain rfl : data = [0x61] := Option.some.inj (Option.some.inj heq)
    decide
  have hpasses := buildAndVerifyReplacement_passes_iff twoAddressWallet "seed" depositTx
    depositOwned "m/84'/0'/0'/1/" 5 0 p2wpkh 1 r 1700000000 2000
    twoAddressWallet_codec hr hreported hfits (by decide) (Or.inr ⟨by decide, by decide⟩)
  have hknown : ∀ o ∈ depositTx.outputs, o.opReturn = false →
      (o.address.bind twoAddressWallet.addressScript).isSome = true :=
    forall_mem_of_all (by decide +kernel)
  have hscripts : ∀ o ∈ depositTx.outputs, o.opReturn = false → ∀ address,
      o.address = some address → ∃ s, twoAddressWallet.addressScript address = some s := by
    intro o ho hop address haddress
    have hscript := hknown o ho hop
    rw [haddress] at hscript
    exact Option.isSome_iff_exists.mp hscript
  obtain ⟨prepared, hprepared⟩ := hpasses.2 (fun _ _ => ⟨(), rfl⟩) hscripts
  exact ⟨r, hr, prepared, hprepared, hpasses.1 prepared hprepared⟩

end SwapsackReplacement
