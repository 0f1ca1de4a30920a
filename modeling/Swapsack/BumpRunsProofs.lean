import Swapsack.BumpProofs
import Swapsack.ReplacementProofs

/-! # Bumping again and again

    A bump replaces a transaction by one that may itself be bumped.  Between two bumps the
    explorer reports what was broadcast, read back from its scripts; what an output looks
    like without its value — its face — is all that the choice of the change rests on.

    * `changeIndex_congr`, `planMemo_congr` — the same faces, the same change and memo;
    * `bumped_step` — what one bump keeps;
    * `bumps_keep` — over any number of bumps only the change pays, each bump raises the
      fee, and so the change bounds how many there can be. -/

namespace SwapsackBumpRuns

open ListKit ByteString BinaryFloat PyText
open SwapsackBase SwapsackCoins SwapsackBtc SwapsackRbf SwapsackBump
open SwapsackUtxo SwapsackRebuild SwapsackVerify SwapsackGated SwapsackReplacement

/-! ## Faces -/

/-- What an output shows besides its value; a data output shows its payload alone. -/
def face (o : TxEntry) : Option String × Option Bytes :=
  (if o.opReturnData.isSome then none else o.address, o.opReturnData)

/-- Data outputs are the ones with a payload. -/
def Consistent (tx : TxSummary) : Prop :=
  ∀ o ∈ tx.outputs, o.opReturn = o.opReturnData.isSome

/-- The outpoint an input spends, what it is worth and whose it is. -/
def outpoint (i : TxEntry) : Option String × Option ℤ × ℤ × Option String :=
  (i.txid, i.vout, i.value, i.address)

section Congr

variable {tx tx' : TxSummary} {owned : Owned} {changePrefix : String}

/-- Whether an output may be the change is written in its face. -/
theorem paysUs_face {o : TxEntry} (h : o.opReturn = o.opReturnData.isSome) :
    paysUs owned o = ((face o).2.isNone && ((face o).1.bind owned).isSome) := by
  rw [paysUs, face, h]
  cases hdata : o.opReturnData with
  | some data => rfl
  | none => cases o.address <;> rfl

theorem indicesWhere_paysUs (h : Consistent tx) :
    indicesWhere (fun _ o => paysUs owned o) tx.outputs
      = indicesWhere (fun _ f => f.2.isNone && (f.1.bind owned).isSome)
        (tx.outputs.map face) := by
  rw [indicesWhere, indicesWhere, List.zipIdx_map, List.filter_map, List.map_map]
  refine congrArg _ (List.filter_congr fun p hp => ?_)
  exact paysUs_face (h p.1 (List.fst_mem_of_mem_zipIdx hp))

/-- The output at a position that may be the change shows its address. -/
theorem outputAt_address {i : ℕ}
    (hi : i ∈ indicesWhere (fun _ o => paysUs owned o) tx.outputs) :
    (outputAt tx i).address = ((tx.outputs.map face)[i]?).bind Prod.fst := by
  obtain ⟨o, ho, hours⟩ := mem_indicesWhere.mp hi
  have hdata : o.opReturnData = none := by
    rw [paysUs, Bool.and_eq_true, Bool.and_eq_true] at hours
    exact Option.isNone_iff_eq_none.mp hours.1.1
  rw [outputAt, List.getD_eq_getElem?_getD, ho, List.getElem?_map, ho, Option.getD_some,
    Option.map_some, Option.bind_some, face, hdata]
  rfl

/-- **The same faces, the same change.** -/
theorem changeIndex_congr (h : Consistent tx) (h' : Consistent tx')
    (hfaces : tx'.outputs.map face = tx.outputs.map face) :
    changeIndex tx' owned changePrefix = changeIndex tx owned changePrefix := by
  have hours : indicesWhere (fun _ o => paysUs owned o) tx'.outputs
      = indicesWhere (fun _ o => paysUs owned o) tx.outputs := by
    rw [indicesWhere_paysUs h, indicesWhere_paysUs h', hfaces]
  have hbranch : ∀ i ∈ indicesWhere (fun _ o => paysUs owned o) tx.outputs,
      onChangeBranch tx' owned changePrefix i = onChangeBranch tx owned changePrefix i := by
    intro i hi
    rw [onChangeBranch, onChangeBranch, outputAt_address hi, outputAt_address (hours ▸ hi),
      hfaces]
  unfold changeIndex
  rw [hours]
  cases hsplit : indicesWhere (fun _ o => paysUs owned o) tx.outputs with
  | nil => rfl
  | cons a ours =>
      cases ours with
      | nil => rfl
      | cons b ours =>
          rw [hsplit] at hbranch
          dsimp only
          rw [List.filter_congr hbranch]

/-- The payloads of the data outputs. -/
def payloads (tx : TxSummary) : List (Option Bytes) :=
  (tx.outputs.filter TxEntry.opReturn).map TxEntry.opReturnData

theorem payloads_faces (h : Consistent tx) :
    payloads tx = ((tx.outputs.map face).filter fun f => f.2.isSome).map Prod.snd := by
  rw [payloads, List.filter_map, List.map_map]
  exact congrArg _ (List.filter_congr fun o ho => h o ho)

/-- **The same faces, the same memo.** -/
theorem planMemo_congr (h : Consistent tx) (h' : Consistent tx')
    (hfaces : tx'.outputs.map face = tx.outputs.map face) : planMemo tx' = planMemo tx := by
  have hpayloads : payloads tx' = payloads tx := by
    rw [payloads_faces h, payloads_faces h', hfaces]
  unfold payloads at hpayloads
  unfold planMemo
  generalize tx.outputs.filter TxEntry.opReturn = os at hpayloads
  generalize tx'.outputs.filter TxEntry.opReturn = os' at hpayloads
  have hlength := congrArg List.length hpayloads
  rw [List.length_map, List.length_map] at hlength
  match os, os' with
  | [], [] => rfl
  | [o], [o'] =>
      have hdata : o'.opReturnData = o.opReturnData := (List.cons.inj hpayloads).1
      dsimp only
      rw [hdata]
  | o :: p :: os, o' :: p' :: os' =>
      dsimp only
      rw [hlength]

end Congr

/-! ## One bump -/

/-- The outpoint a replacement spends. -/
def spentOutpoint (u : Utxo) : Option String × Option ℤ × ℤ × Option String :=
  (some u.txid, some u.vout, u.value, some u.address)

/-- What the explorer reports of a replacement that was broadcast: the inputs it spends,
    its outputs as their scripts read, and its fee. -/
structure Reported {κ : Type} (built : BuiltSwap κ) (tx : TxSummary) : Prop where
  inputs : tx.inputs.map outpoint = built.inputs.map spentOutpoint
  outputs : tx.outputs.map neutralOutput = built.outputs
  data : ∀ o ∈ tx.outputs, o.opReturn = o.opReturnData.isSome
  fee : tx.fee = built.fee

/-- What a bump of this many inputs, outputs and memo bytes raises the fee by at least: a
    satoshi for each virtual byte, as far as a float counts them. -/
def leastBump (tx : TxSummary) (memo : Option Bytes) : ℕ :=
  min (2 ^ 52)
    (estimateVsize tx.inputs.length (tx.outputs.length - (if memo.isSome then 1 else 0))
      (memo.getD []).length p2wpkh)

/-- What `n` bumps make of a transaction: the outputs show what they showed, all but the
    change are worth what they were, and the change has paid for every bump. -/
structure Bumped (owned : Owned) (changePrefix : String) (n : ℕ) (tx tx' : TxSummary) (change : ℕ)
    (memo : Option Bytes) : Prop where
  change_ok : changeIndex tx owned changePrefix = .ok change
  memo_ok : planMemo tx = .ok memo
  consistent : Consistent tx
  consistent' : Consistent tx'
  faces : tx'.outputs.map face = tx.outputs.map face
  inputs : tx'.inputs.map outpoint = tx.inputs.map outpoint
  values : ∀ i, i ≠ change → (tx'.outputs[i]?).map TxEntry.value
    = (tx.outputs[i]?).map TxEntry.value
  balance : (outputAt tx' change).value + tx'.fee = (outputAt tx change).value + tx.fee
  dust : (p2wpkh.dust : ℤ) ≤ (outputAt tx' change).value
  fee : tx.fee + n * leastBump tx memo ≤ tx'.fee

section Step

variable {κ : Type} {ad : UtxoAdapter κ} {mnemonic : String} {tx tx' : TxSummary} {owned : Owned}
  {changePrefix : String} {feeRate : Double} {extraFee : ℤ} {r : Replacement}
  {built : BuiltSwap κ}

/-- A plan of a bump is a plan at some surcharge. -/
theorem bumpPlan_ok {fetchTx : String → Option TxSummary} {surcharge : ℕ}
    (h : bumpPlan fetchTx tx owned changePrefix feeRate = .ok (r, surcharge)) :
    planReplacement tx owned changePrefix feeRate surcharge p2wpkh incrementalRelayFee = .ok r := by
  obtain ⟨first, hfirst, h⟩ := bind_eq_ok h
  obtain ⟨extra, -, h⟩ := bind_eq_ok h
  split at h
  · obtain ⟨second, hsecond, h⟩ := bind_eq_ok h
    cases h
    exact hsecond
  · rename_i hzero
    cases h
    rw [not_not] at hzero
    rw [hzero]
    exact hfirst

/-- A transaction that is planned has a payload wherever it has a data output. -/
theorem consistent_of_plan (hdata : ∀ o ∈ tx.outputs, o.opReturnData.isSome = true →
      o.opReturn = true) {shape : Shape} (h : planShape tx owned changePrefix = .ok shape) :
    Consistent tx := by
  obtain ⟨-, -, -, -, hmemo, -⟩ := planShape_ok h
  intro o ho
  rw [Bool.eq_iff_iff]
  exact ⟨(planMemo_isOk.mp ⟨_, hmemo⟩).2 o ho, hdata o ho⟩

/-- The output that is planned at a position, for a change of this value. -/
def plannedAt (change : ℕ) (value : ℤ) (i : ℕ) (o : TxEntry) : TxOutput :=
  if change = i then { neutralOutput o with value := value } else neutralOutput o

theorem plannedAt_data (change : ℕ) (value : ℤ) (i : ℕ) (o : TxEntry) :
    (plannedAt change value i o).opReturnData = o.opReturnData := by
  rw [plannedAt]
  split <;> rfl

theorem plannedAt_address (change : ℕ) (value : ℤ) (i : ℕ) (o : TxEntry) :
    (plannedAt change value i o).address = o.address := by
  rw [plannedAt]
  split <;> rfl

/-- An output as it is read back shows the face it was planned with. -/
theorem face_of_readBack {o o' : TxEntry} {change i : ℕ} {value : ℤ}
    (h : neutralOutput o' = readBack (plannedAt change value i o)) : face o' = face o := by
  have hdata := congrArg TxOutput.opReturnData h
  rw [readBack_opReturnData, plannedAt_data] at hdata
  change o'.opReturnData = o.opReturnData at hdata
  rw [face, face, hdata]
  cases hpayload : o.opReturnData with
  | some data => rfl
  | none =>
      rw [readBack_of_none ((plannedAt_data _ _ _ _).trans hpayload)] at h
      have haddress := congrArg TxOutput.address h
      rw [plannedAt_address] at haddress
      change o'.address = o.address at haddress
      rw [haddress]

/-- What is reported at a position is what was planned there, as it is read back. -/
theorem reported_getElem? {change : ℕ} {value : ℤ}
    (h : tx'.outputs.map neutralOutput = (replacementOutputs tx change value).map readBack)
    (i : ℕ) : (tx'.outputs[i]?).map neutralOutput
      = (tx.outputs[i]?).map fun o => readBack (plannedAt change value i o) := by
  rw [← List.getElem?_map, h, replacementOutputs, List.getElem?_map, List.getElem?_modify,
    List.getElem?_map]
  unfold plannedAt
  cases tx.outputs[i]? with
  | none => rfl
  | some o => rfl

/-- The faces, and the values of all but the change, are those of the original. -/
theorem reported_outputs {change : ℕ} {value : ℤ}
    (h : tx'.outputs.map neutralOutput = (replacementOutputs tx change value).map readBack) :
    tx'.outputs.map face = tx.outputs.map face
      ∧ (∀ i, i ≠ change → (tx'.outputs[i]?).map TxEntry.value
        = (tx.outputs[i]?).map TxEntry.value)
      ∧ ∀ o, tx.outputs[change]? = some o → (outputAt tx' change).value = value := by
  refine ⟨List.ext_getElem? fun i => ?_, fun i hi => ?_, fun o ho => ?_⟩
  · have hi := reported_getElem? h i
    rw [List.getElem?_map, List.getElem?_map]
    cases ho : tx.outputs[i]? with
    | none =>
        rw [ho] at hi
        rw [Option.map_eq_none_iff.mp hi]
    | some o =>
        rw [ho] at hi
        obtain ⟨o', ho', hread⟩ := Option.map_eq_some_iff.mp hi
        rw [ho', Option.map_some, Option.map_some, face_of_readBack hread]
  · have hvalues := congrArg (Option.map TxOutput.value) (reported_getElem? h i)
    rw [Option.map_map, Option.map_map] at hvalues
    refine hvalues.trans (congrArg (fun f => (tx.outputs[i]?).map f) (funext fun o => ?_))
    rw [Function.comp_apply, readBack_value, plannedAt, if_neg (Ne.symm hi)]
    rfl
  · have hchange := reported_getElem? h change
    rw [ho] at hchange
    obtain ⟨o', ho', hread⟩ := Option.map_eq_some_iff.mp hchange
    have hvalue := congrArg TxOutput.value hread
    rw [readBack_value, plannedAt, if_pos rfl] at hvalue
    rw [outputAt, List.getD_eq_getElem?_getD, ho', Option.getD_some]
    exact hvalue

/-- The inputs a replacement spends are the original's. -/
theorem planned_outpoints (hempty : owned "" = none)
    (h : planReplacement tx owned changePrefix feeRate extraFee p2wpkh incrementalRelayFee = .ok r) :
    r.inputs.map spentOutpoint = tx.inputs.map outpoint := by
  have hinputs := planReplacement_inputs hempty h
  generalize r.inputs = us at hinputs
  generalize tx.inputs = is at hinputs
  induction hinputs with
  | nil => rfl
  | cons hu _ ih =>
      obtain ⟨htxid, hvout, hvalue, haddress, -⟩ := hu
      rw [List.map_cons, List.map_cons, ih, spentOutpoint, outpoint, htxid, hvout, hvalue,
        haddress]

/-- At one satoshi a virtual byte a size costs itself, as far as a float counts. -/
theorem le_relay_cost {m n : ℕ} {cost : ℤ} (hm : m < 2 ^ 53) (hmn : m ≤ n)
    (h : Rate.cost incrementalRelayFee n = .ok cost) : (m : ℤ) ≤ cost := by
  obtain ⟨-, -, rfl⟩ := cost_finite_ok h
  have hsize : (m : ℚ) ≤ nearest n := by
    have hmono := nearest_mono (Nat.cast_nonneg m) (Nat.cast_le.mpr hmn : (m : ℚ) ≤ n)
    rwa [nearest_natCast hm] at hmono
  have hcost : (m : ℚ) ≤ nearest (nearest n * 1) := by
    have hmono := nearest_mono (Nat.cast_nonneg m) (hsize.trans (mul_one _).ge)
    rwa [nearest_natCast hm] at hmono
  have hceil := hcost.trans (Int.le_ceil _)
  exact_mod_cast hceil

/-- A bump raises the fee by a satoshi for each virtual byte at least. -/
theorem planned_fee {memo : Option Bytes} (hmemo : r.memo = memo)
    (hinputs : r.inputs.length = tx.inputs.length)
    (h : planReplacement tx owned changePrefix feeRate extraFee p2wpkh incrementalRelayFee = .ok r) :
    tx.fee + leastBump tx memo ≤ r.fee := by
  obtain ⟨cost, relay, -, hrelay, hfee⟩ := planReplacement_fee h
  have hleast := le_relay_cost (m := leastBump tx memo) (by rw [leastBump]; omega)
    (by rw [leastBump, hmemo, hinputs]; exact (min_le_right _ _).trans (le_max_right _ _))
    hrelay
  rw [hfee]
  exact le_max_of_le_right (by omega)

/-- **One bump** keeps every face and every value but the change's, which pays for it. -/
theorem bumped_step (hcodec : AddressCodec ad) (hempty : owned "" = none)
    (hdata : ∀ o ∈ tx.outputs, o.opReturnData.isSome = true → o.opReturn = true)
    (hplan : planReplacement tx owned changePrefix feeRate extraFee p2wpkh incrementalRelayFee
      = .ok r) (hbuilt : buildReplacement ad mnemonic r = .ok built)
    (hreported : Reported built tx') :
    ∃ change memo, Bumped owned changePrefix 1 tx tx' change memo := by
  obtain ⟨shape, hshape, hprice⟩ := planReplacement_cases hplan
  obtain ⟨cost, relay, -, -, hr, hle⟩ := priceReplacement_ok hprice
  obtain ⟨-, -, -, hchange, hmemo, -⟩ := planShape_ok hshape
  obtain ⟨-, hidx, -⟩ := shape_change hshape
  have hbuiltFee := (buildReplacement_inputs hbuilt).1
  have hbuiltInputs : built.inputs = r.inputs := by
    obtain ⟨inputs, -, hbuilt⟩ := bind_eq_ok hbuilt
    obtain ⟨outs, -, hbuilt⟩ := bind_eq_ok hbuilt
    obtain ⟨outputs, -, hbuilt⟩ := bind_eq_ok hbuilt
    cases hbuilt
    rfl
  have houtputs := hreported.outputs.trans (buildReplacement_outputs hcodec hbuilt).1
  rw [hr] at houtputs
  obtain ⟨hfaces, hvalues, hvalue⟩ := reported_outputs houtputs
  have hinputs := planned_outpoints hempty hplan
  have hvalue := hvalue _ hidx
  have hfee : tx'.fee = r.fee := hreported.fee.trans hbuiltFee
  have hrfee : r.fee = max (cost + extraFee) (tx.fee + relay) := by
    rw [hr]
    rfl
  refine ⟨shape.changeIndex, shape.memo,
    { change_ok := hchange, memo_ok := hmemo, consistent := consistent_of_plan hdata hshape
      consistent' := hreported.data, faces := hfaces, values := hvalues, inputs := ?_
      balance := ?_, dust := ?_, fee := ?_ }⟩
  · rw [hreported.inputs, hbuiltInputs, hinputs]
  · rw [hvalue, hfee, hrfee]
    omega
  · rw [hvalue]
    rw [feeCeiling] at hle
    omega
  · rw [hfee, Nat.cast_one, one_mul]
    refine planned_fee (by rw [hr]; rfl) ?_ hplan
    have hlength := congrArg List.length hinputs
    rwa [List.length_map, List.length_map] at hlength

/-- **A bump behind a run of bumps** is a longer run. -/
theorem Bumped.trans {n : ℕ} {mid : TxSummary} {change change' : ℕ} {memo memo' : Option Bytes}
    (h : Bumped owned changePrefix n tx mid change memo)
    (h' : Bumped owned changePrefix 1 mid tx' change' memo') :
    Bumped owned changePrefix (n + 1) tx tx' change memo := by
  -- the faces are the same, so the same output is found to be change, and the same memo
  have hchange : change' = change := by
    have hsame := h'.change_ok
    rw [changeIndex_congr h.consistent h.consistent' h.faces, h.change_ok] at hsame
    exact (Except.ok.inj hsame).symm
  have hmemo : memo' = memo := by
    have hsame := h'.memo_ok
    rw [planMemo_congr h.consistent h.consistent' h.faces, h.memo_ok] at hsame
    exact (Except.ok.inj hsame).symm
  subst hchange hmemo
  -- the sizes are the same, so each bump costs as much as the first
  have hleast : leastBump mid memo' = leastBump tx memo' := by
    have hins := congrArg List.length h.inputs
    have houts := congrArg List.length h.faces
    rw [List.length_map, List.length_map] at hins houts
    rw [leastBump, leastBump, hins, houts]
  refine
    { change_ok := h.change_ok, memo_ok := h.memo_ok, consistent := h.consistent
      consistent' := h'.consistent', faces := h'.faces.trans h.faces
      inputs := h'.inputs.trans h.inputs
      values := fun i hi => (h'.values i hi).trans (h.values i hi)
      balance := h'.balance.trans h.balance, dust := h'.dust, fee := ?_ }
  have hfee := h.fee
  have hfee' := h'.fee
  rw [hleast, Nat.cast_one, one_mul] at hfee'
  push_cast
  rw [add_mul, one_mul]
  omega

end Step

/-! ## Runs of bumps -/

section Runs

variable [PyUnicode] {κ : Type} (ad : UtxoAdapter κ) (mnemonic : String) (owned : Owned)
  (changePrefix : String)

/-- `n` bumps in a row, by a wallet that owns the same addresses throughout: each planned on
    what the explorer reports, at any rate and for whatever parents the chain then shows,
    built, gated, broadcast and reported. -/
inductive Bumps : ℕ → TxSummary → TxSummary → Prop
  | none (tx : TxSummary) : Bumps 0 tx tx
  | more {n : ℕ} {tx mid tx' : TxSummary} {fetchTx : String → Option TxSummary} {feeRate : Double}
      {r : Replacement} {surcharge : ℕ} {now maxFee : ℤ} {prepared : Prepared (BuiltSwap κ)}
      (hrun : Bumps n tx mid)
      (hplan : bumpPlan fetchTx mid owned changePrefix feeRate = .ok (r, surcharge))
      (hbuilt : buildAndVerifyReplacement ad mnemonic r now maxFee = .ok prepared)
      (hgate : prepared.problems = []) (hreported : Reported prepared.built tx') :
      Bumps (n + 1) tx tx'

variable {ad mnemonic owned changePrefix}

/-- **Any number of bumps** keeps what one bump keeps. -/
theorem bumped_run (hcodec : AddressCodec ad) (hempty : owned "" = none) {n : ℕ}
    {tx tx' : TxSummary} (h : Bumps ad mnemonic owned changePrefix n tx tx')
    (hdata : ∀ o ∈ tx.outputs, o.opReturnData.isSome = true → o.opReturn = true) :
    n = 0 ∧ tx' = tx ∨ ∃ change memo, Bumped owned changePrefix n tx tx' change memo := by
  induction h with
  | none => exact Or.inl ⟨rfl, rfl⟩
  | @more n tx mid tx' fetchTx feeRate r surcharge now maxFee prepared hrun hplan hprepared _
      hreported ih =>
      obtain ⟨built, hbuilt, hprepared⟩ := bind_eq_ok hprepared
      cases hprepared
      refine Or.inr ?_
      rcases ih hdata with ⟨rfl, rfl⟩ | ⟨change, memo, hbumped⟩
      · exact bumped_step hcodec hempty hdata (bumpPlan_ok hplan) hbuilt hreported
      · have hmid : ∀ o ∈ mid.outputs, o.opReturnData.isSome = true → o.opReturn = true :=
          fun o ho hsome => (hbumped.consistent' o ho).trans hsome
        obtain ⟨change', memo', hstep⟩ :=
          bumped_step hcodec hempty hmid (bumpPlan_ok hplan) hbuilt hreported
        exact ⟨change, memo, hbumped.trans hstep⟩

/-- **Bumping again and again**: of a transaction an explorer reported, whatever number of
    bumps by one wallet leaves the inputs, every output's address and payload, and every
    value but the change's as they were; the change has paid for what the fee went up,
    stays above dust, and so bounds the number of bumps. -/
theorem bumps_keep (hcodec : AddressCodec ad) (hempty : owned "" = none) (payload : EsploraTx)
    {n : ℕ} {tx' : TxSummary}
    (h : Bumps ad mnemonic owned changePrefix (n + 1) (parseTxSummary payload) tx') :
    ∃ change memo,
      changeIndex (parseTxSummary payload) owned changePrefix = .ok change
      ∧ planMemo (parseTxSummary payload) = .ok memo
      ∧ tx'.inputs.map outpoint = (parseTxSummary payload).inputs.map outpoint
      ∧ tx'.outputs.map face = (parseTxSummary payload).outputs.map face
      ∧ (∀ i, i ≠ change → (tx'.outputs[i]?).map TxEntry.value
        = ((parseTxSummary payload).outputs[i]?).map TxEntry.value)
      ∧ (outputAt tx' change).value + tx'.fee
        = (outputAt (parseTxSummary payload) change).value + (parseTxSummary payload).fee
      ∧ (parseTxSummary payload).fee + (n + 1) * leastBump (parseTxSummary payload) memo
        ≤ tx'.fee
      ∧ (p2wpkh.dust : ℤ) ≤ (outputAt tx' change).value
      ∧ (n + 1) * leastBump (parseTxSummary payload) memo + p2wpkh.dust
        ≤ (outputAt (parseTxSummary payload) change).value := by
  rcases bumped_run hcodec hempty h (parseTxSummary_data payload) with
    ⟨hzero, -⟩ | ⟨change, memo, hbumped⟩
  · exact absurd hzero (Nat.succ_ne_zero n)
  · have hfee := hbumped.fee
    have hbalance := hbumped.balance
    have hdust := hbumped.dust
    push_cast at hfee
    exact ⟨change, memo, hbumped.change_ok, hbumped.memo_ok, hbumped.inputs, hbumped.faces,
      hbumped.values, hbalance, hfee, hdust, by omega⟩

end Runs

/-! ## A stuck deposit, bumped -/

/-- What an explorer reports of a build. -/
def reportOf {κ : Type} (built : BuiltSwap κ) : TxSummary where
  txid := ""
  confirmed := false
  blockHeight := none
  fee := built.fee
  vsize := 180
  inputs := built.inputs.map fun u =>
    { value := u.value, address := some u.address, txid := some u.txid, vout := some u.vout
      sequence := some 0xFFFFFFFD }
  outputs := built.outputs.map fun o =>
    { value := o.value, address := o.address, opReturn := o.opReturnData.isSome
      opReturnData := o.opReturnData }

theorem reported_reportOf {κ : Type} (built : BuiltSwap κ) : Reported built (reportOf built) := by
  refine ⟨?_, ?_, ?_, rfl⟩
  · rw [reportOf, List.map_map]
    rfl
  · rw [reportOf, List.map_map]
    exact List.map_id _
  · intro o ho
    obtain ⟨out, -, rfl⟩ := List.mem_map.mp ho
    rfl

def depositPayload : EsploraTx where
  txid := some "deposit"
  fee := some 500
  weight := some 720
  vin := some [
    { txid := some "bb", vout := some 1, sequence := some 0xFFFFFFFD
      prevout := some
        { value := some 30000
          scriptpubkeyAddress := some "bc1q8c6fshw2dlwun7ekn9qwf37cu2rn755upcp6el" } }]
  vout := some [
    { value := some 20000
      scriptpubkeyAddress := some "bc1qw508d6qejxtdg4y5r3zarvary0c5xw7kv8f3t4" },
    { value := some 0, scriptpubkeyType := some "op_return", scriptpubkey := some "6a0161" },
    { value := some 9500
      scriptpubkeyAddress := some "bc1q8c6fshw2dlwun7ekn9qwf37cu2rn755upcp6el" }]

/-- What is reported once a transaction has been bumped: planned, built and gated. -/
def rebump [PyUnicode] (feeRate : ℚ) (tx : TxSummary) : Option TxSummary := do
  let (r, _) ← (bumpPlan stuckChain tx depositOwned "m/84'/0'/0'/1/"
    (Double.ofRat feeRate)).toOption
  let prepared ← (buildAndVerifyReplacement twoAddressWallet "seed" r 1700000000
    2000).toOption
  if prepared.problems.isEmpty then some (reportOf prepared.built) else none

theorem Bumps.rebump [PyUnicode] {n : ℕ} {tx mid tx' : TxSummary} {feeRate : ℚ}
    (hrun : Bumps twoAddressWallet "seed" depositOwned "m/84'/0'/0'/1/" n tx mid)
    (h : rebump feeRate mid = some tx') :
    Bumps twoAddressWallet "seed" depositOwned "m/84'/0'/0'/1/" (n + 1) tx tx' := by
  obtain ⟨⟨r, surcharge⟩, hplan, h⟩ := Option.bind_eq_some_iff.mp h
  obtain ⟨prepared, hprepared, h⟩ := Option.bind_eq_some_iff.mp h
  split at h
  · rename_i hempty
    cases h
    exact .more hrun (ok_of_toOption hplan) (ok_of_toOption hprepared)
      (List.isEmpty_iff.mp hempty) (reported_reportOf _)
  · cases h

theorem depositPayload_rebumped :
    let _ : PyUnicode := asciiUnicode
    (((rebump 5 (parseTxSummary depositPayload)).bind (rebump 6)).map TxSummary.fee)
      = some 1580 := by
  decide +kernel

/-- The deposit is bumped twice, and pays the vault as before. -/
theorem bumps_keep_deposit :
    let _ : PyUnicode := asciiUnicode
    ∃ tx' memo, Bumps twoAddressWallet "seed" depositOwned "m/84'/0'/0'/1/" 2
        (parseTxSummary depositPayload) tx'
      ∧ tx'.fee = 1580
      ∧ tx'.outputs.map face = (parseTxSummary depositPayload).outputs.map face
      ∧ (parseTxSummary depositPayload).fee
          + 2 * leastBump (parseTxSummary depositPayload) memo ≤ tx'.fee := by
  intro _
  obtain ⟨tx', hbumped, hpaid⟩ := Option.map_eq_some_iff.mp depositPayload_rebumped
  obtain ⟨mid, hfirst, hsecond⟩ := Option.bind_eq_some_iff.mp hbumped
  have hrun : Bumps twoAddressWallet "seed" depositOwned "m/84'/0'/0'/1/" (1 + 1)
      (parseTxSummary depositPayload) tx' := ((Bumps.none _).rebump hfirst).rebump hsecond
  obtain ⟨change, memo, -, -, -, hfaces, -, -, hfee, -⟩ :=
    bumps_keep twoAddressWallet_codec (by decide) depositPayload hrun
  exact ⟨tx', memo, hrun, hpaid, hfaces, hfee⟩

end SwapsackBumpRuns
