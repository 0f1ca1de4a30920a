import Swapsack.SelectionProofs

/-! # The Bitcoin adapter — reading a transaction, pricing mempool inputs

    `parseTxSummary` reads an Esplora `/tx` answer into the neutral model.
    `cpfpDeficits` fills in what each unconfirmed input's parent is short of
    the target rate, one lookup per distinct parent.

    The results are about the package a spend forms with its parents:

    * `cpfpDeficits_spec` — every unconfirmed input carries its own parent's
      shortfall;
    * `cpfpSurcharge_priced` — a set of priced inputs is surcharged each
      parent's shortfall once;
    * `priced_spend_pays_package` — the selection and the sweep bring the
      package to the rate. -/

namespace SwapsackBtc

open ListKit ByteString FeePackage SwapsackBase SwapsackCoins SwapsackSelection

/-! ## Reading an Esplora answer

    Absent keys are `none`; a JSON null reads as absent wherever the code uses
    `.get`. -/

structure EsploraStatus where
  confirmed : Option Bool := none
  blockHeight : Option ℤ := none
  blockTime : Option ℤ := none

/-- A transaction output as Esplora lists it, also the `prevout` of an input. -/
structure EsploraOut where
  scriptpubkeyType : Option String := none
  scriptpubkey : Option String := none
  scriptpubkeyAddress : Option String := none
  value : Option ℤ := none

structure EsploraVin where
  txid : Option String := none
  vout : Option ℤ := none
  sequence : Option ℤ := none
  prevout : Option EsploraOut := none

structure EsploraTx where
  txid : Option String := none
  status : Option EsploraStatus := none
  weight : Option ℕ := none
  size : Option ℕ := none
  fee : Option ℤ := none
  vin : Option (List EsploraVin) := none
  vout : Option (List EsploraOut) := none

/-- The payload of a reported script, when it can be read: both a bad hex
    string and a script the decoder refuses leave nothing to rebuild from. -/
def readPayload (script : String) : Option Bytes :=
  match fromHex script with
  | none => none
  | some bytes =>
      match decodeOpReturn bytes with
      | .ok data => some data
      | .error _ => none

/-- One reported output. -/
def entry (item : EsploraOut) : TxEntry :=
  let isData : Bool := item.scriptpubkeyType == some "op_return"
  let data :=
    match isData, item.scriptpubkey with
    | true, some script => if script = "" then none else readPayload script
    | _, _ => none
  { value := item.value.getD 0
    address := item.scriptpubkeyAddress
    opReturn := isData
    opReturnData := data }

/-- An input: the output being spent, and the outpoint naming it. -/
def spend (item : EsploraVin) : TxEntry :=
  { entry (item.prevout.getD {}) with
    txid := item.txid, vout := item.vout, sequence := item.sequence }

/-- Parse an Esplora `/tx/<txid>` response. -/
def parseTxSummary (payload : EsploraTx) : TxSummary :=
  let status := payload.status.getD {}
  -- Esplora reports weight; vsize is weight/4 rounded up
  let vsize :=
    match payload.weight with
    | some weight => if weight ≠ 0 then (weight + 3) / 4 else payload.size.getD 0
    | none => payload.size.getD 0
  { txid := payload.txid.getD ""
    confirmed := status.confirmed.getD false
    blockHeight := status.blockHeight
    blockTime := status.blockTime
    fee := payload.fee.getD 0
    vsize := vsize
    inputs := (payload.vin.getD []).map spend
    outputs := (payload.vout.getD []).map entry }

/-! ## Pricing the unconfirmed parents

    `fetchTx` is the chain: what it knows about a transaction, or nothing. -/

section Pricing

variable {ρ : Type} [Rate ρ] (fetchTx : String → Option TxSummary)

/-- What the transaction `txid` is short of the rate, as its child must pay it. -/
def parentDeficit (feeRate : ρ) (txid : String) : Except PyError ℕ :=
  match fetchTx txid with
  | none => .error (.runtimeError
      s!"cannot price the unconfirmed parent {txid}: this chain has never seen it — refusing to guess its fee")
  | some parent =>
      -- mined between the scan and now: nothing to lift
      if parent.confirmed then .ok 0 else cpfpDeficit parent.fee parent.vsize feeRate

/-- The loop that looks each distinct unconfirmed parent up once. -/
def collectDeficits (feeRate : ρ) :
    List Utxo → List (String × ℕ) → Except PyError (List (String × ℕ))
  | [], deficits => .ok deficits
  | utxo :: utxos, deficits =>
      if utxo.confirmed || (getKey deficits utxo.txid).isSome then
        collectDeficits feeRate utxos deficits
      else do
        let deficit ← parentDeficit fetchTx feeRate utxo.txid
        collectDeficits feeRate utxos (setKey deficits utxo.txid deficit)

/-- Fill in `ancestorDeficit` for the unconfirmed inputs among `utxos`. -/
def cpfpDeficits (utxos : List Utxo) (feeRate : ρ) : Except PyError (List Utxo) :=
  match collectDeficits fetchTx feeRate utxos [] with
  | .error e => .error e
  | .ok deficits =>
      .ok (utxos.map fun u =>
        match getKey deficits u.txid with
        | some d => { u with ancestorDeficit := d }
        | none => u)

/-- A parent's deficit, where it has one. -/
def deficitOf (feeRate : ρ) (txid : String) : ℕ :=
  (parentDeficit fetchTx feeRate txid).toOption.getD 0

variable {fetchTx} {feeRate : ρ}

theorem deficitOf_eq {txid : String} {d : ℕ}
    (h : parentDeficit fetchTx feeRate txid = .ok d) : deficitOf fetchTx feeRate txid = d := by
  rw [deficitOf, h]
  rfl

/-- The loop keeps its entries right and never drops one. -/
theorem collectDeficits_spec :
    ∀ {utxos : List Utxo} {d r : List (String × ℕ)},
      collectDeficits fetchTx feeRate utxos d = .ok r →
      (∀ t x, getKey d t = some x → parentDeficit fetchTx feeRate t = .ok x) →
      (∀ t x, getKey r t = some x → parentDeficit fetchTx feeRate t = .ok x)
        ∧ (∀ t, (getKey d t).isSome = true → (getKey r t).isSome = true)
        ∧ ∀ u ∈ utxos, u.confirmed = false → (getKey r u.txid).isSome = true := by
  intro utxos
  induction utxos with
  | nil =>
      intro d r h hd
      cases h
      exact ⟨hd, fun _ ht => ht, fun u hu => nomatch hu⟩
  | cons utxo utxos ih =>
      intro d r h hd
      rw [collectDeficits] at h
      split at h
      · -- confirmed, or its parent is priced already
        rename_i hskip
        obtain ⟨hval, hkeep, hall⟩ := ih h hd
        refine ⟨hval, hkeep, ?_⟩
        intro u hu hconf
        rcases List.mem_cons.mp hu with rfl | hu
        · rw [hconf, Bool.false_or] at hskip
          exact hkeep _ hskip
        · exact hall u hu hconf
      · obtain ⟨deficit, hdeficit, h⟩ := bind_eq_ok h
        have hset : ∀ t x, getKey (setKey d utxo.txid deficit) t = some x →
            parentDeficit fetchTx feeRate t = .ok x := by
          intro t x hx
          rw [getKey_setKey] at hx
          by_cases ht : utxo.txid = t
          · rw [if_pos ht] at hx
            rw [← ht, hdeficit, Option.some.inj hx]
          · rw [if_neg ht] at hx
            exact hd t x hx
        obtain ⟨hval, hkeep, hall⟩ := ih h hset
        refine ⟨hval, ?_, ?_⟩
        · intro t ht
          exact hkeep t (getKey_setKey_isSome _ _ ht)
        · intro u hu hconf
          rcases List.mem_cons.mp hu with rfl | hu
          · refine hkeep _ ?_
            rw [getKey_setKey, if_pos rfl]
            rfl
          · exact hall u hu hconf

/-- **Pricing**: nothing but the deficit changes, and every unconfirmed input
    ends up carrying its own parent's. -/
theorem cpfpDeficits_spec {utxos priced : List Utxo}
    (h : cpfpDeficits fetchTx utxos feeRate = .ok priced) :
    (∀ u ∈ priced, u.confirmed = false →
        parentDeficit fetchTx feeRate u.txid = .ok u.ancestorDeficit)
      ∧ priced.map (fun u => { u with ancestorDeficit := 0 })
          = utxos.map (fun u => { u with ancestorDeficit := 0 }) := by
  rw [cpfpDeficits] at h
  cases hd : collectDeficits fetchTx feeRate utxos [] with
  | error e => rw [hd] at h; exact nomatch h
  | ok deficits =>
      rw [hd] at h
      cases h
      obtain ⟨hval, -, hall⟩ := collectDeficits_spec hd (fun _ _ hx => nomatch hx)
      constructor
      · intro u hu hconf
        obtain ⟨v, hv, rfl⟩ := List.mem_map.mp hu
        cases hkey : getKey deficits v.txid with
        | none =>
            rw [hkey] at hconf
            have hsome := hall v hv hconf
            rw [hkey] at hsome
            exact nomatch hsome
        | some x => exact hval v.txid x hkey
      · rw [List.map_map]
        refine List.map_congr_left ?_
        intro u _
        dsimp only [Function.comp_apply]
        cases getKey deficits u.txid <;> rfl

/-- Inputs whose parents can all be priced are priced. -/
theorem collectDeficits_total :
    ∀ {utxos : List Utxo} (d : List (String × ℕ)),
      (∀ u ∈ utxos, ∃ x, parentDeficit fetchTx feeRate u.txid = .ok x) →
      ∃ r, collectDeficits fetchTx feeRate utxos d = .ok r := by
  intro utxos
  induction utxos with
  | nil => intro d _; exact ⟨d, rfl⟩
  | cons utxo utxos ih =>
      intro d hknown
      have htail := fun d => ih d (fun u hu => hknown u (List.mem_cons_of_mem _ hu))
      rw [collectDeficits]
      split
      · exact htail d
      · obtain ⟨x, hx⟩ := hknown utxo List.mem_cons_self
        rw [hx, ok_bind]
        exact htail _

theorem cpfpDeficits_total {utxos : List Utxo}
    (h : ∀ u ∈ utxos, ∃ x, parentDeficit fetchTx feeRate u.txid = .ok x) :
    ∃ priced, cpfpDeficits fetchTx utxos feeRate = .ok priced := by
  obtain ⟨r, hr⟩ := collectDeficits_total [] h
  rw [cpfpDeficits]
  rw [hr]
  exact ⟨_, rfl⟩

/-- **Each parent's deficit is charged once**, however many of its outputs are among
    the inputs. -/
theorem cpfpSurcharge_deficits {utxos priced chosen : List Utxo}
    (h : cpfpDeficits fetchTx utxos feeRate = .ok priced)
    (hsub : ∀ u ∈ chosen, u ∈ priced) :
    cpfpSurcharge chosen = ((mempoolParents chosen).map (deficitOf fetchTx feeRate)).sum :=
  cpfpSurcharge_eq fun u hu hconf =>
    (deficitOf_eq ((cpfpDeficits_spec h).1 u (hsub u hu) hconf)).symm

end Pricing

/-! ## The package a spend forms with its parents -/

section Package

variable {fetchTx : String → Option TxSummary}

/-- A transaction as a member of the package it leads; a mined one is in none. -/
def parentMember (fetchTx : String → Option TxSummary) (txid : String) : Option Member :=
  match fetchTx txid with
  | some parent =>
      if parent.confirmed then none
      else some { fee := parent.fee, vsize := parent.vsize }
  | none => none

/-- The distinct unconfirmed parents of `utxos`, as members of the package. -/
def packageParents (fetchTx : String → Option TxSummary) (utxos : List Utxo) :
    List Member :=
  (mempoolParents utxos).filterMap (parentMember fetchTx)

/-- Deficits total to the package's shortfall: a mined parent adds nothing. -/
theorem sum_parentDeficit (feeRate : ℚ) (txids : List String) :
    (txids.map (deficitOf fetchTx feeRate)).sum
      = totalShortfall feeRate (txids.filterMap (parentMember fetchTx)) := by
  induction txids with
  | nil => rfl
  | cons t txids ih =>
      rw [List.map_cons, List.sum_cons, List.filterMap_cons, ih]
      rw [deficitOf, parentDeficit, parentMember]
      cases hfetch : fetchTx t with
      | none => exact Nat.zero_add _
      | some parent =>
          dsimp only
          by_cases hconf : parent.confirmed = true
          · rw [if_pos hconf, if_pos hconf]
            exact Nat.zero_add _
          · rw [if_neg hconf, if_neg hconf]
            rfl

/-- The surcharge of priced inputs is what their package is short of the rate. -/
theorem cpfpSurcharge_priced {utxos priced chosen : List Utxo} {feeRate : ℚ}
    (h : cpfpDeficits fetchTx utxos feeRate = .ok priced)
    (hsub : ∀ u ∈ chosen, u ∈ priced) :
    cpfpSurcharge chosen
      = totalShortfall feeRate (packageParents fetchTx chosen) := by
  rw [cpfpSurcharge_deficits h hsub]
  exact sum_parentDeficit feeRate _

/-- A fee that covers the estimated size and the surcharge of priced inputs
    brings the package to the rate. -/
theorem paysRate_of_priced {utxos priced chosen : List Utxo} {feeRate : ℚ}
    {fee : ℤ} {vsize : ℕ}
    (h : cpfpDeficits fetchTx utxos feeRate = .ok priced)
    (hsub : ∀ u ∈ chosen, u ∈ priced)
    (hfee : ⌈(vsize : ℚ) * feeRate⌉ + cpfpSurcharge chosen ≤ fee) :
    PaysRate feeRate ({ fee, vsize } :: packageParents fetchTx chosen) := by
  refine paysRate_of_shortfalls ?_
  rw [← cpfpSurcharge_priced h hsub]
  have hceil : (vsize : ℚ) * feeRate ≤ (⌈(vsize : ℚ) * feeRate⌉ : ℤ) := Int.le_ceil _
  have hcast : ((⌈(vsize : ℚ) * feeRate⌉ : ℤ) : ℚ) + (cpfpSurcharge chosen : ℚ)
      ≤ (fee : ℚ) := by exact_mod_cast hfee
  dsimp only
  linarith

end Package

/-- **A spend of mempool money pays for its package.**  With inputs priced at
    the rate, the fee of the selection and the fee of a sweep each bring the
    transaction and its distinct unconfirmed parents to the rate, at the
    estimated size of the shape that is built; and the surcharge of any of the
    priced inputs is the shortfall of each parent, once. -/
theorem priced_spend_pays_package (fetchTx : String → Option TxSummary)
    (utxos priced : List Utxo) (feeRate : ℚ) (memoLen : ℕ) (script : ScriptParams)
    (hrate : 0 ≤ feeRate)
    (hpriced : cpfpDeficits fetchTx utxos feeRate = .ok priced) :
    (∀ sendAmount sel,
        selectCoins priced sendAmount feeRate memoLen script = .ok sel →
        PaysRate feeRate
          ({ fee := sel.fee
             vsize := estimateVsize sel.utxos.length
               (if 0 < sel.change then 2 else 1) memoLen script }
            :: packageParents fetchTx sel.utxos))
    ∧ (∀ total send fee,
        sweepAmount total priced.length feeRate memoLen script
          (cpfpSurcharge priced) = .ok (send, fee) →
        PaysRate feeRate
          ({ fee := fee
             vsize := estimateVsize priced.length 1 memoLen script }
            :: packageParents fetchTx priced))
    ∧ (∀ chosen : List Utxo, (∀ u ∈ chosen, u ∈ priced) →
        cpfpSurcharge chosen
          = ((packageParents fetchTx chosen).map (shortfall feeRate)).sum) := by
  refine ⟨?_, ?_, ?_⟩
  · intro sendAmount sel hsel
    have hsound := selectCoins_sound hrate hsel
    exact paysRate_of_priced hpriced (fun u hu => hsound.offered.subset hu)
      hsound.fee_covers
  · intro total send fee hsweep
    obtain ⟨hfee, -, -⟩ := sweepAmount_ok hsweep
    exact paysRate_of_priced hpriced (fun u hu => hu) hfee.ge
  · intro chosen hsub
    exact cpfpSurcharge_priced hpriced hsub

/-- Two outputs of one mempool parent and a confirmed coin, before pricing. -/
def offeredUtxos : List Utxo :=
  [{ txid := "parent", vout := 0, value := 9000, address := "bc1qa", confirmed := false },
   { txid := "parent", vout := 1, value := 8000, address := "bc1qb", confirmed := false },
   { txid := "mined", vout := 0, value := 5000, address := "bc1qc" }]

/-- Their parent: 100 vB at 1 sat/vB. -/
def offeredChain : String → Option TxSummary := fun _ =>
  some { txid := "parent", confirmed := false, blockHeight := none, fee := 100
         vsize := 100, inputs := [], outputs := [] }

/-- The same coins priced at 4 sat/vB. -/
def pricedUtxos : List Utxo :=
  [{ txid := "parent", vout := 0, value := 9000, address := "bc1qa", confirmed := false
     ancestorDeficit := 300 },
   { txid := "parent", vout := 1, value := 8000, address := "bc1qb", confirmed := false
     ancestorDeficit := 300 },
   { txid := "mined", vout := 0, value := 5000, address := "bc1qc" }]

theorem priced_spend_pays_package_offered :
    ∃ sel, selectCoins pricedUtxos 12000 4 0 p2wpkh = .ok sel
      ∧ PaysRate 4 ({ fee := sel.fee
                      vsize := estimateVsize sel.utxos.length
                        (if 0 < sel.change then 2 else 1) 0 p2wpkh }
          :: packageParents offeredChain sel.utxos)
      ∧ cpfpSurcharge pricedUtxos
          = ((packageParents offeredChain pricedUtxos).map (shortfall 4)).sum := by
  have hspend := priced_spend_pays_package offeredChain offeredUtxos pricedUtxos 4 0
    p2wpkh (by norm_num) (by decide +kernel)
  have hok : (selectCoins pricedUtxos 12000 4 0 p2wpkh).isOk = true := by
    decide +kernel
  obtain ⟨sel, hsel⟩ := exists_of_isOk hok
  exact ⟨sel, hsel, hspend.1 12000 sel hsel, hspend.2.2 _ fun _ hu => hu⟩

end SwapsackBtc
