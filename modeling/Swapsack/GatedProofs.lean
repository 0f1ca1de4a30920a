import Swapsack.VerifyProofs
import Swapsack.ZcashProofs

/-! # Build, then gate

    The wrappers every UTXO-family chain shares: construct the spend through
    the chain's hook, then run the gate on what was constructed.  A chain
    brings the hook and the canonical form of an address; the wrappers are one
    definition for all of them.

    * `verifyBtcSend_correct`, `verifyBtcSwap_correct` — a correct build has
      nothing to complain about but the fee, the clock and the memo's payee;
    * `gatesAgree_of_hookLaw` — so a hook that builds correctly and its gate
      agree;
    * `builders_agree_with_gates` — both builders do. -/

namespace SwapsackGated

open ListKit PyText SwapsackBase SwapsackVerify
open SwapsackCoins (memoBytes)
open SwapsackUtxo (UtxoAdapter AddressCodec BuiltSwap builtOutputs CorrectBuild)
open SwapsackZcash (ZecAdapter ZecBuilt TxidsWellFormed)
open SwapsackZcashTx (canonicalAddress)

/-- What the wrappers read of a swap quote. -/
structure Quote where
  inboundAddress : String
  memo : Option String
  expiry : ℤ
deriving DecidableEq

/-- What the wrappers read of a swap request. -/
structure SwapRequest where
  amount : ℤ
  destination : String
deriving DecidableEq

/-- The plan a build was gated against. -/
inductive GatePlan where
  | swap (plan : SwapPlan)
  | send (plan : SendPlan)

structure Prepared (β : Type) where
  quote : Option Quote
  built : β
  plan : GatePlan
  problems : List Problem

/-- A chain's part: the hook, what a gate reads of its result, and the form in
    which the extraction shows an address. -/
structure GatedTxBuilder (β : Type) where
  buildUnsignedSwap : String → List Utxo → String → ℤ → Option Memo → ℚ → String → Bool →
    Except PyError β
  outputs : β → List TxOutput
  fee : β → ℤ
  canonicalAddress : String → Except PyError String := .ok
  memoMaxBytes : ℕ := opReturnMaxBytes

/-! ## The wrappers -/

section Wrappers

variable [PyUnicode] {β : Type} (g : GatedTxBuilder β)

omit [PyUnicode] in
/-- The addresses change may return to. -/
def ownedAddresses (changeAddress : String) (scannedUtxos : List Utxo) : List String :=
  changeAddress :: scannedUtxos.map Utxo.address

/-- Build and verify the deposit of a quoted swap. -/
def buildAndVerify (quote : Quote) (request : SwapRequest) (now : ℤ) (mnemonic : String)
    (scannedUtxos : List Utxo) (feeRate : ℚ) (changeAddress : String) (maxFee : ℤ)
    (sweep : Bool) : Except PyError (Prepared β) := do
  let memo := Memo.text (orText quote.memo "")
  let built ← g.buildUnsignedSwap mnemonic scannedUtxos quote.inboundAddress
    request.amount (some memo) feeRate changeAddress sweep
  let inboundAddress ← g.canonicalAddress quote.inboundAddress
  let plan : SwapPlan := { inboundAddress, amount := request.amount, memo
                           expiry := quote.expiry, destination := request.destination }
  let problems := verifyBtcSwap (g.outputs built) (g.fee built) plan
    (ownedAddresses changeAddress scannedUtxos) now maxFee g.memoMaxBytes
  .ok { quote := some quote, built, plan := .swap plan, problems }

/-- Build and verify a deposit with a memo of our own; it is good for an hour. -/
def buildAndVerifyDeposit (vault : String) (memo : Memo) (amount now : ℤ)
    (mnemonic : String) (scannedUtxos : List Utxo) (feeRate : ℚ) (changeAddress : String)
    (maxFee : ℤ) (sweep : Bool) : Except PyError (Prepared β) := do
  let built ← g.buildUnsignedSwap mnemonic scannedUtxos vault amount (some memo) feeRate
    changeAddress sweep
  let inboundAddress ← g.canonicalAddress vault
  let plan : SwapPlan := { inboundAddress, amount, memo, expiry := now + 3600 }
  let problems := verifyBtcSwap (g.outputs built) (g.fee built) plan
    (ownedAddresses changeAddress scannedUtxos) now maxFee g.memoMaxBytes
  .ok { quote := none, built, plan := .swap plan, problems }

omit [PyUnicode] in
/-- Build and verify a plain send: no swap, no memo. -/
def buildAndVerifySend (recipient : String) (amount : ℤ) (mnemonic : String)
    (scannedUtxos : List Utxo) (feeRate : ℚ) (changeAddress : String) (maxFee : ℤ)
    (sweep : Bool) : Except PyError (Prepared β) := do
  let built ← g.buildUnsignedSwap mnemonic scannedUtxos recipient amount none feeRate
    changeAddress sweep
  let recipient ← g.canonicalAddress recipient
  let plan : SendPlan := { recipient, amount }
  let problems := verifyBtcSend (g.outputs built) (g.fee built) plan
    (ownedAddresses changeAddress scannedUtxos) maxFee
  .ok { quote := none, built, plan := .send plan, problems }

end Wrappers

/-! ## The two builders -/

/-- BTC and DASH. -/
def utxoBuilder {κ : Type} (ad : UtxoAdapter κ) : GatedTxBuilder (BuiltSwap κ) where
  buildUnsignedSwap mnemonic utxos vaultAddress amount memo feeRate changeAddress sweep :=
    SwapsackUtxo.buildUnsignedSwap ad mnemonic utxos vaultAddress amount memo feeRate
      (some changeAddress) none sweep
  outputs := BuiltSwap.outputs
  fee := BuiltSwap.fee

/-- ZEC: the fee follows ZIP-317 whatever the rate, and TEX addresses show as
    the t1 address they pay. -/
def zecBuilder [PyUnicode] (ad : ZecAdapter) : GatedTxBuilder ZecBuilt where
  buildUnsignedSwap mnemonic utxos vaultAddress amount memo _ changeAddress sweep :=
    SwapsackZcash.buildUnsignedSwap ad mnemonic utxos vaultAddress amount memo
      changeAddress sweep
  outputs := ZecBuilt.outputs
  fee := ZecBuilt.fee
  canonicalAddress := canonicalAddress ad.base58

/-! ## A correct build at its gate -/

section Gate

variable {spent fee amount : ℤ} {outputs : List TxOutput} {payee changeAddress : String}
  {owned : List String}

/-- The outputs to the payee: the change goes elsewhere and a memo nowhere. -/
theorem builtOutputs_payee {memo : Option Memo} {change : ℤ}
    (hne : payee ≠ changeAddress) :
    (builtOutputs payee amount memo change changeAddress).filter
        (fun o => o.address == some payee)
      = [{ address := some payee, value := amount }] := by
  have hchange : ((some changeAddress : Option String) == some payee) = false := by
    rw [beq_eq_false_iff_ne]
    intro h
    exact hne (Option.some.inj h).symm
  have hmemo : (if memo.isSome then
        [({ address := none, value := 0, opReturnData := some (memoBytes memo) } : TxOutput)]
      else []).filter (fun o => o.address == some payee) = [] := by
    split
    · rfl
    · rfl
  have hreturned : (if 0 < change then
        [({ address := some changeAddress, value := change } : TxOutput)]
      else []).filter (fun o => o.address == some payee) = [] := by
    split
    · rw [List.filter_cons, hchange]
      rfl
    · rfl
  rw [builtOutputs, List.filter_append, List.filter_cons, if_pos (beq_self_eq_true _),
    hmemo, hreturned]
  rfl

/-- The data outputs: the memo's, when there is a memo. -/
theorem builtOutputs_data {memo : Option Memo} {change : ℤ} :
    (builtOutputs payee amount memo change changeAddress).filterMap TxOutput.opReturnData
      = if memo.isSome then [memoBytes memo] else [] := by
  rw [builtOutputs, List.filterMap_append]
  have hreturned : (if 0 < change then
        [({ address := some changeAddress, value := change } : TxOutput)]
      else []).filterMap TxOutput.opReturnData = [] := by
    split
    · rfl
    · rfl
  rw [hreturned, List.append_nil]
  split
  · rfl
  · rfl

/-- Every output without data goes to the payee or is the change. -/
theorem builtOutputs_change {memo : Option Memo} {change : ℤ}
    (hown : changeAddress ∈ owned) :
    ∀ o ∈ builtOutputs payee amount memo change changeAddress,
      o.opReturnData = none → o.address ≠ some payee →
      ∃ address ∈ owned, o.address = some address := by
  intro o ho hdata hnot
  rw [builtOutputs, List.mem_append, List.mem_cons] at ho
  rcases ho with (rfl | ho) | ho
  · exact absurd rfl hnot
  · split at ho
    · rw [List.mem_singleton] at ho
      rw [ho] at hdata
      exact nomatch hdata
    · exact nomatch ho
  · split at ho
    · rw [List.mem_singleton] at ho
      exact ⟨changeAddress, hown, by rw [ho]⟩
    · exact nomatch ho

/-- **A correct send passes its gate unless the fee is too high.** -/
theorem verifyBtcSend_correct {maxFee : ℤ} (hne : payee ≠ changeAddress)
    (hown : changeAddress ∈ owned)
    (h : CorrectBuild spent outputs fee payee amount none changeAddress) :
    verifyBtcSend outputs fee { recipient := payee, amount } owned maxFee = []
      ↔ fee ≤ maxFee := by
  obtain ⟨change, -, -, rfl⟩ := h.outputs_eq
  rw [verifyBtcSend_eq_nil]
  constructor
  · rintro ⟨-, -, -, -, hfee⟩
    exact hfee
  · intro hfee
    refine ⟨recipientProblems_eq_nil.mpr ⟨_, builtOutputs_payee hne, rfl⟩, ?_,
      changeProblems_eq_nil.mpr (builtOutputs_change hown), h.fee_nonneg, hfee⟩
    intro o ho
    by_contra hdata
    obtain ⟨data, hdata⟩ := Option.ne_none_iff_exists'.mp hdata
    have hmem := List.mem_filterMap.mpr ⟨o, ho, hdata⟩
    rw [builtOutputs_data] at hmem
    exact nomatch hmem

/-- **A correct deposit passes its gate** unless the quote has expired, the memo
    does not pay the destination, or the fee is too high. -/
theorem verifyBtcSwap_correct [PyUnicode] {memo : Memo} {expiry now maxFee : ℤ}
    {destination : String} (hne : payee ≠ changeAddress) (hown : changeAddress ∈ owned)
    (h : CorrectBuild spent outputs fee payee amount (some memo) changeAddress) :
    verifyBtcSwap outputs fee
        { inboundAddress := payee, amount, memo, expiry, destination } owned now maxFee = []
      ↔ now < expiry ∧ memoPaysDestination destination memo = true ∧ fee ≤ maxFee := by
  obtain ⟨change, -, -, rfl⟩ := h.outputs_eq
  rw [verifyBtcSwap_eq_nil]
  constructor
  · rintro ⟨hlive, -, -, -, hpays, -, hfee⟩
    exact ⟨hlive, hpays, hfee⟩
  · rintro ⟨hlive, hpays, hfee⟩
    exact ⟨hlive, vaultProblems_eq_nil.mpr ⟨_, builtOutputs_payee hne, rfl⟩,
      opReturnProblems_eq_nil.mpr ⟨builtOutputs_data, h.memo_fits⟩,
      changeProblems_eq_nil.mpr (builtOutputs_change hown), hpays, h.fee_nonneg, hfee⟩

end Gate

/-! ## Builders and gates agree -/

section Agree

variable [PyUnicode] {β : Type} (g : GatedTxBuilder β) (spent : β → ℤ)
  (mnemonic : String) (utxos : List Utxo) (vault : String) (feeRate : ℚ)
  (changeAddress : String)

omit [PyUnicode] in
/-- Everything the hook returns is a correct build paying the vault's canonical
    form. -/
def HookLaw : Prop :=
  ∀ (amount : ℤ) (memo : Option Memo) (sweep : Bool) (built : β),
    g.buildUnsignedSwap mnemonic utxos vault amount memo feeRate changeAddress sweep
        = .ok built →
      ∃ payee, g.canonicalAddress vault = .ok payee
        ∧ CorrectBuild (spent built) (g.outputs built) (g.fee built) payee amount memo
            changeAddress

omit [PyUnicode] in
/-- A wrapper returns the hook's build, correctly built, and lists no problem
    exactly when `safe`. -/
def Agrees (wrapped : Except PyError (Prepared β)) (built : β) (amount : ℤ)
    (memo : Option Memo) (safe : Prop) : Prop :=
  ∃ payee prepared, g.canonicalAddress vault = .ok payee
    ∧ wrapped = .ok prepared ∧ prepared.built = built
    ∧ CorrectBuild (spent built) (g.outputs built) (g.fee built) payee amount memo
        changeAddress
    ∧ (prepared.problems = [] ↔ safe)

/-- Whenever the hook returns, each of the three wrappers agrees with it. -/
structure GatesAgree : Prop where
  send : ∀ (amount maxFee : ℤ) (sweep : Bool) (built : β),
    g.buildUnsignedSwap mnemonic utxos vault amount none feeRate changeAddress sweep
        = .ok built →
      Agrees g spent vault changeAddress
        (buildAndVerifySend g vault amount mnemonic utxos feeRate changeAddress maxFee
          sweep)
        built amount none (g.fee built ≤ maxFee)
  deposit : ∀ (memo : Memo) (amount now maxFee : ℤ) (sweep : Bool) (built : β),
    g.buildUnsignedSwap mnemonic utxos vault amount (some memo) feeRate changeAddress sweep
        = .ok built →
      Agrees g spent vault changeAddress
        (buildAndVerifyDeposit g vault memo amount now mnemonic utxos feeRate changeAddress
          maxFee sweep)
        built amount (some memo) (g.fee built ≤ maxFee)
  swap : ∀ (quote : Quote) (request : SwapRequest) (now maxFee : ℤ) (sweep : Bool)
      (built : β), quote.inboundAddress = vault →
    g.buildUnsignedSwap mnemonic utxos vault request.amount
        (some (.text (orText quote.memo ""))) feeRate changeAddress sweep = .ok built →
      Agrees g spent vault changeAddress
        (buildAndVerify g quote request now mnemonic utxos feeRate changeAddress maxFee
          sweep)
        built request.amount (some (.text (orText quote.memo "")))
        (now < quote.expiry
          ∧ memoPaysDestination request.destination (.text (orText quote.memo "")) = true
          ∧ g.fee built ≤ maxFee)

variable {g spent mnemonic utxos vault feeRate changeAddress}

omit [PyUnicode] in
theorem changeAddress_owned : changeAddress ∈ ownedAddresses changeAddress utxos :=
  List.mem_cons_self

/-- What the deposit wrapper returns, given what the hook returned. -/
theorem buildAndVerifyDeposit_ok {memo : Memo} {amount now maxFee : ℤ} {sweep : Bool}
    {built : β} {payee : String} (hcanonical : g.canonicalAddress vault = .ok payee)
    (hbuilt : g.buildUnsignedSwap mnemonic utxos vault amount (some memo) feeRate
      changeAddress sweep = .ok built) :
    buildAndVerifyDeposit g vault memo amount now mnemonic utxos feeRate changeAddress
        maxFee sweep
      = .ok { quote := none, built
              plan := .swap { inboundAddress := payee, amount, memo, expiry := now + 3600 }
              problems := verifyBtcSwap (g.outputs built) (g.fee built)
                { inboundAddress := payee, amount, memo, expiry := now + 3600 }
                (ownedAddresses changeAddress utxos) now maxFee g.memoMaxBytes } := by
  rw [buildAndVerifyDeposit, hbuilt, ok_bind, hcanonical, ok_bind]

/-- What the swap wrapper returns, given what the hook returned. -/
theorem buildAndVerify_ok {quote : Quote} {request : SwapRequest} {now maxFee : ℤ}
    {sweep : Bool} {built : β} {payee : String}
    (hcanonical : g.canonicalAddress quote.inboundAddress = .ok payee)
    (hbuilt : g.buildUnsignedSwap mnemonic utxos quote.inboundAddress request.amount
      (some (.text (orText quote.memo ""))) feeRate changeAddress sweep = .ok built) :
    let plan : SwapPlan := { inboundAddress := payee, amount := request.amount
                             memo := .text (orText quote.memo "")
                             expiry := quote.expiry, destination := request.destination }
    buildAndVerify g quote request now mnemonic utxos feeRate changeAddress maxFee sweep
      = .ok { quote := some quote, built, plan := .swap plan
              problems := verifyBtcSwap (g.outputs built) (g.fee built) plan
                (ownedAddresses changeAddress utxos) now maxFee g.memoMaxBytes } := by
  rw [buildAndVerify, hbuilt, ok_bind, hcanonical, ok_bind]

omit [PyUnicode] in
/-- What the send wrapper returns, given what the hook returned. -/
theorem buildAndVerifySend_ok {amount maxFee : ℤ} {sweep : Bool} {built : β}
    {payee : String} (hcanonical : g.canonicalAddress vault = .ok payee)
    (hbuilt : g.buildUnsignedSwap mnemonic utxos vault amount none feeRate changeAddress
      sweep = .ok built) :
    buildAndVerifySend g vault amount mnemonic utxos feeRate changeAddress maxFee sweep
      = .ok { quote := none, built, plan := .send { recipient := payee, amount }
              problems := verifyBtcSend (g.outputs built) (g.fee built)
                { recipient := payee, amount } (ownedAddresses changeAddress utxos)
                maxFee } := by
  rw [buildAndVerifySend, hbuilt, ok_bind, hcanonical, ok_bind]

/-- **A hook that builds correctly agrees with its gate.** -/
theorem gatesAgree_of_hookLaw
    (hlaw : HookLaw g spent mnemonic utxos vault feeRate changeAddress)
    (hmax : g.memoMaxBytes = opReturnMaxBytes)
    (hne : g.canonicalAddress vault ≠ .ok changeAddress) :
    GatesAgree g spent mnemonic utxos vault feeRate changeAddress := by
  have hpayee : ∀ {payee}, g.canonicalAddress vault = .ok payee →
      payee ≠ changeAddress := by
    intro payee hcanonical heq
    exact hne (hcanonical.trans (congrArg Except.ok heq))
  constructor
  · intro amount maxFee sweep built hbuilt
    obtain ⟨payee, hcanonical, hcorrect⟩ := hlaw amount none sweep built hbuilt
    refine ⟨payee, _, hcanonical, buildAndVerifySend_ok hcanonical hbuilt, rfl, hcorrect,
      ?_⟩
    exact verifyBtcSend_correct (hpayee hcanonical) changeAddress_owned hcorrect
  · intro memo amount now maxFee sweep built hbuilt
    obtain ⟨payee, hcanonical, hcorrect⟩ := hlaw amount (some memo) sweep built hbuilt
    refine ⟨payee, _, hcanonical, buildAndVerifyDeposit_ok hcanonical hbuilt, rfl,
      hcorrect, ?_⟩
    rw [hmax]
    refine (verifyBtcSwap_correct (hpayee hcanonical) changeAddress_owned hcorrect).trans ?_
    -- the plan is live for an hour and names no destination
    exact ⟨fun h => h.2.2, fun h => ⟨by omega, rfl, h⟩⟩
  · intro quote request now maxFee sweep built hvault hbuilt
    obtain ⟨payee, hcanonical, hcorrect⟩ := hlaw _ _ sweep built hbuilt
    rw [← hvault] at hbuilt hcanonical
    refine ⟨payee, _, hvault ▸ hcanonical, buildAndVerify_ok hcanonical hbuilt, rfl,
      hcorrect, ?_⟩
    rw [hmax]
    rw [hvault] at hcanonical
    exact verifyBtcSwap_correct (hpayee hcanonical) changeAddress_owned hcorrect

end Agree

/-- The hook of BTC and DASH builds correctly. -/
theorem utxoBuilder_hookLaw {κ : Type} {ad : UtxoAdapter κ} (hcodec : AddressCodec ad)
    {mnemonic vault changeAddress : String} {utxos : List Utxo} {feeRate : ℚ}
    (hrate : 0 ≤ feeRate) (hchange : changeAddress ≠ "") :
    HookLaw (utxoBuilder ad) (fun built => SwapsackSelection.sumValues built.inputs)
      mnemonic utxos vault feeRate changeAddress := by
  intro amount memo sweep built hbuilt
  have hcorrect := SwapsackUtxo.buildUnsignedSwap_outputs hcodec hrate hbuilt
  obtain ⟨-, -, -, -, -, -, -, -, -, -, -, hkept⟩ :=
    SwapsackUtxo.buildUnsignedSwap_steps hbuilt
  have hor : orText (some changeAddress) "" = changeAddress := by
    rw [orText, if_neg hchange]
  rw [hor] at hkept
  rw [hkept hchange] at hcorrect
  exact ⟨vault, rfl, hcorrect⟩

/-- The hook of ZEC builds correctly. -/
theorem zecBuilder_hookLaw [PyUnicode] {ad : ZecAdapter} (hb58 : ad.base58.Inverse)
    {mnemonic vault changeAddress : String} {utxos : List Utxo} {feeRate : ℚ}
    (htxids : TxidsWellFormed utxos)
    (hchange : canonicalAddress ad.base58 changeAddress = .ok changeAddress) :
    HookLaw (zecBuilder ad) (fun built => (built.spent.map Prod.snd).sum) mnemonic utxos
      vault feeRate changeAddress := by
  intro amount memo sweep built hbuilt
  exact SwapsackZcash.buildUnsignedSwap_outputs hb58 htxids hchange hbuilt

/-- **Builders and gates agree.**  For BTC and DASH, and for ZEC: whenever the
    builder returns, every wrapper returns its build, the outputs its gate reads
    are the payment, the memo and the change, and the gate's list is empty
    exactly when the fee is within bounds — and, for a quoted swap, the quote is
    live and the memo pays the destination. -/
theorem builders_agree_with_gates [PyUnicode] :
    (∀ {κ : Type} (ad : UtxoAdapter κ) (mnemonic vault changeAddress : String)
        (utxos : List Utxo) (feeRate : ℚ),
      AddressCodec ad → 0 ≤ feeRate → changeAddress ≠ "" → vault ≠ changeAddress →
      GatesAgree (utxoBuilder ad) (fun built => SwapsackSelection.sumValues built.inputs)
        mnemonic utxos vault feeRate changeAddress)
    ∧ ∀ (ad : ZecAdapter) (mnemonic vault changeAddress : String) (utxos : List Utxo)
        (feeRate : ℚ),
      ad.base58.Inverse → TxidsWellFormed utxos →
      canonicalAddress ad.base58 changeAddress = .ok changeAddress →
      canonicalAddress ad.base58 vault ≠ .ok changeAddress →
      GatesAgree (zecBuilder ad) (fun built => (built.spent.map Prod.snd).sum)
        mnemonic utxos vault feeRate changeAddress := by
  constructor
  · intro κ ad mnemonic vault changeAddress utxos feeRate hcodec hrate hchange hne
    refine gatesAgree_of_hookLaw (utxoBuilder_hookLaw hcodec hrate hchange) rfl ?_
    intro h
    exact hne (Except.ok.inj h)
  · intro ad mnemonic vault changeAddress utxos feeRate hb58 htxids hchange hne
    exact gatesAgree_of_hookLaw (zecBuilder_hookLaw hb58 htxids hchange) rfl hne

open SwapsackUtxo in
open SwapsackZcash in
/-- A quoted swap from each of two wallets, the second to a TEX vault. -/
theorem builders_agree_with_gates_wallets :
    (∃ built, (utxoBuilder twoAddressWallet).buildUnsignedSwap "seed" walletCoins
          "bc1qw508d6qejxtdg4y5r3zarvary0c5xw7kv8f3t4" 20000 none 3
          "bc1q8c6fshw2dlwun7ekn9qwf37cu2rn755upcp6el" false = .ok built
      ∧ Agrees (utxoBuilder twoAddressWallet)
          (fun built => SwapsackSelection.sumValues built.inputs)
          "bc1qw508d6qejxtdg4y5r3zarvary0c5xw7kv8f3t4"
          "bc1q8c6fshw2dlwun7ekn9qwf37cu2rn755upcp6el"
          (buildAndVerifySend (utxoBuilder twoAddressWallet)
            "bc1qw508d6qejxtdg4y5r3zarvary0c5xw7kv8f3t4" 20000 "seed" walletCoins 3
            "bc1q8c6fshw2dlwun7ekn9qwf37cu2rn755upcp6el" 1000 false)
          built 20000 none (built.fee ≤ 1000))
    ∧ ∃ built, (@zecBuilder asciiUnicode twoAddressZec).buildUnsignedSwap "seed" zecCoins
          vaultTex 20000 (some (.text "=:e:0xdead")) 0 changeT1 false = .ok built
      ∧ Agrees (@zecBuilder asciiUnicode twoAddressZec)
          (fun built => (built.spent.map Prod.snd).sum) vaultTex changeT1
          (@buildAndVerifyDeposit asciiUnicode _ (@zecBuilder asciiUnicode twoAddressZec)
            vaultTex (.text "=:e:0xdead") 20000 7 "seed" zecCoins 0 changeT1 20000 false)
          built 20000 (some (.text "=:e:0xdead")) (built.fee ≤ 20000) := by
  let _ : PyUnicode := asciiUnicode
  have hutxo : ((utxoBuilder twoAddressWallet).buildUnsignedSwap "seed" walletCoins
      "bc1qw508d6qejxtdg4y5r3zarvary0c5xw7kv8f3t4" 20000 none 3
      "bc1q8c6fshw2dlwun7ekn9qwf37cu2rn755upcp6el" false).isOk = true := by decide +kernel
  have hzec : ((zecBuilder twoAddressZec).buildUnsignedSwap "seed" zecCoins
      vaultTex 20000 (some (.text "=:e:0xdead")) 0 changeT1 false).isOk = true := by
    decide +kernel
  obtain ⟨built, hbuilt⟩ := exists_of_isOk hutxo
  obtain ⟨zec, hzecBuilt⟩ := exists_of_isOk hzec
  refine ⟨⟨built, hbuilt, ?_⟩, zec, hzecBuilt, ?_⟩
  · exact (builders_agree_with_gates.1 twoAddressWallet "seed" _ _
      walletCoins 3 twoAddressWallet_codec (by norm_num) (by decide) (by decide)).send
      20000 1000 false built hbuilt
  · have hvault : canonicalAddress twoAddressZec.base58 vaultTex
        ≠ .ok changeT1 := by decide +kernel
    exact (builders_agree_with_gates.2 twoAddressZec "seed" vaultTex
      changeT1 zecCoins 0 twoAddressBase58_inverse zecCoins_wellFormed rfl hvault).deposit
      _ 20000 7 20000 false zec hzecBuilt

end SwapsackGated
