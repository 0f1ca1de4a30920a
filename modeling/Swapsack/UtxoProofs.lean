import Swapsack.SelectionProofs
import Swapsack.PyTextProofs

/-! # Building UTXO spends

    BTC and DASH build through one code path: choose the coins, add an input
    for each, pay the vault, carry the memo, return the change — and read the
    outputs back out of the scripts for the gates.  Keys and addresses come
    from the chain library and are parameters of the adapter.

    * `buildUnsignedSwap_steps` — what a returned build was made of;
    * `buildUnsignedSwap_outputs` — what the gates read from it: the payment,
      the memo if any, and the change if any;
    * `selection_and_build_sound` — what a selection promises, and that the
      builder spends exactly what was selected at the fee it reports. -/

namespace SwapsackUtxo

open ListKit ByteString PyText SwapsackBase SwapsackCoins SwapsackSelection

/-- The largest nSequence that still signals BIP125 replace-by-fee. -/
def rbfSequence : ℤ := 0xFFFFFFFD

/-! ## Transactions of the chain library -/

/-- An input, with the coin's value and the key that signs it. -/
structure TxInput (κ : Type) where
  prevTxid : String
  outputN : ℤ
  value : ℤ
  key : κ
  sequence : ℤ

/-- An output: its value, its script, and the address the library shows for it. -/
structure LibOutput where
  value : ℤ
  lockScript : Bytes
  address : String
deriving DecidableEq

/-- A transaction of the chain library. -/
structure Transaction (κ : Type) where
  inputs : List (TxInput κ)
  outputs : List LibOutput

/-- What an adapter brings: its script flavour, and the chain library's keys
    and address codec.  A refused address has no script. -/
structure UtxoAdapter (κ : Type) where
  script : ScriptParams
  defaultDerivation : String
  hdkey : String → String → Except PyError κ
  deriveAddress : String → String → Except PyError String
  addressScript : String → Option Bytes
  scriptAddress : Bytes → String

/-- The address codec of the library: an address is read back from its script,
    and no address is paid by an OP_RETURN script. -/
structure AddressCodec {κ : Type} (ad : UtxoAdapter κ) : Prop where
  address_of_script : ∀ {a s}, ad.addressScript a = some s → ad.scriptAddress s = a
  not_opReturn : ∀ {a s}, ad.addressScript a = some s →
    s.take 1 ≠ [opReturnOpcode]

/-- A built swap: the transaction, what it pays, its fee and the coins it spends. -/
structure BuiltSwap (κ : Type) where
  tx : Transaction κ
  outputs : List TxOutput
  fee : ℤ
  changeAddress : String
  keys : List κ
  inputs : List Utxo

/-! ## The builder -/

section Builder

variable {κ : Type} (ad : UtxoAdapter κ)

/-- The neutral form of one output, classified by the opcode. -/
def extractOutput (o : LibOutput) : Except PyError TxOutput :=
  if o.lockScript.take 1 = [opReturnOpcode] then do
    let data ← decodeOpReturn o.lockScript
    .ok { address := none, value := o.value, opReturnData := some data }
  else .ok { address := some o.address, value := o.value }

/-- The outputs, as the gate sees them. -/
def extractOutputs (tx : Transaction κ) : Except PyError (List TxOutput) :=
  tx.outputs.mapM extractOutput

/-- The coins to spend, the fee and the change: a sweep spends everything, and
    its fee is whatever is left over the vault output. -/
def chooseInputs (selection : Except PyError Selection) (utxos : List Utxo)
    (amount : ℤ) (sweep : Bool) : Except PyError (List Utxo × ℤ × ℤ) :=
  if sweep then
    let fee := sumValues utxos - amount
    if fee < 0 then .error (.insufficientFunds s!"amount {amount} exceeds balance")
    else .ok (utxos, fee, 0)
  else do
    let sel ← selection
    .ok (sel.utxos, sel.fee, sel.change)

/-- An input that spends a coin, replaceable. -/
def addInput (mnemonic defaultPath : String) (utxo : Utxo) :
    Except PyError (TxInput κ) := do
  let key ← ad.hdkey mnemonic (orText utxo.path defaultPath)
  .ok { prevTxid := utxo.txid, outputN := utxo.vout, value := utxo.value, key
        sequence := rbfSequence }

/-- `tx.add_output(value, address=address)`; the library needs an address. -/
def addOutput (value : ℤ) (address : Option String) : Except PyError LibOutput :=
  match address with
  | none => .error .library
  | some a =>
      match ad.addressScript a with
      | none => .error .library
      | some s => .ok { value, lockScript := s, address := ad.scriptAddress s }

/-- `tx.add_output(value, lock_script=encode_op_return(data))`. -/
def addOpReturn (value : ℤ) (data : Bytes) : Except PyError LibOutput := do
  let script ← encodeOpReturn data
  .ok { value, lockScript := script, address := ad.scriptAddress script }

/-- The OP_RETURN output of a memo; a plain send has none. -/
def memoOutputs (memo : Option Memo) : Except PyError (List LibOutput) :=
  match memo with
  | none => .ok []
  | some _ => do
      let o ← addOpReturn ad 0 (memoBytes memo)
      .ok [o]

/-- The change output, when there is change. -/
def changeOutputs (change : ℤ) (changeAddress : String) :
    Except PyError (List LibOutput) :=
  if 0 < change then do
    let o ← addOutput ad change (some changeAddress)
    .ok [o]
  else .ok []

/-- `change_address or self.derive_address(mnemonic, default_path)`. -/
def resolveChange (mnemonic path : String) (changeAddress : Option String) :
    Except PyError String :=
  match orText changeAddress "" with
  | "" => ad.deriveAddress mnemonic path
  | address => .ok address

/-- Build the unsigned transaction paying `amount` to `vaultAddress`. -/
def buildUnsignedSwap (mnemonic : String) (utxos : List Utxo) (vaultAddress : String)
    (amount : ℤ) (memo : Option Memo) (feeRate : ℚ)
    (changeAddress defaultPath : Option String) (sweep : Bool) :
    Except PyError (BuiltSwap κ) := do
  let path := orText defaultPath ad.defaultDerivation
  let changeAddress ← resolveChange ad mnemonic path changeAddress
  let payload := memoBytes memo
  let (chosen, fee, change) ←
    chooseInputs (selectCoins utxos amount feeRate payload.length ad.script) utxos
      amount sweep
  let inputs ← chosen.mapM (addInput ad mnemonic path)
  let vault ← addOutput ad amount (some vaultAddress)
  let memoOuts ← memoOutputs ad memo
  let changeOuts ← changeOutputs ad change changeAddress
  let tx : Transaction κ := { inputs, outputs := vault :: memoOuts ++ changeOuts }
  let outputs ← extractOutputs tx
  .ok { tx, outputs, fee, changeAddress, keys := inputs.map TxInput.key
        inputs := chosen }

end Builder

/-! ## What a build is made of -/

section Built

variable {κ : Type} {ad : UtxoAdapter κ} {mnemonic vaultAddress : String}
  {utxos : List Utxo} {amount : ℤ} {memo : Option Memo} {feeRate : ℚ}
  {changeAddress defaultPath : Option String} {sweep : Bool} {built : BuiltSwap κ}

/-- **The steps behind a returned build.** -/
theorem buildUnsignedSwap_steps
    (h : buildUnsignedSwap ad mnemonic utxos vaultAddress amount memo feeRate
      changeAddress defaultPath sweep = .ok built) :
    ∃ change vault memoOuts changeOuts,
      chooseInputs (selectCoins utxos amount feeRate (memoBytes memo).length ad.script)
          utxos amount sweep = .ok (built.inputs, built.fee, change)
      ∧ built.inputs.mapM (addInput ad mnemonic (orText defaultPath ad.defaultDerivation))
          = .ok built.tx.inputs
      ∧ addOutput ad amount (some vaultAddress) = .ok vault
      ∧ memoOutputs ad memo = .ok memoOuts
      ∧ changeOutputs ad change built.changeAddress = .ok changeOuts
      ∧ built.tx.outputs = vault :: memoOuts ++ changeOuts
      ∧ extractOutputs built.tx = .ok built.outputs
      ∧ (orText changeAddress "" ≠ "" →
          built.changeAddress = orText changeAddress "") := by
  rw [buildUnsignedSwap] at h
  obtain ⟨addr, haddr, h⟩ := bind_eq_ok h
  obtain ⟨⟨chosen, fee, change⟩, hchosen, h⟩ := bind_eq_ok h
  obtain ⟨inputs, hinputs, h⟩ := bind_eq_ok h
  obtain ⟨vault, hvault, h⟩ := bind_eq_ok h
  obtain ⟨memoOuts, hmemo, h⟩ := bind_eq_ok h
  obtain ⟨changeOuts, hchange, h⟩ := bind_eq_ok h
  obtain ⟨outputs, houtputs, h⟩ := bind_eq_ok h
  cases h
  refine ⟨change, vault, memoOuts, changeOuts, hchosen, hinputs, hvault, hmemo,
    hchange, rfl, houtputs, ?_⟩
  intro hne
  rw [resolveChange] at haddr
  split at haddr
  · rename_i hempty
    exact absurd hempty hne
  · exact (Except.ok.inj haddr).symm

/-- An output that is added pays the script of its address. -/
theorem addOutput_ok {value : ℤ} {address : String} {o : LibOutput}
    (h : addOutput ad value (some address) = .ok o) :
    ∃ s, ad.addressScript address = some s
      ∧ o = { value, lockScript := s, address := ad.scriptAddress s } := by
  rw [addOutput] at h
  cases hs : ad.addressScript address with
  | none => rw [hs] at h; exact nomatch h
  | some s =>
      rw [hs] at h
      exact ⟨s, rfl, (Except.ok.inj h).symm⟩

/-- There is a data output exactly when there is a memo. -/
theorem memoOutputs_ok {os : List LibOutput} (h : memoOutputs ad memo = .ok os) :
    (memo = none ∧ os = [])
      ∨ ∃ script, memo.isSome = true ∧ encodeOpReturn (memoBytes memo) = .ok script
        ∧ os = [{ value := 0, lockScript := script
                  address := ad.scriptAddress script }] := by
  cases memo with
  | none => exact Or.inl ⟨rfl, (Except.ok.inj h).symm⟩
  | some m =>
      obtain ⟨o, ho, h⟩ := bind_eq_ok h
      obtain ⟨script, hscript, ho⟩ := bind_eq_ok ho
      cases ho
      cases h
      exact Or.inr ⟨script, rfl, hscript, rfl⟩

/-- There is change exactly when there is something left. -/
theorem changeOutputs_ok {change : ℤ} {address : String} {os : List LibOutput}
    (h : changeOutputs ad change address = .ok os) :
    (change ≤ 0 ∧ os = [])
      ∨ (0 < change ∧ ∃ o, addOutput ad change (some address) = .ok o ∧ os = [o]) := by
  rw [changeOutputs] at h
  by_cases hpos : 0 < change
  · rw [if_pos hpos] at h
    obtain ⟨o, ho, h⟩ := bind_eq_ok h
    exact Or.inr ⟨hpos, o, ho, (Except.ok.inj h).symm⟩
  · rw [if_neg hpos] at h
    exact Or.inl ⟨not_lt.mp hpos, (Except.ok.inj h).symm⟩

/-- The two ways coins are chosen: all of them on a sweep, else as selected. -/
theorem chooseInputs_cases {selection : Except PyError Selection} {chosen : List Utxo}
    {fee change : ℤ}
    (h : chooseInputs selection utxos amount sweep = .ok (chosen, fee, change)) :
    (sweep = true ∧ chosen = utxos ∧ fee = sumValues utxos - amount ∧ 0 ≤ fee
        ∧ change = 0)
      ∨ (sweep = false ∧ ∃ sel, selection = .ok sel ∧ chosen = sel.utxos
        ∧ fee = sel.fee ∧ change = sel.change) := by
  rw [chooseInputs] at h
  cases sweep with
  | true =>
      rw [if_pos rfl] at h
      dsimp only at h
      split at h
      · exact nomatch h
      · rename_i hfee
        cases h
        exact Or.inl ⟨rfl, rfl, rfl, not_lt.mp hfee, rfl⟩
  | false =>
      rw [if_neg (by decide)] at h
      obtain ⟨sel, hsel, h⟩ := bind_eq_ok h
      obtain ⟨hutxos, hrest⟩ := Prod.mk.inj (Except.ok.inj h)
      obtain ⟨hfee, hchange⟩ := Prod.mk.inj hrest
      exact Or.inr ⟨rfl, sel, hsel, hutxos.symm, hfee.symm, hchange.symm⟩

/-- What is chosen splits into the amount, the change and the fee, neither of
    which is negative, as long as that is so for what the selection returns. -/
theorem chooseInputs_spec {selection : Except PyError Selection} {chosen : List Utxo}
    {fee change : ℤ}
    (hsel : ∀ sel, selection = .ok sel →
      sumValues sel.utxos = amount + sel.change + sel.fee ∧ 0 ≤ sel.change
        ∧ 0 ≤ sel.fee)
    (h : chooseInputs selection utxos amount sweep = .ok (chosen, fee, change)) :
    sumValues chosen = amount + change + fee ∧ 0 ≤ change ∧ 0 ≤ fee := by
  rcases chooseInputs_cases h with ⟨-, rfl, rfl, hfee, rfl⟩ | ⟨-, sel, hok, rfl, rfl, rfl⟩
  · exact ⟨by omega, le_refl _, hfee⟩
  · exact hsel sel hok

/-- What a selection under a fee rate returns, as the builder needs it. -/
theorem selectCoins_balance {memoLen : ℕ} {script : ScriptParams} (hrate : 0 ≤ feeRate) :
    ∀ sel, selectCoins utxos amount feeRate memoLen script = .ok sel →
      sumValues sel.utxos = amount + sel.change + sel.fee ∧ 0 ≤ sel.change
        ∧ 0 ≤ sel.fee := by
  intro sel h
  have hsound := selectCoins_sound hrate h
  have hdust := hsound.change_dust
  have hfee := hsound.fee_covers
  have hnonneg := rateFee_nonneg hrate memoLen script sel.utxos
    (if 0 < sel.change then 2 else 1)
  exact ⟨hsound.conserved, by omega, by omega⟩

/-- Every coin chosen becomes one input, spending its outpoint. -/
theorem addInputs_outpoints {path : String} :
    ∀ {us : List Utxo} {is : List (TxInput κ)}, us.mapM (addInput ad mnemonic path) = .ok is →
      is.map (fun i => (i.prevTxid, i.outputN, i.value, i.sequence))
        = us.map fun u => (u.txid, u.vout, u.value, rbfSequence) := by
  intro us is h
  have hall := mapM_ok_forall₂ h
  clear h
  induction hall with
  | nil => rfl
  | cons hi _ ih =>
      obtain ⟨key, -, hi⟩ := bind_eq_ok hi
      cases hi
      rw [List.map_cons, List.map_cons, ih]

/-- The outputs of a build are worth the amount and the change. -/
theorem built_outputs_value {change : ℤ} {vault : LibOutput}
    {memoOuts changeOuts : List LibOutput} {address : String} (hpos : 0 ≤ change)
    (hvault : addOutput ad amount (some vaultAddress) = .ok vault)
    (hmemo : memoOutputs ad memo = .ok memoOuts)
    (hchange : changeOutputs ad change address = .ok changeOuts) :
    ((vault :: memoOuts ++ changeOuts).map LibOutput.value).sum = amount + change := by
  obtain ⟨s, -, rfl⟩ := addOutput_ok hvault
  have hmemoValue : (memoOuts.map LibOutput.value).sum = 0 := by
    rcases memoOutputs_ok hmemo with ⟨-, rfl⟩ | ⟨script, -, -, rfl⟩
    · rfl
    · rfl
  have hchangeValue : (changeOuts.map LibOutput.value).sum = change := by
    rcases changeOutputs_ok hchange with ⟨hle, rfl⟩ | ⟨-, o, ho, rfl⟩
    · show (0 : ℤ) = change
      omega
    · obtain ⟨s', -, rfl⟩ := addOutput_ok ho
      exact add_zero change
  rw [List.cons_append, List.map_cons, List.sum_cons, List.map_append,
    List.sum_append, hmemoValue, hchangeValue, zero_add]

/-- **The builder reports the fee it pays.** -/
theorem buildUnsignedSwap_fee (hrate : 0 ≤ feeRate)
    (h : buildUnsignedSwap ad mnemonic utxos vaultAddress amount memo feeRate
      changeAddress defaultPath sweep = .ok built) :
    built.fee = sumValues built.inputs - (built.tx.outputs.map LibOutput.value).sum := by
  obtain ⟨change, vault, memoOuts, changeOuts, hchosen, -, hvault, hmemo, hchange,
    houts, -, -⟩ := buildUnsignedSwap_steps h
  obtain ⟨hbalance, hpos, -⟩ := chooseInputs_spec (selectCoins_balance hrate) hchosen
  rw [houts, built_outputs_value hpos hvault hmemo hchange]
  omega

/-! ## What the gates read from a build -/

/-- The outputs of a build in neutral form: the payment, the memo if there is
    one, and the change if there is any. -/
def builtOutputs (payee : String) (amount : ℤ) (memo : Option Memo) (change : ℤ)
    (changeAddress : String) : List TxOutput :=
  { address := some payee, value := amount }
    :: (if memo.isSome then
          [{ address := none, value := 0, opReturnData := some (memoBytes memo) }]
        else [])
    ++ (if 0 < change then [{ address := some changeAddress, value := change }] else [])

/-- A build as the gates must find it: the outputs are the payment, the memo
    and the change; the memo fits; what was spent is what is paid, returned and
    left as the fee, which is not negative. -/
structure CorrectBuild (spent : ℤ) (outputs : List TxOutput) (fee : ℤ) (payee : String)
    (amount : ℤ) (memo : Option Memo) (changeAddress : String) : Prop where
  memo_fits : (memoBytes memo).length ≤ opReturnMaxBytes
  fee_nonneg : 0 ≤ fee
  outputs_eq : ∃ change, 0 ≤ change ∧ spent = amount + change + fee
    ∧ outputs = builtOutputs payee amount memo change changeAddress

/-- An output to an address is read as paying that address. -/
theorem extractOutput_addOutput (hcodec : AddressCodec ad) {value : ℤ} {address : String}
    {o : LibOutput} (h : addOutput ad value (some address) = .ok o) :
    extractOutput o = .ok { address := some address, value } := by
  obtain ⟨s, hs, rfl⟩ := addOutput_ok h
  rw [extractOutput, if_neg (hcodec.not_opReturn hs), hcodec.address_of_script hs]

/-- The memo outputs are read as the memo's bytes. -/
theorem extractOutputs_memo {os : List LibOutput} (h : memoOutputs ad memo = .ok os) :
    os.mapM extractOutput = .ok (if memo.isSome then
        [{ address := none, value := 0, opReturnData := some (memoBytes memo) }]
      else []) := by
  rcases memoOutputs_ok h with ⟨rfl, rfl⟩ | ⟨script, hsome, hscript, rfl⟩
  · rfl
  · have hopcode : script.take 1 = [opReturnOpcode] := by
      rcases encodeOpReturn_cases hscript with ⟨-, rfl⟩ | ⟨-, -, rfl⟩
      · rfl
      · rfl
    rw [if_pos hsome, List.mapM_cons, extractOutput, if_pos hopcode,
      decodeOpReturn_encodeOpReturn hscript]
    rfl

/-- The change is read back at its own address. -/
theorem extractOutputs_change (hcodec : AddressCodec ad) {change : ℤ} {address : String}
    {os : List LibOutput} (h : changeOutputs ad change address = .ok os) :
    os.mapM extractOutput = .ok (if 0 < change then
      [{ address := some address, value := change }] else []) := by
  rcases changeOutputs_ok h with ⟨hle, rfl⟩ | ⟨hpos, o, ho, rfl⟩
  · rw [if_neg (not_lt.mpr hle)]
    rfl
  · rw [if_pos hpos, List.mapM_cons, extractOutput_addOutput hcodec ho]
    rfl

/-- A memo that is written fits a data output. -/
theorem memoOutputs_fits {os : List LibOutput} (h : memoOutputs ad memo = .ok os) :
    (memoBytes memo).length ≤ opReturnMaxBytes := by
  rcases memoOutputs_ok h with ⟨rfl, -⟩ | ⟨script, -, hscript, -⟩
  · exact Nat.zero_le _
  · exact encodeOpReturn_length_le hscript

/-- **What a returned build is, to a gate.** -/
theorem buildUnsignedSwap_outputs (hcodec : AddressCodec ad) (hrate : 0 ≤ feeRate)
    (h : buildUnsignedSwap ad mnemonic utxos vaultAddress amount memo feeRate
      changeAddress defaultPath sweep = .ok built) :
    CorrectBuild (sumValues built.inputs) built.outputs built.fee vaultAddress amount
      memo built.changeAddress := by
  obtain ⟨change, vault, memoOuts, changeOuts, hchosen, -, hvault, hmemo, hchange,
    houts, hextract, -⟩ := buildUnsignedSwap_steps h
  obtain ⟨hbalance, hpos, hfee⟩ := chooseInputs_spec (selectCoins_balance hrate) hchosen
  refine ⟨memoOutputs_fits hmemo, hfee, change, hpos, hbalance, ?_⟩
  rw [extractOutputs, houts, List.cons_append, List.mapM_cons,
    extractOutput_addOutput hcodec hvault, List.mapM_append, extractOutputs_memo hmemo,
    extractOutputs_change hcodec hchange] at hextract
  exact (Except.ok.inj hextract).symm

end Built

/-- **Selection conserves money and the builder spends what was selected.**
    Under both fee models a returned selection is sound; a returned build
    spends exactly the selected coins, or on a sweep all of them, and reports
    as its fee what its inputs hold over its outputs. -/
theorem selection_and_build_sound :
    (∀ (utxos : List Utxo) (sendAmount : ℤ) (feeRate : ℚ) (memoLen : ℕ)
        (script : ScriptParams) (sel : Selection), 0 ≤ feeRate →
      selectCoins utxos sendAmount feeRate memoLen script = .ok sel →
      SelectionSound utxos sendAmount script.dust (rateFee feeRate memoLen script) sel)
    ∧ (∀ (utxos : List Utxo) (sendAmount : ℤ) (memoLen dust : ℕ) (sel : Selection),
      selectCoinsZip317 utxos sendAmount memoLen dust = .ok sel →
      SelectionSound utxos sendAmount dust (actionFee memoLen) sel)
    ∧ ∀ {κ : Type} (ad : UtxoAdapter κ) (mnemonic : String) (utxos : List Utxo)
        (vaultAddress : String) (amount : ℤ) (memo : Option Memo) (feeRate : ℚ)
        (changeAddress defaultPath : Option String) (sweep : Bool)
        (built : BuiltSwap κ), 0 ≤ feeRate →
      buildUnsignedSwap ad mnemonic utxos vaultAddress amount memo feeRate
          changeAddress defaultPath sweep = .ok built →
      (if sweep then built.inputs = utxos
        else ∃ sel, selectCoins utxos amount feeRate (memoBytes memo).length ad.script
            = .ok sel ∧ built.inputs = sel.utxos ∧ built.fee = sel.fee)
      ∧ built.tx.inputs.map (fun i => (i.prevTxid, i.outputN, i.value, i.sequence))
          = built.inputs.map (fun u => (u.txid, u.vout, u.value, rbfSequence))
      ∧ built.fee
          = sumValues built.inputs - (built.tx.outputs.map LibOutput.value).sum := by
  refine ⟨?_, ?_, ?_⟩
  · intro utxos sendAmount feeRate memoLen script sel hrate h
    exact selectCoins_sound hrate h
  · intro utxos sendAmount memoLen dust sel h
    exact selectCoinsZip317_sound h
  · intro κ ad mnemonic utxos vaultAddress amount memo feeRate changeAddress
      defaultPath sweep built hrate h
    obtain ⟨change, vault, memoOuts, changeOuts, hchosen, hinputs, -, -, -, -, -, -⟩ :=
      buildUnsignedSwap_steps h
    refine ⟨?_, addInputs_outpoints hinputs, buildUnsignedSwap_fee hrate h⟩
    rcases chooseInputs_cases hchosen with ⟨rfl, hutxos, -⟩ | ⟨rfl, sel, hsel, hutxos, hfee, -⟩
    · exact hutxos
    · exact ⟨sel, hsel, hutxos, hfee⟩

/-! ## A wallet with two addresses -/

/-- The scripts of the vault and of the change. -/
def vaultScript : Bytes :=
  [0x00, 0x14, 0x75, 0x1e, 0x76, 0xe8, 0x19, 0x91, 0x96, 0xd4, 0x54, 0x94, 0x1c, 0x45,
   0xd1, 0xb3, 0xa3, 0x23, 0xf1, 0x43, 0x3b, 0xd6]

def changeScript : Bytes :=
  [0x00, 0x14, 0x3e, 0x34, 0x98, 0x5d, 0xca, 0x6f, 0xdd, 0xc9, 0xfb, 0x36, 0x99, 0x40,
   0xe4, 0xc7, 0xd8, 0xe2, 0x87, 0x3f, 0x52, 0x9c]

/-- A native segwit wallet that knows the scripts of two addresses. -/
def twoAddressWallet : UtxoAdapter Unit where
  script := p2wpkh
  defaultDerivation := "m/84'/0'/0'/0/0"
  hdkey _ _ := .ok ()
  deriveAddress _ _ := .ok "bc1q8c6fshw2dlwun7ekn9qwf37cu2rn755upcp6el"
  addressScript a :=
    if a = "bc1qw508d6qejxtdg4y5r3zarvary0c5xw7kv8f3t4" then some vaultScript
    else if a = "bc1q8c6fshw2dlwun7ekn9qwf37cu2rn755upcp6el" then some changeScript
    else none
  scriptAddress s :=
    if s = vaultScript then "bc1qw508d6qejxtdg4y5r3zarvary0c5xw7kv8f3t4"
    else if s = changeScript then "bc1q8c6fshw2dlwun7ekn9qwf37cu2rn755upcp6el"
    else ""

/-- The codec of the two addresses reads them back. -/
theorem twoAddressWallet_codec : AddressCodec twoAddressWallet := by
  constructor
  · intro a s h
    dsimp only [twoAddressWallet] at h ⊢
    split at h
    · cases h
      rw [if_pos rfl]
      exact Eq.symm ‹_›
    · split at h
      · cases h
        rw [if_neg (by decide), if_pos rfl]
        exact Eq.symm ‹_›
      · exact nomatch h
  · intro a s h
    dsimp only [twoAddressWallet] at h
    split at h
    · cases h
      decide
    · split at h
      · cases h
        decide
      · exact nomatch h

/-- Two coins on the change address. -/
def walletCoins : List Utxo :=
  [{ txid := "aa", vout := 0, value := 9000
     address := "bc1q8c6fshw2dlwun7ekn9qwf37cu2rn755upcp6el" },
   { txid := "bb", vout := 1, value := 30000
     address := "bc1q8c6fshw2dlwun7ekn9qwf37cu2rn755upcp6el" }]

theorem selection_and_build_sound_wallet :
    ∃ built, buildUnsignedSwap twoAddressWallet "seed" walletCoins
        "bc1qw508d6qejxtdg4y5r3zarvary0c5xw7kv8f3t4" 20000 (some (.text "=:e:0xdead"))
        3 none none false = .ok built
      ∧ built.fee
          = sumValues built.inputs - (built.tx.outputs.map LibOutput.value).sum := by
  have hok : (buildUnsignedSwap twoAddressWallet "seed" walletCoins
      "bc1qw508d6qejxtdg4y5r3zarvary0c5xw7kv8f3t4" 20000 (some (.text "=:e:0xdead"))
      3 none none false).isOk = true := by decide +kernel
  obtain ⟨built, hbuilt⟩ := exists_of_isOk hok
  exact ⟨built, hbuilt, (selection_and_build_sound.2.2 _ _ _ _ _ _ _ _ _ _ _
    (by norm_num) hbuilt).2.2⟩

end SwapsackUtxo
