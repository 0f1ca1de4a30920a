import Swapsack.UtxoProofs
import Swapsack.ZcashTxProofs

/-! # Building Zcash spends

    ZEC is built by the wallet itself: the coins are chosen under the ZIP-317
    fee, the v4 transaction is serialized, and the outputs the gate sees are
    parsed back from those bytes.  Derivation and the two live reads are
    parameters of the adapter.

    * `buildUnsignedSwap_steps` — what a returned build was made of;
    * `buildUnsignedSwap_outputs` — what the gates read from it: the payment to
      the canonical form of the vault, the memo if any, the change if any. -/

namespace SwapsackZcash

open ListKit ByteString PyText SwapsackBase SwapsackCoins SwapsackSelection
open SwapsackZcashTx
open SwapsackUtxo (chooseInputs chooseInputs_cases chooseInputs_spec builtOutputs
  CorrectBuild)

def defaultDerivation : String := "m/44'/133'/0'/0/0"

/-- A broadcast transaction expires when it is unmined for this many blocks. -/
def expiryDelta : ℤ := 40

/-- What the adapter takes from outside: base58check, the chain's height and
    active consensus branch, and the private key at a path. -/
structure ZecAdapter where
  base58 : Base58
  latestHeight : Except PyError ℤ
  branchId : Except PyError ℤ
  deriveKey : String → String → Except PyError Bytes

/-- A built swap: the transaction, the coins it spends with their keys, and what it pays. -/
structure ZecBuilt where
  tx : TxV4
  spent : List (Bytes × ℤ)
  privkeys : List Bytes
  outputs : List TxOutput
  fee : ℤ
  changeAddress : String
  branchId : ℤ

/-! ## The builder -/

section Builder

variable [PyUnicode] (ad : ZecAdapter)

omit [PyUnicode] in
/-- The input spending a coin: its id in serialization order. -/
def buildInput (u : Utxo) : Except PyError TxIn :=
  match fromHex u.txid with
  | none => .error (.valueError "non-hexadecimal number found in fromhex() arg")
  | some id => .ok { prevTxid := id.reverse, vout := u.vout }

/-- An output that pays an address. -/
def buildOutput (value : ℤ) (address : String) : Except PyError TxOut := do
  let script ← addressToScript ad.base58 address
  .ok { value, script }

omit [PyUnicode] in

/-- The data output of a memo, worth nothing. -/
def memoOutputs (memo : Option Memo) : Except PyError (List TxOut) :=
  match memo with
  | none => .ok []
  | some _ => do
      let script ← encodeOpReturn (memoBytes memo)
      .ok [{ value := 0, script }]

/-- The change, if there is any. -/
def changeOutputs (change : ℤ) (changeAddress : String) : Except PyError (List TxOut) :=
  if 0 < change then do
    let o ← buildOutput ad change changeAddress
    .ok [o]
  else .ok []

/-- The script and the value of a coin that is spent. -/
def spentOutput (u : Utxo) : Except PyError (Bytes × ℤ) := do
  let script ← addressToScript ad.base58 u.address
  .ok (script, u.value)

omit [PyUnicode] in
/-- The neutral form of one parsed output. -/
def extractOutput (o : TxOut) : Except PyError TxOutput :=
  if o.script.take 1 = [opReturnOpcode] then do
    let data ← decodeOpReturn o.script
    .ok { address := scriptToAddress ad.base58 o.script, value := o.value
          opReturnData := some data }
  else .ok { address := scriptToAddress ad.base58 o.script, value := o.value }

/-- Build the unsigned transaction paying `amount` to `vaultAddress`. -/
def buildUnsignedSwap (mnemonic : String) (utxos : List Utxo) (vaultAddress : String)
    (amount : ℤ) (memo : Option Memo) (changeAddress : String) (sweep : Bool) :
    Except PyError ZecBuilt := do
  let payload := memoBytes memo
  let (chosen, fee, change) ←
    chooseInputs (selectCoinsZip317 utxos amount payload.length dustZec) utxos amount sweep
  let vault ← buildOutput ad amount vaultAddress
  let memoOuts ← memoOutputs memo
  let changeOuts ← changeOutputs ad change changeAddress
  let inputs ← chosen.mapM buildInput
  let height ← ad.latestHeight
  let tx : TxV4 := { inputs, outputs := vault :: memoOuts ++ changeOuts
                     expiryHeight := height + expiryDelta }
  let spent ← chosen.mapM (spentOutput ad)
  let privkeys ← chosen.mapM fun u => ad.deriveKey mnemonic (orText u.path defaultDerivation)
  let raw ← serializeV4 tx
  let parsed ← parseV4 raw
  let outputs ← parsed.outputs.mapM (extractOutput ad)
  let branchId ← ad.branchId
  .ok { tx, spent, privkeys, outputs, fee, changeAddress, branchId }

end Builder

/-! ## What a build is made of -/

section Built

variable [PyUnicode] {ad : ZecAdapter} {mnemonic vaultAddress changeAddress : String}
  {utxos : List Utxo} {amount : ℤ} {memo : Option Memo} {sweep : Bool} {built : ZecBuilt}

/-- The coins are named by transaction ids: 32 bytes in hexadecimal. -/
def TxidsWellFormed (utxos : List Utxo) : Prop :=
  ∀ u ∈ utxos, ∀ id, fromHex u.txid = some id → id.length = 32

/-- **The steps behind a returned build.** -/
theorem buildUnsignedSwap_steps
    (h : buildUnsignedSwap ad mnemonic utxos vaultAddress amount memo changeAddress
      sweep = .ok built) :
    ∃ chosen change vault memoOuts changeOuts raw parsed,
      chooseInputs (selectCoinsZip317 utxos amount (memoBytes memo).length dustZec)
          utxos amount sweep = .ok (chosen, built.fee, change)
      ∧ buildOutput ad amount vaultAddress = .ok vault
      ∧ memoOutputs memo = .ok memoOuts
      ∧ changeOutputs ad change changeAddress = .ok changeOuts
      ∧ chosen.mapM buildInput = .ok built.tx.inputs
      ∧ built.tx.outputs = vault :: memoOuts ++ changeOuts
      ∧ chosen.mapM (spentOutput ad) = .ok built.spent
      ∧ serializeV4 built.tx = .ok raw
      ∧ parseV4 raw = .ok parsed
      ∧ parsed.outputs.mapM (extractOutput ad) = .ok built.outputs := by
  rw [buildUnsignedSwap] at h
  obtain ⟨⟨chosen, fee, change⟩, hchosen, h⟩ := bind_eq_ok h
  obtain ⟨vault, hvault, h⟩ := bind_eq_ok h
  obtain ⟨memoOuts, hmemo, h⟩ := bind_eq_ok h
  obtain ⟨changeOuts, hchange, h⟩ := bind_eq_ok h
  obtain ⟨inputs, hinputs, h⟩ := bind_eq_ok h
  obtain ⟨height, -, h⟩ := bind_eq_ok h
  obtain ⟨spent, hspent, h⟩ := bind_eq_ok h
  obtain ⟨privkeys, -, h⟩ := bind_eq_ok h
  obtain ⟨raw, hraw, h⟩ := bind_eq_ok h
  obtain ⟨parsed, hparsed, h⟩ := bind_eq_ok h
  obtain ⟨outputs, houtputs, h⟩ := bind_eq_ok h
  obtain ⟨branchId, -, h⟩ := bind_eq_ok h
  cases h
  exact ⟨chosen, change, vault, memoOuts, changeOuts, raw, parsed, hchosen, hvault,
    hmemo, hchange, hinputs, rfl, hspent, hraw, hparsed, houtputs⟩

omit [PyUnicode] in
/-- What the ZIP-317 selection returns, as the builder needs it. -/
theorem selectCoinsZip317_balance {memoLen dust : ℕ} :
    ∀ sel, selectCoinsZip317 utxos amount memoLen dust = .ok sel →
      sumValues sel.utxos = amount + sel.change + sel.fee ∧ 0 ≤ sel.change
        ∧ 0 ≤ sel.fee := by
  intro sel h
  have hsound := selectCoinsZip317_sound h
  have hdust := hsound.change_dust
  have hfee := hsound.fee_covers
  have hnonneg := actionFee_nonneg memoLen sel.utxos (if 0 < sel.change then 2 else 1)
  exact ⟨hsound.conserved, by omega, by omega⟩

omit [PyUnicode] in
/-- Only coins on offer are chosen. -/
theorem chooseInputs_mem {memoLen dust : ℕ} {chosen : List Utxo} {fee change : ℤ}
    (h : chooseInputs (selectCoinsZip317 utxos amount memoLen dust) utxos amount sweep
      = .ok (chosen, fee, change)) : ∀ u ∈ chosen, u ∈ utxos := by
  intro u hu
  rcases chooseInputs_cases h with ⟨-, rfl, -⟩ | ⟨-, sel, hsel, rfl, -, -⟩
  · exact hu
  · exact (selectCoinsZip317_sound hsel).offered.subset hu

omit [PyUnicode] in
/-- Every input of a build of well-formed coins names a transaction id. -/
theorem buildInputs_txid {chosen : List Utxo} {inputs : List TxIn}
    (htxids : TxidsWellFormed chosen) (h : chosen.mapM buildInput = .ok inputs) :
    ∀ i ∈ inputs, i.prevTxid.length = 32 := by
  have hall := mapM_ok_forall₂ h
  clear h
  induction hall with
  | nil =>
      intro i hi
      exact nomatch hi
  | @cons u i us is hu _ ih =>
      intro j hj
      rcases List.mem_cons.mp hj with rfl | hj
      · rw [buildInput] at hu
        cases hid : fromHex u.txid with
        | none => rw [hid] at hu; exact nomatch hu
        | some id =>
            rw [hid] at hu
            cases hu
            show id.reverse.length = 32
            rw [List.length_reverse]
            exact htxids u List.mem_cons_self id hid
      · exact ih (fun v hv => htxids v (List.mem_cons_of_mem _ hv)) j hj

/-- What is recorded as spent is worth what was chosen. -/
theorem spentOutputs_value {chosen : List Utxo} {spent : List (Bytes × ℤ)}
    (h : chosen.mapM (spentOutput ad) = .ok spent) :
    (spent.map Prod.snd).sum = sumValues chosen := by
  have hall := mapM_ok_forall₂ h
  clear h
  induction hall with
  | nil => rfl
  | cons hu _ ih =>
      obtain ⟨script, -, hu⟩ := bind_eq_ok hu
      cases hu
      rw [List.map_cons, List.sum_cons, ih, sumValues, sumValues, List.map_cons,
        List.sum_cons]

/-- An output to an address is read as paying its canonical form. -/
theorem extractOutput_buildOutput (hb58 : ad.base58.Inverse) {value : ℤ}
    {address : String} {o : TxOut} (h : buildOutput ad value address = .ok o) :
    ∃ canonical, canonicalAddress ad.base58 address = .ok canonical
      ∧ extractOutput ad o = .ok { address := some canonical, value } := by
  obtain ⟨script, hscript, h⟩ := bind_eq_ok h
  cases h
  obtain ⟨canonical, hcanonical, hshown⟩ :=
    scriptToAddress_addressToScript ad.base58 hb58 hscript
  refine ⟨canonical, hcanonical, ?_⟩
  rw [extractOutput, if_neg (addressToScript_opcode ad.base58 hb58 hscript), hshown]

omit [PyUnicode] in

/-- There is a data output exactly when there is a memo. -/
theorem memoOutputs_ok {os : List TxOut} (h : memoOutputs memo = .ok os) :
    (memo = none ∧ os = [])
      ∨ ∃ script, memo.isSome = true ∧ encodeOpReturn (memoBytes memo) = .ok script
        ∧ os = [{ value := 0, script }] := by
  cases memo with
  | none => exact Or.inl ⟨rfl, (Except.ok.inj h).symm⟩
  | some m =>
      obtain ⟨script, hscript, h⟩ := bind_eq_ok h
      cases h
      exact Or.inr ⟨script, rfl, hscript, rfl⟩

omit [PyUnicode] in
/-- The memo outputs fit the limit and are read as the memo's bytes. -/
theorem extractOutputs_memo (ad : ZecAdapter) {os : List TxOut} (h : memoOutputs memo = .ok os) :
    (memoBytes memo).length ≤ opReturnMaxBytes
      ∧ os.mapM (extractOutput ad) = .ok (if memo.isSome then
          [{ address := none, value := 0, opReturnData := some (memoBytes memo) }]
        else []) := by
  rcases memoOutputs_ok h with ⟨rfl, rfl⟩ | ⟨script, hsome, hscript, rfl⟩
  · exact ⟨Nat.zero_le _, rfl⟩
  · have hshape : ∃ rest, script = opReturnOpcode :: rest := by
      rcases encodeOpReturn_cases hscript with ⟨-, rfl⟩ | ⟨-, -, rfl⟩
      · exact ⟨_, rfl⟩
      · exact ⟨_, rfl⟩
    refine ⟨encodeOpReturn_length_le hscript, ?_⟩
    have hdecode := decodeOpReturn_encodeOpReturn hscript
    obtain ⟨rest, rfl⟩ := hshape
    have hopcode : (opReturnOpcode :: rest).take 1 = [opReturnOpcode] := rfl
    rw [if_pos hsome, List.mapM_cons, extractOutput, if_pos hopcode, hdecode,
      scriptToAddress_opReturn]
    rfl

/-- The change is read back at its own address. -/
theorem extractOutputs_change (hb58 : ad.base58.Inverse) {change : ℤ}
    (hcanonical : canonicalAddress ad.base58 changeAddress = .ok changeAddress)
    {os : List TxOut} (h : changeOutputs ad change changeAddress = .ok os) :
    os.mapM (extractOutput ad) = .ok (if 0 < change then
      [{ address := some changeAddress, value := change }] else []) := by
  rw [changeOutputs] at h
  by_cases hpos : 0 < change
  · rw [if_pos hpos] at h ⊢
    obtain ⟨o, ho, h⟩ := bind_eq_ok h
    cases h
    obtain ⟨shown, hshown, hextract⟩ := extractOutput_buildOutput hb58 ho
    have heq : changeAddress = shown := Except.ok.inj (hcanonical.symm.trans hshown)
    rw [List.mapM_cons, hextract, ← heq]
    rfl
  · rw [if_neg hpos] at h ⊢
    cases h
    rfl

/-- **What a returned build is, to a gate.**  The outputs come from the parsed
    bytes, and the vault shows in canonical form. -/
theorem buildUnsignedSwap_outputs (hb58 : ad.base58.Inverse)
    (htxids : TxidsWellFormed utxos)
    (hcanonical : canonicalAddress ad.base58 changeAddress = .ok changeAddress)
    (h : buildUnsignedSwap ad mnemonic utxos vaultAddress amount memo changeAddress
      sweep = .ok built) :
    ∃ payee, canonicalAddress ad.base58 vaultAddress = .ok payee
      ∧ CorrectBuild (built.spent.map Prod.snd).sum built.outputs built.fee payee amount
          memo changeAddress := by
  obtain ⟨chosen, change, vault, memoOuts, changeOuts, raw, parsed, hchosen, hvault,
    hmemo, hchange, hinputs, houts, hspent, hraw, hparsed, hextract⟩ :=
    buildUnsignedSwap_steps h
  obtain ⟨hbalance, hpos, hfee⟩ := chooseInputs_spec selectCoinsZip317_balance hchosen
  obtain ⟨payee, hpayee, hshown⟩ := extractOutput_buildOutput hb58 hvault
  obtain ⟨hfits, hmemoShown⟩ := extractOutputs_memo ad hmemo
  have hids := buildInputs_txid
    (fun u hu => htxids u (chooseInputs_mem hchosen u hu)) hinputs
  refine ⟨payee, hpayee, hfits, hfee, change, hpos, ?_, ?_⟩
  · rw [spentOutputs_value hspent, hbalance]
  · -- what was parsed is what was built
    have hround : parsed = built.tx :=
      Except.ok.inj (hparsed.symm.trans (parseV4_serializeV4 hids hraw))
    rw [hround, houts, List.cons_append, List.mapM_cons, hshown, List.mapM_append,
      hmemoShown, extractOutputs_change hb58 hcanonical hchange] at hextract
    exact (Except.ok.inj hextract).symm

end Built

/-! ## A wallet with two addresses -/

/-- The address of the vault and the one of the change, with their payloads. -/
def vaultT1 : String := "t1UYsZVJkLPeMjxEtACvSxfWuNmddpWfxzs"
def changeT1 : String := "t1PYWuc7txGckQpA58PXAjhVxSi49Wi3DaE"

/-- The TEX form of the vault. -/
def vaultTex : String := "tex1w508d6qejxtdg4y5r3zarvary0c5xw7kccm6wm"

def vaultPayload : Bytes := prefixT1 ++ SwapsackUtxo.vaultScript.drop 2
def changePayload : Bytes := prefixT1 ++ SwapsackUtxo.changeScript.drop 2

/-- base58check on two addresses. -/
def twoAddressBase58 : Base58 where
  encodeCheck payload :=
    if payload = vaultPayload then vaultT1
    else if payload = changePayload then changeT1
    else ""
  decodeCheck a :=
    if a = vaultT1 then some vaultPayload
    else if a = changeT1 then some changePayload
    else none

/-- The codec of these two addresses reads nothing else. -/
theorem twoAddressBase58_inverse : twoAddressBase58.Inverse := by
  intro a payload h
  dsimp only [twoAddressBase58] at h ⊢
  split at h
  · cases h
    rw [if_pos rfl]
    exact Eq.symm ‹_›
  · split at h
    · cases h
      rw [if_neg (by decide), if_pos rfl]
      exact Eq.symm ‹_›
    · exact nomatch h

/-- An adapter of that codec, with one key for every path. -/
def twoAddressZec : ZecAdapter where
  base58 := twoAddressBase58
  latestHeight := .ok 2500000
  branchId := .ok 0xC8E71055
  deriveKey _ _ := .ok (List.replicate 32 0x01)

/-- One coin on the change address. -/
def zecCoins : List Utxo :=
  [{ txid := "4a5e1e4baab89f3a32518a88c31bc87f618f76673e2cc77ab2127b7afdeda33b"
     vout := 0, value := 100000, address := changeT1 }]

theorem zecCoins_wellFormed : TxidsWellFormed zecCoins := by
  intro u hu id hid
  rw [List.mem_singleton.mp hu] at hid
  have hlen : (fromHex
      "4a5e1e4baab89f3a32518a88c31bc87f618f76673e2cc77ab2127b7afdeda33b").map List.length
      = some 32 := by decide +kernel
  have hmap := congrArg (Option.map List.length) hid
  exact Option.some.inj (hmap.symm.trans hlen)

end SwapsackZcash
