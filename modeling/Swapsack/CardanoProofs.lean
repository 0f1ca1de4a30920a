import Swapsack.CardanoTxProofs
import Swapsack.SelectionProofs

/-! # Building Cardano spends

    ADA is built by the wallet itself: the coins are chosen under the ledger's
    size fee, the transaction is serialized, and what the gate sees is parsed
    back from those bytes.  The surface is in 1e-8 ADA, the chain counts in
    lovelace.  Key derivation and the live reads are parameters of the adapter.

    * `selectLoop_cases` — the two ways the selection ends: with a change output
      that may exist, or with the leftover of the shortest covering prefix;
    * `buildUnsignedSwap_steps` — what a returned build was made of. -/

namespace SwapsackCardano

open ListKit ByteString PyText SwapsackBase SwapsackCardanoTx
open Cbor (Value)
open SwapsackSelection (sumValues)

def defaultDerivation : String := "m/1852'/1815'/0'/0/0"

/-- One lovelace, in 1e-8 ADA. -/
def lovelaceToUnits : ℤ := 100

/-- A built transaction stays valid this many slots past the tip. -/
def ttlSlots : ℤ := 7200

structure ExtendedKey where
  kl : Bytes
  kr : Bytes
  chainCode : Bytes
deriving DecidableEq

/-- What the adapter takes from outside: the codec, BLAKE2b-224, the chain's
    parameters and tip, the keys, and how `x / d` is printed, with six decimals
    and in full. -/
structure AdaAdapter where
  codec : Codec
  blake2b224 : Bytes → Bytes
  protocolParams : Except PyError ProtocolParams
  tipSlot : Except PyError ℤ
  rootKey : String → Option ExtendedKey
  derive : ExtendedKey → String → Option ExtendedKey
  publicKey : ExtendedKey → Bytes
  fixed6 : ℤ → ℤ → String
  quotient : ℤ → ℤ → String

/-- An amount of lovelace, in ADA. -/
def AdaAdapter.ada (ad : AdaAdapter) (lovelace : ℤ) : String :=
  ad.fixed6 lovelace 1000000

structure AdaBuilt where
  tx : UnsignedTx
  keys : List ExtendedKey
  outputs : List TxOutput
  fee : ℤ
  changeAddress : String
  inputs : List Utxo
  feeNote : String

/-! ## The neutral view -/

/-- What a serialized transaction pays, and its fee, in 1e-8 ADA. -/
def neutralView (c : Codec) (raw : Bytes) : Except PyError (List TxOutput × ℤ) := do
  let parsed ← parse c raw
  let outputs : List TxOutput := parsed.outputs.map fun o =>
    { address := some o.1, value := o.2 * lovelaceToUnits }
  let memo : List TxOutput :=
    match parsed.memo with
    | none => []
    | some data => [{ address := none, value := 0, opReturnData := some data }]
  match asInt parsed.fee with
  | none => .error .typeError
  | some fee => .ok (outputs ++ memo, fee * lovelaceToUnits)

/-! ## Selection -/

/-- What a list of coins is worth, in lovelace. -/
def lovelaceOf (utxos : List Utxo) : ℤ := sumValues utxos / lovelaceToUnits

section Select

variable (ad : AdaAdapter) (params : ProtocolParams) (recipient : TxOut)
  (changeRaw : Bytes) (feeFor : List Utxo → List TxOut → Except PyError ℕ)

/-- The change of a selection and its fee.  The fee is sized on the largest the
    change could be and once more on the change that leaves; the second size is
    taken when it also pays for the change that it leaves. -/
def changeFor (chosen : List Utxo) : Except PyError (TxOut × ℕ) := do
  let total := lovelaceOf chosen
  let fee ← feeFor chosen [recipient, { address := changeRaw, lovelace := total }]
  let change : TxOut :=
    { address := changeRaw, lovelace := total - recipient.lovelace - fee }
  let exact ← feeFor chosen [recipient, change]
  let settled : TxOut :=
    { address := changeRaw, lovelace := total - recipient.lovelace - exact }
  let again ← feeFor chosen [recipient, settled]
  .ok (if again ≤ exact then (settled, exact) else (change, fee))

/-- The loop over the coins still on offer; `fold` is the first selection that
    covered the payment and the fee, with what it leaves. -/
def selectLoop (pool : List Utxo) : List Utxo → List Utxo → Option (List Utxo × ℤ) →
    Except PyError (List Utxo × List TxOut × ℤ)
  | [], _, fold =>
      match fold with
      | none =>
          let have8 := ad.fixed6 (sumValues pool) 100000000
          .error (.insufficientFunds
            s!"{ad.ada recipient.lovelace} ADA plus the fee exceeds the {have8} ADA spendable")
      | some (chosen, fee) => .ok (chosen, [recipient], fee)
  | utxo :: rest, chosen, fold => do
      let chosen := chosen ++ [utxo]
      let (change, fee) ← changeFor recipient changeRaw feeFor chosen
      if minLovelace ad.codec change params ≤ change.lovelace then
        .ok (chosen, [recipient, change], fee)
      else do
        let alone ← feeFor chosen [recipient]
        let left := lovelaceOf chosen - recipient.lovelace
        selectLoop pool rest chosen
          (if fold.isNone ∧ (alone : ℤ) ≤ left then some (chosen, left) else fold)

/-- Largest first, until the change may be an output; a leftover that may not is
    folded into the fee only when the coins run out. -/
def select (pool : List Utxo) : Except PyError (List Utxo × List TxOut × ℤ) :=
  selectLoop ad params recipient changeRaw feeFor pool pool [] none

end Select

/-! ## How the selection ends -/

section Outcome

variable {ad : AdaAdapter} {params : ProtocolParams} {recipient : TxOut}
  {changeRaw : Bytes} {feeFor : List Utxo → List TxOut → Except PyError ℕ}

/-- What a selection leaves may be a change output. -/
def LeavesChange (ad : AdaAdapter) (params : ProtocolParams) (recipient : TxOut)
    (changeRaw : Bytes) (feeFor : List Utxo → List TxOut → Except PyError ℕ)
    (chosen : List Utxo) : Prop :=
  ∃ change fee, changeFor recipient changeRaw feeFor chosen = .ok (change, fee)
    ∧ (minLovelace ad.codec change params : ℤ) ≤ change.lovelace

/-- A selection covers the payment and its fee without change. -/
def Covers (recipient : TxOut) (feeFor : List Utxo → List TxOut → Except PyError ℕ)
    (chosen : List Utxo) : Prop :=
  ∃ alone, feeFor chosen [recipient] = .ok alone
    ∧ (alone : ℤ) ≤ lovelaceOf chosen - recipient.lovelace

/-- The first `k + 1` coins are the shortest prefix that covers. -/
def ShortestCover (recipient : TxOut) (feeFor : List Utxo → List TxOut → Except PyError ℕ)
    (pool : List Utxo) (k : ℕ) : Prop :=
  Covers recipient feeFor (pool.take (k + 1))
    ∧ ∀ j < k, ¬ Covers recipient feeFor (pool.take (j + 1))

/-- The two ways a selection is returned. -/
inductive Outcome (ad : AdaAdapter) (params : ProtocolParams) (recipient : TxOut)
    (changeRaw : Bytes) (feeFor : List Utxo → List TxOut → Except PyError ℕ)
    (pool : List Utxo) : List Utxo → List TxOut → ℤ → Prop where
  | kept {k fee : ℕ} {change : TxOut} (hk : k < pool.length)
      (hchange : changeFor recipient changeRaw feeFor (pool.take (k + 1)) = .ok (change, fee))
      (hmin : (minLovelace ad.codec change params : ℤ) ≤ change.lovelace)
      (hfirst : ∀ j < k, ¬ LeavesChange ad params recipient changeRaw feeFor
        (pool.take (j + 1))) :
      Outcome ad params recipient changeRaw feeFor pool (pool.take (k + 1))
        [recipient, change] fee
  | folded {k : ℕ} (hk : k < pool.length) (hcover : ShortestCover recipient feeFor pool k)
      (hnone : ∀ j < pool.length, ¬ LeavesChange ad params recipient changeRaw feeFor
        (pool.take (j + 1))) :
      Outcome ad params recipient changeRaw feeFor pool (pool.take (k + 1)) [recipient]
        (lovelaceOf (pool.take (k + 1)) - recipient.lovelace)

/-- What the loop remembers after `i` coins: the shortest prefix that covered. -/
def Remembers (recipient : TxOut) (feeFor : List Utxo → List TxOut → Except PyError ℕ)
    (pool : List Utxo) (i : ℕ) : Option (List Utxo × ℤ) → Prop
  | none => ∀ j < i, ¬ Covers recipient feeFor (pool.take (j + 1))
  | some (chosen, left) => ∃ k < i, ShortestCover recipient feeFor pool k
      ∧ chosen = pool.take (k + 1) ∧ left = lovelaceOf chosen - recipient.lovelace

/-- One round keeps what the loop remembers. -/
theorem remembers_step {pool : List Utxo} {i alone : ℕ} {fold : Option (List Utxo × ℤ)}
    (halone : feeFor (pool.take (i + 1)) [recipient] = .ok alone)
    (h : Remembers recipient feeFor pool i fold) :
    Remembers recipient feeFor pool (i + 1)
      (if fold.isNone ∧ (alone : ℤ) ≤ lovelaceOf (pool.take (i + 1)) - recipient.lovelace
        then some (pool.take (i + 1), lovelaceOf (pool.take (i + 1)) - recipient.lovelace)
        else fold) := by
  cases fold with
  | some f =>
      rw [if_neg (by rintro ⟨hnone, -⟩; exact nomatch hnone)]
      obtain ⟨chosen, left⟩ := f
      obtain ⟨k, hk, hrest⟩ := h
      exact ⟨k, by omega, hrest⟩
  | none =>
      by_cases hleft : (alone : ℤ) ≤ lovelaceOf (pool.take (i + 1)) - recipient.lovelace
      · rw [if_pos ⟨rfl, hleft⟩]
        exact ⟨i, by omega, ⟨⟨alone, halone, hleft⟩, h⟩, rfl, rfl⟩
      · rw [if_neg (by rintro ⟨-, hle⟩; exact hleft hle)]
        intro j hj
        by_cases hlast : j = i
        · rintro ⟨alone', halone', hle⟩
          rw [hlast, halone] at halone'
          rw [hlast, ← Except.ok.inj halone'] at hle
          exact hleft hle
        · exact h j (by omega)

/-- **One description of the loop**, from any of its rounds. -/
theorem selectLoop_cases {pool : List Utxo} {chosen : List Utxo} {outputs : List TxOut}
    {fee : ℤ} :
    ∀ {rest : List Utxo} {i : ℕ} {fold : Option (List Utxo × ℤ)},
      rest = pool.drop i → i ≤ pool.length →
      (∀ j < i, ¬ LeavesChange ad params recipient changeRaw feeFor (pool.take (j + 1))) →
      Remembers recipient feeFor pool i fold →
      selectLoop ad params recipient changeRaw feeFor pool rest (pool.take i) fold
        = .ok (chosen, outputs, fee) →
      Outcome ad params recipient changeRaw feeFor pool chosen outputs fee := by
  intro rest
  induction rest with
  | nil =>
      intro i fold hrest hi hnone hfold h
      have hall : i = pool.length :=
        le_antisymm hi (List.drop_eq_nil_iff.mp hrest.symm)
      cases fold with
      | none => cases h
      | some f =>
          obtain ⟨c, left⟩ := f
          obtain ⟨k, hk, hcover, rfl, rfl⟩ := hfold
          cases h
          exact .folded (hall ▸ hk) hcover (hall ▸ hnone)
  | cons utxo rest ih =>
      intro i fold hrest hi hnone hfold h
      have hlt : i < pool.length := by
        by_contra hge
        rw [List.drop_eq_nil_iff.mpr (not_lt.mp hge)] at hrest
        exact nomatch hrest
      have hdrop := List.drop_eq_getElem_cons hlt
      rw [← hrest] at hdrop
      obtain ⟨hutxo, hrest'⟩ := List.cons.inj hdrop
      have htake : pool.take i ++ [utxo] = pool.take (i + 1) := by
        rw [hutxo, List.take_append_getElem hlt]
      unfold selectLoop at h
      dsimp only at h
      rw [htake] at h
      obtain ⟨⟨change, fee'⟩, hchange, h⟩ := bind_eq_ok h
      dsimp only at h
      split at h
      · rename_i hmin
        cases h
        exact .kept hlt hchange hmin hnone
      · rename_i hsmall
        obtain ⟨alone, halone, h⟩ := bind_eq_ok h
        refine ih hrest' hlt ?_ (remembers_step halone hfold) h
        intro j hj
        by_cases hlast : j = i
        · rintro ⟨change', fee'', hchange', hmin⟩
          rw [hlast, hchange] at hchange'
          cases hchange'
          exact hsmall hmin
        · exact hnone j (by omega)

theorem select_cases {pool chosen : List Utxo} {outputs : List TxOut} {fee : ℤ}
    (h : select ad params recipient changeRaw feeFor pool = .ok (chosen, outputs, fee)) :
    Outcome ad params recipient changeRaw feeFor pool chosen outputs fee := by
  have hstart : Remembers recipient feeFor pool 0 none := by
    intro j hj
    omega
  exact selectLoop_cases (i := 0) rfl (Nat.zero_le _) (by intro j hj; omega) hstart h

end Outcome

/-! ## The adapter -/

section Adapter

variable (ad : AdaAdapter)

/-- `i.to_bytes(32, "big")`, the placeholder of a transaction id. -/
def dummyInput (i : ℕ) : TxIn := { txid := beBytes 32 i, index := i }

/-- The memo a sweep is sized with. -/
def dummyMemo (memoLen : ℕ) : Option String :=
  if memoLen = 0 then none else some (String.ofList (List.replicate memoLen 'x'))

/-- The transaction a sweep is sized on: a recipient and expiry as long as they
    come. -/
def dummySweep (lovelace : ℤ) (nInputs memoLen : ℕ) : UnsignedTx :=
  { inputs := (List.range nInputs).map dummyInput
    outputs := [{ address := longestAddress, lovelace }]
    fee := 0
    ttl := 2 ^ 32 - 1
    memo := dummyMemo memoLen }

/-- `(amount, fee)` draining `total` into one output, in 1e-8 ADA. -/
def sweepSendAmount (total : ℤ) (nInputs memoLen : ℕ) : Except PyError (ℤ × ℤ) := do
  let params ← ad.protocolParams
  let lovelace := total / lovelaceToUnits
  let fee ← requiredFee ad.codec (dummySweep lovelace nInputs memoLen) nInputs params
  let amount := lovelace - fee
  if amount < minLovelace ad.codec { address := longestAddress, lovelace := amount } params then
    let total8 := ad.fixed6 total 100000000
    .error (.insufficientFunds <|
      s!"{total8} ADA cannot cover a {ad.ada fee} ADA fee " ++
      "and still leave an output above the minimum ADA")
  else .ok (amount * lovelaceToUnits, fee * lovelaceToUnits)

variable [PyUnicode]

/-- The key at a coin's path, which must own the coin's address. -/
def signingKey (root : ExtendedKey) (utxo : Utxo) : Except PyError ExtendedKey :=
  match ad.derive root (orText utxo.path defaultDerivation) with
  | none => .error .library
  | some key => do
      let raw ← addressBytes utxo.address
      let owner ← paymentKeyHash raw
      let path := utxo.path.getD "None"
      if owner ≠ ad.blake2b224 (ad.publicKey key) then
        .error (.runtimeError <|
          s!"refusing to sign: the payment key at {path} does not " ++
          s!"own {utxo.address}")
      else .ok key

/-- One key for every public key, in the order of the coins. -/
def signingKeys (mnemonic : String) (chosen : List Utxo) :
    Except PyError (List ExtendedKey) :=
  match ad.rootKey mnemonic with
  | none => .error .library
  | some root => do
      let keys ← chosen.mapM (signingKey ad root)
      .ok ((keyed ad.publicKey id keys).map Prod.snd)

/-- What a build has fixed before it chooses its coins. -/
structure Spend where
  params : ProtocolParams
  ttl : ℤ
  recipient : TxOut
  changeRaw : Bytes
  memo : Option String

omit [PyUnicode] in
/-- A memo is text here; the binary memo of a vault swap has no ADA route. -/
def textMemo : Option Memo → Except PyError (Option String)
  | none => .ok none
  | some (.text memo) => .ok (some memo)
  | some (.binary _) =>
      .error (.runtimeError "a binary memo (Chainflip) has no ADA route")

/-- The checks of a build, and what they fix. -/
def prepareSpend (vaultAddress : String) (amount : ℤ) (memo : Option Memo)
    (changeAddress : String) : Except PyError Spend := do
  let memo ← textMemo memo
  if amount % lovelaceToUnits ≠ 0 then
    .error (.runtimeError <|
      s!"{ad.quotient amount 100000000} ADA is finer than a lovelace; " ++
      "ADA amounts take at most 6 decimals")
  else do
    let params ← ad.protocolParams
    let tip ← ad.tipSlot
    let lovelace := amount / lovelaceToUnits
    let vaultRaw ← addressBytes vaultAddress
    let recipient : TxOut := { address := vaultRaw, lovelace }
    let floor := minLovelace ad.codec recipient params
    if lovelace < floor then
      .error (.runtimeError s!"an ADA output must hold at least {ad.ada floor} ADA")
    else do
      let changeRaw ← addressBytes changeAddress
      .ok { params, ttl := tip + ttlSlots, recipient, changeRaw, memo }

omit [PyUnicode] in
/-- The input spending a coin. -/
def buildInput (u : Utxo) : Except PyError TxIn :=
  match fromHex u.txid with
  | none => .error (.valueError "non-hexadecimal number found in fromhex() arg")
  | some txid => .ok { txid, index := u.vout }

omit [PyUnicode] in
def Spend.unsigned (s : Spend) (chosen : List Utxo) (outputs : List TxOut) (fee : ℤ) :
    Except PyError UnsignedTx := do
  let inputs ← chosen.mapM buildInput
  .ok { inputs, outputs, fee, ttl := s.ttl, memo := s.memo }

omit [PyUnicode] in
/-- How many addresses the coins are on: each takes one witness. -/
def witnessCount (chosen : List Utxo) : ℕ := (chosen.map Utxo.address).dedup.length

omit [PyUnicode] in
/-- The minimum fee of a selection with the given outputs. -/
def Spend.feeFor (s : Spend) (chosen : List Utxo) (outputs : List TxOut) :
    Except PyError ℕ := do
  let tx ← s.unsigned chosen outputs 0
  requiredFee ad.codec tx (witnessCount chosen) s.params

omit [PyUnicode] in
/-- A sweep spends every coin into the one output; the rest is the fee. -/
def sweepAll (s : Spend) (pool : List Utxo) :
    Except PyError (List Utxo × List TxOut × ℤ) := do
  let fee := lovelaceOf pool - s.recipient.lovelace
  let required ← s.feeFor ad pool [s.recipient]
  if fee < required then
    .error (.insufficientFunds <|
      s!"sweeping {ad.ada s.recipient.lovelace} ADA leaves " ++
      s!"{ad.ada fee} ADA, below the minimum fee")
  else .ok (pool, [s.recipient], fee)

omit [PyUnicode] in
/-- The coins, largest first. -/
def sortedPool (utxos : List Utxo) : List Utxo :=
  utxos.insertionSort fun a b => b.value ≤ a.value

omit [PyUnicode] in
/-- The inputs, the outputs and the fee of a spend. -/
def chooseSpend (s : Spend) (pool : List Utxo) (sweep : Bool) :
    Except PyError (List Utxo × List TxOut × ℤ) :=
  if sweep then sweepAll ad s pool
  else select ad s.params s.recipient s.changeRaw (s.feeFor ad) pool

/-- The built spend: its size is checked, its outputs and fee are read back from
    the bytes, and every input is proven to be the wallet's. -/
def finishSpend (s : Spend) (mnemonic changeAddress : String) (sweep : Bool)
    (chosen : List Utxo) (outputs : List TxOut) (fee : ℤ) : Except PyError AdaBuilt := do
  let tx ← s.unsigned chosen outputs fee
  let dummy ← placeholders (witnessCount chosen)
  let size := (serialize ad.codec tx dummy).length
  if s.params.maxTxSize < size then
    .error (.runtimeError <|
      s!"the tx would be {size} bytes, over Cardano's " ++
      s!"{s.params.maxTxSize}-byte limit — too many inputs; spend less, " ++
      "or consolidate the UTXOs first")
  else do
    let (neutral, neutralFee) ← neutralView ad.codec (serialize ad.codec tx [])
    let required ← s.feeFor ad chosen outputs
    let folded := fee - required
    let keys ← signingKeys ad mnemonic chosen
    let feeNote :=
      if 0 < folded ∧ sweep = false then
        s!"(includes {ad.ada folded} ADA of change below the min-ADA " ++
        "an output must hold, so it cannot be returned)"
      else ""
    .ok { tx, keys, outputs := neutral, fee := neutralFee, changeAddress, inputs := chosen
          feeNote }

/-- Build the unsigned transaction paying `amount` to `vaultAddress`. -/
def buildUnsignedSwap (mnemonic : String) (utxos : List Utxo) (vaultAddress : String)
    (amount : ℤ) (memo : Option Memo) (changeAddress : String) (sweep : Bool) :
    Except PyError AdaBuilt := do
  let s ← prepareSpend ad vaultAddress amount memo changeAddress
  let (chosen, outputs, fee) ← chooseSpend ad s (sortedPool utxos) sweep
  finishSpend ad s mnemonic changeAddress sweep chosen outputs fee

end Adapter

/-! ## What a build is made of -/

section Built

variable [PyUnicode] {ad : AdaAdapter} {mnemonic vaultAddress changeAddress : String}
  {utxos : List Utxo} {amount : ℤ} {memo : Option Memo} {sweep : Bool} {built : AdaBuilt}

/-- What the checks of a build fixed. -/
theorem prepareSpend_ok {s : Spend}
    (h : prepareSpend ad vaultAddress amount memo changeAddress = .ok s) :
    textMemo memo = .ok s.memo ∧ amount % lovelaceToUnits = 0
      ∧ ad.protocolParams = .ok s.params
      ∧ addressBytes vaultAddress = .ok s.recipient.address
      ∧ s.recipient.lovelace = amount / lovelaceToUnits
      ∧ (minLovelace ad.codec s.recipient s.params : ℤ) ≤ s.recipient.lovelace
      ∧ addressBytes changeAddress = .ok s.changeRaw := by
  obtain ⟨text, htext, h⟩ := bind_eq_ok h
  split at h
  · cases h
  · rename_i hwhole
    obtain ⟨params, hparams, h⟩ := bind_eq_ok h
    obtain ⟨tip, -, h⟩ := bind_eq_ok h
    obtain ⟨vaultRaw, hvault, h⟩ := bind_eq_ok h
    dsimp only at h
    split at h
    · cases h
    · rename_i hfloor
      obtain ⟨changeRaw, hchange, h⟩ := bind_eq_ok h
      cases h
      exact ⟨htext, not_not.mp hwhole, hparams, hvault, rfl, not_lt.mp hfloor, hchange⟩

/-- What a build has fixed, from what it read. -/
theorem prepareSpend_fields {s : Spend} {params : ProtocolParams} {slot : ℤ}
    {vaultRaw changeRaw : Bytes} {text : Option String}
    (hparams : ad.protocolParams = .ok params) (htip : ad.tipSlot = .ok slot)
    (hvault : addressBytes vaultAddress = .ok vaultRaw)
    (hchange : addressBytes changeAddress = .ok changeRaw) (htext : textMemo memo = .ok text)
    (h : prepareSpend ad vaultAddress amount memo changeAddress = .ok s) :
    amount % lovelaceToUnits = 0
      ∧ (minLovelace ad.codec s.recipient s.params : ℤ) ≤ s.recipient.lovelace
      ∧ s = { params, ttl := slot + ttlSlots, changeRaw, memo := text
              recipient := { address := vaultRaw, lovelace := amount / lovelaceToUnits } } := by
  obtain ⟨-, hwhole, -, -, -, hfloor, -⟩ := prepareSpend_ok h
  refine ⟨hwhole, hfloor, ?_⟩
  rw [prepareSpend, htext] at h
  dsimp only [bind, Except.bind] at h
  rw [if_neg (not_not.mpr hwhole), hparams, htip] at h
  dsimp only at h
  rw [hvault] at h
  dsimp only at h
  split at h
  · cases h
  · rw [hchange] at h
    cases h
    rfl

/-- **The steps behind a returned build.** -/
theorem buildUnsignedSwap_steps
    (h : buildUnsignedSwap ad mnemonic utxos vaultAddress amount memo changeAddress sweep
      = .ok built) :
    ∃ s outputs fee, prepareSpend ad vaultAddress amount memo changeAddress = .ok s
      ∧ chooseSpend ad s (sortedPool utxos) sweep = .ok (built.inputs, outputs, fee)
      ∧ s.unsigned built.inputs outputs fee = .ok built.tx := by
  obtain ⟨s, hs, h⟩ := bind_eq_ok h
  obtain ⟨⟨chosen, outputs, fee⟩, hchosen, h⟩ := bind_eq_ok h
  obtain ⟨tx, htx, h⟩ := bind_eq_ok h
  obtain ⟨dummy, -, h⟩ := bind_eq_ok h
  dsimp only at h
  split at h
  · cases h
  · obtain ⟨⟨neutral, neutralFee⟩, -, h⟩ := bind_eq_ok h
    obtain ⟨required, -, h⟩ := bind_eq_ok h
    obtain ⟨keys, -, h⟩ := bind_eq_ok h
    cases h
    exact ⟨s, outputs, fee, hs, hchosen, htx⟩

end Built

/-! ## A wallet with one coin -/

def ownPath : String := "m/1852'/1815'/0'/0/0"

def ownAddress : String :=
  "addr1qy8ac7qqy0vtulyl7wntmsxc6wex80gvcyjy33qffrhm7sh927ysx5sftuw0dlft" ++
  "05dz3c7revpf7jx0xnlcjz3g69mq4afdhv"

def mayaVault : String := "addr1vyqnx906342cukj8ukfvps5vr24emnam7nrz0hr9cjc807say5nlw"

def payeeAddress : String :=
  "addr1qyz85693g4fr8c55mfyxhae8j2u04pydxrgqr73vmwpx3a8927ysx5sftuw0dlft" ++
  "05dz3c7revpf7jx0xnlcjz3g69mqu2c0f9"

def rootKey : ExtendedKey where
  kl := beBytes 32 0x60ce7dbec3616e9fc17e0c32578b3f380337b1b61a1f3cb9651aee30670e6f53
  kr := beBytes 32 0x970419a23a2e4e4082d12bf78faa8645dfc882cee2ae7179e2b07fe88098abb2
  chainCode := beBytes 32 0x072310084784c7308182dbbdb1449b2706586f1ff5cbf13d15e9b6e78c15f067

/-- The key of `ownAddress`. -/
def ownKey : ExtendedKey where
  kl := beBytes 32 0x105d2ef2192150655a926bca9cccf5e2f6e496efa9580508192e1f4a790e6f53
  kr := beBytes 32 0xde06529129511d1cacb0664bcf04853fdc0055a47cc6d2c6d205127020760652
  chainCode := beBytes 32 0x88848e8af62a27a57e982215741c9eac17e6e45cbfd6ea65a0e0dcc03bb777b2

def ownPublicKey : Bytes :=
  beBytes 32 0x7ea09a34aebb13c9841c71397b1cabfec5ddf950405293dee496cac2f437480a

def ownKeyHash : Bytes :=
  beBytes 28 0x0fdc780023d8be7c9ff3a6bdc0d8d3b263bd0cc12448c40948efbf42

/-- The body that spends five ADA into 4.934464 ADA, and its id. -/
def foldedBody : Bytes :=
  beBytes 31 0xa400d901028182582000000000000000000000000000000000000000000000
    ++ beBytes 31 0x000000000000000000aa00018182581d61013315fa8d558e5a47e592c0c28c
    ++ beBytes 31 0x1aab9dcfbbf4c627dc65c4b077fa1a004b4b40021a00010000031a0bebde20

def foldedTxid : Bytes :=
  beBytes 32 0x12e97c04d76e4672a297a8e7a9f3d38dab5e4d6d5dab75d4e0eda60316f66d14

/-- CBOR in shortest form, with the digest of one transaction body. -/
def plainCodec : Codec where
  dumps := Value.encode
  decode := Cbor.readItem () 8
  asSet items := items
  repr _ := ""
  blake2b256 b := if b = foldedBody then foldedTxid else []

/-- `x / d` with six decimals, for amounts that have no more. -/
def decimals6 (x d : ℤ) : String :=
  let micro := x * 1000000 / d
  let digits := toString (micro % 1000000)
  s!"{micro / 1000000}." ++ String.ofList (List.replicate (6 - digits.length) '0') ++ digits

/-- The mainnet parameters, but for the flat fee. -/
def oneCoinParams (minFeeB : ℕ) : ProtocolParams where
  minFeeA := 44
  minFeeB
  coinsPerUtxoByte := 4310

/-- The adapter of the wallet, under the given flat fee. -/
def oneCoinAdapter (minFeeB : ℕ) : AdaAdapter where
  codec := plainCodec
  blake2b224 b := if b = ownPublicKey then ownKeyHash else []
  protocolParams := .ok (oneCoinParams minFeeB)
  tipSlot := .ok 200000000
  rootKey _ := some rootKey
  derive _ path := if path = ownPath then some ownKey else none
  publicKey key := if key = ownKey then ownPublicKey else []
  fixed6 := decimals6
  quotient x d := toString (x / d)

/-- Five ADA at the given output of one transaction. -/
def fiveAda (vout : ℤ) : Utxo where
  txid := "00000000000000000000000000000000000000000000000000000000000000aa"
  vout
  value := 500000000
  address := ownAddress
  path := some ownPath

/-- The witness wallet's CBOR is in shortest form. -/
theorem plainCodec_shortestForm : plainCodec.ShortestForm := Cbor.encode_length

end SwapsackCardano
