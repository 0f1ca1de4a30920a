import Swapsack.CoinsProofs
import Swapsack.CosmosTxProofs

/-! # The pre-broadcast gates

    A gate is given what an unsigned transaction was read back as and the plan
    it is meant to carry out, and lists what does not match; an empty list lets
    the transaction be signed.  Each gate is the concatenation of its checks,
    in order.

    * `memoPaysDestination` — the only binding between a quote's memo and the
      payout address;
    * `verifyBtcSwap_eq_nil`, `verifyBtcSend_eq_nil` — what an empty list from
      the two UTXO gates says;
    * `verifyCosmosSend_eq_nil`, `verifyCosmosDeposit_eq_nil` — the same for the
      two Cosmos gates. -/

namespace SwapsackVerify

open ListKit ByteString PyText Wire SwapsackBase SwapsackCosmosTx
open SwapsackCoins (memoBytes)

def opReturnMaxBytes : ℕ := 80

/-! ## Problems -/

/-- What a gate can complain about, with what the message shows. -/
inductive Problem where
  | quoteExpired (now expiry : ℤ)
  | vaultCount (vault : String) (found : ℕ)
  | vaultAmount (value intended : ℤ)
  | opReturnCount (found : ℕ)
  | memoTooLong (bytes limit : ℕ)
  | binaryMemo (data memo : Bytes)
  | memoNotUtf8
  | textMemo (decoded memo : String)
  | changeNotOwned (address : Option String)
  | memoDestination (memo : Memo) (destination : String)
  | negativeFee (fee : ℤ)
  | feeExceeds (fee maxFee : ℤ)
  | recipientCount (recipient : String) (found : ℕ)
  | recipientAmount (value intended : ℤ)
  | sendCarriesData
  | contractType (kind : String)
  | paysNotVault (paid vault : String)
  | sunAmount (sun intended : ℤ)
  | txMemo (memo intended : String)
  | ethTo (paid : Option String) (vault : String)
  | ethValue (value intended : ℤ)
  | calldata (data : Option String) (expected : String)
  | chainId (found intended : ℤ)
  | maxFeeWei (fee limit : ℤ)
  | messageType (typeUrl expected : String)
  | sendsFrom (sender intended : String)
  | paysNotRecipient (paid recipient : String)
  | denom (found intended : String)
  | coinAmount (amount intended : String)
  | carriesMemo (memo : String)
  | deposits (coins : List (String × String)) (asset amount : String)
  | depositMemo (memo quoted : String)
  | signer
  | replacementFee (paid planned : ℤ)
deriving DecidableEq

/-- The message of a problem; `repr` is the interpreter's `repr()` of a text or
    of bytes. -/
def Problem.text (repr : Memo → String) : Problem → String
  | .quoteExpired now expiry => s!"quote expired (now {now} >= expiry {expiry})"
  | .vaultCount vault found =>
      s!"expected exactly one output to vault {vault}, found {found}"
  | .vaultAmount value intended =>
      s!"vault output amount {value} != intended {intended}"
  | .opReturnCount found => s!"expected exactly one OP_RETURN output, found {found}"
  | .memoTooLong bytes limit =>
      s!"memo is {bytes} bytes, exceeds the memo limit of {limit}"
  | .binaryMemo data memo =>
      let found := hex data
      let intended := hex memo
      s!"OP_RETURN memo {found} != intended memo {intended}"
  | .memoNotUtf8 => "OP_RETURN memo is not valid UTF-8"
  | .textMemo decoded memo =>
      let found := repr (.text decoded)
      let quoted := repr (.text memo)
      s!"OP_RETURN memo {found} != quoted memo {quoted}"
  | .changeNotOwned address =>
      let shown := strOf address
      s!"change output to non-owned address {shown}"
  | .memoDestination memo destination =>
      let quoted := repr memo
      s!"quoted memo {quoted} does not pay destination {destination}"
  | .negativeFee fee => s!"negative fee {fee}"
  | .feeExceeds fee maxFee => s!"fee {fee} exceeds max_fee {maxFee}"
  | .recipientCount recipient found =>
      s!"expected exactly one output to recipient {recipient}, found {found}"
  | .recipientAmount value intended =>
      s!"recipient output amount {value} != intended {intended}"
  | .sendCarriesData => "plain send must not carry an OP_RETURN output"
  | .contractType kind =>
      let found := repr (.text kind)
      s!"contract type {found} != 'TransferContract'"
  | .paysNotVault paid vault => s!"tx pays {paid} != vault {vault}"
  | .sunAmount sun intended => s!"tx amount {sun} sun != intended {intended}"
  | .txMemo memo intended =>
      let found := repr (.text memo)
      let quoted := repr (.text intended)
      s!"tx memo {found} != intended {quoted}"
  | .ethTo paid vault =>
      let shown := strOf paid
      s!"tx 'to' {shown} != vault {vault}"
  | .ethValue value intended => s!"tx value {value} wei != intended {intended}"
  | .calldata data expected =>
      let found := match data with
        | none => "None"
        | some d => repr (.text d)
      let encoded := repr (.text expected)
      s!"calldata {found} != memo-encoded {encoded}"
  | .chainId found intended => s!"chainId {found} != {intended}"
  | .maxFeeWei fee limit => s!"max fee {fee} wei exceeds limit {limit}"
  | .messageType typeUrl expected =>
      let found := repr (.text typeUrl)
      s!"message type {found} != {expected}"
  | .sendsFrom sender intended => s!"tx sends from {sender} != {intended}"
  | .paysNotRecipient paid recipient => s!"tx pays {paid} != recipient {recipient}"
  | .denom found intended =>
      let shown := repr (.text found)
      let wanted := repr (.text intended)
      s!"tx denom {shown} != {wanted}"
  | .coinAmount amount intended => s!"tx amount {amount} != intended {intended}"
  | .carriesMemo memo =>
      let found := repr (.text memo)
      s!"plain send must carry no memo, got {found}"
  | .deposits coins asset amount =>
      let pair := fun (c : String × String) =>
        "(" ++ repr (.text c.1) ++ ", " ++ repr (.text c.2) ++ ")"
      let found := ", ".intercalate (coins.map pair)
      let intended := pair (asset, amount)
      s!"tx deposits [{found}] != intended [{intended}]"
  | .depositMemo memo quoted =>
      let found := repr (.text memo)
      let wanted := repr (.text quoted)
      s!"tx memo {found} != quoted {wanted}"
  | .signer => "tx signer != our derived account"
  | .replacementFee paid planned =>
      s!"replacement pays {paid} sats in fee, not the planned {planned}"

/-- One check: the problem, when it applies. -/
def check (bad : Bool) (problem : Problem) : List Problem :=
  if bad then [problem] else []

@[simp] theorem check_eq_nil {bad : Bool} {problem : Problem} :
    check bad problem = [] ↔ bad = false := by
  cases bad <;> simp [check]

@[simp] theorem mem_check {bad : Bool} {problem p : Problem} :
    p ∈ check bad problem ↔ bad = true ∧ p = problem := by
  cases bad <;> simp [check]

/-! ## The plans -/

/-- What we intend a UTXO swap to do, derived from a quote. -/
structure SwapPlan where
  inboundAddress : String
  amount : ℤ
  memo : Memo
  expiry : ℤ
  destination : String := ""

/-- What we intend a plain UTXO send to do. -/
structure SendPlan where
  recipient : String
  amount : ℤ

/-- What we intend a TRON deposit to do. -/
structure TronSwapPlan where
  inboundAddress : String
  amountSun : ℤ
  memo : String
  expiry : ℤ
  destination : String := ""

/-- What we intend an ETH deposit to do. -/
structure EthSwapPlan where
  inboundAddress : String
  amountWei : ℤ
  memo : String
  expiry : ℤ
  chainId : ℤ := 1
  destination : String := ""

/-- What we intend a plain native send (CACAO/RUNE) to do. -/
structure CosmosSendPlan where
  fromAddr : String
  recipient : String
  denom : String
  amount : String

/-- What we intend a native deposit (a swap from CACAO/RUNE) to do. -/
structure CosmosDepositPlan where
  asset : String
  amount : String
  memo : String
  destination : String
  signer : Bytes
  expiry : ℤ

/-! ## The gates -/

section Gates

variable [PyUnicode]

/-- Whether the swap memo actually pays `destination`: it occurs in the memo,
    for an EVM address in any case.  A binary memo cannot be read here. -/
def memoPaysDestination (destination : String) (memo : Memo) : Bool :=
  if destination = "" then true
  else
    match memo with
    | .binary _ => false
    | .text memo =>
        if isIn destination memo then true
        else if startsWith (PyUnicode.lower destination) "0x" then
          isIn (PyUnicode.lower destination) (PyUnicode.lower memo)
        else false

/-- The one data output there may be carries the quoted memo. -/
def memoProblems (data : Bytes) (memo : Memo) (memoMaxBytes : ℕ) : List Problem :=
  check (decide (memoMaxBytes < data.length)) (.memoTooLong data.length memoMaxBytes)
    ++ match memo with
       | .binary bytes => check (data != bytes) (.binaryMemo data bytes)
       | .text memo =>
           match decodeUtf8 data with
           | none => [.memoNotUtf8]
           | some decoded => check (decoded != memo) (.textMemo decoded memo)

/-- Exactly one output to the vault, for the exact amount. -/
def vaultProblems (outputs : List TxOutput) (vault : String) (amount : ℤ) :
    List Problem :=
  match outputs.filter fun o => o.address == some vault with
  | [o] => check (o.value != amount) (.vaultAmount o.value amount)
  | found => [.vaultCount vault found.length]

/-- Exactly one output to the recipient, for the exact amount. -/
def recipientProblems (outputs : List TxOutput) (recipient : String) (amount : ℤ) :
    List Problem :=
  match outputs.filter fun o => o.address == some recipient with
  | [o] => check (o.value != amount) (.recipientAmount o.value amount)
  | found => [.recipientCount recipient found.length]

/-- Exactly one OP_RETURN, decoding to exactly the quoted memo. -/
def opReturnProblems (outputs : List TxOutput) (memo : Memo) (memoMaxBytes : ℕ) :
    List Problem :=
  match outputs.filterMap TxOutput.opReturnData with
  | [data] => memoProblems data memo memoMaxBytes
  | found => [.opReturnCount found.length]

/-- Every other output without data is change, and must return to us. -/
def changeProblems (outputs : List TxOutput) (payee : String)
    (ownedAddresses : List String) : List Problem :=
  outputs.flatMap fun o =>
    if o.opReturnData.isSome || o.address == some payee then []
    else
      check (match o.address with
        | some address => !ownedAddresses.contains address
        | none => true) (.changeNotOwned o.address)

def feeProblems (fee maxFee : ℤ) : List Problem :=
  if fee < 0 then [.negativeFee fee]
  else check (decide (maxFee < fee)) (.feeExceeds fee maxFee)

/-- Reasons the transaction does not match the swap `plan`; empty means safe. -/
def verifyBtcSwap (outputs : List TxOutput) (fee : ℤ) (plan : SwapPlan)
    (ownedAddresses : List String) (now maxFee : ℤ)
    (memoMaxBytes : ℕ := opReturnMaxBytes) : List Problem :=
  check (decide (plan.expiry ≤ now)) (.quoteExpired now plan.expiry)
    ++ vaultProblems outputs plan.inboundAddress plan.amount
    ++ opReturnProblems outputs plan.memo memoMaxBytes
    ++ changeProblems outputs plan.inboundAddress ownedAddresses
    ++ check (!memoPaysDestination plan.destination plan.memo)
        (.memoDestination plan.memo plan.destination)
    ++ feeProblems fee maxFee

/-- Reasons a plain send does not match `plan`; empty means safe. -/
def verifyBtcSend (outputs : List TxOutput) (fee : ℤ) (plan : SendPlan)
    (ownedAddresses : List String) (maxFee : ℤ) : List Problem :=
  recipientProblems outputs plan.recipient plan.amount
    ++ check (outputs.any fun o => o.opReturnData.isSome) .sendCarriesData
    ++ changeProblems outputs plan.recipient ownedAddresses
    ++ feeProblems fee maxFee

/-- Reasons a TRON deposit does not match `plan`; empty means safe. -/
def verifyTronSwap (contractType toAddress : String) (amountSun : ℤ) (memo : String)
    (plan : TronSwapPlan) (now : ℤ) : List Problem :=
  check (decide (plan.expiry ≤ now)) (.quoteExpired now plan.expiry)
    ++ check (contractType != "TransferContract") (.contractType contractType)
    ++ check (toAddress != plan.inboundAddress)
        (.paysNotVault toAddress plan.inboundAddress)
    ++ check (amountSun != plan.amountSun) (.sunAmount amountSun plan.amountSun)
    ++ check (memo != plan.memo) (.txMemo memo plan.memo)
    ++ check (!memoPaysDestination plan.destination (.text plan.memo))
        (.memoDestination (.text plan.memo) plan.destination)

/-- Reasons an ETH deposit does not match `plan`; empty means safe. -/
def verifyEthSwap (toAddress : Option String) (value : ℤ) (data : Option String)
    (chainId gas maxFeePerGas : ℤ) (plan : EthSwapPlan) (now maxFeeWei : ℤ) :
    List Problem :=
  let expectedData := "0x" ++ hex (encodeUtf8 plan.memo)
  let totalFee := gas * maxFeePerGas
  check (decide (plan.expiry ≤ now)) (.quoteExpired now plan.expiry)
    ++ check (PyUnicode.lower (toAddress.getD "") != PyUnicode.lower plan.inboundAddress)
        (.ethTo toAddress plan.inboundAddress)
    ++ check (value != plan.amountWei) (.ethValue value plan.amountWei)
    ++ check (PyUnicode.lower (data.getD "") != PyUnicode.lower expectedData)
        (.calldata data expectedData)
    ++ check (chainId != plan.chainId) (.chainId chainId plan.chainId)
    ++ check (!memoPaysDestination plan.destination (.text plan.memo))
        (.memoDestination (.text plan.memo) plan.destination)
    ++ check (decide (maxFeeWei < totalFee)) (.maxFeeWei totalFee maxFeeWei)

omit [PyUnicode] in
/-- Reasons a decoded `MsgSend` body does not match `plan`; empty means safe. -/
def verifyCosmosSend (decoded : DecodedSend) (plan : CosmosSendPlan) : List Problem :=
  check (decoded.typeUrl != "/cosmos.bank.v1beta1.MsgSend")
      (.messageType decoded.typeUrl "MsgSend")
    ++ check (decoded.fromAddr != plan.fromAddr)
        (.sendsFrom decoded.fromAddr plan.fromAddr)
    ++ check (decoded.toAddr != plan.recipient)
        (.paysNotRecipient decoded.toAddr plan.recipient)
    ++ check (decoded.denom != plan.denom) (.denom decoded.denom plan.denom)
    ++ check (decoded.amount != plan.amount) (.coinAmount decoded.amount plan.amount)
    ++ check (decoded.memo != "") (.carriesMemo decoded.memo)

/-- Reasons a decoded `MsgDeposit` body does not match `plan`; empty means safe. -/
def verifyCosmosDeposit (decoded : DecodedDeposit) (plan : CosmosDepositPlan)
    (now : ℤ) : List Problem :=
  check (decide (plan.expiry ≤ now)) (.quoteExpired now plan.expiry)
    ++ check (decoded.typeUrl != "/types.MsgDeposit")
        (.messageType decoded.typeUrl "MsgDeposit")
    ++ check (decoded.coins != [(plan.asset, plan.amount)])
        (.deposits decoded.coins plan.asset plan.amount)
    ++ check (decoded.memo != plan.memo) (.depositMemo decoded.memo plan.memo)
    ++ check (decoded.signer != .bytes plan.signer) .signer
    ++ check (!memoPaysDestination plan.destination (.text plan.memo))
        (.memoDestination (.text plan.memo) plan.destination)

/-! ## What an empty list says -/

omit [PyUnicode] in
theorem vaultProblems_eq_nil {outputs : List TxOutput} {vault : String} {amount : ℤ} :
    vaultProblems outputs vault amount = []
      ↔ ∃ o, outputs.filter (fun o => o.address == some vault) = [o]
        ∧ o.value = amount := by
  rw [vaultProblems]
  cases outputs.filter fun o => o.address == some vault with
  | nil => simp
  | cons o os => cases os <;> simp

omit [PyUnicode] in
theorem recipientProblems_eq_nil {outputs : List TxOutput} {recipient : String}
    {amount : ℤ} :
    recipientProblems outputs recipient amount = []
      ↔ ∃ o, outputs.filter (fun o => o.address == some recipient) = [o]
        ∧ o.value = amount := by
  rw [recipientProblems]
  cases outputs.filter fun o => o.address == some recipient with
  | nil => simp
  | cons o os => cases os <;> simp

omit [PyUnicode] in
/-- The payload passes when it is the memo's bytes and fits. -/
theorem memoProblems_eq_nil {data : Bytes} {memo : Memo} {memoMaxBytes : ℕ} :
    memoProblems data memo memoMaxBytes = []
      ↔ data.length ≤ memoMaxBytes ∧ data = memoBytes (some memo) := by
  unfold memoProblems
  rw [List.append_eq_nil_iff, check_eq_nil, decide_eq_false_iff_not, not_lt]
  refine and_congr_right fun _ => ?_
  cases memo with
  | binary bytes => simp [memoBytes]
  | text memo =>
      dsimp only [memoBytes]
      constructor
      · intro h
        cases hd : decodeUtf8 data with
        | none => rw [hd] at h; exact nomatch h
        | some decoded =>
            rw [hd] at h
            have heq : decoded = memo := by simpa using h
            rw [← heq]
            exact (encodeUtf8_of_decodeUtf8 hd).symm
      · rintro rfl
        rw [decodeUtf8_encodeUtf8]
        simp

omit [PyUnicode] in
theorem opReturnProblems_eq_nil {outputs : List TxOutput} {memo : Memo}
    {memoMaxBytes : ℕ} :
    opReturnProblems outputs memo memoMaxBytes = []
      ↔ outputs.filterMap TxOutput.opReturnData = [memoBytes (some memo)]
        ∧ (memoBytes (some memo)).length ≤ memoMaxBytes := by
  rw [opReturnProblems]
  cases outputs.filterMap TxOutput.opReturnData with
  | nil => simp
  | cons data rest =>
      cases rest with
      | nil =>
          dsimp only
          rw [memoProblems_eq_nil, List.singleton_inj]
          constructor
          · rintro ⟨hlen, rfl⟩
            exact ⟨rfl, hlen⟩
          · rintro ⟨rfl, hlen⟩
            exact ⟨hlen, rfl⟩
      | cons data' rest => simp

omit [PyUnicode] in
theorem changeProblems_eq_nil {outputs : List TxOutput} {payee : String}
    {ownedAddresses : List String} :
    changeProblems outputs payee ownedAddresses = []
      ↔ ∀ o ∈ outputs, o.opReturnData = none → o.address ≠ some payee →
        ∃ address ∈ ownedAddresses, o.address = some address := by
  rw [changeProblems]
  rw [List.flatMap_eq_nil_iff]
  refine forall₂_congr fun o _ => ?_
  cases hdata : o.opReturnData with
  | some data => simp
  | none =>
      cases ha : o.address with
      | none => simp
      | some address =>
          by_cases hp : address = payee
          · simp [hp]
          · simp [hp]

omit [PyUnicode] in
theorem feeProblems_eq_nil {fee maxFee : ℤ} :
    feeProblems fee maxFee = [] ↔ 0 ≤ fee ∧ fee ≤ maxFee := by
  rw [feeProblems]
  by_cases hneg : fee < 0
  · rw [if_pos hneg]
    constructor
    · intro h
      exact nomatch h
    · rintro ⟨hpos, -⟩
      omega
  · rw [if_neg hneg, check_eq_nil, decide_eq_false_iff_not, not_lt]
    exact ⟨fun h => ⟨by omega, h⟩, fun h => h.2⟩

/-- **What passes the swap gate**: a live quote, one vault output for the exact
    amount, one data output carrying the memo, change to ourselves, a memo that
    pays the destination, and a fee within bounds. -/
theorem verifyBtcSwap_eq_nil {outputs : List TxOutput} {fee : ℤ} {plan : SwapPlan}
    {ownedAddresses : List String} {now maxFee : ℤ} {memoMaxBytes : ℕ} :
    verifyBtcSwap outputs fee plan ownedAddresses now maxFee memoMaxBytes = []
      ↔ now < plan.expiry
        ∧ vaultProblems outputs plan.inboundAddress plan.amount = []
        ∧ opReturnProblems outputs plan.memo memoMaxBytes = []
        ∧ changeProblems outputs plan.inboundAddress ownedAddresses = []
        ∧ memoPaysDestination plan.destination plan.memo = true
        ∧ 0 ≤ fee ∧ fee ≤ maxFee := by
  rw [verifyBtcSwap]
  rw [← feeProblems_eq_nil]
  simp only [List.append_eq_nil_iff, check_eq_nil, decide_eq_false_iff_not, not_le,
    Bool.not_eq_false', and_assoc]

omit [PyUnicode] in
theorem verifyBtcSend_eq_nil {outputs : List TxOutput} {fee : ℤ} {plan : SendPlan}
    {ownedAddresses : List String} {maxFee : ℤ} :
    verifyBtcSend outputs fee plan ownedAddresses maxFee = []
      ↔ recipientProblems outputs plan.recipient plan.amount = []
        ∧ (∀ o ∈ outputs, o.opReturnData = none)
        ∧ changeProblems outputs plan.recipient ownedAddresses = []
        ∧ 0 ≤ fee ∧ fee ≤ maxFee := by
  rw [verifyBtcSend]
  rw [← feeProblems_eq_nil]
  simp only [List.append_eq_nil_iff, check_eq_nil, and_assoc, List.any_eq_false,
    Option.isSome_iff_ne_none, ne_eq, not_not]

omit [PyUnicode] in
theorem verifyCosmosSend_eq_nil {decoded : DecodedSend} {plan : CosmosSendPlan} :
    verifyCosmosSend decoded plan = []
      ↔ decoded = { typeUrl := msgSendTypeUrl, fromAddr := plan.fromAddr
                    toAddr := plan.recipient, denom := plan.denom
                    amount := plan.amount, memo := "" } := by
  obtain ⟨typeUrl, fromAddr, toAddr, denom, amount, memo⟩ := decoded
  rw [verifyCosmosSend, msgSendTypeUrl]
  simp only [List.append_eq_nil_iff, check_eq_nil, bne_eq_false_iff_eq, and_assoc,
    DecodedSend.mk.injEq]

/-- The deposit gate leaves the outer memo open. -/
theorem verifyCosmosDeposit_eq_nil {decoded : DecodedDeposit} {plan : CosmosDepositPlan}
    {now : ℤ} :
    verifyCosmosDeposit decoded plan now = []
      ↔ now < plan.expiry
        ∧ decoded = { typeUrl := msgDepositTypeUrl
                      coins := [(plan.asset, plan.amount)], memo := plan.memo
                      signer := .bytes plan.signer, outerMemo := decoded.outerMemo }
        ∧ memoPaysDestination plan.destination (.text plan.memo) = true := by
  obtain ⟨typeUrl, coins, memo, signer, outerMemo⟩ := decoded
  rw [verifyCosmosDeposit, msgDepositTypeUrl]
  simp only [List.append_eq_nil_iff, check_eq_nil, bne_eq_false_iff_eq, and_assoc,
    decide_eq_false_iff_not, not_le, Bool.not_eq_false', DecodedDeposit.mk.injEq,
    and_true]

end Gates

end SwapsackVerify
