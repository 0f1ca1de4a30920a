import Swapsack.HexTextProofs
import Swapsack.VaultSwapProofs

/-! # The EVM vault-swap gate

    From an EVM chain a Chainflip vault swap is a call of the protocol's Vault
    contract: `xSwapNative`, or `xSwapToken` after an `approve`.  The calldata
    carries the destination in an ABI head with two dynamic tails, and the
    refund address and price floor in a packed blob of 96 bytes.

    * `decodeEvmVaultParameters_injective` — the blob's decoder loses no byte;
    * `verifyChainflipEvmVaultSwap_binds` — what passes does what was asked
      for, whatever the encoder returned. -/

namespace SwapsackEvmVault

open ListKit ByteString PyText HexText SwapsackBase SwapsackVerify

/-! ## The calldata -/

/-- `xSwapNative(uint32,bytes,uint32,bytes)` -/
def xswapNativeSelector : String := "dd687345"

/-- `xSwapToken(uint32,bytes,uint32,address,uint256,bytes)` -/
def xswapTokenSelector : String := "04fc7da0"

/-- `approve(address,uint256)` -/
def approveSelector : String := "095ea7b3"

def xswapNativeWords : ℕ := 4
def xswapTokenWords : ℕ := 6

/-- The `index`-th word of an ABI argument block. -/
def abiWord (raw : Bytes) (index : ℕ) : ℕ := beNat (slice raw (index * 32) 32)

/-- The dynamic `bytes` at `offset`, or none if it is not canonical: no offset
    into the head, no length past the end, no padding other than zero. -/
def abiBytes (raw : Bytes) (offset headWords : ℕ) : Option Bytes :=
  if offset < headWords * 32 ∨ raw.length < offset + 32 ∨ offset % 32 ≠ 0 then none
  else
    let length := abiWord raw (offset / 32)
    let stop := offset + 32 + length
    if raw.length < stop then none
    else
      let padding := (32 - length % 32) % 32
      if raw.length < stop + padding ∨ (slice raw stop padding).any (· ≠ 0) then none
      else some (slice raw (offset + 32) length)

/-- A Chainflip Vault call, decoded from its calldata alone.  A native call names
    no token and no amount. -/
structure DecodedEvmVaultCall where
  destinationChainId : ℕ
  destination : Bytes
  destinationAssetId : ℕ
  sourceToken : String
  sourceAmount : ℕ
  parameters : Bytes
deriving DecidableEq

/-- `f"0x{n:040x}"`, for 160 bits. -/
def tokenText (n : ℕ) : String := "0x" ++ hex (beBytes 20 n)

/-- The token and the amount of a call, from its argument words. -/
def callToken (args : Bytes) : Option (ℕ × ℕ) → Option (String × ℕ)
  | none => some ("", 0)
  | some (tokenWord, amountWord) =>
      let rawToken := abiWord args tokenWord
      -- a padded address with dirty high bits
      if 2 ^ 160 ≤ rawToken then none
      else some (tokenText rawToken, abiWord args amountWord)

/-- The arguments of a call whose head has `words` words. -/
def decodeEvmVaultArgs (args : Bytes) (words : ℕ) (token : Option (ℕ × ℕ))
    (paramsWord : ℕ) : Option DecodedEvmVaultCall :=
  if args.length < words * 32 then none
  else
    match abiBytes args (abiWord args 1) words,
      abiBytes args (abiWord args paramsWord) words, callToken args token with
    | some destination, some parameters, some (sourceToken, sourceAmount) =>
        some {
          destinationChainId := abiWord args 0
          destination := destination
          destinationAssetId := abiWord args 2
          sourceToken := sourceToken
          sourceAmount := sourceAmount
          parameters := parameters }
    | _, _, _ => none

/-- Decode an `xSwapNative` or `xSwapToken` call. -/
def decodeEvmVaultCall (calldata : Bytes) : Option DecodedEvmVaultCall :=
  if calldata.length < 4 then none
  else
    let selector := hex (calldata.take 4)
    let args := calldata.drop 4
    if selector = xswapNativeSelector then
      decodeEvmVaultArgs args xswapNativeWords none 3
    else if selector = xswapTokenSelector then
      decodeEvmVaultArgs args xswapTokenWords (some (3, 4)) 5
    else none

/-! ## The parameters -/

def evmVaultParamsBytes : ℕ := 96
def evmVaultParamsVersion : ℕ := 1

/-- A `cfParameters` blob, decoded from its bytes alone. -/
structure DecodedEvmVaultParameters where
  version : ℕ
  retryDuration : ℕ
  refundAddress : Bytes
  minPrice : ℕ
  ccm : ℕ
  oracleSlippage : ℕ
  dca : ℕ
  boostFee : ℕ
  broker : Bytes
  brokerFee : ℕ
  affiliates : ℕ
deriving DecidableEq

/-- The fields of a blob of the right length. -/
def evmVaultParameters (params : Bytes) : DecodedEvmVaultParameters where
  version := byteAt params 0
  retryDuration := leNat (slice params 1 4)
  refundAddress := slice params 5 20
  minPrice := leNat (slice params 25 32)
  ccm := byteAt params 57
  oracleSlippage := byteAt params 58
  dca := byteAt params 59
  boostFee := byteAt params 60
  broker := slice params 61 32
  brokerFee := leNat (slice params 93 2)
  affiliates := byteAt params 95

/-- Decode a 96-byte blob; its length is all that is checked. -/
def decodeEvmVaultParameters (params : Bytes) : Option DecodedEvmVaultParameters :=
  if params.length ≠ evmVaultParamsBytes then none else some (evmVaultParameters params)

/-- The fields cover the blob. -/
theorem parameters_layout {params : Bytes} (h : params.length = 96) :
    params = slice params 0 1 ++ slice params 1 4 ++ slice params 5 20
      ++ slice params 25 32 ++ slice params 57 1 ++ slice params 58 1
      ++ slice params 59 1 ++ slice params 60 1 ++ slice params 61 32
      ++ slice params 93 2 ++ slice params 95 1 := by
  have hwidths := slice_zero h
  rw [show 96 = 1 + 4 + 20 + 32 + 1 + 1 + 1 + 1 + 32 + 2 + 1 from rfl] at hwidths
  iterate 10 rw [slice_add] at hwidths
  exact hwidths.symm

/-- **No byte is lost**: blobs that decode alike are the same. -/
theorem decodeEvmVaultParameters_injective {p q : Bytes} (hp : p.length = 96)
    (hq : q.length = 96)
    (h : decodeEvmVaultParameters p = decodeEvmVaultParameters q) : p = q := by
  have field : ∀ {i n : ℕ}, i + n ≤ 96 → leNat (slice p i n) = leNat (slice q i n) →
      slice p i n = slice q i n := by
    intro i n hin heq
    exact slice_eq_of_leNat (by rw [hp]; exact hin) (by rw [hq]; exact hin) heq
  rw [decodeEvmVaultParameters, decodeEvmVaultParameters, if_neg (by rw [hp]; decide),
    if_neg (by rw [hq]; decide)] at h
  have hfields := Option.some.inj h
  rw [evmVaultParameters, evmVaultParameters, DecodedEvmVaultParameters.mk.injEq] at hfields
  obtain ⟨h0, h1, h5, h25, h57, h58, h59, h60, h61, h93, h95⟩ := hfields
  rw [parameters_layout hp, parameters_layout hq, field (by omega) h0, field (by omega) h1,
    h5, field (by omega) h25, field (by omega) h57, field (by omega) h58,
    field (by omega) h59, field (by omega) h60, h61, field (by omega) h93,
    field (by omega) h95]

/-! ## Transactions and plan -/

/-- The fields of an unsigned EIP-1559 transaction that the wallet sets. -/
structure EvmTx where
  toAddress : String
  value : ℤ
  data : Option String
  chainId : ℤ
  nonce : ℤ
  gas : ℤ
  maxFeePerGas : ℤ
  maxPriorityFeePerGas : ℤ
deriving DecidableEq

/-- A Vault call, and the `approve` it needs when the source is a token. -/
structure EthVaultSwapBuilt where
  swapTx : EvmTx
  approveTx : Option EvmTx := none
deriving DecidableEq

def EthVaultSwapBuilt.txs (built : EthVaultSwapBuilt) : List EvmTx :=
  built.approveTx.toList ++ [built.swapTx]

/-- The worst-case fee of all transactions. -/
def EthVaultSwapBuilt.fee (built : EthVaultSwapBuilt) : ℤ :=
  (built.txs.map fun tx => tx.gas * tx.maxFeePerGas).sum

/-- What we intend a Chainflip vault swap from an EVM chain to do.  An empty
    `sourceToken` is the chain's own coin. -/
structure ChainflipEvmVaultPlan where
  vaultContract : String
  calldata : Bytes
  value : ℤ
  sourceToken : String
  sourceAmount : ℤ
  expiry : ℤ
  chainId : ℤ
  destinationChainId : ℕ
  destinationAssetId : ℕ
  destinationBytes : Bytes
  refundAddress : String
  minPrice : ℤ
  retryDuration : ℤ
  knownVaults : List String

/-- What the gate can complain about; `common` are the messages it shares with
    the other gates. -/
inductive EvmVaultProblem where
  | common (problem : Problem)
  | unknownVault (contract : String)
  | toNotVault (paid vault : String)
  | tokenSendsEther (value : ℤ)
  | refundNotOwned (planned owned : String)
  | calldata (data : Option String) (planned : String)
  | unreadableCall
  | destination (found intended : Bytes)
  | outputAsset (found intended : ℕ)
  | outputChain (found intended : ℕ)
  | token (found intended : String)
  | moved (found intended : ℤ)
  | nativeNamesAmount (found : ℕ)
  | paramsBytes (found : ℕ)
  | paramsVersion (found : ℕ)
  | refund (found : Bytes) (intended : String)
  | minPrice (found : ℕ) (floor : ℤ)
  | retryDuration (found : ℕ) (intended : ℤ)
  | brokerFee (bps : ℕ)
  | boostFee (bps : ℕ)
  | affiliates (entries : ℕ)
  | notAskedFor (label : String)
  | nativeApprove
  | missingApprove (source : String)
  | approveTo (paid source : String)
  | approveValue
  | approveChainId (found intended : ℤ)
  | approveUnreadable
  | approveSpender (spender vault : String)
  | approveAmount (found intended : ℤ)
deriving DecidableEq

/-- `token or '(native)'` -/
def shownToken (token : String) : String := if token = "" then "(native)" else token

def EvmVaultProblem.text (repr : Memo → String) : EvmVaultProblem → String
  | .common problem => problem.text repr
  | .unknownVault contract =>
      s!"Vault contract {contract} is not the one the protocol publishes on-chain"
  | .toNotVault paid vault => s!"tx 'to' {paid} != Vault {vault}"
  | .tokenSendsEther value =>
      s!"a token vault swap must not send ether, but the plan carries {value} wei"
  | .refundNotOwned planned owned =>
      s!"the plan refunds to {planned}, which is not this wallet's {owned}"
  | .calldata data planned =>
      let found := match data with
        | none => "None"
        | some d => repr (.text d)
      let expected := repr (.text planned)
      s!"calldata {found} != planned {expected}"
  | .unreadableCall => "calldata is not a Chainflip Vault call we can read back"
  | .destination found intended =>
      let shown := hex found
      let wanted := hex intended
      s!"call pays destination {shown}, intended {wanted}"
  | .outputAsset found intended => s!"call pays output asset {found}, intended {intended}"
  | .outputChain found intended => s!"call pays out on chain {found}, intended {intended}"
  | .token found intended =>
      let shown := shownToken found
      let wanted := shownToken intended
      s!"call spends token {shown}, intended {wanted}"
  | .moved found intended => s!"call moves {found} source units, intended {intended}"
  | .nativeNamesAmount found =>
      s!"a native vault swap must carry no token amount, but the call names {found}"
  | .paramsBytes found =>
      s!"vault swap parameters are {found} bytes, expected the 96-byte layout this "
        ++ "wallet decodes"
  | .paramsVersion found =>
      s!"vault swap parameters are version {found} != {evmVaultParamsVersion}; "
        ++ "refusing to guess their layout"
  | .refund found intended =>
      let shown := hex found
      s!"parameters refund to 0x{shown}, intended {intended}"
  | .minPrice found floor => s!"parameters min price {found} is below our floor {floor}"
  | .retryDuration found intended =>
      s!"parameters retry duration {found} != intended {intended}"
  | .brokerFee bps => s!"parameters carry a broker fee of {bps} bps"
  | .boostFee bps => s!"parameters carry a boost fee of {bps} bps"
  | .affiliates entries =>
      s!"parameters carry {entries} affiliate fee entries; expected none"
  | .notAskedFor label => s!"parameters carry {label}, which was not asked for"
  | .nativeApprove => "a native vault swap must not be preceded by an approve"
  | .missingApprove source => s!"a {source} vault swap needs an approve, and has none"
  | .approveTo paid source => s!"approve 'to' {paid} != token {source}"
  | .approveValue => "approve tx must not send ETH value"
  | .approveChainId found intended => s!"approve chainId {found} != {intended}"
  | .approveUnreadable => "approve calldata could not be decoded"
  | .approveSpender spender vault => s!"approve spender {spender} != Vault {vault}"
  | .approveAmount found intended => s!"approve amount {found} != {intended}"

/-! ## The gate -/

/-- The wallet's use of the ABI library, for the argument types
    `["address", "uint256"]`; none stands for an exception. -/
structure EthAbi where
  decodeAddressUint256 : Bytes → Option (String × ℤ)
  encodeAddressUint256 : String → ℤ → Option Bytes

/-- Split a `0x` calldata into selector and decoded arguments; none stands for an
    exception. -/
def decodeCall (abi : EthAbi) (data : Option String) (selector : String) :
    Option (String × ℤ) :=
  match data with
  | none => none
  | some data =>
      match fromHex (removePrefix data "0x") with
      | none => none
      | some raw =>
          if hex (raw.take 4) ≠ selector then none
          else abi.decodeAddressUint256 (raw.drop 4)

section Gate

variable [PyUnicode]

/-- The `cfParameters` half of the gate: refund, floor, no skim. -/
def verifyVaultParameters (parameters : Bytes) (plan : ChainflipEvmVaultPlan) :
    List EvmVaultProblem :=
  match decodeEvmVaultParameters parameters with
  | none => [.paramsBytes parameters.length]
  | some decoded =>
      onlyIf (decoded.version != evmVaultParamsVersion) (.paramsVersion decoded.version)
        ++ onlyIf (hex decoded.refundAddress
            != removePrefix (PyUnicode.lower plan.refundAddress) "0x")
          (.refund decoded.refundAddress plan.refundAddress)
        ++ onlyIf (decide ((decoded.minPrice : ℤ) < plan.minPrice))
          (.minPrice decoded.minPrice plan.minPrice)
        ++ onlyIf ((decoded.retryDuration : ℤ) != plan.retryDuration)
          (.retryDuration decoded.retryDuration plan.retryDuration)
        ++ onlyIf (decoded.brokerFee != 0) (.brokerFee decoded.brokerFee)
        ++ onlyIf (decoded.boostFee != 0) (.boostFee decoded.boostFee)
        ++ onlyIf (decoded.affiliates != 0) (.affiliates decoded.affiliates)
        ++ onlyIf (decoded.ccm != 0) (.notAskedFor "a cross-chain message")
        ++ onlyIf (decoded.oracleSlippage != 0) (.notAskedFor "an oracle slippage limit")
        ++ onlyIf (decoded.dca != 0) (.notAskedFor "DCA parameters")

/-- What a readable `approve` grants. -/
def approveProblems (granted : Option (String × ℤ)) (plan : ChainflipEvmVaultPlan) :
    List EvmVaultProblem :=
  match granted with
  | none => [.approveUnreadable]
  | some (spender, allowance) =>
      onlyIf (PyUnicode.lower spender != PyUnicode.lower plan.vaultContract)
          (.approveSpender spender plan.vaultContract)
        ++ onlyIf (allowance != plan.sourceAmount)
          (.approveAmount allowance plan.sourceAmount)

/-- The `approve` half of the gate, including its absence being correct. -/
def verifyVaultApprove (abi : EthAbi) (approve : Option EvmTx)
    (plan : ChainflipEvmVaultPlan) : List EvmVaultProblem :=
  if plan.sourceToken = "" then
    match approve with
    | none => []
    | some _ => [.nativeApprove]
  else
    match approve with
    | none => [.missingApprove plan.sourceToken]
    | some approve =>
        onlyIf (PyUnicode.lower approve.toAddress != PyUnicode.lower plan.sourceToken)
            (.approveTo approve.toAddress plan.sourceToken)
          ++ onlyIf (approve.value != 0) .approveValue
          ++ onlyIf (approve.chainId != plan.chainId)
            (.approveChainId approve.chainId plan.chainId)
          ++ approveProblems (decodeCall abi approve.data approveSelector) plan

/-- The call promises what we asked for. -/
def callProblems (call : DecodedEvmVaultCall) (swapValue : ℤ)
    (plan : ChainflipEvmVaultPlan) : List EvmVaultProblem :=
  let moved := if plan.sourceToken = "" then swapValue else call.sourceAmount
  onlyIf (call.destination != plan.destinationBytes)
      (.destination call.destination plan.destinationBytes)
    ++ onlyIf (call.destinationAssetId != plan.destinationAssetId)
      (.outputAsset call.destinationAssetId plan.destinationAssetId)
    ++ onlyIf (call.destinationChainId != plan.destinationChainId)
      (.outputChain call.destinationChainId plan.destinationChainId)
    ++ onlyIf (call.sourceToken != plan.sourceToken)
      (.token call.sourceToken plan.sourceToken)
    ++ onlyIf (moved != plan.sourceAmount) (.moved moved plan.sourceAmount)
    ++ onlyIf (plan.sourceToken == "" && call.sourceAmount != 0)
      (.nativeNamesAmount call.sourceAmount)
    ++ verifyVaultParameters call.parameters plan

/-- The EVM layer: the right contract, value, chain and calldata. -/
def envelopeProblems (swap : EvmTx) (plan : ChainflipEvmVaultPlan) (now : ℤ)
    (ownedAddress : String) : List EvmVaultProblem :=
  let expectedData := "0x" ++ hex plan.calldata
  onlyIf (decide (plan.expiry ≤ now)) (.common (.quoteExpired now plan.expiry))
    ++ onlyIf (!plan.knownVaults.contains (PyUnicode.lower plan.vaultContract))
      (.unknownVault plan.vaultContract)
    ++ onlyIf (PyUnicode.lower swap.toAddress != PyUnicode.lower plan.vaultContract)
      (.toNotVault swap.toAddress plan.vaultContract)
    ++ onlyIf (swap.value != plan.value) (.common (.ethValue swap.value plan.value))
    ++ onlyIf (plan.sourceToken != "" && plan.value != 0) (.tokenSendsEther plan.value)
    ++ onlyIf (swap.chainId != plan.chainId)
      (.common (.chainId swap.chainId plan.chainId))
    ++ onlyIf (PyUnicode.lower plan.refundAddress != PyUnicode.lower ownedAddress)
      (.refundNotOwned plan.refundAddress ownedAddress)
    ++ onlyIf (PyUnicode.lower (swap.data.getD "") != PyUnicode.lower expectedData)
      (.calldata swap.data expectedData)

/-- Reasons the transactions are not the vault swap we intend; empty means safe. -/
def verifyChainflipEvmVaultSwap (abi : EthAbi) (built : EthVaultSwapBuilt)
    (plan : ChainflipEvmVaultPlan) (now maxFeeWei : ℤ) (ownedAddress : String) :
    Except PyError (List EvmVaultProblem) := do
  let swap := built.swapTx
  let problems := envelopeProblems swap plan now ownedAddress
    ++ verifyVaultApprove abi built.approveTx plan
  match swap.data with
  | none => .error .attributeError
  | some data =>
      match fromHex (removePrefix data "0x") with
      | none => .error (.valueError "non-hexadecimal number found in fromhex() arg")
      | some raw =>
          match decodeEvmVaultCall raw with
          | none => .ok (problems ++ [.unreadableCall])
          | some call =>
              .ok (problems ++ callProblems call swap.value plan
                ++ onlyIf (decide (maxFeeWei < built.fee))
                  (.common (.maxFeeWei built.fee maxFeeWei)))

/-! ## What an empty list says -/

/-- The parameters of a passing call, with the two fields the plan leaves open. -/
theorem verifyVaultParameters_eq_nil {parameters : Bytes} {plan : ChainflipEvmVaultPlan} :
    verifyVaultParameters parameters plan = []
      ↔ ∃ decoded, decodeEvmVaultParameters parameters = some decoded
        ∧ decoded.version = evmVaultParamsVersion
        ∧ hex decoded.refundAddress
          = removePrefix (PyUnicode.lower plan.refundAddress) "0x"
        ∧ plan.minPrice ≤ decoded.minPrice
        ∧ (decoded.retryDuration : ℤ) = plan.retryDuration
        ∧ decoded.brokerFee = 0 ∧ decoded.boostFee = 0 ∧ decoded.affiliates = 0
        ∧ decoded.ccm = 0 ∧ decoded.oracleSlippage = 0 ∧ decoded.dca = 0 := by
  rw [verifyVaultParameters]
  cases decodeEvmVaultParameters parameters with
  | none => simp
  | some decoded =>
      simp only [List.append_eq_nil_iff, onlyIf_eq_nil, bne_eq_false_iff_eq,
        decide_eq_false_iff_not, not_lt, and_assoc, Option.some.injEq,
        exists_eq_left']

/-- A native swap has no `approve`; a token swap has one, for the amount. -/
theorem verifyVaultApprove_eq_nil {abi : EthAbi} {approve : Option EvmTx}
    {plan : ChainflipEvmVaultPlan} :
    verifyVaultApprove abi approve plan = []
      ↔ (plan.sourceToken = "" → approve = none)
        ∧ (plan.sourceToken ≠ "" → ∃ tx, approve = some tx
          ∧ PyUnicode.lower tx.toAddress = PyUnicode.lower plan.sourceToken
          ∧ tx.value = 0 ∧ tx.chainId = plan.chainId
          ∧ ∃ spender, decodeCall abi tx.data approveSelector
              = some (spender, plan.sourceAmount)
            ∧ PyUnicode.lower spender = PyUnicode.lower plan.vaultContract) := by
  unfold verifyVaultApprove
  by_cases htoken : plan.sourceToken = ""
  · rw [if_pos htoken]
    cases approve with
    | none => simp [htoken]
    | some tx => simp [htoken]
  · rw [if_neg htoken]
    cases approve with
    | none => simp [htoken]
    | some tx =>
        simp only [htoken, List.append_eq_nil_iff, onlyIf_eq_nil, bne_eq_false_iff_eq,
          and_assoc, false_implies, ne_eq, not_false_eq_true, forall_const, true_and,
          Option.some.injEq, exists_eq_left']
        refine and_congr_right fun _ => and_congr_right fun _ => and_congr_right fun _ => ?_
        cases decodeCall abi tx.data approveSelector with
        | none => simp [approveProblems]
        | some granted =>
            obtain ⟨spender, allowance⟩ := granted
            rw [approveProblems]
            simp only [List.append_eq_nil_iff, onlyIf_eq_nil, bne_eq_false_iff_eq,
              Option.some.injEq, Prod.mk.injEq]
            constructor
            · rintro ⟨hspender, hamount⟩
              exact ⟨spender, ⟨rfl, hamount⟩, hspender⟩
            · rintro ⟨_, ⟨rfl, hamount⟩, hspender⟩
              exact ⟨hspender, hamount⟩

theorem callProblems_eq_nil {call : DecodedEvmVaultCall} {swapValue : ℤ}
    {plan : ChainflipEvmVaultPlan} :
    callProblems call swapValue plan = []
      ↔ call.destination = plan.destinationBytes
        ∧ call.destinationAssetId = plan.destinationAssetId
        ∧ call.destinationChainId = plan.destinationChainId
        ∧ call.sourceToken = plan.sourceToken
        ∧ (plan.sourceToken = "" →
            swapValue = plan.sourceAmount ∧ call.sourceAmount = 0)
        ∧ (plan.sourceToken ≠ "" → (call.sourceAmount : ℤ) = plan.sourceAmount)
        ∧ verifyVaultParameters call.parameters plan = [] := by
  rw [callProblems]
  simp only [List.append_eq_nil_iff, onlyIf_eq_nil, bne_eq_false_iff_eq, and_assoc,
    Bool.and_eq_false_imp, beq_iff_eq]
  by_cases htoken : plan.sourceToken = "" <;> simp [htoken, and_assoc]

theorem envelopeProblems_eq_nil {swap : EvmTx} {plan : ChainflipEvmVaultPlan} {now : ℤ}
    {ownedAddress : String} :
    envelopeProblems swap plan now ownedAddress = []
      ↔ now < plan.expiry
        ∧ PyUnicode.lower plan.vaultContract ∈ plan.knownVaults
        ∧ PyUnicode.lower swap.toAddress = PyUnicode.lower plan.vaultContract
        ∧ swap.value = plan.value
        ∧ (plan.sourceToken ≠ "" → plan.value = 0)
        ∧ swap.chainId = plan.chainId
        ∧ PyUnicode.lower plan.refundAddress = PyUnicode.lower ownedAddress
        ∧ PyUnicode.lower (swap.data.getD "")
          = PyUnicode.lower ("0x" ++ hex plan.calldata) := by
  rw [envelopeProblems]
  simp only [List.append_eq_nil_iff, onlyIf_eq_nil, bne_eq_false_iff_eq, and_assoc,
    Bool.and_eq_false_imp, decide_eq_false_iff_not, not_le, Bool.not_eq_false',
    List.contains_iff_mem, bne_iff_ne]

/-- The gate returns a list only for calldata that reads as bytes. -/
theorem verifyChainflipEvmVaultSwap_eq_nil {abi : EthAbi} {built : EthVaultSwapBuilt}
    {plan : ChainflipEvmVaultPlan} {now maxFeeWei : ℤ} {ownedAddress : String} :
    verifyChainflipEvmVaultSwap abi built plan now maxFeeWei ownedAddress = .ok []
      ↔ ∃ data raw call, built.swapTx.data = some data
        ∧ fromHex (removePrefix data "0x") = some raw
        ∧ decodeEvmVaultCall raw = some call
        ∧ envelopeProblems built.swapTx plan now ownedAddress = []
        ∧ verifyVaultApprove abi built.approveTx plan = []
        ∧ callProblems call built.swapTx.value plan = []
        ∧ built.fee ≤ maxFeeWei := by
  rw [verifyChainflipEvmVaultSwap]
  cases built.swapTx.data with
  | none => simp
  | some data =>
      cases hraw : fromHex (removePrefix data "0x") with
      | none => simp [hraw]
      | some raw =>
          cases hcall : decodeEvmVaultCall raw with
          | none => simp [hraw, hcall]
          | some call =>
              simp [hraw, hcall]

/-! ## What a passing swap does -/

/-- What the user asks for, and the address of the key that will sign. -/
structure EvmVaultIntent where
  knownVaults : List String
  chainId : ℤ
  sourceToken : String
  sourceAmount : ℤ
  destinationChainId : ℕ
  destinationAssetId : ℕ
  destinationBytes : Bytes
  ownedAddress : String
  retryDuration : ℤ
  minPrice : ℤ

/-- A plan with this intent; what it takes from the encoder's answer is open. -/
def EvmVaultIntent.plan (intent : EvmVaultIntent) (vaultContract : String)
    (calldata : Bytes) (value expiry : ℤ) (refundAddress : String) :
    ChainflipEvmVaultPlan where
  vaultContract := vaultContract
  calldata := calldata
  value := value
  sourceToken := intent.sourceToken
  sourceAmount := intent.sourceAmount
  expiry := expiry
  chainId := intent.chainId
  destinationChainId := intent.destinationChainId
  destinationAssetId := intent.destinationAssetId
  destinationBytes := intent.destinationBytes
  refundAddress := refundAddress
  minPrice := intent.minPrice
  retryDuration := intent.retryDuration
  knownVaults := intent.knownVaults

/-- The parameters are the intended ones; the broker account is open and the
    price is at least the floor. -/
structure ParametersFulfil (intent : EvmVaultIntent)
    (params : DecodedEvmVaultParameters) : Prop where
  version : params.version = evmVaultParamsVersion
  retryDuration : (params.retryDuration : ℤ) = intent.retryDuration
  refund : hex params.refundAddress
    = removePrefix (PyUnicode.lower intent.ownedAddress) "0x"
  minPrice : intent.minPrice ≤ params.minPrice
  ccm : params.ccm = 0
  oracleSlippage : params.oracleSlippage = 0
  dca : params.dca = 0
  boostFee : params.boostFee = 0
  brokerFee : params.brokerFee = 0
  affiliates : params.affiliates = 0

/-- The transactions carry out the intent. -/
structure Fulfils (abi : EthAbi) (intent : EvmVaultIntent) (built : EthVaultSwapBuilt)
    (calldata : Bytes) (maxFeeWei : ℤ) : Prop where
  /-- The transaction carries the calldata. -/
  data : ∃ data, built.swapTx.data = some data
    ∧ fromHex (removePrefix data "0x") = some calldata
  /-- The calldata says what was asked for. -/
  call : ∃ call params, decodeEvmVaultCall calldata = some call
    ∧ call = { destinationChainId := intent.destinationChainId
               destination := intent.destinationBytes
               destinationAssetId := intent.destinationAssetId
               sourceToken := intent.sourceToken
               sourceAmount := call.sourceAmount
               parameters := call.parameters }
    ∧ (call.sourceAmount : ℤ) = (if intent.sourceToken = "" then 0 else intent.sourceAmount)
    ∧ decodeEvmVaultParameters call.parameters = some params
    ∧ ParametersFulfil intent params
  /-- It calls a published vault, on the intended chain. -/
  vault : PyUnicode.lower built.swapTx.toAddress ∈ intent.knownVaults
  chain : built.swapTx.chainId = intent.chainId
  /-- A native swap sends the amount, and nothing goes before it. -/
  native : intent.sourceToken = "" →
    built.swapTx.value = intent.sourceAmount ∧ built.txs = [built.swapTx]
  /-- A token swap sends no ether and follows one `approve` of the amount, on the
      token, to the vault that is called. -/
  token : intent.sourceToken ≠ "" → built.swapTx.value = 0
    ∧ ∃ approve, built.txs = [approve, built.swapTx]
      ∧ PyUnicode.lower approve.toAddress = PyUnicode.lower intent.sourceToken
      ∧ approve.value = 0 ∧ approve.chainId = intent.chainId
      ∧ ∃ spender, decodeCall abi approve.data approveSelector
          = some (spender, intent.sourceAmount)
        ∧ PyUnicode.lower spender = PyUnicode.lower built.swapTx.toAddress
  fee : (built.txs.map fun tx => tx.gas * tx.maxFeePerGas).sum ≤ maxFeeWei

omit [PyUnicode] in
/-- The planned calldata, as text, is ASCII. -/
theorem hexText_ascii (b : Bytes) : ∀ c ∈ ("0x" ++ hex b).toList, c.toNat < 128 := by
  intro c hc
  rw [String.toList_append, List.mem_append] at hc
  rcases hc with hc | hc
  · revert c
    exact forall_mem_of_all (by decide)
  · exact fromHexChars_ascii (fromHex_hex b) c hc

/-- Lower-casing leaves `0x` and a spelling alone. -/
theorem lower_hexText (b : Bytes) : PyUnicode.lower ("0x" ++ hex b) = "0x" ++ hex b := by
  rw [PyUnicode.lower_ascii _ (hexText_ascii b)]
  rw [String.toList_append, List.map_append, hex_map_toLower]
  show String.ofList ("0x".toList ++ (hex b).toList) = "0x" ++ hex b
  rw [← String.toList_append, String.ofList_toList]

/-- The parameters of a passing call. -/
theorem verifyVaultParameters_fulfil {intent : EvmVaultIntent} {parameters : Bytes}
    {vaultContract : String} {calldata : Bytes} {value expiry : ℤ} {refundAddress : String}
    (hrefund : PyUnicode.lower refundAddress = PyUnicode.lower intent.ownedAddress)
    (h : verifyVaultParameters parameters
      (intent.plan vaultContract calldata value expiry refundAddress) = []) :
    ∃ params, decodeEvmVaultParameters parameters = some params
      ∧ ParametersFulfil intent params := by
  obtain ⟨params, hparams, hversion, hto, hprice, hretry, hbroker, hboost, haffiliates,
    hccm, horacle, hdca⟩ := verifyVaultParameters_eq_nil.mp h
  refine ⟨params, hparams, hversion, hretry, ?_, hprice, hccm, horacle, hdca, hboost,
    hbroker, haffiliates⟩
  rw [← hrefund]
  exact hto

/-- **The EVM vault gate binds the intent**: whatever calldata the encoder
    returned, and whatever transactions were built around it, those that pass
    carry out what was asked for; and the parameters' decoder, on which that
    rests, loses no byte. -/
theorem verifyChainflipEvmVaultSwap_binds {abi : EthAbi} {intent : EvmVaultIntent}
    {built : EthVaultSwapBuilt} {vaultContract : String} {calldata : Bytes}
    {value expiry : ℤ} {refundAddress : String} {now maxFeeWei : ℤ}
    (h : verifyChainflipEvmVaultSwap abi built
      (intent.plan vaultContract calldata value expiry refundAddress) now maxFeeWei
      intent.ownedAddress = .ok []) :
    Fulfils abi intent built calldata maxFeeWei
      ∧ ∀ p q : Bytes, p.length = evmVaultParamsBytes → q.length = evmVaultParamsBytes →
        decodeEvmVaultParameters p = decodeEvmVaultParameters q → p = q := by
  refine ⟨?_, fun p q => decodeEvmVaultParameters_injective⟩
  obtain ⟨data, raw, call, hdata, hraw, hcall, henvelope, happrove, hpromise, hfee⟩ :=
    verifyChainflipEvmVaultSwap_eq_nil.mp h
  obtain ⟨-, hvault, hto, hvalue, hether, hchain, hrefund, hplanned⟩ :=
    envelopeProblems_eq_nil.mp henvelope
  obtain ⟨hdest, hasset, hdestChain, htoken, hmoved, hamount, hparameters⟩ :=
    callProblems_eq_nil.mp hpromise
  obtain ⟨hnative, hgranted⟩ := verifyVaultApprove_eq_nil.mp happrove
  obtain ⟨params, hparams, hfulfil⟩ := verifyVaultParameters_fulfil hrefund hparameters
  -- the transaction's own text, read as bytes, is the planned calldata
  have hbytes : raw = calldata := by
    rw [hdata, lower_hexText] at hplanned
    exact fromHex_of_lower hraw hplanned
  rw [hbytes] at hraw hcall
  refine {
    data := ⟨data, hdata, hraw⟩
    call := ⟨call, params, hcall, ?_, ?_, hparams, hfulfil⟩
    vault := hto ▸ hvault
    chain := hchain
    native := ?_
    token := ?_
    fee := hfee }
  · rw [show intent.destinationBytes = call.destination from hdest.symm,
      show intent.destinationAssetId = call.destinationAssetId from hasset.symm,
      show intent.destinationChainId = call.destinationChainId from hdestChain.symm,
      show intent.sourceToken = call.sourceToken from htoken.symm]
  · by_cases hnone : intent.sourceToken = ""
    · rw [if_pos hnone, (hmoved hnone).2]
      rfl
    · rw [if_neg hnone]
      exact hamount hnone
  · intro hnone
    refine ⟨(hmoved hnone).1, ?_⟩
    rw [EthVaultSwapBuilt.txs, hnative hnone]
    rfl
  · intro hsome
    obtain ⟨approve, hap, hon, hzero, hsame, spender, hdecode, hspender⟩ := hgranted hsome
    refine ⟨hvalue.trans (hether hsome), approve, ?_, hon, hzero, hsame, spender, hdecode,
      hspender.trans hto.symm⟩
    rw [EthVaultSwapBuilt.txs, hap]
    rfl

end Gate

/-! ## A token swap -/

/-- The ABI's own layout of an address and an amount. -/
def wordAbi : EthAbi where
  decodeAddressUint256 args :=
    if args.length < 64 ∨ 2 ^ 160 ≤ abiWord args 0 then none
    else some (tokenText (abiWord args 0), abiWord args 1)
  encodeAddressUint256 address amount :=
    match fromHex (removePrefix address "0x") with
    | none => none
    | some raw =>
        if raw.length ≠ 20 ∨ amount < 0 ∨ 2 ^ 256 ≤ amount then none
        else some (List.replicate 12 0 ++ raw ++ beBytes 32 amount.toNat)

def usdcIntent : EvmVaultIntent where
  knownVaults := ["0xf5e10380213880111522dd0efd3dbb45b9f62bcc"]
  chainId := 1
  sourceToken := "0xa0b86991c6218b36c1d19d4a2e9eb0ce3606eb48"
  sourceAmount := 1000000
  destinationChainId := 4
  destinationAssetId := 6
  destinationBytes := List.replicate 18 0 ++ [0xde, 0xad]
  ownedAddress := "0x9858EfFD232B4033E47d90003D41EC34EcaEda94"
  retryDuration := 100
  minPrice := 5

/-- The parameters the chain encodes for it, with a broker account of its own. -/
def usdcParameters : Bytes :=
  [1] ++ leBytes 4 100
    ++ [0x98, 0x58, 0xef, 0xfd, 0x23, 0x2b, 0x40, 0x33, 0xe4, 0x7d,
        0x90, 0x00, 0x3d, 0x41, 0xec, 0x34, 0xec, 0xae, 0xda, 0x94]
    ++ leBytes 32 6 ++ [0, 0, 0, 0] ++ List.replicate 32 7 ++ [0, 0, 0]

/-- Head, destination and parameters. -/
def usdcCalldata : Bytes :=
  [0x04, 0xfc, 0x7d, 0xa0]
    ++ beBytes 32 4 ++ beBytes 32 192 ++ beBytes 32 6
    ++ beBytes 32 0xa0b86991c6218b36c1d19d4a2e9eb0ce3606eb48
    ++ beBytes 32 1000000 ++ beBytes 32 256
    ++ beBytes 32 20 ++ (List.replicate 18 0 ++ [0xde, 0xad]) ++ List.replicate 12 0
    ++ beBytes 32 96 ++ usdcParameters

/-- `approve` of one USDC to the vault. -/
def usdcApprove : Bytes :=
  [0x09, 0x5e, 0xa7, 0xb3] ++ beBytes 32 0xf5e10380213880111522dd0efd3dbb45b9f62bcc
    ++ beBytes 32 1000000

def usdcBuilt : EthVaultSwapBuilt where
  approveTx := some {
    toAddress := "0xA0b86991c6218b36c1d19D4a2e9Eb0cE3606eB48"
    value := 0
    data := some ("0x" ++ hex usdcApprove)
    chainId := 1, nonce := 7, gas := 70000, maxFeePerGas := 10, maxPriorityFeePerGas := 1 }
  swapTx := {
    toAddress := "0xF5e10380213880111522dd0efD3dbb45b9f62Bcc"
    value := 0
    data := some ("0x" ++ hex usdcCalldata)
    chainId := 1, nonce := 8, gas := 250000, maxFeePerGas := 10, maxPriorityFeePerGas := 1 }

def usdcPlan : ChainflipEvmVaultPlan :=
  usdcIntent.plan "0xf5e10380213880111522dd0efd3dbb45b9f62bcc" usdcCalldata 0 600
    "0x9858EfFD232B4033E47d90003D41EC34EcaEda94"

/-- A text of `0x` and a spelling reads as the bytes spelled. -/
theorem fromHex_hexText (b : Bytes) : fromHex (removePrefix ("0x" ++ hex b) "0x") = some b := by
  rw [removePrefix_append, fromHex_hex]

theorem usdcCall_decoded : decodeEvmVaultCall usdcCalldata = some {
    destinationChainId := 4
    destination := usdcIntent.destinationBytes
    destinationAssetId := 6
    sourceToken := usdcIntent.sourceToken
    sourceAmount := 1000000
    parameters := usdcParameters } := by
  decide +kernel

/-- The swap passes. -/
theorem usdcBuilt_passes :
    @verifyChainflipEvmVaultSwap asciiUnicode wordAbi usdcBuilt usdcPlan 0 3200000
      usdcIntent.ownedAddress = .ok [] := by
  let _ : PyUnicode := asciiUnicode
  have henvelope : envelopeProblems usdcBuilt.swapTx usdcPlan 0 usdcIntent.ownedAddress = [] :=
    envelopeProblems_eq_nil.mpr
      ⟨by decide, by decide +kernel, by decide +kernel, rfl, fun _ => rfl, rfl, rfl, rfl⟩
  have hgranted : decodeCall wordAbi (some ("0x" ++ hex usdcApprove)) approveSelector
      = some ("0xf5e10380213880111522dd0efd3dbb45b9f62bcc", 1000000) := by
    unfold decodeCall
    dsimp only
    rw [fromHex_hexText]
    decide +kernel
  have happrove : verifyVaultApprove wordAbi usdcBuilt.approveTx usdcPlan = [] :=
    verifyVaultApprove_eq_nil.mpr ⟨by decide, fun _ =>
      ⟨_, rfl, by decide +kernel, rfl, rfl, _, hgranted, rfl⟩⟩
  exact verifyChainflipEvmVaultSwap_eq_nil.mpr
    ⟨_, _, _, rfl, fromHex_hexText usdcCalldata, usdcCall_decoded, henvelope, happrove,
      by decide +kernel, by decide⟩

/-- A swap of one USDC passes, and is the swap that was asked for. -/
theorem verifyChainflipEvmVaultSwap_binds_usdc :
    @Fulfils asciiUnicode wordAbi usdcIntent usdcBuilt usdcCalldata 3200000 :=
  (@verifyChainflipEvmVaultSwap_binds asciiUnicode wordAbi usdcIntent usdcBuilt
    "0xf5e10380213880111522dd0efd3dbb45b9f62bcc" usdcCalldata 0 600
    "0x9858EfFD232B4033E47d90003D41EC34EcaEda94" 0 3200000 usdcBuilt_passes).1

end SwapsackEvmVault
