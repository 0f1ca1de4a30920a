import Swapsack.ApprovalsProofs
import Swapsack.BackendsProofs
import Swapsack.SweepProofs
import Swapsack.ToleranceProofs

/-! # The EVM adapter

    One adapter serves every EVM chain; a chain overrides its ids, its tokens and
    what a plain send may use.  It builds a deposit or a plain send around an amount
    in 1e-8 units, and holds each against its plan.

    * `buildAndVerify_native`, `buildAndVerifySend_native` — the value and the gas of
      what is built;
    * `tokenDecimals_checksum` — a token is the same token in either spelling of its
      contract. -/

namespace SwapsackEvm

open ListKit ByteString PyText HexText SwapsackBase SwapsackVerify SwapsackBackends
open SwapsackEvmVault SwapsackSweep Rescaling
open SwapsackAddresses (ChecksumLib)
open SwapsackChainflip (checksummed)
open SwapsackAllowance (TokenAbi EthTokenBuiltSwap EthApprovals Gas DepositArgs IsAddress argsOf
  encodeDeposit depositSelector buildTokenDeposit isAddress_checksummed)

/-! ## Chains -/

def nativeSendGas : ℤ := 21000
def tokenTransferGas : ℤ := 65000
def defaultGas : ℤ := 60000

/-- What an adapter class says of its chain; the tracked tokens are symbol, contract
    and decimals, and a chain may have pools on some backends only. -/
structure EvmChain where
  chain : String
  asset : String
  nativeSymbol : String
  chainId : ℤ
  trackedTokens : List (String × String × ℕ)
  nativeSendGas : ℤ := SwapsackEvm.nativeSendGas
  lpBackends : Option (List String) := none

def ethereum : EvmChain where
  chain := "ETH"
  asset := "ETH.ETH"
  nativeSymbol := "ETH"
  chainId := 1
  trackedTokens := [("USDT", "0xdac17f958d2ee523a2206206994597c13d831ec7", 6),
    ("USDC", "0xa0b86991c6218b36c1d19d4a2e9eb0ce3606eb48", 6)]

/-- It bills the calldata of its own settlement as gas. -/
def arbitrum : EvmChain where
  chain := "ARB"
  asset := "ARB.ETH"
  nativeSymbol := "ETH"
  chainId := 42161
  trackedTokens := [("USDC", "0xaf88d065e77c8cc2239327c5edb3a432268e5831", 6)]
  nativeSendGas := 30000
  lpBackends := some ["maya"]

def avalanche : EvmChain where
  chain := "AVAX"
  asset := "AVAX.AVAX"
  nativeSymbol := "AVAX"
  chainId := 43114
  trackedTokens := [("USDC", "0xb97ef9ef8734c71904d8002f8b6bc66dd9c48a6e", 6),
    ("USDT", "0x9702230a8ea53601f5cd2dc00fdbc13d4df4a8c7", 6)]
  lpBackends := some ["thorchain"]

/-- Its tokens have the native coin's decimals. -/
def bsc : EvmChain where
  chain := "BSC"
  asset := "BSC.BNB"
  nativeSymbol := "BNB"
  chainId := 56
  trackedTokens := [("USDT", "0x55d398326f99059ff775485246999027b3197955", 18),
    ("USDC", "0x8ac76a51cc950d9822d68b83fe1ad97b32cd580d", 18)]
  lpBackends := some ["thorchain"]

def evmChains : List EvmChain := [ethereum, arbitrum, avalanche, bsc]

/-- A node of the chain: any answers whatsoever; a quantity is never negative, and a
    contract is known by its bytes. -/
structure EvmNode where
  transactionCount : String → Except PyError ℕ
  balance : String → Except PyError ℕ
  tokenBalance : Bytes → String → Except PyError ℕ
  decimals : Bytes → Except PyError ℕ
  allowance : Bytes → String → String → Except PyError ℕ
  maxPriorityFeePerGas : Except PyError ℕ
  baseFeePerGas : Except PyError ℕ

/-- The contract a request names, in either case; a node refuses what is no address. -/
def contractOf (token : String) : Except PyError Bytes :=
  let spelled := token.toList.map Char.toLower
  match fromHexChars (spelled.drop 2) with
  | some raw =>
      if spelled = ("0x" ++ hex raw).toList ∧ raw.length = 20 then .ok raw
      else .error (.runtimeError "RPC eth_call: invalid address")
  | none => .error (.runtimeError "RPC eth_call: invalid address")

/-- The adapter of a chain, for the key that derives `address`. -/
structure EvmAdapter extends EvmChain where
  node : EvmNode
  address : String
  lib : ChecksumLib
  abi : TokenAbi
  digestLength : ∀ b, (lib.keccak256 b).length = 32

/-- The fee cap and the tip, in wei. -/
def EvmAdapter.fetchFees (ad : EvmAdapter) : Except PyError (ℕ × ℕ) := do
  let tip ← ad.node.maxPriorityFeePerGas
  let base ← ad.node.baseFeePerGas
  .ok (base * 2 + tip, tip)

/-- An exception of a library. -/
def orLibrary {α : Type} : Option α → Except PyError α
  | some a => .ok a
  | none => .error .library

/-- `"-" in asset`. -/
def isToken (asset : String) : Bool := asset.toList.contains '-'

/-- `asset.split("-", 1)[1]`. -/
def tokenOf (asset : String) : String := String.ofList (partition '-' asset.toList).2.2

section Adapter

variable [PyUnicode]

/-- The decimals the wallet does not take a node's word for, by contract. -/
def EvmChain.knownTokenDecimals (c : EvmChain) : List (String × ℕ) :=
  c.trackedTokens.map fun (_, contract, decimals) =>
    ("0x" ++ removePrefix (PyUnicode.lower contract) "0x", decimals)

/-- A trusted constant for a known token, else what the node says. -/
def EvmAdapter.tokenDecimals (ad : EvmAdapter) (token : String) : Except PyError ℕ :=
  match ad.knownTokenDecimals.lookup ("0x" ++ removePrefix (PyUnicode.lower token) "0x") with
  | some decimals => .ok decimals
  | none => contractOf token >>= ad.node.decimals

/-- `balanceOf` in the token's own units, of the adapter's key. -/
def EvmAdapter.fetchTokenBalance (ad : EvmAdapter) (token : String) : Except PyError ℕ := do
  let contract ← contractOf token
  ad.node.tokenBalance contract ad.address

/-! ## What is built -/

/-- A deposit or a plain send, with the fields the gates read. -/
structure EthBuiltSwap where
  tx : EvmTx
  toAddress : String
  value : ℤ
  data : String
  chainId : ℤ
  gas : ℤ
  maxFeePerGas : ℤ
deriving DecidableEq

/-- The worst-case fee of transactions. -/
def totalFee (txs : List EvmTx) : ℤ := (txs.map fun tx => tx.gas * tx.maxFeePerGas).sum

/-- The intent of a plain native send. -/
structure EthSendPlan where
  recipient : String
  amountWei : ℤ
  chainId : ℤ := 1

/-- The intent of a plain token send. -/
structure EthTokenSendPlan where
  token : String
  recipient : String
  amount : ℤ
  chainId : ℤ := 1

/-- Native units of 1e-8 units. -/
def nativeUnits (amount : ℤ) (decimals : ℕ) : ℤ := rescale (10 ^ 8) (10 ^ decimals) amount

def transferSelector : String := "a9059cbb"

/-- `transfer(to, amount)`. -/
def encodeTransfer (abi : EthAbi) (toAddress : String) (amount : ℤ) : Option String :=
  (abi.encodeAddressUint256 toAddress amount).map fun args => "0x" ++ transferSelector ++ hex args

/-- A payment of `amount` 1e-8 units, with the memo as calldata. -/
def buildUnsignedSwap (ad : EvmAdapter) (vaultAddress : String) (amount : ℤ) (memo : String)
    (gas : ℤ) (fees : Gas) : Except PyError EthBuiltSwap := do
  let toAddress ← checksummed ad.lib vaultAddress
  let value := amount * weiPerThorchainUnit
  let data := "0x" ++ hex (encodeUtf8 memo)
  .ok
    { tx :=
        { toAddress, value, data := some data, chainId := ad.chainId, nonce := fees.nonce
          gas, maxFeePerGas := fees.maxFeePerGas
          maxPriorityFeePerGas := fees.maxPriorityFeePerGas }
      toAddress, value, data, chainId := ad.chainId, gas, maxFeePerGas := fees.maxFeePerGas }

/-- An `approve` and a router deposit of `amount` 1e-8 units of a token. -/
def buildTokenSwap (ad : EvmAdapter) (fromAsset : String) (amount : ℤ) (quote : Quote)
    (fees : Gas) (decimals : ℕ) : Except PyError EthTokenBuiltSwap :=
  buildTokenDeposit ad.abi ad.lib ad.chainId (tokenOf fromAsset) (orText quote.router "")
    quote.inboundAddress (nativeUnits amount decimals) (orText quote.memo "") quote.expiry fees

/-! ## Gates -/

omit [PyUnicode] in
/-- `problems.append(text)` on a condition. -/
def complain (bad : Bool) (text : String) : List String := if bad then [text] else []

/-- Reasons a plain send does not match its plan. -/
def verifyEthSend (built : EthBuiltSwap) (plan : EthSendPlan) (maxFeeWei : ℤ) : List String :=
  let total := built.gas * built.maxFeePerGas
  complain (PyUnicode.lower built.toAddress != PyUnicode.lower plan.recipient)
      s!"tx 'to' {built.toAddress} != recipient {plan.recipient}"
    ++ complain (built.value != plan.amountWei)
        s!"tx value {built.value} wei != intended {plan.amountWei}"
    ++ complain (built.data != "0x" && built.data != "")
        ("plain ETH send must carry no calldata, got " ++ PyUnicode.repr built.data)
    ++ complain (built.chainId != plan.chainId)
        s!"chainId {built.chainId} != {plan.chainId}"
    ++ complain (decide (maxFeeWei < total)) s!"max fee {total} wei exceeds limit {maxFeeWei}"

/-- Reasons a token send does not match its plan; the recipient and the amount have
    been read back from the calldata. -/
def verifyEthTokenSend (built : EthBuiltSwap) (recipient : String) (transferAmount : ℤ)
    (plan : EthTokenSendPlan) (maxFeeWei : ℤ) : List String :=
  let total := built.gas * built.maxFeePerGas
  complain (PyUnicode.lower built.toAddress != PyUnicode.lower plan.token)
      s!"tx 'to' {built.toAddress} != token contract {plan.token}"
    ++ complain (built.value != 0)
        s!"token send must not send ETH value (got {built.value})"
    ++ complain (PyUnicode.lower recipient != PyUnicode.lower plan.recipient)
        s!"transfer pays {recipient} != recipient {plan.recipient}"
    ++ complain (transferAmount != plan.amount)
        s!"transfer amount {transferAmount} != intended {plan.amount}"
    ++ complain (built.chainId != plan.chainId)
        s!"chainId {built.chainId} != {plan.chainId}"
    ++ complain (decide (maxFeeWei < total)) s!"max fee {total} wei exceeds limit {maxFeeWei}"

/-- What the gate of a token deposit says of the `approve`. -/
def depositApproveProblems (abi : TokenAbi) (built : EthTokenBuiltSwap) : List String :=
  match decodeCall abi.toEthAbi built.approveTx.data approveSelector with
  | none => ["approve calldata could not be decoded"]
  | some (spender, allowance) =>
      complain (PyUnicode.lower spender != PyUnicode.lower built.router)
          s!"approve spender {spender} != router {built.router}"
        ++ complain (allowance != built.nativeAmount)
          s!"approve amount {allowance} != {built.nativeAmount}"

/-- What it says of the deposit. -/
def depositCallProblems (abi : TokenAbi) (built : EthTokenBuiltSwap) (destination : String) :
    List String :=
  match (argsOf built.depositTx.data depositSelector).bind abi.decodeDepositArgs with
  | none => ["deposit calldata could not be decoded"]
  | some args =>
      let found := PyUnicode.repr args.memo
      let planned := PyUnicode.repr built.memo
      complain (PyUnicode.lower args.vault != PyUnicode.lower built.vault)
          s!"deposit vault {args.vault} != {built.vault}"
        ++ complain (PyUnicode.lower args.token != PyUnicode.lower built.token)
          s!"deposit token {args.token} != {built.token}"
        ++ complain (args.amount != built.nativeAmount)
          s!"deposit amount {args.amount} != {built.nativeAmount}"
        ++ complain (args.memo != built.memo) s!"deposit memo {found} != {planned}"
        ++ complain (args.expiry != built.expiry)
          s!"deposit expiry {args.expiry} != {built.expiry}"
        ++ complain (!memoPaysDestination destination (.text args.memo))
          s!"memo {found} does not pay destination {destination}"

/-- Reasons a token deposit is not the one that is meant. -/
def verifyEthTokenSwap (abi : TokenAbi) (built : EthTokenBuiltSwap) (destination : String)
    (now maxFeeWei : ℤ) : List String :=
  let approve := built.approveTx
  let deposit := built.depositTx
  let total := totalFee built.txs
  complain (decide (built.expiry ≤ now)) s!"quote expired (now {now} >= expiry {built.expiry})"
    ++ complain (PyUnicode.lower approve.toAddress != PyUnicode.lower built.token)
        s!"approve 'to' {approve.toAddress} != token {built.token}"
    ++ complain (PyUnicode.lower deposit.toAddress != PyUnicode.lower built.router)
        s!"deposit 'to' {deposit.toAddress} != router {built.router}"
    ++ complain (approve.value != 0 || deposit.value != 0) "token txs must not send ETH value"
    ++ complain (approve.chainId != built.chainId || deposit.chainId != built.chainId)
        "wrong chainId"
    ++ depositApproveProblems abi built
    ++ depositCallProblems abi built destination
    ++ complain (decide (maxFeeWei < total)) s!"max fee {total} wei exceeds limit {maxFeeWei}"

/-! ## Build, then gate -/

/-- What a signed order is to sell, the quote it is made of, and the `approve`s it
    needs. -/
structure CowSale where
  sellToken : String
  buyToken : String
  receiver : String
  sellAmount : ℤ
  quote : SwapsackQuoteParsing.ParsedCowQuote
  approvals : EthApprovals

/-- What can be built. -/
inductive EvmBuilt where
  | swap (built : EthBuiltSwap)
  | token (built : EthTokenBuiltSwap)
  | vault (built : EthVaultSwapBuilt)
  | sale (sale : CowSale)

/-- What one of the gates says. -/
inductive GateProblem where
  | swap (problem : Problem)
  | vault (problem : EvmVaultProblem)
  | text (problem : String)

structure Prepared where
  built : EvmBuilt
  problems : List GateProblem

omit [PyUnicode] in
def EvmBuilt.txs : EvmBuilt → List EvmTx
  | swap built => [built.tx]
  | token built => built.txs
  | vault built => built.txs
  | sale order => order.approvals.txs

/-- The deposit of a quoted swap. -/
def buildAndVerify (ad : EvmAdapter) (quote : Quote) (fromAsset : String) (amount : ℤ)
    (destination : String) (now gas : ℤ) (fees : Gas) (maxFeeWei : ℤ) :
    Except PyError Prepared :=
  if isToken fromAsset then do
    let decimals ← ad.tokenDecimals (tokenOf fromAsset)
    let built ← buildTokenSwap ad fromAsset amount quote fees decimals
    let problems := verifyEthTokenSwap ad.abi built destination now maxFeeWei
    .ok { built := .token built, problems := problems.map .text }
  else do
    let memo := orText quote.memo ""
    let built ← buildUnsignedSwap ad quote.inboundAddress amount memo gas fees
    let plan : EthSwapPlan :=
      { inboundAddress := quote.inboundAddress, amountWei := amount * weiPerThorchainUnit, memo
        expiry := quote.expiry, chainId := ad.chainId, destination }
    let problems := verifyEthSwap (some built.toAddress) built.value (some built.data)
      built.chainId built.gas built.maxFeePerGas plan now maxFeeWei
    .ok { built := .swap built, problems := problems.map .swap }

/-- A Chainflip vault swap; its gas is not the caller's. -/
def buildAndVerifyVaultSwap (ad : EvmAdapter) (plan : ChainflipEvmVaultPlan) (now : ℤ)
    (fees : Gas) (maxFeeWei : ℤ) : Except PyError Prepared := do
  let built ← SwapsackChainflip.buildVaultSwap ad.lib ad.abi.toEthAbi plan
    { chainId := ad.chainId, nonce := fees.nonce, maxFeePerGas := fees.maxFeePerGas
      maxPriorityFeePerGas := fees.maxPriorityFeePerGas }
  let problems ← verifyChainflipEvmVaultSwap ad.abi.toEthAbi built plan now maxFeeWei ad.address
  .ok { built := .vault built, problems := problems.map .vault }

/-- A plain token send: one `transfer`. -/
def buildAndVerifyTokenSend (ad : EvmAdapter) (recipient : String) (amount : ℤ) (asset : String)
    (fees : Gas) (maxFeeWei : ℤ) : Except PyError Prepared := do
  let token ← checksummed ad.lib (tokenOf asset)
  let toAddress ← checksummed ad.lib recipient
  let decimals ← ad.tokenDecimals token
  let native := nativeUnits amount decimals
  let data ← orLibrary (encodeTransfer ad.abi.toEthAbi toAddress native)
  let built : EthBuiltSwap :=
    { tx :=
        { toAddress := token, value := 0, data := some data, chainId := ad.chainId
          nonce := fees.nonce, gas := tokenTransferGas, maxFeePerGas := fees.maxFeePerGas
          maxPriorityFeePerGas := fees.maxPriorityFeePerGas }
      toAddress := token, value := 0, data, chainId := ad.chainId, gas := tokenTransferGas
      maxFeePerGas := fees.maxFeePerGas }
  let plan : EthTokenSendPlan :=
    { token, recipient := toAddress, amount := native, chainId := ad.chainId }
  let problems := match decodeCall ad.abi.toEthAbi (some data) transferSelector with
    | none => ["transfer calldata could not be decoded"]
    | some (found, transferAmount) =>
        verifyEthTokenSend built found transferAmount plan maxFeeWei
  .ok { built := .swap built, problems := problems.map .text }

/-- A plain send: no swap, no memo, no router. -/
def buildAndVerifySend (ad : EvmAdapter) (recipient : String) (amount : ℤ) (asset : String)
    (fees : Gas) (maxFeeWei : ℤ) : Except PyError Prepared :=
  if isToken asset then buildAndVerifyTokenSend ad recipient amount asset fees maxFeeWei
  else do
    let built ← buildUnsignedSwap ad recipient amount "" ad.nativeSendGas fees
    let plan : EthSendPlan :=
      { recipient := built.toAddress, amountWei := amount * weiPerThorchainUnit
        chainId := ad.chainId }
    .ok { built := .swap built, problems := (verifyEthSend built plan maxFeeWei).map .text }

/-! ## Value and gas -/

/-- What transactions can take from the native balance. -/
def spent (txs : List EvmTx) : ℤ := (txs.map fun tx => tx.value + tx.gas * tx.maxFeePerGas).sum

omit [PyUnicode] in
theorem spent_singleton (tx : EvmTx) : spent [tx] = tx.value + tx.gas * tx.maxFeePerGas :=
  Int.add_zero _

omit [PyUnicode] in
theorem orLibrary_eq_ok {α : Type} {x : Option α} {a : α} (h : orLibrary x = .ok a) :
    x = some a := by
  cases x with
  | none => cases h
  | some found =>
      cases h
      rfl

omit [PyUnicode] in
theorem buildUnsignedSwap_ok {ad : EvmAdapter} {vaultAddress memo : String} {amount gas : ℤ}
    {fees : Gas} {built : EthBuiltSwap}
    (h : buildUnsignedSwap ad vaultAddress amount memo gas fees = .ok built) :
    built.tx.value = amount * weiPerThorchainUnit ∧ built.tx.gas = gas
      ∧ built.tx.maxFeePerGas = fees.maxFeePerGas := by
  obtain ⟨toAddress, -, h⟩ := bind_eq_ok h
  cases h
  exact ⟨rfl, rfl, rfl⟩

omit [PyUnicode] in
/-- A payment takes its value and the gas it is given. -/
theorem spent_unsignedSwap {ad : EvmAdapter} {vaultAddress memo : String} {amount gas : ℤ}
    {fees : Gas} {built : EthBuiltSwap}
    (h : buildUnsignedSwap ad vaultAddress amount memo gas fees = .ok built) :
    spent [built.tx] = amount * weiPerThorchainUnit + gas * fees.maxFeePerGas := by
  obtain ⟨hvalue, hgas, hfee⟩ := buildUnsignedSwap_ok h
  rw [spent_singleton, hvalue, hgas, hfee]

/-- A native deposit takes its value and the caller's gas. -/
theorem buildAndVerify_native {ad : EvmAdapter} {quote : Quote} {fromAsset destination : String}
    {amount now gas maxFeeWei : ℤ} {fees : Gas} {prepared : Prepared}
    (h : buildAndVerify ad quote fromAsset amount destination now gas fees maxFeeWei
      = .ok prepared) (hnative : isToken fromAsset = false) :
    spent prepared.built.txs = amount * weiPerThorchainUnit + gas * fees.maxFeePerGas := by
  rw [buildAndVerify, hnative, if_neg Bool.false_ne_true] at h
  obtain ⟨built, hbuilt, h⟩ := bind_eq_ok h
  cases h
  exact spent_unsignedSwap hbuilt

/-- A plain native send takes its value and the chain's gas for one. -/
theorem buildAndVerifySend_native {ad : EvmAdapter} {recipient asset : String}
    {amount maxFeeWei : ℤ} {fees : Gas} {prepared : Prepared}
    (h : buildAndVerifySend ad recipient amount asset fees maxFeeWei = .ok prepared)
    (hnative : isToken asset = false) :
    spent prepared.built.txs
      = amount * weiPerThorchainUnit + ad.nativeSendGas * fees.maxFeePerGas := by
  rw [buildAndVerifySend, hnative, if_neg Bool.false_ne_true] at h
  obtain ⟨built, hbuilt, h⟩ := bind_eq_ok h
  cases h
  exact spent_unsignedSwap hbuilt

/-! ## Spellings of a contract -/

omit [PyUnicode] in
/-- A contract is named by its address. -/
theorem contractOf_eq_ok_iff {token : String} {raw : Bytes} :
    contractOf token = .ok raw ↔ IsAddress token raw := by
  constructor
  · intro h
    rw [contractOf] at h
    split at h
    · split at h
      · rename_i hspelled
        cases h
        exact hspelled
      · cases h
    · cases h
  · intro h
    have hdigits : (token.toList.map Char.toLower).drop 2 = (hex raw).toList := by
      rw [h.1, String.toList_append]
      rfl
    have hraw : fromHexChars (hex raw).toList = some raw := fromHex_hex raw
    rw [contractOf, hdigits, hraw]
    exact if_pos h

/-- Whatever its case, a contract has one key. -/
theorem key_contract {token : String} {raw : Bytes} (h : contractOf token = .ok raw) :
    "0x" ++ removePrefix (PyUnicode.lower token) "0x" = "0x" ++ hex raw := by
  rw [(contractOf_eq_ok_iff.mp h).lower, removePrefix_append]

omit [PyUnicode] in
/-- Its checksummed text names the same contract. -/
theorem checksum_contract {ad : EvmAdapter} {token spelled : String} {raw : Bytes}
    (hchecksum : checksummed ad.lib token = .ok spelled)
    (h : contractOf token = .ok raw) : contractOf spelled = .ok raw := by
  obtain ⟨found, hfound, hsame⟩ :=
    isAddress_checksummed ad.digestLength (contractOf_eq_ok_iff.mp h)
  obtain rfl : spelled = found := Except.ok.inj (hchecksum.symm.trans hfound)
  exact contractOf_eq_ok_iff.mpr hsame

/-- A token's decimals do not depend on the case of its contract. -/
theorem tokenDecimals_checksum {ad : EvmAdapter} {token spelled : String} {raw : Bytes}
    (hchecksum : checksummed ad.lib token = .ok spelled)
    (h : contractOf token = .ok raw) :
    ad.tokenDecimals spelled = ad.tokenDecimals token := by
  have hsame := checksum_contract hchecksum h
  rw [EvmAdapter.tokenDecimals, EvmAdapter.tokenDecimals, key_contract h, key_contract hsame,
    h, hsame]

end Adapter

end SwapsackEvm
