import Swapsack.AddressesProofs
import Swapsack.EvmVaultProofs
import Swapsack.GatedProofs

/-! # Preparing a Chainflip vault swap

    Before anything is built, the wallet asks the chain to encode the swap and
    looks at the answer.  The gates look again, at the transaction built from
    it, over data that has gone through other hands: hex of either case, a
    native or a token leg, a plan assembled by the caller.

    * `verifyChainflipVaultSwap_repeats`, `verifyChainflipEvmVaultSwap_repeats`
      — an answer the preparation refuses does not pass the gate;
    * `gates_repeat_preparation` — both, from the RPC's answer to the gate on
      the transaction built from it.

    The one refusal that is not repeated is about the answer's own
    `source_token_address`, which no transaction carries. -/

namespace SwapsackChainflip

open ListKit ByteString PyText HexText SwapsackBase SwapsackVerify
open SwapsackVaultSwap SwapsackEvmVault
open SwapsackAddresses (ChecksumLib toChecksumAddress)
open SwapsackGated (GatedTxBuilder ownedAddresses)

/-! ## Tables -/

/-- The Chainflip chain and asset of each asset the wallet knows. -/
def chainflipAssets : List (String × String × String) :=
  [("BTC.BTC", "Bitcoin", "BTC"),
   ("ETH.ETH", "Ethereum", "ETH"),
   ("ETH.USDC-0XA0B86991C6218B36C1D19D4A2E9EB0CE3606EB48", "Ethereum", "USDC"),
   ("ETH.USDT-0XDAC17F958D2EE523A2206206994597C13D831EC7", "Ethereum", "USDT"),
   ("ARB.ETH", "Arbitrum", "ETH"),
   ("ARB.USDC-0XAF88D065E77C8CC2239327C5EDB3A432268E5831", "Arbitrum", "USDC"),
   ("TRON.TRX", "Tron", "TRX"),
   ("TRON.USDT-TR7NHQJEKQXGTCI8Q8ZY4PL8OTSZGJLJ6T", "Tron", "USDT")]

def vaultSwapAssetIds : List (String × ℕ) :=
  [("ETH.ETH", 1),
   ("ETH.USDC-0XA0B86991C6218B36C1D19D4A2E9EB0CE3606EB48", 3),
   ("BTC.BTC", 5),
   ("ARB.ETH", 6),
   ("ARB.USDC-0XAF88D065E77C8CC2239327C5EDB3A432268E5831", 7),
   ("ETH.USDT-0XDAC17F958D2EE523A2206206994597C13D831EC7", 8)]

/-- Chainflip's own chain ids. -/
def vaultSwapChainIds : List (String × ℕ) :=
  [("Ethereum", 1), ("Bitcoin", 3), ("Arbitrum", 4)]

def evmVaultChains : List String := ["Ethereum", "Arbitrum"]

/-- The EIP-155 chain ids, to which a signature commits. -/
def evmChainIds : List (String × ℤ) := [("Ethereum", 1), ("Arbitrum", 42161)]

def defaultRetryDurationBlocks : ℕ := 100

def defaultBrokerAccounts : List String :=
  ["cFLRQDfEdmnv6d2XfHJNRBQHi4fruPMReLSfvB8WWD2ENbqj7",
   "cFNx21kQWmr9wsqq29zWM7RpDBKv4bctudEUE6J22Hd4NUUHR",
   "cFL4To8Uow6B1hk4dNrhWhvKpkBtnUTrVdWCEKCaXiXMMztjM",
   "cFKpid38PmmZ8V81AHaZAhHzzpRbsf7Xw5PYt5ajTXAUvHoTQ",
   "cFNwtr2mPhpUEB5AyJq38DqMKMkSdzaL9548hajN2DRTwh7Mq"]

/-- What a broker says that will not encode for us, as opposed to the chain
    refusing the swap. -/
def brokerRefusals : List String :=
  ["Broker commission is too low", "NoPrivateChannelExistsForBroker"]

/-- The chain an asset lives on, or the empty text. -/
def vaultChain (asset : String) : String :=
  match chainflipAssets.lookup asset with
  | some (chain, _) => chain
  | none => ""

/-- The token contract in `CHAIN.SYMBOL-0X…`, or the empty text. -/
def tokenContract [PyUnicode] (asset : String) : String :=
  PyUnicode.lower (String.ofList (partition '-' asset.toList).2.2)

/-! ## Quotes, answers and errors -/

/-- What the preparation reads of a quote, in the assets' own units. -/
structure ChainflipQuote where
  egressAmount : ℤ
  depositAmount : ℤ
  recommendedSlippageBps : ℤ
  ingressFee : ℤ := 0
  egressFee : ℤ := 0
  unusableFeeLegs : String := ""

/-- Why a swap cannot be prepared, with what the message shows. -/
inductive ChainflipError where
  | rpc (text : String)
  | noBrokerAvailable (refusals : List (String × String))
  | missing (key : String)
  | notBitcoinSource (asset : String)
  | notEvmSource (asset : String)
  | cannotPay (asset : String)
  | inputAmount (amount : ℤ)
  | quotedDeposit (quoted sent : ℤ)
  | unsupportedAsset (asset : String)
  | destinationNotAscii (address : String)
  | destinationPrefix (asset address : String)
  | destinationNotHex (address : String)
  | destinationBytes (address : String) (bytes : ℕ)
  | tolerance (bps : ℤ)
  | unusableFeeLegs (reason : String)
  | ingressSwallowsDeposit (fee deposit : ℤ)
  | malformedEncoding
  -- about the answer
  | unknownDeposit (address : String)
  | payloadBytes (found : ℕ)
  | payloadDestination (found : Bytes)
  | payloadAsset (found intended : ℕ)
  | payloadMinOutput (found : ℕ) (floor : ℤ)
  | skim (fee : ℕ) (label : String)
  | unknownContract (contract chain : String)
  | answerToken (found expected asset : String)
  | unreadableCall
  | callToken (found expected : String)
  | callMoves (moved idle intended : ℤ)
  | callDestination (found : Bytes)
  | callAsset (found intended : ℕ)
  | callChain (found intended : ℕ)
  | paramsBytes (found : ℕ)
  | paramsRefund (found : Bytes) (intended : String)
  | paramsMinPrice (found : ℕ) (floor : ℤ)
  | paramsRetry (found intended : ℕ)
deriving DecidableEq

/-- The answer names a token other than the one asked for.  Every other refusal
    of an answer is about its address, its payload or calldata, or its value. -/
def ChainflipError.blamesToken : ChainflipError → Bool
  | .answerToken .. => true
  | _ => false

/-- The chain-specific half of an encoding request. -/
inductive ExtraParameters where
  | bitcoin (minOutputAmount : ℤ) (retryDuration : ℕ)
  | evm (chain : String) (inputAmount : ℤ) (refundAddress : String) (minPrice : ℤ)
      (retryDuration : ℕ)

/-- The parameters of `cf_request_swap_parameter_encoding`. -/
structure EncodeParams where
  account : String
  fromAsset : String × String
  toAsset : String × String
  destination : String
  brokerCommission : ℕ
  extra : ExtraParameters

/-- The fields of an encoding answer, as texts; a field that is not there is none.
    `value` has been read as a hexadecimal integer, none when it is not one. -/
structure EncodeAnswer where
  depositAddress : Option String := none
  nulldataPayload : Option String := none
  toAddress : Option String := none
  calldata : Option String := none
  value : Option ℤ := none
  sourceTokenAddress : Option String := none

/-- The State Chain's node: any answers whatsoever. -/
structure ChainflipRpc where
  bitcoinVaultAddresses : Except ChainflipError (List String)
  evmVaultAddresses : String → Except ChainflipError (List String)
  encode : EncodeParams → Except String EncodeAnswer

/-! ## What is asked for -/

/-- An entry of a table that must be there. -/
def lookupKey {ν : Type} (table : List (String × ν)) (key : String) :
    Except ChainflipError ν :=
  match table.lookup key with
  | some v => .ok v
  | none => .error (.missing key)

/-- The raw destination bytes a vault swap carries. -/
def destinationBytes [PyUnicode] (asset address : String) : Except ChainflipError Bytes :=
  if (vaultSwapAssetIds.lookup asset).isNone then .error (.unsupportedAsset asset)
  else if vaultChain asset = "Bitcoin" then
    if address.toList.all fun c => decide (c.toNat < 128) then .ok (encodeUtf8 address)
    else .error (.destinationNotAscii address)
  else if !startsWith (PyUnicode.lower address) "0x" then
    .error (.destinationPrefix asset address)
  else
    match fromHexChars (address.toList.drop 2) with
    | none => .error (.destinationNotHex address)
    | some raw =>
        if raw.length ≠ 20 then .error (.destinationBytes address raw.length) else .ok raw

/-- The on-chain floor to encode: the quote less the tolerance. -/
def minOutputAmount (quote : ChainflipQuote) (bps : Option ℤ) : Except ChainflipError ℤ :=
  let bps := bps.getD quote.recommendedSlippageBps
  if 0 ≤ bps ∧ bps < 10000 then .ok (quote.egressAmount * (10000 - bps) / 10000)
  else .error (.tolerance bps)

/-- The floor as a price, scaled by `2 ^ 128` and rounded up, with the output it
    buys. -/
def minPrice (quote : ChainflipQuote) (bps : Option ℤ) :
    Except ChainflipError (ℤ × ℤ) := do
  if quote.unusableFeeLegs ≠ "" then .error (.unusableFeeLegs quote.unusableFeeLegs)
  else
    let floor ← minOutputAmount quote bps
    let swapInput := quote.depositAmount - quote.ingressFee
    if swapInput ≤ 0 then
      .error (.ingressSwallowsDeposit quote.ingressFee quote.depositAmount)
    else
      let numerator := (floor + quote.egressFee) * 2 ^ 128
      .ok (-(-numerator / swapInput), floor)

/-- The first broker's answer; one that will not encode on our terms is skipped. -/
def requestEncoding (rpc : ChainflipRpc) (params : String → EncodeParams) :
    List String → List (String × String) → Except ChainflipError EncodeAnswer
  | [], refusals => .error (.noBrokerAvailable refusals)
  | account :: accounts, refusals =>
      match rpc.encode (params account) with
      | .ok answer => .ok answer
      | .error text =>
          if brokerRefusals.any fun refusal => isIn refusal text then
            requestEncoding rpc params accounts (refusals ++ [(account, text)])
          else .error (.rpc text)

/-- A fee nobody asked for. -/
def refuseSkim (fees : List (ℕ × String)) : Except ChainflipError Unit :=
  match fees.find? fun fee => fee.1 != 0 with
  | some (fee, label) => .error (.skim fee label)
  | none => .ok ()

theorem refuseSkim_ok {fees : List (ℕ × String)} (h : ∀ fee ∈ fees, fee.1 = 0) :
    refuseSkim fees = .ok () := by
  have hnone : fees.find? (fun fee => fee.1 != 0) = none := by
    rw [List.find?_eq_none]
    intro fee hfee
    rw [h fee hfee]
    decide
  rw [refuseSkim, hnone]

/-! ## From Bitcoin -/

/-- An unsigned vault swap: where to pay, what to say, and what the gate needs. -/
structure VaultSwap where
  depositAddress : String
  payload : Bytes
  knownVaults : List String
  destinationAssetId : ℕ
  destinationBytes : Bytes
  minOutputAmount : ℤ
deriving DecidableEq

/-- What the user asks for. -/
structure VaultRequest where
  fromAsset : String
  toAsset : String
  destination : String
  quote : ChainflipQuote
  bps : Option ℤ

section Prepare

variable [PyUnicode]

/-- `bytes.fromhex(raw[2:] if raw.lower().startswith("0x") else raw)` -/
def payloadBytes (raw : String) : Option Bytes :=
  fromHexChars (if startsWith (PyUnicode.lower raw) "0x" then raw.toList.drop 2
    else raw.toList)

/-- The deposit address and the payload of an answer. -/
def parseEncoding (answer : EncodeAnswer) : Except ChainflipError (String × Bytes) :=
  match answer.depositAddress, answer.nulldataPayload.bind payloadBytes with
  | some depositAddress, some payload => .ok (depositAddress, payload)
  | _, _ => .error .malformedEncoding

/-- The swap a well-formed answer describes, not looked at yet. -/
def answeredVaultSwap (rpc : ChainflipRpc) (request : VaultRequest) :
    Except ChainflipError VaultSwap := do
  if vaultChain request.fromAsset ≠ "Bitcoin" then
    .error (.notBitcoinSource request.fromAsset)
  else if !evmVaultChains.contains (vaultChain request.toAsset) then
    .error (.cannotPay request.toAsset)
  else
    let expectedDest ← destinationBytes request.toAsset request.destination
    let assetId ← lookupKey vaultSwapAssetIds request.toAsset
    let floor ← minOutputAmount request.quote request.bps
    let vaults ← rpc.bitcoinVaultAddresses
    let fromAsset ← lookupKey chainflipAssets request.fromAsset
    let toAsset ← lookupKey chainflipAssets request.toAsset
    let answer ← requestEncoding rpc (fun account => {
      account, fromAsset, toAsset
      destination := request.destination
      brokerCommission := 0
      extra := .bitcoin floor defaultRetryDurationBlocks }) defaultBrokerAccounts []
    let (depositAddress, payload) ← parseEncoding answer
    .ok {
      depositAddress, payload
      knownVaults := vaults
      destinationAssetId := assetId
      destinationBytes := expectedDest
      minOutputAmount := floor }

omit [PyUnicode] in
/-- The preparation's look at an answer. -/
def checkVaultSwap (swap : VaultSwap) : Except ChainflipError Unit :=
  if !swap.knownVaults.contains swap.depositAddress then
    .error (.unknownDeposit swap.depositAddress)
  else
    match decodeVaultSwapPayload swap.payload with
    | none => .error (.payloadBytes swap.payload.length)
    | some decoded =>
        if decoded.destination ≠ swap.destinationBytes then
          .error (.payloadDestination decoded.destination)
        else if decoded.assetId ≠ swap.destinationAssetId then
          .error (.payloadAsset decoded.assetId swap.destinationAssetId)
        else if (decoded.minOutputAmount : ℤ) < swap.minOutputAmount then
          .error (.payloadMinOutput decoded.minOutputAmount swap.minOutputAmount)
        else refuseSkim [(decoded.brokerFee, "broker fee"), (decoded.boostFee, "boost fee"),
          (decoded.affiliates, "affiliate fee entries")]

/-- Ask the chain to encode a vault swap, then check it before returning it. -/
def prepareVaultSwap (rpc : ChainflipRpc) (request : VaultRequest) :
    Except ChainflipError VaultSwap := do
  let swap ← answeredVaultSwap rpc request
  checkVaultSwap swap
  .ok swap

omit [PyUnicode] in
/-- The plan the caller assembles from a swap. -/
def VaultSwap.plan (swap : VaultSwap) (amount expiry : ℤ) : ChainflipVaultPlan where
  depositAddress := swap.depositAddress
  amount := amount
  payload := swap.payload
  expiry := expiry
  destinationAssetId := swap.destinationAssetId
  destinationBytes := swap.destinationBytes
  minOutputAmount := swap.minOutputAmount
  knownVaults := swap.knownVaults

/-- Build and verify a vault swap: never a sweep, a refund needs the change. -/
def buildAndVerifyVaultSwap {β : Type} (g : GatedTxBuilder β) (plan : ChainflipVaultPlan)
    (now : ℤ) (mnemonic : String) (scannedUtxos : List Utxo) (feeRate : ℚ)
    (changeAddress : String) (maxFee : ℤ) : Except PyError (β × List VaultProblem) := do
  let built ← g.buildUnsignedSwap mnemonic scannedUtxos plan.depositAddress plan.amount
    (some (.binary plan.payload)) feeRate changeAddress false
  .ok (built, verifyChainflipVaultSwap (g.outputs built) (g.fee built) plan
    (ownedAddresses changeAddress scannedUtxos) now maxFee)

/-- What passes the gate was accepted by the preparation. -/
theorem checkVaultSwap_of_verify {swap : VaultSwap} {amount expiry : ℤ}
    {outputs : List TxOutput} {fee : ℤ} {owned : List String} {now maxFee : ℤ}
    (h : verifyChainflipVaultSwap outputs fee (swap.plan amount expiry) owned now maxFee
      = []) : checkVaultSwap swap = .ok () := by
  obtain ⟨-, hvault, -, hpayload⟩ := verifyChainflipVaultSwap_eq_nil.mp h
  obtain ⟨decoded, hdecoded, -, hasset, hdest, hfloor, hbroker, hboost, haffiliates, -⟩ :=
    payloadProblems_eq_nil.mp hpayload
  have hlisted : (!swap.knownVaults.contains swap.depositAddress) = false := by
    rw [Bool.not_eq_false', List.contains_iff_mem]
    exact hvault
  have hread : decodeVaultSwapPayload swap.payload = some decoded := hdecoded
  rw [checkVaultSwap, hlisted, if_neg Bool.false_ne_true, hread]
  dsimp only
  rw [if_neg (not_not.mpr (show decoded.destination = swap.destinationBytes from hdest)),
    if_neg (not_not.mpr (show decoded.assetId = swap.destinationAssetId from hasset)),
    if_neg (not_lt.mpr
      (show swap.minOutputAmount ≤ decoded.minOutputAmount from hfloor))]
  refine refuseSkim_ok ?_
  intro entry hentry
  simp only [List.mem_cons, List.not_mem_nil, or_false] at hentry
  rcases hentry with rfl | rfl | rfl
  · exact hbroker
  · exact hboost
  · exact haffiliates

/-- **The Bitcoin gate repeats the preparation**: an answer the preparation
    refuses does not pass, whatever transaction is built around it. -/
theorem verifyChainflipVaultSwap_repeats {swap : VaultSwap} {e : ChainflipError}
    (h : checkVaultSwap swap = .error e) (amount expiry : ℤ) (outputs : List TxOutput)
    (fee : ℤ) (owned : List String) (now maxFee : ℤ) :
    verifyChainflipVaultSwap outputs fee (swap.plan amount expiry) owned now maxFee
      ≠ [] := by
  intro hpass
  rw [checkVaultSwap_of_verify hpass] at h
  cases h

/-! ## From an EVM chain -/

/-- An unsigned vault swap on an EVM chain: what call to make, and what the gate
    needs. -/
structure EvmVaultSwap where
  vaultContract : String
  calldata : Bytes
  value : ℤ
  sourceToken : String
  sourceAmount : ℤ
  knownVaults : List String
  destinationChainId : ℕ
  destinationAssetId : ℕ
  destinationBytes : Bytes
  refundAddress : String
  minPrice : ℤ
  retryDuration : ℕ
  minOutputAmount : ℤ
  sourceChainId : ℤ
deriving DecidableEq

/-- What the user asks for; the refund goes to the address that pays. -/
structure EvmVaultRequest where
  fromAsset : String
  toAsset : String
  destination : String
  refundAddress : String
  inputAmount : ℤ
  quote : ChainflipQuote
  bps : Option ℤ

/-- The contract, calldata, value and source token of an answer. -/
def parseEvmEncoding (answer : EncodeAnswer) :
    Except ChainflipError (String × Bytes × ℤ × String) :=
  match answer.toAddress,
    answer.calldata.bind (fun raw => fromHex (removePrefix (removePrefix raw "0x") "0X")),
    answer.value with
  | some toAddress, some calldata, some value =>
      .ok (PyUnicode.lower toAddress, calldata, value,
        PyUnicode.lower (orText answer.sourceTokenAddress ""))
  | _, _, _ => .error .malformedEncoding

/-- The swap a well-formed answer describes, not looked at yet, and the token the
    answer says it spends. -/
def answeredEvmVaultSwap (rpc : ChainflipRpc) (request : EvmVaultRequest) :
    Except ChainflipError (EvmVaultSwap × String) := do
  let sourceChain := vaultChain request.fromAsset
  if !evmVaultChains.contains sourceChain then .error (.notEvmSource request.fromAsset)
  else if request.inputAmount ≤ 0 then .error (.inputAmount request.inputAmount)
  else if request.quote.depositAmount ≠ request.inputAmount then
    .error (.quotedDeposit request.quote.depositAmount request.inputAmount)
  else
    let expectedDest ← destinationBytes request.toAsset request.destination
    let assetId ← lookupKey vaultSwapAssetIds request.toAsset
    let chainId ← lookupKey vaultSwapChainIds (vaultChain request.toAsset)
    let (priceFloor, outputFloor) ← minPrice request.quote request.bps
    let vaults ← rpc.evmVaultAddresses sourceChain
    let fromAsset ← lookupKey chainflipAssets request.fromAsset
    let toAsset ← lookupKey chainflipAssets request.toAsset
    let answer ← requestEncoding rpc (fun account => {
      account, fromAsset, toAsset
      destination := request.destination
      brokerCommission := 0
      extra := .evm sourceChain request.inputAmount request.refundAddress priceFloor
        defaultRetryDurationBlocks }) defaultBrokerAccounts []
    let (toAddress, calldata, value, token) ← parseEvmEncoding answer
    let sourceChainId ← lookupKey evmChainIds sourceChain
    .ok ({
      vaultContract := toAddress
      calldata, value
      sourceToken := tokenContract request.fromAsset
      sourceAmount := request.inputAmount
      knownVaults := vaults
      destinationChainId := chainId
      destinationAssetId := assetId
      destinationBytes := expectedDest
      refundAddress := request.refundAddress
      minPrice := priceFloor
      retryDuration := defaultRetryDurationBlocks
      minOutputAmount := outputFloor
      sourceChainId }, token)

/-- The call's parameters are the ones asked for. -/
def checkEvmParameters (parameters : Bytes) (swap : EvmVaultSwap) :
    Except ChainflipError Unit :=
  match decodeEvmVaultParameters parameters with
  | none => .error (.paramsBytes parameters.length)
  | some decoded =>
      if hex decoded.refundAddress
          ≠ removePrefix (PyUnicode.lower swap.refundAddress) "0x" then
        .error (.paramsRefund decoded.refundAddress swap.refundAddress)
      else if (decoded.minPrice : ℤ) < swap.minPrice then
        .error (.paramsMinPrice decoded.minPrice swap.minPrice)
      else if decoded.retryDuration ≠ swap.retryDuration then
        .error (.paramsRetry decoded.retryDuration swap.retryDuration)
      else refuseSkim [(decoded.brokerFee, "broker fee"), (decoded.boostFee, "boost fee"),
        (decoded.affiliates, "affiliate fee entries")]

/-- The encoded call says exactly what was asked for.  Of its value and its token
    amount one is what moves and the other must be idle. -/
def checkEvmCall (swap : EvmVaultSwap) : Except ChainflipError Unit :=
  match decodeEvmVaultCall swap.calldata with
  | none => .error .unreadableCall
  | some call =>
      let moved := if swap.sourceToken = "" then swap.value else call.sourceAmount
      let idle := if swap.sourceToken = "" then (call.sourceAmount : ℤ) else swap.value
      if call.sourceToken ≠ swap.sourceToken then
        .error (.callToken call.sourceToken swap.sourceToken)
      else if moved ≠ swap.sourceAmount ∨ idle ≠ 0 then
        .error (.callMoves moved idle swap.sourceAmount)
      else if call.destination ≠ swap.destinationBytes then
        .error (.callDestination call.destination)
      else if call.destinationAssetId ≠ swap.destinationAssetId then
        .error (.callAsset call.destinationAssetId swap.destinationAssetId)
      else if call.destinationChainId ≠ swap.destinationChainId then
        .error (.callChain call.destinationChainId swap.destinationChainId)
      else checkEvmParameters call.parameters swap

/-- The preparation's look at an answer. -/
def checkEvmVaultSwap (request : EvmVaultRequest) (swap : EvmVaultSwap) (token : String) :
    Except ChainflipError Unit :=
  if !swap.knownVaults.contains swap.vaultContract then
    .error (.unknownContract swap.vaultContract (vaultChain request.fromAsset))
  else if token ≠ swap.sourceToken then
    .error (.answerToken token swap.sourceToken request.fromAsset)
  else checkEvmCall swap

/-- Ask the chain to encode an EVM vault swap, then check it before returning. -/
def prepareEvmVaultSwap (rpc : ChainflipRpc) (request : EvmVaultRequest) :
    Except ChainflipError EvmVaultSwap := do
  let (swap, token) ← answeredEvmVaultSwap rpc request
  checkEvmVaultSwap request swap token
  .ok swap

omit [PyUnicode] in
/-- The plan the caller assembles from a swap. -/
def EvmVaultSwap.plan (swap : EvmVaultSwap) (expiry : ℤ) : ChainflipEvmVaultPlan where
  vaultContract := swap.vaultContract
  calldata := swap.calldata
  value := swap.value
  sourceToken := swap.sourceToken
  sourceAmount := swap.sourceAmount
  expiry := expiry
  chainId := swap.sourceChainId
  destinationChainId := swap.destinationChainId
  destinationAssetId := swap.destinationAssetId
  destinationBytes := swap.destinationBytes
  refundAddress := swap.refundAddress
  minPrice := swap.minPrice
  retryDuration := swap.retryDuration
  knownVaults := swap.knownVaults

/-! ## Building the call -/

def approveGas : ℤ := 70000
def vaultSwapGas : ℤ := 120000
def vaultSwapTokenGas : ℤ := 250000

/-- What the adapter adds to every transaction. -/
structure EvmFees where
  chainId : ℤ
  nonce : ℤ
  maxFeePerGas : ℤ
  maxPriorityFeePerGas : ℤ

omit [PyUnicode] in
/-- The checksummed form; a text that is not an address raises. -/
def checksummed (lib : ChecksumLib) (address : String) : Except PyError String :=
  match toChecksumAddress lib address.toList with
  | some text => .ok (String.ofList text)
  | none => .error (.valueError "non-hexadecimal number found in fromhex() arg")

omit [PyUnicode] in
/-- `approve(spender, amount)`. -/
def encodeApprove (abi : EthAbi) (spender : String) (amount : ℤ) : Except PyError String :=
  match abi.encodeAddressUint256 spender amount with
  | some args => .ok ("0x" ++ approveSelector ++ hex args)
  | none => .error .library

omit [PyUnicode] in
/-- The `approve` a token source needs. -/
def buildApprove (lib : ChecksumLib) (abi : EthAbi) (plan : ChainflipEvmVaultPlan)
    (fees : EvmFees) : Except PyError (Option EvmTx) := do
  if plan.sourceToken = "" then .ok none
  else
    let toAddress ← checksummed lib plan.sourceToken
    let spender ← checksummed lib plan.vaultContract
    let data ← encodeApprove abi spender plan.sourceAmount
    .ok (some {
      toAddress
      value := 0
      data := some data
      chainId := fees.chainId
      nonce := fees.nonce
      gas := approveGas
      maxFeePerGas := fees.maxFeePerGas
      maxPriorityFeePerGas := fees.maxPriorityFeePerGas })

omit [PyUnicode] in
/-- The transactions around the chain's calldata. -/
def buildVaultSwap (lib : ChecksumLib) (abi : EthAbi) (plan : ChainflipEvmVaultPlan)
    (fees : EvmFees) : Except PyError EthVaultSwapBuilt := do
  let approveTx ← buildApprove lib abi plan fees
  let toAddress ← checksummed lib plan.vaultContract
  .ok {
    approveTx
    swapTx := {
      toAddress
      value := plan.value
      data := some ("0x" ++ hex plan.calldata)
      chainId := fees.chainId
      nonce := fees.nonce + (if approveTx.isSome then 1 else 0)
      gas := if plan.sourceToken = "" then vaultSwapGas else vaultSwapTokenGas
      maxFeePerGas := fees.maxFeePerGas
      maxPriorityFeePerGas := fees.maxPriorityFeePerGas } }

omit [PyUnicode] in
theorem buildVaultSwap_swapTx {lib : ChecksumLib} {abi : EthAbi}
    {plan : ChainflipEvmVaultPlan} {fees : EvmFees} {built : EthVaultSwapBuilt}
    (h : buildVaultSwap lib abi plan fees = .ok built) :
    built.swapTx.value = plan.value
      ∧ built.swapTx.data = some ("0x" ++ hex plan.calldata) := by
  rw [buildVaultSwap] at h
  obtain ⟨approveTx, -, h⟩ := bind_eq_ok h
  obtain ⟨toAddress, -, h⟩ := bind_eq_ok h
  cases h
  exact ⟨rfl, rfl⟩

/-- The gate always answers on a transaction that was built. -/
theorem verifyChainflipEvmVaultSwap_built {lib : ChecksumLib} {abi : EthAbi}
    {plan : ChainflipEvmVaultPlan} {fees : EvmFees} {built : EthVaultSwapBuilt}
    (h : buildVaultSwap lib abi plan fees = .ok built) (now maxFeeWei : ℤ)
    (ownedAddress : String) :
    ∃ problems, verifyChainflipEvmVaultSwap abi built plan now maxFeeWei ownedAddress
      = .ok problems := by
  obtain ⟨-, hdata⟩ := buildVaultSwap_swapTx h
  rw [verifyChainflipEvmVaultSwap, hdata]
  dsimp only
  rw [fromHex_hexText]
  dsimp only
  cases decodeEvmVaultCall plan.calldata with
  | none => exact ⟨_, rfl⟩
  | some call => exact ⟨_, rfl⟩

/-- The parameters of a passing call were accepted by the preparation. -/
theorem checkEvmParameters_of_verify {swap : EvmVaultSwap} {parameters : Bytes}
    {expiry : ℤ} (h : verifyVaultParameters parameters (swap.plan expiry) = []) :
    checkEvmParameters parameters swap = .ok () := by
  obtain ⟨decoded, hdecoded, -, hrefund, hprice, hretry, hbroker, hboost, haffiliates, -⟩ :=
    verifyVaultParameters_eq_nil.mp h
  have hsame : decoded.retryDuration = swap.retryDuration := Int.ofNat_inj.mp hretry
  rw [checkEvmParameters, hdecoded]
  dsimp only
  rw [if_neg (not_not.mpr (show hex decoded.refundAddress
      = removePrefix (PyUnicode.lower swap.refundAddress) "0x" from hrefund)),
    if_neg (not_lt.mpr (show swap.minPrice ≤ decoded.minPrice from hprice)),
    if_neg (not_not.mpr hsame)]
  refine refuseSkim_ok ?_
  intro entry hentry
  simp only [List.mem_cons, List.not_mem_nil, or_false] at hentry
  rcases hentry with rfl | rfl | rfl
  · exact hbroker
  · exact hboost
  · exact haffiliates

/-- A passing call was accepted by the preparation. -/
theorem checkEvmCall_of_verify {swap : EvmVaultSwap} {call : DecodedEvmVaultCall}
    {expiry : ℤ} (hcall : decodeEvmVaultCall swap.calldata = some call)
    (hether : swap.sourceToken ≠ "" → swap.value = 0)
    (h : callProblems call swap.value (swap.plan expiry) = []) :
    checkEvmCall swap = .ok () := by
  obtain ⟨hdest, hasset, hchain, htoken, hnative, hmoved, hparameters⟩ :=
    callProblems_eq_nil.mp h
  have hlegs : ¬ ((if swap.sourceToken = "" then swap.value else (call.sourceAmount : ℤ))
        ≠ swap.sourceAmount
      ∨ (if swap.sourceToken = "" then (call.sourceAmount : ℤ) else swap.value) ≠ 0) := by
    by_cases hnone : swap.sourceToken = ""
    · obtain ⟨hsent, hidle⟩ := hnative hnone
      rw [if_pos hnone, if_pos hnone, hidle]
      exact not_or.mpr ⟨not_not.mpr hsent, not_not.mpr rfl⟩
    · rw [if_neg hnone, if_neg hnone]
      exact not_or.mpr ⟨not_not.mpr (hmoved hnone), not_not.mpr (hether hnone)⟩
  rw [checkEvmCall, hcall]
  dsimp only
  rw [if_neg (not_not.mpr (show call.sourceToken = swap.sourceToken from htoken)),
    if_neg hlegs,
    if_neg (not_not.mpr (show call.destination = swap.destinationBytes from hdest)),
    if_neg (not_not.mpr
      (show call.destinationAssetId = swap.destinationAssetId from hasset)),
    if_neg (not_not.mpr
      (show call.destinationChainId = swap.destinationChainId from hchain))]
  exact checkEvmParameters_of_verify hparameters

/-- **The EVM gate repeats the preparation**: whatever an answer is refused for,
    except the token it names beside its calldata, the gate reports a problem on
    the transaction built from it.  The contract has been lower-cased once by the
    preparation; the gate lower-cases it again. -/
theorem verifyChainflipEvmVaultSwap_repeats {request : EvmVaultRequest}
    {swap : EvmVaultSwap} {token : String} {e : ChainflipError}
    (hlower : PyUnicode.lower swap.vaultContract = swap.vaultContract)
    (h : checkEvmVaultSwap request swap token = .error e) (hblame : e.blamesToken = false)
    {lib : ChecksumLib} {abi : EthAbi} {fees : EvmFees} {expiry : ℤ}
    {built : EthVaultSwapBuilt}
    (hbuilt : buildVaultSwap lib abi (swap.plan expiry) fees = .ok built)
    (now maxFeeWei : ℤ) (ownedAddress : String) :
    ∃ problem problems, verifyChainflipEvmVaultSwap abi built (swap.plan expiry) now
      maxFeeWei ownedAddress = .ok (problem :: problems) := by
  obtain ⟨found, hfound⟩ := verifyChainflipEvmVaultSwap_built hbuilt now maxFeeWei
    ownedAddress
  cases found with
  | cons problem problems => exact ⟨problem, problems, hfound⟩
  | nil =>
      exfalso
      obtain ⟨hvalue, hdata⟩ := buildVaultSwap_swapTx hbuilt
      obtain ⟨data, raw, call, hdata', hraw, hcall, henvelope, -, hpromise, -⟩ :=
        verifyChainflipEvmVaultSwap_eq_nil.mp hfound
      obtain ⟨-, hvault, -, -, hether, -⟩ := envelopeProblems_eq_nil.mp henvelope
      -- what the gate decoded is the answer's calldata
      have hbytes : raw = swap.calldata := by
        rw [hdata] at hdata'
        rw [← Option.some.inj hdata', fromHex_hexText] at hraw
        exact (Option.some.inj hraw).symm
      rw [hbytes] at hcall
      rw [hvalue] at hpromise
      have haccepted : checkEvmCall swap = .ok () :=
        checkEvmCall_of_verify hcall hether hpromise
      have hlisted : (!swap.knownVaults.contains swap.vaultContract) = false := by
        rw [Bool.not_eq_false', List.contains_iff_mem, ← hlower]
        exact hvault
      rw [checkEvmVaultSwap, hlisted, if_neg Bool.false_ne_true, haccepted] at h
      by_cases htoken : token ≠ swap.sourceToken
      · rw [if_pos htoken] at h
        cases h
        cases hblame
      · rw [if_neg htoken] at h
        cases h

/-! ## From the answer to the gate -/

/-- The node's answer names an ASCII contract. -/
def EncodeAnswer.WellFormed (answer : EncodeAnswer) : Prop :=
  ∀ text, answer.toAddress = some text → ∀ c ∈ text.toList, c.toNat < 128

omit [PyUnicode] in
theorem requestEncoding_answer {rpc : ChainflipRpc} {params : String → EncodeParams}
    {accounts : List String} {refusals : List (String × String)} {answer : EncodeAnswer}
    (h : requestEncoding rpc params accounts refusals = .ok answer) :
    ∃ account, rpc.encode (params account) = .ok answer := by
  induction accounts generalizing refusals with
  | nil => cases h
  | cons account accounts ih =>
      rw [requestEncoding] at h
      cases hanswer : rpc.encode (params account) with
      | ok found =>
          rw [hanswer] at h
          cases h
          exact ⟨account, hanswer⟩
      | error text =>
          rw [hanswer] at h
          dsimp only at h
          split at h
          · exact ih h
          · cases h

/-- Lower-casing an ASCII text twice is lower-casing it once. -/
theorem lower_lower {s : String} (h : ∀ c ∈ s.toList, c.toNat < 128) :
    PyUnicode.lower (PyUnicode.lower s) = PyUnicode.lower s := by
  have hlower := PyUnicode.lower_ascii s h
  have hagain : ∀ c ∈ (PyUnicode.lower s).toList, c.toNat < 128 := by
    intro c hc
    rw [hlower, String.toList_ofList, List.mem_map] at hc
    obtain ⟨d, hd, rfl⟩ := hc
    exact toLower_ascii (h d hd)
  rw [PyUnicode.lower_ascii _ hagain, hlower, String.toList_ofList, List.map_map]
  congr 1
  refine List.map_congr_left fun c _ => ?_
  exact toLower_toLower c

theorem parseEvmEncoding_contract {answer : EncodeAnswer} {contract token : String}
    {calldata : Bytes} {value : ℤ}
    (h : parseEvmEncoding answer = .ok (contract, calldata, value, token)) :
    ∃ text, answer.toAddress = some text ∧ contract = PyUnicode.lower text := by
  rw [parseEvmEncoding] at h
  split at h
  · rename_i text _ _ htext _ _
    cases h
    exact ⟨text, htext, rfl⟩
  · cases h

/-- The contract of an answered swap is the answer's, lower-cased. -/
theorem answeredEvmVaultSwap_contract {rpc : ChainflipRpc} {request : EvmVaultRequest}
    {swap : EvmVaultSwap} {token : String}
    (h : answeredEvmVaultSwap rpc request = .ok (swap, token)) :
    ∃ params answer text, rpc.encode params = .ok answer
      ∧ answer.toAddress = some text ∧ swap.vaultContract = PyUnicode.lower text := by
  rw [answeredEvmVaultSwap] at h
  dsimp only at h
  split at h
  · cases h
  split at h
  · cases h
  split at h
  · cases h
  obtain ⟨expectedDest, -, h⟩ := bind_eq_ok h
  obtain ⟨assetId, -, h⟩ := bind_eq_ok h
  obtain ⟨chainId, -, h⟩ := bind_eq_ok h
  obtain ⟨⟨priceFloor, outputFloor⟩, -, h⟩ := bind_eq_ok h
  obtain ⟨vaults, -, h⟩ := bind_eq_ok h
  obtain ⟨fromAsset, -, h⟩ := bind_eq_ok h
  obtain ⟨toAsset, -, h⟩ := bind_eq_ok h
  obtain ⟨answer, hanswer, h⟩ := bind_eq_ok h
  obtain ⟨⟨toAddress, calldata, value, named⟩, hparsed, h⟩ := bind_eq_ok h
  obtain ⟨sourceChainId, -, h⟩ := bind_eq_ok h
  cases h
  obtain ⟨account, hencoded⟩ := requestEncoding_answer hanswer
  obtain ⟨text, htext, hcontract⟩ := parseEvmEncoding_contract hparsed
  exact ⟨_, answer, text, hencoded, htext, hcontract⟩

/-- **The gates are never weaker than the preparation**, from either source:
    when a well-formed answer is refused for its address or contract, its payload
    or calldata, or its value, the gate reports a problem on the transaction built
    from that answer under the same intent. -/
theorem gates_repeat_preparation :
    (∀ {rpc : ChainflipRpc} {request : VaultRequest} {swap : VaultSwap}
        {e : ChainflipError},
      answeredVaultSwap rpc request = .ok swap →
      prepareVaultSwap rpc request = .error e →
      ∀ {β : Type} {g : GatedTxBuilder β} {amount expiry now : ℤ} {mnemonic : String}
        {scannedUtxos : List Utxo} {feeRate : ℚ} {changeAddress : String} {maxFee : ℤ}
        {built : β} {problems : List VaultProblem},
        buildAndVerifyVaultSwap g (swap.plan amount expiry) now mnemonic scannedUtxos
          feeRate changeAddress maxFee = .ok (built, problems) →
        problems ≠ [])
    ∧ ∀ {rpc : ChainflipRpc} {request : EvmVaultRequest} {swap : EvmVaultSwap}
        {token : String} {e : ChainflipError},
      (∀ params answer, rpc.encode params = .ok answer → answer.WellFormed) →
      answeredEvmVaultSwap rpc request = .ok (swap, token) →
      prepareEvmVaultSwap rpc request = .error e → e.blamesToken = false →
      ∀ {lib : ChecksumLib} {abi : EthAbi} {fees : EvmFees} {expiry : ℤ}
        {built : EthVaultSwapBuilt},
        buildVaultSwap lib abi (swap.plan expiry) fees = .ok built →
        ∀ (now maxFeeWei : ℤ) (ownedAddress : String), ∃ problem problems,
          verifyChainflipEvmVaultSwap abi built (swap.plan expiry) now maxFeeWei
            ownedAddress = .ok (problem :: problems) := by
  constructor
  · intro rpc request swap e hanswered hrefused β g amount expiry now mnemonic utxos feeRate
      changeAddress maxFee built problems hbuilt
    rw [prepareVaultSwap, hanswered, ok_bind] at hrefused
    have hcheck : checkVaultSwap swap = .error e := by
      rcases bind_eq_error hrefused with h | ⟨⟨⟩, -, h⟩
      · exact h
      · cases h
    rw [buildAndVerifyVaultSwap] at hbuilt
    obtain ⟨found, -, hbuilt⟩ := bind_eq_ok hbuilt
    cases hbuilt
    exact verifyChainflipVaultSwap_repeats hcheck amount expiry _ _ _ _ _
  · intro rpc request swap token e hformed hanswered hrefused hblame lib abi fees expiry built
      hbuilt now maxFeeWei ownedAddress
    rw [prepareEvmVaultSwap, hanswered, ok_bind] at hrefused
    have hcheck : checkEvmVaultSwap request swap token = .error e := by
      rcases bind_eq_error hrefused with h | ⟨⟨⟩, -, h⟩
      · exact h
      · cases h
    obtain ⟨params, answer, text, hencoded, htext, hcontract⟩ :=
      answeredEvmVaultSwap_contract hanswered
    have hascii := hformed params answer hencoded text htext
    refine verifyChainflipEvmVaultSwap_repeats ?_ hcheck hblame hbuilt ..
    rw [hcontract]
    exact lower_lower hascii

end Prepare

/-! ## Two refused answers -/

/-- A node that publishes one vault of each kind, encodes a payment to another
    address and a call that is none. -/
def junkRpc : ChainflipRpc where
  bitcoinVaultAddresses := .ok ["bc1pvault"]
  evmVaultAddresses _ := .ok ["0xf5e10380213880111522dd0efd3dbb45b9f62bcc"]
  encode params := .ok (match params.extra with
    | .bitcoin .. => {
        depositAddress := some "bc1qw508d6qejxtdg4y5r3zarvary0c5xw7kv8f3t4"
        nulldataPayload := some "0x0101" }
    | .evm .. => {
        toAddress := some "0xf5e10380213880111522dd0efd3dbb45b9f62bcc"
        calldata := some "0x04fc7da0"
        value := some 0
        sourceTokenAddress := some "0xa0b86991c6218b36c1d19d4a2e9eb0ce3606eb48" })

def usdcQuote : ChainflipQuote where
  egressAmount := 3000
  depositAmount := 1000000
  recommendedSlippageBps := 100

def bitcoinRequest : VaultRequest where
  fromAsset := "BTC.BTC"
  toAsset := "ETH.ETH"
  destination := "0x000000000000000000000000000000000000dead"
  quote := usdcQuote
  bps := none

def usdcRequest : EvmVaultRequest where
  fromAsset := "ETH.USDC-0XA0B86991C6218B36C1D19D4A2E9EB0CE3606EB48"
  toAsset := "ARB.ETH"
  destination := "0x000000000000000000000000000000000000dead"
  refundAddress := "0x9858EfFD232B4033E47d90003D41EC34EcaEda94"
  inputAmount := 1000000
  quote := usdcQuote
  bps := none

def junkVaultSwap : VaultSwap where
  depositAddress := "bc1qw508d6qejxtdg4y5r3zarvary0c5xw7kv8f3t4"
  payload := [1, 1]
  knownVaults := ["bc1pvault"]
  destinationAssetId := 1
  destinationBytes := List.replicate 18 0 ++ [0xde, 0xad]
  minOutputAmount := 2970

def junkEvmVaultSwap : EvmVaultSwap where
  vaultContract := "0xf5e10380213880111522dd0efd3dbb45b9f62bcc"
  calldata := [0x04, 0xfc, 0x7d, 0xa0]
  value := 0
  sourceToken := "0xa0b86991c6218b36c1d19d4a2e9eb0ce3606eb48"
  sourceAmount := 1000000
  knownVaults := ["0xf5e10380213880111522dd0efd3dbb45b9f62bcc"]
  destinationChainId := 4
  destinationAssetId := 6
  destinationBytes := List.replicate 18 0 ++ [0xde, 0xad]
  refundAddress := "0x9858EfFD232B4033E47d90003D41EC34EcaEda94"
  minPrice := 1010638629755187236486222584072351589
  retryDuration := 100
  minOutputAmount := 2970
  sourceChainId := 1

/-- A digest that leaves every address in lower case. -/
def lowerChecksums : ChecksumLib where
  keccak256 _ := List.replicate 32 0
  b58checkOk _ _ := false

theorem junkRpc_wellFormed {params : EncodeParams} {answer : EncodeAnswer}
    (h : junkRpc.encode params = .ok answer) : answer.WellFormed := by
  intro text htext
  have hanswer := Except.ok.inj h
  rw [← hanswer] at htext
  cases hextra : params.extra with
  | bitcoin => rw [hextra] at htext; cases htext
  | evm =>
      rw [hextra] at htext
      rw [← Option.some.inj htext]
      exact forall_mem_of_all (by decide)

open SwapsackUtxo in
/-- Both answers are refused, and both gates report a problem. -/
theorem gates_repeat_preparation_junk :
    (∃ built problems, @buildAndVerifyVaultSwap asciiUnicode _
        (SwapsackGated.utxoBuilder twoAddressWallet) (junkVaultSwap.plan 20000 600) 7 "seed"
        walletCoins 3 "bc1q8c6fshw2dlwun7ekn9qwf37cu2rn755upcp6el" 1000
          = .ok (built, problems)
      ∧ problems ≠ [])
    ∧ ∃ built problem problems,
      @verifyChainflipEvmVaultSwap asciiUnicode wordAbi built (junkEvmVaultSwap.plan 600) 7
        3200000 "0x9858EfFD232B4033E47d90003D41EC34EcaEda94"
          = .ok (problem :: problems) := by
  let _ : PyUnicode := asciiUnicode
  have hbitcoin : (buildAndVerifyVaultSwap (SwapsackGated.utxoBuilder twoAddressWallet)
      (junkVaultSwap.plan 20000 600) 7 "seed" walletCoins 3
      "bc1q8c6fshw2dlwun7ekn9qwf37cu2rn755upcp6el" 1000).isOk = true := by decide +kernel
  have hevm : (buildVaultSwap lowerChecksums wordAbi
      (junkEvmVaultSwap.plan 600) ⟨1, 7, 10, 1⟩).isOk = true := by decide +kernel
  obtain ⟨⟨built, problems⟩, hbuilt⟩ := exists_of_isOk hbitcoin
  obtain ⟨evmBuilt, hevmBuilt⟩ := exists_of_isOk hevm
  have hanswered : answeredVaultSwap junkRpc bitcoinRequest = .ok junkVaultSwap := by
    decide +kernel
  have hrefused : prepareVaultSwap junkRpc bitcoinRequest
      = .error (.unknownDeposit "bc1qw508d6qejxtdg4y5r3zarvary0c5xw7kv8f3t4") := by
    decide +kernel
  have hevmAnswered : answeredEvmVaultSwap junkRpc usdcRequest
      = .ok (junkEvmVaultSwap, "0xa0b86991c6218b36c1d19d4a2e9eb0ce3606eb48") := by
    decide +kernel
  have hevmRefused : prepareEvmVaultSwap junkRpc usdcRequest = .error .unreadableCall := by
    decide +kernel
  refine ⟨⟨built, problems, hbuilt, ?_⟩, evmBuilt, ?_⟩
  · exact gates_repeat_preparation.1 hanswered hrefused hbuilt
  · exact gates_repeat_preparation.2 (fun _ _ => junkRpc_wellFormed) hevmAnswered
      hevmRefused rfl hevmBuilt 7 3200000 _

end SwapsackChainflip
