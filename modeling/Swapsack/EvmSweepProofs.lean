import Swapsack.PrepareSwapProofs

/-! # Sweeping an EVM account

    A sweep is sized before it is known how it settles, in 1e-8 units, and the
    amount is converted back where the transaction is built: in a deposit, in a
    transfer, in the quote of a Vault call.

    * `swapFromEvm_native`, `sendEvm_native` — value and gas fit the balance;
    * `swapFromEvm_token`, `sendEvm_token` — what is placed is the balance, less
      what 1e-8 units cannot say;
    * `sendEvm_nothing` — a send of nothing, which its gate lets through. -/

namespace SwapsackEvmSweep

open ListKit ByteString PyText HexText SwapsackBase SwapsackEvmVault SwapsackSweep Rescaling
open SwapsackBackends SwapsackEvm SwapsackPrepare SwapsackQuoteParsing
open SwapsackChainflip (ChainflipRpc EvmVaultSwap EvmVaultRequest prepareEvmVaultSwap
  chainflipAssets tokenContract vaultChain evmVaultChains EvmFees buildApprove buildVaultSwap
  encodeApprove vaultSwapGas)
open SwapsackCosmosTx (assetChain)
open SwapsackAddresses (ChecksumLib)
open SwapsackAllowance (TokenAbi Gas EthTokenBuiltSwap DepositArgs buildTokenDeposit
  encodeDeposit buildAndVerifyApprovals)

/-! ## The commands -/

/-- A sanity ceiling on inbound gas. -/
def ethMaxFeeWei : ℤ := 10 ^ 16

def vaultSwapPlanTtl : ℤ := 600

/-- The contract that pulls what an order sells. -/
def vaultRelayer : String := "0xC92E8bdf79f0507f65a392b0ab4667716BFE0110"

def memoDepositOnly : List Executor := [.memoDeposit]
def evmExecutors : List Executor := [.memoDeposit, .signedOrder, .vaultSwap]

/-- `--amount`: everything, or 1e-8 units. -/
inductive Amount where
  | max
  | units (n : ℤ)

/-- The arguments of a swap; an asset comes with the name the user gave. -/
structure SwapArgs where
  fromKey : String
  fromAsset : String
  toKey : String
  toAsset : String
  amount : Amount
  backend : String := "auto"
  ethGas : ℤ := defaultGas
  toleranceBps : Option ℤ := none
  streamingInterval : Option ℤ := none
  streamingQuantity : Option ℤ := none
  destination : String

def SwapArgs.terms (args : SwapArgs) : Terms where
  toleranceBps := args.toleranceBps.getD defaultToleranceBps
  streamingInterval := args.streamingInterval
  streamingQuantity := args.streamingQuantity

def SwapArgs.request (args : SwapArgs) (amount : ℤ) : SwapRequest where
  fromAsset := args.fromAsset
  toAsset := args.toAsset
  amount := amount
  destination := args.destination

/-- The services a swap talks to, and the time. -/
structure Venues where
  clients : Clients
  rpc : ChainflipRpc
  now : ℤ

/-- The gas a native sweep holds back: that of the costliest executor the choice of
    backend leaves in the running. -/
def evmSweepGas (backend : String) (requested : Option ℤ) : ℤ :=
  let gas := requested.getD defaultGas
  if backend = "auto" ∨ backend = "chainflip" then max gas vaultSwapGas else gas

section Commands

variable [PyUnicode]

/-- The amount that sends everything. -/
def everything (ad : EvmAdapter) (asset : String) (gas maxFeePerGas : ℤ) : Except PyError ℤ :=
  if isToken asset then do
    let balance ← ad.fetchTokenBalance (tokenOf asset)
    let decimals ← ad.tokenDecimals (tokenOf asset)
    tokenSweepAmount balance decimals
  else do
    let balance ← ad.node.balance ad.address
    ethSweepAmount balance gas maxFeePerGas

def Amount.resolve (ad : EvmAdapter) (asset : String) (gas maxFeePerGas : ℤ) :
    Amount → Except Stop ℤ
  | max => orInsufficient (everything ad asset gas maxFeePerGas)
  | units n => .ok n

/-- The account's next nonce and the fees of the day. -/
def accountGas (ad : EvmAdapter) : Except PyError Gas := do
  let nonce ← ad.node.transactionCount ad.address
  let (maxFeePerGas, maxPriorityFeePerGas) ← ad.fetchFees
  .ok { nonce := nonce, maxFeePerGas := maxFeePerGas, maxPriorityFeePerGas := maxPriorityFeePerGas }

/-- `except (…Error, *HTTP_ERRORS)`. -/
def orFailed {α : Type} (what : String) : Except ClientError α → Except Stop α
  | .ok a => .ok a
  | .error (.unexpected cause) => .error (.client (.unexpected cause))
  | .error (.refused text) => .error (.aborted s!"{what} quote failed: {text}")
  | .error (.http text) => .error (.aborted s!"{what} quote failed: {text}")

/-- The entry of a table that a selection has seen. -/
def listed {ν : Type} (table : List (String × ν)) (key : String) : Except Stop ν :=
  match table.lookup key with
  | some v => .ok v
  | none => .error (.raised .keyError)

omit [PyUnicode] in
theorem listed_eq_ok {ν : Type} {table : List (String × ν)} {key : String} {v : ν}
    (h : listed table key = .ok v) : table.lookup key = some v := by
  rw [listed] at h
  split at h
  · rename_i hv
    cases h
    exact hv
  · cases h

/-- A call into Chainflip's Vault, quoted anew. -/
def swapViaChainflipEvm (ad : EvmAdapter) (venues : Venues) (args : SwapArgs)
    (request : SwapRequest) (fees : Gas) : Except Stop Prepared := do
  let decimals ← listed chainflipDecimals request.fromAsset
  let inputAmount := depositUnits request.amount decimals
  let quote ← orFailed "chainflip"
    (chainflipQuote venues.clients request.fromAsset request.toAsset inputAmount)
  let vaultSwap ← (prepareEvmVaultSwap venues.rpc
    { fromAsset := request.fromAsset, toAsset := request.toAsset
      destination := request.destination, refundAddress := ad.address, inputAmount
      quote := quote.toChainflipQuote, bps := args.toleranceBps }).mapError .refused
  orRaised (buildAndVerifyVaultSwap ad (vaultSwap.plan (venues.now + vaultSwapPlanTtl))
    venues.now fees ethMaxFeeWei)

/-- What an order for CoW sells, and the allowance it needs; the order has a gate of
    its own, which is not repeated here. -/
def swapViaCow (ad : EvmAdapter) (venues : Venues) (args : SwapArgs) (backend : SwapBackend)
    (request : SwapRequest) (fees : Gas) : Except Stop Prepared := do
  if !backend.serves request.fromAsset request.toAsset then
    .error (.aborted <|
      s!"cow cannot serve {args.fromKey} -> {args.toKey} " ++
      "(same-chain ERC-20 sell, ERC-20/ETH buy only)")
  else
    let (sellToken, sellDecimals) ← listed cowAssets request.fromAsset
    let (buyToken, _) ← listed cowAssets request.toAsset
    let sellAmount := sellUnits request.amount sellDecimals
    let quote ← orFailed "cow" (quotePair venues.clients request.fromAsset request.toAsset
      request.amount ad.address request.destination)
    let contract ← orRaised (contractOf sellToken)
    let allowance ← orRaised (ad.node.allowance contract ad.address vaultRelayer)
    let (approvals, problems) ← orRaised (buildAndVerifyApprovals ad.abi ad.lib ad.chainId
      sellToken vaultRelayer sellAmount allowance fees ethMaxFeeWei)
    .ok
      { built := .sale
          { sellToken, buyToken, receiver := request.destination, sellAmount, quote, approvals }
        problems := problems.map .text }

/-- Settle a swap the way its backend does. -/
def settle (ad : EvmAdapter) (venues : Venues) (args : SwapArgs) (backend : SwapBackend)
    (request : SwapRequest) (fees : Gas) : Except Stop Prepared :=
  match backend.executor with
  | .vaultSwap => swapViaChainflipEvm ad venues args request fees
  | .signedOrder => swapViaCow ad venues args backend request fees
  | .memoDeposit =>
      match backend.client with
      | none => .error (.raised .attributeError)
      | some client =>
          prepareSwap client ad.chain none request args.terms fun quote =>
            orRaised (buildAndVerify ad quote request.fromAsset request.amount
              request.destination venues.now args.ethGas fees ethMaxFeeWei)

/-- Swap from an EVM chain's coin or one of its tokens. -/
def swapFromEvm (ad : EvmAdapter) (venues : Venues) (args : SwapArgs) : Except Stop Prepared := do
  let fees ← orRaised (accountGas ad)
  let amount ← args.amount.resolve ad args.fromAsset
    (evmSweepGas args.backend (some args.ethGas)) fees.maxFeePerGas
  let request := args.request amount
  let backend ← orAborted (selectBackend venues.clients args.backend
    (request.quoteRequest args.terms) evmExecutors)
  settle ad venues args backend request fees

/-- A plain send of an EVM chain's coin or one of its tokens. -/
def sendEvm (ad : EvmAdapter) (asset : String) (amount : Amount) (recipient : String) :
    Except Stop Prepared := do
  let fees ← orRaised (accountGas ad)
  let amount ← amount.resolve ad asset ad.nativeSendGas fees.maxFeePerGas
  orRaised (buildAndVerifySend ad recipient amount asset fees ethMaxFeeWei)

/-! ## The reserve -/

omit [PyUnicode] in
/-- The reserve covers a deposit with the gas that was asked for. -/
theorem le_evmSweepGas (backend : String) (requested : ℤ) :
    requested ≤ evmSweepGas backend (some requested) := by
  rw [evmSweepGas, Option.getD_some]
  split
  · exact le_max_left _ _
  · exact le_rfl

omit [PyUnicode] in
/-- It covers a Vault call, where Chainflip is in the running. -/
theorem vaultSwapGas_le_evmSweepGas {backend : String} (requested : Option ℤ)
    (h : backend = "auto" ∨ backend = "chainflip") :
    vaultSwapGas ≤ evmSweepGas backend requested := by
  rw [evmSweepGas, if_pos h]
  exact le_max_right _ _

/-- The reserve is part of the balance. -/
theorem everything_native {ad : EvmAdapter} {asset : String} {gas maxFeePerGas amount : ℤ}
    (h : everything ad asset gas maxFeePerGas = .ok amount) (hnative : isToken asset = false) :
    ∃ balance, ad.node.balance ad.address = .ok balance
      ∧ amount * weiPerThorchainUnit + gas * maxFeePerGas ≤ balance := by
  rw [everything, hnative, if_neg Bool.false_ne_true] at h
  obtain ⟨balance, hbalance, h⟩ := bind_eq_ok h
  exact ⟨balance, hbalance, ethSweepAmount_covers h⟩

/-- A token sweep is the balance in 1e-8 units. -/
theorem everything_token {ad : EvmAdapter} {asset : String} {gas maxFeePerGas amount : ℤ}
    (h : everything ad asset gas maxFeePerGas = .ok amount) (htoken : isToken asset = true) :
    ∃ (balance decimals : ℕ), ad.fetchTokenBalance (tokenOf asset) = .ok balance
      ∧ ad.tokenDecimals (tokenOf asset) = .ok decimals
      ∧ amount = rescale (10 ^ decimals) (10 ^ 8) balance := by
  rw [everything, if_pos htoken] at h
  obtain ⟨balance, hbalance, h⟩ := bind_eq_ok h
  obtain ⟨decimals, hdecimals, h⟩ := bind_eq_ok h
  exact ⟨balance, decimals, hbalance, hdecimals, (tokenSweepAmount_spec h).1⟩

omit [PyUnicode] in
/-- **Converted back**, a sweep is within the balance, and all of it where a native
    unit is whole 1e-8 units. -/
theorem nativeUnits_sweep (balance : ℤ) (decimals : ℕ) :
    nativeUnits (rescale (10 ^ decimals) (10 ^ 8) balance) decimals ≤ balance
      ∧ (decimals ≤ 8 →
        nativeUnits (rescale (10 ^ decimals) (10 ^ 8) balance) decimals = balance) := by
  refine ⟨rescale_back_le (by positivity) (by positivity), ?_⟩
  intro hle
  exact rescale_back (by positivity) (pow_dvd_pow 10 hle)

omit [PyUnicode] in
/-- 1e-8 units in wei. -/
theorem rescale_wei (amount : ℤ) :
    rescale (10 ^ 8) (10 ^ 18) amount = amount * weiPerThorchainUnit := by
  rw [rescale, show (10 : ℤ) ^ 18 = weiPerThorchainUnit * 10 ^ 8 by norm_num [weiPerThorchainUnit],
    ← Int.mul_assoc]
  exact Int.mul_ediv_cancel _ (by norm_num)

/-! ## The Vault call -/

/-- What is answered spends the token of a source on an EVM chain, and the amount
    asked for. -/
theorem answeredEvmVaultSwap_source {rpc : ChainflipRpc} {request : EvmVaultRequest}
    {swap : EvmVaultSwap} {token : String}
    (h : SwapsackChainflip.answeredEvmVaultSwap rpc request = .ok (swap, token)) :
    evmVaultChains.contains (vaultChain request.fromAsset) = true
      ∧ swap.sourceToken = tokenContract request.fromAsset
      ∧ swap.sourceAmount = request.inputAmount := by
  rw [SwapsackChainflip.answeredEvmVaultSwap] at h
  dsimp only at h
  split at h
  · cases h
  · rename_i hsource
    split at h
    · cases h
    · split at h
      · cases h
      · obtain ⟨dest, -, h⟩ := bind_eq_ok h
        obtain ⟨assetId, -, h⟩ := bind_eq_ok h
        obtain ⟨chainId, -, h⟩ := bind_eq_ok h
        obtain ⟨⟨priceFloor, outputFloor⟩, -, h⟩ := bind_eq_ok h
        obtain ⟨vaults, -, h⟩ := bind_eq_ok h
        obtain ⟨fromAsset, -, h⟩ := bind_eq_ok h
        obtain ⟨toAsset, -, h⟩ := bind_eq_ok h
        obtain ⟨answer, -, h⟩ := bind_eq_ok h
        obtain ⟨⟨toAddress, calldata, value, found⟩, -, h⟩ := bind_eq_ok h
        obtain ⟨sourceChainId, -, h⟩ := bind_eq_ok h
        cases h
        exact ⟨by simpa using hsource, rfl, rfl⟩

/-- A call that was accepted moves the planned amount: as its value from the chain's
    own coin, as an argument from a token. -/
theorem checkEvmCall_moves {swap : EvmVaultSwap}
    (h : SwapsackChainflip.checkEvmCall swap = .ok ()) :
    ∃ call, decodeEvmVaultCall swap.calldata = some call
      ∧ (swap.sourceToken = "" → swap.value = swap.sourceAmount)
      ∧ (swap.sourceToken ≠ "" → (call.sourceAmount : ℤ) = swap.sourceAmount) := by
  rw [SwapsackChainflip.checkEvmCall] at h
  split at h
  · cases h
  · rename_i call hcall
    refine ⟨call, hcall, ?_⟩
    by_cases hnative : swap.sourceToken = ""
    · simp only [if_pos hnative] at h
      split at h
      · cases h
      · split at h
        · cases h
        · rename_i hlegs
          exact ⟨fun _ => not_not.mp (not_or.mp hlegs).1, fun htoken => absurd hnative htoken⟩
    · simp only [if_neg hnative] at h
      split at h
      · cases h
      · split at h
        · cases h
        · rename_i hlegs
          exact ⟨fun hempty => absurd hempty hnative, fun _ => not_not.mp (not_or.mp hlegs).1⟩

theorem prepareEvmVaultSwap_ok {rpc : ChainflipRpc} {request : EvmVaultRequest}
    {swap : EvmVaultSwap} (h : prepareEvmVaultSwap rpc request = .ok swap) :
    evmVaultChains.contains (vaultChain request.fromAsset) = true
      ∧ swap.sourceToken = tokenContract request.fromAsset
      ∧ swap.sourceAmount = request.inputAmount
      ∧ SwapsackChainflip.checkEvmCall swap = .ok () := by
  rw [prepareEvmVaultSwap] at h
  obtain ⟨⟨found, token⟩, hanswered, h⟩ := bind_eq_ok h
  obtain ⟨⟨⟩, hcheck, h⟩ := bind_eq_ok h
  cases h
  obtain ⟨hsource, htoken, hamount⟩ := answeredEvmVaultSwap_source hanswered
  refine ⟨hsource, htoken, hamount, ?_⟩
  rw [SwapsackChainflip.checkEvmVaultSwap] at hcheck
  split at hcheck
  · cases hcheck
  · split at hcheck
    · cases hcheck
    · exact hcheck

/-! ## The tables agree -/

/-- The adapter is the one of the asset's chain. -/
def OnChain (ad : EvmAdapter) (asset : String) : Prop :=
  evmChains.find? (fun c => c.chain == assetChain asset) = some ad.toEvmChain

omit [PyUnicode] in
theorem mem_of_lookup {ν : Type} {table : List (String × ν)} {key : String} {v : ν}
    (h : table.lookup key = some v) : (key, v) ∈ table := by
  obtain ⟨before, behind, hsplit, -⟩ := List.lookup_eq_some_iff.mp h
  rw [hsplit]
  exact List.mem_append_right _ (List.mem_cons_self ..)

omit [PyUnicode] in
/-- The sources of a Vault call. -/
theorem evmSource_cases {asset : String}
    (h : evmVaultChains.contains (vaultChain asset) = true) :
    asset ∈ ["ETH.ETH", "ARB.ETH", "ETH.USDC-0XA0B86991C6218B36C1D19D4A2E9EB0CE3606EB48",
      "ETH.USDT-0XDAC17F958D2EE523A2206206994597C13D831EC7",
      "ARB.USDC-0XAF88D065E77C8CC2239327C5EDB3A432268E5831"] := by
  rw [vaultChain] at h
  split at h
  · rename_i chain symbol hlookup
    have hmem := mem_of_lookup hlookup
    simp only [chainflipAssets, List.mem_cons, Prod.mk.injEq, List.not_mem_nil, or_false] at hmem
    rcases hmem with ⟨rfl, rfl, -⟩ | ⟨rfl, rfl, -⟩ | ⟨rfl, rfl, -⟩ | ⟨rfl, rfl, -⟩ |
      ⟨rfl, rfl, -⟩ | ⟨rfl, rfl, -⟩ | ⟨rfl, rfl, -⟩ | ⟨rfl, rfl, -⟩
    all_goals
      revert h
      decide
  · cases h

/-- The bytes of the tokens two venues trade. -/
def bytesOf (digits : String) : Bytes := (fromHex digits).getD []

def usdtContract : Bytes := bytesOf "dac17f958d2ee523a2206206994597c13d831ec7"
def usdcContract : Bytes := bytesOf "a0b86991c6218b36c1d19d4a2e9eb0ce3606eb48"
def arbitrumUsdcContract : Bytes := bytesOf "af88d065e77c8cc2239327c5edb3a432268e5831"

omit [PyUnicode] in
theorem contractOf_usdt :
    contractOf (tokenOf "ETH.USDT-0XDAC17F958D2EE523A2206206994597C13D831EC7")
      = .ok usdtContract := by
  decide +kernel

omit [PyUnicode] in
theorem contractOf_usdc :
    contractOf (tokenOf "ETH.USDC-0XA0B86991C6218B36C1D19D4A2E9EB0CE3606EB48")
      = .ok usdcContract := by
  decide +kernel

omit [PyUnicode] in
theorem contractOf_arbitrumUsdc :
    contractOf (tokenOf "ARB.USDC-0XAF88D065E77C8CC2239327C5EDB3A432268E5831")
      = .ok arbitrumUsdcContract := by
  decide +kernel

theorem knownTokenDecimals_ethereum : ethereum.knownTokenDecimals
    = [("0x" ++ hex usdtContract, 6), ("0x" ++ hex usdcContract, 6)] := by
  have husdt : contractOf "0xdac17f958d2ee523a2206206994597c13d831ec7" = .ok usdtContract := by
    decide +kernel
  have husdc : contractOf "0xa0b86991c6218b36c1d19d4a2e9eb0ce3606eb48" = .ok usdcContract := by
    decide +kernel
  rw [EvmChain.knownTokenDecimals, ethereum, List.map_cons, List.map_cons, List.map_nil]
  dsimp only
  rw [key_contract husdt, key_contract husdc]

theorem knownTokenDecimals_arbitrum : arbitrum.knownTokenDecimals
    = [("0x" ++ hex arbitrumUsdcContract, 6)] := by
  have husdc : contractOf "0xaf88d065e77c8cc2239327c5edb3a432268e5831"
      = .ok arbitrumUsdcContract := by
    decide +kernel
  rw [EvmChain.knownTokenDecimals, arbitrum, List.map_cons, List.map_nil]
  dsimp only
  rw [key_contract husdc]

/-- A token the wallet knows has the decimals of its table. -/
theorem tokenDecimals_known {ad : EvmAdapter} {token : String} {raw : Bytes} {decimals : ℕ}
    (h : contractOf token = .ok raw)
    (hknown : ad.knownTokenDecimals.lookup ("0x" ++ hex raw) = some decimals) :
    ad.tokenDecimals token = .ok decimals := by
  rw [EvmAdapter.tokenDecimals, key_contract h, hknown]

omit [PyUnicode] in
/-- Chainflip counts the chains' own coins in wei. -/
theorem evmSource_native {asset : String} {decimals : ℕ}
    (hsource : evmVaultChains.contains (vaultChain asset) = true)
    (hdecimals : chainflipDecimals.lookup asset = some decimals)
    (hnative : isToken asset = false) : decimals = 18 := by
  have hcases := evmSource_cases hsource
  simp only [List.mem_cons, List.not_mem_nil, or_false] at hcases
  rcases hcases with rfl | rfl | rfl | rfl | rfl
  · exact Option.some.inj (hdecimals.symm.trans rfl)
  · exact Option.some.inj (hdecimals.symm.trans rfl)
  all_goals exact absurd hnative (by decide)

/-- **Chainflip's decimals of a token are the adapter's.** -/
theorem evmSource_token {ad : EvmAdapter} {asset : String} {decimals : ℕ}
    (hchain : OnChain ad asset) (hsource : evmVaultChains.contains (vaultChain asset) = true)
    (hdecimals : chainflipDecimals.lookup asset = some decimals)
    (htoken : isToken asset = true) :
    ad.tokenDecimals (tokenOf asset) = .ok decimals ∧ tokenContract asset ≠ "" := by
  have hlisted (raw : Bytes) (hraw : contractOf (tokenOf asset) = .ok raw)
      (hknown : ad.knownTokenDecimals.lookup ("0x" ++ hex raw) = some decimals) :
      ad.tokenDecimals (tokenOf asset) = .ok decimals ∧ tokenContract asset ≠ "" := by
    refine ⟨tokenDecimals_known hraw hknown, ?_⟩
    intro hempty
    have hkey := key_contract hraw
    rw [show PyUnicode.lower (tokenOf asset) = "" from hempty] at hkey
    have hlen := congrArg (fun s : String => s.toList.length) hkey
    obtain ⟨-, hraw20⟩ := contractOf_eq_ok_iff.mp hraw
    rw [String.toList_append, List.length_append, String.toList_append, List.length_append,
      SwapsackAllowance.length_hex, hraw20] at hlen
    revert hlen
    decide
  have hcases := evmSource_cases hsource
  simp only [List.mem_cons, List.not_mem_nil, or_false] at hcases
  rcases hcases with rfl | rfl | rfl | rfl | rfl
  · exact absurd htoken (by decide)
  · exact absurd htoken (by decide)
  · have hchain : ethereum = ad.toEvmChain := Option.some.inj ((rfl : _ = _).trans hchain)
    refine hlisted usdcContract contractOf_usdc ?_
    rw [← hchain, knownTokenDecimals_ethereum]
    exact hdecimals
  · have hchain : ethereum = ad.toEvmChain := Option.some.inj ((rfl : _ = _).trans hchain)
    refine hlisted usdtContract contractOf_usdt ?_
    rw [← hchain, knownTokenDecimals_ethereum]
    exact hdecimals
  · have hchain : arbitrum = ad.toEvmChain := Option.some.inj ((rfl : _ = _).trans hchain)
    refine hlisted arbitrumUsdcContract contractOf_arbitrumUsdc ?_
    rw [← hchain, knownTokenDecimals_arbitrum]
    exact hdecimals

/-! ## A native sweep -/

theorem tokenContract_native {asset : String} (h : isToken asset = false) :
    tokenContract asset = "" := by
  have hnot : '-' ∉ asset.toList := by
    intro hmem
    rw [isToken, List.contains_iff_mem.mpr hmem] at h
    cases h
  rw [tokenContract, partition_of_notMem hnot]
  exact (PyUnicode.lower_ascii "" (by simp)).trans rfl

omit [PyUnicode] in
/-- From the chain's own coin a Vault call is one transaction. -/
theorem buildVaultSwap_native {lib : ChecksumLib} {abi : EthAbi} {plan : ChainflipEvmVaultPlan}
    {fees : EvmFees} {built : EthVaultSwapBuilt}
    (h : buildVaultSwap lib abi plan fees = .ok built) (hnative : plan.sourceToken = "") :
    spent built.txs = plan.value + vaultSwapGas * fees.maxFeePerGas := by
  rw [buildVaultSwap, buildApprove, if_pos hnative, ok_bind] at h
  obtain ⟨vault, -, h⟩ := bind_eq_ok h
  cases h
  rw [if_pos hnative]
  exact spent_singleton _

/-- A Vault call takes its value and its own budget of gas. -/
theorem swapViaChainflipEvm_native {ad : EvmAdapter} {venues : Venues} {args : SwapArgs}
    {request : SwapRequest} {fees : Gas} {prepared : Prepared}
    (h : swapViaChainflipEvm ad venues args request fees = .ok prepared)
    (hnative : isToken request.fromAsset = false) :
    spent prepared.built.txs
      = request.amount * weiPerThorchainUnit + vaultSwapGas * fees.maxFeePerGas := by
  rw [swapViaChainflipEvm] at h
  obtain ⟨decimals, hdecimals, h⟩ := bind_eq_ok h
  obtain ⟨quote, -, h⟩ := bind_eq_ok h
  obtain ⟨vaultSwap, hswap, h⟩ := bind_eq_ok h
  obtain ⟨hsource, htoken, hamount, hcheck⟩ := prepareEvmVaultSwap_ok (mapError_eq_ok hswap)
  have htoken : vaultSwap.sourceToken = "" := htoken.trans (tokenContract_native hnative)
  obtain ⟨-, -, hvalue, -⟩ := checkEvmCall_moves hcheck
  have hwei : decimals = 18 := evmSource_native hsource (listed_eq_ok hdecimals) hnative
  obtain ⟨built, hbuilt, h⟩ := bind_eq_ok (orRaised_eq_ok h)
  obtain ⟨problems, -, h⟩ := bind_eq_ok h
  cases h
  have hspent := buildVaultSwap_native hbuilt htoken
  refine hspent.trans ?_
  show vaultSwap.value + _ = _
  rw [hvalue htoken, hamount, hwei]
  show rescale (10 ^ 8) (10 ^ 18) request.amount + _ = _
  rw [rescale_wei]

omit [PyUnicode] in
theorem accountGas_nonneg {ad : EvmAdapter} {fees : Gas} (h : accountGas ad = .ok fees) :
    0 ≤ fees.maxFeePerGas := by
  obtain ⟨nonce, -, h⟩ := bind_eq_ok h
  obtain ⟨⟨maxFeePerGas, tip⟩, -, h⟩ := bind_eq_ok h
  cases h
  exact Int.natCast_nonneg _

omit [PyUnicode] in
/-- What CoW sells. -/
theorem cowServes_cases {fromAsset toAsset : String} (h : cowServes fromAsset toAsset = true) :
    fromAsset = "ETH.USDT-0XDAC17F958D2EE523A2206206994597C13D831EC7"
      ∨ fromAsset = "ETH.USDC-0XA0B86991C6218B36C1D19D4A2E9EB0CE3606EB48" := by
  rw [cowServes] at h
  simp only [Bool.and_eq_true, bne_iff_ne] at h
  obtain ⟨⟨⟨hlisted, hether⟩, -⟩, -⟩ := h
  obtain ⟨entry, hentry⟩ := Option.isSome_iff_exists.mp hlisted
  have hmem := mem_of_lookup hentry
  simp only [cowAssets, List.mem_cons, Prod.mk.injEq, List.not_mem_nil, or_false] at hmem
  rcases hmem with ⟨rfl, -⟩ | ⟨rfl, -⟩ | ⟨rfl, -⟩
  · exact Or.inl rfl
  · exact Or.inr rfl
  · exact absurd rfl hether

omit [PyUnicode] in
theorem cowServes_token {fromAsset toAsset : String} (h : cowServes fromAsset toAsset = true) :
    isToken fromAsset = true := by
  rcases cowServes_cases h with rfl | rfl
  · decide
  · decide

/-- **A native sweep pays for itself**, whichever way it settles. -/
theorem swapFromEvm_native {ad : EvmAdapter} {venues : Venues} {args : SwapArgs}
    {prepared : Prepared} (h : swapFromEvm ad venues args = .ok prepared)
    (hmax : args.amount = .max) (hnative : isToken args.fromAsset = false) :
    ∃ balance, ad.node.balance ad.address = .ok balance
      ∧ spent prepared.built.txs ≤ balance := by
  rw [swapFromEvm] at h
  obtain ⟨fees, hfees, h⟩ := bind_eq_ok h
  obtain ⟨amount, hamount, h⟩ := bind_eq_ok h
  obtain ⟨backend, hbackend, h⟩ := bind_eq_ok h
  have hfee := accountGas_nonneg (orRaised_eq_ok hfees)
  rw [hmax] at hamount
  obtain ⟨balance, hbalance, hfits⟩ :=
    everything_native (orInsufficient_eq_ok hamount) hnative
  have hselected := selectBackend_ok (orAborted_eq_ok hbackend)
  refine ⟨balance, hbalance, le_trans ?_ hfits⟩
  rw [settle] at h
  split at h
  · rename_i hexecutor
    obtain ⟨hchoice, -⟩ := hselected.vaultSwap hexecutor
    rw [swapViaChainflipEvm_native h hnative]
    exact Int.add_le_add_left
      (Int.mul_le_mul_of_nonneg_right (vaultSwapGas_le_evmSweepGas _ hchoice) hfee) _
  · rename_i hexecutor
    have htoken : isToken args.fromAsset = true :=
      cowServes_token (hselected.signedOrder hexecutor)
    rw [hnative] at htoken
    cases htoken
  · split at h
    · cases h
    · obtain ⟨quote, -, hbuilt⟩ := prepareSwap_ok h
      rw [buildAndVerify_native (orRaised_eq_ok hbuilt) hnative]
      exact Int.add_le_add_left
        (Int.mul_le_mul_of_nonneg_right (le_evmSweepGas _ _) hfee) _

/-- **So does a plain send.** -/
theorem sendEvm_native {ad : EvmAdapter} {asset recipient : String} {prepared : Prepared}
    (h : sendEvm ad asset .max recipient = .ok prepared) (hnative : isToken asset = false) :
    ∃ balance, ad.node.balance ad.address = .ok balance
      ∧ spent prepared.built.txs ≤ balance := by
  rw [sendEvm] at h
  obtain ⟨fees, -, h⟩ := bind_eq_ok h
  obtain ⟨amount, hamount, h⟩ := bind_eq_ok h
  obtain ⟨balance, hbalance, hfits⟩ :=
    everything_native (orInsufficient_eq_ok hamount) hnative
  refine ⟨balance, hbalance, ?_⟩
  rw [buildAndVerifySend_native (orRaised_eq_ok h) hnative]
  exact hfits

/-! ## A token sweep -/

omit [PyUnicode] in
/-- The amount of a token, in its own units, that transactions move: the argument of
    a transfer, of a deposit and its `approve`, of a Vault call, or an order's. -/
def Places (abi : TokenAbi) : EvmBuilt → ℤ → Prop
  | .swap built, n => ∃ toAddress, built.tx.data = encodeTransfer abi.toEthAbi toAddress n
  | .token built, n => built.nativeAmount = n
      ∧ (∃ data, encodeApprove abi.toEthAbi built.router n = .ok data
        ∧ built.approveTx.data = some data)
      ∧ ∃ data, encodeDeposit abi { vault := built.vault, token := built.token, amount := n
                                    memo := built.memo, expiry := built.expiry } = .ok data
        ∧ built.depositTx.data = some data
  | .vault built, n => ∃ calldata call, built.swapTx.data = some ("0x" ++ hex calldata)
      ∧ decodeEvmVaultCall calldata = some call ∧ (call.sourceAmount : ℤ) = n
  | .sale order, n => order.sellAmount = n

omit [PyUnicode] in
/-- A router deposit places the amount it is built for. -/
theorem places_tokenDeposit {abi : TokenAbi} {lib : ChecksumLib} {chainId : ℤ}
    {token router vault : String} {native : ℤ} {memo : String} {expiry : ℤ} {fees : Gas}
    {built : EthTokenBuiltSwap}
    (h : buildTokenDeposit abi lib chainId token router vault native memo expiry fees
      = .ok built) : Places abi (.token built) native := by
  obtain ⟨token, -, h⟩ := bind_eq_ok h
  obtain ⟨router, -, h⟩ := bind_eq_ok h
  obtain ⟨vault, -, h⟩ := bind_eq_ok h
  obtain ⟨approveData, happrove, h⟩ := bind_eq_ok h
  obtain ⟨depositData, hdata, h⟩ := bind_eq_ok h
  cases h
  exact ⟨rfl, ⟨_, happrove, rfl⟩, _, hdata, rfl⟩

/-- A deposit places the amount it is built for. -/
theorem buildAndVerify_token {ad : EvmAdapter} {quote : Quote} {fromAsset destination : String}
    {amount now gas maxFeeWei : ℤ} {fees : Gas} {prepared : Prepared} {decimals : ℕ}
    (h : buildAndVerify ad quote fromAsset amount destination now gas fees maxFeeWei
      = .ok prepared) (htoken : isToken fromAsset = true)
    (hdecimals : ad.tokenDecimals (tokenOf fromAsset) = .ok decimals) :
    Places ad.abi prepared.built (nativeUnits amount decimals) := by
  rw [buildAndVerify, if_pos htoken, hdecimals, ok_bind] at h
  obtain ⟨built, hbuilt, h⟩ := bind_eq_ok h
  cases h
  exact places_tokenDeposit hbuilt

/-- A transfer places the amount it is built for; its contract is asked for its
    decimals under another spelling. -/
theorem buildAndVerifySend_token {ad : EvmAdapter} {asset recipient : String}
    {amount maxFeeWei : ℤ} {fees : Gas} {prepared : Prepared} {decimals : ℕ} {raw : Bytes}
    (h : buildAndVerifySend ad recipient amount asset fees maxFeeWei = .ok prepared)
    (htoken : isToken asset = true) (hraw : contractOf (tokenOf asset) = .ok raw)
    (hdecimals : ad.tokenDecimals (tokenOf asset) = .ok decimals) :
    Places ad.abi prepared.built (nativeUnits amount decimals) := by
  rw [buildAndVerifySend, if_pos htoken, buildAndVerifyTokenSend] at h
  obtain ⟨token, hchecksum, h⟩ := bind_eq_ok h
  obtain ⟨toAddress, -, h⟩ := bind_eq_ok h
  rw [tokenDecimals_checksum hchecksum hraw, hdecimals, ok_bind] at h
  obtain ⟨data, hdata, h⟩ := bind_eq_ok h
  cases h
  exact ⟨toAddress, (orLibrary_eq_ok hdata).symm⟩

/-- A Vault call places the amount in Chainflip's units, which are the adapter's. -/
theorem swapViaChainflipEvm_token {ad : EvmAdapter} {venues : Venues} {args : SwapArgs}
    {request : SwapRequest} {fees : Gas} {prepared : Prepared} {decimals : ℕ}
    (h : swapViaChainflipEvm ad venues args request fees = .ok prepared)
    (hchain : OnChain ad request.fromAsset) (htoken : isToken request.fromAsset = true)
    (hdecimals : ad.tokenDecimals (tokenOf request.fromAsset) = .ok decimals) :
    Places ad.abi prepared.built (nativeUnits request.amount decimals) := by
  rw [swapViaChainflipEvm] at h
  obtain ⟨ours, hlisted, h⟩ := bind_eq_ok h
  obtain ⟨quote, -, h⟩ := bind_eq_ok h
  obtain ⟨vaultSwap, hswap, h⟩ := bind_eq_ok h
  obtain ⟨hsource, hcontract, hamount, hcheck⟩ := prepareEvmVaultSwap_ok (mapError_eq_ok hswap)
  obtain ⟨hsame, hnonempty⟩ := evmSource_token hchain hsource (listed_eq_ok hlisted) htoken
  have hours : ours = decimals := Except.ok.inj (hsame.symm.trans hdecimals)
  rw [← hours]
  obtain ⟨call, hcall, -, hmoves⟩ := checkEvmCall_moves hcheck
  obtain ⟨built, hbuilt, h⟩ := bind_eq_ok (orRaised_eq_ok h)
  obtain ⟨problems, -, h⟩ := bind_eq_ok h
  cases h
  obtain ⟨approveTx, -, hbuilt⟩ := bind_eq_ok hbuilt
  obtain ⟨vault, -, hbuilt⟩ := bind_eq_ok hbuilt
  cases hbuilt
  refine ⟨vaultSwap.calldata, call, rfl, hcall, ?_⟩
  exact (hmoves (hcontract ▸ hnonempty)).trans hamount

/-- An order sells the amount in CoW's units, which are the adapter's. -/
theorem swapViaCow_token {ad : EvmAdapter} {venues : Venues} {args : SwapArgs}
    {backend : SwapBackend} {request : SwapRequest} {fees : Gas} {prepared : Prepared}
    {decimals : ℕ} (h : swapViaCow ad venues args backend request fees = .ok prepared)
    (hchain : OnChain ad request.fromAsset)
    (hserves : cowServes request.fromAsset request.toAsset = true)
    (hdecimals : ad.tokenDecimals (tokenOf request.fromAsset) = .ok decimals) :
    Places ad.abi prepared.built (nativeUnits request.amount decimals) := by
  have hours : ∃ entry : String × ℕ, cowAssets.lookup request.fromAsset = some entry
      ∧ ad.tokenDecimals (tokenOf request.fromAsset) = .ok entry.2 := by
    rcases cowServes_cases hserves with hasset | hasset
    · rw [hasset] at hchain ⊢
      have hchain : ethereum = ad.toEvmChain := Option.some.inj ((rfl : _ = _).trans hchain)
      refine ⟨_, rfl, tokenDecimals_known contractOf_usdt ?_⟩
      rw [← hchain, knownTokenDecimals_ethereum]
      rfl
    · rw [hasset] at hchain ⊢
      have hchain : ethereum = ad.toEvmChain := Option.some.inj ((rfl : _ = _).trans hchain)
      refine ⟨_, rfl, tokenDecimals_known contractOf_usdc ?_⟩
      rw [← hchain, knownTokenDecimals_ethereum]
      rfl
  obtain ⟨entry, hentry, hsame⟩ := hours
  rw [swapViaCow] at h
  split at h
  · cases h
  · obtain ⟨⟨sellToken, sellDecimals⟩, hlisted, h⟩ := bind_eq_ok h
    have hsell := listed_eq_ok hlisted
    rw [hentry] at hsell
    cases hsell
    rw [← Except.ok.inj (hsame.symm.trans hdecimals)]
    obtain ⟨⟨buyToken, buyDecimals⟩, -, h⟩ := bind_eq_ok h
    obtain ⟨quote, -, h⟩ := bind_eq_ok h
    obtain ⟨contract, -, h⟩ := bind_eq_ok h
    obtain ⟨allowance, -, h⟩ := bind_eq_ok h
    obtain ⟨⟨approvals, problems⟩, -, h⟩ := bind_eq_ok h
    cases h
    rfl

omit [PyUnicode] in
/-- What a token sweep places: within the balance, and all of it where the token's
    own unit is whole 1e-8 units. -/
def SweepsToken (abi : TokenAbi) (built : EvmBuilt) (balance decimals : ℕ) : Prop :=
  ∃ placed, Places abi built placed ∧ placed ≤ balance ∧ (decimals ≤ 8 → placed = balance)

/-- **A token sweep places the balance**, whichever way it settles. -/
theorem swapFromEvm_token {ad : EvmAdapter} {venues : Venues} {args : SwapArgs}
    {prepared : Prepared} (h : swapFromEvm ad venues args = .ok prepared)
    (hchain : OnChain ad args.fromAsset) (hmax : args.amount = .max)
    (htoken : isToken args.fromAsset = true) :
    ∃ balance decimals, ad.fetchTokenBalance (tokenOf args.fromAsset) = .ok balance
      ∧ ad.tokenDecimals (tokenOf args.fromAsset) = .ok decimals
      ∧ SweepsToken ad.abi prepared.built balance decimals := by
  rw [swapFromEvm] at h
  obtain ⟨fees, -, h⟩ := bind_eq_ok h
  obtain ⟨amount, hamount, h⟩ := bind_eq_ok h
  obtain ⟨backend, hbackend, h⟩ := bind_eq_ok h
  rw [hmax] at hamount
  obtain ⟨balance, decimals, hbalance, hdecimals, hsized⟩ :=
    everything_token (orInsufficient_eq_ok hamount) htoken
  obtain ⟨hwithin, hall⟩ := nativeUnits_sweep (balance : ℤ) decimals
  rw [← hsized] at hwithin hall
  have hselected := selectBackend_ok (orAborted_eq_ok hbackend)
  refine ⟨balance, decimals, hbalance, hdecimals, nativeUnits amount decimals, ?_, hwithin, hall⟩
  rw [settle] at h
  split at h
  · exact swapViaChainflipEvm_token h hchain htoken hdecimals
  · rename_i hexecutor
    exact swapViaCow_token h hchain (hselected.signedOrder hexecutor) hdecimals
  · split at h
    · cases h
    · obtain ⟨quote, -, hbuilt⟩ := prepareSwap_ok h
      exact buildAndVerify_token (orRaised_eq_ok hbuilt) htoken hdecimals

/-- **So does a plain send.** -/
theorem sendEvm_token {ad : EvmAdapter} {asset recipient : String} {prepared : Prepared}
    (h : sendEvm ad asset .max recipient = .ok prepared) (htoken : isToken asset = true) :
    ∃ balance decimals, ad.fetchTokenBalance (tokenOf asset) = .ok balance
      ∧ ad.tokenDecimals (tokenOf asset) = .ok decimals
      ∧ SweepsToken ad.abi prepared.built balance decimals := by
  rw [sendEvm] at h
  obtain ⟨fees, -, h⟩ := bind_eq_ok h
  obtain ⟨amount, hamount, h⟩ := bind_eq_ok h
  obtain ⟨balance, decimals, hbalance, hdecimals, hsized⟩ :=
    everything_token (orInsufficient_eq_ok hamount) htoken
  obtain ⟨hwithin, hall⟩ := nativeUnits_sweep (balance : ℤ) decimals
  rw [← hsized] at hwithin hall
  obtain ⟨raw, hraw, -⟩ := bind_eq_ok hbalance
  exact ⟨balance, decimals, hbalance, hdecimals, nativeUnits amount decimals,
    buildAndVerifySend_token (orRaised_eq_ok h) htoken hraw hdecimals, hwithin, hall⟩

end Commands

/-! ## A send of nothing -/

/-- An account on Ethereum, with a gas price of one gwei. -/
def gweiAdapter (balance : ℕ) (tokenBalance : ℕ) : EvmAdapter where
  toEvmChain := ethereum
  node :=
    { transactionCount := fun _ => .ok 7
      balance := fun _ => .ok balance
      tokenBalance := fun _ _ => .ok tokenBalance
      decimals := fun _ => .ok 6
      allowance := fun _ _ _ => .ok 0
      maxPriorityFeePerGas := .ok 2
      baseFeePerGas := .ok 499999999 }
  address := "0x9858effd232b4033e47d90003d41ec34ecaeda94"
  lib := SwapsackAllowance.usdtLib
  abi := SwapsackAllowance.wordsAbi
  digestLength := SwapsackAllowance.usdtLib_length

/-- One wei above its gas is swept as nothing, and the gate of the send has no
    complaint. -/
theorem sendEvm_nothing :
    ¬ (Sizing.evm 21000000000001 21000 1000000000).Lawful
    ∧ ∃ prepared, @sendEvm asciiUnicode (gweiAdapter 21000000000001 0) "ETH.ETH" .max
        "0x000000000000000000000000000000000000dead" = .ok prepared
      ∧ prepared.problems = [] ∧ prepared.built.txs.map EvmTx.value = [0] := by
  constructor
  · have hnothing : ethSweepAmount 21000000000001 21000 1000000000 = .ok 0 := by decide
    rw [Sizing.Lawful, hnothing]
    intro h
    exact absurd h.1 (by decide)
  · exact ⟨_, rfl, rfl, rfl⟩

end SwapsackEvmSweep
