import Swapsack.EvmSweepProofs

/-! # Adding everything to a pool

    A liquidity add from an EVM chain is sized and converted back like a swap, but no
    backend is chosen: the deposit goes where the user said, with the gas the user
    said.

    * `liquidityEvm_native` — value and gas fit the balance;
    * `liquidityEvm_token` — what the router is to pull is the balance, less what
      1e-8 units cannot say. -/

namespace SwapsackEvmLiquidity

open ListKit PyText SwapsackBase SwapsackVerify SwapsackSweep Rescaling
open SwapsackBackends SwapsackEvm SwapsackPrepare SwapsackEvmSweep
open SwapsackAllowance (Gas DepositArgs buildTokenDeposit)

def addLiquidityMemo (pool : String) : String := s!"+:{pool}"

/-- An add of a token's pool; a withdrawal from one is triggered with the chain's own
    coin. -/
def isTokenAdd (memo asset : String) : Bool := startsWith memo "+" && isToken asset

section Liquidity

variable [PyUnicode]

/-! ## The deposit -/

/-- The token of a deposit that is not of the chain's own coin, and the router that
    pulls it. -/
structure TokenSource where
  token : String
  router : Option String

/-- An `approve` and a router deposit of a token; an add pays nobody, which the gate
    is told by an empty destination. -/
def buildAndVerifyTokenDeposit (ad : EvmAdapter) (vault memo : String) (amount now : ℤ)
    (fees : Gas) (maxFeeWei : ℤ) (source : TokenSource) : Except Stop Prepared :=
  if orText source.router "" = "" then
    .error (.aborted "token liquidity needs the backend's ETH router")
  else orRaised do
    let decimals ← ad.tokenDecimals source.token
    let built ← buildTokenDeposit ad.abi ad.lib ad.chainId source.token
      (orText source.router "") vault (nativeUnits amount decimals) memo (now + 3600) fees
    .ok
      { built := .token built
        problems := (verifyEthTokenSwap ad.abi built "" now maxFeeWei).map .text }

/-- A deposit with a memo that no quote has given. -/
def buildAndVerifyDeposit (ad : EvmAdapter) (vault memo : String) (amount now gas : ℤ)
    (fees : Gas) (maxFeeWei : ℤ) : Option TokenSource → Except Stop Prepared
  | some source => buildAndVerifyTokenDeposit ad vault memo amount now fees maxFeeWei source
  | none =>
      if startsWith memo "+" && (partition ':' memo.toList).2.1 = false then
        .error (.raised .indexError)
      -- a token's pool would take the coin for the other side of the pair
      else if startsWith memo "+" && isToken (memoPool memo) then
        .error (.aborted "token-pool liquidity add needs an explicit token contract")
      else orRaised do
        let built ← buildUnsignedSwap ad vault amount memo gas fees
        let plan : EthSwapPlan :=
          { inboundAddress := vault, amountWei := amount * weiPerThorchainUnit, memo
            expiry := now + 3600, chainId := ad.chainId }
        let problems := verifyEthSwap (some built.toAddress) built.value (some built.data)
          built.chainId built.gas built.maxFeePerGas plan now maxFeeWei
        .ok { built := .swap built, problems := problems.map .swap }

/-! ## The command -/

omit [PyUnicode] in
/-- The fees of the day and the account's next nonce. -/
def depositGas (ad : EvmAdapter) : Except PyError Gas := do
  let (maxFeePerGas, maxPriorityFeePerGas) ← ad.fetchFees
  let nonce ← ad.node.transactionCount ad.address
  .ok { nonce := nonce, maxFeePerGas := maxFeePerGas, maxPriorityFeePerGas := maxPriorityFeePerGas }

omit [PyUnicode] in
/-- The router of the chain, on a backend that has one. -/
def routerOf (client : ThorchainClient) (chain : String) : Except Stop String := do
  let statuses ← client.inboundAddresses.mapError .client
  match (statuses.lookup chain).bind ChainStatus.router with
  | none => .error (.aborted s!"no {chain} router on this backend — token LP needs it")
  | some router =>
      if router = "" then
        .error (.aborted s!"no {chain} router on this backend — token LP needs it")
      else .ok router

/-- What a deposit is built with beside its amount, and the decimals of what it
    deposits. -/
def ethLpBuildArgs (ad : EvmAdapter) (client : ThorchainClient) (asset : String)
    (tokenAdd : Bool) : Except Stop (Gas × Option TokenSource × ℕ) := do
  let fees ← orRaised (depositGas ad)
  if tokenAdd then do
    let router ← routerOf client ad.chain
    let decimals ← orRaised (ad.tokenDecimals (tokenOf asset))
    .ok (fees, some { token := tokenOf asset, router := some router }, decimals)
  else .ok (fees, none, 18)

/-- Everything there is, of what the deposit is of. -/
def everythingToAdd (ad : EvmAdapter) (ethGas maxFeePerGas : ℤ) (decimals : ℕ) :
    Option TokenSource → Except PyError ℤ
  | some source => do
      let balance ← ad.fetchTokenBalance source.token
      tokenSweepAmount balance decimals
  | none => do
      let balance ← ad.node.balance ad.address
      ethSweepAmount balance ethGas maxFeePerGas

/-- An amount, or none for the deposit that triggers a withdrawal. -/
def amountToAdd (ad : EvmAdapter) (ethGas maxFeePerGas : ℤ) (decimals : ℕ)
    (source : Option TokenSource) : Option Amount → Except Stop (Option ℤ)
  | some .max => do
      let amount ← orInsufficient (everythingToAdd ad ethGas maxFeePerGas decimals source)
      .ok (some amount)
  | some (.units n) => .ok (some n)
  | none => .ok none

/-- An add to a pool, or the deposit that triggers a withdrawal from one. -/
def liquidityEvm (ad : EvmAdapter) (client : ThorchainClient) (asset memo : String)
    (amount : Option Amount) (ethGas now : ℤ) : Except Stop Prepared := do
  let (fees, source, decimals) ← ethLpBuildArgs ad client asset (isTokenAdd memo asset)
  let amount ← amountToAdd ad ethGas fees.maxFeePerGas decimals source amount
  prepareLiquidity client ad.chain memo amount fun vault deposited =>
    buildAndVerifyDeposit ad vault memo deposited now ethGas fees ethMaxFeeWei source

/-! ## The chain's own coin -/

/-- A deposit of the coin takes its value and the caller's gas. -/
theorem buildAndVerifyDeposit_native {ad : EvmAdapter} {vault memo : String}
    {amount now gas maxFeeWei : ℤ} {fees : Gas} {prepared : Prepared}
    (h : buildAndVerifyDeposit ad vault memo amount now gas fees maxFeeWei none
      = .ok prepared) :
    spent prepared.built.txs = amount * weiPerThorchainUnit + gas * fees.maxFeePerGas := by
  rw [buildAndVerifyDeposit] at h
  split at h
  · cases h
  · split at h
    · cases h
    · obtain ⟨built, hbuilt, h⟩ := bind_eq_ok (orRaised_eq_ok h)
      cases h
      exact spent_unsignedSwap hbuilt

/-- **An add of the coin pays for itself.** -/
theorem liquidityEvm_native {ad : EvmAdapter} {client : ThorchainClient} {asset memo : String}
    {ethGas now : ℤ} {prepared : Prepared}
    (h : liquidityEvm ad client asset memo (some .max) ethGas now = .ok prepared)
    (hcoin : isTokenAdd memo asset = false) :
    ∃ balance, ad.node.balance ad.address = .ok balance
      ∧ spent prepared.built.txs ≤ balance := by
  rw [liquidityEvm, hcoin, ethLpBuildArgs] at h
  obtain ⟨args, hargs, h⟩ := bind_eq_ok h
  obtain ⟨fees, -, hargs⟩ := bind_eq_ok hargs
  cases hargs
  obtain ⟨amount, hamount, h⟩ := bind_eq_ok h
  obtain ⟨sized, hsized, hamount⟩ := bind_eq_ok hamount
  cases hamount
  obtain ⟨balance, hbalance, hsized⟩ := bind_eq_ok (orInsufficient_eq_ok hsized)
  obtain ⟨vault, hbuilt⟩ := prepareLiquidity_ok h
  refine ⟨balance, hbalance, ?_⟩
  rw [buildAndVerifyDeposit_native hbuilt]
  exact ethSweepAmount_covers hsized

/-! ## A token -/

/-- A deposit of a token places the amount it is built for. -/
theorem buildAndVerifyDeposit_token {ad : EvmAdapter} {vault memo : String}
    {amount now gas maxFeeWei : ℤ} {fees : Gas} {source : TokenSource} {prepared : Prepared}
    {decimals : ℕ}
    (h : buildAndVerifyDeposit ad vault memo amount now gas fees maxFeeWei (some source)
      = .ok prepared) (hdecimals : ad.tokenDecimals source.token = .ok decimals) :
    Places ad.abi prepared.built (nativeUnits amount decimals) := by
  rw [buildAndVerifyDeposit, buildAndVerifyTokenDeposit] at h
  split at h
  · cases h
  · have h := orRaised_eq_ok h
    rw [hdecimals, ok_bind] at h
    obtain ⟨built, hbuilt, h⟩ := bind_eq_ok h
    cases h
    exact places_tokenDeposit hbuilt

/-- **An add of a token places the balance.** -/
theorem liquidityEvm_token {ad : EvmAdapter} {client : ThorchainClient} {asset memo : String}
    {ethGas now : ℤ} {prepared : Prepared}
    (h : liquidityEvm ad client asset memo (some .max) ethGas now = .ok prepared)
    (hadd : isTokenAdd memo asset = true) :
    ∃ balance decimals, ad.fetchTokenBalance (tokenOf asset) = .ok balance
      ∧ ad.tokenDecimals (tokenOf asset) = .ok decimals
      ∧ SweepsToken ad.abi prepared.built balance decimals := by
  rw [liquidityEvm, hadd, ethLpBuildArgs] at h
  obtain ⟨args, hargs, h⟩ := bind_eq_ok h
  obtain ⟨fees, -, hargs⟩ := bind_eq_ok hargs
  obtain ⟨router, -, hargs⟩ := bind_eq_ok hargs
  obtain ⟨decimals, hdecimals, hargs⟩ := bind_eq_ok hargs
  cases hargs
  have hdecimals := orRaised_eq_ok hdecimals
  obtain ⟨amount, hamount, h⟩ := bind_eq_ok h
  obtain ⟨sized, hsized, hamount⟩ := bind_eq_ok hamount
  cases hamount
  obtain ⟨balance, hbalance, hsized⟩ := bind_eq_ok (orInsufficient_eq_ok hsized)
  obtain ⟨vault, hbuilt⟩ := prepareLiquidity_ok h
  refine ⟨balance, decimals, hbalance, hdecimals, nativeUnits sized decimals,
    buildAndVerifyDeposit_token hbuilt hdecimals, ?_⟩
  rw [(tokenSweepAmount_spec hsized).1]
  exact nativeUnits_sweep balance decimals

end Liquidity

end SwapsackEvmLiquidity
