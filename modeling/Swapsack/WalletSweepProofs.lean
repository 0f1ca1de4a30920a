import Swapsack.TronSweepProofs

/-! # Sweeping with the wallet

    A command goes to the account of the chain its asset is on.  Whatever becomes of
    an amount between its sizing and the transactions, one law holds at the end.

    * `sweep_fits` — what a command builds of everything there is, the balance
      covers. -/

namespace SwapsackWallet

open ListKit PyText SwapsackBase SwapsackBackends SwapsackEvm SwapsackPrepare SwapsackEvmSweep
open SwapsackEvmLiquidity SwapsackTronSweep
open SwapsackAddresses (ChecksumLib)
open SwapsackCosmosTx (assetChain)
open SwapsackAllowance (TokenAbi)

/-! ## Commands -/

/-- The accounts that one seed derives, with what is asked about them; every EVM chain
    has the same address. -/
structure Wallet where
  node : EvmChain → EvmNode
  address : String
  lib : ChecksumLib
  abi : TokenAbi
  digestLength : ∀ b, (lib.keccak256 b).length = 32
  tron : TronAdapter
  venues : Venues

/-- The wallet on one EVM chain. -/
def Wallet.evm (w : Wallet) (c : EvmChain) : EvmAdapter where
  toEvmChain := c
  node := w.node c
  address := w.address
  lib := w.lib
  abi := w.abi
  digestLength := w.digestLength

/-- What spends from an account; a recipient has passed the address checks. -/
inductive Command where
  | swap (args : SwapArgs)
  | send (asset : String) (amount : Amount) (recipient : String)
  | addLiquidity (backend asset : String) (amount : Amount) (ethGas : ℤ)

/-- The asset that a command spends. -/
def Command.asset : Command → String
  | swap args => args.fromAsset
  | send asset _ _ => asset
  | addLiquidity _ asset _ _ => asset

/-- The amount, which may be all there is. -/
def Command.amount : Command → Amount
  | swap args => args.amount
  | send _ amount _ => amount
  | addLiquidity _ _ amount _ => amount

/-- A chain that keeps accounts. -/
inductive Account where
  | evm (c : EvmChain)
  | tron

/-- The account of an asset's chain; the other chains have commands of their own. -/
def accountOf (asset : String) : Option Account :=
  match evmChains.find? fun c => c.chain == assetChain asset with
  | some c => some (.evm c)
  | none => if assetChain asset = "TRON" then some .tron else none

/-- What a command prints, and asks to confirm. -/
inductive Built where
  | evm (c : EvmChain) (prepared : Prepared)
  | tron (prepared : TronPrepared)

section Wallet

variable [PyUnicode]

omit [PyUnicode] in
/-- The backend has pools of the chain. -/
def requireLpBackend (c : EvmChain) (backend : String) : Except Stop Unit :=
  match c.lpBackends with
  | none => .ok ()
  | some allowed =>
      if allowed.contains backend then .ok ()
      else
        match allowed with
        | [] => .error (.misuse s!"{c.chain} has no liquidity pools on any backend")
        | first :: _ =>
            let names := "/".intercalate allowed
            .error (.misuse <|
              s!"{c.chain} liquidity exists only on {names} — re-run with --backend {first}")

/-- The node of the network that a backend is. -/
def liquidityClient (clients : Clients) (backend : String) : Except Stop ThorchainClient := do
  let found ← orAborted (getBackend clients backend)
  match found.client with
  | none => .error (.raised .attributeError)
  | some client => .ok client

/-- A command on an EVM chain. -/
def Command.runEvm (w : Wallet) (c : EvmChain) : Command → Except Stop Prepared
  | swap args => swapFromEvm (w.evm c) w.venues args
  | send asset amount recipient => sendEvm (w.evm c) asset amount recipient
  | addLiquidity backend asset amount ethGas => do
      requireLpBackend c backend
      let client ← liquidityClient w.venues.clients backend
      liquidityEvm (w.evm c) client asset (addLiquidityMemo asset) (some amount) ethGas
        w.venues.now

/-- A command on Tron, which has no token liquidity. -/
def Command.runTron (w : Wallet) : Command → Except Stop TronPrepared
  | swap args => swapFromTron w.tron w.venues args
  | send asset amount recipient => sendTron w.tron asset amount recipient
  | addLiquidity backend asset amount _ =>
      if isToken asset then
        .error (.misuse s!"token liquidity is only supported for EVM tokens, not {asset}")
      else do
        let client ← liquidityClient w.venues.clients backend
        liquidityTron w.tron client (addLiquidityMemo asset) (some amount) w.venues.now

/-- A command, on the account its asset is held in. -/
def Command.run (w : Wallet) (cmd : Command) : Option (Except Stop Built) :=
  (accountOf cmd.asset).map fun account =>
    match account with
    | .evm c => (cmd.runEvm w c).map (.evm c)
    | .tron => (cmd.runTron w).map .tron

/-! ## The law -/

/-- The balance that was read covers what was built: of a chain's own coin, its value
    and its gas; of a token, what is placed, which is all of it where the token's own
    unit is whole 1e-8 units. -/
def Covers (w : Wallet) (asset : String) : Built → Prop
  | .evm c prepared =>
      (isToken asset = false → ∃ balance, (w.node c).balance w.address = .ok balance
        ∧ spent prepared.built.txs ≤ balance)
      ∧ (isToken asset = true → ∃ balance decimals,
          (w.evm c).fetchTokenBalance (tokenOf asset) = .ok balance
          ∧ (w.evm c).tokenDecimals (tokenOf asset) = .ok decimals
          ∧ SweepsToken w.abi prepared.built balance decimals)
  | .tron prepared => isToken asset = true ∧ SweepsTrc20 w.tron asset prepared.built

omit [PyUnicode] in

/-- The memo of an add is one of a token exactly when the asset is. -/
theorem isTokenAdd_addLiquidityMemo (asset : String) :
    isTokenAdd (addLiquidityMemo asset) asset = isToken asset := by
  have hadd : PyText.startsWith (addLiquidityMemo asset) "+" = true := by
    simp [PyText.startsWith, addLiquidityMemo, toString]
  rw [isTokenAdd, hadd, Bool.true_and]

omit [PyUnicode] in

/-- A result that is mapped is the map of one. -/
theorem map_eq_ok {ε α β : Type} {f : α → β} {x : Except ε α} {b : β}
    (h : x.map f = .ok b) : ∃ a, x = .ok a ∧ f a = b := by
  cases x with
  | error e => cases h
  | ok a => exact ⟨a, rfl, Except.ok.inj h⟩

/-- An EVM chain's own coin. -/
theorem runEvm_native {w : Wallet} {c : EvmChain} {cmd : Command} {prepared : Prepared}
    (h : cmd.runEvm w c = .ok prepared) (hmax : cmd.amount = .max)
    (hnative : isToken cmd.asset = false) :
    ∃ balance, (w.node c).balance w.address = .ok balance
      ∧ spent prepared.built.txs ≤ balance := by
  cases cmd with
  | swap args => exact swapFromEvm_native h hmax hnative
  | send asset amount recipient =>
      cases hmax
      exact sendEvm_native h hnative
  | addLiquidity backend asset amount ethGas =>
      cases hmax
      obtain ⟨_, -, h⟩ := bind_eq_ok h
      obtain ⟨client, -, h⟩ := bind_eq_ok h
      exact liquidityEvm_native h ((isTokenAdd_addLiquidityMemo asset).trans hnative)

/-- A token of an EVM chain. -/
theorem runEvm_token {w : Wallet} {c : EvmChain} {cmd : Command} {prepared : Prepared}
    (h : cmd.runEvm w c = .ok prepared) (hchain : OnChain (w.evm c) cmd.asset)
    (hmax : cmd.amount = .max) (htoken : isToken cmd.asset = true) :
    ∃ balance decimals, (w.evm c).fetchTokenBalance (tokenOf cmd.asset) = .ok balance
      ∧ (w.evm c).tokenDecimals (tokenOf cmd.asset) = .ok decimals
      ∧ SweepsToken w.abi prepared.built balance decimals := by
  cases cmd with
  | swap args => exact swapFromEvm_token h hchain hmax htoken
  | send asset amount recipient =>
      cases hmax
      exact sendEvm_token h htoken
  | addLiquidity backend asset amount ethGas =>
      cases hmax
      obtain ⟨_, -, h⟩ := bind_eq_ok h
      obtain ⟨client, -, h⟩ := bind_eq_ok h
      exact liquidityEvm_token h ((isTokenAdd_addLiquidityMemo asset).trans htoken)

/-- Everything there is on Tron is a token. -/
theorem runTron_token {w : Wallet} {cmd : Command} {prepared : TronPrepared}
    (h : cmd.runTron w = .ok prepared) (hmax : cmd.amount = .max) :
    isToken cmd.asset = true ∧ SweepsTrc20 w.tron cmd.asset prepared.built := by
  cases cmd with
  | swap args => exact swapFromTron_token h hmax
  | send asset amount recipient =>
      cases hmax
      exact sendTron_token h
  | addLiquidity backend asset amount ethGas =>
      cases hmax
      rw [Command.runTron] at h
      split at h
      · cases h
      · obtain ⟨client, -, h⟩ := bind_eq_ok h
        cases h

omit [PyUnicode] in

/-- The account of an asset is on its own chain. -/
theorem accountOf_evm {asset : String} {c : EvmChain} (h : accountOf asset = some (.evm c)) :
    evmChains.find? (fun c => c.chain == assetChain asset) = some c := by
  rw [accountOf] at h
  split at h
  · rename_i found hfound
    cases h
    exact hfound
  · split at h
    · cases h
    · cases h

/-- **Whatever a command builds of everything there is, the balance covers.** -/
theorem sweep_fits {w : Wallet} {cmd : Command} {built : Built}
    (h : cmd.run w = some (.ok built)) (hmax : cmd.amount = .max) :
    Covers w cmd.asset built := by
  obtain ⟨account, haccount, h⟩ := Option.map_eq_some_iff.mp h
  cases account with
  | evm c =>
      obtain ⟨prepared, hrun, hbuilt⟩ := map_eq_ok h
      rw [← hbuilt]
      exact ⟨runEvm_native hrun hmax, runEvm_token hrun (accountOf_evm haccount) hmax⟩
  | tron =>
      obtain ⟨prepared, hrun, hbuilt⟩ := map_eq_ok h
      rw [← hbuilt]
      exact runTron_token hrun hmax

end Wallet

/-- A network that quotes two units for anything, to one vault. -/
def flatClient : ThorchainClient where
  inboundAddresses := .ok [("ETH", { address := "0x000000000000000000000000000000000000dead" })]
  mimir := .ok []
  quoteSwap _ := .ok
    { inboundAddress := "0x000000000000000000000000000000000000dead", expectedAmountOut := 2
      memo := some "=:BTC.BTC:bc1qme", recommendedMinAmountIn := 1, expiry := 600, router := none }

/-- Venues that quote one rate. -/
def flatVenues : Venues where
  clients :=
    { thorchain := flatClient, maya := flatClient
      cow := fun _ _ _ _ _ => .error (.refused "no route")
      chainflip := fun _ _ _ => .error (.refused "no route")
      repr := fun _ => "", reprExc := fun _ => "", fromIso := fun _ => none }
  rpc := SwapsackChainflip.junkRpc
  now := 0

/-- A wallet with a gas price of one gwei on every chain. -/
def gweiWallet : Wallet where
  node _ := (gweiAdapter 21000000000000000 1234567).node
  address := (gweiAdapter 0 0).address
  lib := SwapsackAllowance.usdtLib
  abi := SwapsackAllowance.wordsAbi
  digestLength := SwapsackAllowance.usdtLib_length
  tron :=
    { lib :=
        { transfer := fun _ _ _ => .error .library
          trc20Transfer := fun _ _ _ _ => .error .library
          decodeTransferArgs := fun _ => none }
      address := "TMe"
      tokenBalance := fun _ _ => .ok 5 }
  venues := flatVenues

/-- All the ETH is swapped. -/
def sweepArgs : SwapArgs where
  fromKey := "ETH"
  fromAsset := "ETH.ETH"
  toKey := "BTC"
  toAsset := "BTC.BTC"
  amount := .max
  backend := "thorchain"
  destination := "bc1qme"

/-- Tether on Ethereum. -/
def usdtAsset : String := "ETH.USDT-0XDAC17F958D2EE523A2206206994597C13D831EC7"

theorem run_isOk {ran : Option (Except Stop Built)} (h : ran.any Except.isOk = true) :
    ∃ built, ran = some (.ok built) := by
  cases ran with
  | none => cases h
  | some result =>
      obtain ⟨built, rfl⟩ := exists_of_isOk h
      exact ⟨built, rfl⟩

/-- A swap of all the ether of an account to bitcoin, and a payment of all its USDT. -/
theorem sweep_fits_ether :
    (∃ built, @Command.run asciiUnicode gweiWallet (.swap sweepArgs) = some (.ok built)
      ∧ @Covers asciiUnicode gweiWallet "ETH.ETH" built)
    ∧ ∃ built, @Command.run asciiUnicode gweiWallet (.send usdtAsset .max
          "0x000000000000000000000000000000000000dEaD") = some (.ok built)
      ∧ @Covers asciiUnicode gweiWallet usdtAsset built := by
  obtain ⟨built, hbuilt⟩ := run_isOk (show
    (@Command.run asciiUnicode gweiWallet (.swap sweepArgs)).any Except.isOk = true
    by decide +kernel)
  obtain ⟨built', hbuilt'⟩ := run_isOk (show
    (@Command.run asciiUnicode gweiWallet (.send usdtAsset .max
      "0x000000000000000000000000000000000000dEaD")).any Except.isOk = true by decide +kernel)
  exact ⟨⟨built, hbuilt, @sweep_fits asciiUnicode _ _ _ hbuilt rfl⟩,
    built', hbuilt', @sweep_fits asciiUnicode _ _ _ hbuilt' rfl⟩

end SwapsackWallet
