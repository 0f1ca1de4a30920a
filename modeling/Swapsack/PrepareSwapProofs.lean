import Swapsack.EvmAdapterProofs

/-! # From a quote to a build

    The half of a swap that is alike for every source chain: is the chain tradable,
    what does the backend quote, is the quote usable.  The rest is the chain's own
    build.

    * `prepareSwap_ok` — a prepared swap is the build of a usable quote. -/

namespace SwapsackPrepare

open ListKit PyText SwapsackBase SwapsackBackends SwapsackChainflip SwapsackTolerance

/-! ## How a command stops -/

/-- A command prints why it stops, for what the preparation of a vault swap refused,
    or as a misuse; or an exception leaves it. -/
inductive Stop where
  | aborted (text : String)
  | refused (e : ChainflipError)
  | misuse (text : String)
  | raised (e : PyError)
  | client (e : ClientError)

section Stops

variable {α : Type}

def orRaised (x : Except PyError α) : Except Stop α := x.mapError .raised

/-- `except InsufficientFunds`. -/
def orInsufficient : Except PyError α → Except Stop α
  | .ok a => .ok a
  | .error (.insufficientFunds text) => .error (.aborted text)
  | .error e => .error (.raised e)

/-- `except SwapAborted`. -/
def orAborted : Except SelectError α → Except Stop α
  | .ok a => .ok a
  | .error (.aborted text) => .error (.aborted text)
  | .error (.valueError text) => .error (.raised (.valueError text))
  | .error (.client e) => .error (.client e)

theorem orRaised_eq_ok {x : Except PyError α} {a : α} (h : orRaised x = .ok a) : x = .ok a :=
  mapError_eq_ok h

theorem orInsufficient_eq_ok {x : Except PyError α} {a : α} (h : orInsufficient x = .ok a) :
    x = .ok a := by
  cases x with
  | ok found =>
      cases h
      rfl
  | error e => cases e <;> cases h

theorem orAborted_eq_ok {x : Except SelectError α} {a : α} (h : orAborted x = .ok a) :
    x = .ok a := by
  cases x with
  | ok found =>
      cases h
      rfl
  | error e => cases e <;> cases h

end Stops

/-! ## The quote -/

def defaultToleranceBps : ℤ := 300

structure SwapRequest where
  fromAsset : String
  toAsset : String
  amount : ℤ
  destination : String

/-- What the user asks of a quote, where it is asked for at all. -/
structure Terms where
  toleranceBps : ℤ := defaultToleranceBps
  streamingInterval : Option ℤ := none
  streamingQuantity : Option ℤ := none

def SwapRequest.quoteRequest (request : SwapRequest) (terms : Terms) : QuoteRequest where
  fromAsset := request.fromAsset
  toAsset := request.toAsset
  amount := request.amount
  destination := some request.destination
  toleranceBps := some terms.toleranceBps
  streamingInterval := terms.streamingInterval
  streamingQuantity := terms.streamingQuantity

/-- A network's name in messages. -/
def networkName (pathPrefix : String) : String :=
  (List.lookup pathPrefix [("thorchain", "THORChain"), ("mayachain", "Maya")]).getD pathPrefix

def ChainStatus.flags (status : ChainStatus) : List String :=
  (if status.halted then ["chain halted"] else [])
    ++ (if status.globalTradingPaused then ["global trading paused"] else [])
    ++ (if status.chainTradingPaused then ["chain trading paused"] else [])

/-- What the network says of the chain, when no flag is set for it. -/
def requireTradable (client : ThorchainClient) (chain : String) : Except Stop ChainStatus := do
  let network := networkName client.pathPrefix
  let statuses ← client.inboundAddresses.mapError .client
  match statuses.lookup chain with
  | none =>
      .error (.aborted s!"{chain} is not listed by {network}'s inbound addresses")
  | some status =>
      let flags := ", ".intercalate (ChainStatus.flags status)
      if flags = "" then .ok status
      else .error (.aborted s!"{chain} is not currently tradable on {network} ({flags})")

section Prepare

variable [PyUnicode] {β : Type}

omit [PyUnicode] in
/-- The backend can take the deposit: its network lists the chain, or is `home`, on
    which the source coin is native. -/
def requireSource (client : ThorchainClient) (chain fromAsset : String) (home : Option String) :
    Except Stop Unit :=
  match home with
  | none => (requireTradable client chain).map fun _ => ()
  | some network =>
      if network = client.pathPrefix then .ok ()
      else .error (.aborted <|
        s!"this backend ({client.pathPrefix}) is not {chain}'s home network, " ++
        s!"but a native {fromAsset} swap deposits on " ++
        s!"{chain} itself — use the {chain}-native backend")

/-- The quote; a refusal is explained. -/
def askQuote (client : ThorchainClient) (request : SwapRequest) (terms : Terms) :
    Except Stop Quote :=
  let asked := request.quoteRequest terms
  match client.quoteSwap { asked with
      toleranceBps := effectiveToleranceBps asked.toleranceBps asked.streamingInterval } with
  | .ok quote => .ok quote
  | .error (.refused text) =>
      .error (.aborted (explainQuoteError text terms.toleranceBps (networkName client.pathPrefix)))
  | .error e => .error (.client e)

/-- The checks alike for every source, then the source's own build. -/
def prepareSwap (client : ThorchainClient) (chain : String) (home : Option String)
    (request : SwapRequest) (terms : Terms) (build : Quote → Except Stop β) : Except Stop β := do
  requireSource client chain request.fromAsset home
  let quote ← askQuote client request terms
  if request.amount < quote.recommendedMinAmountIn then
    .error (.aborted <|
      s!"amount {request.amount} is below the recommended minimum " ++
      s!"{quote.recommendedMinAmountIn}; swap would be uneconomical")
  else if orText quote.memo "" = "" then
    .error (.aborted <|
      networkName client.pathPrefix ++ " quote returned no memo (missing destination?)")
  else if home = none ∧ quote.inboundAddress = "" then
    .error (.aborted <|
      "quote returned no inbound vault address (malformed or degraded " ++
      "node response); not building a transaction")
  else build quote

/-- A quote a swap may be built from. -/
structure Usable (home : Option String) (request : SwapRequest) (quote : Quote) : Prop where
  amount : quote.recommendedMinAmountIn ≤ request.amount
  memo : orText quote.memo "" ≠ ""
  vault : home = none → quote.inboundAddress ≠ ""

/-- **A prepared swap is the build of a usable quote.** -/
theorem prepareSwap_ok {client : ThorchainClient} {chain : String} {home : Option String}
    {request : SwapRequest} {terms : Terms} {build : Quote → Except Stop β} {prepared : β}
    (h : prepareSwap client chain home request terms build = .ok prepared) :
    ∃ quote, Usable home request quote ∧ build quote = .ok prepared := by
  rw [prepareSwap] at h
  obtain ⟨_, -, h⟩ := bind_eq_ok h
  obtain ⟨quote, -, h⟩ := bind_eq_ok h
  split at h
  · cases h
  · rename_i hamount
    split at h
    · cases h
    · rename_i hmemo
      split at h
      · cases h
      · rename_i hvault
        exact ⟨quote, ⟨not_lt.mp hamount, hmemo, fun hhome hempty => hvault ⟨hhome, hempty⟩⟩, h⟩

/-! ## A liquidity deposit -/

omit [PyUnicode] in
/-- The toggle that pauses the deposits of a pool. -/
def lpDepositPauseReason (mimir : List (String × ℤ)) (pool : String) : Option String :=
  let chain := String.ofList (partition '.' pool.toList).1
  let dashed := String.ofList (pool.toList.map fun c => if c = '.' then '-' else c)
  ["PAUSELP", s!"PAUSELP{chain}", s!"PAUSELPDEPOSIT-{dashed}"].find? fun key =>
    decide (1 ≤ (mimir.lookup key).getD 0)

omit [PyUnicode] in
/-- `memo.split(":")[1]`, or nothing of a memo that has none. -/
def memoPool (memo : String) : String :=
  String.ofList (partition ':' (partition ':' memo.toList).2.2).1

omit [PyUnicode] in
/-- The toggle that pauses an add; a withdrawal is never paused. -/
def addPaused (client : ThorchainClient) (memo : String) : Except Stop (Option String) :=
  if startsWith memo "+" then do
    let mimir ← client.mimir.mapError .client
    .ok (lpDepositPauseReason mimir (memoPool memo))
  else .ok none

omit [PyUnicode] in
/-- A deposit that no quote is asked for: to the chain's vault, of what is given or of
    its dust. -/
def prepareLiquidity (client : ThorchainClient) (chain memo : String) (amount : Option ℤ)
    (build : String → ℤ → Except Stop β) : Except Stop β := do
  let status ← requireTradable client chain
  if status.address = "" then .error (.aborted s!"no inbound vault address for {chain}")
  else
    let paused ← addPaused client memo
    match paused with
    | some reason =>
        let network := networkName client.pathPrefix
        .error (.aborted <|
          s!"{network} has LP deposits paused (mimir {reason}); " ++
          "an add would be observed and then refunded minus gas. Not broadcasting.")
    | none => build status.address (amount.getD status.dustThreshold)

omit [PyUnicode] in
/-- **A prepared deposit is the build of the amount given.** -/
theorem prepareLiquidity_ok {client : ThorchainClient} {chain memo : String} {amount : ℤ}
    {build : String → ℤ → Except Stop β} {prepared : β}
    (h : prepareLiquidity client chain memo (some amount) build = .ok prepared) :
    ∃ vault, build vault amount = .ok prepared := by
  rw [prepareLiquidity] at h
  obtain ⟨status, -, h⟩ := bind_eq_ok h
  split at h
  · cases h
  · obtain ⟨paused, -, h⟩ := bind_eq_ok h
    split at h
    · cases h
    · exact ⟨status.address, h⟩

end Prepare

end SwapsackPrepare
