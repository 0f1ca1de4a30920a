import Mathlib.Data.List.MinMax
import Swapsack.QuoteParsingProofs

/-! # Backends and routing

    Four venues settle swaps, each in its own way.  Every one that lists a pair is
    asked for a price, and the swap goes to the best price among those whose way of
    settling the source chain can drive.

    * `selectBackend_ok` — what is known of the backend a swap is routed to;
    * `selectBackend_best` — of those that can execute, none quoted more;
    * `Selected.vaultSwap`, `Selected.signedOrder` — the venues behind two of the
      executors, and what they list. -/

namespace SwapsackBackends

open ListKit PyText PyJson Catching Rescaling SwapsackChainflip SwapsackQuoteParsing

/-! ## Quotes -/

/-- How a backend settles a swap. -/
inductive Executor where
  | memoDeposit
  | signedOrder
  | vaultSwap
deriving DecidableEq

/-- Why a client has no answer: the service refuses, the connection fails, or the
    answer is not what was expected. -/
inductive ClientError where
  | refused (text : String)
  | http (text : String)
  | unexpected (cause : PyExc)
deriving DecidableEq

/-- What a quote is asked for; amounts are in 1e-8 units. -/
structure QuoteRequest where
  fromAsset : String
  toAsset : String
  amount : ℤ
  destination : Option String
  toleranceBps : Option ℤ := none
  streamingInterval : Option ℤ := none
  streamingQuantity : Option ℤ := none

/-- What the wallet reads of a THORChain or Maya quote. -/
structure Quote where
  inboundAddress : String
  expectedAmountOut : ℤ
  memo : Option String
  recommendedMinAmountIn : ℤ
  expiry : ℤ
  router : Option String

/-- One chain's entry among the inbound addresses. -/
structure ChainStatus where
  halted : Bool := false
  globalTradingPaused : Bool := false
  chainTradingPaused : Bool := false
  dustThreshold : ℤ := 0
  address : String := ""
  router : Option String := none

/-- A node of THORChain or Maya: any answers whatsoever; a toggle is a number. -/
structure ThorchainClient where
  pathPrefix : String := "thorchain"
  inboundAddresses : Except ClientError (List (String × ChainStatus))
  mimir : Except ClientError (List (String × ℤ))
  quoteSwap : QuoteRequest → Except ClientError Quote

/-- The clients of the four backends; CoW and Chainflip answer with a response that
    is still to be parsed. -/
structure Clients where
  thorchain : ThorchainClient
  maya : ThorchainClient
  cow : String → String → ℤ → String → String → Except ClientError Json
  chainflip : String × String → String × String → ℤ → Except ClientError Json
  -- the interpreter's `repr` of a value and of an exception, and its reading of ISO times
  repr : Json → String
  reprExc : PyExc → String
  fromIso : String → Option ℤ

/-- A venue: what it lists, what of that it can settle, and its price, the output in
    1e-8 units.  Only the two memo networks share a client. -/
structure SwapBackend where
  name : String
  client : Option ThorchainClient := none
  executor : Executor
  serves : String → String → Bool
  canExecute : Option (String → String → Bool) := none
  tryQuote : QuoteRequest → Except ClientError (Option ℤ)

/-- A streaming quote carries no tolerance. -/
def effectiveToleranceBps (toleranceBps streamingInterval : Option ℤ) : Option ℤ :=
  if streamingInterval.isSome then none else toleranceBps

/-- `except (…): return None`, which catches `KeyError`, `ValueError` and `TypeError`
    where `malformed` says so. -/
def orNone {α : Type} (malformed : Bool) : Except ClientError (Option α) →
    Except ClientError (Option α)
  | .error (.unexpected cause) =>
      if malformed && malformedExc cause then .ok none else .error (.unexpected cause)
  | .error _ => .ok none
  | .ok a => .ok a

/-! ## The venues -/

/-- THORChain or Maya. -/
def thornodeBackend (name : String) (client : ThorchainClient) : SwapBackend where
  name := name
  client := some client
  executor := .memoDeposit
  serves _ _ := true
  tryQuote request := orNone false do
    let quote ← client.quoteSwap
      { request with
        toleranceBps := effectiveToleranceBps request.toleranceBps request.streamingInterval
        streamingQuantity :=
          if request.streamingInterval.isSome then request.streamingQuantity else none }
    .ok (if orText quote.memo "" ≠ "" ∧ quote.recommendedMinAmountIn ≤ request.amount then
      some quote.expectedAmountOut else none)

/-- The contract and decimals of each asset CoW trades. -/
def cowAssets : List (String × String × ℕ) :=
  [("ETH.USDT-0XDAC17F958D2EE523A2206206994597C13D831EC7",
      "0xdac17f958d2ee523a2206206994597c13d831ec7", 6),
   ("ETH.USDC-0XA0B86991C6218B36C1D19D4A2E9EB0CE3606EB48",
      "0xa0b86991c6218b36c1d19d4a2e9eb0ce3606eb48", 6),
   ("ETH.ETH", "0xEeeeeEeeeEeEeeEeEeEeeEEEeeeeEeeeeeeeEEeE", 18)]

/-- 1e-8 units, in the sell token's own. -/
def sellUnits (amount : ℤ) (sellDecimals : ℕ) : ℤ := rescale (10 ^ 8) (10 ^ sellDecimals) amount

/-- 1e-8 units, in the source asset's own. -/
def depositUnits (amount : ℤ) (decimals : ℕ) : ℤ := rescale (10 ^ 8) (10 ^ decimals) amount

/-- ERC-20 tokens for ERC-20 tokens or ether, on Ethereum. -/
def cowServes (fromAsset toAsset : String) : Bool :=
  (cowAssets.lookup fromAsset).isSome && fromAsset != "ETH.ETH"
    && (cowAssets.lookup toAsset).isSome && toAsset != fromAsset

/-- Any pair of assets Chainflip lists. -/
def chainflipServes (fromAsset toAsset : String) : Bool :=
  (chainflipAssets.lookup fromAsset).isSome && (chainflipAssets.lookup toAsset).isSome
    && fromAsset != toAsset

/-- Both ends of the pair can carry a vault swap. -/
def canSettleVaultSwap (fromAsset toAsset : String) : Bool :=
  (vaultSwapAssetIds.lookup toAsset).isSome &&
    if vaultChain fromAsset = "Bitcoin" then evmVaultChains.contains (vaultChain toAsset)
    else evmVaultChains.contains (vaultChain fromAsset)

section Venues

variable [PyUnicode] (clients : Clients)

/-- Scale, quote and parse. -/
def quotePair (fromAsset toAsset : String) (amount : ℤ) (fromAddress receiver : String) :
    Except ClientError ParsedCowQuote := do
  let (sellContract, sellDecimals) ← (tableItem cowAssets fromAsset).mapError .unexpected
  let (buyContract, buyDecimals) ← (tableItem cowAssets toAsset).mapError .unexpected
  let sellAmount := sellUnits amount sellDecimals
  if sellAmount ≤ 0 then .error (.refused s!"{fromAsset} amount too small to quote")
  else
    let payload ← clients.cow sellContract buyContract sellAmount fromAddress receiver
    (parseCowQuote clients.fromIso payload toAsset buyDecimals).mapError fun
      | .raised e => .refused (e.text clients.repr clients.reprExc)
      | .escaped e => .unexpected e

/-- CoW; the destination doubles as the address that sells. -/
def cowBackend : SwapBackend where
  name := "cow"
  executor := .signedOrder
  serves := cowServes
  tryQuote request :=
    match request.streamingInterval, request.destination with
    | none, some destination =>
        if cowServes request.fromAsset request.toAsset then
          orNone true do
            let quote ← quotePair clients request.fromAsset request.toAsset request.amount
              destination destination
            .ok (some quote.expectedAmountOut)
        else .ok none
    | _, _ => .ok none

/-- A price from Chainflip, for an amount in the asset's own units. -/
def chainflipQuote (fromAsset toAsset : String) (native : ℤ) :
    Except ClientError ParsedQuote := do
  let fromPair ← (tableItem chainflipAssets fromAsset).mapError .unexpected
  let toPair ← (tableItem chainflipAssets toAsset).mapError .unexpected
  let payload ← clients.chainflip fromPair toPair native
  (parseChainflipQuote clients.repr payload fromAsset toAsset).mapError fun
    | .raised e => .refused (e.text clients.repr clients.reprExc)
    | .escaped e => .unexpected e

/-- Chainflip; its price needs no destination. -/
def chainflipBackend : SwapBackend where
  name := "chainflip"
  executor := .vaultSwap
  serves := chainflipServes
  canExecute := some fun fromAsset toAsset =>
    chainflipServes fromAsset toAsset && canSettleVaultSwap fromAsset toAsset
  tryQuote request :=
    if request.streamingInterval.isSome || !chainflipServes request.fromAsset request.toAsset then
      .ok none
    else orNone true do
      let decimals ← (tableItem chainflipDecimals request.fromAsset).mapError .unexpected
      let native := depositUnits request.amount decimals
      if native ≤ 0 then .ok none
      else
        let quote ← chainflipQuote clients request.fromAsset request.toAsset native
        .ok (some quote.expectedAmountOut)

/-- Every backend a swap can be routed across. -/
def swapBackends : List SwapBackend :=
  [thornodeBackend "thorchain" clients.thorchain, thornodeBackend "maya" clients.maya,
   cowBackend clients, chainflipBackend clients]

/-! ## Routing -/

/-- Why no backend is selected. -/
inductive SelectError where
  | aborted (text : String)
  | valueError (text : String)
  | client (e : ClientError)
deriving DecidableEq

def getBackend (name : String) : Except SelectError SwapBackend :=
  match (swapBackends clients).find? fun backend => backend.name == name with
  | some backend => .ok backend
  | none => .error (.valueError ("unknown backend " ++ PyUnicode.repr name))

/-- The backends a choice names. -/
def backendsFor (choice : String) : Except SelectError (List SwapBackend) :=
  if choice = "auto" then .ok (swapBackends clients)
  else do
    let backend ← getBackend clients choice
    .ok [backend]

end Venues

/-- Quote every backend that can serve the pair; drop the ones that cannot. -/
def gatherQuotes (request : QuoteRequest) : List SwapBackend →
    Except ClientError (List (SwapBackend × ℤ))
  | [] => .ok []
  | backend :: backends =>
      if !backend.serves request.fromAsset request.toAsset then gatherQuotes request backends
      else do
        let quote ← backend.tryQuote request
        let results ← gatherQuotes request backends
        .ok (match quote with
          | some out => (backend, out) :: results
          | none => results)

/-- The quote of the most output, the first of them. -/
def bestQuote (results : List (SwapBackend × ℤ)) : Option (SwapBackend × ℤ) :=
  -- the order is written out: the one that instance search may find does not compute
  @List.argmax (SwapBackend × ℤ) ℤ Int.instLinearOrder.toPreorder _ Prod.snd results

/-- The backend can settle the swap, not merely price it; without a pair the executor
    alone decides. -/
def canExecute (executors : List Executor) (backend : SwapBackend) : Option (String × String) →
    Bool
  | none => executors.contains backend.executor
  | some (fromAsset, toAsset) => executors.contains backend.executor &&
      match backend.canExecute with
      | none => true
      | some narrower => narrower fromAsset toAsset

section Select

variable [PyUnicode] (clients : Clients)

/-- Pick the backend; a choice of one is not asked for its price. -/
def selectBackend (choice : String) (request : QuoteRequest) (executors : List Executor) :
    Except SelectError SwapBackend := do
  let pair := (request.fromAsset, request.toAsset)
  match ← backendsFor clients choice with
  | [backend] =>
      if !canExecute executors backend none then
        .error (.aborted <|
          s!"{backend.name} cannot execute a swap from {request.fromAsset} " ++
          s!"— use `quote --backend {backend.name}` for the price, and " ++
          "another backend (or --backend auto) to swap")
      else if !canExecute executors backend (some pair) then
        .error (.aborted <|
          s!"{backend.name} can quote {request.fromAsset} -> {request.toAsset} but cannot " ++
          s!"execute it — use `quote --backend {backend.name}` for the " ++
          "price, and another backend (or --backend auto) to swap")
      else if !backend.serves request.fromAsset request.toAsset then
        .error (.aborted
          s!"{backend.name} cannot serve {request.fromAsset} -> {request.toAsset}")
      else .ok backend
  | backends =>
      let results ← (gatherQuotes request backends).mapError .client
      match bestQuote (results.filter fun p => canExecute executors p.1 (some pair)) with
      | none => .error (.aborted "no swap backend can serve this pair/amount")
      | some (backend, _) => .ok backend

/-! ## What selection gives -/

/-- A backend a swap may be routed to. -/
structure Selected (choice : String) (request : QuoteRequest) (executors : List Executor)
    (backend : SwapBackend) : Prop where
  listed : backend ∈ swapBackends clients
  chosen : choice = "auto" ∨ backend.name = choice
  executes : canExecute executors backend (some (request.fromAsset, request.toAsset)) = true
  serves : backend.serves request.fromAsset request.toAsset = true

variable {clients}

theorem backendsFor_ok {choice : String} {backends : List SwapBackend}
    (h : backendsFor clients choice = .ok backends) {backend : SwapBackend}
    (hmem : backend ∈ backends) :
    backend ∈ swapBackends clients ∧ (choice = "auto" ∨ backend.name = choice) := by
  rw [backendsFor] at h
  split at h
  · rename_i hauto
    cases h
    exact ⟨hmem, Or.inl hauto⟩
  · obtain ⟨found, hfound, h⟩ := bind_eq_ok h
    cases h
    rw [getBackend] at hfound
    split at hfound
    · rename_i hknown
      cases hfound
      rw [List.mem_singleton.mp hmem]
      have hname := List.find?_some hknown
      exact ⟨List.mem_of_find?_eq_some hknown, Or.inr (beq_iff_eq.mp hname)⟩
    · cases hfound

omit [PyUnicode] in
/-- The quotes of the backends that serve the pair. -/
theorem mem_gatherQuotes {request : QuoteRequest} {backends : List SwapBackend}
    {results : List (SwapBackend × ℤ)} (h : gatherQuotes request backends = .ok results)
    {backend : SwapBackend} {out : ℤ} :
    (backend, out) ∈ results ↔ backend ∈ backends
      ∧ backend.serves request.fromAsset request.toAsset = true
      ∧ backend.tryQuote request = .ok (some out) := by
  induction backends generalizing results with
  | nil =>
      cases h
      simp
  | cons first backends ih =>
      rw [gatherQuotes] at h
      split at h
      · rename_i hskipped
        rw [ih h, List.mem_cons]
        constructor
        · exact fun hlater => ⟨Or.inr hlater.1, hlater.2⟩
        · rintro ⟨rfl | hin, hserves, hquote⟩
          · rw [hserves] at hskipped
            cases hskipped
          · exact ⟨hin, hserves, hquote⟩
      · rename_i hserves
        have hserves : first.serves request.fromAsset request.toAsset = true := by
          simpa using hserves
        obtain ⟨quote, hquote, h⟩ := bind_eq_ok h
        obtain ⟨more, hmore, h⟩ := bind_eq_ok h
        cases h
        -- the first backend's quote stands before the others'
        have hfirst : (backend, out) ∈ (match quote with
            | some out => (first, out) :: more
            | none => more) ↔ (backend = first ∧ quote = some out) ∨ (backend, out) ∈ more := by
          cases quote with
          | none => simp
          | some price =>
              rw [List.mem_cons, Prod.mk.injEq, Option.some.injEq, eq_comm (a := out)]
        rw [hfirst, ih hmore, List.mem_cons]
        constructor
        · rintro (⟨rfl, rfl⟩ | hlater)
          · exact ⟨Or.inl rfl, hserves, hquote⟩
          · exact ⟨Or.inr hlater.1, hlater.2⟩
        · rintro ⟨rfl | hin, hserves', hout⟩
          · rw [hquote] at hout
            exact Or.inl ⟨rfl, Except.ok.inj hout⟩
          · exact Or.inr ⟨hin, hserves', hout⟩

/-- **What is known of the backend a swap is routed to.** -/
theorem selectBackend_ok {choice : String} {request : QuoteRequest}
    {executors : List Executor} {backend : SwapBackend}
    (h : selectBackend clients choice request executors = .ok backend) :
    Selected clients choice request executors backend := by
  rw [selectBackend] at h
  obtain ⟨backends, hbackends, h⟩ := bind_eq_ok h
  split at h
  · rename_i only
    split at h
    · cases h
    · split at h
      · cases h
      · split at h
        · cases h
        · rename_i hexecutes hserves
          cases h
          obtain ⟨hlisted, hchosen⟩ := backendsFor_ok hbackends (List.mem_singleton_self _)
          exact ⟨hlisted, hchosen, by simpa using hexecutes, by simpa using hserves⟩
  · obtain ⟨results, hresults, h⟩ := bind_eq_ok h
    split at h
    · cases h
    · rename_i best out hbest
      cases h
      obtain ⟨hmem, hexecutes⟩ := List.mem_filter.mp (List.argmax_mem hbest)
      obtain ⟨hin, hserves, -⟩ := (mem_gatherQuotes (mapError_eq_ok hresults)).mp hmem
      obtain ⟨hlisted, hchosen⟩ := backendsFor_ok hbackends hin
      exact ⟨hlisted, hchosen, hexecutes, hserves⟩

/-- **Nothing that can be executed was priced higher** than what `auto` picks. -/
theorem selectBackend_best {request : QuoteRequest} {executors : List Executor}
    {backend : SwapBackend}
    (h : selectBackend clients "auto" request executors = .ok backend) :
    ∃ out, backend.tryQuote request = .ok (some out)
      ∧ ∀ other ∈ swapBackends clients, ∀ price,
        other.serves request.fromAsset request.toAsset = true →
        canExecute executors other (some (request.fromAsset, request.toAsset)) = true →
        other.tryQuote request = .ok (some price) → price ≤ out := by
  rw [selectBackend, backendsFor, if_pos rfl] at h
  obtain ⟨backends, hbackends, h⟩ := bind_eq_ok h
  split at h
  · cases hbackends
  · cases hbackends
    obtain ⟨results, hresults, h⟩ := bind_eq_ok h
    have hgather := mapError_eq_ok hresults
    split at h
    · cases h
    · rename_i best out hbest
      cases h
      obtain ⟨hmem, -⟩ := List.mem_filter.mp (List.argmax_mem hbest)
      obtain ⟨-, -, hquote⟩ := (mem_gatherQuotes hgather).mp hmem
      refine ⟨out, hquote, ?_⟩
      intro other hother price hserves hexecutes hprice
      have hin : (other, price) ∈ results :=
        (mem_gatherQuotes hgather).mpr ⟨hother, hserves, hprice⟩
      exact List.le_of_mem_argmax (List.mem_filter.mpr ⟨hin, hexecutes⟩) hbest

/-- A vault swap is Chainflip's, which must list the source and be named by the
    choice. -/
theorem Selected.vaultSwap {choice : String} {request : QuoteRequest}
    {executors : List Executor} {backend : SwapBackend}
    (h : Selected clients choice request executors backend)
    (hexecutor : backend.executor = .vaultSwap) :
    (choice = "auto" ∨ choice = "chainflip")
      ∧ chainflipServes request.fromAsset request.toAsset = true := by
  have hlisted := h.listed
  rw [swapBackends] at hlisted
  simp only [List.mem_cons, List.not_mem_nil, or_false] at hlisted
  have hserves := h.serves
  have hchosen := h.chosen
  rcases hlisted with rfl | rfl | rfl | rfl
  · cases hexecutor
  · cases hexecutor
  · cases hexecutor
  · exact ⟨hchosen.imp_right Eq.symm, hserves⟩

/-- A signed order is CoW's, which must list the source. -/
theorem Selected.signedOrder {choice : String} {request : QuoteRequest}
    {executors : List Executor} {backend : SwapBackend}
    (h : Selected clients choice request executors backend)
    (hexecutor : backend.executor = .signedOrder) :
    cowServes request.fromAsset request.toAsset = true := by
  have hlisted := h.listed
  rw [swapBackends] at hlisted
  simp only [List.mem_cons, List.not_mem_nil, or_false] at hlisted
  have hserves := h.serves
  rcases hlisted with rfl | rfl | rfl | rfl
  · cases hexecutor
  · cases hexecutor
  · exact hserves
  · cases hexecutor

end Select

end SwapsackBackends
