import Swapsack.HttpProofs
import Swapsack.OutboxProofs

/-! # Adding liquidity on both sides

    A symmetric add is two transactions on two chains: the protocol leg goes out
    first, then the asset leg, which may itself be several transactions.  A run
    is followed by what it offers to the network.

    * `protocolBroadcast_went`, `assetLeg_went` — what each leg offers and how it
      ends;
    * `executeSymmetricLiquidity_course` — the seven courses an execution takes;
    * `executeSymmetricLiquidity_live` — every outcome says what is live. -/

namespace SwapsackSymmetric

open Failover ListKit Outbox PyJson PyText SwapsackHttp

/-! ## The legs -/

inductive Leg where
  | protocol
  | asset
deriving DecidableEq

/-- A POST with a JSON body, for one of the legs. -/
structure Post where
  leg : Leg
  url : String
  json : Json

/-- What the adapters and the execution raise: the signing code's own exceptions,
    those of the HTTP client and of reading its answers, a `RuntimeError` of
    `_rpc`, and the classes of `swap`. -/
inductive Failure where
  | signing (text : String)
  | http (e : HttpError)
  | rpcError (method : String) (error : Json)
  | rpcMalformed (method : String) (payload : Json)
  | rejected (chain : String) (code : Json) (rawLog : Option Json)
  | broadcastError (cause : Failure)
  | swapAborted (text : String)
  | partialSymmetricAdd (protocolTxid : Json) (cause : Failure)

/-- `isinstance(exc, RuntimeError)`, for what `_rpc` raises. -/
def Failure.isRuntimeError : Failure → Bool
  | rpcError .. | rpcMalformed .. => true
  | _ => false

/-- The JSON of a reply: `raise_for_status()` and `json()`. -/
def replyJson : Reply → Except Failure Json
  | .failed => .error (.http .transient)
  | .answered a =>
      if 400 ≤ a.status ∧ a.status < 600 then .error (.http (.httpStatus a.status))
      else
        match a.body with
        | some body => .ok body
        | none => .error (.http .notJson)

/-- What a read raises, among the rest. -/
def readFailure {α : Type} (x : Except PyExc α) : Except Failure α :=
  x.mapError fun e => .http (.python e)

/-! ### The protocol leg -/

/-- `CosmosAdapter`, as far as a leg uses it; signing may raise. -/
structure CosmosAdapter (P : Type) where
  chain : String
  nodeUrl : String
  signTx : P → Except String String

/-- `CosmosAdapter.sign`: one transaction. -/
def CosmosAdapter.sign {P : Type} (adapter : CosmosAdapter P) (built : P) :
    Except Failure (List String) :=
  (adapter.signTx built |>.mapError .signing).map fun tx => [tx]

def CosmosAdapter.post {P : Type} (adapter : CosmosAdapter P) (tx : String) : Post where
  leg := .protocol
  url := adapter.nodeUrl ++ "/cosmos/tx/v1beta1/txs"
  json := .obj [("tx_bytes", .str tx), ("mode", .str "BROADCAST_MODE_SYNC")]

/-- What `CosmosAdapter.broadcast` takes a reply for. -/
def CosmosAdapter.verdict {P : Type} (adapter : CosmosAdapter P) (reply : Reply) :
    Except Failure Json := do
  let body ← replyJson reply
  let result ← readFailure (body.getD "tx_response" (.obj []))
  let code ← readFailure (result.getD "code" (.int 0))
  if code.same (.int 0) = false then
    let rawLog ← readFailure (result.getField "raw_log")
    .error (.rejected adapter.chain code rawLog)
  else readFailure (result.getD "txhash" (.str ""))

/-! ### The asset leg -/

/-- `EthAdapter`, as far as a leg uses it. -/
structure EthAdapter (B : Type) where
  rpcUrl : String
  signTx : B → Except String String

/-- `EthAdapter.sign`: every transaction of the built leg. -/
def EthAdapter.sign {B : Type} (adapter : EthAdapter B) (txs : List B) :
    Except Failure (List String) :=
  (txs.mapM adapter.signTx).mapError .signing

def EthAdapter.post {B : Type} (adapter : EthAdapter B) (raw : String) : Post where
  leg := .asset
  url := adapter.rpcUrl
  json := .obj [("jsonrpc", .str "2.0"), ("id", .int 1),
    ("method", .str "eth_sendRawTransaction"), ("params", .arr [.str raw])]

/-- What `_rpc` takes a reply for. -/
def rpcResult (method : String) (reply : Reply) : Except Failure Json := do
  let payload ← replyJson reply
  let error ← readFailure (payload.getD "error" .null)
  if error.truthy then .error (.rpcError method error)
  else if (← readFailure (payload.contains "result")) = false then
    .error (.rpcMalformed method payload)
  else readFailure (payload.getItem "result")

/-- What `EthAdapter.broadcast` takes a reply for: a `RuntimeError` is wrapped. -/
def ethVerdict (reply : Reply) : Except Failure Json :=
  (rpcResult "eth_sendRawTransaction" reply).mapError fun e =>
    if e.isRuntimeError then .broadcastError e else e

/-- `str(txid)`, the text itself where it is one. -/
def pyStr (repr : Json → String) : Json → String
  | .str s => s
  | x => repr x

/-! ## The execution -/

/-- A built leg and what its gate found. -/
structure Prepared (B : Type) where
  built : B
  problems : List String

def Prepared.safe {B : Type} (prepared : Prepared B) : Bool := prepared.problems.isEmpty

/-- Both legs, built and gated. -/
structure SymmetricPrepared (B P : Type) where
  asset : Prepared (List B)
  protocol : Prepared P

variable {B P N : Type}

/-- Both gates' problems, labelled by leg. -/
def SymmetricPrepared.problems (prepared : SymmetricPrepared B P) : List String :=
  prepared.asset.problems.map (fun p => "asset leg: " ++ p)
    ++ prepared.protocol.problems.map fun p => "protocol leg: " ++ p

def SymmetricPrepared.safe (prepared : SymmetricPrepared B P) : Bool :=
  prepared.asset.safe && prepared.protocol.safe

structure SymmetricResult (B P : Type) where
  prepared : SymmetricPrepared B P
  protocolTxid : Option Json
  assetTxid : Option String
  broadcast : Bool

/-- The text of the refusal. -/
def abortText (problems : List String) : String :=
  "verify gate refused the transaction: " ++ "; ".intercalate problems

section Execution

variable (serve : Post → N → Reply × N) (repr : Json → String)
  (assetAdapter : EthAdapter B) (protocolAdapter : CosmosAdapter P)

/-- What signing returns or raises, in a run. -/
def signing {σ α : Type} (x : Except Failure α) : EStateM Failure σ α :=
  match x with
  | .ok a => pure a
  | .error e => throw e

/-- `CosmosAdapter.broadcast`. -/
def protocolBroadcast (raws : List String) : EStateM Failure (Wire Post Reply N) Json :=
  offerAll serve protocolAdapter.verdict (.str "") (raws.map protocolAdapter.post)

/-- `EthAdapter.broadcast`. -/
def assetBroadcast (raws : List String) : EStateM Failure (Wire Post Reply N) String := do
  let txid ← offerAll serve ethVerdict (.str "") (raws.map assetAdapter.post)
  pure (pyStr repr txid)

/-- The guarded part of the execution: sign the asset leg, then broadcast it. -/
def assetLeg (txs : List B) : EStateM Failure (Wire Post Reply N) String := do
  let raws ← signing (assetAdapter.sign txs)
  assetBroadcast serve repr assetAdapter raws

/-- `except Exception`: whatever the guarded part raises leaves a partial add. -/
def orPartial {σ α : Type} (protocolTxid : Json) (x : EStateM Failure σ α) :
    EStateM Failure σ α := fun w =>
  match x w with
  | .ok a w => .ok a w
  | .error e w => .error (.partialSymmetricAdd protocolTxid e) w

/-- `execute_symmetric_liquidity`. -/
def executeSymmetricLiquidity (prepared : SymmetricPrepared B P) (confirm : Bool) :
    EStateM Failure (Wire Post Reply N) (SymmetricResult B P) :=
  if prepared.safe = false then throw (.swapAborted (abortText prepared.problems))
  else if confirm = false then
    pure { prepared, protocolTxid := none, assetTxid := none, broadcast := false }
  else do
    let raws ← signing (protocolAdapter.sign prepared.protocol.built)
    let protocolTxid ← protocolBroadcast serve protocolAdapter raws
    let assetTxid ← orPartial protocolTxid
      (assetLeg serve repr assetAdapter prepared.asset.built)
    pure { prepared, protocolTxid := some protocolTxid, assetTxid := some assetTxid
           broadcast := true }

/-! ## How an add can go -/

/-- The result of a run that went through. -/
def SymmetricResult.done (prepared : SymmetricPrepared B P) (protocolTxid : Json)
    (assetTxid : String) : SymmetricResult B P where
  prepared := prepared
  protocolTxid := some protocolTxid
  assetTxid := some assetTxid
  broadcast := true

/-- What an execution can offer to the network, and how it then ends. -/
inductive Course (prepared : SymmetricPrepared B P) (confirm : Bool) :
    List (Post × Reply) → Except Failure (SymmetricResult B P) → Prop
  | gated (h : prepared.safe = false) :
      Course prepared confirm [] (.error (.swapAborted (abortText prepared.problems)))
  | dryRun (h : confirm = false) :
      Course prepared confirm []
        (.ok { prepared, protocolTxid := none, assetTxid := none, broadcast := false })
  | unsigned {text : String} (hsafe : prepared.safe = true) (hconfirm : confirm = true)
      (h : protocolAdapter.signTx prepared.protocol.built = .error text) :
      Course prepared confirm [] (.error (.signing text))
  | refused {tx : String} {r : Reply} {e : Failure} (hsafe : prepared.safe = true)
      (hconfirm : confirm = true)
      (hsign : protocolAdapter.signTx prepared.protocol.built = .ok tx)
      (h : protocolAdapter.verdict r = .error e) :
      Course prepared confirm [(protocolAdapter.post tx, r)] (.error e)
  | assetUnsigned {tx : String} {r : Reply} {txid : Json} {e : Failure}
      (hsafe : prepared.safe = true) (hconfirm : confirm = true)
      (hsign : protocolAdapter.signTx prepared.protocol.built = .ok tx)
      (htaken : protocolAdapter.verdict r = .ok txid)
      (h : assetAdapter.sign prepared.asset.built = .error e) :
      Course prepared confirm [(protocolAdapter.post tx, r)]
        (.error (.partialSymmetricAdd txid e))
  | assetRefused {tx : String} {r : Reply} {txid : Json} {raws : List String}
      {sent : List (Post × Reply)} {e : Failure}
      (hsafe : prepared.safe = true) (hconfirm : confirm = true)
      (hsign : protocolAdapter.signTx prepared.protocol.built = .ok tx)
      (htaken : protocolAdapter.verdict r = .ok txid)
      (hraws : assetAdapter.sign prepared.asset.built = .ok raws)
      (h : Went ethVerdict (.str "") (raws.map assetAdapter.post) sent (.error e)) :
      Course prepared confirm ((protocolAdapter.post tx, r) :: sent)
        (.error (.partialSymmetricAdd txid e))
  | complete {tx : String} {r : Reply} {txid : Json} {raws : List String}
      {sent : List (Post × Reply)} {assetTxid : Json}
      (hsafe : prepared.safe = true) (hconfirm : confirm = true)
      (hsign : protocolAdapter.signTx prepared.protocol.built = .ok tx)
      (htaken : protocolAdapter.verdict r = .ok txid)
      (hraws : assetAdapter.sign prepared.asset.built = .ok raws)
      (h : Went ethVerdict (.str "") (raws.map assetAdapter.post) sent (.ok assetTxid)) :
      Course prepared confirm ((protocolAdapter.post tx, r) :: sent)
        (.ok (.done prepared txid (pyStr repr assetTxid)))

/-- Broadcasting the protocol leg's one transaction. -/
theorem protocolBroadcast_went (tx : String) (w : Wire Post Reply N) :
    ∃ r, (final (protocolBroadcast serve protocolAdapter [tx] w)).sent
        = w.sent ++ [(protocolAdapter.post tx, r)]
      ∧ outcome (protocolBroadcast serve protocolAdapter [tx] w)
        = protocolAdapter.verdict r := by
  obtain ⟨sent, hsent, hwent⟩ := offerAll_went serve protocolAdapter.verdict
    (.str "") [protocolAdapter.post tx] w
  obtain ⟨r, rfl, hresult⟩ := hwent.one
  exact ⟨r, hsent, hresult⟩

/-- The guarded part, by whether the asset leg signs. -/
theorem assetLeg_went (txs : List B) (w : Wire Post Reply N) :
    ∃ sent, (final (assetLeg serve repr assetAdapter txs w)).sent = w.sent ++ sent
      ∧ match assetAdapter.sign txs with
        | .error e => sent = [] ∧ outcome (assetLeg serve repr assetAdapter txs w) = .error e
        | .ok raws => ∃ result,
            Went ethVerdict (.str "") (raws.map assetAdapter.post) sent result
            ∧ outcome (assetLeg serve repr assetAdapter txs w) = result.map (pyStr repr) := by
  rw [assetLeg, bind_run]
  cases hsign : assetAdapter.sign txs with
  | error e => exact ⟨[], (List.append_nil _).symm, rfl, rfl⟩
  | ok raws =>
      obtain ⟨sent, hsent, hwent⟩ := offerAll_went serve ethVerdict (.str "")
        (raws.map assetAdapter.post) w
      show ∃ sent, (final (assetBroadcast serve repr assetAdapter raws w)).sent = w.sent ++ sent
        ∧ ∃ result, Went ethVerdict (.str "") (raws.map assetAdapter.post) sent result
          ∧ outcome (assetBroadcast serve repr assetAdapter raws w) = result.map (pyStr repr)
      rw [assetBroadcast, final_bind_pure, outcome_bind_pure]
      exact ⟨sent, hsent, _, hwent, rfl⟩

theorem final_orPartial {σ α : Type} (txid : Json) (x : EStateM Failure σ α) (s : σ) :
    final (orPartial txid x s) = final (x s) := by
  unfold orPartial
  cases x s <;> rfl

theorem outcome_orPartial {σ α : Type} (txid : Json) (x : EStateM Failure σ α) (s : σ) :
    outcome (orPartial txid x s)
      = (outcome (x s)).mapError (.partialSymmetricAdd txid) := by
  unfold orPartial
  cases x s <;> rfl

/-- **An execution** takes one of these courses. -/
theorem executeSymmetricLiquidity_course (prepared : SymmetricPrepared B P) (confirm : Bool)
    (w : Wire Post Reply N) :
    ∃ sent, (final (executeSymmetricLiquidity serve repr assetAdapter protocolAdapter prepared
          confirm w)).sent = w.sent ++ sent
      ∧ Course repr assetAdapter protocolAdapter prepared confirm sent
        (outcome (executeSymmetricLiquidity serve repr assetAdapter protocolAdapter prepared
          confirm w)) := by
  rw [executeSymmetricLiquidity]
  cases hsafe : prepared.safe with
  | false => exact ⟨[], (List.append_nil _).symm, .gated hsafe⟩
  | true =>
  cases hconfirm : confirm with
  | false => exact ⟨[], (List.append_nil _).symm, .dryRun rfl⟩
  | true =>
  simp only [Bool.true_eq_false, if_false, CosmosAdapter.sign]
  cases hsign : protocolAdapter.signTx prepared.protocol.built with
  | error text => exact ⟨[], (List.append_nil _).symm, .unsigned hsafe rfl hsign⟩
  | ok tx =>
  obtain ⟨r, hsent, hprotocol⟩ := protocolBroadcast_went serve protocolAdapter tx w
  simp only [Except.mapError, Except.map, signing]
  rw [bind_run, pure_run]
  dsimp only
  rw [bind_run]
  cases hrun : protocolBroadcast serve protocolAdapter [tx] w with
  | error e w' =>
      rw [hrun] at hsent hprotocol
      exact ⟨_, hsent, .refused hsafe rfl hsign hprotocol.symm⟩
  | ok txid w' =>
      rw [hrun] at hsent hprotocol
      obtain ⟨sent, hassetSent, hasset⟩ :=
        assetLeg_went serve repr assetAdapter prepared.asset.built w'
      have hall : w'.sent ++ sent = w.sent ++ (protocolAdapter.post tx, r) :: sent := by
        rw [← List.singleton_append, ← List.append_assoc, ← hsent]
        rfl
      refine ⟨(protocolAdapter.post tx, r) :: sent, ?_, ?_⟩
      · dsimp only
        rw [← hall, ← hassetSent, final_bind_pure, final_orPartial]
      · have hout : outcome ((orPartial txid (assetLeg serve repr assetAdapter
              prepared.asset.built) >>= fun a => pure (SymmetricResult.done prepared txid a)) w')
            = ((outcome (assetLeg serve repr assetAdapter prepared.asset.built w')).mapError
              (.partialSymmetricAdd txid)).map (.done prepared txid) := by
          rw [outcome_bind_pure, outcome_orPartial]
        cases hraws : assetAdapter.sign prepared.asset.built with
        | error e =>
            rw [hraws] at hasset
            obtain ⟨rfl, hasset⟩ := hasset
            rw [hasset] at hout
            exact hout ▸ .assetUnsigned hsafe rfl hsign hprotocol.symm hraws
        | ok raws =>
            rw [hraws] at hasset
            obtain ⟨result, hwent, hasset⟩ := hasset
            rw [hasset] at hout
            cases result with
            | error e => exact hout ▸ .assetRefused hsafe rfl hsign hprotocol.symm hraws hwent
            | ok assetTxid => exact hout ▸ .complete hsafe rfl hsign hprotocol.symm hraws hwent

/-! ## What is live -/

/-- The protocol leg was taken, with this txid. -/
def ProtocolOut (protocolAdapter : CosmosAdapter P) (sent : List (Post × Reply))
    (txid : Json) : Prop :=
  ∃ p ∈ sent, p.1.leg = .protocol ∧ protocolAdapter.verdict p.2 = .ok txid

/-- The asset leg did not sign, or one of its transactions was not taken. -/
def AssetFailed (assetAdapter : EthAdapter B) (txs : List B) (sent : List (Post × Reply))
    (cause : Failure) : Prop :=
  assetAdapter.sign txs = .error cause
    ∨ ∃ p ∈ sent, p.1.leg = .asset ∧ ethVerdict p.2 = .error cause

/-- Every transaction of the asset leg was taken. -/
def AssetOut (assetAdapter : EthAdapter B) (txs : List B) (sent : List (Post × Reply)) :
    Prop :=
  ∃ raws, assetAdapter.sign txs = .ok raws
    ∧ ∀ raw ∈ raws, ∃ r txid, (assetAdapter.post raw, r) ∈ sent ∧ ethVerdict r = .ok txid

variable {serve repr assetAdapter protocolAdapter}
variable {prepared : SymmetricPrepared B P} {confirm : Bool} {sent : List (Post × Reply)}
  {result : Except Failure (SymmetricResult B P)}

/-- No reply is taken for a partial add. -/
theorem CosmosAdapter.verdict_ne_partial (r : Reply) (txid : Json) (cause : Failure) :
    protocolAdapter.verdict r ≠ .error (.partialSymmetricAdd txid cause) := by
  have hread : ∀ {α : Type} (x : Except PyExc α),
      Avoids (· = .partialSymmetricAdd txid cause) (readFailure x) := by
    intro α x e h
    cases x <;> cases h
    exact fun h => (by cases h)
  have hbody : Avoids (· = .partialSymmetricAdd txid cause) (replyJson r) := by
    unfold replyJson
    split
    · exact avoids_error (fun h => (by cases h))
    split
    · exact avoids_error (fun h => (by cases h))
    split
    · exact avoids_ok _
    · exact avoids_error (fun h => (by cases h))
  have hall : Avoids (· = .partialSymmetricAdd txid cause) (protocolAdapter.verdict r) := by
    refine hbody.bind fun body => (hread _).bind fun fields => (hread _).bind fun code => ?_
    by_cases hcode : code.same (.int 0) = false
    · rw [if_pos hcode]
      exact (hread _).bind fun rawLog => avoids_error (fun h => (by cases h))
    · rw [if_neg hcode]
      exact hread _
  exact fun h => hall _ h rfl

/-- The asset leg's offers are the asset leg's. -/
theorem went_asset {raws : List String} {res : Except Failure Json}
    (h : Went ethVerdict (.str "") (raws.map assetAdapter.post) sent res) :
    ∀ p ∈ sent, p.1.leg = .asset := by
  intro p hp
  obtain ⟨raw, -, hraw⟩ := List.mem_map.mp (h.mem p hp)
  rw [← hraw]
  rfl

/-- Behind one offer of the protocol leg, the others are the asset leg's. -/
theorem protocolOut_cons {tx txid : _} {r : Reply} (hasset : ∀ p ∈ sent, p.1.leg = .asset) :
    ProtocolOut protocolAdapter ((protocolAdapter.post tx, r) :: sent) txid
      ↔ protocolAdapter.verdict r = .ok txid := by
  constructor
  · rintro ⟨p, hp, hleg, hverdict⟩
    rcases List.mem_cons.mp hp with rfl | hp
    · exact hverdict
    · rw [hasset p hp] at hleg
      cases hleg
  · intro h
    exact ⟨_, List.mem_cons_self, rfl, h⟩

theorem assetFailed_cons {tx : String} {r : Reply} {raws : List String} {txs : List B}
    {cause : Failure} (hraws : assetAdapter.sign txs = .ok raws)
    (hasset : ∀ p ∈ sent, p.1.leg = .asset) :
    AssetFailed assetAdapter txs ((protocolAdapter.post tx, r) :: sent) cause
      ↔ ∃ p ∈ sent, ethVerdict p.2 = .error cause := by
  constructor
  · rintro (h | ⟨p, hp, hleg, hverdict⟩)
    · rw [hraws] at h
      cases h
    · rcases List.mem_cons.mp hp with rfl | hp
      · cases hleg
      · exact ⟨p, hp, hverdict⟩
  · rintro ⟨p, hp, hverdict⟩
    exact Or.inr ⟨p, List.mem_cons_of_mem _ hp, hasset p hp, hverdict⟩

/-- Nothing is offered unless both gates passed and the run is confirmed. -/
theorem Course.confirmed (h : Course repr assetAdapter protocolAdapter prepared confirm sent
    result) (hsent : sent ≠ []) :
    prepared.asset.problems = [] ∧ prepared.protocol.problems = [] ∧ confirm = true := by
  have hgates : prepared.safe = true → prepared.asset.problems = []
      ∧ prepared.protocol.problems = [] := by
    intro hsafe
    obtain ⟨hasset, hprotocol⟩ := Bool.and_eq_true_iff.mp hsafe
    exact ⟨List.isEmpty_iff.mp hasset, List.isEmpty_iff.mp hprotocol⟩
  cases h with
  | gated | dryRun | unsigned => exact absurd rfl hsent
  | refused hsafe hconfirm | assetUnsigned hsafe hconfirm | assetRefused hsafe hconfirm
  | complete hsafe hconfirm =>
      exact ⟨(hgates hsafe).1, (hgates hsafe).2, hconfirm⟩

/-- An offer of the asset leg comes behind a protocol leg that is out. -/
theorem Course.protocol_first (h : Course repr assetAdapter protocolAdapter prepared confirm
    sent result) {pre post : List (Post × Reply)} {p : Post × Reply}
    (hsent : sent = pre ++ p :: post) (hleg : p.1.leg = .asset) :
    ∃ txid, ProtocolOut protocolAdapter pre txid := by
  have hfirst : ∀ {tx r rest txid}, sent = (protocolAdapter.post tx, r) :: rest →
      protocolAdapter.verdict r = .ok txid → ∃ txid, ProtocolOut protocolAdapter pre txid := by
    intro tx r rest txid hcons htaken
    cases pre with
    | nil =>
        rw [hsent] at hcons
        cases hcons
        cases hleg
    | cons q pre =>
        rw [hsent] at hcons
        cases hcons
        exact ⟨txid, _, List.mem_cons_self, rfl, htaken⟩
  cases h with
  | gated | dryRun | unsigned => exact absurd hsent (by simp)
  | refused =>
      cases pre with
      | nil =>
          cases hsent
          cases hleg
      | cons q pre => simp at hsent
  | assetUnsigned _ _ _ htaken | assetRefused _ _ _ htaken | complete _ _ _ htaken =>
      exact hfirst rfl htaken

/-- A partial add is raised exactly when the protocol leg is out and the asset leg
    failed. -/
theorem Course.partial_iff (h : Course repr assetAdapter protocolAdapter prepared confirm sent
    result) (txid : Json) (cause : Failure) :
    result = .error (.partialSymmetricAdd txid cause)
      ↔ ProtocolOut protocolAdapter sent txid
        ∧ AssetFailed assetAdapter prepared.asset.built sent cause := by
  have hnone : ¬ ProtocolOut protocolAdapter [] txid := by
    rintro ⟨p, hp, -⟩
    exact absurd hp List.not_mem_nil
  have hno : ∀ p ∈ ([] : List (Post × Reply)), p.1.leg = .asset :=
    fun p hp => absurd hp List.not_mem_nil
  cases h with
  | gated | dryRun | unsigned =>
      exact iff_of_false (fun h => (by cases h)) fun h => hnone h.1
  | refused _ _ _ hverdict =>
      refine iff_of_false (fun h => ?_) fun h => ?_
      · cases h
        exact protocolAdapter.verdict_ne_partial _ _ _ hverdict
      · have htaken := (protocolOut_cons hno).mp h.1
        rw [hverdict] at htaken
        cases htaken
  | assetUnsigned _ _ _ htaken hunsigned =>
      rw [protocolOut_cons hno, htaken]
      constructor
      · intro h
        cases h
        exact ⟨rfl, Or.inl hunsigned⟩
      · rintro ⟨h, hsign | ⟨p, hp, hleg, -⟩⟩
        · cases h
          rw [hunsigned] at hsign
          cases hsign
          rfl
        · rw [List.mem_singleton.mp hp] at hleg
          cases hleg
  | assetRefused _ _ _ htaken hraws hwent =>
      rw [protocolOut_cons (went_asset hwent), assetFailed_cons hraws (went_asset hwent), htaken,
        ← hwent.error]
      constructor
      · intro h
        cases h
        exact ⟨rfl, rfl⟩
      · rintro ⟨h, h'⟩
        cases h
        cases h'
        rfl
  | complete _ _ _ htaken hraws hwent =>
      rw [assetFailed_cons hraws (went_asset hwent), ← hwent.error]
      exact iff_of_false (fun h => (by cases h)) fun h => (by cases h.2)

/-- A protocol leg that does not sign leaves nothing offered. -/
theorem Course.protocol_unsigned (h : Course repr assetAdapter protocolAdapter prepared confirm
    sent result) {cause : Failure}
    (hsign : protocolAdapter.sign prepared.protocol.built = .error cause) : sent = [] := by
  have hno : ∀ {tx}, protocolAdapter.signTx prepared.protocol.built ≠ .ok tx := by
    intro tx htx
    rw [CosmosAdapter.sign, htx] at hsign
    cases hsign
  cases h with
  | gated | dryRun | unsigned => rfl
  | refused _ _ htx | assetUnsigned _ _ htx | assetRefused _ _ htx | complete _ _ htx =>
      exact absurd htx hno

/-- An asset leg that does not sign leaves at most the protocol leg offered. -/
theorem Course.asset_unsigned (h : Course repr assetAdapter protocolAdapter prepared confirm
    sent result) {cause : Failure} (hsign : assetAdapter.sign prepared.asset.built = .error cause) :
    ∀ p ∈ sent, p.1.leg = .protocol := by
  cases h with
  | gated | dryRun | unsigned => exact fun p hp => absurd hp List.not_mem_nil
  | refused | assetUnsigned =>
      intro p hp
      rw [List.mem_singleton.mp hp]
      rfl
  | assetRefused _ _ _ _ hraws | complete _ _ _ _ hraws =>
      rw [hraws] at hsign
      cases hsign

/-- A position is half added only where the asset leg failed. -/
theorem Course.half_added (h : Course repr assetAdapter protocolAdapter prepared confirm sent
    result) {txid : Json} (hout : ProtocolOut protocolAdapter sent txid)
    (hhalf : ¬ AssetOut assetAdapter prepared.asset.built sent) :
    ∃ cause, AssetFailed assetAdapter prepared.asset.built sent cause := by
  cases h with
  | gated | dryRun | unsigned =>
      obtain ⟨p, hp, -⟩ := hout
      exact absurd hp List.not_mem_nil
  | refused _ _ _ hverdict =>
      obtain ⟨p, hp, -, htaken⟩ := hout
      rw [List.mem_singleton.mp hp, hverdict] at htaken
      cases htaken
  | assetUnsigned _ _ _ _ hunsigned => exact ⟨_, Or.inl hunsigned⟩
  | assetRefused _ _ _ _ hraws hwent =>
      exact ⟨_, (assetFailed_cons hraws (went_asset hwent)).mpr (hwent.error.mp rfl)⟩
  | complete _ _ _ _ hraws hwent =>
      refine absurd ⟨_, hraws, fun raw hraw => ?_⟩ hhalf
      obtain ⟨hall, htaken⟩ := hwent.ok rfl
      have hmem : assetAdapter.post raw ∈ (List.map Prod.fst _) :=
        hall ▸ List.mem_map_of_mem hraw
      obtain ⟨⟨post, r⟩, hp, hpost⟩ := List.mem_map.mp hmem
      obtain ⟨txid, hr⟩ := htaken _ hp
      cases hpost
      exact ⟨r, txid, List.mem_cons_of_mem _ hp, hr⟩

/-- **What an execution leaves live**: nothing unless both gates passed and it is
    confirmed, no asset leg before a protocol leg that is out, a partial add
    raised exactly where the asset leg then failed; a protocol leg that does not
    sign leaves nothing, an asset leg that does not sign the protocol leg alone,
    and a position is half added only where the asset leg did not sign or was
    refused. -/
theorem executeSymmetricLiquidity_live (serve : Post → N → Reply × N) (repr : Json → String)
    (assetAdapter : EthAdapter B) (protocolAdapter : CosmosAdapter P)
    (prepared : SymmetricPrepared B P) (confirm : Bool) (w : Wire Post Reply N) :
    let run := executeSymmetricLiquidity serve repr assetAdapter protocolAdapter prepared
      confirm w
    ∃ sent, (final run).sent = w.sent ++ sent
      ∧ (sent ≠ [] → prepared.asset.problems = [] ∧ prepared.protocol.problems = []
        ∧ confirm = true)
      ∧ (∀ pre p post, sent = pre ++ p :: post → p.1.leg = .asset →
        ∃ txid, ProtocolOut protocolAdapter pre txid)
      ∧ (∀ txid cause, outcome run = .error (.partialSymmetricAdd txid cause)
        ↔ ProtocolOut protocolAdapter sent txid
          ∧ AssetFailed assetAdapter prepared.asset.built sent cause)
      ∧ (∀ cause, protocolAdapter.sign prepared.protocol.built = .error cause → sent = [])
      ∧ (∀ cause, assetAdapter.sign prepared.asset.built = .error cause →
        ∀ p ∈ sent, p.1.leg = .protocol)
      ∧ ∀ txid, ProtocolOut protocolAdapter sent txid →
        ¬ AssetOut assetAdapter prepared.asset.built sent →
        ∃ cause, AssetFailed assetAdapter prepared.asset.built sent cause := by
  intro run
  obtain ⟨sent, hsent, hcourse⟩ := executeSymmetricLiquidity_course serve repr assetAdapter
    protocolAdapter prepared confirm w
  exact ⟨sent, hsent, hcourse.confirmed, fun _ _ _ => hcourse.protocol_first,
    hcourse.partial_iff, fun _ => hcourse.protocol_unsigned, fun _ => hcourse.asset_unsigned,
    fun _ => hcourse.half_added⟩

end Execution

/-! ## An asset leg that does not sign -/

/-- A protocol node that takes what it is given. -/
def takingServe (_ : Post) (_ : Unit) : Reply × Unit :=
  (.answered
    { status := 200
      text := ""
      body := some (.obj [("tx_response", .obj [("code", .int 0), ("txhash", .str "AB")])]) }, ())

def mayaAdapter : CosmosAdapter Unit where
  chain := "MAYA"
  nodeUrl := "https://mayanode"
  signTx _ := .ok "dHg="

/-- An asset leg of one transaction, whose signing raises. -/
def unsignedAdapter : EthAdapter Unit where
  rpcUrl := "https://rpc"
  signTx _ := .error "no key"

/-- Both legs of an add, past their gates. -/
def gatedAdd : SymmetricPrepared Unit Unit where
  asset := { built := [()], problems := [] }
  protocol := { built := (), problems := [] }

/-- The asset leg fails to sign, and the protocol leg is out. -/
theorem executeSymmetricLiquidity_unsigned :
    let run := executeSymmetricLiquidity takingServe (fun _ => "") unsignedAdapter mayaAdapter
      gatedAdd true { net := (), sent := [] }
    unsignedAdapter.sign gatedAdd.asset.built = .error (.signing "no key")
    ∧ (final run).sent.map Prod.fst = [mayaAdapter.post "dHg="]
    ∧ outcome run = .error (.partialSymmetricAdd (.str "AB") (.signing "no key")) :=
  ⟨rfl, rfl, rfl⟩

end SwapsackSymmetric
