import Mathlib.Tactic.NormNum
import Swapsack.CollectPagesProofs
import Swapsack.DashApiProofs

/-! # The Dash adapter: reads and broadcasts over several explorers

    An adapter keeps Insight and Blockbook endpoints and a pin on the one that
    last answered.  A read that finds the pinned one down runs again, whole, on
    the next.

    * `addressInfo_failsOver_iff`, `fetchUtxos_failsOver_iff` — that is what two of the
      reads do, unless the pinned endpoint's laps reach a throttle whose header
      overflows;
    * `addressTxs_failsOver_iff` — the history read does it unless the laps also end in a
      throttle, which the page walk takes for a short history. -/

namespace SwapsackDash

open Failover ListKit ByteString PyText PyJson SwapsackHttp SwapsackCollectPages
open SwapsackDashApi EmailDate
open SwapsackNet (throttleStatuses)

/-! ## Endpoints -/

/-- How many times a paged walk is restarted when the history moves under it. -/
def insightWalkAttempts : ℕ := 3

/-- How many transactions a page is asked for. -/
structure PageSizes where
  insight : ℕ := 50
  blockbook : ℕ := 100

/-- Whether a URL is a Blockbook's: they serve their API under `/api/v2`. -/
def isBlockbook (url : String) : Bool :=
  "/api/v2".toList.isSuffixOf (url.toList.reverse.dropWhile (· == '/')).reverse

/-- A spendable output, as the explorer gives it. -/
structure Utxo where
  txid : Json
  vout : Json
  value : Json
  address : String
  confirmed : Bool

section Adapter

variable [PyCharacters] {S C : Type} (serve : String → Request → S → Reply × S)

omit [PyCharacters] in
/-- `_on_any`: the endpoints from the pinned one on, while they are down. -/
def onAny {α : Type} (candidates : List String)
    (op : String → EStateM HttpError (S × C) α) : EStateM HttpError (World String S C) α :=
  fun w =>
    if w.pinned ∈ candidates then
      match ordered candidates w.pinned with
      | i :: rest => failOver HttpError.isDown op i rest w
      | [] => .error (.python .valueError) w
    else .error (.python .valueError) w

/-! ## Balances and outputs -/

omit [PyCharacters] in
/-- The request of `address_info`, in the API of an endpoint. -/
def infoRequest (base address : String) : Request :=
  if isBlockbook base then { path := "address/" ++ address } else { path := "addr/" ++ address }

/-- The conversation of `address_info`. -/
def addressInfoOp (address base : String) : EStateM HttpError (S × C) AddressInfo := do
  if isBlockbook base then
    let body ← json serve base { path := "address/" ++ address }
    reading (parseBlockbookAddr body)
  else
    let body ← json serve base { path := "addr/" ++ address }
    reading (parseInsightAddr body)

def addressInfo (candidates : List String) (address : String) :
    EStateM HttpError (World String S C) AddressInfo :=
  onAny candidates (addressInfoOp serve address)

/-- One row of a Blockbook listing; `vout` 0 is left out. -/
def blockbookRow (x : Json) : Except PyExc (Json × Json × Json × Json) := do
  .ok (← x.getItem "txid", .int (← counted x "vout"), .int (← (← x.getItem "value").toIntWithin), x)

omit [PyCharacters] in
/-- One row of an Insight listing. -/
def insightRow (x : Json) : Except PyExc (Json × Json × Json × Json) := do
  .ok (← x.getItem "txid", ← x.getItem "vout", ← x.getItem "satoshis", x)

omit [PyCharacters] in
/-- The request of `fetch_utxos`, in the API of an endpoint. -/
def utxoRequest (base address : String) : Request :=
  if isBlockbook base then { path := "utxo/" ++ address }
  else { path := "addr/" ++ address ++ "/utxo" }

/-- The conversation of `fetch_utxos`. -/
def fetchUtxosOp (address base : String) :
    EStateM HttpError (S × C) (List (Json × Json × Json × Json)) := do
  if isBlockbook base then
    let rows ← json serve base { path := "utxo/" ++ address }
    reading (do (← rows.items).mapM blockbookRow)
  else
    let rows ← json serve base { path := "addr/" ++ address ++ "/utxo" }
    reading (do (← rows.items).mapM insightRow)

omit [PyCharacters] in
/-- An output counts as confirmed only if it says so. -/
def utxoOf (address : String) (includeUnconfirmed : Bool)
    (row : Json × Json × Json × Json) : Except PyExc (Option Utxo) := do
  let (txid, vout, value, x) := row
  let confirmed ← (← x.getD "confirmations" (.int 0)).isPositive
  .ok (if confirmed || includeUnconfirmed then some { txid, vout, value, address, confirmed }
    else none)

/-- The rows of a listing that may be spent. -/
def utxosOf (address : String) (includeUnconfirmed : Bool)
    (rows : List (Json × Json × Json × Json)) : Except PyExc (List Utxo) :=
  (rows.mapM (utxoOf address includeUnconfirmed)).map fun found => found.filterMap id

def fetchUtxos (candidates : List String) (address : String)
    (includeUnconfirmed : Bool := false) :
    EStateM HttpError (World String S C) (List Utxo) := do
  let rows ← onAny candidates (fetchUtxosOp serve address)
  reading (utxosOf address includeUnconfirmed rows)

/-! ## Histories -/

variable (sizes : PageSizes)

/-- What a page brings: its transactions, the total it reports and the cursor
    of the next. -/
abbrev Page := List TxSummary × Option (List Json) × Option ℤ

/-- One Insight window. -/
def insightPage (base address : String) (cursor : Option ℤ) :
    EStateM HttpError (S × C) Page := do
  let start := cursor.getD 0
  let body ← json serve base
    { path := "addrs/" ++ address ++ "/txs"
      params := [("from", .int start), ("to", .int (start + sizes.insight))] }
  let total ← reading (field body "totalItems")
  let items ← reading (do (← body.getD "items" (.arr [])).items)
  let txs ← reading (items.mapM parseInsightTx)
  pure (txs, total.asInt.map fun n => [.int n], some (start + items.length))

/-- One Blockbook page, by number from 1. -/
def blockbookPage (base address : String) (cursor : Option ℤ) :
    EStateM HttpError (S × C) Page := do
  let number : ℤ := if cursor.getD 0 = 0 then 1 else cursor.getD 0
  let body ← json serve base
    { path := "address/" ++ address
      params := [("details", .str "txs"), ("page", .int number),
        ("pageSize", .int sizes.blockbook)] }
  let total ← reading (body.getField "txs")
  let unconfirmed ← reading (body.getD "unconfirmedTxs" (.int 0))
  let pages ← reading (counted body "totalPages")
  let txs ← reading (do (← (← body.getD "transactions" (.arr [])).items).mapM parseBlockbookTx)
  let reported := match total with
    | none | some .null => none
    | some total => some [total, unconfirmed]
  -- no `totalPages`: page on, and let the nothing-new stop end it
  pure (txs, reported, if number < pages ∨ pages = 0 then some (number + 1) else none)

/-- What one attempt keeps: the first total it saw, and whether a later one
    differed. -/
structure Walk where
  reported : Option (List Json) := none
  raced : Bool := false

omit [PyCharacters] in
/-- A page as the walk takes it: one whose total moved ends the walk. -/
def page (fetch : Option ℤ → EStateM HttpError (S × Walk) Page) (cursor : Option ℤ) :
    EStateM HttpError (S × Walk) (List TxSummary × Option ℤ) := do
  let (txs, total, following) ← fetch cursor
  let (s, walk) ← MonadState.get
  match total, walk.reported with
  | none, _ => pure (txs, following)
  | some total, none => do
      MonadStateOf.set (s, { walk with reported := some total })
      pure (txs, following)
  | some total, some first =>
      if Json.sameItems total first then pure (txs, following)
      else do
        MonadStateOf.set (s, { walk with raced := true })
        pure ([], none)

/-- The page read of an endpoint's own API. -/
def fetchPage (base address : String) : Option ℤ → EStateM HttpError (S × C) Page :=
  if isBlockbook base then blockbookPage serve sizes base address
  else insightPage serve sizes base address

/-- One pass over the pages, and whether the list moved during it. -/
def walkAddress (base address : String) (limit : ℤ) :
    EStateM HttpError (S × C) (AddressTxs TxSummary × Walk) :=
  withLocals {} (collectPages TxSummary.txid
    (page (fetchPage serve sizes base address)) limit)

/-- The attempts of `address_txs`: the first that was not raced, else the last,
    as incomplete. -/
def walkAttempts (address : String) (limit : ℤ) (base : String) :
    ℕ → List TxSummary → EStateM HttpError (S × C) (AddressTxs TxSummary)
  | 0, txs => pure { transactions := txs, truncated := true }
  | n + 1, _ => do
      let (walked, walk) ← walkAddress serve sizes base address limit
      if walk.raced then walkAttempts address limit base n walked.transactions
      else pure walked

/-- The conversation of `address_txs`. -/
def addressTxsOp (address : String) (limit : ℤ) (base : String) :
    EStateM HttpError (S × C) (AddressTxs TxSummary) :=
  walkAttempts serve sizes address limit base insightWalkAttempts []

def addressTxs (candidates : List String) (address : String) (limit : ℤ := 500) :
    EStateM HttpError (World String S C) (AddressTxs TxSummary) :=
  onAny candidates (addressTxsOp serve sizes address limit)

/-! ## Failing over -/

omit [PyCharacters] in
/-- What falling over to `next` should be for a read: the outcome is the one a
    client of `next` alone gets, and an answer moves the pin there. -/
def FailsOver {α : Type} (read : List String → EStateM HttpError (World String S C) α)
    (candidates : List String) (w : World String S C) (next : String) : Prop :=
  outcome (read candidates w) = outcome (read [next] { w with pinned := next })
  ∧ ((outcome (read candidates w)).isOk → (final (read candidates w)).pinned = next)

variable {serve sizes}
variable {candidates : List String} {w : World String S Unit} {next : String}

omit [PyCharacters] in
/-- No server is both well and down. -/
theorem ne_of_healthy_down {pinned : String} (hup : ∀ req s, (serve next req s).1.Healthy)
    (hdown : ∀ req s, (serve pinned req s).1.Down) (s : S) : next ≠ pinned := by
  rintro rfl
  have hh := hup { path := "" } s
  have hd := hdown { path := "" } s
  cases hr : (serve next { path := "" } s).1 with
  | failed =>
      rw [hr] at hh
      exact hh
  | answered a =>
      rw [hr] at hh hd
      exact absurd hh.1 (not_lt.mpr hd)

omit [PyCharacters] in
/-- An operation that breaks on the pinned endpoint and not on the next falls
    over to it. -/
theorem onAny_failsOver {α : Type} {op : String → EStateM HttpError (S × Unit) α}
    {e : HttpError} (hpinned : w.pinned ∈ candidates)
    (hnext : (ordered candidates w.pinned)[1]? = some next) (hne : next ≠ w.pinned)
    (hop : outcome (op w.pinned (w.servers w.pinned, ())) = .error e)
    (he : e.isDown = true) (hup : Raises NotDown (op next)) :
    FailsOver (fun candidates => onAny candidates op) candidates w next := by
  obtain ⟨rest, hrest⟩ := ordered_eq_cons hpinned
  rw [hrest] at hnext
  cases rest with
  | nil => cases hnext
  | cons j rest =>
      obtain rfl : j = next := Option.some.inj hnext
      have hrun := failOver_second HttpError.isDown op rest
        hne hop he rfl (fun e he => (hup _ e he).1)
      have halone : onAny [j] op { w with pinned := j }
          = failOver HttpError.isDown op j [] { w with pinned := j } := by
        have hordered : ordered [j] j = [j] := by simp [ordered]
        rw [onAny, if_pos (List.mem_singleton.mpr rfl)]
        show (match ordered [j] j with
          | i :: rest => failOver HttpError.isDown op i rest { w with pinned := j }
          | [] => .error (.python .valueError) { w with pinned := j }) = _
        rw [hordered]
      have hall : onAny candidates op w
          = failOver HttpError.isDown op w.pinned (j :: rest) w := by
        rw [onAny, if_pos hpinned, hrest]
      rw [FailsOver, halone, hall]
      exact hrun

omit [PyCharacters] in
theorem outcome_bind_reading {σ α β : Type} (x : EStateM HttpError σ α) (f : α → Except PyExc β)
    (s : σ) : outcome ((x >>= fun a => reading (f a)) s)
      = (outcome (x s)).bind fun a => (f a).mapError HttpError.python := by
  rw [bind_run]
  cases x s with
  | error e t => rfl
  | ok a t =>
      show outcome (reading (f a) t) = (f a).mapError HttpError.python
      unfold reading
      cases f a <;> rfl

omit [PyCharacters] in
/-- What is computed from an answer afterwards changes nothing of it. -/
theorem FailsOver.bind_reading {α β : Type}
    {read : List String → EStateM HttpError (World String S C) α} {w : World String S C}
    (f : α → Except PyExc β) (h : FailsOver read candidates w next) :
    FailsOver (fun candidates => read candidates >>= fun a => reading (f a))
      candidates w next := by
  have hfinal : ∀ c v, final ((read c >>= fun a => reading (f a)) v) = final (read c v) := by
    intro c v
    rw [bind_run]
    cases read c v with
    | error e t => rfl
    | ok a t =>
        show final (reading (f a) t) = t
        unfold reading
        cases f a <;> rfl
  refine ⟨by rw [outcome_bind_reading, outcome_bind_reading, h.1], fun hok => ?_⟩
  rw [hfinal]
  refine h.2 ?_
  rw [outcome_bind_reading] at hok
  cases hread : outcome (read candidates w) with
  | ok a => rfl
  | error e =>
      rw [hread] at hok
      cases hok

omit [PyCharacters] in
/-- Nor does it make up for a header that raised. -/
theorem FailsOver.of_bind_reading {α β : Type}
    {read : List String → EStateM HttpError (World String S C) α} {w : World String S C}
    {f : α → Except PyExc β} {x : PyExc}
    (hread : outcome (read candidates w) = .error (.header x))
    (h : FailsOver (fun candidates => read candidates >>= fun a => reading (f a))
      candidates w next) : FailsOver read candidates w next := by
  have hsame := h.1
  rw [outcome_bind_reading, outcome_bind_reading, hread] at hsame
  refine ⟨?_, fun hok => ?_⟩
  · cases halone : outcome (read [next] { w with pinned := next }) with
    | error e =>
        rw [halone] at hsame
        rw [hread]
        exact congrArg _ (Except.error.inj hsame)
    | ok a =>
        rw [halone] at hsame
        change _ = (f a).mapError HttpError.python at hsame
        cases hf : f a with
        | error e =>
            rw [hf] at hsame
            cases hsame
        | ok b =>
            rw [hf] at hsame
            cases hsame
  · rw [hread] at hok
    cases hok

omit [PyCharacters] in
/-- A read that ends in the failure to read a throttle's header raises that. -/
theorem onAny_header {α : Type} {op : String → EStateM HttpError (S × Unit) α} {x : PyExc}
    (hpinned : w.pinned ∈ candidates)
    (hop : outcome (op w.pinned (w.servers w.pinned, ())) = .error (.header x)) :
    outcome (onAny candidates op w) = .error (.header x) := by
  obtain ⟨rest, hrest⟩ := ordered_eq_cons hpinned
  have hrun := failOver_up HttpError.isDown op rest (w := w) (i := w.pinned)
    (by rw [hop]; rintro e ⟨⟩; rfl)
  rw [onAny, if_pos hpinned, hrest]
  exact hrun.1.trans hop

omit [PyCharacters] in
/-- It does not fall over: a server that is well draws no such failure. -/
theorem not_failsOver_header {α : Type} {op : String → EStateM HttpError (S × Unit) α} {x : PyExc}
    (hpinned : w.pinned ∈ candidates)
    (hop : outcome (op w.pinned (w.servers w.pinned, ())) = .error (.header x))
    (hup : Raises NotDown (op next)) :
    ¬ FailsOver (fun candidates => onAny candidates op) candidates w next := by
  intro h
  have hsame := (onAny_header hpinned hop).symm.trans h.1
  have hordered : ordered [next] next = [next] := by simp [ordered]
  have halone : outcome (onAny [next] op { w with pinned := next })
      = outcome (op next (w.servers next, ())) := by
    rw [onAny, if_pos (List.mem_singleton.mpr rfl)]
    show outcome (match ordered [next] next with
      | i :: rest => failOver HttpError.isDown op i rest { w with pinned := next }
      | [] => .error (.python .valueError) { w with pinned := next }) = _
    rw [hordered]
    exact (failOver_up HttpError.isDown op [] (w := { w with pinned := next })
      fun e he => (hup _ e he).1).1
  exact (hup _ _ (halone.symm.trans hsame.symm)).2 _ rfl

section Down

variable (hpinned : w.pinned ∈ candidates)
  (hnext : (ordered candidates w.pinned)[1]? = some next)
  (hdown : ∀ req s, (serve w.pinned req s).1.Down)
  (hup : ∀ req s, (serve next req s).1.Healthy)

/-- A document, in the API of the endpoint. -/
def documentOp {α : Type} (serve : String → Request → S → Reply × S) (req req' : Request)
    (f g : Json → Except PyExc α) (base : String) : EStateM HttpError (S × C) α :=
  if isBlockbook base then json serve base req >>= fun x => reading (f x)
  else json serve base req' >>= fun x => reading (g x)

include hpinned hnext hdown hup

/-- How the read of a document goes: a header raises, or the read falls over. -/
theorem documentOp_cases {α : Type} (req req' : Request) (f g : Json → Except PyExc α) :
    (HeaderRaises (lapReplies serve w.pinned (if isBlockbook w.pinned then req else req')
        (defaultRetries + 1) (w.servers w.pinned))
      ∧ outcome (onAny candidates (documentOp serve req req' f g) w)
        = .error (.header .overflowError)
      ∧ ¬ FailsOver (fun candidates => onAny candidates (documentOp serve req req' f g))
        candidates w next)
    ∨ (¬ HeaderRaises (lapReplies serve w.pinned (if isBlockbook w.pinned then req else req')
        (defaultRetries + 1) (w.servers w.pinned))
      ∧ FailsOver (fun candidates => onAny candidates (documentOp serve req req' f g))
        candidates w next) := by
  have hraises : Raises NotDown (documentOp serve req req' f g next :
      EStateM HttpError (S × Unit) α) := by
    unfold documentOp
    split <;> exact (json_healthy hup _).bind fun _ => raises_reading _
  have hbreak {e : HttpError} {t : S × Unit}
      (hjson : json serve w.pinned (if isBlockbook w.pinned then req else req')
        (w.servers w.pinned, ()) = .error e t) :
      outcome (documentOp serve req req' f g w.pinned (w.servers w.pinned, ())) = .error e := by
    unfold documentOp
    split at hjson <;> rename_i hbook
    · rw [if_pos hbook]
      exact outcome_bind_error (by rw [hjson]; rfl)
    · rw [if_neg hbook]
      exact outcome_bind_error (by rw [hjson]; rfl)
  rcases json_down hdown (if isBlockbook w.pinned then req else req') (w.servers w.pinned) () with
    ⟨hheader, t, hjson⟩ | ⟨hheader, e, t, hjson, he, -⟩
  · have hop := hbreak hjson
    exact Or.inl ⟨hheader, onAny_header hpinned hop, not_failsOver_header hpinned hop hraises⟩
  · exact Or.inr ⟨hheader, onAny_failsOver hpinned hnext
      (ne_of_healthy_down hup hdown (w.servers next)) (hbreak hjson) he hraises⟩

/-- **`address_info` falls over** unless a throttle's header raises. -/
theorem addressInfo_failsOver_iff (address : String) :
    FailsOver (fun candidates => addressInfo serve candidates address) candidates w next
      ↔ ¬ HeaderRaises (lapReplies serve w.pinned (infoRequest w.pinned address)
        (defaultRetries + 1) (w.servers w.pinned)) := by
  rcases documentOp_cases hpinned hnext hdown hup { path := "address/" ++ address }
    { path := "addr/" ++ address } parseBlockbookAddr parseInsightAddr with
    ⟨hheader, -, hnot⟩ | ⟨hheader, hfails⟩
  · exact iff_of_false hnot (not_not.mpr hheader)
  · exact iff_of_true hfails hheader

/-- **`fetch_utxos` falls over** unless a throttle's header raises. -/
theorem fetchUtxos_failsOver_iff (address : String) (includeUnconfirmed : Bool) :
    FailsOver (fun candidates => fetchUtxos serve candidates address includeUnconfirmed)
        candidates w next
      ↔ ¬ HeaderRaises (lapReplies serve w.pinned (utxoRequest w.pinned address)
        (defaultRetries + 1) (w.servers w.pinned)) := by
  rcases documentOp_cases hpinned hnext hdown hup { path := "utxo/" ++ address }
    { path := "addr/" ++ address ++ "/utxo" } (fun rows => do (← rows.items).mapM blockbookRow)
    (fun rows => do (← rows.items).mapM insightRow) with
    ⟨hheader, hraise, hnot⟩ | ⟨hheader, hfails⟩
  · exact iff_of_false (fun h => hnot (h.of_bind_reading hraise)) (not_not.mpr hheader)
  · exact iff_of_true (hfails.bind_reading (utxosOf address includeUnconfirmed)) hheader

end Down

/-! ## The history read -/

/-- The request for the first page of an address's history. -/
def firstPage (sizes : PageSizes) (base address : String) : Request :=
  if isBlockbook base then
    { path := "address/" ++ address
      params := [("details", .str "txs"), ("page", .int 1),
        ("pageSize", .int sizes.blockbook)] }
  else
    { path := "addrs/" ++ address ++ "/txs"
      params := [("from", .int 0), ("to", .int (0 + sizes.insight))] }

variable (sizes) in
/-- A walk that cannot read its first page: a throttle is taken for a history
    cut short, any other failure is raised. -/
theorem addressTxsOp_down {base : String} (hdown : ∀ req s, (serve base req s).1.Down)
    (address : String) (limit : ℤ) (s : S) :
    (HeaderRaises (lapReplies serve base (firstPage sizes base address) (defaultRetries + 1) s)
      ∧ outcome (addressTxsOp serve sizes address limit base (s, ()))
        = .error (.header .overflowError))
    ∨ ¬ HeaderRaises (lapReplies serve base (firstPage sizes base address) (defaultRetries + 1) s)
      ∧ ((ThrottledOut (lapReplies serve base (firstPage sizes base address)
            (defaultRetries + 1) s)
          ∧ outcome (addressTxsOp serve sizes address limit base (s, ()))
            = .ok { transactions := [], truncated := true })
        ∨ (¬ ThrottledOut (lapReplies serve base (firstPage sizes base address)
            (defaultRetries + 1) s)
          ∧ ∃ e, outcome (addressTxsOp serve sizes address limit base (s, ())) = .error e
            ∧ e.isDown = true)) := by
  have hpage {e : HttpError} {t : S}
      (hjson : json serve base (firstPage sizes base address) (s, ({} : Walk))
        = .error e (t, {})) :
      page (fetchPage serve sizes base address) none (s, {}) = .error e (t, {}) := by
    have hfetch : fetchPage serve sizes base address none (s, ({} : Walk)) = .error e (t, {}) := by
      by_cases hbook : isBlockbook base = true
      · rw [firstPage, if_pos hbook] at hjson
        rw [fetchPage, if_pos hbook]
        simp only [blockbookPage, Option.getD_none, if_true, bind_run, hjson]
      · rw [firstPage, if_neg hbook] at hjson
        rw [fetchPage, if_neg hbook]
        simp only [insightPage, Option.getD_none, bind_run, hjson]
    rw [page, bind_run, hfetch]
  have hraise {e : HttpError} {t : S}
      (hjson : json serve base (firstPage sizes base address) (s, ({} : Walk))
        = .error e (t, {})) (hrate : e.isRateLimited = false) :
      outcome (addressTxsOp serve sizes address limit base (s, ())) = .error e := by
    have hwalk : walkAddress serve sizes base address limit (s, ()) = .error e (t, ()) := by
      rw [walkAddress, withLocals, collectPages_error (hpage hjson) hrate]
    rw [addressTxsOp, insightWalkAttempts, walkAttempts]
    exact outcome_bind_error (by rw [hwalk]; rfl)
  rcases json_down hdown (firstPage sizes base address) s ({} : Walk) with
    ⟨hheader, t, hjson⟩ | ⟨hheader, e, t, hjson, he, hiff⟩
  · exact Or.inl ⟨hheader, hraise hjson rfl⟩
  refine Or.inr ⟨hheader, ?_⟩
  by_cases hrate : e.isRateLimited = true
  · refine Or.inl ⟨hiff.mp hrate, ?_⟩
    have hwalk : walkAddress serve sizes base address limit (s, ())
        = .ok ({ transactions := [], truncated := true }, {}) (t, ()) := by
      rw [walkAddress, withLocals, collectPages_rateLimited (hpage hjson) hrate]
    rw [addressTxsOp, insightWalkAttempts, walkAttempts, bind_run, hwalk]
    rfl
  · exact Or.inr ⟨fun h => hrate (hiff.mpr h), e,
      hraise hjson (Bool.not_eq_true _ ▸ hrate), he⟩

/-- The history read of a healthy endpoint raises nothing that counts as down. -/
theorem raises_addressTxsOp {base : String} (hup : ∀ req s, (serve base req s).1.Healthy)
    (address : String) (limit : ℤ) :
    Raises NotDown (addressTxsOp serve sizes address limit base :
      EStateM HttpError (S × C) (AddressTxs TxSummary)) := by
  have hfetch : ∀ cursor, Raises NotDown
      (fetchPage serve sizes base address cursor : EStateM HttpError (S × Walk) Page) := by
    intro cursor
    unfold fetchPage
    split
    · exact (json_healthy hup _).bind fun _ => (raises_reading _).bind fun _ =>
        (raises_reading _).bind fun _ => (raises_reading _).bind fun _ =>
        (raises_reading _).bind fun _ => raises_pure _
    · exact (json_healthy hup _).bind fun _ => (raises_reading _).bind fun _ =>
        (raises_reading _).bind fun _ => (raises_reading _).bind fun _ => raises_pure _
  have hpage : ∀ cursor, Raises NotDown (page (fetchPage serve sizes base address) cursor) := by
    intro cursor
    unfold page
    refine (hfetch cursor).bind fun a => ?_
    obtain ⟨txs, total, following⟩ := a
    refine Raises.bind (fun s e h => (by cases h)) fun p => ?_
    obtain ⟨s, walk⟩ := p
    dsimp only
    split
    · exact raises_pure _
    · exact Raises.bind (fun s e h => (by cases h)) fun _ => raises_pure _
    · split
      · exact raises_pure _
      · exact Raises.bind (fun s e h => (by cases h)) fun _ => raises_pure _
  have hwalk : Raises NotDown (walkAddress serve sizes base address limit :
      EStateM HttpError (S × C) _) := (raises_collectPages hpage).withLocals
  have hattempts : ∀ n txs, Raises NotDown
      (walkAttempts serve sizes address limit base n txs : EStateM HttpError (S × C) _) := by
    intro n
    induction n with
    | zero => exact fun txs => raises_pure _
    | succ n ih =>
        intro txs
        rw [walkAttempts]
        refine hwalk.bind fun a => ?_
        obtain ⟨walked, walk⟩ := a
        dsimp only
        split
        · exact ih _
        · exact raises_pure _
  exact hattempts _ _

/-- **`address_txs` falls over** exactly when the pinned endpoint's laps do not
    end in a throttle, and no throttle's header raises. -/
theorem addressTxs_failsOver_iff (hpinned : w.pinned ∈ candidates)
    (hnext : (ordered candidates w.pinned)[1]? = some next)
    (hdown : ∀ req s, (serve w.pinned req s).1.Down)
    (hup : ∀ req s, (serve next req s).1.Healthy) (address : String) (limit : ℤ) :
    FailsOver (fun candidates => addressTxs serve sizes candidates address limit)
        candidates w next
      ↔ ¬ HeaderRaises (lapReplies serve w.pinned (firstPage sizes w.pinned address)
          (defaultRetries + 1) (w.servers w.pinned))
        ∧ ¬ ThrottledOut (lapReplies serve w.pinned (firstPage sizes w.pinned address)
          (defaultRetries + 1) (w.servers w.pinned)) := by
  have hne := ne_of_healthy_down hup hdown (w.servers next)
  rcases addressTxsOp_down sizes hdown address limit (w.servers w.pinned) with
    ⟨hheader, hop⟩ | ⟨hheader, ⟨hthrottled, hop⟩ | ⟨hnot, e, hop, he⟩⟩
  · refine iff_of_false ?_ fun h => h.1 hheader
    exact not_failsOver_header hpinned hop (raises_addressTxsOp hup address limit)
  · refine iff_of_false (fun h => ?_) fun h => h.2 hthrottled
    -- The pinned endpoint's empty history is taken for the answer.
    obtain ⟨rest, hrest⟩ := ordered_eq_cons hpinned
    have hrun := failOver_up HttpError.isDown
      (addressTxsOp serve sizes address limit) rest (w := w) (i := w.pinned)
      (by rw [hop]; intro e he; cases he)
    have hall : addressTxs serve sizes candidates address limit w
        = failOver HttpError.isDown (addressTxsOp serve sizes address limit) w.pinned rest w := by
      rw [addressTxs, onAny, if_pos hpinned, hrest]
    have hok : (outcome (addressTxs serve sizes candidates address limit w)).isOk := by
      rw [hall, hrun.1, hop]
      rfl
    have hpin : (final (addressTxs serve sizes candidates address limit w)).pinned
        = w.pinned := by
      rw [hall, hrun.2, hop]
    exact hne ((h.2 hok).symm.trans hpin)
  · refine iff_of_true ?_ ⟨hheader, hnot⟩
    exact onAny_failsOver hpinned hnext hne hop he (raises_addressTxsOp hup address limit)

/-- **The three reads fall over** from an endpoint that is down to the next, unless the
    request ran into a throttle whose header raises; the history read unless its first page
    ran out of laps on a throttle, too. -/
theorem reads_failOver (hpinned : w.pinned ∈ candidates)
    (hnext : (ordered candidates w.pinned)[1]? = some next)
    (hdown : ∀ req s, (serve w.pinned req s).1.Down)
    (hup : ∀ req s, (serve next req s).1.Healthy) (address : String) (limit : ℤ)
    (includeUnconfirmed : Bool) :
    (FailsOver (fun candidates => addressInfo serve candidates address) candidates w next
      ↔ ¬ HeaderRaises (lapReplies serve w.pinned (infoRequest w.pinned address)
        (defaultRetries + 1) (w.servers w.pinned)))
    ∧ (FailsOver (fun candidates => fetchUtxos serve candidates address includeUnconfirmed)
        candidates w next
      ↔ ¬ HeaderRaises (lapReplies serve w.pinned (utxoRequest w.pinned address)
        (defaultRetries + 1) (w.servers w.pinned)))
    ∧ (FailsOver (fun candidates => addressTxs serve sizes candidates address limit)
        candidates w next
      ↔ ¬ HeaderRaises (lapReplies serve w.pinned (firstPage sizes w.pinned address)
          (defaultRetries + 1) (w.servers w.pinned))
        ∧ ¬ ThrottledOut (lapReplies serve w.pinned (firstPage sizes w.pinned address)
          (defaultRetries + 1) (w.servers w.pinned))) :=
  ⟨addressInfo_failsOver_iff hpinned hnext hdown hup address,
    fetchUtxos_failsOver_iff hpinned hnext hdown hup address includeUnconfirmed,
    addressTxs_failsOver_iff hpinned hnext hdown hup address limit⟩

end Adapter

/-! ## A Blockbook behind an Insight that is down -/

def insightUrl : String := "https://insight.dash.org/insight-api"

def blockbookUrl : String := "https://dash.atomicwallet.io/api/v2"

/-- The Insight answers every request with `status`, the Blockbook with the
    history of one transaction. -/
def statusServe (status : ℕ) (base : String) (_ : Request) (s : Unit) : Reply × Unit :=
  if base = insightUrl then (.answered { status, text := "", body := none }, s)
  else
    (.answered
      { status := 200
        text := ""
        body := some (.obj [("txs", .int 1), ("totalPages", .int 1),
          ("transactions", .arr [.obj [("txid", .str "ab"), ("confirmations", .int 3)]])]) }, s)

def dashWorld : World String Unit Unit where
  servers := fun _ => ()
  pinned := insightUrl
  shared := ()

/-- A gateway error (502) on the Insight: the reads fall over. -/
theorem reads_failOver_badGateway :
    let _ : PyCharacters := asciiCharacters
    FailsOver (fun candidates => addressTxs (statusServe 502) {} candidates "Xa" 500)
      [insightUrl, blockbookUrl] dashWorld blockbookUrl := by
  let _ : PyCharacters := asciiCharacters
  intro _
  have hdown : ∀ req s, (statusServe 502 dashWorld.pinned req s).1.Down :=
    fun req s => show 500 ≤ 502 by decide
  have hup : ∀ req s, (statusServe 502 blockbookUrl req s).1.Healthy :=
    fun req s => show 200 < 500 ∧ 200 ∉ throttleStatuses by decide
  have hpinned : dashWorld.pinned ∈ [insightUrl, blockbookUrl] := by decide
  have hiff := (@reads_failOver _ _ _ {} _ _ _ hpinned (by decide) hdown hup "Xa" 500 false).2.2
  have hgateway : ¬ 502 ∈ throttleStatuses := by decide
  refine hiff.mpr ⟨fun h => hgateway h.1, ?_⟩
  rintro ⟨hall, -⟩
  exact absurd (hall _ List.mem_cons_self) hgateway

/-- A 503 on the Insight: the history read is empty, cut short and stays there,
    where the Blockbook alone has the whole of it. -/
theorem addressTxs_unavailable :
    let _ : PyCharacters := asciiCharacters
    let read := fun candidates => addressTxs (statusServe 503) {} candidates "Xa" 500
    (∀ req s, (statusServe 503 insightUrl req s).1.Down)
    ∧ (∀ req s, (statusServe 503 blockbookUrl req s).1.Healthy)
    ∧ ¬ FailsOver read [insightUrl, blockbookUrl] dashWorld blockbookUrl
    ∧ (outcome (read [insightUrl, blockbookUrl] dashWorld)
      = .ok { transactions := [], truncated := true })
    ∧ (outcome (read [blockbookUrl] { dashWorld with pinned := blockbookUrl })).toOption.map
        (fun found => (found.transactions.length, found.truncated)) = some (1, false)
    ∧ (final (read [insightUrl, blockbookUrl] dashWorld)).pinned = insightUrl := by
  let _ : PyCharacters := asciiCharacters
  intro _
  have hpin : (final (addressTxs (statusServe 503) {} [insightUrl, blockbookUrl] "Xa" 500
      dashWorld)).pinned = insightUrl := by decide +kernel
  refine ⟨fun req s => show 500 ≤ 503 by decide,
    fun req s => show 200 < 500 ∧ 200 ∉ throttleStatuses by decide, fun h => ?_, rfl,
    by decide +kernel, hpin⟩
  exact absurd (hpin.symm.trans (h.2 rfl)) (by decide)

end SwapsackDash
