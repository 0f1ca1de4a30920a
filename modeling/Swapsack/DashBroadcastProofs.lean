import Swapsack.DashProofs

/-! # Broadcasting a Dash transaction

    A signed transaction is offered to one endpoint after another while they are
    down.  What each endpoint did with it is read off its reply; whether an
    earlier one may have relayed it is one flag, and an error raised under the
    flag names the transaction.

    * `failOver_broadcast` — the endpoints asked all failed unclearly but the
      last, whose verdict is the outcome, and the flag says whether any did;
    * `broadcastOne_run` — an error is wrapped when anything was unclear;
    * `misled_iff` — when the word "already" is taken for the word of an endpoint that
      has the transaction;
    * `broadcastOne_tells` — a txid means that some endpoint took it, clean
      refusals are raised as they are, and the error names the txid whenever an
      endpoint may have taken it, but for that word and for a first endpoint that took
      it and did not say so. -/

namespace SwapsackDashBroadcast

open Failover ListKit ByteString PyText PyJson EmailDate SwapsackHttp SwapsackDashApi SwapsackDash

section Broadcast

variable [PyCharacters] {S : Type} (serve : String → Request → S → Reply × S)
  (sha256 : Bytes → Bytes)

/-! ## The broadcast -/

omit [PyCharacters] in
/-- The request that offers a transaction to an endpoint. -/
def sendRequest (raw base : String) : Request :=
  if isBlockbook base then { path := "sendtx/", data := some raw }
  else { path := "tx/send", json := [("rawtx", raw)] }

/-- `"already" in text.lower()`. -/
def saysAlready (a : Answer) : Bool := isIn "already" (PyUnicode.lower a.text)

/-- What the guarded part of an attempt comes to: the answer to read, or none
    where the endpoint has the transaction already. -/
def offer (raw base : String) : EStateM HttpError (S × Bool) (Option Answer) := do
  let a ← post serve base (sendRequest raw base)
  if 400 ≤ a.status ∧ saysAlready a then pure none
  else do
    let a ← checked a base
    pure (some a)

/-- The txid an answer carries, under the name its API gives it. -/
def readSent (base : String) (a : Answer) : EStateM HttpError (S × Bool) Json := do
  let body ← bodyOf a
  let sent ← reading (field body (if isBlockbook base then "result" else "txid"))
  if sent.truthy then pure sent else throw (HttpError.refused (netloc base) body)

/-- The conversation of `_broadcast_one`; the shared flag is `uncertain`. -/
def broadcastOp (raw localTxid base : String) : EStateM HttpError (S × Bool) Json := fun s =>
  match offer serve raw base s with
  | .error e s => .error e (s.1, s.2 || e.isDown)
  | .ok none s => .ok (.str localTxid) s
  | .ok (some a) s => readSent base a s

omit [PyCharacters] in
/-- Pre-segwit: the txid is the double hash of the whole transaction. -/
def localTxid (bytes : Bytes) : String := hex (sha256 (sha256 bytes)).reverse

/-- `_broadcast_one`. -/
def broadcastOne (candidates : List String) (raw : String) :
    EStateM HttpError (World String S Bool) Json := fun w =>
  match fromHex raw with
  | none => .error (.python .valueError) w
  | some bytes =>
      match onAny candidates (broadcastOp serve raw (localTxid sha256 bytes))
          { w with shared := false } with
      | .ok sent w => .ok sent w
      | .error e w =>
          if w.shared then .error (.mayHaveRelayed e (localTxid sha256 bytes)) w
          else .error e w

/-- `broadcast`: every transaction in turn; the last one's txid is returned. -/
def broadcast (candidates : List String) :
    Json → List String → EStateM HttpError (World String S Bool) Json
  | txid, [] => pure txid
  | _, raw :: raws => do
      let txid ← broadcastOne serve sha256 candidates raw
      broadcast candidates txid raws

/-! ## What an endpoint did -/

/-- The txid an answer carries, or why none can be read off it. -/
def sentIn (base : String) (a : Answer) : Except HttpError Json :=
  match a.body with
  | none => .error .notJson
  | some body =>
      match field body (if isBlockbook base then "result" else "txid") with
      | .error e => .error (.python e)
      | .ok sent => if sent.truthy then .ok sent else .error (.refused (netloc base) body)

/-- What an attempt comes to, by the reply. -/
def verdict (txid base : String) : Reply → Except HttpError Json
  | .failed => .error .transient
  | .answered a =>
      if 400 ≤ a.status ∧ saysAlready a then .ok (.str txid)
      else if 500 ≤ a.status then .error (.endpointDown (netloc base) a.status)
      else if 400 ≤ a.status then .error (.httpStatus a.status)
      else sentIn base a

/-- Whether an attempt leaves the question open: a transport failure or a 5xx. -/
def unclear (txid base : String) (r : Reply) : Bool :=
  match verdict txid base r with
  | .ok _ => false
  | .error e => e.isDown

variable {serve sha256}

omit [PyCharacters] in
/-- Reading an answer raises nothing that counts as down. -/
theorem sentIn_notDown {base : String} {a : Answer} {e : HttpError}
    (h : sentIn base a = .error e) : e.isDown = false := by
  unfold sentIn at h
  split at h
  · cases h
    rfl
  · split at h
    · cases h
      rfl
    · split at h
      · cases h
      · cases h
        rfl

omit [PyCharacters] in
theorem readSent_eq (base : String) (a : Answer) (s : S × Bool) :
    readSent base a s = match sentIn base a with
      | .ok sent => .ok sent s
      | .error e => .error e s := by
  rw [readSent, sentIn, bind_run, bodyOf]
  cases a.body with
  | none => rfl
  | some body =>
      simp only [pure_run, bind_run, reading_run]
      cases field body (if isBlockbook base then "result" else "txid") with
      | error e => rfl
      | ok sent => cases hsent : sent.truthy <;> simp [hsent]

/-- The attempt is the verdict on its reply, and raises the flag when it is
    unclear. -/
theorem broadcastOp_eq (raw txid base : String) (s : S) (flag : Bool) :
    broadcastOp serve raw txid base (s, flag)
      = match verdict txid base (serve base { sendRequest raw base with post := true } s).1 with
        | .ok sent =>
            .ok sent ((serve base { sendRequest raw base with post := true } s).2, flag)
        | .error e =>
            .error e ((serve base { sendRequest raw base with post := true } s).2,
              flag || e.isDown) := by
  rw [broadcastOp, offer, bind_run, post, bind_run, send]
  cases (serve base { sendRequest raw base with post := true } s).1 with
  | failed => rfl
  | answered a =>
      rw [verdict]
      simp only [pure_run]
      by_cases halready : 400 ≤ a.status ∧ saysAlready a = true
      · simp only [if_pos halready, pure_run]
      simp only [if_neg halready, bind_run]
      by_cases h500 : 500 ≤ a.status
      · simp only [checked, if_pos h500, throw_run]
      by_cases h400 : 400 ≤ a.status
      · simp only [checked, if_neg h500, if_pos h400, throw_run, HttpError.isDown,
          Bool.or_false]
      simp only [checked, if_neg h500, if_neg h400, pure_run]
      rw [readSent_eq]
      cases hsent : sentIn base a with
      | ok sent => rfl
      | error e =>
          simp only [sentIn_notDown hsent, Bool.or_false]

/-! ## The run over the endpoints -/

variable (serve) in
/-- The endpoints a broadcast asks, with their replies: it goes on while they
    are unclear. -/
def sends (raw txid : String) : List String → (String → S) → List (String × Reply)
  | [], _ => []
  | i :: rest, servers =>
      let r := serve i { sendRequest raw i with post := true } (servers i)
      (i, r.1) :: if unclear txid i r.1 then
        sends raw txid rest (Function.update servers i r.2) else []

variable (serve) in
/-- **The run**: all endpoints asked were unclear but the last, whose verdict is
    the outcome, and the flag says whether any was. -/
theorem failOver_broadcast (raw txid : String) (i : String) (rest : List String)
    (w : World String S Bool) :
    ∃ pre last, sends serve raw txid (i :: rest) w.servers = pre ++ [last]
      ∧ (∀ p ∈ pre, unclear txid p.1 p.2 = true)
      ∧ outcome (failOver HttpError.isDown (broadcastOp serve raw txid) i rest w)
        = verdict txid last.1 last.2
      ∧ (final (failOver HttpError.isDown (broadcastOp serve raw txid) i rest w)).shared
        = (w.shared || !pre.isEmpty || unclear txid last.1 last.2) := by
  induction rest generalizing i w with
  | nil =>
      refine ⟨[], (i, (serve i { sendRequest raw i with post := true } (w.servers i)).1), ?_,
        fun p hp => (nomatch hp), ?_⟩
      · simp [sends]
      · rw [failOver, onServer, broadcastOp_eq, unclear]
        cases verdict txid i
          (serve i { sendRequest raw i with post := true } (w.servers i)).1 <;> simp
  | cons j rest ih =>
      rw [sends, failOver, onServer, broadcastOp_eq, unclear]
      dsimp only
      cases hv : verdict txid i
          (serve i { sendRequest raw i with post := true } (w.servers i)).1 with
      | ok sent =>
          refine ⟨[], (i, (serve i { sendRequest raw i with post := true } (w.servers i)).1),
            by simp, fun p hp => (nomatch hp), ?_⟩
          simp [hv, unclear]
      | error e =>
          by_cases hdown : e.isDown = true
          · -- Unclear: the next endpoint is asked, with the flag up.
            obtain ⟨pre, last, hsends, hpre, hout, hflag⟩ := ih j (w.after i
              ((serve i { sendRequest raw i with post := true } (w.servers i)).2, true))
            refine ⟨(i, (serve i { sendRequest raw i with post := true } (w.servers i)).1) :: pre,
              last, ?_, ?_, ?_, ?_⟩
            · simp only [hdown, if_true, List.cons_append, List.cons.injEq, true_and]
              exact hsends
            · refine List.forall_mem_cons.mpr ⟨?_, hpre⟩
              rw [unclear, hv]
              exact hdown
            · simp only [hdown, Bool.or_true, if_true]
              exact hout
            · simp only [hdown, Bool.or_true, if_true]
              rw [hflag]
              simp
          · refine ⟨[], (i, (serve i { sendRequest raw i with post := true } (w.servers i)).1),
              by simp [hdown], fun p hp => (nomatch hp), ?_⟩
            simp [hv, unclear, hdown]

variable (serve) in
/-- What the endpoints reply, were they all asked. -/
def replies (raw : String) : List String → (String → S) → List Reply
  | [], _ => []
  | i :: rest, servers =>
      let r := serve i { sendRequest raw i with post := true } (servers i)
      r.1 :: replies raw rest (Function.update servers i r.2)

/-! ## What the user is told

    Which answers come from an endpoint that has the transaction, and which are refusals,
    is not the code's to say: it is given. -/

omit [PyCharacters] in
/-- An endpoint that accepted the transaction, or refused it as already known. -/
def Took (known : Answer → Prop) (base : String) : Reply → Prop
  | .failed => False
  | .answered a =>
      (400 ≤ a.status ∧ known a) ∨ (a.status < 400 ∧ ∃ sent, sentIn base a = .ok sent)

omit [PyCharacters] in
/-- An endpoint that may have taken it: nothing came back, a 5xx did, or an answer
    that is no refusal. -/
def MayHaveTaken (refuses : Answer → Prop) : Reply → Prop
  | .failed => True
  | .answered a => 500 ≤ a.status ∨ (a.status < 400 ∧ ¬ refuses a)

omit [PyCharacters] in
/-- A refusal: a 4xx of an endpoint that does not know the transaction, or an answer that
    says so. -/
def CleanlyRefused (known refuses : Answer → Prop) (base : String) : Reply → Prop
  | .failed => False
  | .answered a =>
      (400 ≤ a.status ∧ a.status < 500 ∧ ¬ known a)
        ∨ (a.status < 400 ∧ refuses a ∧ ∃ e, sentIn base a = .error e)

omit [PyCharacters] in
/-- The error that a refusal is: its status, or what it says. -/
def IsRefusal (base : String) (e : HttpError) : Reply → Prop
  | .failed => False
  | .answered a => (400 ≤ a.status ∧ e = .httpStatus a.status)
      ∨ (a.status < 400 ∧ sentIn base a = .error e)

omit [PyCharacters] in
/-- An answer below 400 that is no refusal and from which no txid can be read. -/
def SilentlyTaken (refuses : Answer → Prop) (base : String) : Reply → Prop
  | .failed => False
  | .answered a => a.status < 400 ∧ ¬ refuses a ∧ ∃ e, sentIn base a = .error e

/-- A 4xx that says "already" of something else. -/
def SaysAlreadyOfOther (known : Answer → Prop) : Reply → Prop
  | .failed => False
  | .answered a => 400 ≤ a.status ∧ a.status < 500 ∧ saysAlready a = true ∧ ¬ known a

/-- Behind endpoints that are down and do not know the transaction, the next says "already"
    of something else. -/
def Misled (known : Answer → Prop) : List Reply → Prop
  | [] => False
  | .failed :: rest => Misled known rest
  | .answered a :: rest =>
      if 400 ≤ a.status ∧ saysAlready a then ¬ known a
      else 500 ≤ a.status ∧ ¬ known a ∧ Misled known rest

/-- Nothing is unclear about an answer that silently took the transaction. -/
theorem verdict_of_silent {refuses : Answer → Prop} {base : String} {r : Reply}
    (txid : String) (h : SilentlyTaken refuses base r) :
    ∃ e, verdict txid base r = .error e ∧ e.isDown = false
      ∧ ∀ cause t, e ≠ .mayHaveRelayed cause t := by
  cases r with
  | failed => exact absurd h id
  | answered a =>
      obtain ⟨h400, -, e, he⟩ := h
      refine ⟨e, ?_, sentIn_notDown he, ?_⟩
      · rw [verdict, if_neg (by omega), if_neg (by omega), if_neg (by omega)]
        exact he
      · rintro cause t rfl
        unfold sentIn at he
        split at he
        · cases he
        · split at he
          · cases he
          · split at he <;> cases he

omit [PyCharacters] in
theorem mayHaveTaken_of_silent {refuses : Answer → Prop} {base : String} {r : Reply}
    (h : SilentlyTaken refuses base r) : MayHaveTaken refuses r := by
  cases r with
  | failed => trivial
  | answered a => exact Or.inr ⟨h.1, h.2.1⟩

/-- An error that leaves nothing open came of a 4xx or of an answer that no txid
    can be read from. -/
theorem silent_of_clear {refuses : Answer → Prop} {txid base : String} {r : Reply}
    {e : HttpError} (h : verdict txid base r = .error e) (he : e.isDown = false)
    (hmay : MayHaveTaken refuses r) : SilentlyTaken refuses base r := by
  cases r with
  | failed =>
      cases h
      cases he
  | answered a =>
      rw [verdict] at h
      by_cases halready : 400 ≤ a.status ∧ saysAlready a = true
      · rw [if_pos halready] at h
        cases h
      rw [if_neg halready] at h
      by_cases h500 : 500 ≤ a.status
      · rw [if_pos h500] at h
        cases h
        cases he
      rw [if_neg h500] at h
      by_cases h400 : 400 ≤ a.status
      · rcases hmay with h | h <;> omega
      rw [if_neg h400] at h
      rcases hmay with h' | ⟨-, hno⟩
      · exact absurd h' h500
      · exact ⟨not_le.mp h400, hno, e, h⟩

/-- What leaves nothing open is not unclear. -/
theorem not_unclear {txid base : String} {r : Reply} {e : HttpError}
    (hv : verdict txid base r = .error e) (hdown : e.isDown = false) :
    unclear txid base r = false := by
  rw [unclear, hv]
  exact hdown

theorem not_unclear_of_ok {txid base : String} {r : Reply} {sent : Json}
    (hv : verdict txid base r = .ok sent) : unclear txid base r = false := by
  rw [unclear, hv]

/-- A clean refusal that does not say "already" is raised as it is, and leaves nothing
    open. -/
theorem verdict_of_refused {known refuses : Answer → Prop} {base : String} {r : Reply}
    (txid : String) (h : CleanlyRefused known refuses base r)
    (hword : ¬ SaysAlreadyOfOther known r) :
    ∃ e, verdict txid base r = .error e ∧ IsRefusal base e r ∧ e.isDown = false := by
  cases r with
  | failed => exact absurd h id
  | answered a =>
      rcases h with ⟨h400, h500, hnew⟩ | ⟨h400, -, e, he⟩
      · refine ⟨.httpStatus a.status, ?_, Or.inl ⟨h400, rfl⟩, rfl⟩
        rw [verdict, if_neg fun hsays => hword ⟨h400, h500, hsays.2, hnew⟩, if_neg (by omega),
          if_pos h400]
      · refine ⟨e, ?_, Or.inr ⟨h400, he⟩, sentIn_notDown he⟩
        rw [verdict, if_neg (by omega), if_neg (by omega), if_neg (by omega)]
        exact he

/-- One that does is taken for the word of an endpoint that has the transaction. -/
theorem verdict_of_other {known : Answer → Prop} {base : String} {r : Reply} (txid : String)
    (h : SaysAlreadyOfOther known r) : verdict txid base r = .ok (.str txid) := by
  cases r with
  | failed => exact absurd h id
  | answered a => rw [verdict, if_pos ⟨h.1, h.2.2.1⟩]

/-- An endpoint that leaves the question open is passed. -/
theorem misled_of_unclear (known : Answer → Prop) {txid base : String} {r : Reply}
    (rest : List Reply) (h : unclear txid base r = true) :
    Misled known (r :: rest) ↔ ¬ Took known base r ∧ Misled known rest := by
  cases r with
  | failed => simp [Misled, Took]
  | answered a =>
      rw [unclear, verdict] at h
      by_cases halready : 400 ≤ a.status ∧ saysAlready a = true
      · rw [if_pos halready] at h
        cases h
      by_cases h500 : 500 ≤ a.status
      · have hle : 400 ≤ a.status := by omega
        have hlt : ¬ a.status < 400 := by omega
        rw [Misled, if_neg halready]
        simp [Took, h500, hle, hlt]
      rw [if_neg halready, if_neg h500] at h
      by_cases h400 : 400 ≤ a.status
      · rw [if_pos h400] at h
        cases h
      · rw [if_neg h400] at h
        cases hsent : sentIn base a with
        | ok sent =>
            rw [hsent] at h
            cases h
        | error e =>
            rw [hsent] at h
            exact absurd ((sentIn_notDown hsent).symm.trans h) (by decide)

/-- The first that does not is the one that misleads, or none does. -/
theorem misled_of_clear (known : Answer → Prop) {txid base : String} {r : Reply}
    (rest : List Reply) (h : unclear txid base r = false) :
    Misled known (r :: rest)
      ↔ (∃ sent, verdict txid base r = .ok sent) ∧ ¬ Took known base r := by
  cases r with
  | failed => cases h
  | answered a =>
      rw [unclear] at h
      rw [verdict] at h ⊢
      by_cases halready : 400 ≤ a.status ∧ saysAlready a = true
      · have hlt : ¬ a.status < 400 := by omega
        simp [Misled, Took, halready, hlt]
      rw [if_neg halready] at h ⊢
      by_cases h500 : 500 ≤ a.status
      · rw [if_pos h500] at h
        cases h
      rw [if_neg h500] at h ⊢
      rw [Misled, if_neg halready]
      refine iff_of_false (fun hmisled => h500 hmisled.1) ?_
      rintro ⟨⟨sent, hsent⟩, htook⟩
      by_cases h400 : 400 ≤ a.status
      · rw [if_pos h400] at hsent
        cases hsent
      · rw [if_neg h400] at hsent
        exact htook (Or.inr ⟨not_le.mp h400, sent, hsent⟩)

theorem cleanlyRefused_of_other {known : Answer → Prop} {r : Reply}
    (refuses : Answer → Prop) (base : String) (h : SaysAlreadyOfOther known r) :
    CleanlyRefused known refuses base r := by
  cases r with
  | failed => exact absurd h id
  | answered a => exact Or.inl ⟨h.1, h.2.1, h.2.2.2⟩

variable (serve) in
/-- **A txid without an endpoint that took it** is returned where the word misleads. -/
theorem misled_iff (known : Answer → Prop) (raw txid i : String) (rest : List String)
    (servers : String → S) :
    Misled known (replies serve raw (i :: rest) servers)
      ↔ (∃ last sent, (sends serve raw txid (i :: rest) servers).getLast? = some last
          ∧ verdict txid last.1 last.2 = .ok sent)
        ∧ ∀ p ∈ sends serve raw txid (i :: rest) servers, ¬ Took known p.1 p.2 := by
  induction rest generalizing i servers with
  | nil =>
      rw [replies, sends]
      dsimp only
      cases hunclear : unclear txid i
          (serve i { sendRequest raw i with post := true } (servers i)).1 with
      | true =>
          rw [misled_of_unclear known _ hunclear]
          refine iff_of_false (fun h => h.2) ?_
          rintro ⟨⟨last, sent, hlast, hok⟩, -⟩
          obtain rfl : (i, _) = last := Option.some.inj hlast
          exact absurd ((not_unclear_of_ok hok).symm.trans hunclear) (by decide)
      | false =>
          rw [misled_of_clear known _ hunclear]
          simp
  | cons j rest ih =>
      rw [replies, sends]
      dsimp only
      cases hunclear : unclear txid i
          (serve i { sendRequest raw i with post := true } (servers i)).1 with
      | true =>
          -- the endpoints behind one that left it open decide
          have hrest := ih j (Function.update servers i
            (serve i { sendRequest raw i with post := true } (servers i)).2)
          refine (misled_of_unclear known _ hunclear).trans ((and_congr_right' hrest).trans ?_)
          rw [if_pos rfl]
          generalize hasked : sends serve raw txid (j :: rest) (Function.update servers i
            (serve i { sendRequest raw i with post := true } (servers i)).2) = asked
          cases asked with
          | nil =>
              rw [sends] at hasked
              cases hasked
          | cons p asked =>
              rw [List.getLast?_cons_cons, List.forall_mem_cons (l := p :: asked)]
              exact and_left_comm
      | false =>
          rw [misled_of_clear known _ hunclear]
          simp

/-- The error that is raised for `e`, by whether an earlier attempt was unclear. -/
def told (txid : String) (unclearBefore : Bool) (e : HttpError) : HttpError :=
  if unclearBefore || e.isDown then .mayHaveRelayed e txid else e

/-- A txid that is told is the verdict on the last reply. -/
theorem told_ok_iff {txid base : String} {r : Reply} {unclearBefore : Bool} {sent : Json} :
    (verdict txid base r).mapError (told txid unclearBefore) = .ok sent
      ↔ verdict txid base r = .ok sent := by
  cases verdict txid base r with
  | ok sent' => exact Iff.rfl
  | error e => exact iff_of_false (fun h => by cases h) (fun h => by cases h)

/-- After an unclear attempt every error names the transaction. -/
theorem told_names {txid base : String} {r : Reply} {e : HttpError}
    (h : (verdict txid base r).mapError (told txid true) = .error e) :
    ∃ cause, e = .mayHaveRelayed cause txid := by
  cases hv : verdict txid base r with
  | ok sent =>
      rw [hv] at h
      cases h
  | error e' =>
      rw [hv] at h
      cases h
      exact ⟨e', rfl⟩

/-- After a single attempt an error names the transaction whenever it may have
    been taken, unless it was taken silently. -/
theorem told_names_iff (refuses : Answer → Prop) {txid base : String} {r : Reply} :
    (∀ e, (verdict txid base r).mapError (told txid false) = .error e → MayHaveTaken refuses r →
        ∃ cause, e = .mayHaveRelayed cause txid)
      ↔ ¬ SilentlyTaken refuses base r := by
  constructor
  · intro htells hsilent
    obtain ⟨e, hv, hdown, hother⟩ := verdict_of_silent txid hsilent
    obtain ⟨cause, hcause⟩ := htells e (by simp [hv, hdown, Except.mapError, told])
      (mayHaveTaken_of_silent hsilent)
    exact hother cause _ hcause
  · intro hsilent e he hmay
    cases hv : verdict txid base r with
    | ok sent =>
        rw [hv] at he
        cases he
    | error e' =>
        rw [hv] at he
        cases hdown : e'.isDown with
        | true =>
            simp only [Except.mapError, told, hdown, Bool.or_true, if_true] at he
            cases he
            exact ⟨e', rfl⟩
        | false => exact absurd (silent_of_clear hv hdown hmay) hsilent

/-! ## The message -/

omit [PyCharacters] in
/-- The messages that name what they are about; `shown` and `str` show other
    errors and values. -/
def errorText (shown : HttpError → String) (str : Json → String) : HttpError → String
  | .endpointDown host status => s!"{host}: HTTP {status}"
  | .refused host body =>
      let body := str body
      s!"{host} refused: {body}"
  | .mayHaveRelayed cause txid =>
      let cause := errorText shown str cause
      let warning :=
        " — but an endpoint failed in a way that may still have relayed it: check `swapsack status "
      cause ++ warning ++ txid ++ "` before retrying"
  | other => shown other

omit [PyCharacters] in
/-- A wrapped error spells the txid out. -/
theorem errorText_names (shown : HttpError → String) (str : Json → String)
    (cause : HttpError) (txid : String) :
    isIn txid (errorText shown str (.mayHaveRelayed cause txid)) = true := by
  rw [isIn_iff, errorText]
  simp only [String.toList_append]
  exact (List.infix_append _ _ _)

/-! ## The parts of a run

    Of the endpoints asked all but the last were unclear. -/

section Parts

variable {txid base : String} {first : Reply} {pre : List (String × Reply)}
  {last : String × Reply}

/-- A run whose first attempt leaves nothing open ends with it. -/
theorem single_of_clear (hpre : ∀ p ∈ pre, unclear txid p.1 p.2 = true)
    (hfirst : (pre ++ [last]).head? = some (base, first))
    (hclear : unclear txid base first = false) : pre = [] ∧ last = (base, first) := by
  cases pre with
  | nil => exact ⟨rfl, Option.some.inj hfirst⟩
  | cons p pre =>
      obtain rfl : p = _ := Option.some.inj hfirst
      exact absurd (hclear.symm.trans (hpre _ List.mem_cons_self)) (by decide)

/-- An error names the transaction wherever an endpoint may have taken it, unless the first
    one took it silently. -/
theorem told_names_taken (refuses : Answer → Prop)
    (hpre : ∀ p ∈ pre, unclear txid p.1 p.2 = true)
    (hfirst : (pre ++ [last]).head? = some (base, first)) :
    (∀ e, (verdict txid last.1 last.2).mapError (told txid !pre.isEmpty) = .error e →
        (∃ p ∈ pre ++ [last], MayHaveTaken refuses p.2) →
        ∃ cause, e = .mayHaveRelayed cause txid)
      ↔ ¬ SilentlyTaken refuses base first := by
  cases pre with
  | nil =>
      obtain rfl : last = _ := Option.some.inj hfirst
      rw [← @told_names_iff _ refuses txid]
      simp
  | cons p pre =>
      -- the first endpoint was unclear: everything after it is told
      refine iff_of_true (fun e he _ => told_names he) fun hsilent => ?_
      obtain ⟨e, hv, hdown, -⟩ := verdict_of_silent txid hsilent
      obtain ⟨hnil, -⟩ := single_of_clear hpre hfirst (not_unclear hv hdown)
      cases hnil

/-- Clean refusals end at the first, which is raised as it is unless it has the word. -/
theorem told_refusal_iff (known refuses : Answer → Prop)
    (hpre : ∀ p ∈ pre, unclear txid p.1 p.2 = true)
    (hfirst : (pre ++ [last]).head? = some (base, first)) :
    ((∀ p ∈ pre ++ [last], CleanlyRefused known refuses p.1 p.2) →
        ∃ e, pre ++ [last] = [(base, first)] ∧ IsRefusal base e first
          ∧ (verdict txid last.1 last.2).mapError (told txid !pre.isEmpty) = .error e)
      ↔ ¬ SaysAlreadyOfOther known first := by
  constructor
  · intro hrefused hother
    -- the word ends the run at the first endpoint, with a txid
    have hok : verdict txid base first = .ok (.str txid) := verdict_of_other txid hother
    obtain ⟨rfl, rfl⟩ := single_of_clear hpre hfirst (not_unclear_of_ok hok)
    obtain ⟨e, -, -, he⟩ := hrefused fun p hp => by
      rw [List.mem_singleton.mp hp]
      exact cleanlyRefused_of_other refuses base hother
    rw [hok] at he
    cases he
  · intro hother hall
    obtain ⟨e, hv, hrefusal, hdown⟩ :=
      verdict_of_refused txid (hall _ (List.mem_of_mem_head? hfirst)) hother
    obtain ⟨rfl, rfl⟩ := single_of_clear hpre hfirst (not_unclear hv hdown)
    exact ⟨e, rfl, hrefusal, by simp [hv, hdown, Except.mapError, told]⟩

end Parts

section Run

variable {candidates : List String} {raw : String} {bytes : Bytes} {w : World String S Bool}
  (hraw : fromHex raw = some bytes) (hpinned : w.pinned ∈ candidates)

include hraw hpinned

variable (serve sha256) in
/-- The run of `_broadcast_one`: an error is wrapped when anything was unclear. -/
theorem broadcastOne_run :
    ∃ pre last, sends serve raw (localTxid sha256 bytes) (ordered candidates w.pinned) w.servers
        = pre ++ [last]
      ∧ (∀ p ∈ pre, unclear (localTxid sha256 bytes) p.1 p.2 = true)
      ∧ outcome (broadcastOne serve sha256 candidates raw w)
        = (verdict (localTxid sha256 bytes) last.1 last.2).mapError
            (told (localTxid sha256 bytes) !pre.isEmpty) := by
  obtain ⟨rest, hrest⟩ := ordered_eq_cons hpinned
  obtain ⟨pre, last, hsends, hpre, hout, hflag⟩ := failOver_broadcast serve raw
    (localTxid sha256 bytes) w.pinned rest { w with shared := false }
  refine ⟨pre, last, hrest ▸ hsends, hpre, ?_⟩
  have hany : onAny candidates (broadcastOp serve raw (localTxid sha256 bytes))
      { w with shared := false } = failOver HttpError.isDown
        (broadcastOp serve raw (localTxid sha256 bytes)) w.pinned rest
        { w with shared := false } := by
    rw [onAny, if_pos hpinned]
    simp only [hrest]
  unfold broadcastOne
  rw [hraw]
  simp only [hany]
  cases hrun : failOver HttpError.isDown (broadcastOp serve raw (localTxid sha256 bytes))
      w.pinned rest { w with shared := false } with
  | ok sent t =>
      rw [hrun, outcome_ok] at hout
      rw [← hout]
      rfl
  | error e t =>
      rw [hrun, outcome_error] at hout
      rw [hrun, final_error, unclear, ← hout] at hflag
      rw [← hout]
      simp only [hflag, Bool.false_or, Except.mapError, told]
      split <;> rfl

/-- **What the user is told.**  A txid means that an endpoint took the transaction or knows
    it, unless the word "already" misleads; an error names it whenever one may have, unless
    the first endpoint took it silently; and a clean refusal is raised as it is, unless it
    has that word. -/
theorem broadcastOne_tells (known refuses : Answer → Prop) :
    let txid := localTxid sha256 bytes
    let asked := sends serve raw txid (ordered candidates w.pinned) w.servers
    let first := (serve w.pinned { sendRequest raw w.pinned with post := true }
      (w.servers w.pinned)).1
    let result := outcome (broadcastOne serve sha256 candidates raw w)
    ((∀ sent, result = .ok sent → ∃ p ∈ asked, Took known p.1 p.2)
      ↔ ¬ Misled known (replies serve raw (ordered candidates w.pinned) w.servers))
    ∧ ((∀ e, result = .error e → (∃ p ∈ asked, MayHaveTaken refuses p.2) →
        ∃ cause, e = .mayHaveRelayed cause txid
          ∧ ∀ shown str, isIn txid (errorText shown str e) = true)
      ↔ ¬ SilentlyTaken refuses w.pinned first)
    ∧ (((∀ p ∈ asked, CleanlyRefused known refuses p.1 p.2) →
        ∃ e, asked = [(w.pinned, first)] ∧ IsRefusal w.pinned e first ∧ result = .error e)
      ↔ ¬ SaysAlreadyOfOther known first) := by
  dsimp only
  obtain ⟨pre, last, hsends, hpre, hout⟩ :=
    broadcastOne_run serve sha256 hraw hpinned
  obtain ⟨rest, hrest⟩ := ordered_eq_cons hpinned
  have hfirst : (pre ++ [last]).head? = some (w.pinned,
      (serve w.pinned { sendRequest raw w.pinned with post := true }
        (w.servers w.pinned)).1) := by
    rw [← hsends, hrest, sends]
    rfl
  refine ⟨?_, ?_, ?_⟩
  · have hmisled := misled_iff serve known raw (localTxid sha256 bytes) w.pinned rest w.servers
    rw [← hrest, hsends, List.getLast?_concat] at hmisled
    rw [hmisled, hsends, hout]
    constructor
    · rintro htakes ⟨⟨_, sent, ⟨⟩, hok⟩, hnone⟩
      obtain ⟨p, hp, htook⟩ := htakes sent (told_ok_iff.mpr hok)
      exact hnone p hp htook
    · intro hnot sent hsent
      by_contra hnone
      push Not at hnone
      exact hnot ⟨⟨last, sent, rfl, told_ok_iff.mp hsent⟩, hnone⟩
  · rw [hsends, hout]
    have hspelled : ∀ e, (∃ cause, e = HttpError.mayHaveRelayed cause (localTxid sha256 bytes)
        ∧ ∀ shown str, isIn (localTxid sha256 bytes) (errorText shown str e) = true)
        ↔ ∃ cause, e = .mayHaveRelayed cause (localTxid sha256 bytes) := by
      refine fun e => exists_congr fun cause => and_iff_left_of_imp ?_
      rintro rfl shown str
      exact errorText_names shown str cause _
    simp only [hspelled]
    exact told_names_taken refuses hpre hfirst
  · rw [hsends, hout]
    exact told_refusal_iff known refuses hpre hfirst

end Run

end Broadcast

/-! ## A proxy that answers with a page -/

/-- The SHA-256 of one zero byte, and of that. -/
def zeroSha256 (data : Bytes) : Bytes :=
  let digest := if data = [0] then
      "6e340b9cffb37a989ca544e6bb780a2c78901d3fb33738768511a30617afa01d"
    else "1406e05881e299367766d313e26c05564ec91bf721d31726bd6e46e60689539a"
  (fromHex digest).getD []

/-- The Insight answers 200 with a page that is no JSON. -/
def pageServe (_ : String) (_ : Request) (s : Unit) : Reply × Unit :=
  (.answered { status := 200, text := "<html>", body := none }, s)

/-- The Insight answers 502, the Blockbook refuses. -/
def gatewayServe (base : String) (_ : Request) (s : Unit) : Reply × Unit :=
  if base = insightUrl then (.answered { status := 502, text := "", body := none }, s)
  else (.answered { status := 400, text := "bad-txns", body := none }, s)

def broadcastWorld : World String Unit Bool where
  servers := fun _ => ()
  pinned := insightUrl
  shared := false

/-- The Insight knows one of the coins to be spent. -/
def spentServe (_ : String) (_ : Request) (s : Unit) : Reply × Unit :=
  (.answered { status := 400, text := "Missing inputs: output already spent", body := none }, s)

/-- After a bad gateway the second endpoint's refusal is raised with the txid. -/
theorem broadcastOne_tells_gateway :
    let _ : PyCharacters := asciiCharacters
    ∀ e, outcome (broadcastOne gatewayServe zeroSha256 [insightUrl, blockbookUrl] "00" broadcastWorld)
        = .error e → (∃ p ∈ sends gatewayServe "00" (localTxid zeroSha256 [0])
          (ordered [insightUrl, blockbookUrl] insightUrl) broadcastWorld.servers,
          MayHaveTaken (fun _ => False) p.2) →
      ∃ cause, e = .mayHaveRelayed cause (localTxid zeroSha256 [0])
        ∧ ∀ shown str, isIn (localTxid zeroSha256 [0]) (errorText shown str e) = true := by
  let _ : PyCharacters := asciiCharacters
  intro _
  have hraw : fromHex "00" = some [0] := by decide
  have hpinned : broadcastWorld.pinned ∈ [insightUrl, blockbookUrl] := by decide
  have htells := @broadcastOne_tells _ _ gatewayServe zeroSha256 _ _ _ _ hraw hpinned
    (fun _ => False) fun _ => False
  refine htells.2.1.mpr ?_
  rintro ⟨hlt, -⟩
  exact absurd hlt (show ¬ 502 < 400 by decide)

/-- An endpoint that accepts with a page leaves an error without the txid, and one that
    knows a coin to be spent is taken to know the transaction. -/
theorem broadcastOne_misreads :
    let _ : PyCharacters := asciiCharacters
    (outcome (broadcastOne pageServe zeroSha256 [insightUrl, blockbookUrl] "00" broadcastWorld)
        = .error .notJson
      ∧ (∃ p ∈ sends pageServe "00" (localTxid zeroSha256 [0])
          (ordered [insightUrl, blockbookUrl] insightUrl) broadcastWorld.servers,
        MayHaveTaken (fun _ => False) p.2)
      ∧ ¬ ∃ cause, HttpError.notJson = .mayHaveRelayed cause (localTxid zeroSha256 [0]))
    ∧ outcome (broadcastOne spentServe zeroSha256 [insightUrl, blockbookUrl] "00" broadcastWorld)
        = .ok (.str (localTxid zeroSha256 [0]))
      ∧ ∀ p ∈ sends spentServe "00" (localTxid zeroSha256 [0])
          (ordered [insightUrl, blockbookUrl] insightUrl) broadcastWorld.servers,
        ¬ Took (fun _ => False) p.1 p.2 := by
  let _ : PyCharacters := asciiCharacters
  intro _
  have htaken : outcome (@broadcastOne asciiCharacters _ spentServe zeroSha256
      [insightUrl, blockbookUrl] "00" broadcastWorld) = .ok (.str (localTxid zeroSha256 [0])) := rfl
  have hasked : @sends asciiCharacters _ spentServe "00" (localTxid zeroSha256 [0])
      (ordered [insightUrl, blockbookUrl] insightUrl) broadcastWorld.servers
        = [(insightUrl, (spentServe insightUrl (sendRequest "00" insightUrl) ()).1)] := rfl
  refine ⟨⟨rfl, ⟨_, List.mem_cons_self, Or.inr ⟨show 200 < 400 by decide, not_false⟩⟩, ?_⟩,
    htaken, fun p hp => ?_⟩
  · rintro ⟨cause, h⟩
    cases h
  · rw [hasked, List.mem_singleton] at hp
    rw [hp]
    rintro (⟨-, h⟩ | ⟨h, -⟩)
    · exact h
    · exact absurd h (show ¬ 400 < 400 by decide)

end SwapsackDashBroadcast
