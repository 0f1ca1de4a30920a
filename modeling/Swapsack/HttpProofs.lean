import Swapsack.FailoverProofs
import Swapsack.RetryAfterProofs

/-! # The HTTP client under the chain adapters

    A read is retried on a transport failure and on a throttle, lap after lap;
    a write is sent once.  Waiting between laps is left out, so a conversation
    with a server is the requests it gets and the replies they draw; what a
    throttle says about the wait is read all the same, for what that raises.

    * `attempt_down` — how the laps over a server that is down end, by what
      they drew;
    * `json_healthy`, `json_down` — a server that is well raises nothing that
      counts as down, and one that is down nothing else, unless a throttle's
      header overflows: a throttle exactly when the laps ended in one. -/

namespace SwapsackHttp

open Failover ListKit PyText PyJson EmailDate
open SwapsackNet (throttleStatuses retryAfter retryAfter_cases)

/-! ## Requests, replies and errors -/

/-- A request below an endpoint's base URL. -/
structure Request where
  post : Bool := false
  path : String
  params : List (String × Json) := []
  data : Option String := none
  json : List (String × String) := []

/-- An HTTP answer: its status, its text and the JSON that is, if it is any, and how long
    a throttle asks to wait. -/
structure Answer where
  status : ℕ
  text : String
  body : Option Json
  retryAfter : Option String := none

/-- What is read of a throttle. -/
def Answer.response (a : Answer) : SwapsackNet.Response where
  status := a.status
  retryAfter := a.retryAfter

/-- What comes back: nothing (a transport failure) or an answer. -/
inductive Reply where
  | failed
  | answered (a : Answer)

/-- The exceptions that can leave a conversation with an endpoint; those of a body that is
    read are told from those of a header. -/
inductive HttpError where
  | hostUnreachable (host : String)
  | rateLimited (host : String) (status : ℕ)
  | endpointDown (host : String) (status : ℕ)
  | transient
  | httpStatus (status : ℕ)
  | notJson
  | python (e : PyExc)
  | header (e : PyExc)
  | refused (host : String) (body : Json)
  | mayHaveRelayed (cause : HttpError) (txid : String)

/-- `isinstance(exc, (HostUnreachable, *TRANSIENT_ERRORS))`. -/
def HttpError.isDown : HttpError → Bool
  | hostUnreachable _ | rateLimited .. | endpointDown .. | transient => true
  | _ => false

def HttpError.isRateLimited : HttpError → Bool
  | rateLimited .. => true
  | _ => false

def defaultRetries : ℕ := 2

/-- `urlsplit(url).netloc`. -/
def netloc (url : String) : String :=
  let rest := url.toList.dropWhile (· != ':')
  match rest with
  | ':' :: '/' :: '/' :: host =>
      String.ofList (host.takeWhile fun c => c != '/' && c != '?' && c != '#')
  | _ => ""

/-! ## Conversations -/

section Client

variable [PyCharacters] {S C : Type} (serve : String → Request → S → Reply × S)

omit [PyCharacters] in
/-- One request to `base`, and the reply. -/
def send (base : String) (req : Request) : EStateM HttpError (S × C) Reply := fun s =>
  .ok (serve base req s.1).1 ((serve base req s.1).2, s.2)

/-- The wait that a throttle asks for is read.  Whether that raises does not depend on the
    time of day, which is left out with the wait. -/
def readPause (a : Answer) : EStateM HttpError (S × C) Unit :=
  match retryAfter a.response 0 with
  | .ok _ => pure ()
  | .error e => throw (.header e)

/-- The laps over one URL: a transport failure and a throttle go round again,
    any other answer is returned.  A throttle outranks a transport failure when
    the laps are used up. -/
def attempt (base : String) (req : Request) :
    ℕ → Option ℕ → EStateM HttpError (S × C) Answer
  | 0, some status => throw (.rateLimited (netloc base) status)
  | 0, none => throw (.hostUnreachable (netloc base))
  | laps + 1, throttled => do
      match ← send serve base req with
      | .failed => attempt base req laps throttled
      | .answered a =>
          if a.status ∈ throttleStatuses then do
            readPause a
            attempt base req laps (some a.status)
          else pure a

/-- `_get`. -/
def get (base : String) (req : Request) : EStateM HttpError (S × C) Answer :=
  attempt serve base req (defaultRetries + 1) none

omit [PyCharacters] in
/-- `_post`: sent once, and a transport failure is raised as it is. -/
def post (base : String) (req : Request) : EStateM HttpError (S × C) Answer := do
  match ← send serve base { req with post := true } with
  | .failed => throw .transient
  | .answered a => pure a

omit [PyCharacters] in
/-- `_checked`: a 5xx is a server that is down, any other error status is an
    answer, and raised. -/
def checked (a : Answer) (base : String) : EStateM HttpError (S × C) Answer :=
  if 500 ≤ a.status then throw (.endpointDown (netloc base) a.status)
  else if 400 ≤ a.status then throw (.httpStatus a.status)
  else pure a

omit [PyCharacters] in
/-- `resp.json()`. -/
def bodyOf (a : Answer) : EStateM HttpError (S × C) Json :=
  match a.body with
  | some body => pure body
  | none => throw .notJson

omit [PyCharacters] in
/-- What reading a value raises, raised in a computation. -/
def reading {σ α : Type} (x : Except PyExc α) : EStateM HttpError σ α :=
  match x with
  | .ok a => pure a
  | .error e => throw (.python e)

/-- `_json`. -/
def json (base : String) (req : Request) : EStateM HttpError (S × C) Json := do
  let a ← get serve base req
  let a ← checked a base
  bodyOf a

/-! ## Servers that are well, and servers that are down -/

omit [PyCharacters] in
/-- An answer that is neither a 5xx nor a throttle. -/
def Reply.Healthy : Reply → Prop
  | .failed => False
  | .answered a => a.status < 500 ∧ a.status ∉ throttleStatuses

omit [PyCharacters] in
/-- A transport failure or a 5xx. -/
def Reply.Down : Reply → Prop
  | .failed => True
  | .answered a => 500 ≤ a.status

omit [PyCharacters] in
/-- A reply that sends a read round again. -/
def Reply.Retried : Reply → Prop
  | .failed => True
  | .answered a => a.status ∈ throttleStatuses

omit [PyCharacters] in
/-- A throttle. -/
def Reply.Throttle : Reply → Prop
  | .failed => False
  | .answered a => a.status ∈ throttleStatuses

variable {serve}

omit [PyCharacters] in
/-- An error that a server that is well never draws: it is not down, and is no throttle
    with a header to read. -/
def NotDown (e : HttpError) : Prop := e.isDown = false ∧ ∀ x, e ≠ .header x

omit [PyCharacters] in
theorem notDown_python (e : PyExc) : NotDown (.python e) := ⟨rfl, fun _ h => (by cases h)⟩

variable {base : String}

/-- A healthy server answers the first lap. -/
theorem get_healthy (hs : ∀ req s, (serve base req s).1.Healthy) (req : Request) (s : S × C) :
    ∃ a, a.status < 500 ∧ get serve base req s = .ok a ((serve base req s.1).2, s.2) := by
  have h := hs req s.1
  rw [get, attempt, bind_run, send]
  cases hr : (serve base req s.1).1 with
  | failed =>
      rw [hr] at h
      exact absurd h id
  | answered a =>
      rw [hr] at h
      exact ⟨a, h.1, by simp only [if_neg h.2]; rfl⟩

/-- An answer below 400 with a body is that body. -/
theorem json_answered {req : Request} {s : S × C} {a : Answer} {body : Json}
    (h : (serve base req s.1).1 = .answered a) (hstatus : a.status < 400)
    (hbody : a.body = some body) :
    json serve base req s = .ok body ((serve base req s.1).2, s.2) := by
  have hnot : a.status ∉ throttleStatuses := by
    simp only [throttleStatuses, List.mem_cons, List.not_mem_nil, or_false, not_or]
    omega
  have hget : get serve base req s = .ok a ((serve base req s.1).2, s.2) := by
    rw [get, attempt, bind_run, send, h]
    simp only [if_neg hnot, pure_run]
  have h500 : ¬ 500 ≤ a.status := by omega
  have h400 : ¬ 400 ≤ a.status := by omega
  simp only [json, bind_run, hget, checked, if_neg h500, if_neg h400, pure_run, bodyOf, hbody]

omit [PyCharacters] in
theorem reading_run {σ α : Type} (x : Except PyExc α) (s : σ) :
    (reading x : EStateM HttpError σ α) s = match x with
      | .ok a => .ok a s
      | .error e => .error (.python e) s := by
  unfold reading
  cases x <;> rfl

omit [PyCharacters] in
theorem raises_reading {σ α : Type} (x : Except PyExc α) :
    Raises NotDown (reading x : EStateM HttpError σ α) := by
  unfold reading
  split
  · exact raises_pure _
  · exact raises_throw (notDown_python _)

omit [PyCharacters] in
theorem raises_bodyOf (a : Answer) :
    Raises NotDown (bodyOf a : EStateM HttpError (S × C) Json) := by
  unfold bodyOf
  split
  · exact raises_pure _
  · exact raises_throw ⟨rfl, fun x h => (by cases h)⟩

/-- **A server that is well** raises nothing that counts as down. -/
theorem json_healthy (hs : ∀ req s, (serve base req s).1.Healthy) (req : Request) :
    Raises NotDown (json serve base req : EStateM HttpError (S × C) Json) := by
  intro s e h
  obtain ⟨a, hlt, hget⟩ := get_healthy hs req s
  rw [json, bind_run, hget] at h
  have hrest : Raises NotDown
      (do let b ← checked a base; bodyOf b : EStateM HttpError (S × C) Json) := by
    refine Raises.bind ?_ raises_bodyOf
    rw [checked, if_neg (by omega)]
    split
    · exact raises_throw ⟨rfl, fun x h => (by cases h)⟩
    · exact raises_pure _
  exact hrest _ e h

omit [PyCharacters] in
variable (serve base) in
/-- What `n` laps over a server draw, were they all made. -/
def lapReplies (req : Request) : ℕ → S → List Reply
  | 0, _ => []
  | n + 1, s => (serve base req s).1 :: lapReplies req n (serve base req s).2

omit [PyCharacters] in
/-- Laps that end in a throttle: none returned, and one was throttled. -/
def ThrottledOut (replies : List Reply) : Prop :=
  (∀ r ∈ replies, r.Retried) ∧ ∃ r ∈ replies, r.Throttle

/-- Laps that reach a throttle whose header overflows before any returned. -/
def HeaderRaises : List Reply → Prop
  | [] => False
  | .failed :: replies => HeaderRaises replies
  | .answered a :: replies =>
      a.status ∈ throttleStatuses ∧ (a.response.Overflows ∨ HeaderRaises replies)

theorem readPause_run (a : Answer) (s : S × C) :
    ¬ a.response.Overflows ∧ readPause a s = .ok () s
      ∨ a.response.Overflows ∧ readPause a s = .error (.header .overflowError) s := by
  rw [readPause]
  rcases retryAfter_cases a.response 0 with ⟨hfine, pause, hpause, -⟩ | ⟨hover, herror⟩
  · rw [hpause]
    exact Or.inl ⟨hfine, rfl⟩
  · rw [herror]
    exact Or.inr ⟨hover, rfl⟩

/-- **The laps over a server that is down** return a 5xx when one is drawn, raise when a
    throttle's header does, and else are used up: a throttle when they saw one. -/
theorem attempt_down (hs : ∀ req s, (serve base req s).1.Down) (req : Request) (n : ℕ)
    (throttled : Option ℕ) (s : S) (c : C) :
    (∃ a t, attempt serve base req n throttled (s, c) = .ok a (t, c) ∧ 500 ≤ a.status
      ∧ (¬ ∀ r ∈ lapReplies serve base req n s, r.Retried)
      ∧ ¬ HeaderRaises (lapReplies serve base req n s))
    ∨ (HeaderRaises (lapReplies serve base req n s)
      ∧ ∃ t, attempt serve base req n throttled (s, c) = .error (.header .overflowError) (t, c))
    ∨ ∃ e t, attempt serve base req n throttled (s, c) = .error e (t, c) ∧ e.isDown = true
      ∧ (∀ r ∈ lapReplies serve base req n s, r.Retried)
      ∧ ¬ HeaderRaises (lapReplies serve base req n s)
      ∧ (e.isRateLimited = true ↔
        throttled.isSome ∨ ∃ r ∈ lapReplies serve base req n s, r.Throttle) := by
  induction n generalizing throttled s with
  | zero =>
      refine Or.inr (Or.inr ?_)
      cases throttled with
      | none =>
          refine ⟨_, _, rfl, rfl, fun r hr => (nomatch hr), id, ?_⟩
          simp [HttpError.isRateLimited, lapReplies]
      | some status =>
          refine ⟨_, _, rfl, rfl, fun r hr => (nomatch hr), id, ?_⟩
          simp [HttpError.isRateLimited]
  | succ n ih =>
      have hdown := hs req s
      rw [attempt, bind_run, send, lapReplies]
      cases hr : (serve base req s).1 with
      | failed =>
          rcases ih throttled (serve base req s).2 with
            ⟨a, t, hrun, hle, hnot, hheader⟩ | ⟨hheader, t, hrun⟩
            | ⟨e, t, hrun, he, hall, hheader, hiff⟩
          · refine Or.inl ⟨a, t, hrun, hle, fun hall => hnot fun r hr => ?_, hheader⟩
            exact hall r (List.mem_cons_of_mem _ hr)
          · exact Or.inr (Or.inl ⟨hheader, t, hrun⟩)
          · refine Or.inr (Or.inr ⟨e, t, hrun, he, ?_, hheader, ?_⟩)
            · exact List.forall_mem_cons.mpr ⟨trivial, hall⟩
            · rw [hiff, List.exists_mem_cons_iff]
              simp [Reply.Throttle]
      | answered a =>
          rw [hr] at hdown
          by_cases hthrottle : a.status ∈ throttleStatuses
          · simp only [if_pos hthrottle]
            rw [bind_run]
            rcases readPause_run a ((serve base req s).2, c) with ⟨hfine, hpause⟩ | ⟨hover, hpause⟩
            · rw [hpause]
              rcases ih (some a.status) (serve base req s).2 with
                ⟨b, t, hrun, hle, hnot, hheader⟩ | ⟨hheader, t, hrun⟩
                | ⟨e, t, hrun, he, hall, hheader, hiff⟩
              · refine Or.inl ⟨b, t, hrun, hle, fun hall => hnot fun r hr => ?_, ?_⟩
                · exact hall r (List.mem_cons_of_mem _ hr)
                · exact fun h => h.2.elim hfine hheader
              · exact Or.inr (Or.inl ⟨⟨hthrottle, Or.inr hheader⟩, t, hrun⟩)
              · refine Or.inr (Or.inr ⟨e, t, hrun, he, ?_, ?_, ?_⟩)
                · exact List.forall_mem_cons.mpr ⟨hthrottle, hall⟩
                · exact fun h => h.2.elim hfine hheader
                · rw [hiff, List.exists_mem_cons_iff]
                  simp [Reply.Throttle, hthrottle]
            · rw [hpause]
              exact Or.inr (Or.inl ⟨⟨hthrottle, Or.inl hover⟩, _, rfl⟩)
          · simp only [if_neg hthrottle]
            refine Or.inl ⟨a, _, rfl, hdown, fun hall => ?_, fun h => hthrottle h.1⟩
            exact hthrottle (hall _ List.mem_cons_self)

/-- **A server that is down** raises a failure that counts as down, a throttle exactly when
    the laps ended in one; or the failure to read a throttle's header. -/
theorem json_down (hs : ∀ req s, (serve base req s).1.Down) (req : Request) (s : S) (c : C) :
    (HeaderRaises (lapReplies serve base req (defaultRetries + 1) s)
      ∧ ∃ t, json serve base req (s, c) = .error (.header .overflowError) (t, c))
    ∨ (¬ HeaderRaises (lapReplies serve base req (defaultRetries + 1) s)
      ∧ ∃ e t, json serve base req (s, c) = .error e (t, c) ∧ e.isDown = true
        ∧ (e.isRateLimited = true ↔
          ThrottledOut (lapReplies serve base req (defaultRetries + 1) s))) := by
  rw [json, bind_run, get]
  rcases attempt_down hs req (defaultRetries + 1) none s c with
    ⟨a, t, hrun, hle, hnot, hheader⟩ | ⟨hheader, t, hrun⟩ | ⟨e, t, hrun, he, hall, hheader, hiff⟩
  · rw [hrun]
    refine Or.inr ⟨hheader, .endpointDown (netloc base) a.status, t, ?_, rfl, ?_⟩
    · simp only [bind_run, checked, if_pos hle]
      rfl
    · simp only [HttpError.isRateLimited, Bool.false_eq_true, false_iff]
      exact fun h => hnot h.1
  · rw [hrun]
    exact Or.inl ⟨hheader, t, rfl⟩
  · rw [hrun]
    refine Or.inr ⟨hheader, e, t, rfl, he, ?_⟩
    rw [hiff]
    simp only [Option.isSome_none, Bool.false_eq_true, false_or, ThrottledOut]
    exact ⟨fun h => ⟨hall, h⟩, fun h => h.2⟩

end Client

end SwapsackHttp
