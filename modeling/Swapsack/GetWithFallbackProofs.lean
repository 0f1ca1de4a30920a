import Swapsack.HttpProofs

/-! # Trying endpoints in turn

    A read goes to the pinned endpoint first and to the others after it, lap by lap.
    Between laps there is a wait, and the endpoint that answers is pinned.

    One lap is a loop over the endpoints inside the loop over the laps, and any turn of
    either can end both.  `tryUrls_cases` and `tryLaps_cases` say how, and where:

    * `getWithFallback_right_iff` — a read ends as it should, unless a header
      overflows or a wait is beyond the clock. -/

namespace SwapsackNet

open BinaryFloat PyText PyJson EmailDate Failover
open SwapsackHttp (netloc)

/-! ## The network -/

/-- What one request draws. -/
inductive Reply where
  | failed (cause : Failure)
  | answered (resp : Response)
deriving DecidableEq

/-- What the requests draw, one after the other, and when, in microseconds since 1970:
    anything whatsoever. -/
structure Network where
  reply : ℕ → Reply
  now : ℕ → ℤ

/-- A request, or a pause in seconds. -/
inductive Event where
  | asked (url : String)
  | slept (seconds : ℚ)
deriving DecidableEq

/-! ## The client -/

structure HttpClient where
  retries : ℕ := 2
  backoff : ℚ := 1
  backoff_nonneg : 0 ≤ backoff := by decide
  -- as it is printed
  readTimeout : String := "20"
  hint : Option String := none

/-- Interchangeable endpoints, one of which is pinned. -/
structure FailoverHttpClient extends HttpClient where
  candidates : List String
  nonempty : candidates ≠ []
  baseUrl : String

/-- The exceptions of a read. -/
inductive GetError where
  | hostUnreachable (text : String)
  | rateLimited (text : String)
  | python (e : PyExc)
deriving DecidableEq

/-- What the loops share: the requests made, what was said of them, the last failure
    and the last throttle. -/
structure Try where
  asked : ℕ := 0
  log : List Event := []
  notes : List String := []
  last : Option Failure := none
  lastThrottle : Option Response := none

/-- How the endpoints of one lap end: with an answer and the index of its endpoint, in
    an exception, or with the wait they have earned. -/
inductive LapEnd where
  | answered (resp : Response) (index : ℕ)
  | raised (e : PyExc)
  | exhausted (wait : Double)

/-- Nanoseconds of a sleep are a C integer of 64 bits. -/
def sleepLimit : ℚ := 2 ^ 63 / 10 ^ 9

/-- `time.sleep`. -/
def sleep : Double → Except PyExc ℚ
  | .finite seconds => if seconds < sleepLimit then .ok seconds else .error .overflowError
  | .infinity _ => .error .overflowError
  | .nan => .error .valueError

/-- `backoff * 2**lap`: doubling is exact, but a power of two is made a float first. -/
def lapBackoff (c : HttpClient) (lap : ℕ) : Except PyExc Double :=
  if lap < 1024 then .ok (.finite (c.backoff * 2 ^ lap)) else .error .overflowError

/-- What failed and what is tried instead: a host, never a path. -/
def report (c : HttpClient) (hosts : List String) (index lap : ℕ) (why : String) : String :=
  let following := (hosts.drop (index + 1) ++ hosts.take 1).headD ""
  let host := hosts.getD index ""
  s!"note: {host} {why} (attempt {lap + 1}/{c.retries + 1}), trying {following}"

section Attempt

variable [PyCharacters] (net : Network) (c : HttpClient) (hosts urls : List String)

/-- The endpoints of one lap from `index` on. -/
def tryUrls (lap : ℕ) : ℕ → List String → Double → Try → LapEnd × Try
  | _, [], wait, s => (.exhausted wait, s)
  | index, url :: rest, wait, s =>
      let n := s.asked
      let s := { s with asked := n + 1, log := s.log ++ [.asked url] }
      match net.reply n with
      | .failed cause =>
          tryUrls lap (index + 1) rest wait
            { s with last := some cause
                     notes := s.notes ++ [report c hosts index lap cause.name] }
      | .answered resp =>
          if resp.throttles then
            let s := { s with lastThrottle := some resp }
            match retryAfter resp (net.now n) with
            | .error e => (.raised e, s)
            | .ok pause =>
                tryUrls lap (index + 1) rest (pyMax wait pause)
                  { s with notes := s.notes
                      ++ [report c hosts index lap s!"HTTP {resp.status}"] }
          else (.answered resp index, s)

/-- A throttle outranks a failure when both happened. -/
def giveUp (s : Try) : GetError :=
  let attempts := (c.retries + 1) * urls.length
  match s.lastThrottle with
  | some resp =>
      .rateLimited (describeThrottle hosts resp.status attempts c.hint (refusedBy resp))
  | none =>
      .hostUnreachable
        (describe hosts (s.last.getD (.other "")) attempts c.readTimeout c.hint)

/-- The laps that are left, from one on. -/
def tryLaps : ℕ → ℕ → Try → Except GetError (Response × ℕ) × Try
  | 0, _, s => (.error (giveUp c hosts urls s), s)
  | left + 1, lap, s =>
      match lapBackoff c lap with
      | .error e => (.error (.python e), s)
      | .ok wait =>
          match tryUrls net c hosts lap 0 urls wait s with
          | (.answered resp index, s) => (.ok (resp, index), s)
          | (.raised e, s) => (.error (.python e), s)
          | (.exhausted wait, s) =>
              if lap < c.retries then
                match sleep wait with
                | .error e => (.error (.python e), s)
                | .ok seconds =>
                    tryLaps left (lap + 1) { s with log := s.log ++ [.slept seconds] }
              else tryLaps left (lap + 1) s

/-- The equivalent URLs in turn until one answers; the response, and the index of the
    URL that produced it. -/
def attempt : Except GetError (Response × ℕ) × Try :=
  tryLaps net c (urls.map netloc) urls (c.retries + 1) 0 {}

end Attempt

/-- A read that is over: what it returned or raised, the client after it, and what it
    has done. -/
structure Read where
  result : Except GetError Response
  client : FailoverHttpClient
  trace : Try

section Fallback

variable [PyCharacters] (net : Network) (c : FailoverHttpClient) (suffix : String)

omit [PyCharacters] in
/-- The endpoints from the pinned one on. -/
def FailoverHttpClient.order : List String := ordered c.candidates c.baseUrl

omit [PyCharacters] in
def FailoverHttpClient.urls : List String := c.order.map fun base => s!"{base}/{suffix}"

/-- `_get_with_fallback`. -/
def getWithFallback : Read :=
  match attempt net c.toHttpClient (c.urls suffix) with
  | (.ok (resp, index), s) =>
      { result := .ok resp, client := { c with baseUrl := c.order.getD index "" }, trace := s }
  | (.error e, s) => { result := .error e, client := c, trace := s }

/-! ## A read that ends as it should -/

omit [PyCharacters] in
/-- Any answer but a throttle. -/
def Reply.Answers (r : Reply) : Prop := ∃ resp, r = .answered resp ∧ resp.throttles = false

omit [PyCharacters] in
def Reply.Throttles (r : Reply) : Prop := ∃ resp, r = .answered resp ∧ resp.throttles = true

/-- A throttle whose header overflows. -/
def Reply.Overflows (r : Reply) : Prop :=
  ∃ resp, r = .answered resp ∧ resp.throttles = true ∧ resp.Overflows

omit [PyCharacters] in
/-- Whole laps with a pause after each, and the first requests of another lap. -/
def paced (urls : List String) : List ℚ → ℕ → List Event
  | [], index => (urls.take index).map .asked
  | wait :: waits, index => urls.map .asked ++ .slept wait :: paced urls waits index

omit [PyCharacters] in
/-- The pause after each lap is at least the backoff, and no header makes it more than
    half a minute. -/
def Waits (c : HttpClient) (waits : List ℚ) : Prop :=
  ∀ lap wait, waits[lap]? = some wait →
    c.backoff * 2 ^ lap ≤ wait ∧ wait ≤ max (c.backoff * 2 ^ lap) maxRetryAfter

omit [PyCharacters] in
def FailoverHttpClient.size : ℕ := c.candidates.length

omit [PyCharacters] in
/-- The first answer is returned and its endpoint pinned; where there is none, the read
    fails after the last lap, by the kind of what it drew, and the pin stays. -/
def Right (run : Read) : Prop :=
  (∃ lap index resp waits, lap ≤ c.retries ∧ index < c.size
    ∧ (∀ k < lap * c.size + index, ¬ (net.reply k).Answers)
    ∧ net.reply (lap * c.size + index) = .answered resp ∧ resp.throttles = false
    ∧ run.result = .ok resp
    ∧ run.client = { c with baseUrl := c.order.getD index "" }
    ∧ waits.length = lap ∧ Waits c.toHttpClient waits
    ∧ run.trace.log = paced (c.urls suffix) waits (index + 1))
  ∨ ((∀ k < (c.retries + 1) * c.size, ¬ (net.reply k).Answers)
    ∧ ((∃ k < (c.retries + 1) * c.size, (net.reply k).Throttles) →
      ∃ text, run.result = .error (.rateLimited text))
    ∧ ((∀ k < (c.retries + 1) * c.size, ¬ (net.reply k).Throttles) →
      ∃ text, run.result = .error (.hostUnreachable text))
    ∧ run.client = c
    ∧ ∃ waits, waits.length = c.retries ∧ Waits c.toHttpClient waits
      ∧ run.trace.log = paced (c.urls suffix) waits c.size)

omit [PyCharacters] in
/-- A lap can start: its number is within the powers of two that floats have, and the
    wait before it within the clock. -/
def Starts (c : HttpClient) (lap : ℕ) : Prop :=
  lap < 1024 ∧ (lap = 0 ∨ c.backoff * 2 ^ (lap - 1) < sleepLimit)

/-- No request that is made draws a header that overflows, and every lap that is
    reached can start. -/
structure Clear : Prop where
  headers : ∀ i < (c.retries + 1) * c.size,
    (∀ k < i, ¬ (net.reply k).Answers) → ¬ (net.reply i).Overflows
  laps : ∀ lap ≤ c.retries,
    (∀ k < lap * c.size, ¬ (net.reply k).Answers) → Starts c.toHttpClient lap

end Fallback

/-! ## One lap -/

section Lap

variable [PyCharacters] {net : Network} {c : HttpClient} {hosts : List String}

/-- Requests that neither end a read nor raise. -/
def Passes (net : Network) (a b : ℕ) : Prop :=
  ∀ k, a ≤ k → k < b → ¬ (net.reply k).Answers ∧ ¬ (net.reply k).Overflows

omit [PyCharacters] in
/-- A throttle has been seen, before or among the requests. -/
def Seen (net : Network) (before : Prop) (a b : ℕ) : Prop :=
  before ∨ ∃ k, a ≤ k ∧ k < b ∧ (net.reply k).Throttles

/-- How the endpoints of a lap end, from the state they start in. -/
inductive LapRun (net : Network) (index : ℕ) (rest : List String) (wait : ℚ) (s : Try) :
    LapEnd × Try → Prop
  | exhausted (longer : ℚ) (s' : Try) (hwait : wait ≤ longer ∧ longer ≤ max wait maxRetryAfter)
      (hasked : s'.asked = s.asked + rest.length) (hlog : s'.log = s.log ++ rest.map .asked)
      (hpass : Passes net s.asked (s.asked + rest.length))
      (hseen : s'.lastThrottle.isSome = true
        ↔ Seen net (s.lastThrottle.isSome = true) s.asked (s.asked + rest.length)) :
      LapRun net index rest wait s (.exhausted (.finite longer), s')
  | answered (j : ℕ) (resp : Response) (s' : Try) (hj : j < rest.length)
      (hpass : Passes net s.asked (s.asked + j))
      (hreply : net.reply (s.asked + j) = .answered resp) (hanswer : resp.throttles = false)
      (hlog : s'.log = s.log ++ (rest.take (j + 1)).map .asked) :
      LapRun net index rest wait s (.answered resp (index + j), s')
  | raised (j : ℕ) (s' : Try) (hj : j < rest.length)
      (hpass : Passes net s.asked (s.asked + j)) (hover : (net.reply (s.asked + j)).Overflows) :
      LapRun net index rest wait s (.raised .overflowError, s')

theorem Passes.refl (net : Network) (a : ℕ) : Passes net a a := by
  intro k hle hlt
  omega

theorem Passes.cons {a b : ℕ} (hanswers : ¬ (net.reply a).Answers)
    (hover : ¬ (net.reply a).Overflows) (h : Passes net (a + 1) b) : Passes net a b := by
  intro k hle hlt
  rcases Nat.eq_or_lt_of_le hle with rfl | hnext
  · exact ⟨hanswers, hover⟩
  · exact h k hnext hlt

omit [PyCharacters] in
theorem seen_cons {before after : Prop} {a b : ℕ} (hab : a < b)
    (h : after ↔ before ∨ (net.reply a).Throttles) :
    Seen net after (a + 1) b ↔ Seen net before a b := by
  rw [Seen, Seen, h]
  constructor
  · rintro ((hbefore | hthis) | ⟨k, hle, hlt, hk⟩)
    · exact Or.inl hbefore
    · exact Or.inr ⟨a, le_rfl, hab, hthis⟩
    · exact Or.inr ⟨k, by omega, hlt, hk⟩
  · rintro (hbefore | ⟨k, hle, hlt, hk⟩)
    · exact Or.inl (Or.inl hbefore)
    · rcases Nat.eq_or_lt_of_le hle with rfl | hnext
      · exact Or.inl (Or.inr hk)
      · exact Or.inr ⟨k, hnext, hlt, hk⟩

/-- **A request that passes** leaves it to the endpoints after it. -/
theorem LapRun.cons {index : ℕ} {url : String} {rest : List String} {wait wait' : ℚ}
    {s s' : Try} {result : LapEnd × Try} (hwait : wait ≤ wait' ∧ wait' ≤ max wait maxRetryAfter)
    (hasked : s'.asked = s.asked + 1) (hlog : s'.log = s.log ++ [.asked url])
    (hanswers : ¬ (net.reply s.asked).Answers) (hover : ¬ (net.reply s.asked).Overflows)
    (hseen : s'.lastThrottle.isSome = true
      ↔ s.lastThrottle.isSome = true ∨ (net.reply s.asked).Throttles)
    (h : LapRun net (index + 1) rest wait' s' result) :
    LapRun net index (url :: rest) wait s result := by
  cases h with
  | exhausted longer t hlonger hcount hevents hpass hthrottle =>
      rw [hasked] at hcount hpass hthrottle
      have hend : s.asked + 1 + rest.length = s.asked + (url :: rest).length := by
        rw [List.length_cons]
        omega
      rw [hend] at hcount hpass hthrottle
      refine .exhausted longer t ⟨hwait.1.trans hlonger.1, ?_⟩ hcount ?_
        (hpass.cons hanswers hover) ?_
      · refine hlonger.2.trans (max_le hwait.2 (le_max_right _ _))
      · rw [hevents, hlog, List.append_assoc]
        rfl
      · rw [hthrottle]
        exact seen_cons (by rw [List.length_cons]; omega) hseen
  | answered j resp t hj hpass hreply hanswer hevents =>
      rw [hasked] at hpass hreply
      have hnext : s.asked + 1 + j = s.asked + (j + 1) := by omega
      rw [hnext] at hpass hreply
      have hindex : index + 1 + j = index + (j + 1) := by omega
      rw [hindex]
      refine .answered (j + 1) resp t (Nat.succ_lt_succ hj) (hpass.cons hanswers hover) hreply
        hanswer ?_
      rw [hevents, hlog, List.append_assoc]
      rfl
  | raised j t hj hpass hbad =>
      rw [hasked] at hpass hbad
      have hnext : s.asked + 1 + j = s.asked + (j + 1) := by omega
      rw [hnext] at hpass hbad
      exact .raised (j + 1) t (Nat.succ_lt_succ hj) (hpass.cons hanswers hover) hbad

/-- **How a lap ends.** -/
theorem tryUrls_cases (lap index : ℕ) (rest : List String) (wait : ℚ) (s : Try) :
    LapRun net index rest wait s (tryUrls net c hosts lap index rest (.finite wait) s) := by
  induction rest generalizing index wait s with
  | nil =>
      refine .exhausted wait s ⟨le_rfl, le_max_left _ _⟩ rfl (List.append_nil _).symm
        (Passes.refl net _) ?_
      rw [Seen]
      refine (or_iff_left ?_).symm
      rintro ⟨k, hle, hlt, -⟩
      rw [List.length_nil] at hlt
      omega
  | cons url rest ih =>
      rw [tryUrls]
      cases hreply : net.reply s.asked with
      | failed cause =>
          refine LapRun.cons ⟨le_rfl, le_max_left _ _⟩ rfl rfl ?_ ?_ ?_ (ih _ _ _)
          · rintro ⟨resp, hresp, -⟩
            cases hreply.symm.trans hresp
          · rintro ⟨resp, hresp, -⟩
            cases hreply.symm.trans hresp
          · refine (or_iff_left ?_).symm
            rintro ⟨resp, hresp, -⟩
            cases hreply.symm.trans hresp
      | answered resp =>
          dsimp only
          by_cases hthrottles : resp.throttles = true
          · rw [if_pos hthrottles]
            rcases retryAfter_cases resp (net.now s.asked) with ⟨hfine, pause, hpause, hrange⟩ |
              ⟨hover, herror⟩
            · rw [hpause]
              obtain ⟨longer, hlonger, hbounds⟩ := pyMax_pause wait hrange
              dsimp only
              rw [hlonger]
              refine LapRun.cons hbounds rfl rfl ?_ ?_ ?_ (ih _ _ _)
              · rintro ⟨found, hfound, hnot⟩
                cases hreply.symm.trans hfound
                rw [hthrottles] at hnot
                cases hnot
              · rintro ⟨found, hfound, -, hover⟩
                cases hreply.symm.trans hfound
                exact hfine hover
              · exact iff_of_true rfl (Or.inr ⟨resp, hreply, hthrottles⟩)
            · rw [herror]
              exact .raised 0 _ (Nat.succ_pos _) (Passes.refl net _)
                ⟨resp, hreply, hthrottles, hover⟩
          · rw [if_neg hthrottles]
            exact .answered 0 resp _ (Nat.succ_pos _) (Passes.refl net _) hreply
              (eq_false_of_ne_true hthrottles) rfl

end Lap

/-! ## The schedule -/

/-- The first requests of a lap, after whole laps. -/
theorem paced_zero_append (urls : List String) (waits : List ℚ) (index : ℕ) :
    paced urls waits 0 ++ (urls.take index).map .asked = paced urls waits index := by
  induction waits with
  | nil => rfl
  | cons wait waits ih => rw [paced, paced, List.append_assoc, List.cons_append, ih]

theorem paced_all (urls : List String) (waits : List ℚ) :
    paced urls waits 0 ++ urls.map .asked = paced urls waits urls.length := by
  have hall := paced_zero_append urls waits urls.length
  rw [List.take_length] at hall
  exact hall

/-- One more lap, and the pause after it. -/
theorem paced_lap (urls : List String) (waits : List ℚ) (wait : ℚ) :
    paced urls waits 0 ++ urls.map .asked ++ [.slept wait] = paced urls (waits ++ [wait]) 0 := by
  induction waits with
  | nil => rfl
  | cons first waits ih =>
      rw [paced, List.cons_append, paced, ← ih, List.append_assoc, List.append_assoc,
        List.append_assoc, List.cons_append]

theorem waits_nil (c : HttpClient) : Waits c [] := by
  intro lap wait h
  cases h

theorem Waits.snoc {c : HttpClient} {waits : List ℚ} {wait : ℚ} (h : Waits c waits)
    (hwait : c.backoff * 2 ^ waits.length ≤ wait
      ∧ wait ≤ max (c.backoff * 2 ^ waits.length) maxRetryAfter) :
    Waits c (waits ++ [wait]) := by
  intro lap found hfound
  rcases Nat.lt_or_ge lap waits.length with hlt | hge
  · rw [List.getElem?_append_left hlt] at hfound
    exact h lap found hfound
  · rw [List.getElem?_append_right hge] at hfound
    have hlast : lap - waits.length = 0 := by
      have hbound := (List.getElem?_eq_some_iff.mp hfound).1
      rw [List.length_singleton] at hbound
      omega
    rw [hlast] at hfound
    cases hfound
    have hlap : lap = waits.length := by omega
    rw [hlap]
    exact hwait

/-! ## All laps -/

section Laps

variable [PyCharacters] {net : Network} {c : HttpClient} {hosts urls : List String}

/-- What has been done before a lap. -/
structure Before (net : Network) (c : HttpClient) (urls : List String) (lap : ℕ) (s : Try) :
    Prop where
  asked : s.asked = lap * urls.length
  seen : s.lastThrottle.isSome = true ↔ Seen net False 0 (lap * urls.length)
  log : ∃ waits, waits.length = lap ∧ Waits c waits ∧ s.log = paced urls waits 0
  passed : Passes net 0 (lap * urls.length)
  started : ∀ l < lap, Starts c l
  slept : lap = 0 ∨ c.backoff * 2 ^ (lap - 1) < sleepLimit

/-- What has been done when a lap is over, with the wait it has earned. -/
structure After (net : Network) (c : HttpClient) (urls : List String) (lap : ℕ) (wait : ℚ)
    (s : Try) : Prop where
  asked : s.asked = (lap + 1) * urls.length
  seen : s.lastThrottle.isSome = true ↔ Seen net False 0 ((lap + 1) * urls.length)
  log : ∃ waits, waits.length = lap ∧ Waits c waits ∧ s.log = paced urls waits urls.length
  passed : Passes net 0 ((lap + 1) * urls.length)
  started : ∀ l ≤ lap, Starts c l
  earned : c.backoff * 2 ^ lap ≤ wait ∧ wait ≤ max (c.backoff * 2 ^ lap) maxRetryAfter

/-- How the laps end. -/
inductive Ends (net : Network) (c : HttpClient) (hosts urls : List String) :
    Except GetError (Response × ℕ) × Try → Prop
  | answered (lap index : ℕ) (resp : Response) (s : Try) (waits : List ℚ) (hlap : lap ≤ c.retries)
      (hindex : index < urls.length) (hpass : Passes net 0 (lap * urls.length + index))
      (hreply : net.reply (lap * urls.length + index) = .answered resp)
      (hanswer : resp.throttles = false) (hstarts : ∀ l ≤ lap, Starts c l)
      (hlen : waits.length = lap) (hwaits : Waits c waits)
      (hlog : s.log = paced urls waits (index + 1)) :
      Ends net c hosts urls (.ok (resp, index), s)
  | gaveUp (s : Try) (waits : List ℚ) (hpass : Passes net 0 ((c.retries + 1) * urls.length))
      (hstarts : ∀ l ≤ c.retries, Starts c l)
      (hseen : s.lastThrottle.isSome = true ↔ Seen net False 0 ((c.retries + 1) * urls.length))
      (hlen : waits.length = c.retries) (hwaits : Waits c waits)
      (hlog : s.log = paced urls waits urls.length) :
      Ends net c hosts urls (.error (giveUp c hosts urls s), s)
  | raised (i : ℕ) (s : Try) (hi : i < (c.retries + 1) * urls.length) (hpass : Passes net 0 i)
      (hover : (net.reply i).Overflows) :
      Ends net c hosts urls (.error (.python .overflowError), s)
  | stuck (lap : ℕ) (s : Try) (hlap : lap ≤ c.retries) (hpass : Passes net 0 (lap * urls.length))
      (hstarts : ¬ Starts c lap) :
      Ends net c hosts urls (.error (.python .overflowError), s)

theorem Passes.trans {a b d : ℕ} (h₁ : Passes net a b) (h₂ : Passes net b d) :
    Passes net a d := by
  intro k hle hlt
  rcases Nat.lt_or_ge k b with hk | hk
  · exact h₁ k hle hk
  · exact h₂ k hk hlt

omit [PyCharacters] in
theorem seen_trans {a b d : ℕ} (hab : a ≤ b) (hbd : b ≤ d) :
    Seen net (Seen net False a b) b d ↔ Seen net False a d := by
  rw [Seen, Seen, Seen]
  constructor
  · rintro ((⟨⟨⟩⟩ | ⟨k, hle, hlt, hk⟩) | ⟨k, hle, hlt, hk⟩)
    · exact Or.inr ⟨k, hle, by omega, hk⟩
    · exact Or.inr ⟨k, by omega, hlt, hk⟩
  · rintro (⟨⟨⟩⟩ | ⟨k, hle, hlt, hk⟩)
    rcases Nat.lt_or_ge k b with hkb | hkb
    · exact Or.inl (Or.inr ⟨k, hle, hkb, hk⟩)
    · exact Or.inr ⟨k, hkb, hlt, hk⟩

omit [PyCharacters] in
/-- A request of a lap is one of all. -/
theorem request_lt {retries lap index n : ℕ} (hlap : lap ≤ retries) (hindex : index < n) :
    lap * n + index < (retries + 1) * n := by
  calc lap * n + index < lap * n + n := Nat.add_lt_add_left hindex _
    _ = (lap + 1) * n := (Nat.succ_mul lap n).symm
    _ ≤ (retries + 1) * n := Nat.mul_le_mul_right n (Nat.succ_le_succ hlap)

omit [PyCharacters] in
/-- The longest pause a header can ask for is within the clock. -/
theorem backoff_of_sleepLimit {lap : ℕ} {wait : ℚ} (hlong : sleepLimit ≤ wait)
    (hwait : wait ≤ max (c.backoff * 2 ^ lap) maxRetryAfter) :
    sleepLimit ≤ c.backoff * 2 ^ lap := by
  rcases le_max_iff.mp hwait with hbackoff | hheader
  · exact hlong.trans hbackoff
  · have hshort : maxRetryAfter < sleepLimit := by norm_num [maxRetryAfter, sleepLimit]
    exact absurd (hlong.trans hheader) (not_le.mpr hshort)

/-- A sleep leads from one lap to the next. -/
theorem After.sleep {lap : ℕ} {wait : ℚ} {s : Try} (h : After net c urls lap wait s)
    (hwait : wait < sleepLimit) :
    Before net c urls (lap + 1) { s with log := s.log ++ [.slept wait] } where
  asked := h.asked
  seen := h.seen
  log := by
    obtain ⟨waits, hlen, hwaits, hlog⟩ := h.log
    refine ⟨waits ++ [wait], by rw [List.length_append, hlen]; rfl,
      hwaits.snoc (hlen ▸ h.earned), ?_⟩
    rw [hlog, ← paced_all]
    exact paced_lap urls waits wait
  passed := h.passed
  started := fun l hl => h.started l (Nat.lt_succ_iff.mp hl)
  slept := Or.inr (h.earned.1.trans_lt hwait)

/-- **One lap**: all is over, or the lap is. -/
theorem tryLaps_lap (left lap : ℕ) (s : Try) (hlap : lap ≤ c.retries)
    (h : Before net c urls lap s) :
    Ends net c hosts urls (tryLaps net c hosts urls (left + 1) lap s)
    ∨ ∃ wait s', After net c urls lap wait s'
      ∧ tryLaps net c hosts urls (left + 1) lap s
        = if lap < c.retries then
            match sleep (.finite wait) with
            | .error e => (.error (.python e), s')
            | .ok seconds =>
                tryLaps net c hosts urls left (lap + 1) { s' with log := s'.log ++ [.slept seconds] }
          else tryLaps net c hosts urls left (lap + 1) s' := by
  rw [tryLaps, lapBackoff]
  by_cases hpower : lap < 1024
  · rw [if_pos hpower]
    dsimp only
    have hstarts : ∀ l ≤ lap, Starts c l := by
      intro l hl
      rcases Nat.eq_or_lt_of_le hl with rfl | hlt
      · exact ⟨hpower, h.slept⟩
      · exact h.started l hlt
    obtain ⟨waits, hlen, hwaits, hlog⟩ := h.log
    have hcases : LapRun net 0 urls (c.backoff * 2 ^ lap) s
        (tryUrls net c hosts lap 0 urls (.finite (c.backoff * 2 ^ lap)) s) :=
      tryUrls_cases lap 0 urls _ s
    revert hcases
    generalize tryUrls net c hosts lap 0 urls (.finite (c.backoff * 2 ^ lap)) s = result
    intro hcases
    cases hcases with
    | exhausted longer t hlonger hcount hevents hpass hthrottle =>
        rw [h.asked, ← Nat.succ_mul] at hcount hpass hthrottle
        refine Or.inr ⟨longer, t, ⟨hcount, ?_, ⟨waits, hlen, hwaits, ?_⟩, h.passed.trans hpass,
          hstarts, hlonger⟩, rfl⟩
        · rw [hthrottle, h.seen]
          exact seen_trans (Nat.zero_le _) (Nat.mul_le_mul_right _ (Nat.le_succ lap))
        · rw [hevents, hlog]
          exact paced_all urls waits
    | answered j resp t hj hpass hreply hanswer hevents =>
        rw [h.asked] at hpass hreply
        rw [Nat.zero_add]
        refine Or.inl (.answered lap j resp t waits hlap hj (h.passed.trans hpass) hreply hanswer
          hstarts hlen hwaits ?_)
        rw [hevents, hlog]
        exact paced_zero_append urls waits (j + 1)
    | raised j t hj hpass hover =>
        rw [h.asked] at hpass hover
        exact Or.inl (.raised _ t (request_lt hlap hj) (h.passed.trans hpass) hover)
  · rw [if_neg hpower]
    exact Or.inl (.stuck lap s hlap h.passed fun hstarts => hpower hstarts.1)

/-- **How the laps end**, from the start of any of them. -/
theorem tryLaps_cases (left lap : ℕ) (s : Try) (hleft : lap + left = c.retries)
    (h : Before net c urls lap s) :
    Ends net c hosts urls (tryLaps net c hosts urls (left + 1) lap s) := by
  induction left generalizing lap s with
  | zero =>
      obtain rfl : lap = c.retries := hleft
      rcases tryLaps_lap 0 _ s le_rfl h with hends | ⟨wait, t, hafter, heq⟩
      · exact hends
      · rw [heq, if_neg (lt_irrefl _), tryLaps]
        obtain ⟨waits, hlen, hwaits, hlog⟩ := hafter.log
        exact .gaveUp t waits hafter.passed hafter.started hafter.seen hlen hwaits hlog
  | succ left ih =>
      rcases tryLaps_lap (left + 1) lap s (by omega) h with hends | ⟨wait, t, hafter, heq⟩
      · exact hends
      · rw [heq, if_pos (by omega), sleep]
        by_cases hlong : wait < sleepLimit
        · rw [if_pos hlong]
          exact ih (lap + 1) _ (by omega) (hafter.sleep hlong)
        · rw [if_neg hlong]
          have hbackoff := backoff_of_sleepLimit (not_lt.mp hlong) hafter.earned.2
          refine .stuck (lap + 1) t (by omega) hafter.passed ?_
          rintro ⟨-, hzero | hshort⟩
          · cases hzero
          · exact absurd hshort (not_lt.mpr hbackoff)

/-- **How an attempt ends.** -/
theorem attempt_cases : Ends net c (urls.map netloc) urls (attempt net c urls) := by
  refine tryLaps_cases c.retries 0 {} (Nat.zero_add _) ?_
  have hzero : 0 * urls.length = 0 := Nat.zero_mul _
  refine ⟨hzero.symm, ?_, ⟨[], rfl, waits_nil c, rfl⟩, ?_, ?_, Or.inl rfl⟩
  · rw [hzero]
    refine iff_of_false Bool.false_ne_true ?_
    rintro (⟨⟨⟩⟩ | ⟨k, -, hlt, -⟩)
    exact absurd hlt (Nat.not_lt_zero k)
  · rw [hzero]
    exact Passes.refl net 0
  · intro l hl
    exact absurd hl (Nat.not_lt_zero l)

end Laps

/-! ## The read -/

section Read

variable [PyCharacters] {net : Network} {c : FailoverHttpClient} {suffix : String}

omit [PyCharacters] in
theorem length_urls (c : FailoverHttpClient) (suffix : String) :
    (c.urls suffix).length = c.size := by
  rw [FailoverHttpClient.urls, List.length_map, FailoverHttpClient.order, length_ordered]
  rfl

omit [PyCharacters] in
/-- A read that raises something of Python's own does not end as it should. -/
theorem not_right_of_python {run : Read} {e : PyExc} (h : run.result = .error (.python e)) :
    ¬ Right net c suffix run := by
  rintro (⟨lap, index, resp, waits, -, -, -, -, -, hok, -⟩ | ⟨-, hlimited, hunreachable, -⟩)
  · cases h.symm.trans hok
  · by_cases hany : ∃ k < (c.retries + 1) * c.size, (net.reply k).Throttles
    · obtain ⟨text, htext⟩ := hlimited hany
      cases h.symm.trans htext
    · obtain ⟨text, htext⟩ := hunreachable fun k hk hthrottles => hany ⟨k, hk, hthrottles⟩
      cases h.symm.trans htext

theorem giveUp_limited {c : HttpClient} {hosts urls : List String} {s : Try}
    (h : s.lastThrottle.isSome = true) : ∃ text, giveUp c hosts urls s = .rateLimited text := by
  obtain ⟨resp, hresp⟩ := Option.isSome_iff_exists.mp h
  rw [giveUp, hresp]
  exact ⟨_, rfl⟩

theorem giveUp_unreachable {c : HttpClient} {hosts urls : List String} {s : Try}
    (h : ¬ s.lastThrottle.isSome = true) :
    ∃ text, giveUp c hosts urls s = .hostUnreachable text := by
  rw [giveUp, Option.not_isSome_iff_eq_none.mp h]
  exact ⟨_, rfl⟩

/-- No header overflows before the first answer, which is no throttle. -/
theorem not_overflows_of_first {m : ℕ} {resp : Response} (hpass : Passes net 0 m)
    (hreply : net.reply m = .answered resp) (hanswer : resp.throttles = false) (i : ℕ)
    (hnone : ∀ k < i, ¬ (net.reply k).Answers) : ¬ (net.reply i).Overflows := by
  rcases Nat.lt_trichotomy i m with hlt | rfl | hgt
  · exact (hpass i (Nat.zero_le i) hlt).2
  · rintro ⟨found, hfound, hthrottles, -⟩
    cases hreply.symm.trans hfound
    rw [hanswer] at hthrottles
    cases hthrottles
  · exact absurd ⟨resp, hreply, hanswer⟩ (hnone m hgt)

/-- **A read ends as it should**, unless a header overflows or a wait is beyond the
    clock. -/
theorem getWithFallback_right_iff (net : Network) (c : FailoverHttpClient) (suffix : String) :
    Right net c suffix (getWithFallback net c suffix) ↔ Clear net c := by
  have hends : Ends net c.toHttpClient ((c.urls suffix).map netloc) (c.urls suffix)
      (attempt net c.toHttpClient (c.urls suffix)) := attempt_cases
  have hsize : (c.urls suffix).length = c.size := length_urls c suffix
  rw [getWithFallback]
  revert hends
  generalize attempt net c.toHttpClient (c.urls suffix) = result
  intro hends
  cases hends with
  | answered lap index resp s waits hlap hindex hpass hreply hanswer hstarts hlen hwaits hlog =>
      rw [hsize] at hindex hpass hreply
      refine iff_of_true (Or.inl ?_) ⟨?_, ?_⟩
      · exact ⟨lap, index, resp, waits, hlap, hindex, fun k hk => (hpass k (Nat.zero_le k) hk).1,
          hreply, hanswer, rfl, rfl, hlen, hwaits, hlog⟩
      · exact fun i _ hnone => not_overflows_of_first hpass hreply hanswer i hnone
      · intro l _ hnone
        rcases Nat.lt_or_ge lap l with hlt | hle
        · -- A later lap is not reached.
          have hreached : lap * c.size + index < l * c.size := by
            calc lap * c.size + index < (lap + 1) * c.size := request_lt le_rfl hindex
              _ ≤ l * c.size := Nat.mul_le_mul_right _ hlt
          exact absurd ⟨resp, hreply, hanswer⟩ (hnone _ hreached)
        · exact hstarts l hle
  | gaveUp s waits hpass hstarts hseen hlen hwaits hlog =>
      rw [hsize] at hpass hseen hlog
      have hnone : ∀ k < (c.retries + 1) * c.size, ¬ (net.reply k).Answers :=
        fun k hk => (hpass k (Nat.zero_le k) hk).1
      refine iff_of_true (Or.inr ⟨hnone, ?_, ?_, rfl, waits, hlen, hwaits, hlog⟩)
        ⟨fun i hi _ => (hpass i (Nat.zero_le i) hi).2, fun l hl _ => hstarts l hl⟩
      · rintro ⟨k, hk, hthrottles⟩
        obtain ⟨text, htext⟩ := giveUp_limited
          (hseen.mpr (Or.inr ⟨k, Nat.zero_le k, hk, hthrottles⟩))
        exact ⟨text, congrArg Except.error htext⟩
      · intro hquiet
        obtain ⟨text, htext⟩ := giveUp_unreachable fun hsome => by
          rcases hseen.mp hsome with ⟨⟨⟩⟩ | ⟨k, -, hk, hthrottles⟩
          exact hquiet k hk hthrottles
        exact ⟨text, congrArg Except.error htext⟩
  | raised i s hi hpass hover =>
      rw [hsize] at hi
      refine iff_of_false (not_right_of_python rfl) fun hclear => ?_
      exact hclear.headers i hi (fun k hk => (hpass k (Nat.zero_le k) hk).1) hover
  | stuck lap s hlap hpass hstarts =>
      rw [hsize] at hpass
      refine iff_of_false (not_right_of_python rfl) fun hclear => ?_
      exact hstarts (hclear.laps lap hlap fun k hk => (hpass k (Nat.zero_le k) hk).1)

end Read

/-! ## A year beyond the calendar -/

/-- Two explorers, the first of them pinned. -/
def twoExplorers : FailoverHttpClient where
  candidates := ["https://blockstream.info/api", "https://mempool.space/api"]
  nonempty := List.cons_ne_nil _ _
  baseUrl := "https://blockstream.info/api"

/-- The first request is told to wait for a year of twenty digits; any other is
    answered. -/
def farFuture : Network where
  reply n :=
    if n = 0 then .answered
      { status := 429, retryAfter := some "Mon, 01 Jan 99999999999999999999 00:00:00 GMT" }
    else .answered { status := 200 }
  now _ := 0

/-- The other explorer is not asked. -/
theorem getWithFallback_farFuture :
    ¬ Right farFuture twoExplorers "fee-estimates"
        (@getWithFallback asciiCharacters farFuture twoExplorers "fee-estimates")
    ∧ (@getWithFallback asciiCharacters farFuture twoExplorers "fee-estimates").trace.log
      = [.asked "https://blockstream.info/api/fee-estimates"] := by
  have hraised : (@getWithFallback asciiCharacters farFuture twoExplorers "fee-estimates").result
      = .error (.python .overflowError) := rfl
  exact ⟨not_right_of_python hraised, rfl⟩

end SwapsackNet
