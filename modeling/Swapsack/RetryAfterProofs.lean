import Swapsack.EmailDateProofs

/-! # Retry-After

    An endpoint that throttles may say how long, in seconds or as a date.  The header
    is text from the other side, and the wait is to stay within half a minute
    whatever it says.

    * `retryAfter_cases` — it does, where the header is read at all;
    * `retryAfter_error_iff` — and the one kind of header that raises. -/

namespace SwapsackNet

open BinaryFloat PyText PyJson EmailDate

/-! ## Floats in order -/

/-- `x < y`; nothing compares to what is no number. -/
def less : Double → Double → Bool
  | .finite p, .finite q => decide (p < q)
  | .finite _, .infinity negative => !negative
  | .infinity negative, .finite _ => negative
  | .infinity negative, .infinity negative' => negative && !negative'
  | _, _ => false

/-- `max(x, y)`: the first, unless the second is more. -/
def pyMax (x y : Double) : Double := if less x y then y else x

/-- `min(x, y)`. -/
def pyMin (x y : Double) : Double := if less y x then y else x

/-! ## The header -/

/-- Answers that mean "not now, ask later". -/
def throttleStatuses : List ℕ := [429, 503]

/-- The longest a header may hold up a run, in seconds. -/
def maxRetryAfter : ℚ := 30

/-- What is read of an answer. -/
structure Response where
  status : ℕ
  retryAfter : Option String := none
  server : Option String := none
  text : Option String := none
deriving DecidableEq

/-- An answer that means "not now". -/
def Response.throttles (resp : Response) : Bool := throttleStatuses.contains resp.status

/-- Clamped to something sane. -/
def clamp (seconds : Double) : Double :=
  pyMin (pyMax seconds (.finite 0)) (.finite maxRetryAfter)

/-- `except (TypeError, ValueError)`. -/
def shrugged : PyExc → Bool
  | .typeError | .valueError => true
  | _ => false

section Header

variable [PyCharacters]

/-- Seconds an endpoint asks to wait, at a time in microseconds since 1970. -/
def retryAfter (resp : Response) (now : ℤ) : Except PyExc Double :=
  match resp.retryAfter with
  | none => .ok (.finite 0)
  | some value =>
      if value = "" then .ok (.finite 0)
      else
        match floatText value with
        | some seconds => .ok (clamp seconds)
        | none =>
            match parsedateToDatetime value with
            | .ok moment => .ok (clamp (Double.ofRat ((moment - now : ℤ) / 10 ^ 6)))
            | .error e => if shrugged e then .ok (.finite 0) else .error e

/-- The header is no number, and a date that overflows. -/
def Response.Overflows (resp : Response) : Prop :=
  ∃ value, resp.retryAfter = some value ∧ value ≠ "" ∧ floatText value = none
    ∧ ∃ t, parsedateTz value = some t ∧ t.Overlong

omit [PyCharacters] in
/-- What is clamped is no number, or one between nothing and half a minute. -/
theorem clamp_cases (x : Double) :
    clamp x = .nan ∨ ∃ q, clamp x = .finite q ∧ 0 ≤ q ∧ q ≤ maxRetryAfter := by
  have hmax : (0 : ℚ) ≤ maxRetryAfter := by norm_num [maxRetryAfter]
  cases x with
  | nan => exact Or.inl rfl
  | infinity negative =>
      cases negative with
      | true => exact Or.inr ⟨0, rfl, le_rfl, hmax⟩
      | false => exact Or.inr ⟨maxRetryAfter, rfl, hmax, le_rfl⟩
  | finite q =>
      refine Or.inr ?_
      rw [clamp, pyMax, less]
      by_cases hneg : q < 0
      · rw [if_pos (by simpa using hneg)]
        exact ⟨0, rfl, le_rfl, hmax⟩
      · rw [if_neg (by simpa using hneg), pyMin, less]
        by_cases hlong : maxRetryAfter < q
        · rw [if_pos (by simpa using hlong)]
          exact ⟨maxRetryAfter, rfl, hmax, le_rfl⟩
        · rw [if_neg (by simpa using hlong)]
          exact ⟨q, rfl, not_lt.mp hneg, not_lt.mp hlong⟩

omit [PyCharacters] in
/-- A pause only lengthens a wait, and not beyond half a minute. -/
theorem pyMax_pause {pause : Double} (wait : ℚ)
    (h : pause = .nan ∨ ∃ q, pause = .finite q ∧ 0 ≤ q ∧ q ≤ maxRetryAfter) :
    ∃ longer, pyMax (.finite wait) pause = .finite longer ∧ wait ≤ longer
      ∧ longer ≤ max wait maxRetryAfter := by
  rcases h with rfl | ⟨q, rfl, -, hq⟩
  · exact ⟨wait, rfl, le_rfl, le_max_left _ _⟩
  · rw [pyMax, less]
    by_cases hlonger : wait < q
    · rw [if_pos (by simpa using hlonger)]
      exact ⟨q, rfl, hlonger.le, hq.trans (le_max_right _ _)⟩
    · rw [if_neg (by simpa using hlonger)]
      exact ⟨wait, rfl, le_rfl, le_max_left _ _⟩

/-- **A header is worth a pause**, or raises an overflow. -/
theorem retryAfter_cases (resp : Response) (now : ℤ) :
    (¬ resp.Overflows ∧ ∃ pause, retryAfter resp now = .ok pause
      ∧ (pause = .nan ∨ ∃ q, pause = .finite q ∧ 0 ≤ q ∧ q ≤ maxRetryAfter))
    ∨ (resp.Overflows ∧ retryAfter resp now = .error .overflowError) := by
  have hzero : (Double.finite 0) = .nan ∨ ∃ q, Double.finite 0 = .finite q ∧ 0 ≤ q
      ∧ q ≤ maxRetryAfter := Or.inr ⟨0, rfl, le_rfl, by norm_num [maxRetryAfter]⟩
  rw [retryAfter]
  cases hvalue : resp.retryAfter with
  | none =>
      refine Or.inl ⟨?_, _, rfl, hzero⟩
      rintro ⟨value, hsome, -⟩
      cases hvalue.symm.trans hsome
  | some value =>
      dsimp only
      have hthis : resp.Overflows ↔ value ≠ "" ∧ floatText value = none
          ∧ ∃ t, parsedateTz value = some t ∧ t.Overlong := by
        constructor
        · rintro ⟨found, hfound, h⟩
          cases hvalue.symm.trans hfound
          exact h
        · exact fun h => ⟨value, hvalue, h⟩
      rw [hthis]
      by_cases hempty : value = ""
      · rw [if_pos hempty]
        exact Or.inl ⟨fun h => h.1 hempty, _, rfl, hzero⟩
      · rw [if_neg hempty]
        cases hfloat : floatText value with
        | some seconds =>
            exact Or.inl ⟨(by rintro ⟨-, ⟨⟩, -⟩), _, rfl, clamp_cases seconds⟩
        | none =>
            dsimp only
            rw [← parsedateToDatetime_overflow_iff]
            cases hdate : parsedateToDatetime value with
            | ok moment =>
                exact Or.inl ⟨(by rintro ⟨-, -, ⟨⟩⟩), _, rfl, clamp_cases _⟩
            | error e =>
                rcases parsedateToDatetime_error hdate with rfl | rfl
                · exact Or.inl ⟨(by rintro ⟨-, -, ⟨⟩⟩), _, rfl, hzero⟩
                · exact Or.inr ⟨⟨hempty, rfl, rfl⟩, rfl⟩

/-- **A header raises** exactly where it overflows. -/
theorem retryAfter_error_iff {resp : Response} {now : ℤ} {e : PyExc} :
    retryAfter resp now = .error e ↔ e = .overflowError ∧ resp.Overflows := by
  rcases retryAfter_cases resp now with ⟨hfine, pause, hok, -⟩ | ⟨hover, herror⟩
  · rw [hok]
    exact iff_of_false (by rintro ⟨⟩) fun h => hfine h.2
  · rw [herror]
    constructor
    · rintro ⟨⟩
      exact ⟨rfl, hover⟩
    · rintro ⟨rfl, -⟩
      rfl

/-! ## What is said of it -/

/-- `s` after `word`, in either case. -/
def dropWord (word s : List Char) : Option (List Char) :=
  if (s.take word.length).map Char.toLower = word then some (s.drop word.length) else none

/-- Four digits that a word ends with. -/
def fourDigits (s : List Char) : Option (List Char) :=
  let code := s.take 4
  if code.length = 4 ∧ (code.all fun c => (PyUnicode.decimal c).isSome) = true
      ∧ (s.drop 4).head?.any PyCharacters.isWord = false then some code
  else none

/-- A numbered error at the start of a text, as plain text or on a page. -/
def cfCodeAt (s : List Char) : Option (List Char) :=
  let plain := (dropWord "error code".toList s).bind fun s =>
    fourDigits ((if s.head? = some ':' then s.tail else s).dropWhile isSpace)
  plain <|> (dropWord "cf-error-code\">".toList s).bind fourDigits

/-- The first numbered error of a text. -/
def cfErrorCode : List Char → Option (List Char)
  | [] => none
  | c :: s => cfCodeAt (c :: s) <|> cfErrorCode s

def cfScanBytes : ℕ := 64 * 1024

/-- Who sent a throttle: the server's name, and the number of a refusal. -/
def refusedBy (resp : Response) : String :=
  let named := (resp.server.getD "").toList.filter fun c =>
    c.isAlphanum || c == '.' || c == '_' || c == '/' || c == '-'
  let name := String.ofList (named.take 32)
  let code := resp.text.bind fun body => cfErrorCode (body.toList.take cfScanBytes)
  let parts := (if name = "" then [] else ["from " ++ name])
    ++ (code.map fun digits => "error code " ++ String.ofList digits).toList
  ", ".intercalate parts

end Header

/-- A transport failure; the others are known by their class. -/
inductive Failure where
  | readTimeout
  | connectTimeout
  | sslError
  | other (name : String)
deriving DecidableEq

def Failure.name : Failure → String
  | readTimeout => "ReadTimeout"
  | connectTimeout => "ConnectTimeout"
  | sslError => "SSLError"
  | other name => name

def Failure.reason : Failure → String
  | readTimeout => "connected, then never answered"
  | connectTimeout => "did not accept the connection"
  | sslError => "failed the TLS handshake"
  | other _ => "could not be reached"

/-- A line, and a hint where there is one. -/
def withHint (line : String) (hint : Option String) : String :=
  let hint := hint.getD ""
  if hint = "" then line else s!"{line}\n{hint}"

/-- Which hosts, each named once, what went wrong, and how hard was tried. -/
def describe (hosts : List String) (cause : Failure) (attempts : ℕ) (timeout : String)
    (hint : Option String) : String :=
  let names := ", ".intercalate hosts.eraseDups
  withHint (s!"{names} {cause.reason} — gave up after " ++
    s!"{attempts} attempts ({cause.name}, {timeout}s timeout)") hint

/-- The same one line, for endpoints that answered but refused to serve. -/
def describeThrottle (hosts : List String) (status attempts : ℕ) (hint : Option String)
    (refusal : String) : String :=
  let names := ", ".intercalate hosts.eraseDups
  let detail := if refusal = "" then s!"HTTP {status}" else s!"HTTP {status} {refusal}"
  withHint (s!"{names} rate-limited the request " ++
    s!"({detail}) — gave up after {attempts} attempts") hint

end SwapsackNet
