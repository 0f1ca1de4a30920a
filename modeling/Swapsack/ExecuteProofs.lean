import Swapsack.CoinsProofs
import Swapsack.SymmetricProofs
import Swapsack.TraceProofs

/-! # Confirming and executing

    What was built and gated is shown, confirmed, and only then signed and broadcast.  A
    session is the network, and everything that was printed, typed or offered, in order.

    * `askFirst_adds` — the gate, `--confirm`, and `--yes` or a typed `yes`, or nothing
      more happens;
    * `executeSwap_adds` — the signed transactions go out in order, up to the first that
      is refused;
    * `confirmAndExecute_safe` — so what a session offers was gated, consented to before,
      and still valid;
    * `confirmAndExecuteSymmetric_tells` — and a symmetric add says what is live. -/

namespace SwapsackExecute

open Failover Outbox PyJson PyText SwapsackHttp SwapsackBase SwapsackCoins SwapsackSymmetric Trace

/-! ## Sessions -/

inductive Event (M R : Type) where
  | out (text : String)
  | err (text : String)
  | typed (line : String)
  | offered (m : M) (r : R)

/-- The network, and what has happened. -/
structure Session (M R N : Type) where
  net : N
  trace : List (Event M R)

/-- The switches of the command line. -/
structure Args where
  confirm : Bool
  yes : Bool

/-- What an execution raises beside what the network and the keys raise: the input may
    end before anything is typed. -/
inductive Raised (ε : Type) where
  | eof
  | failure (e : ε)

variable {M R N ε T B : Type}

def happen (event : Event M R) : EStateM (Raised ε) (Session M R N) Unit := fun s =>
  .ok () { s with trace := s.trace ++ [event] }

/-- `print(text)`. -/
def say (text : String) : EStateM (Raised ε) (Session M R N) Unit := happen (.out text)

/-- `print(text, file=sys.stderr)`. -/
def warn (text : String) : EStateM (Raised ε) (Session M R N) Unit := happen (.err text)

def happenAll : List (Event M R) → EStateM (Raised ε) (Session M R N) Unit
  | [] => pure ()
  | event :: events => do
      happen event
      happenAll events

def sayAll (texts : List String) : EStateM (Raised ε) (Session M R N) Unit :=
  happenAll (texts.map .out)

def warnAll (texts : List String) : EStateM (Raised ε) (Session M R N) Unit :=
  happenAll (texts.map .err)

/-- The lines of `_warn`: a header, and indented bullets. -/
def warning (header : String) (bullets : List String) : List String :=
  header :: bullets.map fun bullet => "  - " ++ bullet

/-- `input(prompt).strip()`; `none` is the end of the input. -/
def ask (prompt : String) (line : Option String) :
    EStateM (Raised ε) (Session M R N) (List Char) := do
  say prompt
  match line with
  | none => throw .eof
  | some line => do
      happen (.typed line)
      pure (strip line.toList)

/-- A computation on the network, in a session. -/
def onWire {α : Type} (x : EStateM ε (Wire M R N) α) :
    EStateM (Raised ε) (Session M R N) α := fun s =>
  match x { net := s.net, sent := [] } with
  | .ok a w => .ok a { net := w.net, trace := s.trace ++ w.sent.map fun p => .offered p.1 p.2 }
  | .error e w => .error (.failure e)
      { net := w.net, trace := s.trace ++ w.sent.map fun p => .offered p.1 p.2 }

/-- `except`: what is caught is turned into an exit code. -/
def catching {α : Type} (caught : ε → Bool) (x : EStateM (Raised ε) (Session M R N) α)
    (handler : ε → EStateM (Raised ε) (Session M R N) ℤ)
    (rest : α → EStateM (Raised ε) (Session M R N) ℤ) :
    EStateM (Raised ε) (Session M R N) ℤ := fun s =>
  match x s with
  | .ok a s => rest a s
  | .error .eof s => .error .eof s
  | .error (.failure e) s => if caught e then handler e s else .error (.failure e) s

/-- What of a trace was offered to the network. -/
def offers (trace : List (Event M R)) : List (M × R) :=
  trace.filterMap fun
    | .offered m r => some (m, r)
    | _ => none

/-! ## Asking first -/

/-- The words of an execution. -/
structure Wording where
  gateFailed : String
  dryRun : String
  prompt : String
  declined : String

/-- The gate's problems, the dry run, and the question; `rest` is what is asked about. -/
def askFirst (wording : Wording) (problems : List String) (args : Args) (line : Option String)
    (rest : EStateM (Raised ε) (Session M R N) ℤ) : EStateM (Raised ε) (Session M R N) ℤ :=
  if problems ≠ [] then do
    warnAll (warning wording.gateFailed problems)
    pure 1
  else if args.confirm = false then do
    say wording.dryRun
    pure 0
  else if args.yes then rest
  else do
    let answer ← ask wording.prompt line
    if answer ≠ "yes".toList then do
      say wording.declined
      pure 0
    else rest

/-! ## What asking first allows -/

/-- The gate is empty, and what was printed and typed before allows an execution. -/
structure Allowed (problems : List String) (args : Args) (before : List (Event M R)) : Prop where
  gate : problems = []
  confirm : args.confirm = true
  consent : args.yes = true ∨ ∃ line, .typed line ∈ before ∧ strip line.toList = "yes".toList

/-- An execution that is not allowed: how it ends, and what it says. -/
inductive Refused (wording : Wording) (problems : List String) (args : Args)
    (line : Option String) : Except (Raised ε) ℤ → List (Event M R) → Prop
  | gate (h : problems ≠ []) : Refused wording problems args line (.ok 1)
      ((warning wording.gateFailed problems).map .err)
  | dryRun (h : args.confirm = false) :
      Refused wording problems args line (.ok 0) [.out wording.dryRun]
  | eof (hyes : args.yes = false) (h : line = none) :
      Refused wording problems args line (.error .eof) [.out wording.prompt]
  | declined (hyes : args.yes = false) {answer : String} (hline : line = some answer)
      (h : strip answer.toList ≠ "yes".toList) : Refused wording problems args line (.ok 0)
      [.out wording.prompt, .typed answer, .out wording.declined]

/-- Consent, and what is said and typed for it. -/
inductive Consent (wording : Wording) (args : Args) (line : Option String) :
    List (Event M R) → Prop
  | waived (h : args.yes = true) : Consent wording args line []
  | typed (hyes : args.yes = false) {answer : String} (hline : line = some answer)
      (h : strip answer.toList = "yes".toList) :
      Consent wording args line [.out wording.prompt, .typed answer]

/-- Refused, or allowed with the rest behind the consent. -/
inductive Asked (wording : Wording) (problems : List String) (args : Args) (line : Option String)
    (Q : Except (Raised ε) ℤ → List (Event M R) → Prop) :
    Except (Raised ε) ℤ → List (Event M R) → Prop
  | refused {r : Except (Raised ε) ℤ} {added : List (Event M R)}
      (h : Refused wording problems args line r added) : Asked wording problems args line Q r added
  | allowed {r : Except (Raised ε) ℤ} {before behind : List (Event M R)} (hgate : problems = [])
      (hconfirm : args.confirm = true) (hconsent : Consent wording args line before)
      (hbehind : Q r behind) : Asked wording problems args line Q r (before ++ behind)

section Ask

variable {Q : Except (Raised ε) ℤ → List (Event M R) → Prop} {wording : Wording}
  {problems : List String} {args : Args} {line : Option String}

theorem offers_append (a b : List (Event M R)) : offers (a ++ b) = offers a ++ offers b :=
  List.filterMap_append

/-- What is offered at a place in a trace. -/
theorem offers_split {added before behind : List (Event M R)} {m : M} {r : R}
    (h : added = before ++ .offered m r :: behind) :
    offers added = offers before ++ (m, r) :: offers behind := by
  rw [h, offers_append]
  rfl

/-- Where nothing is offered, no place of the trace is an offer. -/
theorem not_offered {added before behind : List (Event M R)} {m : M} {r : R}
    (hnone : offers added = []) : added ≠ before ++ .offered m r :: behind := by
  intro h
  rw [offers_split h] at hnone
  exact absurd (List.append_eq_nil_iff.mp hnone).2 (List.cons_ne_nil _ _)

/-- Behind what offers nothing, an offer is the rest's. -/
theorem offered_behind {pre rest before behind : List (Event M R)} {m : M} {r : R}
    (hpre : offers pre = []) (h : pre ++ rest = before ++ .offered m r :: behind) :
    ∃ more, before = pre ++ more ∧ rest = more ++ .offered m r :: behind := by
  refine split_behind (fun hmem => ?_) h
  have hoffer : (m, r) ∈ offers pre := List.mem_filterMap.mpr ⟨_, hmem, rfl⟩
  rw [hpre] at hoffer
  exact absurd hoffer List.not_mem_nil

theorem offers_offered (sent : List (M × R)) :
    offers (sent.map fun p => Event.offered p.1 p.2) = sent := by
  rw [offers, List.filterMap_map]
  exact List.filterMap_some

/-- One event, and then the rest. -/
theorem adds_happen_bind {α : Type} {P : Except (Raised ε) α → List (Event M R) → Prop}
    {event : Event M R} {f : Unit → EStateM (Raised ε) (Session M R N) α}
    (h : Adds Session.trace (f ()) fun r more => P r (event :: more)) :
    Adds Session.trace (happen event >>= f) P := by
  have hhappen : Adds Session.trace
      (happen event : EStateM (Raised ε) (Session M R N) Unit)
      fun r added => r = .ok () ∧ added = [event] := fun _ => ⟨[event], rfl, rfl, rfl⟩
  refine hhappen.bind ?_ fun e added h => (by cases h.1)
  rintro - added ⟨-, rfl⟩
  exact h

theorem adds_happenAll_bind {α : Type} {P : Except (Raised ε) α → List (Event M R) → Prop}
    {f : Unit → EStateM (Raised ε) (Session M R N) α} (events : List (Event M R))
    (h : Adds Session.trace (f ()) fun r more => P r (events ++ more)) :
    Adds Session.trace (happenAll events >>= f) P := by
  induction events generalizing P with
  | nil => exact h
  | cons event events ih =>
      rw [happenAll, bind_assoc]
      exact adds_happen_bind (ih h)

theorem offers_out (texts : List String) : offers (texts.map (.out : String → Event M R)) = [] := by
  rw [offers, List.filterMap_map]
  exact List.filterMap_eq_nil_iff.mpr fun _ _ => rfl

theorem offers_err (texts : List String) : offers (texts.map (.err : String → Event M R)) = [] := by
  rw [offers, List.filterMap_map]
  exact List.filterMap_eq_nil_iff.mpr fun _ _ => rfl

theorem Refused.offers {r : Except (Raised ε) ℤ} {added : List (Event M R)}
    (h : Refused wording problems args line r added) : offers added = [] := by
  cases h with
  | gate => exact offers_err _
  | dryRun | eof | declined => rfl

theorem Consent.offers {before : List (Event M R)} (h : Consent wording args line before) :
    offers before = [] := by
  cases h <;> rfl

/-- Consent stays, whatever happens around it. -/
theorem Consent.allowed {before : List (Event M R)} (hgate : problems = [])
    (hconfirm : args.confirm = true) (h : Consent wording args line before)
    (note more : List (Event M R)) : Allowed problems args (note ++ before ++ more) := by
  refine ⟨hgate, hconfirm, ?_⟩
  cases h with
  | waived hyes => exact Or.inl hyes
  | typed _ _ hyes =>
      refine Or.inr ⟨_, List.mem_append_left more (List.mem_append_right note ?_), hyes⟩
      exact List.mem_cons_of_mem _ List.mem_cons_self

/-- **What asking first lets out**: behind a note that offers nothing, either nothing, or
    what the allowed rest offers, each time with the consent before it. -/
theorem Asked.offered {r : Except (Raised ε) ℤ} {note more : List (Event M R)}
    (hnote : offers note = []) (h : Asked wording problems args line Q r more) :
    offers (note ++ more) = []
      ∨ problems = [] ∧ ∃ behind, Q r behind ∧ offers (note ++ more) = offers behind
        ∧ ∀ pre m reply post, note ++ more = pre ++ .offered m reply :: post →
          Allowed problems args pre := by
  cases h with
  | refused h =>
      left
      rw [offers_append, hnote, h.offers]
      rfl
  | @allowed before behind hgate hconfirm hconsent hbehind =>
      right
      have hquiet : offers (note ++ before) = [] := by
        rw [offers_append, hnote, hconsent.offers]
        rfl
      rw [← List.append_assoc]
      refine ⟨hgate, behind, hbehind, ?_, fun pre m reply post hadded => ?_⟩
      · rw [offers_append, hquiet]
        rfl
      · -- the offer is behind the consent, which therefore stays before it
        obtain ⟨mid, rfl, -⟩ := offered_behind hquiet hadded
        exact hconsent.allowed hgate hconfirm note mid

/-- **Asking first**: `rest` happens only behind an empty gate and consent. -/
theorem askFirst_adds (wording : Wording) (problems : List String) (args : Args)
    (line : Option String) {rest : EStateM (Raised ε) (Session M R N) ℤ}
    (hrest : problems = [] → Adds Session.trace rest Q) :
    Adds Session.trace (askFirst wording problems args line rest)
      (Asked wording problems args line Q) := by
  rw [askFirst]
  refine Adds.ite (fun hproblems => ?_) fun hproblems => Adds.ite (fun hconfirm => ?_)
    fun hconfirm => Adds.ite (fun hyes => ?_) fun hyes => ?_
  · refine adds_happenAll_bind _ (adds_pure ?_)
    rw [List.append_nil]
    exact .refused (.gate hproblems)
  · exact adds_happen_bind (adds_pure (.refused (.dryRun hconfirm)))
  · have hgate := not_not.mp hproblems
    have hconfirm := Bool.of_not_eq_false hconfirm
    exact (hrest hgate).mono fun r added hQ => .allowed hgate hconfirm (.waived hyes) hQ
  · have hgate := not_not.mp hproblems
    have hconfirm := Bool.of_not_eq_false hconfirm
    rw [Bool.not_eq_true] at hyes
    unfold ask
    rw [bind_assoc]
    refine adds_happen_bind ?_
    cases hline : line with
    | none => exact adds_throw (.refused (.eof hyes rfl))
    | some answer =>
        rw [bind_assoc]
        refine adds_happen_bind ?_
        rw [pure_bind]
        refine Adds.ite (fun hno => ?_) fun hyesTyped => ?_
        · exact adds_happen_bind (adds_pure (.refused (.declined hyes rfl hno)))
        · exact (hrest hgate).mono fun r added hQ =>
            .allowed hgate hconfirm (.typed hyes rfl (not_not.mp hyesTyped)) hQ

end Ask

/-! ## Executing -/

/-- An adapter, as far as an execution uses it: its errors tell which of them are
    `BroadcastError` or an HTTP error. -/
structure SwapSource (B M R ε T : Type) where
  sign : B → Except ε (List M)
  verdict : R → Except ε T
  noTxid : T
  aborted : String → ε
  caught : ε → Bool
  showTxid : T → String
  showError : ε → String

/-- What was built and gated: with the coins it spends and the expiry of its plan, where
    it has them. -/
structure Gated (B : Type) extends Prepared B where
  inputs : List Utxo
  expiry : Option ℤ

structure SwapResult (B T : Type) where
  prepared : Gated B
  txid : Option T
  broadcast : Bool

section Execute

variable (source : SwapSource B M R ε T) (serve : M → N → R × N)

/-- What signing returns or raises. -/
def signed {α σ : Type} (x : Except ε α) : EStateM ε σ α :=
  match x with
  | .ok a => pure a
  | .error e => throw e

/-- Sign and broadcast; refuses unless the gate passed. -/
def executeSwap (prepared : Gated B) (confirm : Bool) :
    EStateM ε (Wire M R N) (SwapResult B T) :=
  if prepared.safe = false then throw (source.aborted (abortText prepared.problems))
  else if confirm = false then pure { prepared, txid := none, broadcast := false }
  else do
    let raws ← signed (source.sign prepared.built)
    let txid ← offerAll serve source.verdict source.noTxid raws
    pure { prepared, txid := some txid, broadcast := true }

/-- What the mempool inputs that are spent cost. -/
def reportCpfpSurcharge (inputs : List Utxo) : EStateM (Raised ε) (Session M R N) Unit :=
  let unconfirmed := inputs.filter fun u => !u.confirmed
  if unconfirmed = [] then pure ()
  else
    let surcharge := cpfpSurcharge inputs
    let detail :=
      if surcharge ≠ 0 then
        s!", {surcharge} base units of which lifts their parent(s) to this " ++
        "transaction's fee rate (CPFP)"
      else " (their parents already pay the rate, so no CPFP surcharge)"
    warn s!"note: this spends {unconfirmed.length} unconfirmed input(s){detail}."

def swapWording : Wording where
  gateFailed := "VERIFY GATE FAILED — not safe to broadcast:"
  dryRun := "\nDRY RUN — verified OK, not broadcast. Re-run with --confirm to send."
  prompt := "\nBroadcast the transaction shown above? type 'yes': "
  declined := "aborted, not broadcast."

/-- The execution itself, once it is confirmed, and what it reports. -/
def executeConfirmed (prepared : Gated B) (time : ℚ)
    (afterBroadcast : Option (T → ℤ)) : EStateM (Raised ε) (Session M R N) ℤ :=
  if ∃ expiry ∈ prepared.expiry, (expiry : ℚ) ≤ time then do
    warn "ABORTED: quote expired while confirming; re-run."
    pure 1
  else
    catching source.caught (onWire (executeSwap source serve prepared true))
      (fun e => do
        warn s!"BROADCAST FAILED: {source.showError e}"
        pure 1)
      fun result => do
        let txid := result.txid.getD source.noTxid
        say s!"\nBROADCAST txid: {source.showTxid txid}"
        say s!"track: swapsack status {source.showTxid txid}"
        match afterBroadcast with
        | none => pure 0
        | some after => pure (after txid)

/-- Gate, confirm, broadcast; `afterBroadcast` decides the exit code of an operation
    whose acceptance does not prove that it took effect. -/
def confirmAndExecute (prepared : Gated B) (args : Args) (line : Option String) (time : ℚ)
    (afterBroadcast : Option (T → ℤ)) : EStateM (Raised ε) (Session M R N) ℤ := do
  reportCpfpSurcharge prepared.inputs
  askFirst swapWording prepared.problems args line
    (executeConfirmed source serve prepared time afterBroadcast)

/-! ## What an execution offers -/

/-- Signing raised, or the signed transactions went out. -/
inductive Ran (built : B) : List (M × R) → Except ε T → Prop
  | unsigned {e : ε} (h : source.sign built = .error e) : Ran built [] (.error e)
  | went {raws : List M} {sent : List (M × R)} {res : Except ε T}
      (h : source.sign built = .ok raws)
      (hwent : Went source.verdict source.noTxid raws sent res) : Ran built sent res

/-- An execution that is confirmed, of what passed its gate. -/
theorem executeSwap_adds {prepared : Gated B} (hproblems : prepared.problems = []) :
    Adds Wire.sent (executeSwap source serve prepared true) fun r sent =>
      ∃ res, Ran source prepared.built sent res
        ∧ r = res.map fun txid => { prepared, txid := some txid, broadcast := true } := by
  have hsafe : ¬ prepared.safe = false := by
    rw [Prepared.safe, hproblems]
    exact Bool.noConfusion
  rw [executeSwap, if_neg hsafe, if_neg (by decide)]
  cases hsign : source.sign prepared.built with
  | error e => exact adds_throw ⟨.error e, .unsigned hsign, rfl⟩
  | ok raws =>
      refine (adds_offerAll serve source.verdict source.noTxid raws).bind ?_ ?_
      · intro txid sent hwent
        refine adds_pure ⟨.ok txid, ?_, rfl⟩
        rw [List.append_nil]
        exact .went hsign hwent
      · exact fun e sent hwent => ⟨.error e, .went hsign hwent, rfl⟩

/-- The quote is still valid. -/
def Fresh (prepared : Gated B) (time : ℚ) : Prop := ∀ expiry ∈ prepared.expiry, time < expiry

/-- How a confirmed execution ends, and all that then happened. -/
inductive Executed (prepared : Gated B) (time : ℚ) (afterBroadcast : Option (T → ℤ)) :
    Except (Raised ε) ℤ → List (Event M R) → Prop
  | expired (h : ¬ Fresh prepared time) : Executed prepared time afterBroadcast (.ok 1)
      [.err "ABORTED: quote expired while confirming; re-run."]
  | failed {sent : List (M × R)} {e : ε} (hfresh : Fresh prepared time)
      (hran : Ran source prepared.built sent (.error e)) (hcaught : source.caught e = true) :
      Executed prepared time afterBroadcast (.ok 1)
        (sent.map (fun p => .offered p.1 p.2)
          ++ [.err s!"BROADCAST FAILED: {source.showError e}"])
  | raised {sent : List (M × R)} {e : ε} (hfresh : Fresh prepared time)
      (hran : Ran source prepared.built sent (.error e)) (huncaught : source.caught e = false) :
      Executed prepared time afterBroadcast (.error (.failure e))
        (sent.map fun p => .offered p.1 p.2)
  | done {sent : List (M × R)} {txid : T} (hfresh : Fresh prepared time)
      (hran : Ran source prepared.built sent (.ok txid)) :
      Executed prepared time afterBroadcast (.ok ((afterBroadcast.map fun f => f txid).getD 0))
        (sent.map (fun p => .offered p.1 p.2)
          ++ [.out s!"\nBROADCAST txid: {source.showTxid txid}",
            .out s!"track: swapsack status {source.showTxid txid}"])

/-- What a computation on the network adds to a session. -/
theorem adds_onWire {α : Type} {x : EStateM ε (Wire M R N) α}
    {Q : Except ε α → List (M × R) → Prop} (h : Adds Wire.sent x Q) :
    Adds Session.trace (onWire x) fun r added => ∃ sent res,
      added = sent.map (fun p => .offered p.1 p.2) ∧ Q res sent
        ∧ r = res.mapError .failure := by
  intro s
  obtain ⟨sent, htrace, hQ⟩ := h { net := s.net, sent := [] }
  rw [List.nil_append] at htrace
  unfold onWire
  cases hrun : x { net := s.net, sent := [] } with
  | ok a w =>
      rw [hrun] at htrace hQ
      exact ⟨_, rfl, sent, .ok a, by rw [← htrace]; rfl, hQ, rfl⟩
  | error e w =>
      rw [hrun] at htrace hQ
      exact ⟨_, rfl, sent, .error e, by rw [← htrace]; rfl, hQ, rfl⟩

/-- A signature, or whatever else is computed, offers nothing. -/
theorem adds_signed_bind {α : Type} {x : Except ε α}
    {f : α → EStateM (Raised ε) (Session M R N) ℤ}
    {P : Except (Raised ε) ℤ → List (Event M R) → Prop}
    (hok : ∀ a, x = .ok a → Adds Session.trace (f a) P)
    (herror : ∀ e, x = .error e → P (.error (.failure e)) []) :
    Adds Session.trace (onWire (signed x) >>= f) P := by
  have hsigned : Adds Wire.sent (signed x : EStateM ε (Wire M R N) α)
      fun r sent => r = x ∧ sent = [] := by
    cases x with
    | ok a => exact adds_pure ⟨rfl, rfl⟩
    | error e => exact adds_throw ⟨rfl, rfl⟩
  refine (adds_onWire hsigned).bind ?_ ?_
  · rintro a added ⟨sent, res, rfl, ⟨rfl, rfl⟩, hres⟩
    cases hx : res with
    | error e =>
        rw [hx] at hres
        cases hres
    | ok a' =>
        rw [hx] at hres
        cases hres
        exact hok a hx
  · rintro raised added ⟨sent, res, rfl, ⟨rfl, rfl⟩, hres⟩
    cases hx : res with
    | ok a' =>
        rw [hx] at hres
        cases hres
    | error e =>
        rw [hx] at hres
        cases hres
        exact herror e hx

/-- What is caught is handled behind what happened. -/
theorem adds_catching {α : Type} {caught : ε → Bool}
    {x : EStateM (Raised ε) (Session M R N) α} {R' : Except (Raised ε) α → List (Event M R) → Prop}
    {handler : ε → EStateM (Raised ε) (Session M R N) ℤ}
    {rest : α → EStateM (Raised ε) (Session M R N) ℤ}
    {Q : Except (Raised ε) ℤ → List (Event M R) → Prop} (hx : Adds Session.trace x R')
    (hok : ∀ a added, R' (.ok a) added →
      Adds Session.trace (rest a) fun r more => Q r (added ++ more))
    (heof : ∀ added, R' (.error .eof) added → Q (.error .eof) added)
    (hcaught : ∀ e added, R' (.error (.failure e)) added → caught e = true →
      Adds Session.trace (handler e) fun r more => Q r (added ++ more))
    (huncaught : ∀ e added, R' (.error (.failure e)) added → caught e = false →
      Q (.error (.failure e)) added) :
    Adds Session.trace (catching caught x handler rest) Q := by
  intro s
  obtain ⟨added, htrace, hR⟩ := hx s
  -- what the handler or the rest adds stands behind what was added before
  have hbehind : ∀ {y : EStateM (Raised ε) (Session M R N) ℤ} {t : Session M R N},
      t.trace = s.trace ++ added → Adds Session.trace y (fun r more => Q r (added ++ more)) →
      ∃ added, (final (y t)).trace = s.trace ++ added ∧ Q (outcome (y t)) added := by
    intro y t ht hy
    obtain ⟨more, hmore, hQ⟩ := hy t
    exact ⟨added ++ more, by rw [hmore, ht, List.append_assoc], hQ⟩
  unfold catching
  cases hrun : x s with
  | ok a t =>
      rw [hrun] at htrace hR
      exact hbehind htrace (hok a added hR)
  | error raised t =>
      rw [hrun] at htrace hR
      cases raised with
      | eof => exact ⟨added, htrace, heof added hR⟩
      | failure e =>
          dsimp only
          cases hc : caught e with
          | true => exact hbehind htrace (hcaught e added hR hc)
          | false => exact ⟨added, htrace, huncaught e added hR hc⟩

theorem executeConfirmed_adds {prepared : Gated B} (hproblems : prepared.problems = [])
    (time : ℚ) (afterBroadcast : Option (T → ℤ)) :
    Adds Session.trace (executeConfirmed source serve prepared time afterBroadcast)
      (Executed source prepared time afterBroadcast) := by
  rw [executeConfirmed]
  refine Adds.ite (fun hexpired => ?_) fun hfresh => ?_
  · refine adds_happen_bind (adds_pure (.expired fun hfresh => ?_))
    obtain ⟨expiry, hexpiry, hle⟩ := hexpired
    exact absurd (hfresh expiry hexpiry) (not_lt.mpr hle)
  · have hfresh : Fresh prepared time := fun expiry hexpiry =>
      not_le.mp fun hle => hfresh ⟨expiry, hexpiry, hle⟩
    refine adds_catching (adds_onWire (executeSwap_adds source serve hproblems)) ?_ ?_ ?_ ?_
    · rintro result added ⟨sent, res', rfl, ⟨res, hran, rfl⟩, hres⟩
      cases res with
      | error e => cases hres
      | ok txid =>
          cases hres
          refine adds_happen_bind (adds_happen_bind ?_)
          cases afterBroadcast with
          | none => exact adds_pure (.done hfresh hran)
          | some after => exact adds_pure (.done hfresh hran)
    · rintro added ⟨sent, res', rfl, ⟨res, hran, rfl⟩, hres⟩
      cases res <;> cases hres
    · rintro e added ⟨sent, res', rfl, ⟨res, hran, rfl⟩, hres⟩ hcaught
      cases res with
      | ok txid => cases hres
      | error e' =>
          cases hres
          exact adds_happen_bind (adds_pure (.failed hfresh hran hcaught))
    · rintro e added ⟨sent, res', rfl, ⟨res, hran, rfl⟩, hres⟩ huncaught
      cases res with
      | ok txid => cases hres
      | error e' =>
          cases hres
          exact .raised hfresh hran huncaught

/-- The note about mempool inputs offers nothing. -/
theorem reportCpfpSurcharge_adds (inputs : List Utxo) :
    Adds Session.trace
      (reportCpfpSurcharge inputs : EStateM (Raised ε) (Session M R N) Unit)
      fun r added => r = .ok () ∧ offers added = [] := by
  rw [reportCpfpSurcharge]
  exact Adds.ite (fun _ => adds_pure ⟨rfl, rfl⟩) fun _ _ => ⟨[.err _], rfl, rfl, rfl⟩

/-- A session: asked behind the note, and if allowed executed. -/
theorem confirmAndExecute_adds (prepared : Gated B) (args : Args) (line : Option String)
    (time : ℚ) (afterBroadcast : Option (T → ℤ)) :
    Adds Session.trace (confirmAndExecute source serve prepared args line time afterBroadcast)
      fun r added => ∃ note more, added = note ++ more ∧ offers note = []
        ∧ Asked swapWording prepared.problems args line
          (Executed source prepared time afterBroadcast) r more := by
  refine (reportCpfpSurcharge_adds prepared.inputs).bind ?_ fun e added h => (by cases h.1)
  rintro - note ⟨-, hnote⟩
  exact (askFirst_adds swapWording prepared.problems args line fun hproblems =>
    executeConfirmed_adds source serve hproblems time afterBroadcast).mono
      fun r more hasked => ⟨note, more, rfl, hnote, hasked⟩

/-- What a confirmed execution offers is what it signed, while the quote is valid. -/
theorem Executed.ran {prepared : Gated B} {time : ℚ} {afterBroadcast : Option (T → ℤ)}
    {r : Except (Raised ε) ℤ} {added : List (Event M R)}
    (h : Executed source prepared time afterBroadcast r added) :
    offers added = [] ∨ Fresh prepared time
      ∧ ∃ res, Ran source prepared.built (offers added) res
        ∧ (∀ e, res = .error e → r = .ok 1 ∨ r = .error (.failure e))
        ∧ ∀ txid, res = .ok txid → r = .ok ((afterBroadcast.map fun f => f txid).getD 0) := by
  cases h with
  | expired => exact Or.inl rfl
  | @failed sent e hfresh hran =>
      refine Or.inr ⟨hfresh, .error e, ?_, fun _ _ => Or.inl rfl, fun _ h => (by cases h)⟩
      rw [offers_append, offers_offered]
      exact (List.append_nil sent).symm ▸ hran
  | @raised sent e hfresh hran =>
      refine Or.inr ⟨hfresh, .error e, ?_, fun _ h => Or.inr (by cases h; rfl),
        fun _ h => (by cases h)⟩
      rw [offers_offered]
      exact hran
  | @done sent txid hfresh hran =>
      refine Or.inr ⟨hfresh, .ok txid, ?_, fun _ h => (by cases h), fun _ h => (by cases h; rfl)⟩
      rw [offers_append, offers_offered]
      exact (List.append_nil sent).symm ▸ hran

/-- Signed, and everything before this message was taken. -/
theorem Ran.before {built : B} {sent pre post : List (M × R)} {res : Except ε T} {m : M} {r : R}
    (h : Ran source built sent res) (hsent : sent = pre ++ (m, r) :: post) :
    ∃ rest, source.sign built = .ok (pre.map Prod.fst ++ m :: rest)
      ∧ ∀ p ∈ pre, ∃ t, source.verdict p.2 = .ok t := by
  cases h with
  | unsigned => exact absurd hsent (by simp)
  | went hsign hwent =>
      obtain ⟨⟨rest, rfl⟩, htaken⟩ := hwent.before hsent
      exact ⟨rest, hsign, htaken⟩

/-- An exit code other than 1 is reported of an execution that went through. -/
theorem Executed.complete {prepared : Gated B} {time : ℚ} {afterBroadcast : Option (T → ℤ)}
    {code : ℤ} {added : List (Event M R)}
    (h : Executed source prepared time afterBroadcast (.ok code) added) (hone : code ≠ 1)
    (hne : offers added ≠ []) :
    source.sign prepared.built = .ok ((offers added).map Prod.fst)
      ∧ ∀ p ∈ offers added, ∃ t, source.verdict p.2 = .ok t := by
  rcases h.ran with hnone | ⟨-, res, hran, herror, -⟩
  · exact absurd hnone hne
  generalize offers added = sent at hran hne ⊢
  cases hran with
  | unsigned => exact absurd rfl hne
  | went hsign hwent =>
      cases hres : res with
      | error e =>
          -- an error is reported as 1, or raised
          rcases herror e hres with h | h
          · exact absurd (Except.ok.inj h) hone
          · cases h
      | ok txid =>
          obtain ⟨hall, htaken⟩ := hwent.ok hres
          exact ⟨hall ▸ hsign, htaken⟩

/-- **What a session offers** was gated, confirmed and consented to before it was, and its
    quote was valid; the messages are the signed ones in order, each behind ones that were
    taken; and an exit code that does not say so means that all of them were. -/
theorem confirmAndExecute_safe (prepared : Gated B) (args : Args) (line : Option String)
    (time : ℚ) (afterBroadcast : Option (T → ℤ)) (s : Session M R N) :
    let run := confirmAndExecute source serve prepared args line time afterBroadcast s
    ∃ added, (final run).trace = s.trace ++ added
      ∧ (∀ before m r behind, added = before ++ .offered m r :: behind →
        Allowed prepared.problems args before ∧ Fresh prepared time
        ∧ ∃ rest, source.sign prepared.built = .ok ((offers before).map Prod.fst ++ m :: rest)
          ∧ ∀ p ∈ offers before, ∃ t, source.verdict p.2 = .ok t)
      ∧ ∀ code, outcome run = .ok code → code ≠ 1 → offers added ≠ [] →
        source.sign prepared.built = .ok ((offers added).map Prod.fst)
        ∧ ∀ p ∈ offers added, ∃ t, source.verdict p.2 = .ok t := by
  intro run
  obtain ⟨added, htrace, note, more, rfl, hnote, hasked⟩ :=
    confirmAndExecute_adds source serve prepared args line time afterBroadcast s
  refine ⟨note ++ more, htrace, ?_⟩
  change Asked swapWording prepared.problems args line
    (Executed source prepared time afterBroadcast) (outcome run) more at hasked
  rcases hasked.offered hnote with hnone | ⟨-, behind, hbehind, hoffers, hallowed⟩
  · exact ⟨fun _ _ _ _ hadded => absurd hadded (not_offered hnone),
      fun _ _ _ hne => absurd hnone hne⟩
  rw [hoffers]
  constructor
  · intro pre m r post hadded
    have hsent : offers behind = offers pre ++ (m, r) :: offers post :=
      hoffers ▸ offers_split hadded
    rcases hbehind.ran with hnone | ⟨hfresh, res, hran, -⟩
    · exact absurd (hoffers.trans hnone) fun hnone => not_offered hnone hadded
    · exact ⟨hallowed _ _ _ _ hadded, hfresh, hran.before source hsent⟩
  · intro code hcode
    rw [hcode] at hbehind
    exact hbehind.complete

end Execute

/-! ## Adapters that are executed with -/

section Adapters

variable (serve : Post → N → Reply × N) (repr : Json → String) (showError : Failure → String)

/-- `isinstance(exc, (BroadcastError, *HTTP_ERRORS))`. -/
def isCaught : Failure → Bool
  | .http (.python _) | .rpcError .. | .rpcMalformed .. | .signing _ | .swapAborted _ => false
  | _ => true

/-- `EthAdapter`, of the transactions that one operation needs. -/
def ethSource (adapter : EthAdapter B) : SwapSource (List B) Post Reply Failure Json where
  sign txs := (adapter.sign txs).map fun raws => raws.map adapter.post
  verdict := ethVerdict
  noTxid := .str ""
  aborted := .swapAborted
  caught := isCaught
  showTxid := pyStr repr
  showError

/-- `CosmosAdapter`, of the one transaction that a deposit is. -/
def cosmosSource (adapter : CosmosAdapter B) : SwapSource B Post Reply Failure Json where
  sign built := (adapter.sign built).map fun raws => raws.map adapter.post
  verdict := adapter.verdict
  noTxid := .str ""
  aborted := .swapAborted
  caught := isCaught
  showTxid := pyStr repr
  showError

/-- An execution signs, and broadcasts as a protocol leg is. -/
theorem executeSwap_cosmos (adapter : CosmosAdapter B) {prepared : Gated B}
    (hsafe : prepared.safe = true) :
    executeSwap (cosmosSource repr showError adapter) serve prepared true = (do
      let raws ← signing (adapter.sign prepared.built)
      let txid ← protocolBroadcast serve adapter raws
      pure { prepared, txid := some txid, broadcast := true }) := by
  rw [executeSwap, hsafe, if_neg (by decide), if_neg (by decide)]
  unfold cosmosSource
  dsimp only
  cases adapter.sign prepared.built <;> rfl

/-- An execution signs, and broadcasts as an asset leg is, before its text is taken. -/
theorem executeSwap_eth (adapter : EthAdapter B) {prepared : Gated (List B)}
    (hsafe : prepared.safe = true) :
    executeSwap (ethSource repr showError adapter) serve prepared true = (do
      let raws ← signing (adapter.sign prepared.built)
      let txid ← offerAll serve ethVerdict (.str "") (raws.map adapter.post)
      pure { prepared, txid := some txid, broadcast := true }) := by
  rw [executeSwap, hsafe, if_neg (by decide), if_neg (by decide)]
  unfold ethSource
  dsimp only
  cases adapter.sign prepared.built <;> rfl

end Adapters

/-! ## Both legs of an add -/

section Symmetric

variable {P : Type} (serve : Post → N → Reply × N) (repr : Json → String)
  (assetAdapter : EthAdapter B) (protocolAdapter : CosmosAdapter P)

/-- The names an add is reported under. -/
structure Names where
  symbol : String
  chain : String

def symmetricWording : Wording where
  gateFailed := "VERIFY GATE FAILED — not safe to broadcast:"
  dryRun :=
    "\nDRY RUN — both legs verified OK, neither broadcast. Re-run with --confirm to send."
  prompt := "\nBroadcast BOTH legs shown above? type 'yes': "
  declined := "aborted, nothing broadcast."

def partialTitle : String := "PARTIAL ADD — the position is pending, NOT complete:"

def bothOut : String :=
  "both legs are out; the protocol pairs them once it has observed both."

def nothingSent (showError : Failure → String) (e : Failure) : String :=
  s!"BROADCAST FAILED (nothing was sent): {showError e}"

/-- The warning about a position that is half added. -/
def partialWarning (names : Names) (showError : Failure → String) (protocolTxid : Json)
    (cause : Failure) : List String :=
  warning partialTitle
    [s!"the {names.symbol} leg IS ON-CHAIN, txid {pyStr repr protocolTxid}",
      s!"the {names.chain} leg did NOT go out: {showError cause}",
      "the protocol refunds an unpaired leg once its window expires; wait " ++
        "for that before re-running, or the refund and a retry will collide"]

/-- What is reported of a failure that is caught. -/
def failureReport (names : Names) (showError : Failure → String) : Failure → List String
  | .partialSymmetricAdd txid cause => partialWarning repr names showError txid cause
  | e => [nothingSent showError e]

/-- What is reported of an add that went through. -/
def successReport (names : Names) (result : SymmetricResult B P) : List String :=
  let protocolTxid := pyStr repr (result.protocolTxid.getD .null)
  let assetTxid := result.assetTxid.getD "None"
  [s!"\nBROADCAST {names.symbol} leg: {protocolTxid}",
    s!"BROADCAST {names.chain} leg: {assetTxid}",
    bothOut]

def confirmAndExecuteSymmetric (names : Names) (showError : Failure → String)
    (prepared : SymmetricPrepared B P) (args : Args) (line : Option String) :
    EStateM (Raised Failure) (Session Post Reply N) ℤ :=
  askFirst symmetricWording prepared.problems args line
    (catching isCaught
      (onWire (executeSymmetricLiquidity serve repr assetAdapter protocolAdapter prepared true))
      (fun e => do
        warnAll (failureReport repr names showError e)
        pure 1)
      fun result => do
        sayAll (successReport repr names result)
        pure 0)

/-! ## What an add says

    Every report has a first letter of its own, so what was printed tells which of them
    it was. -/

/-- Two texts with different first letters. -/
theorem text_ne {a b : String} (h : a.toList.head? ≠ b.toList.head?) : a ≠ b :=
  fun hab => h (by rw [hab])

theorem head_append {a : String} {b : String} {c : Char} (h : a.toList.head? = some c) :
    (a ++ b).toList.head? = some c := by
  rw [String.toList_append, List.head?_append, h]
  rfl

theorem nothingSent_head (showError : Failure → String) (e : Failure) :
    (nothingSent showError e).toList.head? = some 'B' :=
  head_append (by decide)

/-- A text in a warning is the header or a bullet. -/
theorem warning_mem {header text : String} {bullets : List String}
    (h : text ∈ warning header bullets) : text = header ∨ text.toList.head? = some ' ' := by
  rcases List.mem_cons.mp h with rfl | h
  · exact Or.inl rfl
  · obtain ⟨bullet, -, rfl⟩ := List.mem_map.mp h
    exact Or.inr (head_append (by decide))

/-- How a confirmed add goes, and what it then says. -/
inductive Told (names : Names) (showError : Failure → String)
    (prepared : SymmetricPrepared B P) :
    Except (Raised Failure) ℤ → List (Post × Reply) → List (Event Post Reply) → Prop
  | failed {sent : List (Post × Reply)} {e : Failure}
      (hcourse : Course repr assetAdapter protocolAdapter prepared true sent (.error e))
      (hcaught : isCaught e = true) :
      Told names showError prepared (.ok 1) sent ((failureReport repr names showError e).map .err)
  | raised {sent : List (Post × Reply)} {e : Failure}
      (hcourse : Course repr assetAdapter protocolAdapter prepared true sent (.error e))
      (huncaught : isCaught e = false) :
      Told names showError prepared (.error (.failure e)) sent []
  | done {sent : List (Post × Reply)} {result : SymmetricResult B P}
      (hcourse : Course repr assetAdapter protocolAdapter prepared true sent (.ok result)) :
      Told names showError prepared (.ok 0) sent ((successReport repr names result).map .out)

variable {repr assetAdapter protocolAdapter}
variable {names : Names} {showError : Failure → String} {prepared : SymmetricPrepared B P}

theorem confirmAndExecuteSymmetric_adds (args : Args) (line : Option String) :
    Adds Session.trace
      (confirmAndExecuteSymmetric serve repr assetAdapter protocolAdapter names showError prepared
        args line)
      (Asked symmetricWording prepared.problems args line fun r added => ∃ sent said,
        added = sent.map (fun p => .offered p.1 p.2) ++ said
          ∧ Told repr assetAdapter protocolAdapter names showError prepared r sent said) := by
  rw [confirmAndExecuteSymmetric]
  refine askFirst_adds _ _ _ _ fun _ => ?_
  have hcourse : Adds Wire.sent
      (executeSymmetricLiquidity serve repr assetAdapter protocolAdapter prepared true)
      fun r sent => Course repr assetAdapter protocolAdapter prepared true sent r :=
    fun w => executeSymmetricLiquidity_course serve repr assetAdapter protocolAdapter prepared
      true w
  refine adds_catching (adds_onWire hcourse) ?_ ?_ ?_ ?_
  · rintro result added ⟨sent, res, rfl, hcourse, hres⟩
    cases res with
    | error e => cases hres
    | ok result =>
        cases hres
        refine adds_happenAll_bind _ (adds_pure ?_)
        rw [List.append_nil]
        exact ⟨sent, _, rfl, .done hcourse⟩
  · rintro added ⟨sent, res, rfl, hcourse, hres⟩
    cases res <;> cases hres
  · rintro e added ⟨sent, res, rfl, hcourse, hres⟩ hcaught
    cases res with
    | ok result => cases hres
    | error e' =>
        cases hres
        refine adds_happenAll_bind _ (adds_pure ?_)
        rw [List.append_nil]
        exact ⟨sent, _, rfl, .failed hcourse hcaught⟩
  · rintro e added ⟨sent, res, rfl, hcourse, hres⟩ huncaught
    cases res with
    | ok result => cases hres
    | error e' =>
        cases hres
        exact ⟨sent, [], (List.append_nil _).symm, .raised hcourse huncaught⟩

/-- The warning is the report of a partial add. -/
theorem partialTitle_mem {e : Failure} :
    partialTitle ∈ failureReport repr names showError e
      ↔ ∃ txid cause, e = .partialSymmetricAdd txid cause := by
  have hno : partialTitle ≠ nothingSent showError e := by
    refine text_ne ?_
    rw [nothingSent_head]
    decide
  cases e with
  | partialSymmetricAdd txid cause =>
      refine iff_of_true ?_ ⟨txid, cause, rfl⟩
      rw [failureReport, partialWarning, warning]
      exact List.mem_cons_self
  | signing | http | rpcError | rpcMalformed | rejected | broadcastError | swapAborted =>
      refine iff_of_false (fun h => hno (List.mem_singleton.mp h)) ?_
      rintro ⟨txid, cause, h⟩
      cases h

/-- Of a partial add nothing is said not to have been sent. -/
theorem nothingSent_mem {e e' : Failure}
    (h : nothingSent showError e' ∈ failureReport repr names showError e) (txid : Json)
    (cause : Failure) : e ≠ .partialSymmetricAdd txid cause := by
  rintro rfl
  have hhead := nothingSent_head showError e'
  rcases warning_mem h with h | h
  · rw [h] at hhead
    exact absurd hhead (by decide)
  · rw [h] at hhead
    exact absurd hhead (by decide)

/-- An add that returns has both legs out. -/
theorem course_ok {sent : List (Post × Reply)} {result : SymmetricResult B P}
    (h : Course repr assetAdapter protocolAdapter prepared true sent (.ok result)) :
    (∃ txid, ProtocolOut protocolAdapter sent txid)
      ∧ AssetOut assetAdapter prepared.asset.built sent := by
  have hout : ∃ txid, ProtocolOut protocolAdapter sent txid := by
    cases h with
    | dryRun h => cases h
    | complete _ _ _ htaken _ hwent => exact ⟨_, (protocolOut_cons (went_asset hwent)).mpr htaken⟩
  refine ⟨hout, by_contra fun hhalf => ?_⟩
  obtain ⟨txid, hout⟩ := hout
  obtain ⟨cause, hfailed⟩ := h.half_added hout hhalf
  cases (h.partial_iff txid cause).mpr ⟨hout, hfailed⟩

/-- An add that raises with its protocol leg out raises a partial add. -/
theorem course_error {sent : List (Post × Reply)} {e : Failure} {txid : Json}
    (h : Course repr assetAdapter protocolAdapter prepared true sent (.error e))
    (hout : ProtocolOut protocolAdapter sent txid) :
    ∃ txid cause, e = .partialSymmetricAdd txid cause := by
  have hnone : ¬ ProtocolOut protocolAdapter [] txid := by
    rintro ⟨p, hp, -⟩
    exact absurd hp List.not_mem_nil
  cases h with
  | gated | unsigned => exact absurd hout hnone
  | refused _ _ _ hverdict =>
      have htaken := (protocolOut_cons fun p hp => absurd hp List.not_mem_nil).mp hout
      rw [hverdict] at htaken
      cases htaken
  | assetUnsigned | assetRefused => exact ⟨_, _, rfl⟩

theorem Told.course {r : Except (Raised Failure) ℤ} {sent : List (Post × Reply)}
    {said : List (Event Post Reply)}
    (h : Told repr assetAdapter protocolAdapter names showError prepared r sent said) :
    ∃ res, Course repr assetAdapter protocolAdapter prepared true sent res := by
  cases h with
  | failed hcourse | raised hcourse | done hcourse => exact ⟨_, hcourse⟩

theorem Told.offers {r : Except (Raised Failure) ℤ} {sent : List (Post × Reply)}
    {said : List (Event Post Reply)}
    (h : Told repr assetAdapter protocolAdapter names showError prepared r sent said) :
    offers said = [] := by
  cases h with
  | failed => exact offers_err _
  | raised => rfl
  | done => exact offers_out _

/-- **What is said once an add was confirmed**, against what is live. -/
theorem Told.tells {r : Except (Raised Failure) ℤ} {sent : List (Post × Reply)}
    {said : List (Event Post Reply)}
    (h : Told repr assetAdapter protocolAdapter names showError prepared r sent said) :
    (.err partialTitle ∈ said ↔ ∃ txid cause, ProtocolOut protocolAdapter sent txid
        ∧ AssetFailed assetAdapter prepared.asset.built sent cause)
      ∧ (.out bothOut ∈ said → (∃ txid, ProtocolOut protocolAdapter sent txid)
        ∧ AssetOut assetAdapter prepared.asset.built sent)
      ∧ (∀ e, .err (nothingSent showError e) ∈ said →
        ∀ txid, ¬ ProtocolOut protocolAdapter sent txid)
      ∧ ∀ txid, ProtocolOut protocolAdapter sent txid →
        .err partialTitle ∈ said ∨ .out bothOut ∈ said := by
  cases h with
  | @failed _ e hcourse =>
      have herr : ∀ text, (.err text : Event Post Reply)
          ∈ (failureReport repr names showError e).map .err
            ↔ text ∈ failureReport repr names showError e :=
        fun text => List.mem_map_of_injective fun a b hab => (by cases hab; rfl)
      refine ⟨?_, fun h => ?_, fun e' h txid hout => ?_, fun txid hout => ?_⟩
      · rw [herr, partialTitle_mem]
        refine exists_congr fun txid => exists_congr fun cause => ?_
        rw [← hcourse.partial_iff txid cause, Except.error.injEq]
      · obtain ⟨text, -, htext⟩ := List.mem_map.mp h
        cases htext
      · obtain ⟨txid', cause, he⟩ := course_error hcourse hout
        exact nothingSent_mem ((herr _).mp h) txid' cause he
      · exact Or.inl ((herr _).mpr (partialTitle_mem.mpr (course_error hcourse hout)))
  | @raised _ e hcourse huncaught =>
      have hno : ∀ txid, ¬ ProtocolOut protocolAdapter sent txid := by
        intro txid hout
        obtain ⟨txid', cause, rfl⟩ := course_error hcourse hout
        cases huncaught
      refine ⟨iff_of_false List.not_mem_nil fun ⟨txid, _, hout, _⟩ => hno txid hout, ?_, ?_, ?_⟩
      · exact fun h => absurd h List.not_mem_nil
      · exact fun _ h => absurd h List.not_mem_nil
      · exact fun txid hout => absurd hout (hno txid)
  | done hcourse =>
      refine ⟨iff_of_false (fun h => ?_) ?_, fun _ => course_ok hcourse, fun _ h => ?_, ?_⟩
      · simp at h
      · rintro ⟨txid, cause, hhalf⟩
        cases (hcourse.partial_iff txid cause).mpr hhalf
      · simp at h
      · exact fun _ _ => Or.inr (by simp [successReport])

theorem Refused.quiet {problems : List String} {args : Args} {line : Option String}
    {r : Except (Raised Failure) ℤ} {added : List (Event Post Reply)}
    (h : Refused symmetricWording problems args line r added) :
    .err partialTitle ∉ added ∧ .out bothOut ∉ added := by
  cases h with
  | gate =>
      constructor
      · intro h
        obtain ⟨text, htext, heq⟩ := List.mem_map.mp h
        cases heq
        rcases warning_mem htext with h | h
        · exact absurd h (by decide)
        · exact absurd h (by decide)
      · intro h
        obtain ⟨text, -, heq⟩ := List.mem_map.mp h
        cases heq
  | dryRun | eof | declined =>
      constructor
      · simp
      · simp [symmetricWording, bothOut]

theorem Consent.quiet {args : Args} {line : Option String} {before : List (Event Post Reply)}
    (h : Consent symmetricWording args line before) :
    .err partialTitle ∉ before ∧ .out bothOut ∉ before := by
  cases h with
  | waived => exact ⟨List.not_mem_nil, List.not_mem_nil⟩
  | typed =>
      constructor
      · simp
      · simp [symmetricWording, bothOut]

/-- **A symmetric add tells what is live**: an offer is gated and consented to, the asset
    leg's behind a protocol leg that is out; the warning is printed exactly where the asset
    leg then failed, success only where both legs are out, `nothing was sent` only where
    the protocol leg is not, and a protocol leg that is out never goes unsaid. -/
theorem confirmAndExecuteSymmetric_tells (serve : Post → N → Reply × N) (repr : Json → String)
    (assetAdapter : EthAdapter B) (protocolAdapter : CosmosAdapter P) (names : Names)
    (showError : Failure → String) (prepared : SymmetricPrepared B P) (args : Args)
    (line : Option String) (s : Session Post Reply N) :
    let run := confirmAndExecuteSymmetric serve repr assetAdapter protocolAdapter names showError
      prepared args line s
    ∃ added, (final run).trace = s.trace ++ added
      ∧ (∀ before m r behind, added = before ++ .offered m r :: behind →
        Allowed prepared.problems args before
        ∧ (m.leg = .asset → ∃ txid, ProtocolOut protocolAdapter (offers before) txid))
      ∧ (.err partialTitle ∈ added ↔ ∃ txid cause, ProtocolOut protocolAdapter (offers added) txid
        ∧ AssetFailed assetAdapter prepared.asset.built (offers added) cause)
      ∧ (.out bothOut ∈ added → (∃ txid, ProtocolOut protocolAdapter (offers added) txid)
        ∧ AssetOut assetAdapter prepared.asset.built (offers added))
      ∧ (∀ e, .err (nothingSent showError e) ∈ added →
        ∀ txid, ¬ ProtocolOut protocolAdapter (offers added) txid)
      ∧ ∀ txid, ProtocolOut protocolAdapter (offers added) txid →
        .err partialTitle ∈ added ∨ .out bothOut ∈ added := by
  intro run
  have hadds : Adds Session.trace (confirmAndExecuteSymmetric serve repr assetAdapter
    protocolAdapter names showError prepared args line) _ :=
      confirmAndExecuteSymmetric_adds serve args line
  obtain ⟨added, htrace, hasked⟩ := hadds s
  refine ⟨added, htrace, ?_⟩
  cases hasked with
  | refused h =>
      have hno : ∀ txid, ¬ ProtocolOut protocolAdapter (offers added) txid := by
        rintro txid ⟨p, hp, -⟩
        rw [h.offers] at hp
        exact absurd hp List.not_mem_nil
      refine ⟨fun _ _ _ _ hadded => absurd hadded (not_offered h.offers), ?_,
        fun hmem => absurd hmem h.quiet.2, fun _ _ => hno, fun txid hout => absurd hout (hno txid)⟩
      exact iff_of_false h.quiet.1 fun ⟨txid, _, hout, _⟩ => hno txid hout
  | @allowed before behind hgate hconfirm hconsent hbehind =>
      obtain ⟨sent, said, rfl, htold⟩ := hbehind
      have hsaid : offers said = [] := htold.offers
      have hoffers : offers (before ++ (sent.map (fun p => .offered p.1 p.2) ++ said)) = sent := by
        rw [offers_append, offers_append, hconsent.offers, offers_offered, hsaid,
          List.append_nil, List.nil_append]
      -- what is looked for is no offer, so it was said before the consent or behind the last
      have hout : ∀ event, (∀ m r, event ≠ .offered m r) →
          (event ∈ before ++ (sent.map (fun p => .offered p.1 p.2) ++ said)
            ↔ event ∈ before ∨ event ∈ said) := by
        intro event hevent
        rw [List.mem_append, List.mem_append]
        refine or_congr_right (or_iff_right fun h => ?_)
        obtain ⟨p, -, hp⟩ := List.mem_map.mp h
        exact hevent p.1 p.2 hp.symm
      rw [hoffers, hout (.err partialTitle) (fun _ _ h => (by cases h)),
        hout (.out bothOut) (fun _ _ h => (by cases h)), or_iff_right hconsent.quiet.1,
        or_iff_right hconsent.quiet.2]
      obtain ⟨hhalf, hboth, hnothing, hnever⟩ := htold.tells
      refine ⟨fun pre m r post hadded => ?_, hhalf, hboth, fun e hmem => ?_, hnever⟩
      · have hsent : sent = offers pre ++ (m, r) :: offers post := hoffers ▸ offers_split hadded
        obtain ⟨mid, rfl, -⟩ := offered_behind hconsent.offers hadded
        obtain ⟨res, hcourse⟩ := htold.course
        exact ⟨hconsent.allowed hgate hconfirm [] mid, hcourse.protocol_first hsent⟩
      · rw [hout _ fun _ _ h => (by cases h)] at hmem
        refine hnothing e (hmem.resolve_left fun h => ?_)
        cases hconsent with
        | waived => exact absurd h List.not_mem_nil
        | typed => simp at h

end Symmetric

end SwapsackExecute
