import Mathlib.Logic.Function.Basic
import Mathlib.Data.List.Basic

/-! # Failing over between servers

    A client keeps a list of servers and a pin on the one that last answered.
    An operation is a conversation with one server; when it breaks because the
    server is down, the whole operation runs again on the next one.

    * `failOver_up` — a server that is up is the one that answers;
    * `failOver_down` — one that is down is passed over, and only its own state
      has moved;
    * `failOver_second` — so when the first is down and the second up, the
      answer is the second's own, and the pin follows. -/

namespace Failover

variable {ι S C ε α β : Type}

/-! ## Conversations -/

/-- What a client sees and can change: the state of each server, the pin, and
    the variables its attempts share. -/
structure World (ι S C : Type) where
  servers : ι → S
  pinned : ι
  shared : C

/-- The outcome of a computation, without the state it ends in. -/
def outcome (r : EStateM.Result ε S α) : Except ε α :=
  match r with
  | .ok a _ => .ok a
  | .error e _ => .error e

/-- The state a computation ends in, whether it returned or raised. -/
def final (r : EStateM.Result ε S α) : S :=
  match r with
  | .ok _ s => s
  | .error _ s => s

/-- The value of a run that returned. -/
@[simp] theorem outcome_ok (a : α) (s : S) :
    outcome (.ok a s : EStateM.Result ε S α) = .ok a := rfl

@[simp] theorem outcome_error (e : ε) (s : S) :
    outcome (.error e s : EStateM.Result ε S α) = .error e := rfl

@[simp] theorem final_ok (a : α) (s : S) :
    final (.ok a s : EStateM.Result ε S α) = s := rfl

@[simp] theorem final_error (e : ε) (s : S) :
    final (.error e s : EStateM.Result ε S α) = s := rfl

variable [DecidableEq ι]

/-- The world after a conversation with one server. -/
def World.after (w : World ι S C) (i : ι) (s : S × C) : World ι S C where
  servers := Function.update w.servers i s.1
  pinned := w.pinned
  shared := s.2

/-- A conversation with server `i`: no other server hears of it. -/
def onServer (i : ι) (op : EStateM ε (S × C) α) : EStateM ε (World ι S C) α := fun w =>
  match op (w.servers i, w.shared) with
  | .ok a s => .ok a (w.after i s)
  | .error e s => .error e (w.after i s)

/-- Try the servers in order, going on while they are down; the one that
    answers is pinned.  The last one's failure is raised as it is. -/
def failOver (isDown : ε → Bool) (op : ι → EStateM ε (S × C) α) :
    ι → List ι → EStateM ε (World ι S C) α
  | i, [], w =>
      match onServer i (op i) w with
      | .ok a w => .ok a { w with pinned := i }
      | .error e w => .error e w
  | i, j :: rest, w =>
      match onServer i (op i) w with
      | .ok a w => .ok a { w with pinned := i }
      | .error e w => if isDown e then failOver isDown op j rest w else .error e w

/-- The servers from the pinned one on, round to the one before it. -/
def ordered (candidates : List ι) (pinned : ι) : List ι :=
  candidates.drop (candidates.idxOf pinned) ++ candidates.take (candidates.idxOf pinned)

/-- A conversation with variables of its own, which it hands back. -/
def withLocals {D : Type} (d : D) (x : EStateM ε (S × D) α) : EStateM ε (S × C) (α × D) :=
  fun s =>
    match x (s.1, d) with
    | .ok a t => .ok (a, t.2) (t.1, s.2)
    | .error e t => .error e (t.1, s.2)

/-! ## What a computation can raise -/

section Raising

variable {σ : Type} {P Q : ε → Prop} {x : EStateM ε σ α} {f : α → EStateM ε σ β}

/-- Whatever it raises satisfies `P`. -/
def Raises (P : ε → Prop) (x : EStateM ε σ α) : Prop :=
  ∀ s e, outcome (x s) = .error e → P e

/-- Sequencing, on the state it is run on. -/
theorem bind_run (s : σ) : (x >>= f) s = match x s with
    | .ok a t => f a t
    | .error e t => .error e t := by
  show EStateM.bind x f s = _
  unfold EStateM.bind
  cases x s <;> rfl

@[simp] theorem pure_run (a : α) (s : σ) : (pure a : EStateM ε σ α) s = .ok a s := rfl

@[simp] theorem throw_run (e : ε) (s : σ) : (throw e : EStateM ε σ α) s = .error e s := rfl

/-- What fails first fails, whatever was to come. -/
theorem outcome_bind_error {s : σ} {e : ε} (h : outcome (x s) = .error e) :
    outcome ((x >>= f) s) = .error e := by
  rw [bind_run]
  cases hx : x s with
  | ok a t =>
      rw [hx] at h
      cases h
  | error e' t =>
      rw [hx] at h
      cases h
      rfl

/-- What is made of a result afterwards does not change whether there is one. -/
theorem outcome_bind_pure (g : α → β) (s : σ) :
    outcome ((x >>= fun a => pure (g a)) s) = (outcome (x s)).map g := by
  rw [bind_run]
  cases x s <;> rfl

/-- Nor does it change the state. -/
theorem final_bind_pure (g : α → β) (s : σ) :
    final ((x >>= fun a => pure (g a)) s) = final (x s) := by
  rw [bind_run]
  cases x s <;> rfl

/-- A value raises nothing. -/
theorem raises_pure (a : α) : Raises P (pure a : EStateM ε σ α) := by
  intro s e h
  cases h

/-- What is raised on purpose is what it is. -/
theorem raises_throw {e : ε} (h : P e) : Raises P (throw e : EStateM ε σ α) := by
  intro s e' he
  cases he
  exact h

/-- Of two steps each raises only what it may. -/
theorem Raises.bind (hx : Raises P x) (hf : ∀ a, Raises P (f a)) : Raises P (x >>= f) := by
  intro s e h
  rw [bind_run] at h
  cases hs : x s with
  | ok a t =>
      rw [hs] at h
      exact hf a t e h
  | error e' t =>
      rw [hs] at h
      cases h
      exact hx s e (by rw [hs]; rfl)

/-- Variables of its own change nothing of what a step raises. -/
theorem Raises.withLocals {D : Type} {d : D} {y : EStateM ε (S × D) α} (hy : Raises P y) :
    Raises P (withLocals (C := C) d y) := by
  intro s e h
  rw [Failover.withLocals] at h
  cases hs : y (s.1, d) with
  | ok a t =>
      rw [hs] at h
      cases h
  | error e' t =>
      rw [hs] at h
      cases h
      exact hy (s.1, d) e (by rw [hs]; rfl)

end Raising

/-! ## The order -/

/-- The pinned candidate is asked first. -/
theorem ordered_eq_cons {candidates : List ι} {pinned : ι} (h : pinned ∈ candidates) :
    ∃ rest, ordered candidates pinned = pinned :: rest := by
  have hlt : candidates.idxOf pinned < candidates.length := List.idxOf_lt_length_iff.mpr h
  rw [ordered, List.drop_eq_getElem_cons hlt, List.getElem_idxOf hlt]
  exact ⟨_, rfl⟩

/-- None is left out, and none asked twice. -/
theorem length_ordered (candidates : List ι) (pinned : ι) :
    (ordered candidates pinned).length = candidates.length := by
  rw [ordered, List.length_append, List.length_drop, List.length_take]
  have hle : candidates.idxOf pinned ≤ candidates.length := List.idxOf_le_length
  omega

/-! ## What one server does -/

@[simp] theorem after_servers_self (w : World ι S C) (i : ι) (s : S × C) :
    (w.after i s).servers i = s.1 := Function.update_self ..

/-- A call changes no other server. -/
@[simp] theorem after_servers_of_ne {w : World ι S C} {i j : ι} (s : S × C) (h : j ≠ i) :
    (w.after i s).servers j = w.servers j := Function.update_of_ne h ..

/-- Nor who is pinned. -/
@[simp] theorem after_pinned (w : World ι S C) (i : ι) (s : S × C) :
    (w.after i s).pinned = w.pinned := rfl

/-- What the servers share is what the call left of it. -/
@[simp] theorem after_shared (w : World ι S C) (i : ι) (s : S × C) :
    (w.after i s).shared = s.2 := rfl

/-! ## Passing over and stopping -/

/-- A conversation that does not break down is the answer, whoever comes next. -/
theorem failOver_up (isDown : ε → Bool) (op : ι → EStateM ε (S × C) α) {i : ι}
    {w : World ι S C} (rest : List ι)
    (hup : ∀ e, outcome (op i (w.servers i, w.shared)) = .error e → isDown e = false) :
    outcome (failOver isDown op i rest w) = outcome (op i (w.servers i, w.shared))
    ∧ final (failOver isDown op i rest w) =
      { w.after i (final (op i (w.servers i, w.shared))) with
        pinned :=
          match outcome (op i (w.servers i, w.shared)) with
          | .ok _ => i
          | .error _ => w.pinned } := by
  cases rest with
  | nil =>
      rw [failOver, onServer]
      cases op i (w.servers i, w.shared) <;> exact ⟨rfl, rfl⟩
  | cons j rest =>
      rw [failOver, onServer]
      cases hop : op i (w.servers i, w.shared) with
      | ok a s => exact ⟨rfl, rfl⟩
      | error e s =>
          have hnot : isDown e = false := hup e (by rw [hop]; rfl)
          simp only [hnot, Bool.false_eq_true, if_false]
          exact ⟨rfl, rfl⟩

/-- An answer ends the search, and pins the server that gave it. -/
theorem failOver_ok {isDown : ε → Bool} {op : ι → EStateM ε (S × C) α} {i : ι}
    {w : World ι S C} {a : α} {s : S × C} (rest : List ι)
    (hop : op i (w.servers i, w.shared) = .ok a s) :
    failOver isDown op i rest w = .ok a { w.after i s with pinned := i } := by
  cases rest <;> rw [failOver, onServer, hop]

/-- A conversation that breaks down is passed over. -/
theorem failOver_down {isDown : ε → Bool} {op : ι → EStateM ε (S × C) α} {i j : ι}
    {rest : List ι} {w : World ι S C} {e : ε}
    (hop : outcome (op i (w.servers i, w.shared)) = .error e) (hdown : isDown e = true) :
    failOver isDown op i (j :: rest) w
      = failOver isDown op j rest (w.after i (final (op i (w.servers i, w.shared)))) := by
  rw [failOver, onServer]
  cases h : op i (w.servers i, w.shared) with
  | ok a s =>
      rw [h] at hop
      cases hop
  | error e' s =>
      rw [h] at hop
      cases hop
      simp only [hdown, if_true]
      rfl

/-- **Down, then up.**  When the first server is down and the second is not, the
    outcome is what the second gives to a client of its own, and if that is an
    answer the pin is on it. -/
theorem failOver_second (isDown : ε → Bool) (op : ι → EStateM ε (S × C) α) {i j : ι}
    (rest : List ι) {w : World ι S C} {e : ε} (hne : j ≠ i)
    (hop : outcome (op i (w.servers i, w.shared)) = .error e) (hdown : isDown e = true)
    (hshared : (final (op i (w.servers i, w.shared))).2 = w.shared)
    (hup : ∀ e, outcome (op j (w.servers j, w.shared)) = .error e → isDown e = false) :
    outcome (failOver isDown op i (j :: rest) w)
      = outcome (failOver isDown op j [] { w with pinned := j })
    ∧ ((outcome (failOver isDown op i (j :: rest) w)).isOk →
      (final (failOver isDown op i (j :: rest) w)).pinned = j) := by
  have hsame : ((w.after i (final (op i (w.servers i, w.shared)))).servers j,
      (w.after i (final (op i (w.servers i, w.shared)))).shared)
      = (w.servers j, w.shared) := by
    rw [after_servers_of_ne _ hne, after_shared, hshared]
  have hrun := failOver_up isDown op (i := j) rest
    (w := w.after i (final (op i (w.servers i, w.shared))))
    (by rw [hsame]; exact hup)
  rw [hsame] at hrun
  rw [failOver_down hop hdown]
  refine ⟨hrun.1.trans ?_, fun hok => ?_⟩
  · exact (failOver_up isDown op (i := j) []
      (w := { w with pinned := j }) hup).1.symm
  · rw [hrun.1] at hok
    rw [hrun.2]
    cases hj : outcome (op j (w.servers j, w.shared)) with
    | ok a => rfl
    | error e =>
        rw [hj] at hok
        cases hok

end Failover
