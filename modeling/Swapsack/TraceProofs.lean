import Swapsack.OutboxProofs

/-! # What a computation adds to a trace

    A state that keeps a trace of what has been done only ever gets more of it.  `Adds`
    says what a computation adds, together with how it ends; it is put together the way
    the computation is.

    * `Adds.bind` — what a sequence adds is what its parts add, one behind the other;
    * `Adds.mono` — a weaker account;
    * `adds_offerAll` — the messages of an outbox are such a trace;
    * `split_behind`, `split_before` — where in a trace something was done. -/

namespace Trace

open Failover Outbox

variable {σ μ ε α β : Type} {trace : σ → List μ}

/-- From any state, the trace gets longer by something that `Q` allows with the outcome. -/
def Adds (trace : σ → List μ) (x : EStateM ε σ α) (Q : Except ε α → List μ → Prop) : Prop :=
  ∀ s, ∃ added, trace (final (x s)) = trace s ++ added ∧ Q (outcome (x s)) added

variable {x : EStateM ε σ α} {f : α → EStateM ε σ β} {Q R : Except ε α → List μ → Prop}
  {P : Except ε β → List μ → Prop}

/-- What is known of the trace may be said less sharply. -/
theorem Adds.mono (h : Adds trace x R) (himp : ∀ r added, R r added → Q r added) :
    Adds trace x Q := by
  intro s
  obtain ⟨added, htrace, hR⟩ := h s
  exact ⟨added, htrace, himp _ _ hR⟩

/-- A value adds nothing to it. -/
theorem adds_pure {a : α} (h : Q (.ok a) []) : Adds trace (pure a : EStateM ε σ α) Q :=
  fun s => ⟨[], (List.append_nil (trace s)).symm, h⟩

/-- Nor does what is raised. -/
theorem adds_throw {e : ε} (h : Q (.error e) []) : Adds trace (throw e : EStateM ε σ α) Q :=
  fun s => ⟨[], (List.append_nil (trace s)).symm, h⟩

/-- **One behind the other.** -/
theorem Adds.bind (hx : Adds trace x R)
    (hok : ∀ a added, R (.ok a) added → Adds trace (f a) fun r more => P r (added ++ more))
    (herror : ∀ e added, R (.error e) added → P (.error e) added) : Adds trace (x >>= f) P := by
  intro s
  obtain ⟨added, htrace, hR⟩ := hx s
  rw [bind_run]
  cases hrun : x s with
  | error e t =>
      rw [hrun] at htrace hR
      exact ⟨added, htrace, herror e added hR⟩
  | ok a t =>
      rw [hrun] at htrace hR
      obtain ⟨more, hmore, hP⟩ := hok a added hR t
      refine ⟨added ++ more, ?_, hP⟩
      dsimp only
      rw [hmore, ← List.append_assoc, ← htrace]
      rfl

/-- Of two branches each adds what it adds. -/
theorem Adds.ite {p : Prop} [Decidable p] {y : EStateM ε σ α} (hx : p → Adds trace x Q)
    (hy : ¬p → Adds trace y Q) : Adds trace (if p then x else y) Q := by
  by_cases hp : p
  · rw [if_pos hp]
    exact hx hp
  · rw [if_neg hp]
    exact hy hp

/-- The offers of an outbox. -/
theorem adds_offerAll {M S N T : Type} (serve : M → N → S × N) (verdict : S → Except ε T) (t : T)
    (ms : List M) : Adds Wire.sent (offerAll serve verdict t ms) fun r sent =>
      Went verdict t ms sent r :=
  fun w => offerAll_went serve verdict t ms w

/-- A message that is offered is added, with what it was served. -/
theorem adds_offer {M S N : Type} {serve : M → N → S × N} {m : M}
    {Q : Except ε S → List (M × S) → Prop} (h : ∀ r, Q (.ok r) [(m, r)]) :
    Adds Wire.sent (offer serve m) Q :=
  fun w => ⟨[(m, (serve m w.net).1)], rfl, h _⟩

/-! ## Places in a trace -/

/-- A place behind the first part is in the second. -/
theorem split_behind {a b pre post : List μ} {m : μ} (hm : m ∉ a) (h : a ++ b = pre ++ m :: post) :
    ∃ mid, pre = a ++ mid ∧ b = mid ++ m :: post := by
  rcases List.append_eq_append_iff.mp h with ⟨mid, hpre, hb⟩ | ⟨mid, ha, hpost⟩
  · exact ⟨mid, hpre, hb⟩
  · cases mid with
    | nil => exact ⟨[], by rw [ha, List.append_nil, List.append_nil], hpost.symm⟩
    | cons m' mid =>
        cases hpost
        exact absurd (ha ▸ List.mem_append_right pre List.mem_cons_self) hm

/-- A place that is not in the second part is in the first. -/
theorem split_before {a b pre post : List μ} {m : μ} (hm : m ∉ b) (h : a ++ b = pre ++ m :: post) :
    ∃ mid, a = pre ++ m :: mid ∧ post = mid ++ b := by
  rcases List.append_eq_append_iff.mp h with ⟨mid, hpre, hb⟩ | ⟨mid, ha, hpost⟩
  · exact absurd (hb ▸ List.mem_append_right mid List.mem_cons_self) hm
  · cases mid with
    | nil =>
        rw [List.nil_append] at hpost
        exact absurd (hpost ▸ List.mem_cons_self) hm
    | cons m' mid =>
        cases hpost
        exact ⟨mid, ha, rfl⟩

end Trace
