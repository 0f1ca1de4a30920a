import Swapsack.FailoverProofs

/-! # Offering messages in turn

    Messages go out over a network one by one, and stop at the first that is
    refused.  What went out is kept, with what each drew.

    * `offerAll_went` — a run offers some first messages, and its outcome is what
      the last of them drew;
    * `Went.ok`, `Went.error` — one that returns offered them all, and one that
      raises was stopped by the last it offered. -/

namespace Outbox

open Failover

variable {M R N ε T : Type}

/-- The network, and what has been offered to it. -/
structure Wire (M R N : Type) where
  net : N
  sent : List (M × R)

variable (serve : M → N → R × N) (verdict : R → Except ε T)

/-- Offer one message, for what it draws. -/
def offer (m : M) : EStateM ε (Wire M R N) R := fun w =>
  let r := serve m w.net
  .ok r.1 { net := r.2, sent := w.sent ++ [(m, r.1)] }

/-- What a reply is taken for. -/
def judge {σ : Type} (r : R) : EStateM ε σ T :=
  match verdict r with
  | .ok t => pure t
  | .error e => throw e

/-- Offer messages until one is refused; the last verdict is returned. -/
def offerAll : T → List M → EStateM ε (Wire M R N) T
  | t, [] => pure t
  | _, m :: ms => do
      let r ← offer serve m
      let t ← judge verdict r
      offerAll t ms

/-- What some messages come to: all of them taken, or the first ones and a
    refusal. -/
inductive Went : T → List M → List (M × R) → Except ε T → Prop
  | done (t : T) : Went t [] [] (.ok t)
  | taken {t t' : T} {m : M} {ms : List M} {r : R} {sent : List (M × R)}
      {result : Except ε T} (h : verdict r = .ok t') (rest : Went t' ms sent result) :
      Went t (m :: ms) ((m, r) :: sent) result
  | refused {t : T} {m : M} {ms : List M} {r : R} {e : ε} (h : verdict r = .error e) :
      Went t (m :: ms) [(m, r)] (.error e)

/-- **A run** adds what it offers, and ends as that went. -/
theorem offerAll_went (t : T) (ms : List M) (w : Wire M R N) :
    ∃ sent, (final (offerAll serve verdict t ms w)).sent = w.sent ++ sent
      ∧ Went verdict t ms sent (outcome (offerAll serve verdict t ms w)) := by
  induction ms generalizing t w with
  | nil => exact ⟨[], (List.append_nil _).symm, .done t⟩
  | cons m ms ih =>
      rw [offerAll, bind_run, offer]
      dsimp only
      rw [bind_run, judge]
      cases hv : verdict (serve m w.net).1 with
      | error e => exact ⟨_, rfl, .refused hv⟩
      | ok t' =>
          simp only [pure_run]
          obtain ⟨sent, hsent, hwent⟩ := ih t'
            { net := (serve m w.net).2, sent := w.sent ++ [(m, (serve m w.net).1)] }
          refine ⟨(m, (serve m w.net).1) :: sent, ?_, .taken hv hwent⟩
          rw [hsent, List.append_assoc, List.singleton_append]

variable {serve verdict}

/-- Only the messages given are offered. -/
theorem Went.mem {t : T} {ms : List M} {sent : List (M × R)} {result : Except ε T}
    (h : Went verdict t ms sent result) : ∀ p ∈ sent, p.1 ∈ ms := by
  induction h with
  | done t => exact fun p hp => absurd hp List.not_mem_nil
  | taken h rest ih =>
      intro p hp
      rcases List.mem_cons.mp hp with rfl | hp
      · exact List.mem_cons_self
      · exact List.mem_cons_of_mem _ (ih p hp)
  | refused h =>
      intro p hp
      rw [List.mem_singleton.mp hp]
      exact List.mem_cons_self

/-- What comes before an offer are the messages before it, each of them taken. -/
theorem Went.before {t : T} {ms : List M} {sent : List (M × R)} {result : Except ε T}
    (h : Went verdict t ms sent result) {pre post : List (M × R)} {m : M} {r : R}
    (hsent : sent = pre ++ (m, r) :: post) :
    (∃ rest, ms = pre.map Prod.fst ++ m :: rest) ∧ ∀ p ∈ pre, ∃ t, verdict p.2 = .ok t := by
  induction h generalizing pre with
  | done t => exact absurd hsent (by simp)
  | taken h rest ih =>
      cases pre with
      | nil =>
          cases hsent
          exact ⟨⟨_, rfl⟩, fun p hp => absurd hp List.not_mem_nil⟩
      | cons q pre =>
          cases hsent
          obtain ⟨⟨behind, rfl⟩, htaken⟩ := ih rfl
          refine ⟨⟨behind, rfl⟩, fun p hp => ?_⟩
          rcases List.mem_cons.mp hp with rfl | hp
          · exact ⟨_, h⟩
          · exact htaken p hp
  | refused h =>
      cases pre with
      | nil =>
          cases hsent
          exact ⟨⟨_, rfl⟩, fun p hp => absurd hp List.not_mem_nil⟩
      | cons q pre => exact absurd hsent (by simp)

/-- A run that returns offered every message, and each was taken. -/
theorem Went.ok {t t' : T} {ms : List M} {sent : List (M × R)} {result : Except ε T}
    (h : Went verdict t ms sent result) (hok : result = .ok t') :
    sent.map Prod.fst = ms ∧ ∀ p ∈ sent, ∃ t, verdict p.2 = .ok t := by
  induction h with
  | done t => exact ⟨rfl, fun p hp => absurd hp List.not_mem_nil⟩
  | taken h rest ih =>
      obtain ⟨hms, htaken⟩ := ih hok
      refine ⟨by rw [List.map_cons, hms], fun p hp => ?_⟩
      rcases List.mem_cons.mp hp with rfl | hp
      · exact ⟨_, h⟩
      · exact htaken p hp
  | refused h => cases hok

/-- A run raises what the one refusal among the offers says. -/
theorem Went.error {t : T} {ms : List M} {sent : List (M × R)} {result : Except ε T} {e : ε}
    (h : Went verdict t ms sent result) :
    result = .error e ↔ ∃ p ∈ sent, verdict p.2 = .error e := by
  induction h with
  | done t => exact ⟨fun h => (by cases h), fun ⟨p, hp, _⟩ => absurd hp List.not_mem_nil⟩
  | taken h rest ih =>
      rw [ih]
      constructor
      · rintro ⟨p, hp, he⟩
        exact ⟨p, List.mem_cons_of_mem _ hp, he⟩
      · rintro ⟨p, hp, he⟩
        rcases List.mem_cons.mp hp with rfl | hp
        · rw [h] at he
          cases he
        · exact ⟨p, hp, he⟩
  | refused h =>
      constructor
      · intro he
        cases he
        exact ⟨_, List.mem_cons_self, h⟩
      · rintro ⟨p, hp, he⟩
        rw [List.mem_singleton.mp hp] at he
        rw [← he, h]

/-- One message alone is the verdict on its reply. -/
theorem Went.one {t : T} {m : M} {sent : List (M × R)} {result : Except ε T}
    (h : Went verdict t [m] sent result) : ∃ r, sent = [(m, r)] ∧ result = verdict r := by
  cases h with
  | taken h rest =>
      cases rest
      exact ⟨_, rfl, h.symm⟩
  | refused h => exact ⟨_, rfl, h.symm⟩

end Outbox
