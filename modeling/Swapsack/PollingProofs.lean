import Mathlib.Algebra.Order.Field.Rat
import Mathlib.Data.Rat.Floor
import Mathlib.Tactic.FieldSimp
import Mathlib.Tactic.Linarith
import Swapsack.TraceProofs

/-! # Polling against a clock

    One message is offered again and again until a reply shows something or a deadline
    has passed, with a pause in between.  A clock is what its readings during the wait
    were; a pause never lasts less than it was asked to, so the wait ends.

    * `adds_poll` — what a wait offers, how often at most, and that it does not give up
      before the deadline. -/

namespace Polling

open Failover Outbox Trace

/-- The readings of a monotonic clock, with a pause between any two of them. -/
structure Clock (interval : ℚ) where
  positive : 0 < interval
  start : ℚ
  read : ℕ → ℚ
  first : start ≤ read 0
  sleeps : ∀ i, read i + interval ≤ read (i + 1)

variable {M R N ε α : Type} {interval : ℚ}

/-- The pauses that are left at a reading before a deadline. -/
def Clock.left (clock : Clock interval) (deadline : ℚ) (i : ℕ) : ℕ :=
  ⌈(deadline - clock.read i) / interval⌉₊

/-- A pause before the deadline is one less to go. -/
theorem Clock.left_succ (clock : Clock interval) {deadline : ℚ} {i : ℕ}
    (h : ¬ deadline ≤ clock.read i) :
    clock.left deadline (i + 1) + 1 ≤ clock.left deadline i := by
  have hbefore : 0 < (deadline - clock.read i) / interval :=
    div_pos (sub_pos.mpr (not_le.mp h)) clock.positive
  have hstep : (deadline - clock.read (i + 1)) / interval
      ≤ (deadline - clock.read i) / interval - 1 := by
    rw [div_sub_one clock.positive.ne']
    refine div_le_div_of_nonneg_right ?_ clock.positive.le
    linarith [clock.sleeps i]
  calc clock.left deadline (i + 1) + 1
      ≤ ⌈(deadline - clock.read i) / interval - 1⌉₊ + 1 :=
        Nat.add_le_add_right (Nat.ceil_mono hstep) 1
    _ = clock.left deadline i := by
        rw [Nat.ceil_sub_one, Nat.sub_add_cancel (Nat.ceil_pos.mpr hbefore)]
        rfl

section Poll

variable (serve : M → N → R × N) (look : R → Except ε (Option α)) (clock : Clock interval)
  (deadline : ℚ) (m : M)

/-- Ask, until something is found or the deadline has passed. -/
def pollFrom (i : ℕ) : EStateM ε (Wire M R N) (Option α) := do
  let r ← offer serve m
  let found ← judge look r
  match found with
  | some a => pure (some a)
  | none =>
      if deadline ≤ clock.read i then pure none
      else pollFrom (i + 1)
termination_by clock.left deadline i
decreasing_by exact clock.left_succ ‹_›

/-- What a wait offers, and what it comes to. -/
inductive Polled : List (M × R) → Except ε (Option α) → Prop
  | found {r : R} {a : α} (h : look r = .ok (some a)) : Polled [(m, r)] (.ok (some a))
  | failed {r : R} {e : ε} (h : look r = .error e) : Polled [(m, r)] (.error e)
  | timedOut {r : R} (h : look r = .ok none) : Polled [(m, r)] (.ok none)
  | missed {r : R} {rest : List (M × R)} {res : Except ε (Option α)} (h : look r = .ok none)
      (hrest : Polled rest res) : Polled ((m, r) :: rest) res

variable {look m} in
/-- Only the one message is offered. -/
theorem Polled.all {sent : List (M × R)} {res : Except ε (Option α)}
    (h : Polled look m sent res) : ∀ p ∈ sent, p.1 = m := by
  induction h with
  | found | failed | timedOut =>
      intro p hp
      rw [List.mem_singleton.mp hp]
  | missed _ _ ih =>
      intro p hp
      rcases List.mem_cons.mp hp with rfl | hp
      · rfl
      · exact ih p hp

variable {look m} in
/-- What is found is what the last reply showed. -/
theorem Polled.last {sent : List (M × R)} {res : Except ε (Option α)} {a : α}
    (h : Polled look m sent res) (hres : res = .ok (some a)) :
    ∃ r ∈ sent.getLast?, look r.2 = .ok (some a) := by
  induction h with
  | found h =>
      cases hres
      exact ⟨_, rfl, h⟩
  | failed | timedOut => cases hres
  | missed _ hrest ih =>
      obtain ⟨p, hp, hlook⟩ := ih hres
      refine ⟨p, ?_, hlook⟩
      rw [Option.mem_def] at hp ⊢
      rw [List.getLast?_cons, hp]
      rfl

/-- **A wait** asks at most once for each pause that is left and once more, and does not
    give up before the deadline. -/
theorem adds_poll (i : ℕ) :
    Adds Wire.sent (pollFrom serve look clock deadline m i) fun res sent =>
      Polled look m sent res ∧ sent.length ≤ clock.left deadline i + 1
        ∧ (res = .ok none → ∃ j, i + sent.length = j + 1 ∧ deadline ≤ clock.read j) := by
  -- by what is left until the deadline, which every pause makes less
  generalize hn : clock.left deadline i = n
  induction n using Nat.strong_induction_on generalizing i with
  | _ n ih =>
    rw [pollFrom]
    have hoffer : Adds Wire.sent (offer serve m : EStateM ε (Wire M R N) R) fun r sent =>
        ∃ reply, r = .ok reply ∧ sent = [(m, reply)] := adds_offer fun r => ⟨r, rfl, rfl⟩
    refine hoffer.bind ?_ ?_
    · rintro r sent ⟨reply, hreply, rfl⟩
      cases hreply
      unfold judge
      cases hlook : look r with
      | error e =>
          refine adds_throw ⟨.failed hlook, Nat.le_add_left _ _, fun h => (by cases h)⟩
      | ok found =>
          rw [pure_bind]
          cases found with
          | some a => exact adds_pure ⟨.found hlook, Nat.le_add_left _ _, fun h => (by cases h)⟩
          | none =>
              refine Adds.ite (fun hover => ?_) fun hbefore => ?_
              · exact adds_pure ⟨.timedOut hlook, Nat.le_add_left _ _, fun _ => ⟨i, rfl, hover⟩⟩
              · have hleft := clock.left_succ hbefore
                rw [hn] at hleft
                refine (ih _ hleft (i + 1) rfl).mono fun res more hmore => ?_
                obtain ⟨hpolled, hlength, hdeadline⟩ := hmore
                refine ⟨.missed hlook hpolled, ?_, fun hres => ?_⟩
                · rw [List.singleton_append, List.length_cons]
                  omega
                · obtain ⟨j, hj, hread⟩ := hdeadline hres
                  refine ⟨j, ?_, hread⟩
                  rw [List.singleton_append, List.length_cons]
                  omega
    · rintro e sent ⟨reply, hreply, -⟩
      cases hreply

end Poll

end Polling
