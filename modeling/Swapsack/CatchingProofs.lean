import Mathlib.Data.List.Basic

/-! # What a `try` statement catches

    A block reads one thing after another, and a `try` around it turns some of
    the exceptions into the one its callers expect.  Each read goes well, raises
    something that is caught, or raises something that escapes; the first that
    does not go well decides.

    * `guarded_iff` — nothing escapes when every read that would is behind one
      that is caught;
    * `readOf_bind`, `readOf_mapM` — the reads of a sequence are those of its
      parts;
    * `settled_attempt` — how the `try` statement ends. -/

namespace Catching

variable {α β δ ε : Type}

/-- What becomes of a read. -/
inductive Read where
  | fine
  | caught
  | escapes
deriving DecidableEq

/-- The first read that does not go well. -/
def ending : List Read → Read
  | [] => .fine
  | .fine :: reads => ending reads
  | read :: _ => read

/-- Every read that would escape is behind one that is caught. -/
def Guarded (reads : List Read) : Prop :=
  ∀ before behind, reads = before ++ .escapes :: behind → .caught ∈ before

theorem ending_append (reads more : List Read) :
    ending (reads ++ more) = if ending reads = .fine then ending more else ending reads := by
  induction reads with
  | nil => rfl
  | cons read l ih =>
      cases read with
      | fine => exact ih
      | caught => rfl
      | escapes => rfl

theorem guarded_fine (reads : List Read) : Guarded (.fine :: reads) ↔ Guarded reads := by
  constructor
  · intro h before behind hreads
    have hmem := h (.fine :: before) behind (by rw [hreads]; rfl)
    rcases List.mem_cons.mp hmem with heq | hmem
    · cases heq
    · exact hmem
  · intro h before behind hreads
    cases before with
    | nil => cases hreads
    | cons first before =>
        obtain ⟨-, htail⟩ := List.cons.inj hreads
        exact List.mem_cons_of_mem _ (h before behind htail)

/-- **Nothing escapes** when every read that would is behind one that is caught. -/
theorem guarded_iff (reads : List Read) : Guarded reads ↔ ending reads ≠ .escapes := by
  induction reads with
  | nil =>
      refine iff_of_true ?_ ?_
      · intro before behind h
        exact absurd (congrArg List.length h) (by simp)
      · intro h
        cases h
  | cons read l ih =>
      cases read with
      | fine => exact (guarded_fine l).trans ih
      | caught =>
          refine iff_of_true ?_ ?_
          · intro before behind h
            cases before with
            | nil => cases h
            | cons first before =>
                obtain ⟨hfirst, -⟩ := List.cons.inj h
                rw [← hfirst]
                exact List.mem_cons_self
          · intro h
            cases h
      | escapes =>
          refine iff_of_false ?_ ?_
          · intro h
            exact absurd (h [] l rfl) List.not_mem_nil
          · intro h
            exact h rfl

instance (reads : List Read) : Decidable (Guarded reads) :=
  decidable_of_iff _ (guarded_iff reads).symm

section Block

variable {catches : ε → Bool}

/-- What becomes of a block. -/
def readOf (catches : ε → Bool) : Except ε α → Read
  | .ok _ => .fine
  | .error e => if catches e then .caught else .escapes

/-- **A sequence** reads what its first part reads, and then the rest. -/
theorem readOf_bind {x : Except ε α} {f : α → Except ε β} {reads more : List Read}
    (hx : readOf catches x = ending reads)
    (hf : ∀ a, x = .ok a → readOf catches (f a) = ending more) :
    readOf catches (x >>= f) = ending (reads ++ more) := by
  rw [ending_append, ← hx]
  cases x with
  | ok a => exact hf a rfl
  | error e =>
      show readOf catches (.error e : Except ε β) = _
      cases hcaught : catches e with
      | true => simp only [readOf, hcaught, if_true, reduceCtorEq, if_false]
      | false => simp only [readOf, hcaught, Bool.false_eq_true, if_false, reduceCtorEq]

/-- A part that reads one thing. -/
theorem readOf_step {x : Except ε α} {f : α → Except ε β} {read : Read} {more : List Read}
    (hx : readOf catches x = read)
    (hf : ∀ a, x = .ok a → readOf catches (f a) = ending more) :
    readOf catches (x >>= f) = ending (read :: more) := by
  have hone : readOf catches x = ending [read] := by
    rw [hx]
    cases read with
    | fine => rfl
    | caught => rfl
    | escapes => rfl
  exact readOf_bind hone hf

/-- **A loop** reads what its rounds read. -/
theorem readOf_mapM {f : α → Except ε β} {read : α → Read}
    (h : ∀ a, readOf catches (f a) = read a) (l : List α) :
    readOf catches (l.mapM f) = ending (l.map read) := by
  induction l with
  | nil => rfl
  | cons a l ih =>
      rw [List.mapM_cons]
      refine readOf_step (h a) fun b _ => ?_
      rw [← List.append_nil (l.map read)]
      exact readOf_bind ih fun r _ => rfl

/-! ## The statement -/

/-- How a `try` statement can fail: with the exception its callers expect, or
    with one that escapes it. -/
inductive Failure (δ ε : Type) where
  | raised (e : δ)
  | escaped (e : ε)
deriving DecidableEq

/-- `try: … except …: raise …`. -/
def attempt (catches : ε → Bool) (convert : ε → δ) (x : Except ε α) : Except (Failure δ ε) α :=
  x.mapError fun e => if catches e then .raised (convert e) else .escaped e

/-- A result, or the exception the callers expect. -/
def Settled (x : Except (Failure δ ε) α) : Prop := (∃ a, x = .ok a) ∨ ∃ e, x = .error (.raised e)

theorem settled_ok (a : α) : Settled (.ok a : Except (Failure δ ε) α) := Or.inl ⟨a, rfl⟩

theorem settled_raised (e : δ) : Settled (.error (.raised e) : Except (Failure δ ε) α) :=
  Or.inr ⟨e, rfl⟩

theorem not_settled_escaped (e : ε) :
    ¬ Settled (.error (.escaped e) : Except (Failure δ ε) α) := by
  rintro (⟨a, h⟩ | ⟨e', h⟩)
  · cases h
  · cases h

/-- **How it ends**: as its callers expect, unless what the block raises escapes. -/
theorem settled_attempt (convert : ε → δ) (x : Except ε α) :
    Settled (attempt catches convert x) ↔ readOf catches x ≠ .escapes := by
  cases x with
  | ok a =>
      refine iff_of_true (settled_ok a) ?_
      intro h
      cases h
  | error e =>
      show Settled (.error (if catches e then .raised (convert e) else .escaped e)) ↔
        (if catches e then Read.caught else .escapes) ≠ .escapes
      cases catches e with
      | true =>
          refine iff_of_true (settled_raised _) ?_
          intro h
          cases h
      | false => exact iff_of_false (not_settled_escaped _) fun h => h rfl

end Block

end Catching
