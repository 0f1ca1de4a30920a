import Mathlib.Algebra.BigOperators.Group.List.Basic
import Mathlib.Algebra.GroupWithZero.Nat
import Mathlib.Data.List.Chain

/-! # Filling chunks up to a limit

    A sequence is cut between its elements into chunks of bounded total size,
    each filled before the next is begun.

    * `fill_flatten` — the chunks hold the elements in order;
    * `fill_within` — none is larger than the limit, if no element is;
    * `fill_isChain` — and none could have taken the first element of the next. -/

namespace Chunking

variable {α : Type} (size : α → ℕ) (limit : ℕ)

/-- The total size of a chunk. -/
def total (chunk : List α) : ℕ := (chunk.map size).sum

/-- Fill the current chunk, and begin the next with the element that no longer
    fits; an empty chunk takes any element. -/
def fill : List α → List α → List (List α)
  | [], current => [current]
  | a :: rest, current =>
      if current ≠ [] ∧ limit < total size (current ++ [a]) then current :: fill rest [a]
      else fill rest (current ++ [a])

variable {size limit}

theorem total_singleton (a : α) : total size [a] = size a := List.sum_singleton

/-- What is being filled is the start of the first chunk. -/
theorem fill_head (rest : List α) :
    ∀ current : List α, ∃ chunk chunks, fill size limit rest current = chunk :: chunks
      ∧ current <+: chunk := by
  induction rest with
  | nil => exact fun current => ⟨current, [], rfl, List.prefix_rfl⟩
  | cons a rest ih =>
      intro current
      rw [fill]
      by_cases hfull : current ≠ [] ∧ limit < total size (current ++ [a])
      · rw [if_pos hfull]
        exact ⟨current, _, rfl, List.prefix_rfl⟩
      · rw [if_neg hfull]
        obtain ⟨chunk, chunks, hfill, hpre⟩ := ih (current ++ [a])
        exact ⟨chunk, chunks, hfill, (List.prefix_append current [a]).trans hpre⟩

/-- **The chunks hold the elements in order.** -/
theorem fill_flatten (rest : List α) :
    ∀ current : List α, (fill size limit rest current).flatten = current ++ rest := by
  induction rest with
  | nil =>
      intro current
      rw [fill, List.flatten_singleton, List.append_nil]
  | cons a rest ih =>
      intro current
      rw [fill]
      split
      · rw [List.flatten_cons, ih, List.singleton_append]
      · rw [ih, List.append_assoc, List.singleton_append]

/-- **No chunk is larger than the limit**, if no element is. -/
theorem fill_within {rest : List α} (hrest : ∀ a ∈ rest, size a ≤ limit) :
    ∀ {current : List α}, total size current ≤ limit →
      ∀ chunk ∈ fill size limit rest current, total size chunk ≤ limit := by
  induction rest with
  | nil =>
      intro current hcurrent chunk hchunk
      rw [fill, List.mem_singleton] at hchunk
      rwa [hchunk]
  | cons a rest ih =>
      intro current hcurrent chunk hchunk
      have ha : size a ≤ limit := hrest a List.mem_cons_self
      have hrest' : ∀ b ∈ rest, size b ≤ limit := fun b hb =>
        hrest b (List.mem_cons_of_mem a hb)
      have hsingle : total size [a] ≤ limit := (total_singleton a).trans_le ha
      rw [fill] at hchunk
      by_cases hfull : current ≠ [] ∧ limit < total size (current ++ [a])
      · rw [if_pos hfull] at hchunk
        rcases List.mem_cons.mp hchunk with rfl | hmem
        · exact hcurrent
        · exact ih hrest' hsingle chunk hmem
      · rw [if_neg hfull] at hchunk
        refine ih hrest' ?_ chunk hchunk
        -- either there was room, or the element begins a chunk of its own
        rcases not_and_or.mp hfull with hempty | hroom
        · rw [not_not.mp hempty, List.nil_append]
          exact hsingle
        · exact not_lt.mp hroom

/-- No chunk is empty once one has been begun. -/
theorem fill_ne_nil (rest : List α) :
    ∀ {current : List α}, current ≠ [] → ∀ chunk ∈ fill size limit rest current, chunk ≠ [] := by
  induction rest with
  | nil =>
      intro current hcurrent chunk hchunk
      rw [fill, List.mem_singleton] at hchunk
      rwa [hchunk]
  | cons a rest ih =>
      intro current hcurrent chunk hchunk
      rw [fill] at hchunk
      split at hchunk
      · rcases List.mem_cons.mp hchunk with rfl | hmem
        · exact hcurrent
        · exact ih (List.cons_ne_nil a []) chunk hmem
      · exact ih (List.append_ne_nil_of_right_ne_nil current (List.cons_ne_nil a [])) chunk hchunk

/-- From nothing, an empty chunk comes of an empty sequence only. -/
theorem fill_nil_ne_nil {elements : List α} (h : elements ≠ []) :
    ∀ chunk ∈ fill size limit elements [], chunk ≠ [] := by
  cases elements with
  | nil => exact absurd rfl h
  | cons a rest =>
      rw [fill, if_neg fun hfull => hfull.1 rfl]
      exact fill_ne_nil rest (List.append_ne_nil_of_right_ne_nil [] (List.cons_ne_nil a []))

variable (size limit) in
/-- `next` begins with an element that `chunk` had no room for. -/
def Overflows (chunk next : List α) : Prop :=
  ∃ a rest, next = a :: rest ∧ limit < total size (chunk ++ [a])

/-- **No chunk could have taken the first element of the next.** -/
theorem fill_isChain (rest : List α) :
    ∀ current : List α, (fill size limit rest current).IsChain (Overflows size limit) := by
  induction rest with
  | nil =>
      intro current
      rw [fill]
      exact List.isChain_singleton current
  | cons a rest ih =>
      intro current
      rw [fill]
      by_cases hfull : current ≠ [] ∧ limit < total size (current ++ [a])
      · rw [if_pos hfull]
        have hchain := ih [a]
        have hhead : ∃ next chunks, fill size limit rest [a] = next :: chunks ∧ [a] <+: next :=
          fill_head rest [a]
        obtain ⟨next, chunks, hfill, tail, htail⟩ := hhead
        rw [hfill] at hchain ⊢
        refine List.isChain_cons_cons.mpr ⟨⟨a, tail, ?_, hfull.2⟩, hchain⟩
        rw [← htail, List.singleton_append]
      · rw [if_neg hfull]
        exact ih (current ++ [a])

end Chunking
