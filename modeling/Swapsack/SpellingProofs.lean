import Swapsack.ByteStringProofs

/-! # What a reader accepts

    `Reads` says that a reader gets a value back from its encoding.  This file
    is the other direction: whatever a reader got through, how the bytes it
    went over spell the value.

    * `Spells rd S` — the bytes behind a value that `rd` returned are in `S`,
      as long as the reader did not run past the end;
    * `Spells.bind`, `Spells.many` — spellings compose as readers do;
    * `Spells.whole` — a reader that stopped at the end of the input read a
      spelling, not a shortened slice. -/

namespace Spelling

open ByteString

variable {ε α β : Type}

/-- Within the input, what `rd` went over spells what it returned. -/
def Spells (rd : Reader ε α) (S : α → Bytes → Prop) : Prop :=
  ∀ (data : Bytes) (i j : ℕ) (a : α), rd data i = .ok (a, j) →
    ∃ n, j = i + n ∧ (j ≤ data.length → S a (slice data i n))

/-- Spelled one after the other. -/
def Then (S : α → Bytes → Prop) (T : α → β → Bytes → Prop) (b : β) (bytes : Bytes) : Prop :=
  ∃ a front back, bytes = front ++ back ∧ S a front ∧ T a b back

theorem spells_pure (a : α) :
    Spells (Reader.pure a : Reader ε α) (fun b bytes => b = a ∧ bytes = []) := by
  intro data i j b h
  cases h
  exact ⟨0, rfl, fun _ => ⟨rfl, rfl⟩⟩

/-- A refusal spells nothing. -/
theorem spells_throw (e : ε) (S : α → Bytes → Prop) : Spells (Reader.throw e) S := by
  intro data i j a h
  cases h

theorem spells_slice (n : ℕ) :
    Spells (readSlice n : Reader ε Bytes) (fun a bytes => bytes = a ∧ a.length = n) := by
  intro data i j a h
  cases h
  exact ⟨n, rfl, fun hj => ⟨rfl, slice_length hj⟩⟩

theorem spells_LE (w : ℕ) :
    Spells (readLE w : Reader ε ℕ) (fun n bytes => bytes = leBytes w n ∧ n < 256 ^ w) := by
  intro data i j n h
  cases h
  refine ⟨w, rfl, ?_⟩
  intro hj
  have hlen : (slice data i w).length = w := slice_length hj
  have hbytes := leBytes_leNat (slice data i w)
  have hlt := leNat_lt (slice data i w)
  rw [hlen] at hbytes hlt
  exact ⟨hbytes.symm, hlt⟩

/-- A weaker spelling. -/
theorem Spells.imp {rd : Reader ε α} {S T : α → Bytes → Prop} (h : Spells rd S)
    (hST : ∀ a bytes, S a bytes → T a bytes) : Spells rd T := by
  intro data i j a hrun
  obtain ⟨n, hj, hspell⟩ := h data i j a hrun
  exact ⟨n, hj, fun hle => hST a _ (hspell hle)⟩

/-- **Spellings compose**: what is read in sequence is spelled in sequence. -/
theorem Spells.bind {rd : Reader ε α} {f : α → Reader ε β} {S : α → Bytes → Prop}
    {T : α → β → Bytes → Prop} (h : Spells rd S) (hf : ∀ a, Spells (f a) (T a)) :
    Spells (rd.bind f) (Then S T) := by
  intro data i k b hrun
  rw [Reader.bind] at hrun
  cases hfirst : rd data i with
  | error e =>
      rw [hfirst] at hrun
      cases hrun
  | ok result =>
      obtain ⟨a, j⟩ := result
      rw [hfirst] at hrun
      obtain ⟨m, rfl, hfront⟩ := h data i j a hfirst
      obtain ⟨n, rfl, hback⟩ := hf a data (i + m) k b hrun
      refine ⟨m + n, Nat.add_assoc i m n, ?_⟩
      intro hle
      exact ⟨a, slice data i m, slice data (i + m) n, slice_add data i m n,
        hfront (by omega), hback hle⟩

/-- The bytes of items one behind the other. -/
inductive Items (S : α → Bytes → Prop) : List α → Bytes → Prop where
  | nil : Items S [] []
  | cons {a : α} {as : List α} {front back : Bytes} :
      S a front → Items S as back → Items S (a :: as) (front ++ back)

/-- So many items, each spelled. -/
theorem Spells.many {rd : Reader ε α} {S : α → Bytes → Prop} (h : Spells rd S) (n : ℕ) :
    Spells (readMany rd n) (fun as bytes => as.length = n ∧ Items S as bytes) := by
  induction n with
  | zero =>
      refine (spells_pure []).imp ?_
      rintro as bytes ⟨rfl, rfl⟩
      exact ⟨rfl, .nil⟩
  | succ n ih =>
      refine (h.bind fun a => ih.bind fun as => spells_pure (a :: as)).imp ?_
      rintro cs bytes ⟨a, front, back, rfl, ha, as, middle, last, rfl, ⟨hlen, has⟩, rfl, rfl⟩
      rw [List.append_nil]
      exact ⟨congrArg Nat.succ hlen, .cons ha has⟩

/-- **Nothing is short**: a reader that stops where the input ends has read a
    spelling of its value, to the last byte. -/
theorem Spells.whole {rd : Reader ε α} {S : α → Bytes → Prop} {data : Bytes} {a : α}
    (h : Spells rd S) (hrun : rd data 0 = .ok (a, data.length)) : S a data := by
  obtain ⟨n, hn, hspell⟩ := h data 0 data.length a hrun
  have hwhole := hspell (le_refl _)
  rw [Nat.zero_add] at hn
  rw [slice_zero hn] at hwhole
  exact hwhole

end Spelling
