import Mathlib.Algebra.BigOperators.Group.List.Basic
import Mathlib.Data.List.Infix
import Mathlib.Data.List.Dedup
import Mathlib.Data.List.Forall2
import Mathlib.Data.List.Perm.Basic
import Mathlib.Tactic.Abel

/-! # List kit — indices, keyed lists, separators

    General facts about lists that a translated program leans on:

    * `indicesWhere` — the positions of the elements a predicate accepts, the
      shape of `[i for i, o in enumerate(l) if p(i, o)]`;
    * `setKey` — an insertion-ordered dictionary as an association list, with
      the total of its values when the value is a function of the key;
    * `infix_intercalate` — a needle free of the separator occurs in a joined
      text exactly when it occurs inside one of the joined pieces;
    * `sum_map_modify` — changing one element moves a total by the difference. -/

namespace ListKit

variable {α β δ ε κ ν : Type}

/-! ## Sequencing fallible steps -/

/-- A bind that succeeds had a first step that succeeded. -/
theorem bind_eq_ok {x : Except ε α} {f : α → Except ε β} {b : β}
    (h : x >>= f = .ok b) : ∃ a, x = .ok a ∧ f a = .ok b := by
  cases x with
  | error e => exact nomatch h
  | ok a => exact ⟨a, rfl, h⟩

/-- A bind that fails failed in its first step or after it. -/
theorem bind_eq_error {x : Except ε α} {f : α → Except ε β} {e : ε}
    (h : x >>= f = .error e) : x = .error e ∨ ∃ a, x = .ok a ∧ f a = .error e := by
  cases x with
  | error e' =>
      cases h
      exact Or.inl rfl
  | ok a => exact Or.inr ⟨a, rfl, h⟩

/-- Translating an error leaves success alone. -/
theorem mapError_eq_ok {f : ε → δ} {x : Except ε α} {a : α}
    (h : x.mapError f = .ok a) : x = .ok a := by
  cases x with
  | error e => cases h
  | ok b =>
      cases h
      rfl

@[simp] theorem ok_bind (a : α) (f : α → Except ε β) :
    (Except.ok a >>= f) = f a := rfl

theorem exists_of_isOk {x : Except ε α} (h : x.isOk = true) : ∃ a, x = .ok a := by
  cases x with
  | error e => exact nomatch h
  | ok a => exact ⟨a, rfl⟩

theorem ok_of_toOption {x : Except ε α} {a : α} (h : x.toOption = some a) : x = .ok a := by
  cases x with
  | error e => cases h
  | ok found =>
      cases h
      rfl

/-- A successful traversal transforms pointwise. -/
theorem mapM_ok_forall₂ {f : α → Except ε β} :
    ∀ {l : List α} {r : List β}, l.mapM f = .ok r →
      List.Forall₂ (fun a b => f a = .ok b) l r := by
  intro l
  induction l with
  | nil =>
      intro r h
      cases h
      exact .nil
  | cons a l ih =>
      intro r h
      rw [List.mapM_cons] at h
      obtain ⟨b, hb, h⟩ := bind_eq_ok h
      obtain ⟨bs, hbs, h⟩ := bind_eq_ok h
      cases h
      exact .cons hb (ih hbs)

/-- A traversal succeeds exactly with what its elements give. -/
theorem mapM_eq_ok_iff {f : α → Except ε β} {l : List α} {r : List β} :
    l.mapM f = .ok r ↔ List.Forall₂ (fun a b => f a = .ok b) l r := by
  refine ⟨mapM_ok_forall₂, fun h => ?_⟩
  induction h with
  | nil => rfl
  | cons hab _ ih =>
      rw [List.mapM_cons, hab, ih]
      rfl

/-- The same, with the elements known to be among those traversed. -/
theorem mapM_ok_forall₂_mem {f : α → Except ε β} {l : List α} {r : List β}
    (h : l.mapM f = .ok r) :
    List.Forall₂ (fun a b => a ∈ l ∧ f a = .ok b) l r :=
  (List.forall₂_and_left l r).mpr ⟨fun _ ha => ha, mapM_ok_forall₂ h⟩

theorem mapM_singleton_ok {f : α → Except ε β} {a : α} {r : List β}
    (h : [a].mapM f = .ok r) : ∃ b, f a = .ok b ∧ r = [b] := by
  cases mapM_ok_forall₂ h with
  | cons hab hnil =>
      cases hnil
      exact ⟨_, hab, rfl⟩

/-- A traversal succeeds exactly when every step does. -/
theorem mapM_isOk_iff {f : α → Except ε β} {l : List α} :
    (∃ r, l.mapM f = .ok r) ↔ ∀ a ∈ l, ∃ b, f a = .ok b := by
  induction l with
  | nil => exact ⟨fun _ a ha => (nomatch ha), fun _ => ⟨[], rfl⟩⟩
  | cons a l ih =>
      rw [List.mapM_cons]
      constructor
      · rintro ⟨r, hr⟩ b hb
        obtain ⟨c, hc, hr⟩ := bind_eq_ok hr
        obtain ⟨cs, hcs, -⟩ := bind_eq_ok hr
        rcases List.mem_cons.mp hb with rfl | hb
        · exact ⟨c, hc⟩
        · exact ih.mp ⟨cs, hcs⟩ b hb
      · intro h
        obtain ⟨c, hc⟩ := h a List.mem_cons_self
        obtain ⟨cs, hcs⟩ := ih.mpr fun b hb => h b (List.mem_cons_of_mem _ hb)
        rw [hc, hcs]
        exact ⟨c :: cs, rfl⟩

/-- A traversal that fails failed at one of its elements. -/
theorem mapM_error {f : α → Except ε β} {e : ε} {l : List α}
    (h : l.mapM f = .error e) : ∃ a ∈ l, f a = .error e := by
  induction l with
  | nil => exact nomatch h
  | cons a l ih =>
      rw [List.mapM_cons] at h
      rcases bind_eq_error h with ha | ⟨b, -, h⟩
      · exact ⟨a, List.mem_cons_self, ha⟩
      · rcases bind_eq_error h with hl | ⟨bs, -, h⟩
        · obtain ⟨c, hc, hfc⟩ := ih hl
          exact ⟨c, List.mem_cons_of_mem _ hc, hfc⟩
        · exact nomatch h

/-- A traversal that may miss goes element by element. -/
theorem mapM_eq_some_iff {f : α → Option β} {l : List α} {r : List β} :
    l.mapM f = some r ↔ List.Forall₂ (fun a b => f a = some b) l r := by
  induction l generalizing r with
  | nil => simp [eq_comm]
  | cons a l ih =>
      simp only [List.mapM_cons, Option.bind_eq_bind, Option.pure_def, Option.bind_eq_some_iff,
        Option.some.injEq, List.forall₂_cons_left_iff]
      constructor
      · rintro ⟨b, hb, r, hr, rfl⟩
        exact ⟨b, r, hb, ih.mp hr, rfl⟩
      · rintro ⟨b, r, hb, hr, rfl⟩
        exact ⟨b, hb, r, ih.mpr hr, rfl⟩

/-- The error of a failed computation. -/
def errorOf (x : Except ε α) : Option ε :=
  match x with
  | .error e => some e
  | .ok _ => none

/-- A computation does not fail with an error of the given kind. -/
def Avoids (bad : ε → Prop) (x : Except ε α) : Prop := ∀ e, x = .error e → ¬ bad e

section Avoids

variable {bad : ε → Prop}

theorem avoids_ok (a : α) : Avoids bad (.ok a) := fun _ h => nomatch h

theorem avoids_error {e : ε} (h : ¬ bad e) : Avoids bad (.error e : Except ε α) := by
  intro e' he
  cases he
  exact h

/-- A sequence fails as one of its steps does. -/
theorem Avoids.bind {x : Except ε α} {f : α → Except ε β} (hx : Avoids bad x)
    (hf : ∀ a, Avoids bad (f a)) : Avoids bad (x >>= f) := by
  intro e he
  rcases bind_eq_error he with hfirst | ⟨a, -, hthen⟩
  · exact hx e hfirst
  · exact hf a e hthen

theorem avoids_mapM {f : α → Except ε β} (hf : ∀ a, Avoids bad (f a)) (l : List α) :
    Avoids bad (l.mapM f) := by
  intro e he
  obtain ⟨a, -, ha⟩ := mapM_error he
  exact hf a e ha

end Avoids

/-- What stands on the right is related to something on the left. -/
theorem forall₂_mem_right {R : α → β → Prop} {l : List α} {r : List β}
    (h : List.Forall₂ R l r) {b : β} (hb : b ∈ r) : ∃ a ∈ l, R a b := by
  induction h with
  | nil => exact nomatch hb
  | cons hab _ ih =>
      rcases List.mem_cons.mp hb with rfl | hb
      · exact ⟨_, List.mem_cons_self, hab⟩
      · obtain ⟨a, ha, hR⟩ := ih hb
        exact ⟨a, List.mem_cons_of_mem _ ha, hR⟩

theorem mapM_ok_mem {f : α → Except ε β} {l : List α} {r : List β}
    (h : l.mapM f = .ok r) {b : β} (hb : b ∈ r) : ∃ a ∈ l, f a = .ok b :=
  forall₂_mem_right (mapM_ok_forall₂ h) hb

/-- Lists related by an equation between images have equal images. -/
theorem map_eq_of_forall₂ {γ : Type} {f : α → γ} {g : β → γ} {l : List α} {r : List β}
    (h : List.Forall₂ (fun a b => f a = g b) l r) : l.map f = r.map g := by
  induction h with
  | nil => rfl
  | cons hab _ ih => rw [List.map_cons, List.map_cons, hab, ih]

/-- Traversing in another order gives the results in another order. -/
theorem mapM_ok_perm {f : α → Except ε β} {l l' : List α} {r r' : List β}
    (hperm : l.Perm l') (h : l.mapM f = .ok r) (h' : l'.mapM f = .ok r') : r.Perm r' := by
  have himage : (r.map (@Except.ok ε β)).Perm (r'.map Except.ok) := by
    rw [← map_eq_of_forall₂ (mapM_ok_forall₂ h), ← map_eq_of_forall₂ (mapM_ok_forall₂ h')]
    exact hperm.map f
  exact (List.map_perm_map_iff fun a b hab => Except.ok.inj hab).mp himage

/-- A traversal of images, each of which succeeds. -/
theorem mapM_map_ok {γ : Type} {f : β → Except ε γ} {item : α → β} {g : α → γ}
    (h : ∀ a, f (item a) = .ok (g a)) (l : List α) :
    (l.map item).mapM f = .ok (l.map g) := by
  induction l with
  | nil => rfl
  | cons a l ih =>
      rw [List.map_cons, List.mapM_cons, h, ih]
      rfl

/-- Keys that pass through a `filterMap` keep their order. -/
theorem filterMap_keys_sublist {γ : Type} {f : α → Option β} {key : β → γ} {key' : α → γ}
    (h : ∀ a b, f a = some b → key b = key' a) (l : List α) :
    ((l.filterMap f).map key).Sublist (l.map key') := by
  induction l with
  | nil => exact List.Sublist.slnil
  | cons a l ih =>
      cases hf : f a with
      | none =>
          rw [List.filterMap_cons_none hf, List.map_cons]
          exact ih.cons _
      | some b =>
          rw [List.filterMap_cons_some hf, List.map_cons, List.map_cons, h a b hf]
          exact ih.cons_cons _

/-- The total over what a `filterMap` picks is the total over what it picks
    from. -/
theorem sum_filterMap {p : α → Bool} {g : α → Option β} {f : α → ℤ} {v : β → ℤ} {l : List α}
    (hsome : ∀ a ∈ l, p a = true → ∃ b, g a = some b ∧ v b = f a)
    (hnone : ∀ a ∈ l, p a = false → g a = none) :
    ((l.filterMap g).map v).sum = ((l.filter p).map f).sum := by
  induction l with
  | nil => rfl
  | cons a l ih =>
      have hrest := ih (fun b hb => hsome b (List.mem_cons_of_mem _ hb))
        (fun b hb => hnone b (List.mem_cons_of_mem _ hb))
      cases hp : p a with
      | false =>
          rw [List.filterMap_cons_none (hnone a List.mem_cons_self hp),
            List.filter_cons_of_neg (by simp [hp]), hrest]
      | true =>
          obtain ⟨b, hb, hvb⟩ := hsome a List.mem_cons_self hp
          rw [List.filterMap_cons_some hb, List.filter_cons_of_pos hp, List.map_cons,
            List.map_cons, List.sum_cons, List.sum_cons, hvb, hrest]

/-- A decidable property of every element, by running through the list. -/
theorem forall_mem_of_all {p : α → Prop} [DecidablePred p] {l : List α}
    (h : l.all (fun a => decide (p a)) = true) : ∀ a ∈ l, p a := by
  intro a ha
  exact of_decide_eq_true (List.all_eq_true.mp h a ha)

/-- The entry of a report, when it applies. -/
def onlyIf (applies : Bool) (a : α) : List α := if applies then [a] else []

@[simp] theorem onlyIf_eq_nil {applies : Bool} {a : α} :
    onlyIf applies a = [] ↔ applies = false := by
  cases applies <;> simp [onlyIf]

/-! ## Positions -/

/-- Lists related element by element are related position by position. -/
theorem forall₂_getElem? {R : α → β → Prop} {l : List α} {r : List β}
    (h : List.Forall₂ R l r) :
    ∀ {i : ℕ} {a : α}, l[i]? = some a → ∃ b, r[i]? = some b ∧ R a b := by
  induction h with
  | nil => intro i a hi; exact nomatch hi
  | cons hab _ ih =>
      intro i a hi
      cases i with
      | zero =>
          cases hi
          exact ⟨_, rfl, hab⟩
      | succ i => exact ih hi

/-- `l[i]` of a Python list: a negative index counts from the end. -/
def itemAt (l : List α) (i : ℤ) : Option α :=
  if 0 ≤ i then l[i.toNat]?
  else if -i ≤ l.length then l[(l.length + i).toNat]?
  else none

theorem itemAt_map (f : α → β) (l : List α) (i : ℤ) :
    itemAt (l.map f) i = (itemAt l i).map f := by
  unfold itemAt
  rw [List.length_map, List.getElem?_map, List.getElem?_map]
  split
  · rfl
  · split <;> rfl

theorem itemAt_mem {l : List α} {i : ℤ} {a : α} (h : itemAt l i = some a) : a ∈ l := by
  rw [itemAt] at h
  split at h
  · exact List.mem_of_getElem? h
  · split at h
    · exact List.mem_of_getElem? h
    · cases h

/-- The positions whose element `p` accepts, in order. -/
def indicesWhere (p : ℕ → α → Bool) (l : List α) : List ℕ :=
  (l.zipIdx.filter fun x => p x.2 x.1).map Prod.snd

theorem mem_indicesWhere {p : ℕ → α → Bool} {l : List α} {i : ℕ} :
    i ∈ indicesWhere p l ↔ ∃ a, l[i]? = some a ∧ p i a = true := by
  rw [indicesWhere]
  rw [List.mem_map]
  constructor
  · rintro ⟨⟨a, j⟩, hmem, rfl⟩
    obtain ⟨hidx, hp⟩ := List.mem_filter.mp hmem
    exact ⟨a, List.mem_zipIdx_iff_getElem?.mp hidx, hp⟩
  · rintro ⟨a, hidx, hp⟩
    exact ⟨(a, i), List.mem_filter.mpr
      ⟨List.mem_zipIdx_iff_getElem?.mpr hidx, hp⟩, rfl⟩

/-- A test passed at one position only leaves the element there. -/
theorem filter_eq_singleton {p : α → Bool} {l : List α} {i : ℕ} {a : α}
    (hi : l[i]? = some a) (ha : p a = true)
    (honly : ∀ j b, l[j]? = some b → p b = true → j = i) : l.filter p = [a] := by
  induction l generalizing i with
  | nil => cases hi
  | cons c l ih =>
      cases i with
      | zero =>
          obtain rfl : c = a := Option.some.inj hi
          have hrest : l.filter p = [] := by
            rw [List.filter_eq_nil_iff]
            intro b hb hpb
            obtain ⟨j, hj⟩ := List.mem_iff_getElem?.mp hb
            exact absurd (honly (j + 1) b hj hpb) (Nat.succ_ne_zero j)
          rw [List.filter_cons_of_pos ha, hrest]
      | succ i =>
          have hc : ¬ p c = true := fun hpc =>
            absurd (honly 0 c rfl hpc) (Nat.succ_ne_zero i).symm
          rw [List.filter_cons_of_neg hc]
          exact ih hi fun j b hj hb => Nat.succ.inj (honly (j + 1) b hj hb)

/-- Collecting is mapping, and keeping what is there. -/
theorem filterMap_eq_map (f : α → Option β) (l : List α) :
    l.filterMap f = (l.map f).filterMap id := by
  rw [List.filterMap_map]
  rfl

/-- What a test never drops can be collected after the test. -/
theorem filterMap_filter_of {p : α → Bool} {f : α → Option β} {l : List α}
    (h : ∀ a ∈ l, (f a).isSome = true → p a = true) :
    (l.filter p).filterMap f = l.filterMap f := by
  induction l with
  | nil => rfl
  | cons a l ih =>
      have hl := ih fun b hb => h b (List.mem_cons_of_mem _ hb)
      by_cases ha : p a = true
      · rw [List.filter_cons_of_pos ha, List.filterMap_cons, List.filterMap_cons, hl]
      · have hnone : f a = none := by
          cases hf : f a with
          | none => rfl
          | some b => exact absurd (h a List.mem_cons_self (by rw [hf]; rfl)) ha
        rw [List.filter_cons_of_neg ha, List.filterMap_cons_none hnone, hl]

/-- A total splits over a test and its negation. -/
theorem sum_filter_add_not (p : α → Bool) (f : α → ℤ) (l : List α) :
    ((l.filter p).map f).sum + ((l.filter fun a => !p a).map f).sum = (l.map f).sum := by
  rw [← List.sum_append, ← List.map_append]
  exact ((List.filter_append_perm p l).map f).sum_eq

/-- Changing the element at a position moves the total by the difference. -/
theorem sum_map_modify {l : List α} {i : ℕ} {a : α} (f : α → ℤ) (g : α → α)
    (h : l[i]? = some a) :
    ((l.modify i g).map f).sum = (l.map f).sum + (f (g a) - f a) := by
  induction l generalizing i with
  | nil => exact nomatch h
  | cons c l ih =>
      cases i with
      | zero =>
          rw [List.getElem?_cons_zero] at h
          rw [Option.some.inj h, List.modify_zero_cons, List.map_cons,
            List.map_cons, List.sum_cons, List.sum_cons]
          abel
      | succ i =>
          rw [List.getElem?_cons_succ] at h
          rw [List.modify_succ_cons, List.map_cons, List.map_cons, List.sum_cons,
            List.sum_cons, ih h]
          abel

/-! ## Keyed lists -/

/-- Assign `v` to the key `k`: in place when the key is there, else at the end. -/
def setKey [DecidableEq κ] : List (κ × ν) → κ → ν → List (κ × ν)
  | [], k, v => [(k, v)]
  | (k', v') :: d, k, v =>
      if k' = k then (k, v) :: d else (k', v') :: setKey d k v

/-- The value a key holds. -/
def getKey [DecidableEq κ] : List (κ × ν) → κ → Option ν
  | [], _ => none
  | (k', v') :: d, k => if k' = k then some v' else getKey d k

/-- A key that is assigned reads back; every other key is untouched. -/
theorem getKey_setKey [DecidableEq κ] (d : List (κ × ν)) (k k' : κ) (v : ν) :
    getKey (setKey d k v) k' = if k = k' then some v else getKey d k' := by
  induction d with
  | nil => rfl
  | cons e d ih =>
      obtain ⟨e, w⟩ := e
      rw [setKey]
      by_cases he : e = k
      · rw [if_pos he]
        subst he
        by_cases hk : e = k' <;> simp [getKey, hk]
      · rw [if_neg he]
        by_cases hk : e = k'
        · subst hk
          rw [if_neg (Ne.symm he)]
          simp [getKey]
        · simp [getKey, hk, ih]

/-- An assignment takes no key away. -/
theorem getKey_setKey_isSome [DecidableEq κ] {d : List (κ × ν)} (k : κ) {k' : κ} (v : ν)
    (h : (getKey d k').isSome = true) : (getKey (setKey d k v) k').isSome = true := by
  rw [getKey_setKey]
  split
  · rfl
  · exact h

/-- A key holds a value exactly when it is one of the keys. -/
theorem getKey_isSome [DecidableEq κ] (d : List (κ × ν)) (k : κ) :
    (getKey d k).isSome = true ↔ k ∈ d.map Prod.fst := by
  induction d with
  | nil => simp [getKey]
  | cons e d ih =>
      obtain ⟨e, w⟩ := e
      by_cases he : e = k
      · simp [getKey, he]
      · simp [getKey, he, ih, Ne.symm he]

/-- Assigning a key adds it to the keys and forgets none. -/
theorem mem_keys_setKey [DecidableEq κ] (d : List (κ × ν)) (k k' : κ) (v : ν) :
    k' ∈ (setKey d k v).map Prod.fst ↔ k' = k ∨ k' ∈ d.map Prod.fst := by
  rw [← getKey_isSome, ← getKey_isSome, getKey_setKey]
  by_cases hk : k = k'
  · simp [hk]
  · simp [hk, Ne.symm hk]

/-- Distinct keys stay distinct. -/
theorem nodup_keys_setKey [DecidableEq κ] {d : List (κ × ν)} (k : κ) (v : ν)
    (h : (d.map Prod.fst).Nodup) : ((setKey d k v).map Prod.fst).Nodup := by
  induction d with
  | nil => simp [setKey]
  | cons e d ih =>
      obtain ⟨e, w⟩ := e
      rw [List.map_cons, List.nodup_cons] at h
      rw [setKey]
      by_cases he : e = k
      · rw [if_pos he, List.map_cons, List.nodup_cons]
        exact ⟨he ▸ h.1, h.2⟩
      · rw [if_neg he, List.map_cons, List.nodup_cons]
        refine ⟨?_, ih h.2⟩
        intro hmem
        rcases (mem_keys_setKey d k e v).mp hmem with heq | hin
        · exact he heq
        · exact h.1 hin

/-- The dictionary `{key(a): val(a) for a in l}`. -/
def keyed [DecidableEq κ] (key : α → κ) (val : α → ν) (l : List α) :
    List (κ × ν) :=
  l.foldl (fun d a => setKey d (key a) (val a)) []

/-- An assignment's entries are the old ones and the new one. -/
theorem mem_setKey [DecidableEq κ] {d : List (κ × ν)} {k : κ} {v : ν}
    {e : κ × ν} (h : e ∈ setKey d k v) : e = (k, v) ∨ e ∈ d := by
  induction d with
  | nil => exact Or.inl (List.mem_singleton.mp h)
  | cons e' d ih =>
      rw [setKey] at h
      split at h
      · rcases List.mem_cons.mp h with heq | hin
        · exact Or.inl heq
        · exact Or.inr (List.mem_cons_of_mem _ hin)
      · rcases List.mem_cons.mp h with heq | hin
        · exact Or.inr (heq ▸ List.mem_cons_self)
        · rcases ih hin with heq | hin
          · exact Or.inl heq
          · exact Or.inr (List.mem_cons_of_mem _ hin)

/-- The fold behind `keyed` never repeats a key. -/
theorem nodup_keys_keyed [DecidableEq κ] (key : α → κ) (val : α → ν)
    (l : List α) : ((keyed key val l).map Prod.fst).Nodup := by
  have run : ∀ (l : List α) (d : List (κ × ν)), (d.map Prod.fst).Nodup →
      ((l.foldl (fun d a => setKey d (key a) (val a)) d).map Prod.fst).Nodup := by
    intro l
    induction l with
    | nil => intro d hd; exact hd
    | cons a l ih => intro d hd; exact ih _ (nodup_keys_setKey _ _ hd)
  exact run l [] List.nodup_nil

/-- The keys of `keyed` are the keys of the list. -/
theorem mem_keys_keyed [DecidableEq κ] (key : α → κ) (val : α → ν)
    (l : List α) (k : κ) :
    k ∈ (keyed key val l).map Prod.fst ↔ k ∈ l.map key := by
  have run : ∀ (l : List α) (d : List (κ × ν)),
      k ∈ (l.foldl (fun d a => setKey d (key a) (val a)) d).map Prod.fst
        ↔ k ∈ d.map Prod.fst ∨ k ∈ l.map key := by
    intro l
    induction l with
    | nil => intro d; simp
    | cons a l ih =>
        intro d
        rw [List.foldl_cons, ih, mem_keys_setKey, List.map_cons, List.mem_cons]
        constructor
        · rintro ((rfl | h) | h)
          · exact Or.inr (Or.inl rfl)
          · exact Or.inl h
          · exact Or.inr (Or.inr h)
        · rintro (h | rfl | h)
          · exact Or.inl (Or.inr h)
          · exact Or.inl (Or.inl rfl)
          · exact Or.inr h
  rw [keyed, run]
  simp

/-- Every entry of `keyed` was assigned from some element of the list. -/
theorem mem_keyed [DecidableEq κ] {key : α → κ} {val : α → ν} {l : List α}
    {e : κ × ν} (h : e ∈ keyed key val l) : ∃ a ∈ l, e = (key a, val a) := by
  have run : ∀ (l : List α) (d : List (κ × ν)),
      e ∈ l.foldl (fun d a => setKey d (key a) (val a)) d →
        e ∈ d ∨ ∃ a ∈ l, e = (key a, val a) := by
    intro l
    induction l with
    | nil => intro d hd; exact Or.inl hd
    | cons a l ih =>
        intro d hd
        rcases ih _ hd with hset | ⟨b, hb, heq⟩
        · rcases mem_setKey hset with heq | hin
          · exact Or.inr ⟨a, List.mem_cons_self, heq⟩
          · exact Or.inl hin
        · exact Or.inr ⟨b, List.mem_cons_of_mem _ hb, heq⟩
  rcases run l [] h with hnil | hex
  · exact nomatch hnil
  · exact hex

/-- What a key holds is one of the entries. -/
theorem mem_of_getKey [DecidableEq κ] {d : List (κ × ν)} {k : κ} {v : ν}
    (h : getKey d k = some v) : (k, v) ∈ d := by
  induction d with
  | nil => exact nomatch h
  | cons e d ih =>
      rw [getKey] at h
      split at h
      · rename_i hk
        cases h
        rw [← hk]
        exact List.mem_cons_self
      · exact List.mem_cons_of_mem _ (ih h)

/-- With distinct keys a dictionary holds exactly what was put in. -/
theorem getKey_keyed_iff [DecidableEq κ] {key : α → κ} {val : α → ν} {l : List α}
    (hnodup : (l.map key).Nodup) {k : κ} {v : ν} :
    getKey (keyed key val l) k = some v ↔ ∃ a ∈ l, key a = k ∧ val a = v := by
  have hfound : ∀ {v : ν}, getKey (keyed key val l) k = some v →
      ∃ a ∈ l, key a = k ∧ val a = v := by
    intro v h
    obtain ⟨a, ha, he⟩ := mem_keyed (mem_of_getKey h)
    obtain ⟨hk, hv⟩ := Prod.mk.inj he
    exact ⟨a, ha, hk.symm, hv.symm⟩
  constructor
  · exact hfound
  · rintro ⟨a, ha, hk, hv⟩
    have hkey : k ∈ (keyed key val l).map Prod.fst := by
      rw [mem_keys_keyed]
      exact hk ▸ List.mem_map_of_mem ha
    obtain ⟨w, hw⟩ := Option.isSome_iff_exists.mp ((getKey_isSome _ k).mpr hkey)
    obtain ⟨b, hb, hbk, hbw⟩ := hfound hw
    have hab : a = b := List.inj_on_of_nodup_map hnodup ha hb (hk.trans hbk.symm)
    rw [hw, ← hbw, ← hab, hv]

/-- **One entry per key**: when the value depends on the key alone, the
    dictionary's values total over the distinct keys, however often each key
    occurred. -/
theorem sum_keyed [DecidableEq κ] {key : α → κ} {val : α → ℕ} {f : κ → ℕ}
    {l : List α} (h : ∀ a ∈ l, val a = f (key a)) :
    ((keyed key val l).map Prod.snd).sum = ((l.map key).dedup.map f).sum := by
  have hval : (keyed key val l).map Prod.snd
      = ((keyed key val l).map Prod.fst).map f := by
    rw [List.map_map]
    refine List.map_congr_left ?_
    intro e he
    obtain ⟨a, ha, rfl⟩ := mem_keyed he
    exact h a ha
  have hperm : ((keyed key val l).map Prod.fst).Perm (l.map key).dedup := by
    refine (List.perm_ext_iff_of_nodup (nodup_keys_keyed key val l)
      (List.nodup_dedup _)).mpr ?_
    intro k
    rw [mem_keys_keyed, List.mem_dedup]
  rw [hval]
  exact (hperm.map f).sum_eq

/-! ## Separators -/

/-- A needle free of the separator occurs in `xs ++ sep :: ys` only on one side
    of the separator. -/
theorem infix_sep {sep : α} {d xs ys : List α} (h : sep ∉ d) :
    d <:+: xs ++ sep :: ys ↔ d <:+: xs ∨ d <:+: ys := by
  rw [List.infix_append_iff]
  constructor
  · rintro (hx | hy | ⟨l₁, l₂, rfl, hs, hp⟩)
    · exact Or.inl hx
    · rcases List.infix_cons_iff.mp hy with hpre | hin
      · cases d with
        | nil => exact Or.inl List.nil_infix
        | cons c d =>
            obtain ⟨rfl, -⟩ := List.cons_prefix_cons.mp hpre
            exact absurd List.mem_cons_self h
      · exact Or.inr hin
    · cases l₂ with
      | nil =>
          rw [List.append_nil]
          exact Or.inl hs.isInfix
      | cons c l₂ =>
          obtain ⟨rfl, -⟩ := List.cons_prefix_cons.mp hp
          exact absurd (List.mem_append_right _ List.mem_cons_self) h
  · rintro (hx | hy)
    · exact Or.inl hx
    · exact Or.inr (Or.inl (hy.trans (List.suffix_cons _ _).isInfix))

/-- **Occurrence is per piece**: a needle free of the separator occurs in the
    joined text exactly when it occurs inside one of the pieces. -/
theorem infix_intercalate {sep : α} {d : List α} (h : sep ∉ d) :
    ∀ {segs : List (List α)}, segs ≠ [] →
      (d <:+: [sep].intercalate segs ↔ ∃ s ∈ segs, d <:+: s) := by
  intro segs
  induction segs with
  | nil => intro hne; exact absurd rfl hne
  | cons s segs ih =>
      intro _
      cases segs with
      | nil => simp
      | cons t segs =>
          have ih' := ih (by simp)
          rw [List.intercalate_cons_cons, List.append_assoc,
            List.singleton_append, infix_sep h, ih']
          constructor
          · rintro (hs | ⟨u, hu, hd⟩)
            · exact ⟨s, List.mem_cons_self, hs⟩
            · exact ⟨u, List.mem_cons_of_mem _ hu, hd⟩
          · rintro ⟨u, hu, hd⟩
            rcases List.mem_cons.mp hu with rfl | hu
            · exact Or.inl hd
            · exact Or.inr ⟨u, hu, hd⟩

/-- Occurrence in a text is occurrence in one of the pieces it splits into. -/
theorem infix_iff_mem_splitOn [DecidableEq α] {sep : α} {d l : List α}
    (h : sep ∉ d) : d <:+: l ↔ ∃ s ∈ l.splitOn sep, d <:+: s := by
  have hne : l.splitOn sep ≠ [] := List.splitOn_ne_nil sep l
  rw [← infix_intercalate h hne, List.intercalate_splitOn]

end ListKit
