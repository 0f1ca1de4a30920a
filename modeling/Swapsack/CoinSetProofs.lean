import Mathlib.Algebra.Order.BigOperators.Group.List
import Mathlib.Algebra.Order.Group.Int
import Mathlib.Data.List.Perm.Subperm
import Mathlib.Logic.Relation
import Swapsack.ListKitProofs

/-! # Coins that are spent once

    A ledger keeps the coins that are unspent, each at the place it was created, and
    remembers every such place.  A transfer is taken when it spends coins that are there,
    each once, and creates its own at places that are new.

    * `gone_after` — what was spent is gone for good;
    * `worth_after`, `worth_spent` — what a transfer does to the worth of the coins, and
      what it spent, place by place;
    * `run_losses` — where whatever loses worth carries out one of some orders, a run of
      any length loses at most what the orders cost together. -/

namespace CoinSet

open ListKit

variable {κ ω : Type} [DecidableEq κ]

/-- What is spent, by the places of the coins, and what is created where. -/
structure Transfer (κ ω : Type) where
  spends : List κ
  creates : List (κ × ω)

/-- The unspent coins, and every place that ever had one. -/
structure Coins (κ ω : Type) where
  unspent : List (κ × ω)
  born : List κ
  once : (unspent.map Prod.fst).Nodup
  known : ∀ k ∈ unspent.map Prod.fst, k ∈ born

namespace Coins

variable (c : Coins κ ω) (t : Transfer κ ω)

/-- The coin at a place. -/
def find (k : κ) : Option ω := (c.unspent.find? fun coin => coin.1 = k).map Prod.snd

/-- A transfer that these coins allow. -/
structure Takes : Prop where
  once : t.spends.Nodup
  there : ∀ k ∈ t.spends, k ∈ c.unspent.map Prod.fst
  apart : (t.creates.map Prod.fst).Nodup
  fresh : ∀ k ∈ t.creates.map Prod.fst, k ∉ c.born

instance : Decidable (c.Takes t) :=
  decidable_of_iff (t.spends.Nodup ∧ (∀ k ∈ t.spends, k ∈ c.unspent.map Prod.fst)
      ∧ (t.creates.map Prod.fst).Nodup ∧ ∀ k ∈ t.creates.map Prod.fst, k ∉ c.born)
    ⟨fun ⟨once, there, apart, fresh⟩ => { once, there, apart, fresh },
      fun h => ⟨h.once, h.there, h.apart, h.fresh⟩⟩

/-- The coins that a transfer spends, and those it leaves. -/
def spent : List (κ × ω) := c.unspent.filter fun coin => decide (coin.1 ∈ t.spends)

/-- The coins a transaction leaves. -/
def kept : List (κ × ω) := c.unspent.filter fun coin => !decide (coin.1 ∈ t.spends)

variable {c t}

/-- They are the unspent ones that it does not name. -/
theorem mem_kept {coin : κ × ω} : coin ∈ c.kept t ↔ coin ∈ c.unspent ∧ coin.1 ∉ t.spends := by
  rw [kept, List.mem_filter, Bool.not_eq_true', decide_eq_false_iff_not]

/-- The coins it spends are those it does. -/
theorem mem_spent {coin : κ × ω} : coin ∈ c.spent t ↔ coin ∈ c.unspent ∧ coin.1 ∈ t.spends := by
  rw [spent, List.mem_filter, decide_eq_true_iff]

/-- No key is made up. -/
theorem kept_keys {k : κ} (h : k ∈ (c.kept t).map Prod.fst) : k ∈ c.unspent.map Prod.fst :=
  (List.filter_sublist.map Prod.fst).subset h

/-- The coins behind a transfer. -/
def after (c : Coins κ ω) (t : Transfer κ ω) (h : c.Takes t) : Coins κ ω where
  unspent := c.kept t ++ t.creates
  born := c.born ++ t.creates.map Prod.fst
  once := by
    rw [List.map_append]
    refine List.nodup_append.mpr ⟨c.once.sublist (List.filter_sublist.map _), h.apart, ?_⟩
    rintro k hkept k' hcreated rfl
    exact h.fresh k hcreated (c.known k (kept_keys hkept))
  known := by
    intro k hk
    rw [List.map_append] at hk
    rcases List.mem_append.mp hk with hkept | hcreated
    · exact List.mem_append_left _ (c.known k (kept_keys hkept))
    · exact List.mem_append_right _ hcreated

@[simp] theorem after_unspent (h : c.Takes t) : (c.after t h).unspent = c.kept t ++ t.creates := rfl

/-! ## What is where -/

/-- A coin is found under its key. -/
theorem find_eq_some {k : κ} {o : ω} : c.find k = some o ↔ (k, o) ∈ c.unspent := by
  constructor
  · intro h
    obtain ⟨⟨k', o'⟩, hfind, rfl⟩ := Option.map_eq_some_iff.mp h
    have hkey : k' = k := by simpa using List.find?_some hfind
    exact hkey ▸ List.mem_of_find?_eq_some hfind
  · intro h
    obtain ⟨⟨k', o'⟩, hfind⟩ : ∃ coin, (c.unspent.find? fun coin => coin.1 = k) = some coin :=
      Option.isSome_iff_exists.mp (List.find?_isSome.mpr ⟨_, h, decide_eq_true rfl⟩)
    have hkey : k' = k := by simpa using List.find?_some hfind
    have hmem := List.mem_of_find?_eq_some hfind
    -- one coin a place
    have hsame : ((k', o') : κ × ω) = (k, o) := List.inj_on_of_nodup_map c.once hmem h hkey
    rw [find, hfind, hsame]
    rfl

/-- And every key has its coin. -/
theorem find_isSome {k : κ} (h : k ∈ c.unspent.map Prod.fst) : ∃ o, c.find k = some o := by
  obtain ⟨⟨k', o⟩, hmem, rfl⟩ := List.mem_map.mp h
  exact ⟨o, find_eq_some.mpr hmem⟩

/-- What was spent is gone for good: its place is known, and has no coin. -/
theorem gone_after (h : c.Takes t) {k : κ} (hknown : k ∈ c.born)
    (hgone : k ∉ c.unspent.map Prod.fst ∨ k ∈ t.spends) :
    k ∈ (c.after t h).born ∧ k ∉ (c.after t h).unspent.map Prod.fst := by
  refine ⟨List.mem_append_left _ hknown, ?_⟩
  rw [after_unspent, List.map_append, List.mem_append]
  rintro (hkept | hcreated)
  · obtain ⟨coin, hcoin, rfl⟩ := List.mem_map.mp hkept
    obtain ⟨hunspent, hkeep⟩ := mem_kept.mp hcoin
    rcases hgone with hgone | hgone
    · exact hgone (List.mem_map_of_mem hunspent)
    · exact hkeep hgone
  · exact h.fresh k hcreated hknown

end Coins

/-! ## What the coins are worth -/

section Worth

variable (w : ω → ℤ)

/-- What some coins are worth. -/
def worth (coins : List (κ × ω)) : ℤ := (coins.map fun coin => w coin.2).sum

omit [DecidableEq κ] in

/-- Coins together are worth what they are worth apart. -/
@[simp] theorem worth_append (coins more : List (κ × ω)) :
    worth w (coins ++ more) = worth w coins + worth w more := by
  rw [worth, List.map_append, List.sum_append]
  rfl

variable {w} {c : Coins κ ω} {t : Transfer κ ω}

/-- **What a transfer does to the worth**: what it spent is gone, and what it created is
    there. -/
theorem worth_after (h : c.Takes t) :
    worth w (c.after t h).unspent
      = worth w c.unspent - worth w (c.spent t) + worth w t.creates := by
  have hsplit := sum_filter_add_not (fun coin : κ × ω => decide (coin.1 ∈ t.spends))
    (fun coin => w coin.2) c.unspent
  rw [Coins.after_unspent, worth_append]
  show worth w (c.kept t) + _ = worth w c.unspent - worth w (c.spent t) + _
  change worth w (c.spent t) + worth w (c.kept t) = worth w c.unspent at hsplit
  omega

/-- What is spent, place by place. -/
theorem worth_spent (h : c.Takes t) :
    worth w (c.spent t) = (t.spends.map fun k => ((c.find k).map w).getD 0).sum := by
  have hnodup : (c.spent t).Nodup :=
    (List.Nodup.of_map _ c.once).sublist List.filter_sublist
  have hplaces : ((c.spent t).map Prod.fst).Perm t.spends := by
    refine (List.perm_ext_iff_of_nodup (c.once.sublist (List.filter_sublist.map _))
      h.once).mpr fun k => ?_
    constructor
    · intro hk
      obtain ⟨coin, hcoin, rfl⟩ := List.mem_map.mp hk
      exact (Coins.mem_spent.mp hcoin).2
    · intro hk
      obtain ⟨coin, hcoin, rfl⟩ := List.mem_map.mp (h.there k hk)
      exact List.mem_map_of_mem (Coins.mem_spent.mpr ⟨hcoin, hk⟩)
  have hworth : worth w (c.spent t)
      = (((c.spent t).map Prod.fst).map fun k => ((c.find k).map w).getD 0).sum := by
    rw [worth, List.map_map]
    refine congrArg List.sum (List.map_congr_left fun coin hcoin => ?_)
    have hfind : c.find coin.1 = some coin.2 :=
      Coins.find_eq_some.mpr (Coins.mem_spent.mp hcoin).1
    show w coin.2 = ((c.find coin.1).map w).getD 0
    rw [hfind]
    rfl
  rw [hworth]
  exact (hplaces.map _).sum_eq

end Worth

/-! ## Runs -/

section Runs

/-- One more transfer, of those that `allowed` lets through. -/
def Step (allowed : Coins κ ω → Transfer κ ω → Prop) (c c' : Coins κ ω) : Prop :=
  ∃ t, ∃ h : c.Takes t, allowed c t ∧ c' = c.after t h

/-- Any number of them. -/
abbrev Run (allowed : Coins κ ω → Transfer κ ω → Prop) : Coins κ ω → Coins κ ω → Prop :=
  Relation.ReflTransGen (Step allowed)

variable {allowed : Coins κ ω → Transfer κ ω → Prop} {w : ω → ℤ} {σ : Type}

/-- What has been carried out: orders, each once, whose coins are gone; and what was lost
    is what they cost. -/
structure Charged (w : ω → ℤ) (orders : List σ) (names : σ → List κ) (cost : σ → ℤ)
    (c c' : Coins κ ω) (done : List σ) : Prop where
  once : done.Nodup
  ordered : done ⊆ orders
  gone : ∀ s ∈ done, ∀ k ∈ names s, k ∈ c'.born ∧ k ∉ c'.unspent.map Prod.fst
  loss : worth w c.unspent ≤ worth w c'.unspent + (done.map cost).sum

/-- A transfer loses nothing, or carries out an order. -/
def Carries (w : ω → ℤ) (orders : List σ) (names : σ → List κ) (cost : σ → ℤ)
    (c : Coins κ ω) (t : Transfer κ ω) : Prop :=
  worth w (c.spent t) ≤ worth w t.creates
    ∨ ∃ s ∈ orders, names s = t.spends ∧ names s ≠ []
      ∧ worth w (c.spent t) ≤ worth w t.creates + cost s

variable {orders : List σ} {names : σ → List κ} {cost : σ → ℤ} {c c' c'' : Coins κ ω}

/-- One more transfer charges one more order at most, and none a second time. -/
theorem Charged.step {done : List σ} (h : Charged w orders names cost c c' done)
    (hcarries : ∀ c t, c.Takes t → allowed c t → Carries w orders names cost c t)
    (hstep : Step allowed c' c'') :
    ∃ done, Charged w orders names cost c c'' done := by
  obtain ⟨t, htakes, hallowed, rfl⟩ := hstep
  have hworth := worth_after (w := w) htakes
  have hloss := h.loss
  have hgone : ∀ s ∈ done, ∀ k ∈ names s, k ∈ (c'.after t htakes).born
      ∧ k ∉ (c'.after t htakes).unspent.map Prod.fst := fun s hs k hk =>
    Coins.gone_after htakes (h.gone s hs k hk).1 (Or.inl (h.gone s hs k hk).2)
  rcases hcarries c' t htakes hallowed with hquiet | ⟨s, hs, hnames, hne, hcost⟩
  · exact ⟨done, h.once, h.ordered, hgone, by omega⟩
  · refine ⟨s :: done, List.nodup_cons.mpr ⟨fun hdone => ?_, h.once⟩,
      List.cons_subset.mpr ⟨hs, h.ordered⟩, ?_, ?_⟩
    · -- its coins would be gone
      obtain ⟨k, hk⟩ := List.exists_mem_of_ne_nil _ hne
      exact (h.gone s hdone k hk).2 (htakes.there k (hnames ▸ hk))
    · intro s' hs' k hk
      rcases List.mem_cons.mp hs' with rfl | hs'
      · rw [hnames] at hk
        exact Coins.gone_after htakes (c'.known k (htakes.there k hk)) (Or.inr hk)
      · exact hgone s' hs' k hk
    · rw [List.map_cons, List.sum_cons]
      omega

/-- **Over a run, each order is charged at most once.** -/
theorem run_charged (hcarries : ∀ c t, c.Takes t → allowed c t → Carries w orders names cost c t)
    (hrun : Run allowed c c') : ∃ done, Charged w orders names cost c c' done := by
  induction hrun with
  | refl =>
      exact ⟨[], List.nodup_nil, List.nil_subset _, fun s hs => absurd hs List.not_mem_nil,
        by simp⟩
  | tail _ hstep ih =>
      obtain ⟨done, hdone⟩ := ih
      exact hdone.step hcarries hstep

/-- **A run loses at most what the orders cost.** -/
theorem run_losses (hcarries : ∀ c t, c.Takes t → allowed c t → Carries w orders names cost c t)
    (hcost : ∀ s ∈ orders, 0 ≤ cost s) (hrun : Run allowed c c') :
    worth w c.unspent ≤ worth w c'.unspent + (orders.map cost).sum := by
  obtain ⟨done, hdone⟩ := run_charged hcarries hrun
  have hsum : (done.map cost).sum ≤ (orders.map cost).sum := by
    obtain ⟨l, hperm, hsub⟩ := List.subperm_of_subset hdone.once hdone.ordered
    rw [← (hperm.map cost).sum_eq]
    refine (hsub.map cost).sum_le_sum fun x hx => ?_
    obtain ⟨s, hs, rfl⟩ := List.mem_map.mp hx
    exact hcost s hs
  have hloss := hdone.loss
  omega

end Runs

end CoinSet
