import Swapsack.HttpProofs

/-! # Walking a paged history

    One loop serves every explorer: pages are fetched by an opaque cursor until
    one brings nothing new, names no next page, or reaches the limit.

    * `collectFrom_fuel` — the bound on the number of pages is never what ends
      the walk;
    * `collectPages_rateLimited`, `collectPages_error` — a throttle on the first
      page is an empty, truncated history, any other failure is raised;
    * `raises_collectPages` — what the walk raises, its pages raise;
    * `collectPages_ends` — however the pages come, the walk makes no more calls
      than its limit, and how it ends is what its last call did. -/

namespace SwapsackCollectPages

open Failover ListKit PyJson SwapsackHttp

/-- A history, and whether the source cut it short. -/
structure AddressTxs (τ : Type) where
  transactions : List τ
  truncated : Bool := false

/-- `xs[:limit]`. -/
def sliceTo {τ : Type} (xs : List τ) (limit : ℤ) : List τ :=
  if 0 ≤ limit then xs.take limit.toNat else xs.take (xs.length - limit.natAbs)

section Walk

variable {σ τ κ : Type} (txid : τ → Json)
  (fetchPage : Option κ → EStateM HttpError σ (List τ × Option κ))

/-- The transactions of a page that were not seen before; what cannot be hashed
    cannot be looked up. -/
def newTxs (seen : List Json) (page : List τ) : Except PyExc (List τ) :=
  if page.all fun tx => (txid tx).hashable then
    .ok (page.filter fun tx => !seen.any fun id => (txid tx).same id)
  else .error .typeError

/-- The loop, for at most `fuel` pages. -/
def collectFrom (limit : ℤ) :
    ℕ → List Json → List τ → Option κ → EStateM HttpError σ (AddressTxs τ)
  | 0, _, txs, _, s => .ok { transactions := txs, truncated := true } s
  | fuel + 1, seen, txs, cursor, s =>
      match fetchPage cursor s with
      | .error e s =>
          if e.isRateLimited then .ok { transactions := txs, truncated := true } s
          else .error e s
      | .ok (page, cursor) s =>
          match newTxs txid seen page with
          | .error e => .error (.python e) s
          | .ok new =>
              if limit ≤ (txs ++ new).length then
                .ok { transactions := sliceTo (txs ++ new) limit, truncated := true } s
              else if cursor = none ∨ new.isEmpty then
                .ok { transactions := txs ++ new } s
              else collectFrom limit fuel (seen ++ new.map txid) (txs ++ new) cursor s

/-- `collect_pages`: a page either ends the walk or brings a transaction, so
    `limit` pages and one more are enough. -/
def collectPages (limit : ℤ) : EStateM HttpError σ (AddressTxs τ) :=
  collectFrom txid fetchPage limit (limit.toNat + 1) [] [] none

variable {txid fetchPage} {limit : ℤ}

/-- A page more or less makes no difference once there are enough. -/
theorem collectFrom_succ (fuel : ℕ) (hpos : 0 < fuel) (seen : List Json) (txs : List τ)
    (henough : limit.toNat < txs.length + fuel) (cursor : Option κ) (s : σ) :
    collectFrom txid fetchPage limit (fuel + 1) seen txs cursor s
      = collectFrom txid fetchPage limit fuel seen txs cursor s := by
  induction fuel generalizing seen txs cursor s with
  | zero => omega
  | succ fuel ih =>
      rw [collectFrom]
      conv_rhs => rw [collectFrom]
      cases fetchPage cursor s with
      | error e s => rfl
      | ok a s =>
          obtain ⟨page, cursor⟩ := a
          dsimp only
          cases newTxs txid seen page with
          | error e => rfl
          | ok new =>
              dsimp only
              by_cases hlimit : limit ≤ (txs ++ new).length
              · rw [if_pos hlimit, if_pos hlimit]
              rw [if_neg hlimit, if_neg hlimit]
              by_cases hstop : cursor = none ∨ new.isEmpty
              · rw [if_pos hstop, if_pos hstop]
              rw [if_neg hstop, if_neg hstop]
              -- The walk goes on, so the page brought something.
              have hnew : 0 < new.length := by
                refine List.length_pos_iff.mpr fun h => hstop (Or.inr ?_)
                rw [h]
                rfl
              rw [List.length_append] at hlimit
              refine ih ?_ _ _ ?_ _ _
              · omega
              · rw [List.length_append]
                omega

/-- **The bound is never what ends the walk.** -/
theorem collectFrom_fuel (extra : ℕ) (s : σ) :
    collectFrom txid fetchPage limit (limit.toNat + 1 + extra) [] [] none s
      = collectPages txid fetchPage limit s := by
  induction extra with
  | zero => rfl
  | succ extra ih =>
      rw [← ih, ← Nat.add_assoc]
      refine collectFrom_succ _ (by omega) [] [] ?_ none s
      show limit.toNat < 0 + _
      omega

/-- A throttle on the first page is an empty, truncated history. -/
theorem collectPages_rateLimited {s t : σ} {e : HttpError}
    (h : fetchPage none s = .error e t) (he : e.isRateLimited = true) :
    collectPages txid fetchPage limit s
      = .ok { transactions := [], truncated := true } t := by
  rw [collectPages, collectFrom]
  simp only [h, he, if_true]

/-- Any other failure on the first page is raised. -/
theorem collectPages_error {s t : σ} {e : HttpError}
    (h : fetchPage none s = .error e t) (he : e.isRateLimited = false) :
    collectPages txid fetchPage limit s = .error e t := by
  rw [collectPages, collectFrom]
  simp only [h, he, Bool.false_eq_true, if_false]

/-- What the walk raises, its pages raise. -/
theorem raises_collectPages (h : ∀ cursor, Raises NotDown (fetchPage cursor)) :
    Raises NotDown (collectPages txid fetchPage limit) := by
  have run : ∀ fuel seen txs cursor,
      Raises NotDown (collectFrom txid fetchPage limit fuel seen txs cursor) := by
    intro fuel
    induction fuel with
    | zero =>
        intro seen txs cursor s e he
        cases he
    | succ fuel ih =>
        intro seen txs cursor s e he
        rw [collectFrom] at he
        cases hpage : fetchPage cursor s with
        | error e' t =>
            have hnot : NotDown e' := h cursor s e' (by rw [hpage]; rfl)
            have hrate : e'.isRateLimited = false := by
              cases e' <;> first | rfl | cases hnot.1
            simp only [hpage, hrate, Bool.false_eq_true, if_false] at he
            cases he
            exact hnot
        | ok a t =>
            obtain ⟨page, cursor'⟩ := a
            simp only [hpage] at he
            cases hnew : newTxs txid seen page with
            | error e' =>
                simp only [hnew] at he
                cases he
                exact notDown_python e'
            | ok new =>
                simp only [hnew] at he
                split at he
                · cases he
                split at he
                · cases he
                exact ih _ _ _ _ _ he
  exact run _ _ _ _

end Walk

/-! ## The calls of a walk -/

section Calls

variable {σ τ κ : Type}

/-- What a call came to: a page and the next cursor, or what it raised. -/
abbrev Call (τ κ : Type) := Except HttpError (List τ × Option κ)

/-- A fetch whose calls are written down. -/
def logged (fetchPage : Option κ → EStateM HttpError σ (List τ × Option κ)) (cursor : Option κ) :
    EStateM HttpError (σ × List (Call τ κ)) (List τ × Option κ) := fun s =>
  match fetchPage cursor s.1 with
  | .ok page t => .ok page (t, s.2 ++ [.ok page])
  | .error e t => .error e (t, s.2 ++ [.error e])

/-- How a walk ends, by its last call: a throttle cuts it short, any other
    failure is raised, and a page ends it at the limit or below it. -/
inductive Ends (limit : ℤ) : Call τ κ → Except HttpError (AddressTxs τ) → Prop
  | throttled {e : HttpError} (txs : List τ) (h : e.isRateLimited = true) :
      Ends limit (.error e) (.ok { transactions := txs, truncated := true })
  | raised {e : HttpError} (h : e.isRateLimited = false) : Ends limit (.error e) (.error e)
  | full (page : List τ × Option κ) {txs : List τ} (h : (txs.length : ℤ) = limit) :
      Ends limit (.ok page) (.ok { transactions := txs, truncated := true })
  | whole (page : List τ × Option κ) {txs : List τ} (h : (txs.length : ℤ) < limit) :
      Ends limit (.ok page) (.ok { transactions := txs })

/-- Where ids are texts, the new transactions are those whose id is new. -/
theorem newTxs_str (id : τ → String) (seen : List τ) (page : List τ) :
    newTxs (fun t => .str (id t)) (seen.map fun t => .str (id t)) page
      = .ok (page.filter fun t => id t ∉ seen.map id) := by
  have hhash : (page.all fun t => (Json.str (id t)).hashable) = true := by
    rw [List.all_eq_true]
    intro t _
    rfl
  rw [newTxs, if_pos hhash]
  refine congrArg Except.ok (List.filter_congr fun t _ => ?_)
  rw [Bool.eq_iff_iff, Bool.not_eq_true', List.any_eq_false, decide_eq_true_iff, List.mem_map]
  constructor
  · rintro hnone ⟨t', ht', hid⟩
    refine hnone (.str (id t')) (List.mem_map_of_mem ht') ?_
    rw [Json.same_str, hid, beq_self_eq_true]
  · rintro hnone j hj hsame
    obtain ⟨t', ht', rfl⟩ := List.mem_map.mp hj
    rw [Json.same_str] at hsame
    exact hnone ⟨t', ht', (eq_of_beq hsame).symm⟩

variable {fetchPage : Option κ → EStateM HttpError σ (List τ × Option κ)} {limit : ℤ}

/-- **A walk from anywhere below its limit** makes no more calls than are missing
    to it: a page that does not end it brings a transaction. -/
theorem collectFrom_ends (id : τ → String)
    (fetchPage : Option κ → EStateM HttpError σ (List τ × Option κ)) (fuel : ℕ) (txs : List τ)
    (cursor : Option κ) (s : σ) (log : List (Call τ κ)) (hbelow : (txs.length : ℤ) < limit)
    (henough : limit ≤ txs.length + fuel) :
    ∃ calls last, (final (collectFrom (fun t => .str (id t)) (logged fetchPage) limit fuel
          (txs.map fun t => .str (id t)) txs cursor (s, log))).2 = log ++ calls
      ∧ calls.getLast? = some last ∧ (txs.length + calls.length : ℤ) ≤ limit
      ∧ Ends limit last (outcome (collectFrom (fun t => .str (id t)) (logged fetchPage) limit fuel
          (txs.map fun t => .str (id t)) txs cursor (s, log))) := by
  induction fuel generalizing txs cursor s log with
  | zero => omega
  | succ fuel ih =>
      rw [collectFrom]
      cases hfetch : fetchPage cursor s with
      | error e t =>
          have hlogged : logged fetchPage cursor (s, log) = .error e (t, log ++ [.error e]) := by
            rw [logged, hfetch]
          simp only [hlogged]
          cases hrate : e.isRateLimited with
          | true => exact ⟨[.error e], _, rfl, rfl, by simp; omega, .throttled txs hrate⟩
          | false => exact ⟨[.error e], _, rfl, rfl, by simp; omega, .raised hrate⟩
      | ok page t =>
          obtain ⟨page, following⟩ := page
          have hlogged : logged fetchPage cursor (s, log)
              = .ok (page, following) (t, log ++ [.ok (page, following)]) := by
            rw [logged, hfetch]
          simp only [hlogged, newTxs_str]
          set new := page.filter fun t => id t ∉ txs.map id
          by_cases hlimit : limit ≤ (txs ++ new).length
          · -- The limit is reached.
            rw [if_pos hlimit]
            refine ⟨[.ok (page, following)], _, rfl, rfl, by simp; omega, .full _ ?_⟩
            rw [sliceTo, if_pos (by omega), List.length_take]
            omega
          rw [if_neg hlimit]
          by_cases hstop : following = none ∨ new.isEmpty
          · rw [if_pos hstop]
            exact ⟨[.ok (page, following)], _, rfl, rfl, by simp; omega,
              .whole _ (not_le.mp hlimit)⟩
          rw [if_neg hstop]
          -- The walk goes on, so the page brought something.
          have hnew : 0 < new.length := by
            refine List.length_pos_iff.mpr fun h => hstop (Or.inr ?_)
            rw [h]
            rfl
          rw [List.length_append] at hlimit
          obtain ⟨calls, last, hlog, hlast, hcount, hends⟩ := ih (txs ++ new) following t
            (log ++ [.ok (page, following)]) (by rw [List.length_append]; omega)
            (by rw [List.length_append]; omega)
          rw [List.map_append] at hlog hends
          rw [List.length_append] at hcount
          refine ⟨.ok (page, following) :: calls, last, ?_, ?_, ?_, hends⟩
          · rw [hlog, List.append_assoc]
            rfl
          · rw [List.getLast?_cons, hlast]
            rfl
          · rw [List.length_cons]
            omega

/-- Writing the calls down changes nothing. -/
theorem collectFrom_logged (txid : τ → Json) (fuel : ℕ) (seen : List Json) (txs : List τ)
    (cursor : Option κ) (s : σ) (log : List (Call τ κ)) :
    outcome (collectFrom txid (logged fetchPage) limit fuel seen txs cursor (s, log))
      = outcome (collectFrom txid fetchPage limit fuel seen txs cursor s) := by
  induction fuel generalizing seen txs cursor s log with
  | zero => rfl
  | succ fuel ih =>
      rw [collectFrom, collectFrom, logged]
      cases fetchPage cursor s with
      | error e t =>
          dsimp only
          cases e.isRateLimited <;> rfl
      | ok page t =>
          obtain ⟨page, following⟩ := page
          dsimp only
          cases newTxs txid seen page with
          | error e => rfl
          | ok new =>
              dsimp only
              by_cases hlimit : limit ≤ (txs ++ new).length
              · rw [if_pos hlimit, if_pos hlimit]
                rfl
              rw [if_neg hlimit, if_neg hlimit]
              by_cases hstop : following = none ∨ new.isEmpty
              · rw [if_pos hstop, if_pos hstop]
                rfl
              rw [if_neg hstop, if_neg hstop]
              exact ih _ _ _ _ _

/-- **However the pages come**, the walk makes at most `limit` calls, and how it
    ends is what its last call did. -/
theorem collectPages_ends (id : τ → String)
    (fetchPage : Option κ → EStateM HttpError σ (List τ × Option κ)) (hlimit : 1 ≤ limit) (s : σ) :
    ∃ calls last, (final (collectPages (fun t => .str (id t)) (logged fetchPage) limit (s, []))).2
        = calls
      ∧ calls.getLast? = some last ∧ (calls.length : ℤ) ≤ limit
      ∧ Ends limit last (outcome (collectPages (fun t => .str (id t)) fetchPage limit s)) := by
  obtain ⟨calls, last, hlog, hlast, hcount, hends⟩ := collectFrom_ends id fetchPage
    (limit.toNat + 1) [] none s [] (show ((0 : ℕ) : ℤ) < limit by omega)
    (show limit ≤ ((0 : ℕ) : ℤ) + _ by omega)
  rw [List.map_nil, collectFrom_logged] at hends
  refine ⟨calls, last, hlog, hlast, ?_, hends⟩
  rw [List.length_nil] at hcount
  omega

end Calls

end SwapsackCollectPages
