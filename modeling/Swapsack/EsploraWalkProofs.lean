import Swapsack.BtcProofs
import Swapsack.CollectPagesProofs

/-! # A Bitcoin history while transactions arrive

    Esplora lists an address's mempool transactions with its newest confirmed
    ones, and continues behind a confirmed transaction.  What arrives or confirms
    during the walk is put in front of what the cursor points into.

    * `page_first`, `page_next` — what the pages hold;
    * `collectFrom_esplora` — from any cursor the walk lists the rest;
    * `addressTxs_lists` — so it lists what there was when it began;
    * `collectPages_raises` — and what a page raises, but a throttle, is raised. -/

namespace SwapsackEsplora

open Failover ListKit SwapsackBase SwapsackHttp SwapsackCollectPages SwapsackBtc PyJson

/-! ## The adapter -/

section Adapter

variable {σ : Type} (getTxs : String → EStateM HttpError σ (List EsploraTx))

/-- The page behind a cursor; `getTxs` is the answer to a GET, its status checked
    and its list read. -/
def page (address : String) (cursor : Option String) :
    EStateM HttpError σ (List TxSummary × Option String) := do
  let suffix := "address/" ++ address ++ "/txs"
  let suffix :=
    match cursor with
    | some txid => if txid = "" then suffix else suffix ++ "/chain/" ++ txid
    | none => suffix
  let items ← getTxs suffix
  let txs := items.map parseTxSummary
  -- paging from a mempool txid would restart the walk
  let confirmed := (txs.filter fun tx => tx.confirmed).map fun tx => tx.txid
  pure (txs, confirmed.getLast?)

/-- `address_txs`. -/
def addressTxs (address : String) (limit : ℤ) : EStateM HttpError σ (AddressTxs TxSummary) :=
  collectPages (fun tx => .str tx.txid) (page getTxs address) limit

end Adapter

/-! ## The server -/

/-- The id a transaction is listed under. -/
def idOf (t : EsploraTx) : String := (parseTxSummary t).txid

/-- An Esplora server's view of an address when the `k`th request is answered:
    the mempool, and the confirmed transactions newest first, where new ones are
    only ever put in front.  A page of confirmed ones holds `size k`. -/
structure Esplora where
  mempool : ℕ → List EsploraTx
  confirmed : ℕ → List EsploraTx
  mempool_unconfirmed : ∀ k, ∀ t ∈ mempool k, (parseTxSummary t).confirmed = false
  confirmed_confirmed : ∀ k, ∀ t ∈ confirmed k, (parseTxSummary t).confirmed = true
  grows : ∀ k, confirmed k <:+ confirmed (k + 1)
  distinct : ∀ k, ((mempool k ++ confirmed k).map idOf).Nodup
  named : ∀ k, ∀ t ∈ mempool k ++ confirmed k, idOf t ≠ ""
  size : ℕ → ℕ
  size_pos : ∀ k, 0 < size k

/-- What is listed strictly behind a transaction. -/
def behind (txid : String) (l : List EsploraTx) : List EsploraTx :=
  (l.dropWhile fun t => idOf t != txid).tail

/-- The answer to the `k`th request. -/
def Esplora.reply (e : Esplora) (address suffix : String) (k : ℕ) : List EsploraTx :=
  let path := "address/" ++ address ++ "/txs"
  if suffix = path then e.mempool k ++ (e.confirmed k).take (e.size k)
  else
    match suffix.toList.dropPrefix? (path ++ "/chain/").toList with
    | some txid => (behind (String.ofList txid) (e.confirmed k)).take (e.size k)
    | none => []

/-- A server that answers every request. -/
def Esplora.serve (e : Esplora) (address suffix : String) : EStateM HttpError ℕ (List EsploraTx) :=
  fun k => .ok (e.reply address suffix k) (k + 1)

section Walk

variable {e : Esplora}

/-- What was confirmed stays confirmed. -/
theorem Esplora.confirmed_suffix (e : Esplora) {k m : ℕ} (h : k ≤ m) :
    e.confirmed k <:+ e.confirmed m := by
  induction m with
  | zero => rw [Nat.le_zero.mp h]
  | succ m ih =>
      by_cases hk : k ≤ m
      · exact (ih hk).trans (e.grows m)
      · rw [show k = m + 1 by omega]

/-- Behind a transaction stands what is listed after it, whatever stands before. -/
theorem behind_append {before rest : List EsploraTx} {t : EsploraTx}
    (h : ∀ u ∈ before, idOf u ≠ idOf t) : behind (idOf t) (before ++ t :: rest) = rest := by
  have hdrop : (before ++ t :: rest).dropWhile (fun u => idOf u != idOf t) = t :: rest := by
    rw [List.dropWhile_append_of_pos, List.dropWhile_cons_of_neg]
    · simp
    · intro u hu
      simpa using h u hu
  rw [behind, hdrop]
  rfl

/-- The first page: the mempool and the newest confirmed transactions. -/
theorem page_first (e : Esplora) (address : String) (k : ℕ) :
    page (e.serve address) address none k
      = .ok ((e.mempool k ++ (e.confirmed k).take (e.size k)).map parseTxSummary,
          ((e.confirmed k).take (e.size k)).getLast?.map idOf) (k + 1) := by
  have hreply : e.reply address ("address/" ++ address ++ "/txs") k
      = e.mempool k ++ (e.confirmed k).take (e.size k) := if_pos rfl
  have hmempool : ((e.mempool k).map parseTxSummary).filter (fun tx => tx.confirmed) = [] := by
    rw [List.filter_eq_nil_iff]
    intro tx htx
    obtain ⟨t, ht, rfl⟩ := List.mem_map.mp htx
    rw [e.mempool_unconfirmed k t ht]
    exact Bool.false_ne_true
  have hconfirmed : (((e.confirmed k).take (e.size k)).map parseTxSummary).filter
      (fun tx => tx.confirmed) = ((e.confirmed k).take (e.size k)).map parseTxSummary := by
    rw [List.filter_eq_self]
    intro tx htx
    obtain ⟨t, ht, rfl⟩ := List.mem_map.mp htx
    exact e.confirmed_confirmed k t (List.mem_of_mem_take ht)
  rw [page]
  simp only [bind_run, Esplora.serve, hreply, pure_run, List.map_append, List.filter_append,
    hmempool, hconfirmed, List.nil_append]
  rw [List.map_map, List.getLast?_map]
  rfl

/-- **A later page**: what is listed behind the cursor, whatever was put in front
    of it since. -/
theorem page_next (e : Esplora) (address : String) {k₀ k : ℕ} (hk : k₀ ≤ k)
    {init rest : List EsploraTx} {t : EsploraTx} (hlist : e.confirmed k₀ = init ++ t :: rest) :
    page (e.serve address) address (some (idOf t)) k
      = .ok ((rest.take (e.size k)).map parseTxSummary,
          (rest.take (e.size k)).getLast?.map idOf) (k + 1) := by
  obtain ⟨newer, hnewer⟩ := e.confirmed_suffix hk
  rw [hlist, ← List.append_assoc] at hnewer
  have hdistinct := e.distinct k
  rw [← hnewer, List.map_append, List.map_append, List.map_cons] at hdistinct
  have hbefore : ∀ u ∈ newer ++ init, idOf u ≠ idOf t := by
    intro u hu hsame
    have hnodup := (List.nodup_append.mp hdistinct).2.1
    exact (List.nodup_append.mp hnodup).2.2 _ (List.mem_map_of_mem hu) _ List.mem_cons_self hsame
  have hname : idOf t ≠ "" := by
    refine e.named k t (List.mem_append_right _ ?_)
    rw [← hnewer]
    exact List.mem_append_right _ List.mem_cons_self
  have hconfirmed : ((rest.take (e.size k)).map parseTxSummary).filter (fun tx => tx.confirmed)
      = (rest.take (e.size k)).map parseTxSummary := by
    rw [List.filter_eq_self]
    intro tx htx
    obtain ⟨u, hu, rfl⟩ := List.mem_map.mp htx
    refine e.confirmed_confirmed k u ?_
    rw [← hnewer]
    exact List.mem_append_right _ (List.mem_cons_of_mem _ (List.mem_of_mem_take hu))
  -- the server reads the cursor off the path
  have hreply : e.reply address ("address/" ++ address ++ "/txs" ++ "/chain/" ++ idOf t) k
      = rest.take (e.size k) := by
    have hother : "address/" ++ address ++ "/txs" ++ "/chain/" ++ idOf t
        ≠ "address/" ++ address ++ "/txs" := by
      intro hsame
      have hlength := congrArg (fun s : String => s.toList.length) hsame
      simp at hlength
    rw [Esplora.reply]
    rw [if_neg hother, String.toList_append, List.dropPrefix?_append_of_beq _ (beq_self_eq_true _)]
    dsimp only
    rw [String.ofList_toList, ← hnewer, behind_append hbefore]
  rw [page]
  simp only [if_neg hname, bind_run, Esplora.serve, hreply, pure_run, hconfirmed]
  rw [List.map_map, List.getLast?_map]
  rfl

/-- Nothing listed behind a part of a list is in that part. -/
theorem filter_fresh {seen new : List EsploraTx} (hdistinct : ((seen ++ new).map idOf).Nodup) :
    (new.map parseTxSummary).filter
        (fun tx => tx.txid ∉ (seen.map parseTxSummary).map TxSummary.txid)
      = new.map parseTxSummary := by
  rw [List.filter_eq_self]
  intro tx htx
  obtain ⟨t, ht, rfl⟩ := List.mem_map.mp htx
  rw [decide_eq_true_iff, List.map_map]
  intro hseen
  obtain ⟨u, hu, hsame⟩ := List.mem_map.mp hseen
  rw [List.map_append, List.nodup_append] at hdistinct
  exact hdistinct.2.2 _ (List.mem_map_of_mem hu) _ (List.mem_map_of_mem ht) hsame

/-- A page moves the cursor to its last transaction, and leaves less behind it. -/
theorem cursor_advances {α : Type} {l init rest init' : List α} {t t' : α} {size : ℕ}
    (hlist : l = init ++ t :: rest) (hpage : rest.take size = init' ++ [t']) :
    l = (init ++ t :: init') ++ t' :: rest.drop size
      ∧ (rest.drop size).length < rest.length := by
  have hrest : rest = init' ++ t' :: rest.drop size := by
    calc rest = rest.take size ++ rest.drop size := (List.take_append_drop _ _).symm
      _ = init' ++ t' :: rest.drop size := by
          rw [hpage, List.append_assoc]
          rfl
  refine ⟨by rw [hlist, List.append_assoc, List.cons_append, ← hrest], ?_⟩
  have hlength := congrArg List.length hrest
  rw [List.length_append, List.length_cons] at hlength
  omega

/-- **From any cursor the walk lists the rest**: what was listed when it began, up
    to the cursor, is collected; the fuel covers what is missing. -/
theorem collectFrom_esplora (e : Esplora) (address : String) {limit : ℤ} {k₀ : ℕ}
    (hfew : ((e.mempool k₀ ++ e.confirmed k₀).length : ℤ) < limit) (fuel : ℕ) :
    ∀ {k : ℕ} {init rest : List EsploraTx} {t : EsploraTx}, k₀ ≤ k →
      e.confirmed k₀ = init ++ t :: rest → rest.length < fuel →
      ∃ k', collectFrom (fun tx => .str tx.txid) (page (e.serve address) address) limit fuel
          (((e.mempool k₀ ++ (init ++ [t])).map parseTxSummary).map fun tx => .str tx.txid)
          ((e.mempool k₀ ++ (init ++ [t])).map parseTxSummary) (some (idOf t)) k
        = .ok { transactions := (e.mempool k₀ ++ e.confirmed k₀).map parseTxSummary } k' := by
  induction fuel with
  | zero =>
      intro k init rest t _ _ hfuel
      exact absurd hfuel (Nat.not_lt_zero _)
  | succ fuel ih =>
      intro k init rest t hk hlist hfuel
      have hsplit : init ++ t :: rest = (init ++ [t]) ++ rest := by
        rw [List.append_assoc]
        rfl
      -- what the page brings was not listed before, and stays below the limit
      have hdistinct :
          ((e.mempool k₀ ++ (init ++ [t]) ++ rest.take (e.size k)).map idOf).Nodup := by
        have hall := e.distinct k₀
        rw [hlist, hsplit, ← List.take_append_drop (e.size k) rest, ← List.append_assoc,
          ← List.append_assoc, List.map_append] at hall
        exact (List.nodup_append.mp hall).1
      have hlimit : ¬ limit ≤ (((e.mempool k₀ ++ (init ++ [t])).map parseTxSummary
          ++ (rest.take (e.size k)).map parseTxSummary).length : ℤ) := by
        have htake := (List.take_sublist (e.size k) rest).length_le
        rw [hlist, hsplit] at hfew
        simp only [List.length_append, List.length_map] at hfew htake ⊢
        omega
      rw [collectFrom, page_next e address hk hlist]
      simp only [newTxs_str, filter_fresh hdistinct, if_neg hlimit]
      rcases List.eq_nil_or_concat (rest.take (e.size k)) with hnil | ⟨init', t', hpage⟩
      · -- an empty page: nothing is listed behind the cursor
        have hrest : rest = [] := by
          rcases List.take_eq_nil_iff.mp hnil with hsize | hrest
          · exact absurd hsize (e.size_pos k).ne'
          · exact hrest
        have hcursor : ([] : List EsploraTx).getLast?.map idOf = none := rfl
        rw [hnil, hcursor, if_pos (Or.inl rfl)]
        refine ⟨k + 1, ?_⟩
        rw [List.map_nil, List.append_nil, hlist, hrest]
      · rw [List.concat_eq_append] at hpage
        obtain ⟨hlist', hshorter⟩ := cursor_advances hlist hpage
        have hcollected : (e.mempool k₀ ++ (init ++ [t])) ++ (init' ++ [t'])
            = e.mempool k₀ ++ ((init ++ t :: init') ++ [t']) := by
          simp only [List.append_assoc, List.cons_append, List.nil_append]
        have hlast : (init' ++ [t']).getLast?.map idOf = some (idOf t') := by
          rw [List.getLast?_concat]
          rfl
        have hgoes : ¬ (some (idOf t') = none
            ∨ ((init' ++ [t']).map parseTxSummary).isEmpty = true) := by
          simp
        rw [hpage, hlast, if_neg hgoes]
        have hnext := ih (show k₀ ≤ k + 1 by omega) hlist' (by omega)
        rw [← hcollected, List.map_append, List.map_append] at hnext
        exact hnext

/-- **The walk lists what there was when it began**, each transaction once and not
    truncated, whatever arrives or confirms meanwhile. -/
theorem addressTxs_lists (e : Esplora) (address : String) {limit : ℤ} {k₀ : ℕ}
    (hfew : ((e.mempool k₀ ++ e.confirmed k₀).length : ℤ) < limit) :
    ∃ k', addressTxs (e.serve address) address limit k₀
      = .ok { transactions := (e.mempool k₀ ++ e.confirmed k₀).map parseTxSummary } k' := by
  have hdistinct :
      (([] ++ (e.mempool k₀ ++ (e.confirmed k₀).take (e.size k₀))).map idOf).Nodup := by
    have hall := e.distinct k₀
    rw [← List.take_append_drop (e.size k₀) (e.confirmed k₀), ← List.append_assoc,
      List.map_append] at hall
    exact (List.nodup_append.mp hall).1
  have hlimit : ¬ limit ≤ ((([] : List TxSummary) ++ (e.mempool k₀
      ++ (e.confirmed k₀).take (e.size k₀)).map parseTxSummary).length : ℤ) := by
    have htake := (List.take_sublist (e.size k₀) (e.confirmed k₀)).length_le
    simp only [List.length_append, List.length_map, List.length_nil] at hfew htake ⊢
    omega
  have hnew := newTxs_str TxSummary.txid []
    ((e.mempool k₀ ++ (e.confirmed k₀).take (e.size k₀)).map parseTxSummary)
  have hfresh := filter_fresh hdistinct
  rw [List.map_nil] at hnew hfresh
  rw [addressTxs, collectPages, collectFrom, page_first]
  simp only [hnew, hfresh, if_neg hlimit]
  rcases List.eq_nil_or_concat ((e.confirmed k₀).take (e.size k₀)) with hnil | ⟨init, t, hpage⟩
  · -- nothing is confirmed: the mempool is all there is
    have hnone : e.confirmed k₀ = [] := by
      rcases List.take_eq_nil_iff.mp hnil with hsize | hnone
      · exact absurd hsize (e.size_pos k₀).ne'
      · exact hnone
    have hcursor : ([] : List EsploraTx).getLast?.map idOf = none := rfl
    rw [hnil, hcursor, if_pos (Or.inl rfl), hnone]
    exact ⟨k₀ + 1, rfl⟩
  · rw [List.concat_eq_append] at hpage
    have hlist : e.confirmed k₀ = init ++ t :: (e.confirmed k₀).drop (e.size k₀) := by
      calc e.confirmed k₀
          = (e.confirmed k₀).take (e.size k₀) ++ (e.confirmed k₀).drop (e.size k₀) :=
            (List.take_append_drop _ _).symm
        _ = init ++ t :: (e.confirmed k₀).drop (e.size k₀) := by
            rw [hpage, List.append_assoc]
            rfl
    have hshort : ((e.confirmed k₀).drop (e.size k₀)).length < limit.toNat := by
      have hdrop := (List.drop_sublist (e.size k₀) (e.confirmed k₀)).length_le
      rw [List.length_append] at hfew
      omega
    have hlast : (init ++ [t]).getLast?.map idOf = some (idOf t) := by
      rw [List.getLast?_concat]
      rfl
    have hgoes : ¬ (some (idOf t) = none
        ∨ ((e.mempool k₀ ++ (init ++ [t])).map parseTxSummary).isEmpty = true) := by
      simp
    rw [hpage, hlast, if_neg hgoes]
    exact collectFrom_esplora e address hfew limit.toNat (Nat.le_succ k₀) hlist hshort

end Walk

/-- **A paged history**: however the pages come, the walk makes at most `limit`
    calls, and a throttle or the limit marks what it returns as truncated; only
    what a call raises otherwise is raised.  Against an Esplora server it lists
    what there was when it began, where that is less than the limit. -/
theorem collectPages_history {limit : ℤ} (hlimit : 1 ≤ limit) :
    (∀ {σ τ κ : Type} (id : τ → String)
      (fetchPage : Option κ → EStateM HttpError σ (List τ × Option κ)) (s : σ),
      ∃ calls last,
        (final (collectPages (fun t => .str (id t)) (logged fetchPage) limit (s, []))).2 = calls
        ∧ calls.getLast? = some last ∧ (calls.length : ℤ) ≤ limit
        ∧ Ends limit last (outcome (collectPages (fun t => .str (id t)) fetchPage limit s)))
    ∧ ∀ (e : Esplora) (address : String) (k : ℕ),
      ((e.mempool k ++ e.confirmed k).length : ℤ) < limit →
      ∃ k', addressTxs (e.serve address) address limit k
          = .ok { transactions := (e.mempool k ++ e.confirmed k).map parseTxSummary
                  truncated := false } k'
        ∧ (((e.mempool k ++ e.confirmed k).map parseTxSummary).map TxSummary.txid).Nodup := by
  refine ⟨fun id fetchPage s => collectPages_ends id fetchPage hlimit s, ?_⟩
  intro e address k hfew
  obtain ⟨k', hwalk⟩ := addressTxs_lists e address hfew
  refine ⟨k', hwalk, ?_⟩
  rw [List.map_map]
  exact e.distinct k

def mined (id : String) : EsploraTx := { txid := some id, status := some { confirmed := true } }

/-- An address with a transaction in the mempool and four that are confirmed, listed in
    pages of two.  After the first request a block brings that one and another. -/
def confirming : Esplora where
  mempool k := if k = 0 then [{ txid := some "ee" }] else []
  confirmed k :=
    (if k = 0 then [] else [mined "ff", mined "ee"])
      ++ [mined "dd", mined "cc", mined "bb", mined "aa"]
  mempool_unconfirmed k := by
    by_cases hk : k = 0
    · rw [if_pos hk]
      exact forall_mem_of_all (by decide)
    · rw [if_neg hk]
      exact forall_mem_of_all (by decide)
  confirmed_confirmed k := by
    by_cases hk : k = 0
    · rw [if_pos hk]
      exact forall_mem_of_all (by decide)
    · rw [if_neg hk]
      exact forall_mem_of_all (by decide)
  grows k := by
    rw [if_neg (Nat.succ_ne_zero k)]
    by_cases hk : k = 0
    · rw [if_pos hk]
      exact List.suffix_append [mined "ff", mined "ee"] _
    · rw [if_neg hk]
  distinct k := by
    by_cases hk : k = 0
    · rw [if_pos hk, if_pos hk]
      decide
    · rw [if_neg hk, if_neg hk]
      decide
  named k := by
    by_cases hk : k = 0
    · rw [if_pos hk, if_pos hk]
      exact forall_mem_of_all (by decide)
    · rw [if_neg hk, if_neg hk]
      exact forall_mem_of_all (by decide)
  size _ := 2
  size_pos _ := by decide

/-- The walk makes three calls, and lists what there was before the block. -/
theorem collectPages_history_confirming :
    (∃ calls last,
      (final (collectPages (fun t => .str t.txid)
        (logged (page (confirming.serve "bc1q") "bc1q")) 500 (0, []))).2 = calls
      ∧ calls.length = 3 ∧ calls.getLast? = some last
      ∧ Ends 500 last (outcome (addressTxs (confirming.serve "bc1q") "bc1q" 500 0)))
    ∧ (∃ k', addressTxs (confirming.serve "bc1q") "bc1q" 500 0
        = .ok { transactions := (confirming.mempool 0 ++ confirming.confirmed 0).map parseTxSummary
                truncated := false } k')
      ∧ (((confirming.mempool 0 ++ confirming.confirmed 0).map parseTxSummary).map
          TxSummary.txid).Nodup := by
  have hhistory := collectPages_history (by norm_num : (1 : ℤ) ≤ 500)
  obtain ⟨calls, last, hcalls, hlast, -, hends⟩ :=
    hhistory.1 TxSummary.txid (page (confirming.serve "bc1q") "bc1q") 0
  obtain ⟨k', hwalk, hnodup⟩ := hhistory.2 confirming "bc1q" 0 (by decide)
  refine ⟨⟨calls, last, hcalls, ?_, hlast, hends⟩, ⟨k', hwalk⟩, hnodup⟩
  rw [← hcalls]
  decide +kernel

/-- A page that raises what is no throttle: the walk raises it. -/
theorem collectPages_raises :
    ¬ ∀ (fetchPage : Option String → EStateM HttpError ℕ (List TxSummary × Option String))
      (limit : ℤ), 1 ≤ limit → ∀ s, ∃ history,
        outcome (collectPages (fun tx => .str tx.txid) fetchPage limit s) = .ok history := by
  intro h
  obtain ⟨history, hreturns⟩ := h (fun _ s => .error (.httpStatus 404) s) 1 le_rfl 0
  cases hreturns

end SwapsackEsplora
