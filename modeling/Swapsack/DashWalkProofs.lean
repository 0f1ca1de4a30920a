import Swapsack.DashProofs

/-! # A Dash history that moves while it is read

    An explorer lists an address's transactions newest first and by position, so
    one that arrives between two pages shifts all the others.  The walk compares
    the total each page reports and starts over when it moved.

    * `insightPage_explorer`, `blockbookPage_explorer` — what a page holds, by
      its cursor;
    * `collectFrom_explorer` — a pass that is not raced lists what was there when
      it began;
    * `addressTxs_complete` — so a history that is not marked truncated is
      whole, and one quiet attempt is enough for one. -/

namespace SwapsackDashWalk

open Failover ListKit PyText PyJson EmailDate SwapsackHttp SwapsackCollectPages SwapsackDashApi
open SwapsackDash

section Walk

variable [PyCharacters]

/-! ## The explorer -/

/-- One API's reading of a listed transaction. -/
def parseTx (base : String) : Json → Except PyExc TxSummary :=
  if isBlockbook base then parseBlockbookTx else parseInsightTx

/-- A transaction as an explorer lists it. -/
structure Listed (base : String) where
  item : Json
  tx : TxSummary
  id : String
  parses : parseTx base item = .ok tx
  txid : tx.txid = .str id

/-- An explorer's list for an address, newest first, as it stands when the `k`th
    request is answered: transactions are only ever put in front.  A page holds
    at most `cap`, and the number of pages is left out or covers the list. -/
structure Explorer (base : String) where
  txs : ℕ → List (Listed base)
  grows : ∀ k, txs k <:+ txs (k + 1)
  distinct : ∀ k, ((txs k).map Listed.id).Nodup
  cap : ℕ
  cap_pos : 0 < cap
  pages : ℕ → ℕ → ℕ
  covers : ∀ n size, pages n size = 0 ∨ n ≤ pages n size * size

/-- A whole number among the parameters of a request. -/
def intParam (req : Request) (name : String) : ℕ :=
  match getKey req.params name with
  | some (.int n) => n.toNat
  | _ => 0

/-- How many transactions of a list are still in the mempool. -/
def waiting {base : String} (l : List (Listed base)) : ℕ :=
  (l.filter fun t => !t.tx.confirmed).length

/-- An Insight window on the list. -/
def insightBody {base : String} (cap : ℕ) (l : List (Listed base)) (req : Request) : Json :=
  let start := intParam req "from"
  let size := min (intParam req "to" - start) cap
  .obj [("totalItems", .int l.length), ("items", .arr (((l.drop start).take size).map Listed.item))]

/-- A Blockbook page of the list. -/
def blockbookBody {base : String} (cap : ℕ) (pages : ℕ → ℕ → ℕ) (l : List (Listed base))
    (req : Request) : Json :=
  let size := min (intParam req "pageSize") cap
  let start := (intParam req "page" - 1) * size
  .obj [("txs", .int ((l.length - waiting l : ℕ) : ℤ)),
    ("unconfirmedTxs", .int (waiting l : ℕ)),
    ("totalPages", .int (pages l.length size : ℕ)),
    ("transactions", .arr (((l.drop start).take size).map Listed.item))]

/-- What the explorer answers when `k` requests came before. -/
def Explorer.reply {base : String} (e : Explorer base) (req : Request) (k : ℕ) : Reply × ℕ :=
  (.answered
    { status := 200
      text := ""
      body := some
        (if isBlockbook base then blockbookBody e.cap e.pages (e.txs k) req
          else insightBody e.cap (e.txs k) req) }, k + 1)

/-- How many transactions a full page holds. -/
def Explorer.size {base : String} (e : Explorer base) (sizes : PageSizes) : ℕ :=
  min (if isBlockbook base then sizes.blockbook else sizes.insight) e.cap

/-! ## What stays -/

variable {base : String} {e : Explorer base}

/-- What was listed stays listed. -/
theorem Explorer.txs_suffix (e : Explorer base) {k m : ℕ} (h : k ≤ m) : e.txs k <:+ e.txs m := by
  induction m with
  | zero =>
      rw [Nat.le_zero.mp h]
  | succ m ih =>
      by_cases hk : k ≤ m
      · exact (ih hk).trans (e.grows m)
      · rw [show k = m + 1 by omega]

/-- A list of the same length is the same list. -/
theorem Explorer.txs_eq (e : Explorer base) {k m : ℕ} (h : k ≤ m)
    (hlen : (e.txs m).length = (e.txs k).length) : e.txs m = e.txs k :=
  ((e.txs_suffix h).eq_of_length hlen.symm).symm

theorem waiting_le (l : List (Listed base)) : waiting l ≤ l.length := List.length_filter_le ..

/-- The items of a page read as its transactions. -/
theorem mapM_parseTx (l : List (Listed base)) :
    (l.map Listed.item).mapM (parseTx base) = .ok (l.map Listed.tx) := by
  induction l with
  | nil => rfl
  | cons t l ih =>
      rw [List.map_cons, List.mapM_cons, t.parses, ok_bind, ih, ok_bind]
      rfl

/-! ## A page -/

/-- The total a page reports of a list. -/
def totalOf (l : List (Listed base)) : List Json :=
  if isBlockbook base then
    [.int ((l.length - waiting l : ℕ) : ℤ), .int (waiting l : ℕ)]
  else [.int l.length]

/-- Lists with one total are equally long. -/
theorem length_of_totalOf {l m : List (Listed base)}
    (h : Json.sameItems (totalOf l) (totalOf m) = true) : l.length = m.length := by
  have hl := waiting_le l
  have hm := waiting_le m
  unfold totalOf at h
  split at h
  · simp only [Json.sameItems, Json.same_int, Bool.and_true, Bool.and_eq_true,
      decide_eq_true_eq, Nat.cast_inj] at h
    omega
  · simp only [Json.sameItems, Json.same_int, Bool.and_true, decide_eq_true_eq,
      Nat.cast_inj] at h
    exact h

theorem totalOf_self (l : List (Listed base)) :
    Json.sameItems (totalOf l) (totalOf l) = true := by
  unfold totalOf
  split <;> simp [Json.sameItems, Json.same_int]

/-- Where the page of a cursor starts. -/
def offset (base : String) (size : ℕ) (cursor : Option ℤ) : ℕ :=
  if isBlockbook base then
    ((if cursor.getD 0 = 0 then 1 else cursor.getD 0) - 1).toNat * size
  else (cursor.getD 0).toNat

variable {serve : String → Request → ℕ → Reply × ℕ} {sizes : PageSizes} {C : Type}

/-- What a page holds, and where the next one goes on. -/
structure PageOf (base : String) (size : ℕ) (l : List (Listed base)) (cursor : Option ℤ)
    (p : Page) : Prop where
  txs : p.1 = ((l.drop (offset base size cursor)).take size).map Listed.tx
  total : p.2.1 = some (totalOf l)
  last : p.2.2 = none → l.length ≤ offset base size cursor + size
  next : ∀ c, p.2.2 = some c → 0 ≤ c
    ∧ l.take (offset base size (some c)) = l.take (offset base size cursor + size)

/-- A request to the explorer is answered with the page it names. -/
theorem json_explorer (hserve : ∀ req k, serve base req k = e.reply req k) (req : Request)
    (k : ℕ) (c : C) :
    json serve base req (k, c) = .ok
      (if isBlockbook base then blockbookBody e.cap e.pages (e.txs k) req
        else insightBody e.cap (e.txs k) req) (k + 1, c) := by
  have hreply : (serve base req k).1 = (e.reply req k).1 := by rw [hserve]
  rw [json_answered (s := (k, c)) hreply (show 200 < 400 by decide) rfl, hserve]
  rfl

/-- The fields of an Insight window. -/
theorem insightBody_fields (cap : ℕ) (l : List (Listed base)) (path : String) (start stop : ℤ) :
    ∃ fields, insightBody cap l { path, params := [("from", .int start), ("to", .int stop)] }
        = .obj fields
      ∧ getKey fields "totalItems" = some (.int l.length)
      ∧ getKey fields "items" = some (.arr (((l.drop start.toNat).take
        (min (stop.toNat - start.toNat) cap)).map Listed.item)) :=
  ⟨_, rfl, rfl, rfl⟩

/-- The fields of a Blockbook page, numbered from 1. -/
theorem blockbookBody_fields (cap : ℕ) (pages : ℕ → ℕ → ℕ) (l : List (Listed base))
    (path : String) (n size : ℕ) :
    ∃ fields, blockbookBody cap pages l
        { path
          params := [("details", .str "txs"), ("page", .int ((n : ℤ) + 1)),
            ("pageSize", .int size)] } = .obj fields
      ∧ getKey fields "txs" = some (.int ((l.length - waiting l : ℕ) : ℤ))
      ∧ getKey fields "unconfirmedTxs" = some (.int (waiting l : ℕ))
      ∧ getKey fields "totalPages" = some (.int (pages l.length (min size cap) : ℕ))
      ∧ getKey fields "transactions" = some (.arr (((l.drop (n * min size cap)).take
        (min size cap)).map Listed.item)) :=
  ⟨_, rfl, rfl, rfl, rfl, rfl⟩

/-- **An Insight window.** -/
theorem insightPage_explorer (hserve : ∀ req k, serve base req k = e.reply req k)
    (hbook : isBlockbook base = false) (address : String) {cursor : Option ℤ}
    (hcursor : 0 ≤ cursor.getD 0) (k : ℕ) (c : C) :
    ∃ p, insightPage serve sizes base address cursor (k, c) = .ok p (k + 1, c)
      ∧ PageOf base (e.size sizes) (e.txs k) cursor p := by
  have hnot : ¬ isBlockbook base = true := by rw [hbook]; decide
  have hparse : parseTx base = parseInsightTx := by rw [parseTx, if_neg hnot]
  have hsize : e.size sizes = min sizes.insight e.cap := by rw [Explorer.size, if_neg hnot]
  have hoffset : ∀ cursor, offset base (e.size sizes) cursor = (cursor.getD 0).toNat := by
    intro cursor
    rw [offset, if_neg hnot]
  have htotal : totalOf (e.txs k) = [Json.int (e.txs k).length] := by
    rw [totalOf, if_neg hnot]
  have hwindow : (cursor.getD 0 + (sizes.insight : ℤ)).toNat - (cursor.getD 0).toNat
      = sizes.insight := by omega
  have hitems := mapM_parseTx
    (((e.txs k).drop (cursor.getD 0).toNat).take (min sizes.insight e.cap))
  rw [hparse] at hitems
  obtain ⟨fields, hbody, hreported, hlisted⟩ := insightBody_fields e.cap (e.txs k)
    ("addrs/" ++ address ++ "/txs") (cursor.getD 0) (cursor.getD 0 + sizes.insight)
  rw [hwindow] at hlisted
  rw [insightPage, bind_run, json_explorer hserve, if_neg hnot, hbody]
  simp only [bind_run, reading_run, field, Json.getD, Json.getField, hreported, hlisted,
    Except.map, Option.getD_some, Json.items, ok_bind, hitems, pure_run]
  refine ⟨_, rfl, ⟨?_, ?_, ?_, ?_⟩⟩
  · show _ = (((e.txs k).drop (offset base (e.size sizes) cursor)).take _).map _
    rw [hoffset, hsize]
  · show some [Json.int _] = some (totalOf (e.txs k))
    rw [htotal]
  · intro h
    cases h
  · intro c' hc'
    obtain rfl := Option.some.inj hc'
    rw [hoffset, hoffset, hsize, Option.getD_some, List.length_map, List.length_take,
      List.length_drop]
    refine ⟨by omega, List.take_eq_take_iff.mpr ?_⟩
    omega

/-- **A Blockbook page.** -/
theorem blockbookPage_explorer (hserve : ∀ req k, serve base req k = e.reply req k)
    (hbook : isBlockbook base = true) (address : String) {cursor : Option ℤ}
    (hcursor : 0 ≤ cursor.getD 0) (k : ℕ) (c : C) :
    ∃ p, blockbookPage serve sizes base address cursor (k, c) = .ok p (k + 1, c)
      ∧ PageOf base (e.size sizes) (e.txs k) cursor p := by
  have hparse : parseTx base = parseBlockbookTx := by rw [parseTx, if_pos hbook]
  have hsize : e.size sizes = min sizes.blockbook e.cap := by rw [Explorer.size, if_pos hbook]
  -- pages are numbered from 1
  obtain ⟨n, hn⟩ : ∃ n : ℕ, (if cursor.getD 0 = 0 then 1 else cursor.getD 0) = (n : ℤ) + 1 := by
    refine ⟨((if cursor.getD 0 = 0 then 1 else cursor.getD 0) - 1).toNat, ?_⟩
    split <;> omega
  have hoffset : offset base (e.size sizes) cursor = n * min sizes.blockbook e.cap := by
    rw [offset, if_pos hbook, hn, hsize]
    congr 1
    omega
  have hnext : offset base (e.size sizes) (some ((n : ℤ) + 1 + 1))
      = n * min sizes.blockbook e.cap + min sizes.blockbook e.cap := by
    rw [offset, if_pos hbook, Option.getD_some, if_neg (by omega), hsize, ← Nat.succ_mul]
    congr 1
    omega
  have htotal : totalOf (e.txs k) = [Json.int (((e.txs k).length - waiting (e.txs k) : ℕ) : ℤ),
      Json.int (waiting (e.txs k) : ℕ)] := by
    rw [totalOf, if_pos hbook]
  have hitems := mapM_parseTx
    (((e.txs k).drop (n * min sizes.blockbook e.cap)).take (min sizes.blockbook e.cap))
  rw [hparse] at hitems
  have hcount : ∀ m : ℕ,
      (Json.orElse (some (.int (m : ℤ))) (.int 0)).toIntWithin = .ok (m : ℤ) := by
    intro m
    by_cases hm : m = 0
    · subst hm
      rfl
    · rw [Json.orElse, Json.truthy, if_pos (by simpa using hm)]
      rfl
  have hcover := e.covers (e.txs k).length (min sizes.blockbook e.cap)
  obtain ⟨fields, hbody, hreported, hwaiting, hpages, hlisted⟩ := blockbookBody_fields e.cap
    e.pages (e.txs k) ("address/" ++ address) n sizes.blockbook
  rw [blockbookPage, bind_run]
  simp only [hn]
  rw [json_explorer hserve, if_pos hbook, hbody]
  simp only [bind_run, reading_run, counted, Json.getD, Json.getField, hreported, hwaiting,
    hpages, hlisted, Except.map, Option.getD_some, Json.items, ok_bind, hitems, pure_run, hcount]
  refine ⟨_, rfl, ⟨?_, ?_, ?_, ?_⟩⟩
  · show _ = (((e.txs k).drop (offset base (e.size sizes) cursor)).take (e.size sizes)).map _
    rw [hoffset, hsize]
  · rw [htotal]
  · intro h
    have hend : ¬ ((n : ℤ) + 1 < (e.pages (e.txs k).length (min sizes.blockbook e.cap) : ℤ)
        ∨ (e.pages (e.txs k).length (min sizes.blockbook e.cap) : ℤ) = 0) := by
      intro hmore
      rw [if_pos hmore] at h
      cases h
    rw [hoffset, hsize]
    rcases hcover with hzero | hcover
    · exact absurd (Or.inr (by rw [hzero]; rfl)) hend
    · have hle : e.pages (e.txs k).length (min sizes.blockbook e.cap) ≤ n + 1 := by omega
      calc (e.txs k).length
          ≤ e.pages (e.txs k).length (min sizes.blockbook e.cap)
            * min sizes.blockbook e.cap := hcover
        _ ≤ (n + 1) * min sizes.blockbook e.cap := Nat.mul_le_mul_right _ hle
        _ = n * min sizes.blockbook e.cap + min sizes.blockbook e.cap := Nat.succ_mul ..
  · intro c' hc'
    dsimp only at hc'
    split at hc'
    · obtain rfl := Option.some.inj hc'
      exact ⟨by omega, by rw [hnext, hoffset, hsize]⟩
    · cases hc'

variable (sizes) in
/-- The page of an endpoint's own API. -/
theorem fetchPage_explorer (hserve : ∀ req k, serve base req k = e.reply req k)
    (address : String) {cursor : Option ℤ} (hcursor : 0 ≤ cursor.getD 0) (k : ℕ) (c : C) :
    ∃ p, fetchPage serve sizes base address cursor (k, c) = .ok p (k + 1, c)
      ∧ PageOf base (e.size sizes) (e.txs k) cursor p := by
  rw [fetchPage]
  cases hbook : isBlockbook base with
  | true => exact blockbookPage_explorer hserve hbook address hcursor k c
  | false => exact insightPage_explorer hserve hbook address hcursor k c

/-! ## A pass over the pages -/

/-- Nothing of a later page was seen on an earlier one. -/
theorem newTxs_fresh {l : List (Listed base)} (hdistinct : (l.map Listed.id).Nodup)
    (start size : ℕ) :
    newTxs TxSummary.txid (((l.take start).map Listed.tx).map TxSummary.txid)
        (((l.drop start).take size).map Listed.tx)
      = .ok (((l.drop start).take size).map Listed.tx) := by
  have hhash : (((l.drop start).take size).map Listed.tx).all
      (fun tx => tx.txid.hashable) = true := by
    rw [List.all_eq_true]
    intro tx htx
    obtain ⟨t, -, rfl⟩ := List.mem_map.mp htx
    rw [t.txid]
    rfl
  rw [newTxs, if_pos hhash]
  refine congrArg Except.ok (List.filter_eq_self.mpr fun tx htx => ?_)
  obtain ⟨t, ht, rfl⟩ := List.mem_map.mp htx
  rw [Bool.not_eq_true', List.any_eq_false]
  intro id hid hsame
  obtain ⟨tx', htx', rfl⟩ := List.mem_map.mp hid
  obtain ⟨t', ht', rfl⟩ := List.mem_map.mp htx'
  rw [t.txid, t'.txid, Json.same_str] at hsame
  -- one id on either side of the cut
  rw [← List.take_append_drop start l, List.map_append, List.nodup_append] at hdistinct
  exact hdistinct.2.2 _ (List.mem_map_of_mem ht') _
    (List.mem_map_of_mem (List.mem_of_mem_take ht)) (eq_of_beq hsame).symm

/-- Where a pass that began at request `k₀` and was not raced stands before
    request `k`. -/
structure Progress (e : Explorer base) (size k₀ k : ℕ) (walk : Walk) (seen : List Json)
    (txs : List TxSummary) (cursor : Option ℤ) : Prop where
  cursor_nonneg : 0 ≤ cursor.getD 0
  began : k₀ ≤ k
  raced : walk.raced = false
  reported : walk.reported = none ∧ k = k₀ ∨ walk.reported = some (totalOf (e.txs k₀))
  seen_eq : seen = txs.map TxSummary.txid
  txs_eq : txs = ((e.txs k₀).take (offset base size cursor)).map Listed.tx

variable (sizes) in
/-- **A step of a pass**: the page of the list it began on, or the race is
    noticed and the pass ends. -/
theorem page_explorer (hserve : ∀ req k, serve base req k = e.reply req k) (address : String)
    {k₀ k : ℕ} {walk : Walk} {seen : List Json} {txs : List TxSummary} {cursor : Option ℤ}
    (hp : Progress e (e.size sizes) k₀ k walk seen txs cursor) :
    (e.txs k = e.txs k₀ ∧ ∃ p : Page, PageOf base (e.size sizes) (e.txs k₀) cursor p
      ∧ page (fetchPage serve sizes base address) cursor (k, walk)
        = .ok (p.1, p.2.2) (k + 1, { walk with reported := some (totalOf (e.txs k₀)) }))
    ∨ (e.txs k ≠ e.txs k₀ ∧ page (fetchPage serve sizes base address) cursor (k, walk)
        = .ok ([], none) (k + 1, { walk with raced := true })) := by
  obtain ⟨⟨pageTxs, total, following⟩, hfetch, hpage⟩ :=
    fetchPage_explorer sizes hserve address hp.cursor_nonneg k walk
  obtain rfl : total = some (totalOf (e.txs k)) := hpage.total
  have hget : ∀ s : ℕ × Walk, (MonadState.get : EStateM HttpError (ℕ × Walk) _) s = .ok s s :=
    fun _ => rfl
  have hset : ∀ s t : ℕ × Walk,
      (MonadStateOf.set t : EStateM HttpError (ℕ × Walk) _) s = .ok ⟨⟩ t := fun _ _ => rfl
  rw [page, bind_run, hfetch]
  simp only [bind_run, hget]
  rcases hp.reported with ⟨hnone, rfl⟩ | hsome
  · refine Or.inl ⟨rfl, _, hpage, ?_⟩
    simp only [hnone, bind_run, hset, pure_run]
  · by_cases hsame : Json.sameItems (totalOf (e.txs k)) (totalOf (e.txs k₀)) = true
    · have hlist := e.txs_eq hp.began (length_of_totalOf hsame)
      refine Or.inl ⟨hlist, _, hlist ▸ hpage, ?_⟩
      simp only [hsome, hsame, if_true, pure_run]
      rw [← hsome]
    · refine Or.inr ⟨fun hlist => hsame (hlist ▸ totalOf_self _), ?_⟩
      simp only [hsome, hsame]
      rfl

/-- What a pass that began on the list `l` and made the requests from `k` to `k'`
    comes to. -/
structure PassResult (e : Explorer base) (limit : ℤ) (l : List (Listed base)) (k k' : ℕ)
    (found : AddressTxs TxSummary) (walk : Walk) : Prop where
  moved : k < k'
  complete : walk.raced = false → found.truncated = false →
    found.transactions = l.map Listed.tx
  quiet : (∀ i, k ≤ i → i < k' → e.txs i = l) →
    walk.raced = false ∧ ((l.length : ℤ) < limit → found.truncated = false)

section Progress

variable {size k₀ k : ℕ} {walk : Walk} {seen : List Json} {txs : List TxSummary}
  {cursor : Option ℤ} {p : Page}

/-- Nothing of the page was listed before. -/
theorem Progress.fresh (hp : Progress e size k₀ k walk seen txs cursor)
    (hpage : PageOf base size (e.txs k₀) cursor p) : newTxs TxSummary.txid seen p.1 = .ok p.1 := by
  have hnew := newTxs_fresh (e.distinct k₀) (offset base size cursor) size
  rw [← hp.txs_eq, ← hp.seen_eq, ← hpage.txs] at hnew
  exact hnew

/-- What is listed with the page. -/
theorem Progress.listed (hp : Progress e size k₀ k walk seen txs cursor)
    (hpage : PageOf base size (e.txs k₀) cursor p) :
    txs ++ p.1 = ((e.txs k₀).take (offset base size cursor + size)).map Listed.tx := by
  rw [hp.txs_eq, hpage.txs, ← List.map_append, ← List.take_add]

/-- Behind a last or an empty page nothing is left to list. -/
theorem Progress.listed_all (hp : Progress e size k₀ k walk seen txs cursor)
    (hpage : PageOf base size (e.txs k₀) cursor p) (hsize : 0 < size)
    (hstop : p.2.2 = none ∨ p.1.isEmpty = true) : txs ++ p.1 = (e.txs k₀).map Listed.tx := by
  have hend : (e.txs k₀).length ≤ offset base size cursor + size := by
    rcases hstop with hnone | hempty
    · exact hpage.last hnone
    · rw [hpage.txs, List.isEmpty_iff, List.map_eq_nil_iff, List.take_eq_nil_iff,
        List.drop_eq_nil_iff] at hempty
      omega
  rw [hp.listed hpage, List.take_of_length_le hend]

/-- Where the pass stands behind the page. -/
theorem Progress.next (hp : Progress e size k₀ k walk seen txs cursor)
    (hpage : PageOf base size (e.txs k₀) cursor p) {c : ℤ} (hc : p.2.2 = some c) :
    Progress e size k₀ (k + 1) { walk with reported := some (totalOf (e.txs k₀)) }
      (seen ++ p.1.map TxSummary.txid) (txs ++ p.1) (some c) := by
  obtain ⟨hnonneg, htake⟩ := hpage.next c hc
  have hbegan := hp.began
  exact
    { cursor_nonneg := hnonneg
      began := by omega
      raced := hp.raced
      reported := Or.inr rfl
      seen_eq := by rw [List.map_append, ← hp.seen_eq]
      txs_eq := by rw [hp.listed hpage, htake] }

end Progress

/-- A race that is noticed ends the pass with what it has. -/
theorem collectFrom_race {fetch : Option ℤ → EStateM HttpError (ℕ × Walk)
      (List TxSummary × Option ℤ)} {limit : ℤ} {k₀ k : ℕ} {walk : Walk}
    (hmoved : e.txs k ≠ e.txs k₀) (fuel : ℕ) (seen : List Json) (txs : List TxSummary)
    {cursor : Option ℤ}
    (hrun : fetch cursor (k, walk) = .ok ([], none) (k + 1, { walk with raced := true })) :
    ∃ found k' walk', collectFrom TxSummary.txid fetch limit (fuel + 1) seen txs cursor (k, walk)
        = .ok found (k', walk')
      ∧ PassResult e limit (e.txs k₀) k k' found walk' := by
  have hnew : newTxs TxSummary.txid seen [] = .ok [] := rfl
  rw [collectFrom, hrun]
  dsimp only
  simp only [hnew, List.append_nil]
  by_cases hlimit : limit ≤ txs.length
  · rw [if_pos hlimit]
    refine ⟨_, _, _, rfl, ⟨by omega, fun h => (by cases h), fun h => ?_⟩⟩
    exact absurd (h k le_rfl (by omega)) hmoved
  · rw [if_neg hlimit, if_pos (Or.inl trivial)]
    refine ⟨_, _, _, rfl, ⟨by omega, fun h => (by cases h), fun h => ?_⟩⟩
    exact absurd (h k le_rfl (by omega)) hmoved

/-- **A pass** that is not raced and not cut short lists what was there when it
    began. -/
theorem collectFrom_explorer (hserve : ∀ req k, serve base req k = e.reply req k)
    (hsize : 0 < e.size sizes) (address : String) (limit : ℤ) (k₀ : ℕ) (fuel : ℕ)
    (hfuel : 0 < fuel) (k : ℕ) (walk : Walk) (seen : List Json) (txs : List TxSummary)
    (cursor : Option ℤ) (henough : limit.toNat < txs.length + fuel)
    (hp : Progress e (e.size sizes) k₀ k walk seen txs cursor) :
    ∃ found k' walk', collectFrom TxSummary.txid (page (fetchPage serve sizes base address))
        limit fuel seen txs cursor (k, walk) = .ok found (k', walk')
      ∧ PassResult e limit (e.txs k₀) k k' found walk' := by
  induction fuel generalizing k walk seen txs cursor with
  | zero => omega
  | succ fuel ih =>
      rcases page_explorer sizes hserve address hp with ⟨-, p, hpage, hrun⟩ | ⟨hmoved, hrun⟩
      · rw [collectFrom]
        simp only [hrun, hp.fresh hpage]
        by_cases hlimit : limit ≤ ((txs ++ p.1).length : ℤ)
        · rw [if_pos hlimit]
          refine ⟨_, _, _, rfl, ⟨by omega, fun _ h => (by cases h), fun _ => ⟨hp.raced, ?_⟩⟩⟩
          intro hlt
          rw [hp.listed hpage, List.length_map, List.length_take] at hlimit
          omega
        rw [if_neg hlimit]
        by_cases hstop : p.2.2 = none ∨ p.1.isEmpty = true
        · rw [if_pos hstop]
          exact ⟨_, _, _, rfl, ⟨by omega, fun _ _ => hp.listed_all hpage hsize hstop,
            fun _ => ⟨hp.raced, fun _ => rfl⟩⟩⟩
        rw [if_neg hstop]
        cases hnext : p.2.2 with
        | none => exact absurd (Or.inl hnext) hstop
        | some c =>
            -- a page that is not empty leaves less to the fuel
            have hgrew : 0 < p.1.length := List.length_pos_iff.mpr fun h =>
              hstop (Or.inr (List.isEmpty_iff.mpr h))
            have hlength := @List.length_append _ txs p.1
            obtain ⟨found, k', walk', hfound, hresult⟩ := ih (by omega) (k + 1) _ _ _ (some c)
              (by omega) (hp.next hpage hnext)
            have hmoved := hresult.moved
            exact ⟨found, k', walk', hfound, by omega, hresult.complete,
              fun h => hresult.quiet fun i hi hi' => h i (by omega) hi'⟩
      · exact collectFrom_race hmoved fuel seen txs hrun

variable (sizes) in
/-- A pass from its first page. -/
theorem walkAddress_explorer (hserve : ∀ req k, serve base req k = e.reply req k)
    (hsize : 0 < e.size sizes) (address : String) (limit : ℤ) (k : ℕ) (c : C) :
    ∃ found walk k', walkAddress serve sizes base address limit (k, c)
        = .ok (found, walk) (k', c)
      ∧ PassResult e limit (e.txs k) k k' found walk := by
  have hstart : offset base (e.size sizes) none = 0 := by
    unfold offset
    split <;> simp
  obtain ⟨found, k', walk, hrun, hresult⟩ := collectFrom_explorer
    hserve hsize address limit k (limit.toNat + 1) (by omega) k {} [] [] none
    (by show limit.toNat < 0 + _; omega)
    { cursor_nonneg := le_rfl
      began := le_rfl
      raced := rfl
      reported := Or.inl ⟨rfl, rfl⟩
      seen_eq := rfl
      txs_eq := by rw [hstart]; rfl }
  refine ⟨found, walk, k', ?_, hresult⟩
  rw [walkAddress, withLocals, collectPages, hrun]

/-! ## The attempts -/

section Attempts

variable (serve sizes base) (address : String) (limit : ℤ)

/-- The requests answered when attempt `j` begins, `k` of them before the first. -/
def attemptStart : ℕ → ℕ → ℕ
  | 0, k => k
  | j + 1, k =>
      attemptStart j (final (walkAddress serve sizes base address limit (k, ()))).1

/-- Whether the attempt that begins after `k` requests sees the list move. -/
def racedFrom (k : ℕ) : Bool :=
  match outcome (walkAddress serve sizes base address limit (k, ())) with
  | .ok (_, walk) => walk.raced
  | .error _ => false

end Attempts

/-- **The attempts**: one of them is returned as it is, or the last as truncated;
    one in which nothing arrives is not passed by. -/
theorem walkAttempts_explorer (hserve : ∀ req k, serve base req k = e.reply req k)
    (hsize : 0 < e.size sizes) (address : String) (limit : ℤ) (n k : ℕ)
    (txs : List TxSummary) :
    ∃ found k', walkAttempts serve sizes address limit base n txs (k, ()) = .ok found (k', ())
      ∧ (found.truncated = false → ∃ j < n, ∃ walk,
        walkAddress serve sizes base address limit
            (attemptStart base serve sizes address limit j k, ()) = .ok (found, walk) (k', ())
          ∧ walk.raced = false)
      ∧ ∀ j < n, (∀ i < j, racedFrom base serve sizes address limit
            (attemptStart base serve sizes address limit i k) = true) →
          (∀ i, attemptStart base serve sizes address limit j k ≤ i →
            i < attemptStart base serve sizes address limit (j + 1) k →
            e.txs i = e.txs (attemptStart base serve sizes address limit j k)) →
          ((e.txs (attemptStart base serve sizes address limit j k)).length : ℤ) < limit →
          found.truncated = false := by
  induction n generalizing k txs with
  | zero =>
      exact ⟨_, k, rfl, fun h => (by cases h), fun j hj => absurd hj (Nat.not_lt_zero j)⟩
  | succ n ih =>
      obtain ⟨found, walk, k', hwalk, hresult⟩ :=
        walkAddress_explorer sizes hserve hsize address limit k ()
      have hafter : attemptStart base serve sizes address limit 1 k = k' := by
        rw [attemptStart, attemptStart, hwalk]
        rfl
      have hshift : ∀ j, attemptStart base serve sizes address limit (j + 1) k
          = attemptStart base serve sizes address limit j k' := by
        intro j
        rw [attemptStart, hwalk]
        rfl
      rw [walkAttempts, bind_run, hwalk]
      dsimp only
      cases hraced : walk.raced with
      | true =>
          -- Raced: the next attempt, and the rest of them.
          obtain ⟨r, k'', hrun, hone, hquiet⟩ := ih k' found.transactions
          rw [if_pos rfl]
          refine ⟨r, k'', hrun, fun h => ?_, fun j hj hbefore hstill hlimit => ?_⟩
          · obtain ⟨j, hj, walk', hwalk', hclean⟩ := hone h
            exact ⟨j + 1, by omega, walk', by rw [hshift]; exact hwalk', hclean⟩
          · cases j with
            | zero =>
                have hnot := (hresult.quiet fun i hi hi' =>
                  hstill i hi (by rw [hafter]; exact hi')).1
                exact absurd (hnot.symm.trans hraced) (by decide)
            | succ j =>
                rw [hshift] at hstill hlimit
                refine hquiet j (by omega) (fun i hi => ?_) (fun i hi hi' => ?_) hlimit
                · rw [← hshift]
                  exact hbefore (i + 1) (by omega)
                · refine hstill i hi ?_
                  rw [hshift]
                  exact hi'
      | false =>
          rw [if_neg Bool.false_ne_true]
          refine ⟨found, k', rfl, fun _ => ⟨0, by omega, walk, hwalk, hraced⟩,
            fun j hj hbefore hstill hlimit => ?_⟩
          cases j with
          | zero =>
              exact (hresult.quiet fun i hi hi' => hstill i hi (by rw [hafter]; exact hi')).2
                hlimit
          | succ j =>
              have hfirst := hbefore 0 (by omega)
              rw [attemptStart, racedFrom, hwalk] at hfirst
              exact absurd (hraced.symm.trans hfirst) (by decide)

/-- **A history is whole or says that it is not.**  Against an explorer whose list
    only grows, the read returns; what it returns as complete is everything that
    was listed when the attempt it comes from began, once each; and an attempt
    that is reached and during which nothing arrives makes it complete. -/
theorem addressTxs_complete {w : World String ℕ Unit} {candidates : List String}
    (e : Explorer w.pinned) (hpinned : w.pinned ∈ candidates)
    (hserve : ∀ req k, serve w.pinned req k = e.reply req k)
    (hinsight : 1 ≤ sizes.insight) (hblockbook : 1 ≤ sizes.blockbook) (address : String)
    (limit : ℤ) :
    let start := fun j => attemptStart w.pinned serve sizes address limit j
      (w.servers w.pinned)
    ∃ found w', addressTxs serve sizes candidates address limit w = .ok found w'
      ∧ (found.truncated = false → ∃ j < insightWalkAttempts, ∃ walk,
        walkAddress serve sizes w.pinned address limit (start j, ())
            = .ok (found, walk) (w'.servers w.pinned, ())
          ∧ found.transactions = (e.txs (start j)).map Listed.tx
          ∧ (found.transactions.map TxSummary.txid).Nodup)
      ∧ ∀ j < insightWalkAttempts,
        (∀ i < j, racedFrom w.pinned serve sizes address limit (start i) = true) →
        (∀ i, start j ≤ i → i < start (j + 1) → e.txs i = e.txs (start j)) →
        ((e.txs (start j)).length : ℤ) < limit → found.truncated = false := by
  dsimp only
  have hsize : 0 < e.size sizes := by
    have hcap := e.cap_pos
    rw [Explorer.size]
    split <;> omega
  obtain ⟨found, k', hrun, hone, hquiet⟩ := walkAttempts_explorer hserve hsize address limit
    insightWalkAttempts (w.servers w.pinned) []
  obtain ⟨rest, hrest⟩ := ordered_eq_cons hpinned
  have hop : addressTxsOp serve sizes address limit w.pinned (w.servers w.pinned, w.shared)
      = .ok found (k', ()) := hrun
  refine ⟨found, { w.after w.pinned (k', ()) with pinned := w.pinned }, ?_, fun h => ?_,
    hquiet⟩
  · rw [addressTxs, onAny, if_pos hpinned, hrest]
    exact failOver_ok rest hop
  · obtain ⟨j, hj, walk, hwalk, hraced⟩ := hone h
    obtain ⟨found', walk', k'', hwalk', hresult⟩ := walkAddress_explorer sizes
      hserve hsize address limit
      (attemptStart w.pinned serve sizes address limit j (w.servers w.pinned)) ()
    rw [hwalk] at hwalk'
    cases hwalk'
    have hlisted := hresult.complete hraced h
    refine ⟨j, hj, walk, ?_, hlisted, ?_⟩
    · rw [hwalk]
      simp
    · rw [hlisted, List.map_map]
      have hids : List.map (TxSummary.txid ∘ Listed.tx) (e.txs (attemptStart w.pinned serve sizes address limit j (w.servers w.pinned)))
          = ((e.txs (attemptStart w.pinned serve sizes address limit j
            (w.servers w.pinned))).map Listed.id).map Json.str := by
        rw [List.map_map]
        exact List.map_congr_left fun t _ => t.txid
      rw [hids]
      exact (e.distinct _).map fun s t hst => Json.str.inj hst

end Walk

/-! ## An arrival during the first attempt -/

/-- A transaction of which nothing but the id is listed. -/
def bareTx (id : String) : @Listed asciiCharacters insightUrl :=
  let _ : PyCharacters := asciiCharacters
  { item := .obj [("txid", .str id)]
    tx :=
      { txid := .str id, confirmed := false, blockHeight := none, blockTime := .null
        fee := 0, vsize := 0, inputs := [], outputs := [] }
    id
    parses := rfl
    txid := rfl }

/-- A second transaction arrives after the first request. -/
def arrivalTxs (k : ℕ) : List (@Listed asciiCharacters insightUrl) :=
  if k = 0 then [bareTx "old"] else [bareTx "new", bareTx "old"]

def arrivalExplorer : @Explorer asciiCharacters insightUrl :=
  let _ : PyCharacters := asciiCharacters
  { txs := arrivalTxs
    grows := by
      intro k
      rw [arrivalTxs, arrivalTxs, if_neg (Nat.succ_ne_zero k)]
      split
      · exact List.suffix_cons _ _
      · exact List.suffix_rfl
    distinct := by
      intro k
      rw [arrivalTxs]
      split
      · exact List.nodup_singleton _
      · show ["new", "old"].Nodup
        decide
    cap := 50
    cap_pos := by decide
    pages := fun _ _ => 0
    covers := fun _ _ => Or.inl rfl }

def arrivalWorld : World String ℕ Unit where
  servers := fun _ => 0
  pinned := insightUrl
  shared := ()

/-- With one transaction a page, the first attempt is raced and the second is
    quiet, so the history is whole. -/
theorem addressTxs_complete_arrival :
    let _ : PyCharacters := asciiCharacters
    ∃ found w', addressTxs (fun _ => arrivalExplorer.reply) { insight := 1 } [insightUrl] "Xa" 500
        arrivalWorld = .ok found w' ∧ found.truncated = false := by
  let _ : PyCharacters := asciiCharacters
  intro _
  have hpinned : arrivalWorld.pinned ∈ [insightUrl] := by decide
  obtain ⟨found, w', hrun, -, hquiet⟩ := @addressTxs_complete _
    (fun _ => arrivalExplorer.reply) { insight := 1 } arrivalWorld _ arrivalExplorer hpinned
    (fun _ _ => rfl) (by decide) (by decide) "Xa" 500
  have hstart : attemptStart insightUrl (fun _ => arrivalExplorer.reply) { insight := 1 } "Xa" 500
      1 0 = 2 := by decide +kernel
  have hraced : racedFrom insightUrl (fun _ => arrivalExplorer.reply) { insight := 1 } "Xa" 500 0
      = true := by decide +kernel
  have hlater : ∀ i, 0 < i → arrivalExplorer.txs i = [bareTx "new", bareTx "old"] := by
    intro i hi
    show arrivalTxs i = _
    rw [arrivalTxs, if_neg (by omega)]
  refine ⟨found, w', hrun, hquiet 1 (by decide) (fun i hi => ?_) (fun i hi _ => ?_) ?_⟩
  · obtain rfl : i = 0 := by omega
    exact hraced
  · have hi : 2 ≤ i := hstart ▸ hi
    show arrivalExplorer.txs i = arrivalExplorer.txs (attemptStart insightUrl _ _ _ _ 1 0)
    rw [hstart, hlater i (by omega), hlater 2 (by omega)]
  · show ((arrivalExplorer.txs (attemptStart insightUrl _ _ _ _ 1 0)).length : ℤ) < 500
    rw [hstart, hlater 2 (by omega)]
    decide

end SwapsackDashWalk
