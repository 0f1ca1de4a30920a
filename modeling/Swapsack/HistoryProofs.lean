import Mathlib.Data.List.Flatten
import Mathlib.Data.List.Sort
import Swapsack.BaseProofs
import Swapsack.LedgerProofs

/-! # Wallet history

    The wallet lists what happened to its addresses: every transaction that
    touches them, netted, and every output that pays them, spent or not.  The
    explorer is asked address by address, and who spent an output is worked
    out from the transactions that came back.

    * `Kept.perm` — complete histories bring back the transactions that
      touch the wallet, each once;
    * `outputRows_report` — what a row says of its output is what the whole set
      of transactions says;
    * `sum_net` — the nets total what is unspent;
    * `walletHistory_faithful` — all of it, for the listing returned. -/

namespace SwapsackHistory

open ListKit Ledger SwapsackBase

/-- One address's transactions, and whether the source ran out of pages. -/
structure AddressTxs where
  transactions : List TxSummary
  truncated : Bool := false

/-- One transaction output paying a wallet address, spent or not. -/
structure Output where
  txid : String
  vout : ℕ
  value : ℤ
  address : String
  path : String := ""
  confirmed : Bool := false
  blockHeight : Option ℤ := none
  blockTime : Option ℤ := none
  spentBy : Option String := none
deriving DecidableEq

/-- An output is spent if its spender is known. -/
def Output.spent (o : Output) : Bool := o.spentBy.isSome

/-- One transaction touching the wallet; `received` and `sent` are gross. -/
structure WalletTx where
  txid : String
  confirmed : Bool
  blockHeight : Option ℤ
  blockTime : Option ℤ
  fee : ℤ
  received : ℤ
  sent : ℤ
  hasOpReturn : Bool
  memo : Option (List UInt8)
  counterparties : List String
deriving DecidableEq

/-- What a transaction brought, or cost. -/
def WalletTx.net (tx : WalletTx) : ℤ := tx.received - tx.sent

/-- The transactions and the outputs, and the addresses whose history was cut short. -/
structure History where
  transactions : List WalletTx
  outputs : List Output
  truncated : List String := []

/-- The outputs that are left. -/
def History.unspent (h : History) : List Output := h.outputs.filter fun o => !o.spent

/-- Their sum, -/
def History.unspentTotal (h : History) : ℤ := (h.unspent.map Output.value).sum

/-- and that of the others. -/
def History.spentTotal (h : History) : ℤ :=
  ((h.outputs.filter Output.spent).map Output.value).sum

/-! ## The assembly -/

/-- Addresses and the paths that own them. -/
abbrev Owned := List (String × String)

/-- `{address: path for path, address in records}`. -/
def ownedOf (records : List (String × String)) : Owned := keyed Prod.snd Prod.fst records

/-- The path of an owned address. -/
def ownerPath (owned : Owned) (address : Option String) : Option String :=
  address.bind (getKey owned)

/-- `address in owned`. -/
def isOwned (owned : Owned) (address : Option String) : Bool :=
  (ownerPath owned address).isSome

/-- The OP_RETURN payload, if there is one and it decoded. -/
def memoOf (tx : TxSummary) : Option (List UInt8) :=
  tx.outputs.findSome? fun o =>
    if o.opReturn then o.opReturnData.filter (fun data => decide (data ≠ [])) else none

/-- The other addresses paid, each once, in order. -/
def counterparties (owned : Owned) (tx : TxSummary) : List String :=
  firstPerKey id (tx.outputs.filterMap fun o =>
    o.address.filter fun a => decide (a ≠ "") && !isOwned owned (some a))

/-- A transaction, as the wallet sees it. -/
def walletTx (owned : Owned) (tx : TxSummary) : WalletTx where
  txid := tx.txid
  confirmed := tx.confirmed
  blockHeight := tx.blockHeight
  blockTime := tx.blockTime
  fee := tx.fee
  received := ((tx.outputs.filter fun o => isOwned owned o.address).map TxEntry.value).sum
  sent := ((tx.inputs.filter fun i => isOwned owned i.address).map TxEntry.value).sum
  hasOpReturn := tx.outputs.any TxEntry.opReturn
  memo := memoOf tx
  counterparties := counterparties owned tx

/-- The outpoint an input names, when the source reported it. -/
def outpoint (i : TxEntry) : Option (String × ℤ) :=
  match i.txid, i.vout with
  | some txid, some vout => some (txid, vout)
  | _, _ => none

/-- Every outpoint spent by these transactions, with the spender's txid. -/
def spends (txs : List TxSummary) : List ((String × ℤ) × String) :=
  txs.flatMap fun tx => (tx.inputs.filterMap outpoint).map fun p => (p, tx.txid)

/-- Who spends which output; a later transaction wins. -/
def spenders (txs : List TxSummary) : List ((String × ℤ) × String) :=
  keyed Prod.fst Prod.snd (spends txs)

/-- `out.spent_by or spenders.get(...)`: what the source reports is believed. -/
def spentBy (reported inferred : Option String) : Option String :=
  match reported with
  | none => inferred
  | some txid => if txid = "" then inferred else some txid

/-- The row of one output, when it pays an owned address. -/
def outputRow (owned : Owned) (spent : List ((String × ℤ) × String)) (tx : TxSummary)
    (vout : ℕ) (out : TxEntry) : Option Output := do
  let address ← out.address
  let path ← getKey owned address
  some { txid := tx.txid, vout, value := out.value, address, path
         confirmed := tx.confirmed, blockHeight := tx.blockHeight
         blockTime := tx.blockTime
         spentBy := spentBy out.spentBy (getKey spent (tx.txid, (vout : ℤ))) }

/-- The rows of a transaction's own outputs. -/
def outputRows (owned : Owned) (spent : List ((String × ℤ) × String)) (tx : TxSummary) :
    List Output :=
  tx.outputs.zipIdx.filterMap fun item => outputRow owned spent tx item.2 item.1

/-- Newest first, with the mempool ahead of every mined block. -/
def sortKey (confirmed : Bool) (blockHeight : Option ℤ) : ℤ × ℤ :=
  if confirmed then (1, -(blockHeight.getD 0)) else (0, 0)

/-- The key of an output row keeps the height also in the mempool. -/
def outputSortKey (o : Output) : ℤ × ℤ :=
  (if o.confirmed then 1 else 0, -(o.blockHeight.getD 0))

/-- The order of two keys, as tuples compare. -/
def keyLe (k l : ℤ × ℤ) : Prop := k.1 < l.1 ∨ k.1 = l.1 ∧ k.2 ≤ l.2

instance : DecidableRel keyLe := fun _ _ => inferInstanceAs (Decidable (_ ∨ _))

/-- A stable sort by a pair of numbers. -/
def sortBy {α : Type} (key : α → ℤ × ℤ) (l : List α) : List α :=
  l.insertionSort fun a b => keyLe (key a) (key b)

/-- Assemble a history from `(path, address)` records. -/
def walletHistory (addressTxs : String → Except PyError AddressTxs)
    (records : List (String × String)) : Except PyError History :=
  let owned := ownedOf records
  let addresses := owned.map Prod.fst
  if addresses = [] then .ok { transactions := [], outputs := [] }
  else do
    let fetched ← addresses.mapM addressTxs
    let truncated := ((addresses.zip fetched).filter fun p => p.2.truncated).map Prod.fst
    -- a transaction paying two of our addresses comes back from both
    let txs := firstPerKey TxSummary.txid (fetched.flatMap AddressTxs.transactions)
    .ok { transactions :=
            sortBy (fun tx => sortKey tx.confirmed tx.blockHeight) (txs.map (walletTx owned))
          outputs := sortBy outputSortKey (txs.flatMap (outputRows owned (spenders txs)))
          truncated }

/-! ## The transactions behind a wallet -/

/-- A transaction spends an outpoint. -/
def Spends (tx : TxSummary) (p : String × ℤ) : Prop := p ∈ tx.inputs.filterMap outpoint

/-- An address is touched by an input or an output. -/
def touchesAddress (address : String) (tx : TxSummary) : Bool :=
  tx.inputs.any (fun i => decide (i.address = some address))
    || tx.outputs.any fun o => decide (o.address = some address)

/-- A wallet is touched at one of its addresses. -/
def touchesWallet (records : List (String × String)) (tx : TxSummary) : Bool :=
  records.any fun r => touchesAddress r.2 tx

/-- A set of transactions of a UTXO chain, as far as the wallet sees it: an
    outpoint is spent once, an input repeats the address and the value of the
    output it spends, and the outputs the wallet spends are in the set. -/
structure ChainSet (records : List (String × String)) (txs : List TxSummary) : Prop where
  txids : (txs.map TxSummary.txid).Nodup
  spent_once : ((spends txs).map Prod.fst).Nodup
  repeats : ∀ tx ∈ txs, ∀ i ∈ tx.inputs, ∀ src ∈ txs, ∀ (n : ℕ) (o : TxEntry),
    outpoint i = some (src.txid, (n : ℤ)) → src.outputs[n]? = some o →
    i.address = o.address ∧ i.value = o.value
  known : ∀ tx ∈ txs, ∀ i ∈ tx.inputs, ∀ r ∈ records, i.address = some r.2 →
    ∃ src ∈ txs, ∃ (n : ℕ) (o : TxEntry),
      outpoint i = some (src.txid, (n : ℤ)) ∧ src.outputs[n]? = some o

/-- A transaction without what the source says of its outputs being spent. -/
def eraseSpentBy (tx : TxSummary) : TxSummary :=
  { tx with outputs := tx.outputs.map fun o => { o with spentBy := none } }

/-- What a source may return for a transaction: the transaction, with a
    spender only where there is one, and that one. -/
structure Report (txs : List TxSummary) (tx view : TxSummary) : Prop where
  same : eraseSpentBy view = eraseSpentBy tx
  truthful : ∀ (n : ℕ) (o : TxEntry) (txid : String), view.outputs[n]? = some o →
    o.spentBy = some txid →
    ∃ spender ∈ txs, spender.txid = txid ∧ Spends spender (tx.txid, (n : ℤ))

/-- Every address gets every transaction it takes part in, in any order. -/
def CompleteHistories (txs : List TxSummary) (records : List (String × String))
    (addressTxs : String → Except PyError AddressTxs) : Prop :=
  ∀ r ∈ records, ∃ batch l, addressTxs r.2 = .ok batch
    ∧ l.Perm (txs.filter (touchesAddress r.2))
    ∧ List.Forall₂ (Report txs) l batch.transactions

section Spends

variable {txs : List TxSummary} {p : String × ℤ} {txid : String}

/-- A spend is recorded for each input that names an output. -/
theorem mem_spends : (p, txid) ∈ spends txs ↔ ∃ tx ∈ txs, tx.txid = txid ∧ Spends tx p := by
  rw [spends, List.mem_flatMap]
  constructor
  · rintro ⟨tx, htx, hmem⟩
    obtain ⟨q, hq, he⟩ := List.mem_map.mp hmem
    obtain ⟨rfl, rfl⟩ := Prod.mk.inj he
    exact ⟨tx, htx, rfl, hq⟩
  · rintro ⟨tx, htx, rfl, hp⟩
    exact ⟨tx, htx, List.mem_map_of_mem hp⟩

/-- The inferred spender of an outpoint is the transaction that spends it. -/
theorem getKey_spenders (h : ((spends txs).map Prod.fst).Nodup) :
    getKey (spenders txs) p = some txid ↔ ∃ tx ∈ txs, tx.txid = txid ∧ Spends tx p := by
  rw [spenders, getKey_keyed_iff h, ← mem_spends]
  constructor
  · rintro ⟨⟨q, t⟩, hmem, rfl, rfl⟩
    exact hmem
  · intro hmem
    exact ⟨(p, txid), hmem, rfl, rfl⟩

/-- It does not depend on what a server says of spenders. -/
theorem spends_eraseSpentBy (txs : List TxSummary) :
    spends (txs.map eraseSpentBy) = spends txs := by
  rw [spends, spends, List.flatMap_map]
  rfl

end Spends

/-! ## The wallet's addresses -/

section Owned

variable {records : List (String × String)}

/-- An address that occurs once is owned at its path. -/
theorem getKey_ownedOf (h : (records.map Prod.snd).Nodup) {path address : String} :
    getKey (ownedOf records) address = some path ↔ (path, address) ∈ records := by
  rw [ownedOf, getKey_keyed_iff h]
  constructor
  · rintro ⟨⟨p, a⟩, hmem, rfl, rfl⟩
    exact hmem
  · intro hmem
    exact ⟨(path, address), hmem, rfl, rfl⟩

/-- And what is owned has a record. -/
theorem isOwned_ownedOf (address : Option String) :
    isOwned (ownedOf records) address = true ↔ ∃ r ∈ records, address = some r.2 := by
  cases address with
  | none => simp [isOwned, ownerPath]
  | some a =>
      show (getKey (ownedOf records) a).isSome = true ↔ _
      rw [getKey_isSome, ownedOf, mem_keys_keyed, List.mem_map]
      constructor
      · rintro ⟨r, hr, rfl⟩
        exact ⟨r, hr, rfl⟩
      · rintro ⟨r, hr, he⟩
        exact ⟨r, hr, (Option.some.inj he).symm⟩

/-- An owned entry makes its transaction the wallet's. -/
theorem touchesWallet_iff (tx : TxSummary) :
    touchesWallet records tx = true
      ↔ (∃ i ∈ tx.inputs, isOwned (ownedOf records) i.address = true)
        ∨ ∃ o ∈ tx.outputs, isOwned (ownedOf records) o.address = true := by
  simp only [isOwned_ownedOf]
  rw [touchesWallet, List.any_eq_true]
  constructor
  · rintro ⟨r, hr, htouch⟩
    rw [touchesAddress, Bool.or_eq_true, List.any_eq_true, List.any_eq_true] at htouch
    rcases htouch with ⟨i, hi, he⟩ | ⟨o, ho, he⟩
    · exact Or.inl ⟨i, hi, r, hr, of_decide_eq_true he⟩
    · exact Or.inr ⟨o, ho, r, hr, of_decide_eq_true he⟩
  · rintro (⟨i, hi, r, hr, he⟩ | ⟨o, ho, r, hr, he⟩)
    · refine ⟨r, hr, ?_⟩
      rw [touchesAddress, Bool.or_eq_true, List.any_eq_true]
      exact Or.inl ⟨i, hi, decide_eq_true he⟩
    · refine ⟨r, hr, ?_⟩
      rw [touchesAddress, Bool.or_eq_true, List.any_eq_true, List.any_eq_true]
      exact Or.inr ⟨o, ho, decide_eq_true he⟩

end Owned

/-! ## The transactions that come back -/

section Kept

variable {txs kept : List TxSummary} {records : List (String × String)}
  {addressTxs : String → Except PyError AddressTxs}

/-- The transactions kept for a wallet: reports of those that touch it. -/
structure Kept (records : List (String × String)) (txs kept : List TxSummary) : Prop where
  nodup : (kept.map TxSummary.txid).Nodup
  sound : ∀ view ∈ kept, ∃ tx ∈ txs, touchesWallet records tx = true ∧ Report txs tx view
  complete : ∀ tx ∈ txs, touchesWallet records tx = true →
    ∃ view ∈ kept, Report txs tx view

/-- A report is of one transaction, -/
theorem Report.txid_eq {tx view : TxSummary} (h : Report txs tx view) :
    view.txid = tx.txid := by
  have heq := congrArg TxSummary.txid h.same
  exact heq

/-- and leaves its inputs as they are. -/
theorem Report.inputs_eq {tx view : TxSummary} (h : Report txs tx view) :
    view.inputs = tx.inputs := by
  have heq := congrArg TxSummary.inputs h.same
  exact heq

/-- Complete histories keep every transaction that touches the wallet, once. -/
theorem kept_of_complete {fetched : List AddressTxs} (hchain : ChainSet records txs)
    (hcomplete : CompleteHistories txs records addressTxs)
    (hfetched : ((ownedOf records).map Prod.fst).mapM addressTxs = .ok fetched) :
    Kept records txs
      (firstPerKey TxSummary.txid (fetched.flatMap AddressTxs.transactions)) := by
  have hkeys : ∀ address, address ∈ (ownedOf records).map Prod.fst ↔
      ∃ r ∈ records, r.2 = address := fun address => by
    rw [ownedOf, mem_keys_keyed, List.mem_map]
  have hsound : ∀ view ∈ fetched.flatMap AddressTxs.transactions,
      ∃ tx ∈ txs, touchesWallet records tx = true ∧ Report txs tx view := by
    intro view hview
    obtain ⟨batch, hbatch, hmem⟩ := List.mem_flatMap.mp hview
    obtain ⟨address, haddress, hfetch⟩ := mapM_ok_mem hfetched hbatch
    obtain ⟨r, hr, rfl⟩ := (hkeys address).mp haddress
    obtain ⟨batch', l, hbatch', hperm, hreports⟩ := hcomplete r hr
    rw [hfetch] at hbatch'
    cases hbatch'
    obtain ⟨tx, htx, hreport⟩ := forall₂_mem_right hreports hmem
    obtain ⟨htxs, htouch⟩ := List.mem_filter.mp (hperm.mem_iff.mp htx)
    exact ⟨tx, htxs, List.any_eq_true.mpr ⟨r, hr, htouch⟩, hreport⟩
  have hcover : ∀ tx ∈ txs, touchesWallet records tx = true →
      ∃ view ∈ fetched.flatMap AddressTxs.transactions, Report txs tx view := by
    intro tx htx htouch
    obtain ⟨r, hr, htouch⟩ := List.any_eq_true.mp htouch
    obtain ⟨batch, l, hbatch, hperm, hreports⟩ := hcomplete r hr
    have hl : tx ∈ l := hperm.mem_iff.mpr (List.mem_filter.mpr ⟨htx, htouch⟩)
    obtain ⟨view, hview, hreport⟩ := forall₂_mem_right hreports.flip hl
    obtain ⟨batch', hmem, hfetch⟩ := forall₂_mem_right (mapM_ok_forall₂ hfetched).flip
      ((hkeys r.2).mpr ⟨r, hr, rfl⟩)
    rw [hbatch] at hfetch
    cases hfetch
    exact ⟨view, List.mem_flatMap.mpr ⟨batch, hmem, hview⟩, hreport⟩
  refine ⟨nodup_firstPerKey _ _, fun view hview => hsound view (mem_firstPerKey hview), ?_⟩
  intro tx htx htouch
  obtain ⟨view, hview, hreport⟩ := hcover tx htx htouch
  have hkey : tx.txid ∈ (firstPerKey TxSummary.txid
      (fetched.flatMap AddressTxs.transactions)).map TxSummary.txid := by
    rw [mem_keys_firstPerKey, ← hreport.txid_eq]
    exact List.mem_map_of_mem hview
  -- what is kept under this id reports the one transaction with the id
  obtain ⟨first, hfirst, hid⟩ := List.mem_map.mp hkey
  obtain ⟨tx', htx', -, hreport'⟩ := hsound first (mem_firstPerKey hfirst)
  have heq : tx' = tx := List.inj_on_of_nodup_map hchain.txids htx' htx
    (hreport'.txid_eq.symm.trans hid)
  exact ⟨first, hfirst, heq ▸ hreport'⟩

/-- **Each transaction of the wallet is kept once**, up to what was reported of
    its outputs being spent. -/
theorem Kept.perm (hchain : ChainSet records txs) (h : Kept records txs kept) :
    (kept.map eraseSpentBy).Perm ((txs.filter (touchesWallet records)).map eraseSpentBy) := by
  have hids : ∀ l : List TxSummary,
      (l.map eraseSpentBy).map TxSummary.txid = l.map TxSummary.txid := fun l => by
    rw [List.map_map]
    rfl
  have hkept : (kept.map eraseSpentBy).Nodup := List.Nodup.of_map TxSummary.txid (by
    rw [hids]
    exact h.nodup)
  have htxs : ((txs.filter (touchesWallet records)).map eraseSpentBy).Nodup :=
    List.Nodup.of_map TxSummary.txid (by
      rw [hids]
      exact hchain.txids.sublist (List.filter_sublist.map _))
  refine (List.perm_ext_iff_of_nodup hkept htxs).mpr fun t => ?_
  rw [List.mem_map, List.mem_map]
  constructor
  · rintro ⟨view, hview, rfl⟩
    obtain ⟨tx, htx, htouch, hreport⟩ := h.sound view hview
    exact ⟨tx, List.mem_filter.mpr ⟨htx, htouch⟩, hreport.same.symm⟩
  · rintro ⟨tx, htx, rfl⟩
    obtain ⟨htx, htouch⟩ := List.mem_filter.mp htx
    obtain ⟨view, hview, hreport⟩ := h.complete tx htx htouch
    exact ⟨view, hview, hreport.same⟩

end Kept

/-! ## What a row says of its output -/

section Rows

variable {txs kept : List TxSummary} {records : List (String × String)}

/-- Whoever spends an owned output takes an input from the same address. -/
theorem owned_of_spends (hchain : ChainSet records txs) {src spender : TxSummary}
    (hsrc : src ∈ txs) (hspender : spender ∈ txs) {n : ℕ} {o : TxEntry}
    (ho : src.outputs[n]? = some o) (howned : isOwned (ownedOf records) o.address = true)
    (hspends : Spends spender (src.txid, (n : ℤ))) :
    ∃ i ∈ spender.inputs, outpoint i = some (src.txid, (n : ℤ)) ∧ i.value = o.value
      ∧ isOwned (ownedOf records) i.address = true := by
  obtain ⟨i, hi, hpoint⟩ := List.mem_filterMap.mp hspends
  obtain ⟨haddress, hvalue⟩ := hchain.repeats spender hspender i hi src hsrc n o hpoint ho
  exact ⟨i, hi, hpoint, hvalue, haddress ▸ howned⟩

/-- **Who spends the wallet's output touches the wallet.** -/
theorem touches_of_spends (hchain : ChainSet records txs) {src spender : TxSummary}
    (hsrc : src ∈ txs) (hspender : spender ∈ txs) {n : ℕ} {o : TxEntry}
    (ho : src.outputs[n]? = some o) (howned : isOwned (ownedOf records) o.address = true)
    (hspends : Spends spender (src.txid, (n : ℤ))) :
    touchesWallet records spender = true := by
  obtain ⟨i, hi, -, -, hown⟩ := owned_of_spends hchain hsrc hspender ho howned hspends
  exact (touchesWallet_iff spender).mpr (Or.inl ⟨i, hi, hown⟩)

/-- An outpoint is spent once among the kept transactions too. -/
theorem Kept.spent_once (hchain : ChainSet records txs) (h : Kept records txs kept) :
    ((spends kept).map Prod.fst).Nodup := by
  have hperm : (spends kept).Perm (spends (txs.filter (touchesWallet records))) := by
    rw [← spends_eraseSpentBy kept, ← spends_eraseSpentBy (txs.filter _)]
    exact (h.perm hchain).flatMap_right _
  rw [(hperm.map Prod.fst).nodup_iff]
  refine hchain.spent_once.sublist (List.Sublist.map _ ?_)
  exact List.filter_sublist.flatMap _

/-- Among the kept transactions an owned output has the spender it has. -/
theorem getKey_spenders_kept (hchain : ChainSet records txs) (h : Kept records txs kept)
    {src : TxSummary} (hsrc : src ∈ txs) {n : ℕ} {o : TxEntry}
    (ho : src.outputs[n]? = some o) (howned : isOwned (ownedOf records) o.address = true) :
    getKey (spenders kept) (src.txid, (n : ℤ))
      = getKey (spenders txs) (src.txid, (n : ℤ)) := by
  refine Option.ext fun txid => ?_
  rw [getKey_spenders (h.spent_once hchain), getKey_spenders hchain.spent_once]
  constructor
  · rintro ⟨view, hview, rfl, hspends⟩
    obtain ⟨tx, htx, -, hreport⟩ := h.sound view hview
    refine ⟨tx, htx, hreport.txid_eq.symm, ?_⟩
    rw [Spends, ← hreport.inputs_eq]
    exact hspends
  · rintro ⟨tx, htx, rfl, hspends⟩
    obtain ⟨view, hview, hreport⟩ := h.complete tx htx
      (touches_of_spends hchain hsrc htx ho howned hspends)
    refine ⟨view, hview, hreport.txid_eq, ?_⟩
    rw [Spends, hreport.inputs_eq]
    exact hspends

/-- What is reported of an owned output, or inferred, is who spends it. -/
theorem spentBy_report (hchain : ChainSet records txs) (h : Kept records txs kept)
    {tx view : TxSummary} (htx : tx ∈ txs) (hreport : Report txs tx view) {n : ℕ}
    {o : TxEntry} (ho : view.outputs[n]? = some o)
    (howned : isOwned (ownedOf records) o.address = true) :
    spentBy o.spentBy (getKey (spenders kept) (view.txid, (n : ℤ)))
      = getKey (spenders txs) (tx.txid, (n : ℤ)) := by
  have houts := congrArg (fun t : TxSummary => t.outputs[n]?) hreport.same
  dsimp only [eraseSpentBy] at houts
  rw [List.getElem?_map, List.getElem?_map, ho, Option.map_some, eq_comm,
    Option.map_eq_some_iff] at houts
  obtain ⟨o', ho', he⟩ := houts
  have haddress : o'.address = o.address := by
    injection he
  have hinferred := getKey_spenders_kept hchain h htx ho' (haddress ▸ howned)
  rw [hreport.txid_eq, hinferred]
  cases hreported : o.spentBy with
  | none => rfl
  | some txid =>
      rw [spentBy]
      split
      · rfl
      · exact ((getKey_spenders hchain.spent_once).mpr
          (hreport.truthful n o txid ho hreported)).symm

/-- **The rows of a report are the rows of the transaction**, with the spenders
    of the whole set. -/
theorem outputRows_report (hchain : ChainSet records txs) (h : Kept records txs kept)
    {tx view : TxSummary} (htx : tx ∈ txs) (hreport : Report txs tx view) :
    outputRows (ownedOf records) (spenders kept) view
      = outputRows (ownedOf records) (spenders txs) (eraseSpentBy tx) := by
  rw [← hreport.same]
  unfold outputRows
  show _ = ((view.outputs.map fun o => { o with spentBy := none }).zipIdx).filterMap _
  rw [List.zipIdx_map, List.filterMap_map]
  refine List.filterMap_congr fun item hitem => ?_
  rw [List.mem_zipIdx_iff_getElem?] at hitem
  obtain ⟨o, n⟩ := item
  show outputRow _ _ view n o
    = outputRow _ _ (eraseSpentBy view) n { o with spentBy := none }
  unfold outputRow
  cases haddress : o.address with
  | none => rfl
  | some address =>
      cases hpath : getKey (ownedOf records) address with
      | none => simp [hpath]
      | some path =>
          have howned : isOwned (ownedOf records) o.address = true := by
            rw [haddress]
            exact Option.isSome_of_eq_some hpath
          have hspent := spentBy_report hchain h htx hreport hitem howned
          simp only [Option.bind_eq_bind, Option.bind_some, hpath, hspent]
          rw [← hreport.txid_eq]
          rfl

end Rows

/-! ## The rows of a wallet -/

section WalletRows

variable {txs kept : List TxSummary} {records : List (String × String)}

/-- The transactions that touch the wallet. -/
def walletTxs (records : List (String × String)) (txs : List TxSummary) :
    List TxSummary := txs.filter (touchesWallet records)

/-- The rows of the outputs that pay the wallet. -/
def walletRows (records : List (String × String)) (txs : List TxSummary) : List Output :=
  (walletTxs records txs).flatMap fun tx =>
    outputRows (ownedOf records) (spenders txs) (eraseSpentBy tx)

/-- A transaction looks the same whoever spends its outputs. -/
theorem walletTx_eraseSpentBy (owned : Owned) (tx : TxSummary) :
    walletTx owned (eraseSpentBy tx) = walletTx owned tx := by
  unfold walletTx memoOf counterparties eraseSpentBy
  simp only [List.filter_map, List.map_map, List.any_map, List.findSome?_map,
    List.filterMap_map]
  rfl

/-- The rows of what is kept are those of the wallet's transactions. -/
theorem transactions_perm (hchain : ChainSet records txs) (h : Kept records txs kept) :
    (kept.map (walletTx (ownedOf records))).Perm
      ((walletTxs records txs).map (walletTx (ownedOf records))) := by
  have herased : ∀ l : List TxSummary, l.map (walletTx (ownedOf records))
      = (l.map eraseSpentBy).map (walletTx (ownedOf records)) := fun l => by
    rw [List.map_map]
    exact List.map_congr_left fun tx _ => (walletTx_eraseSpentBy _ tx).symm
  rw [herased kept, herased (walletTxs records txs)]
  exact (h.perm hchain).map _

/-- And so are the rows of their outputs. -/
theorem outputs_perm (hchain : ChainSet records txs) (h : Kept records txs kept) :
    (kept.flatMap (outputRows (ownedOf records) (spenders kept))).Perm
      (walletRows records txs) := by
  have hrows : kept.flatMap (outputRows (ownedOf records) (spenders kept))
      = (kept.map eraseSpentBy).flatMap (outputRows (ownedOf records) (spenders txs)) := by
    rw [List.flatMap_map]
    refine List.flatMap_congr fun view hview => ?_
    obtain ⟨tx, htx, -, hreport⟩ := h.sound view hview
    rw [outputRows_report hchain h htx hreport, hreport.same]
  have hwallet : walletRows records txs = ((walletTxs records txs).map eraseSpentBy).flatMap
      (outputRows (ownedOf records) (spenders txs)) := by
    rw [List.flatMap_map]
    rfl
  rw [hrows, hwallet]
  exact (h.perm hchain).flatMap_right _

/-- There is a row exactly for an output on an owned address. -/
theorem outputRow_eq_some {owned : Owned} {spent : List ((String × ℤ) × String)}
    {tx : TxSummary} {n : ℕ} {o : TxEntry} {row : Output} :
    outputRow owned spent tx n o = some row ↔ ∃ address path, o.address = some address
      ∧ getKey owned address = some path
      ∧ row = { txid := tx.txid, vout := n, value := o.value, address, path
                confirmed := tx.confirmed, blockHeight := tx.blockHeight
                blockTime := tx.blockTime
                spentBy := spentBy o.spentBy (getKey spent (tx.txid, (n : ℤ))) } := by
  rw [outputRow, Option.bind_eq_bind, Option.bind_eq_some_iff]
  constructor
  · rintro ⟨address, haddress, h⟩
    obtain ⟨path, hpath, h⟩ := Option.bind_eq_some_iff.mp h
    exact ⟨address, path, haddress, hpath, (Option.some.inj h).symm⟩
  · rintro ⟨address, path, haddress, hpath, rfl⟩
    exact ⟨address, haddress, Option.bind_eq_some_iff.mpr ⟨path, hpath, rfl⟩⟩

/-- A row is there for each output that pays an owned address. -/
theorem outputRow_isSome (owned : Owned) (spent : List ((String × ℤ) × String))
    (tx : TxSummary) (n : ℕ) (o : TxEntry) :
    (outputRow owned spent tx n o).isSome = isOwned owned o.address := by
  rw [outputRow, isOwned, ownerPath]
  cases o.address with
  | none => rfl
  | some address =>
      show (Option.bind (getKey owned address) _).isSome = (getKey owned address).isSome
      cases getKey owned address <;> rfl

/-- What the rows list, over the whole set of transactions. -/
theorem mem_walletRows (haddr : (records.map Prod.snd).Nodup) {row : Output} :
    row ∈ walletRows records txs ↔ ∃ tx ∈ txs, ∃ n o address path,
      tx.outputs[n]? = some o ∧ o.address = some address ∧ (path, address) ∈ records
      ∧ row = { txid := tx.txid, vout := n, value := o.value, address, path
                confirmed := tx.confirmed, blockHeight := tx.blockHeight
                blockTime := tx.blockTime
                spentBy := getKey (spenders txs) (tx.txid, (n : ℤ)) } := by
  rw [walletRows, List.mem_flatMap]
  constructor
  · rintro ⟨tx, htx, hrow⟩
    obtain ⟨⟨o', n⟩, hitem, hrow⟩ := List.mem_filterMap.mp hrow
    rw [List.mem_zipIdx_iff_getElem?] at hitem
    obtain ⟨address, path, haddress, hpath, rfl⟩ := outputRow_eq_some.mp hrow
    dsimp only [eraseSpentBy] at hitem
    rw [List.getElem?_map, Option.map_eq_some_iff] at hitem
    obtain ⟨o, ho, rfl⟩ := hitem
    exact ⟨tx, (List.mem_filter.mp htx).1, n, o, address, path, ho, haddress,
      (getKey_ownedOf haddr).mp hpath, rfl⟩
  · rintro ⟨tx, htx, n, o, address, path, ho, haddress, hpath, rfl⟩
    have howned : isOwned (ownedOf records) o.address = true :=
      (isOwned_ownedOf _).mpr ⟨(path, address), hpath, haddress⟩
    have htouch : touchesWallet records tx = true :=
      (touchesWallet_iff tx).mpr (Or.inr ⟨o, List.mem_of_getElem? ho, howned⟩)
    refine ⟨tx, List.mem_filter.mpr ⟨htx, htouch⟩, ?_⟩
    refine List.mem_filterMap.mpr ⟨({ o with spentBy := none }, n), ?_, ?_⟩
    · rw [List.mem_zipIdx_iff_getElem?]
      dsimp only [eraseSpentBy]
      rw [List.getElem?_map, ho]
      rfl
    · exact outputRow_eq_some.mpr ⟨address, path, haddress, (getKey_ownedOf haddr).mpr hpath,
        rfl⟩

/-- No output has two rows. -/
theorem nodup_walletRows (hchain : ChainSet records txs) :
    ((walletRows records txs).map fun o => (o.txid, o.vout)).Nodup := by
  have hkeys : ∀ tx : TxSummary,
      ((outputRows (ownedOf records) (spenders txs) (eraseSpentBy tx)).map
        fun o => (o.txid, o.vout)).Sublist
      ((eraseSpentBy tx).outputs.zipIdx.map fun item => (tx.txid, item.2)) := by
    intro tx
    refine filterMap_keys_sublist ?_ _
    intro item row hrow
    obtain ⟨address, path, -, -, rfl⟩ := outputRow_eq_some.mp hrow
    rfl
  rw [walletRows, List.map_flatMap, List.nodup_flatMap]
  constructor
  · intro tx htx
    refine List.Nodup.sublist (hkeys tx) ?_
    have hindex : ((eraseSpentBy tx).outputs.zipIdx.map Prod.snd).Nodup := by
      rw [List.zipIdx_map_snd]
      exact List.nodup_range'
    have hpair : (eraseSpentBy tx).outputs.zipIdx.map (fun item => (tx.txid, item.2))
        = ((eraseSpentBy tx).outputs.zipIdx.map Prod.snd).map fun n => (tx.txid, n) := by
      rw [List.map_map]
      rfl
    rw [hpair]
    exact hindex.map fun a b hab => (Prod.mk.inj hab).2
  · have hdistinct : ((walletTxs records txs).map TxSummary.txid).Nodup :=
      hchain.txids.sublist (List.filter_sublist.map _)
    rw [List.Nodup, List.pairwise_map] at hdistinct
    refine hdistinct.imp fun {tx tx'} hne => ?_
    intro key hkey hkey'
    obtain ⟨item, -, rfl⟩ := List.mem_map.mp ((hkeys tx).subset hkey)
    obtain ⟨item', -, he⟩ := List.mem_map.mp ((hkeys tx').subset hkey')
    exact hne (Prod.mk.inj he).1.symm

end WalletRows

/-! ## The balance -/

section Balance

variable {txs : List TxSummary} {records : List (String × String)}

/-- What a transaction takes from the wallet: the outpoint and its value. -/
def takes (owned : Owned) (tx : TxSummary) : List ((String × ℤ) × ℤ) :=
  (tx.inputs.filter fun i => isOwned owned i.address).filterMap fun i =>
    (outpoint i).map fun p => (p, i.value)

/-- What an output row stands for: its outpoint and its value. -/
def Output.coin (o : Output) : (String × ℤ) × ℤ := ((o.txid, (o.vout : ℤ)), o.value)

/-- The amount received is the total of the rows. -/
theorem received_eq (owned : Owned) (spent : List ((String × ℤ) × String))
    (tx : TxSummary) :
    (walletTx owned tx).received = ((outputRows owned spent tx).map Output.value).sum := by
  have hrows : ((outputRows owned spent tx).map Output.value).sum
      = ((tx.outputs.zipIdx.filter fun item => isOwned owned item.1.address).map
          fun item => item.1.value).sum := by
    refine sum_filterMap ?_ ?_
    · intro item _ hown
      rw [← outputRow_isSome owned spent tx item.2] at hown
      obtain ⟨row, hrow⟩ := Option.isSome_iff_exists.mp hown
      obtain ⟨address, path, -, -, he⟩ := outputRow_eq_some.mp hrow
      exact ⟨row, hrow, by rw [he]⟩
    · intro item _ hown
      rw [← outputRow_isSome owned spent tx item.2] at hown
      exact Option.isSome_eq_false_iff.mp hown |> Option.isNone_iff_eq_none.mp
  have hentries : (tx.outputs.filter fun o => isOwned owned o.address)
      = (tx.outputs.zipIdx.filter fun item => isOwned owned item.1.address).map Prod.fst := by
    conv_lhs => rw [← List.zipIdx_map_fst 0 tx.outputs]
    rw [List.filter_map]
    rfl
  rw [hrows, walletTx, hentries, List.map_map]
  rfl

/-- The amount sent is the total of what is taken, when every owned input names
    its outpoint. -/
theorem sent_eq {owned : Owned} {tx : TxSummary}
    (h : ∀ i ∈ tx.inputs, isOwned owned i.address = true → (outpoint i).isSome = true) :
    (walletTx owned tx).sent = ((takes owned tx).map Prod.snd).sum := by
  have hall : (tx.inputs.filter fun i => isOwned owned i.address).filter (fun _ => true)
      = tx.inputs.filter fun i => isOwned owned i.address := List.filter_true _
  rw [takes, sum_filterMap (p := fun _ => true) (f := TxEntry.value) ?_ ?_, hall]
  · rfl
  · intro i hi _
    obtain ⟨hi, hown⟩ := List.mem_filter.mp hi
    obtain ⟨p, hp⟩ := Option.isSome_iff_exists.mp (h i hi hown)
    exact ⟨(p, i.value), by rw [hp]; rfl, rfl⟩
  · intro i _ hfalse
    cases hfalse

/-- An owned input spends an output with a row of its own value. -/
theorem takes_created (hchain : ChainSet records txs) (haddr : (records.map Prod.snd).Nodup) :
    ∀ c ∈ (walletTxs records txs).flatMap (takes (ownedOf records)),
      c ∈ (walletRows records txs).map Output.coin := by
  intro c hc
  obtain ⟨tx, htx, hc⟩ := List.mem_flatMap.mp hc
  obtain ⟨i, hi, hc⟩ := List.mem_filterMap.mp hc
  obtain ⟨hi, hown⟩ := List.mem_filter.mp hi
  obtain ⟨p, hp, rfl⟩ := Option.map_eq_some_iff.mp hc
  have htxs := (List.mem_filter.mp htx).1
  obtain ⟨r, hr, hri⟩ := (isOwned_ownedOf i.address).mp hown
  obtain ⟨src, hsrc, n, o, hpoint, ho⟩ := hchain.known tx htxs i hi r hr hri
  obtain ⟨haddress, hvalue⟩ := hchain.repeats tx htxs i hi src hsrc n o hpoint ho
  rw [hpoint] at hp
  cases hp
  refine List.mem_map.mpr ⟨_, (mem_walletRows haddr).mpr ⟨src, hsrc, n, o, r.2, r.1, ho,
    haddress ▸ hri, hr, rfl⟩, ?_⟩
  rw [Output.coin, hvalue]

/-- No coin is taken twice. -/
theorem nodup_takes (hchain : ChainSet records txs) :
    (((walletTxs records txs).flatMap (takes (ownedOf records))).map Prod.fst).Nodup := by
  have hsub : (((walletTxs records txs).flatMap (takes (ownedOf records))).map Prod.fst).Sublist
      ((spends txs).map Prod.fst) := by
    rw [spends, List.map_flatMap, List.map_flatMap]
    refine List.Sublist.trans (List.Sublist.flatMap_right _ fun tx _ => ?_)
      (List.filter_sublist.flatMap _)
    have htaken : (takes (ownedOf records) tx).map Prod.fst
        = (tx.inputs.filter fun i => isOwned (ownedOf records) i.address).filterMap
            outpoint := by
      rw [takes, List.map_filterMap]
      refine List.filterMap_congr fun i _ => ?_
      cases outpoint i <;> rfl
    have hspent : ((tx.inputs.filterMap outpoint).map fun p => (p, tx.txid)).map Prod.fst
        = tx.inputs.filterMap outpoint := by
      rw [List.map_map]
      exact List.map_id _
    rw [htaken, hspent]
    exact List.filter_sublist.filterMap outpoint
  exact hchain.spent_once.sublist hsub

/-- A row names who spends its output, if anyone does. -/
theorem spentBy_walletRows (hchain : ChainSet records txs)
    (haddr : (records.map Prod.snd).Nodup) {row : Output} (hrow : row ∈ walletRows records txs)
    {txid : String} :
    row.spentBy = some txid ↔
      ∃ spender ∈ txs, spender.txid = txid ∧ Spends spender (row.txid, (row.vout : ℤ)) := by
  obtain ⟨tx, htx, n, o, address, path, ho, haddress, hpath, rfl⟩ :=
    (mem_walletRows haddr).mp hrow
  exact getKey_spenders hchain.spent_once

/-- A row is spent when the wallet took its coin. -/
theorem spent_walletRows (hchain : ChainSet records txs)
    (haddr : (records.map Prod.snd).Nodup) {row : Output}
    (hrow : row ∈ walletRows records txs) :
    row.spent = true ↔ row.coin.1 ∈
      ((walletTxs records txs).flatMap (takes (ownedOf records))).map Prod.fst := by
  rw [Output.spent, Option.isSome_iff_exists]
  constructor
  · rintro ⟨txid, hspent⟩
    obtain ⟨spender, hspender, -, hspends⟩ := (spentBy_walletRows hchain haddr hrow).mp hspent
    obtain ⟨tx, htx, n, o, address, path, ho, haddress, hpath, rfl⟩ :=
      (mem_walletRows haddr).mp hrow
    have howned : isOwned (ownedOf records) o.address = true :=
      (isOwned_ownedOf _).mpr ⟨(path, address), hpath, haddress⟩
    obtain ⟨i, hi, hpoint, -, hown⟩ := owned_of_spends hchain htx hspender ho howned hspends
    have htouch := touches_of_spends hchain htx hspender ho howned hspends
    refine List.mem_map.mpr ⟨((tx.txid, (n : ℤ)), i.value), ?_, rfl⟩
    refine List.mem_flatMap.mpr ⟨spender, List.mem_filter.mpr ⟨hspender, htouch⟩, ?_⟩
    exact List.mem_filterMap.mpr ⟨i, List.mem_filter.mpr ⟨hi, hown⟩, by rw [hpoint]; rfl⟩
  · intro htaken
    obtain ⟨c, hc, hkey⟩ := List.mem_map.mp htaken
    obtain ⟨tx, htx, hc⟩ := List.mem_flatMap.mp hc
    obtain ⟨i, hi, hc⟩ := List.mem_filterMap.mp hc
    obtain ⟨p, hp, rfl⟩ := Option.map_eq_some_iff.mp hc
    have hspends : Spends tx row.coin.1 :=
      List.mem_filterMap.mpr ⟨i, (List.mem_filter.mp hi).1, hkey ▸ hp⟩
    exact ⟨tx.txid, (spentBy_walletRows hchain haddr hrow).mpr
      ⟨tx, (List.mem_filter.mp htx).1, rfl, hspends⟩⟩

/-- The nets are the rows less what was taken. -/
theorem sum_net_eq (spent : List ((String × ℤ) × String)) {owned : Owned} :
    ∀ l : List TxSummary,
      (∀ tx ∈ l, ∀ i ∈ tx.inputs, isOwned owned i.address = true →
        (outpoint i).isSome = true) →
      ((l.map (walletTx owned)).map WalletTx.net).sum
        = ((l.flatMap fun tx => outputRows owned spent (eraseSpentBy tx)).map
            Output.value).sum
          - ((l.flatMap (takes owned)).map Prod.snd).sum := by
  intro l
  induction l with
  | nil => intro _; rfl
  | cons tx l ih =>
      intro h
      have hrest := ih fun t ht => h t (List.mem_cons_of_mem _ ht)
      have hsent := sent_eq (h tx List.mem_cons_self)
      have hreceived := received_eq owned spent (eraseSpentBy tx)
      rw [walletTx_eraseSpentBy] at hreceived
      rw [List.map_cons, List.map_cons, List.sum_cons, hrest, WalletTx.net, hsent, hreceived,
        List.flatMap_cons, List.flatMap_cons, List.map_append, List.map_append,
        List.sum_append, List.sum_append]
      omega

/-- **The nets total what is unspent.** -/
theorem sum_net (hchain : ChainSet records txs) (haddr : (records.map Prod.snd).Nodup) :
    (((walletTxs records txs).map (walletTx (ownedOf records))).map WalletTx.net).sum
      = (((walletRows records txs).filter fun o => !o.spent).map Output.value).sum := by
  have hpoints : ∀ tx ∈ walletTxs records txs, ∀ i ∈ tx.inputs,
      isOwned (ownedOf records) i.address = true → (outpoint i).isSome = true := by
    intro tx htx i hi hown
    obtain ⟨r, hr, hri⟩ := (isOwned_ownedOf i.address).mp hown
    obtain ⟨src, -, n, o, hpoint, -⟩ :=
      hchain.known tx (List.mem_filter.mp htx).1 i hi r hr hri
    rw [hpoint]
    rfl
  have hkeys : ((walletRows records txs).map fun o => o.coin.1).Nodup := by
    have hpairs : ((walletRows records txs).map fun o => o.coin.1)
        = ((walletRows records txs).map fun o => (o.txid, o.vout)).map
            fun p => (p.1, (p.2 : ℤ)) := by
      rw [List.map_map]
      rfl
    rw [hpairs]
    refine (nodup_walletRows hchain).map fun p q h => ?_
    obtain ⟨htxid, hvout⟩ := Prod.mk.inj h
    exact Prod.ext htxid (Int.ofNat_inj.mp hvout)
  rw [sum_net_eq (spenders txs) _ hpoints]
  refine sum_sub_sum_consumed hkeys (nodup_takes hchain) (takes_created hchain haddr)
    fun row hrow => ?_
  rw [Bool.not_eq_false']
  exact spent_walletRows hchain haddr hrow

end Balance

/-! ## The listing -/

section Listing

variable {txs : List TxSummary} {records records' : List (String × String)}
  {addressTxs addressTxs' : String → Except PyError AddressTxs}

/-- Sorting loses nothing. -/
theorem sortBy_perm {α : Type} (key : α → ℤ × ℤ) (l : List α) : (sortBy key l).Perm l :=
  List.perm_insertionSort _ l

/-- Complete histories give a listing of the wallet's transactions and rows. -/
theorem walletHistory_perm (hchain : ChainSet records txs)
    (hcomplete : CompleteHistories txs records addressTxs) :
    ∃ h, walletHistory addressTxs records = .ok h
      ∧ h.transactions.Perm ((walletTxs records txs).map (walletTx (ownedOf records)))
      ∧ h.outputs.Perm (walletRows records txs) := by
  unfold walletHistory
  show ∃ h, (if (ownedOf records).map Prod.fst = [] then _ else _) = _ ∧ _
  by_cases hnone : (ownedOf records).map Prod.fst = []
  · have hrecords : records = [] := by
      cases hr : records with
      | nil => rfl
      | cons r rs =>
          have hkey : r.2 ∈ (ownedOf records).map Prod.fst := by
            rw [ownedOf, mem_keys_keyed, hr]
            exact List.mem_cons_self
          rw [hnone] at hkey
          exact nomatch hkey
    have hempty : walletTxs records txs = [] := by
      rw [walletTxs, hrecords]
      exact List.filter_eq_nil_iff.mpr fun tx _ => Bool.false_ne_true
    rw [if_pos hnone]
    refine ⟨_, rfl, ?_, ?_⟩
    · rw [hempty]
      exact List.Perm.refl []
    · rw [walletRows, hempty]
      exact List.Perm.refl []
  · obtain ⟨fetched, hfetched⟩ : ∃ fetched,
        ((ownedOf records).map Prod.fst).mapM addressTxs = .ok fetched := by
      rw [mapM_isOk_iff]
      intro address haddress
      rw [ownedOf, mem_keys_keyed] at haddress
      obtain ⟨r, hr, rfl⟩ := List.mem_map.mp haddress
      obtain ⟨batch, -, hbatch, -⟩ := hcomplete r hr
      exact ⟨batch, hbatch⟩
    have hkept := kept_of_complete hchain hcomplete hfetched
    rw [if_neg hnone, hfetched]
    refine ⟨_, rfl, ?_, ?_⟩
    · exact (sortBy_perm _ _).trans (transactions_perm hchain hkept)
    · exact (sortBy_perm _ _).trans (outputs_perm hchain hkept)

/-- Only what is owned, and by which path, matters of the records. -/
theorem walletTx_congr {owned owned' : Owned} (h : ∀ a, getKey owned a = getKey owned' a)
    (tx : TxSummary) : walletTx owned tx = walletTx owned' tx := by
  have hown : isOwned owned = isOwned owned' := by
    funext address
    cases address with
    | none => rfl
    | some a => exact congrArg Option.isSome (h a)
  unfold walletTx counterparties
  rw [hown]

/-- The rows depend on who owns what only. -/
theorem outputRows_congr {owned owned' : Owned} (h : ∀ a, getKey owned a = getKey owned' a)
    (spent : List ((String × ℤ) × String)) (tx : TxSummary) :
    outputRows owned spent tx = outputRows owned' spent tx := by
  unfold outputRows outputRow
  simp only [h]

/-- The order of the records does not matter to that, -/
theorem getKey_ownedOf_perm (haddr : (records.map Prod.snd).Nodup)
    (hperm : records'.Perm records) (address : String) :
    getKey (ownedOf records') address = getKey (ownedOf records) address := by
  have haddr' : (records'.map Prod.snd).Nodup := (hperm.map Prod.snd).nodup_iff.mpr haddr
  refine Option.ext fun path => ?_
  rw [getKey_ownedOf haddr', getKey_ownedOf haddr, hperm.mem_iff]

/-- nor to which transactions are the wallet's. -/
theorem walletTxs_perm (hperm : records'.Perm records) :
    walletTxs records' txs = walletTxs records txs := by
  refine List.filter_congr fun tx _ => ?_
  rw [Bool.eq_iff_iff, touchesWallet, touchesWallet, List.any_eq_true, List.any_eq_true]
  constructor
  · rintro ⟨r, hr, htouch⟩
    exact ⟨r, hperm.mem_iff.mp hr, htouch⟩
  · rintro ⟨r, hr, htouch⟩
    exact ⟨r, hperm.mem_iff.mpr hr, htouch⟩

/-- The listing of a wallet: what it must show of the set of transactions. -/
structure Faithful (records : List (String × String)) (txs : List TxSummary)
    (h : History) : Prop where
  /-- each transaction that touches the wallet, once -/
  transactions : ∀ txid, txid ∈ h.transactions.map WalletTx.txid ↔
    ∃ tx ∈ txs, tx.txid = txid ∧ touchesWallet records tx = true
  transactions_once : (h.transactions.map WalletTx.txid).Nodup
  /-- each output that pays an owned address, once, under its owner's path -/
  outputs : ∀ txid vout value address path,
    (∃ row ∈ h.outputs, row.txid = txid ∧ row.vout = vout ∧ row.value = value
      ∧ row.address = address ∧ row.path = path) ↔
    ∃ tx ∈ txs, ∃ o, tx.txid = txid ∧ tx.outputs[vout]? = some o ∧ o.value = value
      ∧ o.address = some address ∧ (path, address) ∈ records
  outputs_once : (h.outputs.map fun o => (o.txid, o.vout)).Nodup
  /-- unspent exactly when no transaction of the set spends it -/
  unspent : ∀ row ∈ h.outputs, row.spentBy = none ↔
    ∀ tx ∈ txs, ¬ Spends tx (row.txid, (row.vout : ℤ))
  spent_by : ∀ row ∈ h.outputs, ∀ tx ∈ txs, Spends tx (row.txid, (row.vout : ℤ)) →
    row.spentBy = some tx.txid
  /-- the nets total what is unspent -/
  balance : (h.transactions.map WalletTx.net).sum = h.unspentTotal

/-- A listing that is the wallet's rows in some order is faithful. -/
theorem faithful_of_perm (hchain : ChainSet records txs)
    (haddr : (records.map Prod.snd).Nodup) {h : History}
    (htxs : h.transactions.Perm ((walletTxs records txs).map (walletTx (ownedOf records))))
    (hrows : h.outputs.Perm (walletRows records txs)) : Faithful records txs h where
  transactions := by
    intro txid
    rw [(htxs.map WalletTx.txid).mem_iff, List.map_map, List.mem_map]
    constructor
    · rintro ⟨tx, htx, rfl⟩
      obtain ⟨htx, htouch⟩ := List.mem_filter.mp htx
      exact ⟨tx, htx, rfl, htouch⟩
    · rintro ⟨tx, htx, rfl, htouch⟩
      exact ⟨tx, List.mem_filter.mpr ⟨htx, htouch⟩, rfl⟩
  transactions_once := by
    rw [(htxs.map WalletTx.txid).nodup_iff, List.map_map]
    exact hchain.txids.sublist (List.filter_sublist.map _)
  outputs := by
    intro txid vout value address path
    constructor
    · rintro ⟨row, hrow, rfl, rfl, rfl, rfl, rfl⟩
      obtain ⟨tx, htx, n, o, address, path, ho, haddress, hpath, rfl⟩ :=
        (mem_walletRows haddr).mp (hrows.mem_iff.mp hrow)
      exact ⟨tx, htx, o, rfl, ho, rfl, haddress, hpath⟩
    · rintro ⟨tx, htx, o, rfl, ho, rfl, haddress, hpath⟩
      exact ⟨_, hrows.mem_iff.mpr ((mem_walletRows haddr).mpr
        ⟨tx, htx, vout, o, address, path, ho, haddress, hpath, rfl⟩), rfl, rfl, rfl, rfl,
        rfl⟩
  outputs_once := by
    rw [(hrows.map _).nodup_iff]
    exact nodup_walletRows hchain
  unspent := by
    intro row hrow
    have hspent : ∀ txid, row.spentBy = some txid ↔ _ := fun txid =>
      spentBy_walletRows hchain haddr (hrows.mem_iff.mp hrow)
    rw [Option.eq_none_iff_forall_ne_some]
    constructor
    · intro hnone tx htx hspends
      exact hnone tx.txid ((hspent tx.txid).mpr ⟨tx, htx, rfl, hspends⟩)
    · intro hnone txid hsome
      obtain ⟨tx, htx, -, hspends⟩ := (hspent txid).mp hsome
      exact hnone tx htx hspends
  spent_by := by
    intro row hrow tx htx hspends
    exact (spentBy_walletRows hchain haddr (hrows.mem_iff.mp hrow)).mpr
      ⟨tx, htx, rfl, hspends⟩
  balance := by
    rw [((htxs.map WalletTx.net).sum_eq), sum_net hchain haddr]
    exact (((hrows.filter _).map Output.value).sum_eq).symm

/-- **The listing is faithful, and does not depend on the order** of the
    records or of what comes back for each address. -/
theorem walletHistory_faithful (hchain : ChainSet records txs)
    (haddr : (records.map Prod.snd).Nodup)
    (hcomplete : CompleteHistories txs records addressTxs) :
    ∃ h, walletHistory addressTxs records = .ok h ∧ Faithful records txs h
      ∧ ∀ records' addressTxs', records'.Perm records →
        CompleteHistories txs records' addressTxs' →
        ∃ h', walletHistory addressTxs' records' = .ok h'
          ∧ h'.transactions.Perm h.transactions ∧ h'.outputs.Perm h.outputs
          ∧ h'.unspentTotal = h.unspentTotal ∧ h'.spentTotal = h.spentTotal := by
  obtain ⟨h, hok, htxs, hrows⟩ := walletHistory_perm hchain hcomplete
  refine ⟨h, hok, faithful_of_perm hchain haddr htxs hrows, ?_⟩
  intro records' addressTxs' hperm hcomplete'
  have hchain' : ChainSet records' txs :=
    { hchain with known := fun tx htx i hi r hr =>
        hchain.known tx htx i hi r (hperm.mem_iff.mp hr) }
  obtain ⟨h', hok', htxs', hrows'⟩ := walletHistory_perm hchain' hcomplete'
  have hkeys := getKey_ownedOf_perm haddr hperm
  have htransactions : h'.transactions.Perm h.transactions := by
    refine htxs'.trans (List.Perm.trans ?_ htxs.symm)
    rw [walletTxs_perm hperm]
    exact List.Perm.of_eq (List.map_congr_left fun tx _ => walletTx_congr hkeys tx)
  have houtputs : h'.outputs.Perm h.outputs := by
    refine hrows'.trans (List.Perm.trans ?_ hrows.symm)
    rw [walletRows, walletRows, walletTxs_perm hperm]
    exact List.Perm.of_eq (List.flatMap_congr fun tx _ => outputRows_congr hkeys _ _)
  exact ⟨h', hok', htransactions, houtputs,
    ((houtputs.filter _).map Output.value).sum_eq,
    ((houtputs.filter _).map Output.value).sum_eq⟩

end Listing

/-! ## A deposit and its change -/

def fundingTx : TxSummary where
  txid := "4a5e1e4b"
  confirmed := true
  blockHeight := some 800000
  fee := 50000
  vsize := 141
  inputs := [{ value := 150000, address := some "bc1qpayer"
               txid := some "0e3e2357", vout := some 1 }]
  outputs := [{ value := 100000, address := some "bc1qfirst" }]

def depositTx : TxSummary where
  txid := "9b0fc922"
  confirmed := false
  blockHeight := none
  fee := 10000
  vsize := 180
  inputs := [{ value := 100000, address := some "bc1qfirst"
               txid := some "4a5e1e4b", vout := some 0 }]
  outputs := [
    { value := 60000, address := some "bc1qvault" },
    { value := 0, opReturn := true, opReturnData := some [0x3D, 0x3A] },
    { value := 30000, address := some "bc1qchange" }]

def depositRecords : List (String × String) :=
  [("m/84'/0'/0'/0/0", "bc1qfirst"), ("m/84'/0'/0'/1/0", "bc1qchange")]

/-- The first address has both transactions, the change address the deposit. -/
def depositHistories (address : String) : Except PyError AddressTxs :=
  if address = "bc1qfirst" then .ok { transactions := [depositTx, fundingTx] }
  else if address = "bc1qchange" then .ok { transactions := [depositTx] }
  else .ok { transactions := [] }

theorem deposit_chainSet : ChainSet depositRecords [fundingTx, depositTx] where
  txids := by decide
  spent_once := by decide
  repeats := by
    intro tx htx i hi src hsrc n o hpoint ho
    rcases List.mem_pair.mp htx with rfl | rfl
    · rw [List.mem_singleton.mp hi] at hpoint
      rcases List.mem_pair.mp hsrc with rfl | rfl
      · exact absurd (Prod.mk.inj (Option.some.inj hpoint)).1 (by decide)
      · exact absurd (Prod.mk.inj (Option.some.inj hpoint)).1 (by decide)
    · rw [List.mem_singleton.mp hi] at hpoint ⊢
      rcases List.mem_pair.mp hsrc with rfl | rfl
      · have hn : n = 0 := by
          have hvout := (Prod.mk.inj (Option.some.inj hpoint)).2
          omega
        rw [hn] at ho
        cases ho
        exact ⟨rfl, rfl⟩
      · exact absurd (Prod.mk.inj (Option.some.inj hpoint)).1 (by decide)
  known := by
    intro tx htx i hi r hr haddress
    rcases List.mem_pair.mp htx with rfl | rfl
    · rw [List.mem_singleton.mp hi] at haddress
      rcases List.mem_pair.mp hr with rfl | rfl
      · exact absurd haddress (by decide)
      · exact absurd haddress (by decide)
    · rw [List.mem_singleton.mp hi]
      exact ⟨fundingTx, List.mem_cons_self, 0, _, rfl, rfl⟩

theorem deposit_complete :
    CompleteHistories [fundingTx, depositTx] depositRecords depositHistories := by
  have hreport : ∀ tx ∈ [fundingTx, depositTx], Report [fundingTx, depositTx] tx tx := by
    intro tx htx
    refine ⟨rfl, fun n o txid ho hreported => ?_⟩
    have hsilent : ∀ o ∈ tx.outputs, o.spentBy = none := by
      rcases List.mem_pair.mp htx with rfl | rfl
      · exact forall_mem_of_all rfl
      · exact forall_mem_of_all rfl
    rw [hsilent o (List.mem_of_getElem? ho)] at hreported
    cases hreported
  have hfunding := hreport fundingTx List.mem_cons_self
  have hdeposit := hreport depositTx (List.mem_cons_of_mem _ List.mem_cons_self)
  intro r hr
  rcases List.mem_pair.mp hr with rfl | rfl
  · exact ⟨_, [depositTx, fundingTx], rfl, List.Perm.swap _ _ _,
      .cons hdeposit (.cons hfunding .nil)⟩
  · exact ⟨_, [depositTx], rfl, List.Perm.refl _, .cons hdeposit .nil⟩

theorem walletHistory_faithful_deposit :
    ∃ h, walletHistory depositHistories depositRecords = .ok h
      ∧ Faithful depositRecords [fundingTx, depositTx] h := by
  obtain ⟨h, hok, hfaithful, -⟩ :=
    walletHistory_faithful deposit_chainSet (by decide) deposit_complete
  exact ⟨h, hok, hfaithful⟩

end SwapsackHistory
