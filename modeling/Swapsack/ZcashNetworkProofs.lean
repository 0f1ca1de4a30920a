import Swapsack.CoinSetProofs
import Swapsack.GatedProofs
import Swapsack.ZcashAddressProofs
import Swapsack.ZcashSighashProofs
import Swapsack.Zip317Proofs

/-! # What a server of the Zcash wallet can cost it

    Coins, heights and branch ids come from a server that may say anything.  What the
    wallet signs goes to a network that anybody may send to, at any time and in any form;
    there a P2PKH coin is spent by a signature under the key its script names, over a
    digest that commits to the transaction and to that coin.

    The assumptions speak of what was in fact hashed and checked: no collision among what
    was hashed, and no signature under the wallet's keys but over what it signed.

    * `sighash_alike` — equal digests, also of different branches, are of one transaction;
    * `carries_order` — a transfer that takes from the wallet carries out one of its
      orders, and takes what that order showed;
    * `orders_bound_loss` — so over any run of the network the wallet loses at most the
      amounts it ordered and the fees it was shown. -/

namespace SwapsackZcashNetwork

open CoinSet ListKit ByteString PyText SwapsackBase SwapsackZcashTx SwapsackZcashSighash
open SwapsackCoins (memoBytes)
open SwapsackZcash SwapsackGated SwapsackZcashAddress

/-- Where a coin was created: the transaction, and which of its outputs. -/
abbrev Place := Bytes × ℤ

/-! ## The network -/

/-- What everybody computes alike. -/
structure Primitives where
  verify : Bytes → Bytes → Bytes → Bool
  blake2b256 : Blake2b
  hash160 : Bytes → Bytes

/-- What was hashed by anybody, and the signatures that were checked: a public key, a
    signature and a digest.  Of the digests of other transaction formats and hash types
    nothing is known but that they are not of this one. -/
structure Traffic where
  hashed : Bytes → Bytes → Prop
  checked : Bytes → Bytes → Bytes → Prop
  otherDigest : Bytes → Prop

section Network

variable (prim : Primitives) (traffic : Traffic)

/-- The digest that a signature for the coin at `k` is over: that of a v4 transaction
    which makes this transfer, or of something else. -/
inductive DigestOf (t : Transfer Place TxOut) (k : Place) (o : TxOut) (digest : Bytes) : Prop
  | v4 {tx : TxV4} {i : ℕ} {inp : TxIn} {branchId : ℤ} (hwide : TxidsWide tx)
      (hspends : tx.inputs.map outpoint = t.spends) (hcreates : tx.outputs = t.creates.map Prod.snd)
      (hinp : tx.inputs[i]? = some inp) (hplace : outpoint inp = k)
      (hhashed : ∀ person data,
        Hashes prim.blake2b256 tx i o.script o.value branchId person data →
          traffic.hashed person data)
      (hdigest : sighashZip243 prim.blake2b256 tx i o.script o.value branchId = .ok digest)
  | other (h : traffic.otherDigest digest)

/-- What the network lets through: each P2PKH coin is spent by a signature under the key
    its script names, and outputs are worth something. -/
structure Allowed (c : Coins Place TxOut) (t : Transfer Place TxOut) : Prop where
  signed : ∀ k ∈ t.spends, ∀ o, c.find k = some o → ∀ hash, p2pkhHash160 o.script = some hash →
    ∃ pub der digest, prim.hash160 pub = hash ∧ prim.verify pub der digest = true
      ∧ traffic.checked pub der digest ∧ DigestOf prim traffic t k o digest
  values : ∀ coin ∈ t.creates, 0 ≤ coin.2.value

end Network

/-! ## Equal digests -/

theorem packLE_injective {w : ℕ} {n m : ℤ} {bs : Bytes} (hn : packLE w n = .ok bs)
    (hm : packLE w m = .ok bs) : n = m := by
  obtain ⟨a, rfl, ha, rfl⟩ := packLE_ok hn
  obtain ⟨b, rfl, hb, hbytes⟩ := packLE_ok hm
  rw [← leNat_leBytes ha, hbytes, leNat_leBytes hb]

/-- **Equal digests are of one transaction and one spent output**, whatever branches they
    were computed for. -/
theorem sighash_alike {blake2b256 : Blake2b} {hashed : Bytes → Bytes → Prop}
    (hlength : ∀ person data, (blake2b256 person data).length = 32)
    (hfree : ∀ person data person' data', hashed person data → hashed person' data' →
      blake2b256 person data = blake2b256 person' data' → person = person' ∧ data = data')
    {tx tx' : TxV4} {index index' : ℤ} {code code' : Bytes} {value value' branchId branchId' : ℤ}
    {digest : Bytes} (hwide : TxidsWide tx) (hwide' : TxidsWide tx')
    (hcalls : ∀ person data, Hashes blake2b256 tx index code value branchId person data →
      hashed person data)
    (hcalls' : ∀ person data, Hashes blake2b256 tx' index' code' value' branchId' person data →
      hashed person data)
    (h : sighashZip243 blake2b256 tx index code value branchId = .ok digest)
    (h' : sighashZip243 blake2b256 tx' index' code' value' branchId' = .ok digest) :
    SignedAlike tx tx' index index' code code' value value' := by
  -- the branch is in the personalization of the last hash
  have hbranch : branchId = branchId' := by
    obtain ⟨data, hdata, hlast⟩ := bind_eq_ok h
    obtain ⟨branch, hpack, hlast⟩ := bind_eq_ok hlast
    obtain ⟨data', hdata', hlast'⟩ := bind_eq_ok h'
    obtain ⟨branch', hpack', hlast'⟩ := bind_eq_ok hlast'
    obtain ⟨hperson, -⟩ := hfree _ _ _ _ (hcalls _ _ (.preimage branch hpack rfl hdata))
      (hcalls' _ _ (.preimage branch' hpack' rfl hdata'))
      (Except.ok.inj (hlast.trans hlast'.symm))
    have hsame : branch = branch' := List.append_cancel_left hperson
    exact packLE_injective hpack (hsame ▸ hpack')
  subst hbranch
  refine sighashZip243_injective hlength hwide hwide' ?_ h h'
  intro person data data' hd hd' heq
  have hof : ∀ {d}, (Hashes blake2b256 tx index code value branchId person d
      ∨ Hashes blake2b256 tx' index' code' value' branchId person d) → hashed person d := by
    rintro d (hd | hd)
    · exact hcalls _ _ hd
    · exact hcalls' _ _ hd
  exact (hfree _ _ _ _ (hof hd) (hof hd') heq).2

/-! ## The wallet and its orders -/

/-- The keys of the wallet, and the libraries it signs with. -/
structure Wallet (κ : Type) where
  base58 : Base58
  deriveKey : String → String → Except PyError Bytes
  publicByte : Bytes → Bytes
  ec : Coincurve κ

def changePath : String := "m/44'/133'/0'/1/0"

/-- The address of a compressed public key, under a prefix of any length. -/
def p2pkhAddress (base58 : Base58) (prim : Primitives) (pubkey pre : Bytes) : String :=
  base58.encodeCheck (pre ++ prim.hash160 pubkey)

section Wallet

variable {κ : Type} (w : Wallet κ) (prim : Primitives) (mnemonic : String)

/-- `derive_p2pkh_address` under the prefix of a t1 address. -/
def Wallet.deriveAddress (path : String) : Except PyError String := do
  let key ← w.deriveKey mnemonic path
  .ok (p2pkhAddress w.base58 prim (w.publicByte key) prefixT1)

/-- The adapter, on what a server says of the chain. -/
def Wallet.adapter (latestHeight branchId : Except PyError ℤ) : ZecAdapter :=
  { base58 := w.base58, latestHeight, branchId, deriveKey := w.deriveKey }

/-- A script that one of the wallet's keys can spend from. -/
def Wallet.Mine (script : Bytes) : Prop :=
  ∃ path key, w.deriveKey mnemonic path = .ok key
    ∧ script = p2pkhScript (prim.hash160 (w.publicByte key))

/-- What was built and may be signed, for an amount and under a limit on the fee. -/
structure Order where
  built : ZecBuilt
  amount : ℤ
  maxFee : ℤ

/-- The coins an order spends. -/
def Order.names (s : Order) : List Place := s.built.tx.inputs.map outpoint

/-- What an order costs, as it is shown before it is confirmed. -/
def Order.cost (s : Order) : ℤ := s.amount + s.built.fee

/-- What any of the three wrappers returned. -/
inductive Wrapped [PyUnicode] {β : Type} (g : GatedTxBuilder β) (utxos : List Utxo)
    (changeAddress : String) (amount maxFee : ℤ) (prepared : Prepared β) : Prop
  | swap {quote : Quote} {request : SwapRequest} {now : ℤ} {feeRate : ℚ} {sweep : Bool}
      (hamount : request.amount = amount)
      (h : buildAndVerify g quote request now mnemonic utxos feeRate changeAddress maxFee sweep
        = .ok prepared)
  | deposit {vault : String} {memo : Memo} {now : ℤ} {feeRate : ℚ} {sweep : Bool}
      (h : buildAndVerifyDeposit g vault memo amount now mnemonic utxos feeRate changeAddress
        maxFee sweep = .ok prepared)
  | send {recipient : String} {feeRate : ℚ} {sweep : Bool}
      (h : buildAndVerifySend g recipient amount mnemonic utxos feeRate changeAddress maxFee sweep
        = .ok prepared)

/-- An order that passed its gate and was signed: the coins, the height and the branch are
    whatever the wallet was told. -/
def Wallet.Orders [PyUnicode] (s : Order) : Prop :=
  ∃ latestHeight branchId utxos changeAddress prepared signed,
    w.deriveAddress prim mnemonic changePath = .ok changeAddress ∧ TxidsWellFormed utxos
    ∧ Wrapped mnemonic (zecBuilder (w.adapter latestHeight branchId)) utxos changeAddress
        s.amount s.maxFee prepared
    ∧ prepared.problems = [] ∧ prepared.built = s.built
    ∧ signTransparent w.ec prim.blake2b256 s.built.tx s.built.spent s.built.privkeys
        s.built.branchId = .ok signed

end Wallet

/-! ## What an order is made of -/

section Wrapped

variable [PyUnicode] {β : Type} {g : GatedTxBuilder β} {mnemonic changeAddress : String}
  {utxos : List Utxo} {amount maxFee : ℤ} {prepared : Prepared β}

/-- A wrapper returns what the hook built. -/
theorem Wrapped.hook (h : Wrapped mnemonic g utxos changeAddress amount maxFee prepared) :
    ∃ vault memo feeRate sweep,
      g.buildUnsignedSwap mnemonic utxos vault amount memo feeRate changeAddress sweep
        = .ok prepared.built := by
  cases h with
  | swap hamount h =>
      subst hamount
      obtain ⟨built, hbuilt, h⟩ := bind_eq_ok h
      obtain ⟨inbound, -, h⟩ := bind_eq_ok h
      cases h
      exact ⟨_, _, _, _, hbuilt⟩
  | deposit h =>
      obtain ⟨built, hbuilt, h⟩ := bind_eq_ok h
      obtain ⟨inbound, -, h⟩ := bind_eq_ok h
      cases h
      exact ⟨_, _, _, _, hbuilt⟩
  | send h =>
      obtain ⟨built, hbuilt, h⟩ := bind_eq_ok h
      obtain ⟨recipient, -, h⟩ := bind_eq_ok h
      cases h
      exact ⟨_, _, _, _, hbuilt⟩

/-- No gate lets a fee above the limit pass. -/
theorem Wrapped.fee_le (h : Wrapped mnemonic g utxos changeAddress amount maxFee prepared)
    (hsafe : prepared.problems = []) : g.fee prepared.built ≤ maxFee := by
  cases h with
  | swap hamount h =>
      obtain ⟨built, hbuilt, h⟩ := bind_eq_ok h
      obtain ⟨inbound, -, h⟩ := bind_eq_ok h
      cases h
      exact (SwapsackVerify.verifyBtcSwap_eq_nil.mp hsafe).2.2.2.2.2.2
  | deposit h =>
      obtain ⟨built, hbuilt, h⟩ := bind_eq_ok h
      obtain ⟨inbound, -, h⟩ := bind_eq_ok h
      cases h
      exact (SwapsackVerify.verifyBtcSwap_eq_nil.mp hsafe).2.2.2.2.2.2
  | send h =>
      obtain ⟨built, hbuilt, h⟩ := bind_eq_ok h
      obtain ⟨recipient, -, h⟩ := bind_eq_ok h
      cases h
      exact (SwapsackVerify.verifyBtcSend_eq_nil.mp hsafe).2.2.2.2

end Wrapped

/-- What the proofs need of an order: the coins it names, their claimed values, and what
    comes back. -/
structure Shown (mine : Bytes → Prop) (s : Order) : Prop where
  wide : TxidsWide s.built.tx
  aligned : s.built.tx.inputs.length = s.built.spent.length
  claimed : ∀ p ∈ s.built.spent, 0 ≤ p.2
  cost_nonneg : 0 ≤ s.cost
  returned : ∃ paid returned, s.built.tx.outputs = paid ++ returned
    ∧ (∀ o ∈ returned, mine o.script)
    ∧ (s.built.spent.map Prod.snd).sum = s.cost + (returned.map TxOut.value).sum

/-- A digest commits to a value that is packed. -/
theorem sighash_value {blake2b256 : Blake2b} {tx : TxV4} {index value branchId : ℤ}
    {code digest : Bytes} (h : sighashZip243 blake2b256 tx index code value branchId = .ok digest) :
    0 ≤ value := by
  obtain ⟨data, hdata, -⟩ := bind_eq_ok h
  obtain ⟨_, -, hdata⟩ := bind_eq_ok hdata
  obtain ⟨_, -, hdata⟩ := bind_eq_ok hdata
  obtain ⟨_, -, hdata⟩ := bind_eq_ok hdata
  obtain ⟨_, -, hdata⟩ := bind_eq_ok hdata
  obtain ⟨_, -, hdata⟩ := bind_eq_ok hdata
  obtain ⟨_, -, hdata⟩ := bind_eq_ok hdata
  obtain ⟨_, -, hdata⟩ := bind_eq_ok hdata
  obtain ⟨_, -, hdata⟩ := bind_eq_ok hdata
  obtain ⟨bytes, hvalue, -⟩ := bind_eq_ok hdata
  obtain ⟨n, rfl, -, -⟩ := packLE_ok hvalue
  exact Int.natCast_nonneg n

/-- The outputs of a serialized transaction have values that are packed. -/
theorem serialized_values {tx : TxV4} {raw : Bytes} (h : serializeV4 tx = .ok raw) :
    ∀ o ∈ tx.outputs, 0 ≤ o.value := by
  obtain ⟨_, -, h⟩ := bind_eq_ok h
  obtain ⟨_, -, h⟩ := bind_eq_ok h
  obtain ⟨_, -, h⟩ := bind_eq_ok h
  obtain ⟨bss, hbss, -⟩ := bind_eq_ok h
  intro o ho
  obtain ⟨i, hi⟩ := List.mem_iff_getElem?.mp ho
  obtain ⟨bs, -, hbs⟩ := forall₂_getElem? (mapM_ok_forall₂ hbss) hi
  obtain ⟨value, hvalue, -⟩ := bind_eq_ok hbs
  obtain ⟨n, hn, -, -⟩ := packLE_ok hvalue
  omega

section Shown

variable [PyUnicode] {κ : Type} {w : Wallet κ} {prim : Primitives} {mnemonic : String} {s : Order}

omit [PyUnicode] in
/-- What is signed is aligned, and its claimed values are packed. -/
theorem signed_claims {signed : TxV4} {built : ZecBuilt}
    (h : signTransparent w.ec prim.blake2b256 built.tx built.spent built.privkeys built.branchId
      = .ok signed) :
    built.tx.inputs.length = built.spent.length ∧ ∀ p ∈ built.spent, 0 ≤ p.2 := by
  have herase := signTransparent_eraseSigs h
  have haligned : built.tx.inputs.length = built.spent.length := by
    rw [signTransparent] at h
    split at h
    · rename_i halign
      exact halign.1
    · cases h
  refine ⟨haligned, fun p hp => ?_⟩
  obtain ⟨i, hi⟩ := List.mem_iff_getElem?.mp hp
  have hcount : signed.inputs.length = built.spent.length := by
    have hlengths := congrArg (fun tx : TxV4 => tx.inputs.length) herase
    simp only [eraseSigs, List.length_map] at hlengths
    rw [hlengths, haligned]
  have hlt : i < signed.inputs.length := by
    rw [hcount]
    exact (List.getElem?_eq_some_iff.mp hi).1
  obtain ⟨code, value, priv, key, digest, hspent, -, -, hdigest, -, -⟩ :=
    signTransparent_digests h (List.getElem?_eq_getElem hlt)
  rw [hi] at hspent
  cases hspent
  exact sighash_value hdigest

/-- The address of a key is read as its script. -/
theorem deriveAddress_mine (hb58 : Base58Check w.base58)
    (hhash : ∀ data, (prim.hash160 data).length = 20) {path address : String}
    (h : w.deriveAddress prim mnemonic path = .ok address) :
    ∃ script, addressToScript w.base58 address = .ok script ∧ w.Mine prim mnemonic script := by
  obtain ⟨key, hkey, h⟩ := bind_eq_ok h
  cases h
  exact ⟨_, (encoded_t1 hb58 (hhash _)).1, path, key, hkey, rfl⟩

/-- **What an order is made of.** -/
theorem Wallet.Orders.shown (hb58 : Base58Check w.base58)
    (hhash : ∀ data, (prim.hash160 data).length = 20) (h : w.Orders prim mnemonic s) :
    Shown (w.Mine prim mnemonic) s ∧ s.built.fee ≤ s.maxFee := by
  obtain ⟨latestHeight, branchId, utxos, changeAddress, prepared, signed, hchangeAddress, htxids,
    hwrapped, hsafe, hbuilt, hsigned⟩ := h
  have hfee := hwrapped.fee_le hsafe
  obtain ⟨vault, memo, feeRate, sweep, hhook⟩ := hwrapped.hook
  rw [hbuilt] at hfee hhook
  obtain ⟨chosen, change, payment, memoOuts, changeOuts, raw, parsed, hchosen, hpayment, hmemo,
    hchange, hinputs, houts, hspent, hraw, -, -⟩ := buildUnsignedSwap_steps hhook
  obtain ⟨hbalance, hpos, hfeePos⟩ :=
    SwapsackUtxo.chooseInputs_spec selectCoinsZip317_balance hchosen
  have hamount : 0 ≤ s.amount := by
    obtain ⟨script, -, hpayment⟩ := bind_eq_ok hpayment
    cases hpayment
    exact serialized_values hraw { value := s.amount, script } (by simp [houts])
  obtain ⟨haligned, hclaimed⟩ := signed_claims hsigned
  obtain ⟨script, hscript, hmine⟩ := deriveAddress_mine hb58 hhash hchangeAddress
  -- change, where there is any, goes to a script of the wallet
  have hreturned : (∀ o ∈ changeOuts, w.Mine prim mnemonic o.script)
      ∧ (changeOuts.map TxOut.value).sum = change := by
    rw [changeOutputs] at hchange
    split at hchange
    · obtain ⟨o, ho, hchange⟩ := bind_eq_ok hchange
      obtain ⟨script', hscript', ho⟩ := bind_eq_ok ho
      cases ho
      cases hchange
      have hsame : script = script' := Except.ok.inj (hscript.symm.trans hscript')
      refine ⟨fun o ho => ?_, by simp⟩
      rw [List.mem_singleton.mp ho, ← hsame]
      exact hmine
    · cases hchange
      exact ⟨fun o ho => absurd ho List.not_mem_nil, by simp; omega⟩
  refine ⟨⟨buildInputs_txid (fun u hu => htxids u (chooseInputs_mem hchosen u hu)) hinputs,
    haligned, hclaimed, ?_, payment :: memoOuts, changeOuts, houts, hreturned.1, ?_⟩, hfee⟩
  · rw [Order.cost]
    omega
  rw [spentOutputs_value hspent, hbalance, hreturned.2, Order.cost]
  omega

end Shown

/-! ## What a transfer can take -/

open Classical in
/-- What a coin is worth to whoever owns the scripts in `mine`. -/
noncomputable def holding (mine : Bytes → Prop) (o : TxOut) : ℤ :=
  if mine o.script then o.value else 0

theorem holding_mine {mine : Bytes → Prop} {o : TxOut} (h : mine o.script) :
    holding mine o = o.value := if_pos h

theorem holding_other {mine : Bytes → Prop} {o : TxOut} (h : ¬ mine o.script) :
    holding mine o = 0 := if_neg h

theorem holding_nonneg {mine : Bytes → Prop} {o : TxOut} (h : 0 ≤ o.value) :
    0 ≤ holding mine o := by
  by_cases hmine : mine o.script
  · rw [holding_mine hmine]
    exact h
  · rw [holding_other hmine]

/-- A digest that the wallet signed: of an order, for one of the coins it was told of. -/
def SignedDigest (prim : Primitives) (orders : List Order) (digest : Bytes) : Prop :=
  ∃ s ∈ orders, ∃ (i : ℕ) (code : Bytes) (value : ℤ), s.built.spent[i]? = some (code, value)
    ∧ sighashZip243 prim.blake2b256 s.built.tx i code value s.built.branchId = .ok digest

/-- Nothing was broken in what was hashed and checked. -/
structure Unbroken {κ : Type} (w : Wallet κ) (prim : Primitives) (traffic : Traffic)
    (mnemonic : String) (orders : List Order) : Prop where
  hashed : ∀ s ∈ orders, ∀ (i : ℕ) (code : Bytes) (value : ℤ), s.built.spent[i]? = some (code, value) →
    ∀ person data, Hashes prim.blake2b256 s.built.tx i code value s.built.branchId person data →
      traffic.hashed person data
  free : ∀ person data person' data', traffic.hashed person data → traffic.hashed person' data' →
    prim.blake2b256 person data = prim.blake2b256 person' data' → person = person' ∧ data = data'
  unforged : ∀ path key, w.deriveKey mnemonic path = .ok key → ∀ pub der digest,
    traffic.checked pub der digest → prim.hash160 pub = prim.hash160 (w.publicByte key) →
      SignedDigest prim orders digest
  apart : ∀ digest, traffic.otherDigest digest → ¬ SignedDigest prim orders digest

/-- No transaction was signed twice under different claims about its coins. -/
def ClaimedOnce (orders : List Order) : Prop :=
  ∀ s ∈ orders, ∀ s' ∈ orders, s.names = s'.names → s.built.tx.outputs = s'.built.tx.outputs →
    s.built.spent = s'.built.spent

section Take

variable {κ : Type} {w : Wallet κ} {prim : Primitives} {traffic : Traffic} {mnemonic : String}
  {orders : List Order} {c : Coins Place TxOut} {t : Transfer Place TxOut}

/-- **A coin of the wallet is spent by one of its orders**, which was told its value. -/
theorem spent_by_order (hlength : ∀ person data, (prim.blake2b256 person data).length = 32)
    (hhash : ∀ data, (prim.hash160 data).length = 20)
    (hbroken : Unbroken w prim traffic mnemonic orders)
    (hshown : ∀ s ∈ orders, Shown (w.Mine prim mnemonic) s)
    (hallowed : Allowed prim traffic c t) {k : Place} {o : TxOut} (hk : k ∈ t.spends)
    (hfind : c.find k = some o) (hmine : w.Mine prim mnemonic o.script) :
    ∃ s ∈ orders, s.names = t.spends ∧ s.built.tx.outputs = t.creates.map Prod.snd
      ∧ ∃ (i : ℕ) (code : Bytes), t.spends[i]? = some k
        ∧ s.built.spent[i]? = some (code, o.value) := by
  obtain ⟨path, key, hkey, hscript⟩ := hmine
  have hp2pkh : p2pkhHash160 o.script = some (prim.hash160 (w.publicByte key)) := by
    rw [hscript]
    exact p2pkhHash160_p2pkhScript (hhash _)
  obtain ⟨pub, der, digest, hpub, -, hchecked, hdigestOf⟩ := hallowed.signed k hk o hfind _ hp2pkh
  have hsigned := hbroken.unforged path key hkey pub der digest hchecked hpub
  cases hdigestOf with
  | other h => exact absurd hsigned (hbroken.apart digest h)
  | @v4 tx j inp branchId hwide hspends hcreates hinp hplace hhashed hdigest =>
      obtain ⟨s, hs, i, code, value, hspent, hdigest'⟩ := hsigned
      -- one digest for both, so the transfer is the order's transaction and the coin its claim
      have halike := sighash_alike hlength hbroken.free hwide (hshown s hs).wide hhashed
        (hbroken.hashed s hs i code value hspent) hdigest hdigest'
      obtain ⟨inp', inp'', hitem, hitem', hsame, -⟩ := halike.input
      have hj : inp' = inp := by
        rw [itemAt, if_pos (Int.natCast_nonneg j), Int.toNat_natCast, hinp] at hitem
        exact (Option.some.inj hitem).symm
      have hi : s.built.tx.inputs[i]? = some inp'' := by
        rw [itemAt, if_pos (Int.natCast_nonneg i), Int.toNat_natCast] at hitem'
        exact hitem'
      have hnames : s.names = t.spends := by
        rw [Order.names, ← halike.prevouts, hspends]
      refine ⟨s, hs, hnames, by rw [← halike.outputs, hcreates], i, code, ?_, ?_⟩
      · rw [← hnames, Order.names, List.getElem?_map, hi, Option.map_some, ← hsame, hj, hplace]
      · rw [hspent, halike.value]

/-- The claims of an order that is carried out cover what its coins are worth. -/
theorem claims_cover (hlength : ∀ person data, (prim.blake2b256 person data).length = 32)
    (hhash : ∀ data, (prim.hash160 data).length = 20)
    (hbroken : Unbroken w prim traffic mnemonic orders)
    (hshown : ∀ s ∈ orders, Shown (w.Mine prim mnemonic) s) (honce : ClaimedOnce orders)
    (htakes : c.Takes t) (hallowed : Allowed prim traffic c t) {s : Order} (hs : s ∈ orders)
    (hnames : s.names = t.spends) (houtputs : s.built.tx.outputs = t.creates.map Prod.snd) :
    (t.spends.map fun k => ((c.find k).map (holding (w.Mine prim mnemonic))).getD 0).sum
      ≤ (s.built.spent.map Prod.snd).sum := by
  refine List.Forall₂.sum_le_sum (List.forall₂_of_length_eq_of_get ?_ fun j hj hj' => ?_)
  · rw [List.length_map, List.length_map, ← (hshown s hs).aligned, ← hnames, Order.names,
      List.length_map]
  · rw [List.length_map] at hj hj'
    rw [List.get_eq_getElem, List.get_eq_getElem, List.getElem_map, List.getElem_map]
    have hplace : t.spends[j] ∈ t.spends := List.getElem_mem hj
    have hclaimed := (hshown s hs).claimed _ (List.getElem_mem hj')
    obtain ⟨o, hfind⟩ := Coins.find_isSome (htakes.there _ hplace)
    rw [hfind, Option.map_some, Option.getD_some]
    by_cases hmine : w.Mine prim mnemonic o.script
    · -- the coin's own signature is an order's, and that order claims what this one does
      obtain ⟨s', hs', hnames', houtputs', i, code, hi, hvalue⟩ :=
        spent_by_order hlength hhash hbroken hshown hallowed hplace hfind hmine
      have hsame := honce s' hs' s hs (hnames'.trans hnames.symm) (houtputs'.trans houtputs.symm)
      have hij : i = j := by
        obtain ⟨hlt, heq⟩ := List.getElem?_eq_some_iff.mp hi
        exact (List.Nodup.getElem_inj_iff htakes.once).mp heq
      subst hij
      rw [hsame, List.getElem?_eq_getElem hj'] at hvalue
      rw [holding_mine hmine, Option.some.inj hvalue]
    · rw [holding_other hmine]
      exact hclaimed

/-- What an order's outputs bring back is worth at least what it shows as returned. -/
theorem returned_le {mine : Bytes → Prop} {creates : List (Place × TxOut)}
    {paid returned : List TxOut} (hvalues : ∀ coin ∈ creates, 0 ≤ coin.2.value)
    (houtputs : paid ++ returned = creates.map Prod.snd) (hmine : ∀ o ∈ returned, mine o.script) :
    (returned.map TxOut.value).sum ≤ worth (holding mine) creates := by
  have hnonneg : ∀ o ∈ creates.map Prod.snd, 0 ≤ o.value := by
    intro o ho
    obtain ⟨coin, hcoin, rfl⟩ := List.mem_map.mp ho
    exact hvalues coin hcoin
  have hworth : worth (holding mine) creates
      = ((creates.map Prod.snd).map (holding mine)).sum := by
    rw [worth, List.map_map]
    rfl
  have hreturned : returned.map (holding mine) = returned.map TxOut.value :=
    List.map_congr_left fun o ho => holding_mine (hmine o ho)
  have hpaid : 0 ≤ (paid.map (holding mine)).sum := by
    refine List.sum_nonneg fun x hx => ?_
    obtain ⟨o, ho, rfl⟩ := List.mem_map.mp hx
    exact holding_nonneg (hnonneg o (houtputs ▸ List.mem_append_left _ ho))
  rw [hworth, ← houtputs, List.map_append, List.sum_append, hreturned]
  omega

/-- **A transfer that takes from the wallet carries out an order**, and takes no more than
    that order showed. -/
theorem carries_order (hlength : ∀ person data, (prim.blake2b256 person data).length = 32)
    (hhash : ∀ data, (prim.hash160 data).length = 20)
    (hbroken : Unbroken w prim traffic mnemonic orders)
    (hshown : ∀ s ∈ orders, Shown (w.Mine prim mnemonic) s) (honce : ClaimedOnce orders)
    (htakes : c.Takes t) (hallowed : Allowed prim traffic c t) :
    Carries (holding (w.Mine prim mnemonic)) orders Order.names Order.cost c t := by
  have hspent := worth_spent (w := holding (w.Mine prim mnemonic)) htakes
  have hcreated : 0 ≤ worth (holding (w.Mine prim mnemonic)) t.creates := by
    refine List.sum_nonneg fun x hx => ?_
    obtain ⟨coin, hcoin, rfl⟩ := List.mem_map.mp hx
    exact holding_nonneg (hallowed.values coin hcoin)
  by_cases htouched : ∃ k ∈ t.spends, ∃ o, c.find k = some o ∧ w.Mine prim mnemonic o.script
  · right
    obtain ⟨k, hk, o, hfind, hmine⟩ := htouched
    obtain ⟨s, hs, hnames, houtputs, -⟩ :=
      spent_by_order hlength hhash hbroken hshown hallowed hk hfind hmine
    obtain ⟨paid, returned, hsplit, hreturned, hbalance⟩ := (hshown s hs).returned
    refine ⟨s, hs, hnames, fun hnil => ?_, ?_⟩
    · rw [← hnames, hnil] at hk
      exact absurd hk List.not_mem_nil
    have hclaims := claims_cover hlength hhash hbroken hshown honce htakes hallowed hs hnames
      houtputs
    have hback : (returned.map TxOut.value).sum
        ≤ worth (holding (w.Mine prim mnemonic)) t.creates :=
      returned_le hallowed.values (hsplit.symm.trans houtputs) hreturned
    omega
  -- a transfer that spends no coin of the wallet takes nothing from it
  · left
    have hnothing : (t.spends.map fun k =>
        ((c.find k).map (holding (w.Mine prim mnemonic))).getD 0).sum = 0 := by
      refine List.sum_eq_zero fun x hx => ?_
      obtain ⟨k, hk, rfl⟩ := List.mem_map.mp hx
      obtain ⟨o, hfind⟩ := Coins.find_isSome (htakes.there k hk)
      rw [hfind, Option.map_some, Option.getD_some]
      exact holding_other fun hmine => htouched ⟨k, hk, o, hfind, hmine⟩
    omega

end Take

/-- **Whatever a server says, the wallet loses at most what it was shown.**  Over any run of
    the network — anybody's transfers, in any order, with any of the wallet's signatures
    used, withheld or put into other transactions — what its scripts hold is at least what
    they held, less the amounts it ordered and the fees it was shown; and no such fee is
    above the limit it was gated under. -/
theorem orders_bound_loss [PyUnicode] {κ : Type} (w : Wallet κ) (prim : Primitives)
    (traffic : Traffic) (mnemonic : String) (orders : List Order) (c c' : Coins Place TxOut)
    (hb58 : Base58Check w.base58)
    (hlength : ∀ person data, (prim.blake2b256 person data).length = 32)
    (hhash : ∀ data, (prim.hash160 data).length = 20)
    (horders : ∀ s ∈ orders, w.Orders prim mnemonic s)
    (honce : ClaimedOnce orders) (hbroken : Unbroken w prim traffic mnemonic orders)
    (hrun : Run (Allowed prim traffic) c c') :
    worth (holding (w.Mine prim mnemonic)) c.unspent
        ≤ worth (holding (w.Mine prim mnemonic)) c'.unspent + (orders.map Order.cost).sum
      ∧ ∀ s ∈ orders, s.built.fee ≤ s.maxFee := by
  have hshown : ∀ s ∈ orders, Shown (w.Mine prim mnemonic) s ∧ s.built.fee ≤ s.maxFee :=
    fun s hs => (horders s hs).shown hb58 hhash
  have hcarries : ∀ c t, c.Takes t → Allowed prim traffic c t →
      Carries (holding (w.Mine prim mnemonic)) orders Order.names Order.cost c t := by
    intro c t htakes hallowed
    exact carries_order hlength hhash hbroken (fun s hs => (hshown s hs).1) honce htakes hallowed
  exact ⟨run_losses hcarries (fun s hs => (hshown s hs).1.cost_nonneg) hrun,
    fun s hs => (hshown s hs).2⟩

/-! ## One sweep -/

/-- The checksums of the two addresses of the sweep. -/
def paySum (payload : Bytes) : Bytes :=
  if payload = SwapsackZip317.payPayload then [0xBB, 0x28, 0x07, 0x49]
  else if payload = vaultPayload then [0x69, 0x11, 0xD5, 0xF8]
  else [0, 0, 0, 0]

theorem paySum_length (payload : Bytes) : (paySum payload).length = 4 := by
  rw [paySum]
  split
  · rfl
  · split <;> rfl

def payWallet : Wallet Bytes where
  base58 := base58check paySum
  deriveKey _ _ := .ok (List.replicate 32 0x01)
  publicByte _ := payPub
  ec := payCurve

def payPrim : Primitives where
  verify := payCurve.verify
  blake2b256 := payBlake
  hash160 data := if data = payPub then slice payCode 3 20 else List.replicate 20 0

def payPlace : Place :=
  ([0x3b, 0xa3, 0xed, 0xfd, 0x7a, 0x7b, 0x12, 0xb2, 0x7a, 0xc7, 0x2c, 0x3e, 0x67, 0x76, 0x8f, 0x61,
    0x7f, 0xc8, 0x1b, 0xc3, 0x88, 0x8a, 0x51, 0x32, 0x3a, 0x9f, 0xb8, 0xaa, 0x4b, 0x1e, 0x5e, 0x4a], 0)

/-- The id of the signed sweep. -/
def payTxid : Bytes :=
  [0x1a, 0xc2, 0x6e, 0x2d, 0xa7, 0xf1, 0x6d, 0x59, 0xa7, 0xc9, 0x8f, 0x60, 0x42, 0x8b, 0x0e, 0xb9,
   0x5d, 0x74, 0x50, 0x21, 0xdb, 0xbb, 0x19, 0x25, 0xb2, 0x2c, 0x15, 0x51, 0x0f, 0x82, 0x49, 0x7a]

/-- The one coin of the wallet, and the transfer that the sweep is. -/
def payLedger : Coins Place TxOut where
  unspent := [(payPlace, { value := 100000, script := payCode })]
  born := [payPlace]
  once := List.nodup_singleton _
  known := fun _ h => h

def payTransfer : Transfer Place TxOut where
  spends := [payPlace]
  creates := paySigned.outputs.zipIdx.map fun o => ((payTxid, (o.2 : ℤ)), o.1)

theorem payTakes : payLedger.Takes payTransfer := by decide +kernel

def payTraffic : Traffic where
  hashed := Hashes payBlake payUnsigned 0 payCode 100000 0xC8E71055
  checked pub der digest := payCurve.verify pub der digest = true
  otherDigest _ := False

/-- The personalizations of the sweep, and what BLAKE2b gives under each. -/
def payCalls : List (Bytes × Bytes) :=
  [prevoutPerson, sequencePerson, outputsPerson, sighashPerson ++ [0x55, 0x10, 0xE7, 0xC8]].map
    fun person => (person, payBlake person [])

theorem mem_payCalls {person data : Bytes} (h : payTraffic.hashed person data) :
    (person, payBlake person data) ∈ payCalls := by
  cases h with
  | prevouts hperson _ =>
      subst hperson
      exact List.mem_of_getElem? (i := 0) rfl
  | sequences hperson _ =>
      subst hperson
      exact List.mem_of_getElem? (i := 1) rfl
  | outs hperson _ =>
      subst hperson
      exact List.mem_of_getElem? (i := 2) rfl
  | preimage branch hbranch hperson _ =>
      have hpacked : packLE 4 0xC8E71055 = .ok [0x55, 0x10, 0xE7, 0xC8] := by decide +kernel
      have hsame : branch = [0x55, 0x10, 0xE7, 0xC8] := Except.ok.inj (hbranch.symm.trans hpacked)
      subst hperson hsame
      exact List.mem_of_getElem? (i := 3) rfl

/-- No two calls of the one digest collide. -/
theorem payTraffic_free {person data person' data' : Bytes} (h : payTraffic.hashed person data)
    (h' : payTraffic.hashed person' data') (heq : payBlake person data = payBlake person' data') :
    person = person' ∧ data = data' := by
  have hapart : ∀ x ∈ payCalls, ∀ y ∈ payCalls, x.2 = y.2 → x.1 = y.1 := by decide +kernel
  have hperson : person = person' := hapart _ (mem_payCalls h) _ (mem_payCalls h') heq
  subst hperson
  exact ⟨rfl, h.functional h'⟩

theorem payAllowed : Allowed payPrim payTraffic payLedger payTransfer := by
  have hfind : payLedger.find payPlace = some { value := 100000, script := payCode } := by
    decide +kernel
  have hdigest : sighashZip243 payBlake paySigned 0 payCode 100000 0xC8E71055 = .ok payDigest := by
    decide +kernel
  constructor
  · intro k hk o ho hash hhash
    obtain rfl : k = payPlace := List.mem_singleton.mp hk
    obtain rfl : o = { value := 100000, script := payCode } := by
      rw [hfind] at ho
      exact (Option.some.inj ho).symm
    have hcode : p2pkhHash160 payCode = some (slice payCode 3 20) := by decide +kernel
    obtain rfl : slice payCode 3 20 = hash := Option.some.inj (hcode.symm.trans hhash)
    have hpub : payPrim.hash160 payPub = slice payCode 3 20 := by decide +kernel
    have hverify : payCurve.verify payPub paySig payDigest = true := by decide +kernel
    have hwide : TxidsWide paySigned := forall_mem_of_all (by decide)
    have hspends : paySigned.inputs.map outpoint = payTransfer.spends := by decide +kernel
    have hcreates : paySigned.outputs = payTransfer.creates.map Prod.snd := by decide +kernel
    have hhashed : ∀ person data, Hashes payBlake paySigned 0 payCode 100000 0xC8E71055 person data →
        payTraffic.hashed person data := fun person data h =>
      Hashes.of_eraseSigs (show eraseSigs payUnsigned = eraseSigs paySigned from rfl) h
    exact ⟨payPub, paySig, payDigest, hpub, hverify, hverify,
      .v4 (i := 0) hwide hspends hcreates rfl rfl hhashed hdigest⟩
  · exact forall_mem_of_all (by decide +kernel)

/-- What the wallet holds before and after the sweep, whose amount and fee it ordered. -/
theorem orders_bound_loss_sweep :
    let _ : PyUnicode := asciiUnicode
    ∃ s : Order, payWallet.Orders payPrim "" s ∧ s.cost = 100000
      ∧ worth (holding (payWallet.Mine payPrim "")) payLedger.unspent
        ≤ worth (holding (payWallet.Mine payPrim "")) (payLedger.after payTransfer payTakes).unspent
          + ([s].map Order.cost).sum := by
  intro _
  have hchange : payWallet.deriveAddress payPrim "" changePath = .ok SwapsackZip317.payT1 := by
    decide +kernel
  let sweep := buildAndVerifyDeposit (zecBuilder (payWallet.adapter (.ok 2500000) (.ok 0xC8E71055)))
    vaultTex (.text payMemo) 85000 0 "" SwapsackZip317.payCoins 0 SwapsackZip317.payT1 20000 true
  obtain ⟨prepared, hprepared⟩ : ∃ prepared, sweep = .ok prepared :=
    exists_of_isOk (by decide +kernel)
  have hread : ∀ {α : Type} {f : Prepared ZecBuilt → α} {a : α}, sweep.map f = .ok a →
      f prepared = a := by
    intro α f a h
    rw [hprepared] at h
    exact Except.ok.inj h
  have hsafe : prepared.problems.isEmpty = true := hread (f := fun p => p.problems.isEmpty) (by decide +kernel)
  have htx : prepared.built.tx = payUnsigned := hread (f := fun p => p.built.tx) (by decide +kernel)
  have hspent : prepared.built.spent = [(payCode, 100000)] := hread (f := fun p => p.built.spent) (by decide +kernel)
  have hprivkeys : prepared.built.privkeys = [List.replicate 32 0x01] := hread (f := fun p => p.built.privkeys) (by decide +kernel)
  have hbranch : prepared.built.branchId = 0xC8E71055 := hread (f := fun p => p.built.branchId) (by decide +kernel)
  have hfee : prepared.built.fee = 15000 := hread (f := fun p => p.built.fee) (by decide +kernel)
  let s : Order := { built := prepared.built, amount := 85000, maxFee := 20000 }
  have hsigned : signTransparent payCurve payBlake payUnsigned [(payCode, 100000)]
      [List.replicate 32 0x01] 0xC8E71055 = .ok paySigned := by decide +kernel
  have hordered : payWallet.Orders payPrim "" s := by
    refine ⟨.ok 2500000, .ok 0xC8E71055, SwapsackZip317.payCoins, SwapsackZip317.payT1, prepared,
      paySigned, hchange, SwapsackZip317.payCoins_wellFormed, .deposit hprepared, List.isEmpty_iff.mp hsafe, rfl, ?_⟩
    show signTransparent payCurve payBlake prepared.built.tx prepared.built.spent
      prepared.built.privkeys prepared.built.branchId = _
    rw [htx, hspent, hprivkeys, hbranch, hsigned]
  have hdigest : sighashZip243 payBlake prepared.built.tx 0 payCode 100000 prepared.built.branchId
      = .ok payDigest := by
    rw [htx, hbranch]
    decide +kernel
  have hbroken : Unbroken payWallet payPrim payTraffic "" [s] := by
    constructor
    · intro s' hs' i code value hi person data h
      obtain rfl : s' = s := List.mem_singleton.mp hs'
      change prepared.built.spent[i]? = some (code, value) at hi
      change Hashes payBlake prepared.built.tx i code value prepared.built.branchId person data at h
      rw [hspent] at hi
      rw [htx, hbranch] at h
      cases i with
      | zero =>
          cases hi
          exact h
      | succ i => cases hi
    · exact fun person data person' data' h h' heq => payTraffic_free h h' heq
    · intro path key hkey pub der digest hchecked hpub
      have hthis : pub = payPub ∧ der = paySig ∧ digest = payDigest := of_decide_eq_true hchecked
      rw [hthis.2.2]
      exact ⟨s, List.mem_singleton_self s, 0, payCode, 100000, by
        show prepared.built.spent[0]? = _
        rw [hspent]
        rfl, hdigest⟩
    · exact fun digest h => absurd h id
  have hlength : ∀ person data, (payPrim.blake2b256 person data).length = 32 := by
    intro person data
    show (payBlake person data).length = 32
    unfold payBlake
    split_ifs <;> rfl
  have hhash : ∀ data, (payPrim.hash160 data).length = 20 := by
    intro data
    show (if data = payPub then slice payCode 3 20 else List.replicate 20 0).length = 20
    split <;> rfl
  have honce : ClaimedOnce [s] := by
    intro a ha b hb _ _
    rw [List.mem_singleton.mp ha, List.mem_singleton.mp hb]
  have hcost : s.cost = 100000 := by
    show (85000 : ℤ) + prepared.built.fee = 100000
    rw [hfee]
    rfl
  refine ⟨s, hordered, hcost, ?_⟩
  exact (orders_bound_loss payWallet payPrim payTraffic "" [s] payLedger
    (payLedger.after payTransfer payTakes) (base58check_law paySum_length) hlength hhash
    (fun a ha => List.mem_singleton.mp ha ▸ hordered) honce hbroken
    (.single ⟨payTransfer, payTakes, payAllowed, rfl⟩)).1

end SwapsackZcashNetwork
