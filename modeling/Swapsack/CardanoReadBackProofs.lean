import Swapsack.Bech32RoundTripProofs
import Swapsack.CardanoMemoProofs
import Swapsack.CardanoOrderProofs
import Swapsack.CardanoProofs
import Swapsack.CborRoundTripProofs

/-! # Reading a Cardano transaction back

    The neutral reader works on the bytes: it finds the body, the witnesses and
    the auxiliary data behind one another, and believes the memo only when the
    body binds it.  What the CBOR library wrote it is taken to read back.

    * `parse_serialize` — a serialized transaction is parsed into itself;
    * `neutralView_serialize` — what it pays does not depend on its witnesses;
    * `sign_built` — so signing what was built passes the last check;
    * `parse_bound` — and no transaction with an unbound memo is parsed. -/

namespace SwapsackCardanoTx

open ListKit ByteString PyText SwapsackBase SwapsackBech32
open Cbor (Value)

/-! ## What the library reads back -/

/-- What the library wrote it reads back, wherever it stands. -/
def Codec.ReadsBack (c : Codec) (v : Value) : Prop := Reads c.decode (c.dumps v) v

/-- A tagged set is gone through in some order: nothing but its items, and each
    of them once when they are distinct. -/
structure Codec.SetOrder (c : Codec) : Prop where
  subset : ∀ items, c.asSet items ⊆ items
  perm : ∀ items, items.Nodup → (c.asSet items).Perm items

/-- The auxiliary data of a memo. -/
def auxItem : Option String → Value
  | none => .null
  | some memo => metadataForMemo memo

/-- The four items of a signed transaction are read back. -/
structure Codec.ReadsTx (c : Codec) (tx : UnsignedTx) (ws : List (Bytes × Bytes)) : Prop where
  body : c.ReadsBack (bodyItem c tx)
  witnessSet : c.ReadsBack (witnessSetItem ws)
  valid : c.ReadsBack (.bool true)
  aux : c.ReadsBack (auxItem tx.memo)

section ReadBack

variable {c : Codec}

/-- What is read back alone is read back in the middle of other bytes. -/
theorem read_of_readsBack {v : Value} (h : c.ReadsBack v) (pre post : Bytes) :
    c.read (pre ++ (c.dumps v ++ post)) pre.length = .ok (v, (pre ++ c.dumps v).length) := by
  rw [Codec.read, h pre post]

/-- The auxiliary data is one item, null without a memo. -/
theorem auxiliaryData_eq (memo : Option String) : auxiliaryData c memo = c.dumps (auxItem memo) := by
  cases memo <;> rfl

/-! ## The parts of a transaction, read back -/

/-- The memo that the body binds. -/
theorem boundMemo_bodyItem (tx : UnsignedTx) :
    boundMemo c (bodyItem c tx) (auxItem tx.memo) (auxiliaryData c tx.memo)
      = .ok (tx.memo.map encodeUtf8) := by
  obtain ⟨inputs, outputs, fee, ttl, memo⟩ := tx
  cases memo with
  | none => rfl
  | some memo =>
      have hbound : boundMemo c (bodyItem c ⟨inputs, outputs, fee, ttl, some memo⟩)
          (auxItem (some memo)) (auxiliaryData c (some memo))
          = if c.blake2b256 (encodeAux c memo) ≠ c.blake2b256 (encodeAux c memo) then
              .error (.valueError "auxiliary data does not match the body's hash")
            else memoFromMetadata (metadataForMemo memo) := rfl
      rw [hbound, if_neg (not_not.mpr rfl), memoFromMetadata_metadataForMemo]
      rfl

/-- The entries of the body. -/
theorem getItem_bodyItem (tx : UnsignedTx) :
    getItem (bodyItem c tx) 0
        = .ok (.tag setTag (.list ((tx.inputs.insertionSort inputLe).map inputItem)))
      ∧ getItem (bodyItem c tx) 1 = .ok (.list (tx.outputs.map outputItem))
      ∧ getItem (bodyItem c tx) 2 = .ok (.int tx.fee) := by
  obtain ⟨inputs, outputs, fee, ttl, memo⟩ := tx
  cases memo <;> exact ⟨rfl, rfl, rfl⟩

/-- The witnesses are under the first key, -/
theorem getItem_witnessSetItem (ws : List (Bytes × Bytes)) :
    getItem (witnessSetItem ws) 0
      = .ok (.tag setTag (.list ((ws.insertionSort witnessLe).map witnessItem))) := rfl

/-- as the items of a tagged set. -/
theorem setItems_tag (items : List Value) :
    setItems c (.tag setTag (.list items)) = .ok (c.asSet items) := rfl

/-- Every address has a text. -/
theorem addressString_isOk (raw : Bytes) : ∃ address, addressString raw = .ok address := by
  obtain ⟨values, chars, -, hencode, -⟩ := encode_shape "addr" raw bech32
  exact ⟨_, hencode⟩

/-- An output is read back with its address, -/
theorem plainOutput_outputItem {o : TxOut} {address : String}
    (h : addressString o.address = .ok address) :
    plainOutput c (outputItem o) = .ok (address, o.lovelace) := by
  have hplain : plainOutput c (outputItem o)
      = addressString o.address >>= fun address => .ok (address, o.lovelace) := rfl
  rw [hplain, h, ok_bind]

/-- The outputs are read back as their addresses' texts. -/
theorem mapM_plainOutput (outputs : List TxOut) :
    ∃ shown, (outputs.map outputItem).mapM (plainOutput c) = .ok shown
      ∧ List.Forall₂ (fun (o : TxOut) p => addressString o.address = .ok p.1 ∧ p.2 = o.lovelace)
        outputs shown := by
  induction outputs with
  | nil => exact ⟨[], rfl, .nil⟩
  | cons o outputs ih =>
      obtain ⟨shown, hshown, hall⟩ := ih
      obtain ⟨address, haddress⟩ := addressString_isOk o.address
      refine ⟨(address, o.lovelace) :: shown, ?_, .cons ⟨haddress, rfl⟩ hall⟩
      rw [List.map_cons, List.mapM_cons, plainOutput_outputItem haddress, hshown]
      rfl

/-- The items of a set are read back, and of a set of distinct ones each once. -/
theorem mapM_asSet {α β : Type} {item : α → Value} {readItem : Value → Except PyError β}
    {f : α → β} (hset : c.SetOrder) (hitem : ∀ a, readItem (item a) = .ok (f a))
    (hinj : Function.Injective item) (l : List α) :
    ∃ r, (c.asSet (l.map item)).mapM readItem = .ok r ∧ (l.Nodup → r.Perm (l.map f)) := by
  obtain ⟨r, hr⟩ : ∃ r, (c.asSet (l.map item)).mapM readItem = .ok r := by
    refine mapM_isOk_iff.mpr fun v hv => ?_
    obtain ⟨a, -, rfl⟩ := List.mem_map.mp (hset.subset _ hv)
    exact ⟨f a, hitem a⟩
  refine ⟨r, hr, ?_⟩
  intro hnodup
  exact mapM_ok_perm (hset.perm _ (hnodup.map hinj)) hr (mapM_map_ok hitem l)

/-- an input as it is, -/
theorem parsedInput_inputItem (i : TxIn) :
    parsedInput (inputItem i) = .ok (i.txid, Value.int i.index) := rfl

/-- and a witness, too. -/
theorem parsedWitness_witnessItem (w : Bytes × Bytes) :
    parsedWitness (witnessItem w) = .ok (id w) := rfl

/-- Different inputs are written differently, -/
theorem inputItem_injective : Function.Injective inputItem := by
  intro a b h
  obtain ⟨txid, index⟩ := a
  obtain ⟨txid', index'⟩ := b
  simp only [inputItem, Value.list.injEq, List.cons.injEq, Value.bytes.injEq, Value.int.injEq,
    and_true] at h
  rw [h.1, h.2]

/-- and so are different witnesses. -/
theorem witnessItem_injective : Function.Injective witnessItem := by
  intro a b h
  simp only [witnessItem, Value.list.injEq, List.cons.injEq, Value.bytes.injEq, and_true] at h
  exact Prod.ext h.1 h.2

/-! ## The transaction, read back -/

/-- The four items stand one behind the other, and the bytes of the body and of
    the auxiliary data are found again. -/
theorem reads_serialize {tx : UnsignedTx} {ws : List (Bytes × Bytes)} (hread : c.ReadsTx tx ws) :
    ∃ i j k e, c.read ((serialize c tx ws).drop 1) 0 = .ok (bodyItem c tx, i)
      ∧ c.read ((serialize c tx ws).drop 1) i = .ok (witnessSetItem ws, j)
      ∧ c.read ((serialize c tx ws).drop 1) j = .ok (.bool true, k)
      ∧ c.read ((serialize c tx ws).drop 1) k = .ok (auxItem tx.memo, e)
      ∧ slice ((serialize c tx ws).drop 1) 0 i = encodeBody c tx
      ∧ slice ((serialize c tx ws).drop 1) k (e - k) = auxiliaryData c tx.memo := by
  rw [auxiliaryData_eq]
  set B := encodeBody c tx with hB
  set W := c.dumps (witnessSetItem ws) with hW
  set V := c.dumps (.bool true) with hV
  set A := c.dumps (auxItem tx.memo) with hA
  have hraw : (serialize c tx ws).drop 1 = B ++ (W ++ (V ++ A)) := by
    rw [serialize, auxiliaryData_eq, ← hB, ← hW, ← hV, ← hA, List.append_assoc, List.append_assoc]
    rfl
  -- each item is read where the bytes before it end
  have hthree : B ++ (W ++ (V ++ A)) = (B ++ W) ++ (V ++ A) := (List.append_assoc _ _ _).symm
  have hfour : B ++ (W ++ (V ++ A)) = (B ++ W ++ V) ++ (A ++ []) := by
    rw [List.append_nil, hthree, List.append_assoc (B ++ W)]
  rw [hraw]
  refine ⟨B.length, (B ++ W).length, (B ++ W ++ V).length, (B ++ W ++ V ++ A).length,
    ?_, ?_, ?_, ?_, ?_, ?_⟩
  · exact read_of_readsBack hread.body [] (W ++ (V ++ A))
  · exact read_of_readsBack hread.witnessSet B (V ++ A)
  · rw [hthree]
    exact read_of_readsBack hread.valid (B ++ W) A
  · rw [hfour]
    exact read_of_readsBack hread.aux (B ++ W ++ V) []
  · exact slice_append [] B _
  · have hlen : (B ++ W ++ V ++ A).length - (B ++ W ++ V).length = A.length := by
      rw [List.length_append, Nat.add_sub_cancel_left]
    rw [hlen, hfour]
    exact slice_append (B ++ W ++ V) A []

/-- **A serialized transaction is parsed into itself**: its id, its outputs in
    order, its fee and its memo, and its inputs and witnesses as the sets they
    are. -/
theorem parse_serialize (hset : c.SetOrder) {tx : UnsignedTx} {ws : List (Bytes × Bytes)}
    (hread : c.ReadsTx tx ws) :
    ∃ parsed, parse c (serialize c tx ws) = .ok parsed
      ∧ parsed.txid = txid c tx
      ∧ List.Forall₂ (fun (o : TxOut) p => addressString o.address = .ok p.1 ∧ p.2 = o.lovelace)
        tx.outputs parsed.outputs
      ∧ parsed.fee = .int tx.fee
      ∧ parsed.memo = tx.memo.map encodeUtf8
      ∧ (tx.inputs.Nodup →
        parsed.inputs.Perm (tx.inputs.map fun i => (i.txid, .int i.index)))
      ∧ (ws.Nodup → parsed.witnesses.Perm ws) := by
  obtain ⟨shown, hshown, houtputs⟩ := mapM_plainOutput (c := c) tx.outputs
  obtain ⟨inputs, hinputs, hinputsPerm⟩ := mapM_asSet hset parsedInput_inputItem
    inputItem_injective (tx.inputs.insertionSort inputLe)
  obtain ⟨witnesses, hwitnesses, hwitnessesPerm⟩ := mapM_asSet hset parsedWitness_witnessItem
    witnessItem_injective (ws.insertionSort witnessLe)
  obtain ⟨hget0, hget1, hget2⟩ := getItem_bodyItem (c := c) tx
  obtain ⟨i, j, k, e, hbody, hwitnessSet, hvalid, haux, hbodyBytes, hauxBytes⟩ :=
    reads_serialize hread
  have hlist : ∀ items : List Value, iterate (.list items) = .ok items := fun _ => rfl
  refine ⟨{ txid := txid c tx, inputs, outputs := shown, fee := .int tx.fee
            memo := tx.memo.map encodeUtf8, witnesses }, ?_, rfl, houtputs, rfl, rfl, ?_, ?_⟩
  · have hfirst : ¬ (serialize c tx ws).take 1 ≠ [0x84] := not_not.mpr rfl
    rw [parse, if_neg hfirst]
    simp only [hbody, hwitnessSet, hvalid, haux, hbodyBytes, hauxBytes, boundMemo_bodyItem, hget0,
      hget1, hget2, getItem_witnessSetItem, setItems_tag, hlist, hshown, hinputs, hwitnesses,
      ok_bind]
    rfl
  · intro hnodup
    have hsorted := List.perm_insertionSort inputLe tx.inputs
    exact (hinputsPerm (hsorted.nodup_iff.mpr hnodup)).trans (hsorted.map _)
  · intro hnodup
    have hsorted := List.perm_insertionSort witnessLe ws
    have hperm := hwitnessesPerm (hsorted.nodup_iff.mpr hnodup)
    rw [List.map_id] at hperm
    exact hperm.trans hsorted

/-! ## What any accepted bytes bind -/

/-- The body and the auxiliary data that the reader finds in `raw`, and the bytes
    of the latter. -/
def Found (c : Codec) (raw : Bytes) (body aux : Value) (auxBytes : Bytes) : Prop :=
  ∃ bodyEnd witnessSet i valid auxStart auxEnd,
    c.read (raw.drop 1) 0 = .ok (body, bodyEnd)
      ∧ c.read (raw.drop 1) bodyEnd = .ok (witnessSet, i)
      ∧ c.read (raw.drop 1) i = .ok (valid, auxStart)
      ∧ c.read (raw.drop 1) auxStart = .ok (aux, auxEnd)
      ∧ auxBytes = slice (raw.drop 1) auxStart (auxEnd - auxStart)

/-- A memo is read when auxiliary data and hash agree: both are absent, or the
    hash is that of the data. -/
theorem boundMemo_ok {body aux : Value} {auxBytes : Bytes} {memo : Option Bytes}
    (h : boundMemo c body aux auxBytes = .ok memo) :
    (aux ≠ .null ↔ contains body 7 = .ok true)
      ∧ (aux ≠ .null → getItem body 7 = .ok (.bytes (c.blake2b256 auxBytes))) := by
  unfold boundMemo at h
  split at h
  · -- no auxiliary data: the body must not announce any
    obtain ⟨announced, hcontains, h⟩ := bind_eq_ok h
    split at h
    · cases h
    · rename_i hnot
      -- absent in both places
      refine ⟨⟨fun hne => absurd rfl hne, ?_⟩, fun hne => absurd rfl hne⟩
      intro htrue
      rw [hcontains] at htrue
      exact absurd (Except.ok.inj htrue) hnot
  · rename_i hpresent
    split at h
    · dsimp only at h
      split at h
      · rename_i entries _ hash hlookup
        split at h
        · cases h
        · rename_i hhash
          have hcontains : contains (.map entries) 7 = .ok true := by
            rw [contains, hlookup]
            rfl
          have hget : getItem (.map entries) 7 = .ok (.bytes hash) := by
            rw [getItem, show ((7 : ℕ) : ℤ) = 7 from rfl, hlookup]
          rw [not_not] at hhash
          exact ⟨⟨fun _ => hcontains, fun _ hnull => hpresent hnull⟩, fun _ => hhash ▸ hget⟩
      · cases h
    · cases h

/-- **What is parsed binds its memo**: auxiliary data is there exactly when the
    body carries a hash, which is that of the bytes found. -/
theorem parse_bound {raw : Bytes} {parsed : ParsedTx} (h : parse c raw = .ok parsed) :
    ∃ body aux auxBytes, Found c raw body aux auxBytes
      ∧ (aux ≠ .null ↔ contains body 7 = .ok true)
      ∧ (aux ≠ .null → getItem body 7 = .ok (.bytes (c.blake2b256 auxBytes))) := by
  rw [parse] at h
  split at h
  · cases h
  · dsimp only at h
    obtain ⟨⟨body, bodyEnd⟩, hbody, h⟩ := bind_eq_ok h
    obtain ⟨⟨witnessSet, i⟩, hwitnessSet, h⟩ := bind_eq_ok h
    obtain ⟨⟨valid, auxStart⟩, hvalid, h⟩ := bind_eq_ok h
    obtain ⟨⟨aux, auxEnd⟩, haux, h⟩ := bind_eq_ok h
    obtain ⟨memo, hmemo, -⟩ := bind_eq_ok h
    exact ⟨body, aux, _, ⟨bodyEnd, witnessSet, i, valid, auxStart, auxEnd, hbody, hwitnessSet,
      hvalid, haux, rfl⟩, boundMemo_ok hmemo⟩

end ReadBack

end SwapsackCardanoTx

namespace SwapsackCardano

open ListKit ByteString PyText SwapsackBase SwapsackCardanoTx
open Cbor (Value)

/-! ## The last check -/

/-- **What a transaction pays does not depend on its witnesses.** -/
theorem neutralView_serialize {c : Codec} (hset : c.SetOrder) {tx : UnsignedTx}
    {ws ws' : List (Bytes × Bytes)} (hread : c.ReadsTx tx ws) (hread' : c.ReadsTx tx ws') :
    neutralView c (serialize c tx ws) = neutralView c (serialize c tx ws') := by
  obtain ⟨parsed, hparsed, -, houtputs, hfee, hmemo, -, -⟩ := parse_serialize hset hread
  obtain ⟨parsed', hparsed', -, houtputs', hfee', hmemo', -, -⟩ := parse_serialize hset hread'
  have hunique : Relator.RightUnique fun (o : TxOut) (p : String × ℤ) =>
      addressString o.address = .ok p.1 ∧ p.2 = o.lovelace := by
    rintro o p p' ⟨haddress, hvalue⟩ ⟨haddress', hvalue'⟩
    exact Prod.ext (Except.ok.inj (haddress.symm.trans haddress')) (hvalue.trans hvalue'.symm)
  -- an address has one text
  have hsame : parsed.outputs = parsed'.outputs :=
    Relator.RightUnique.forall₂ hunique houtputs houtputs'
  rw [neutralView, hparsed, ok_bind, neutralView, hparsed', ok_bind, hsame, hfee, hfee', hmemo,
    hmemo']

section Sign

variable (ad : AdaAdapter) (keySign : ExtendedKey → Bytes → Except PyError Bytes)

/-- The witnesses of a build: each of its keys signs the id. -/
def signatures (built : AdaBuilt) : Except PyError (List (Bytes × Bytes)) :=
  built.keys.mapM fun key => do
    let signature ← keySign key (txid ad.codec built.tx)
    .ok (ad.publicKey key, signature)

/-- Sign a build, and read the result back: its id must be the one that was
    signed, and what it pays what the gate has seen. -/
def sign (built : AdaBuilt) : Except PyError (List String) := do
  let digest := txid ad.codec built.tx
  let witnesses ← signatures ad keySign built
  let raw := serialize ad.codec built.tx witnesses
  let parsed ← parse ad.codec raw
  let (outputs, fee) ← neutralView ad.codec raw
  if parsed.txid ≠ digest ∨ parsed.witnesses.length ≠ built.keys.length
      ∨ outputs ≠ built.outputs ∨ fee ≠ built.fee then
    .error (.runtimeError "refusing to broadcast: ADA tx failed its read-back")
  else .ok [hex raw]

variable {ad keySign}

/-- Every key signs once. -/
theorem signatures_keys {built : AdaBuilt} {ws : List (Bytes × Bytes)}
    (h : signatures ad keySign built = .ok ws) :
    ws.map Prod.fst = built.keys.map ad.publicKey := by
  refine (map_eq_of_forall₂ ((mapM_ok_forall₂ h).imp ?_)).symm
  intro key w hw
  obtain ⟨signature, -, hw⟩ := bind_eq_ok hw
  cases hw
  rfl

variable [PyUnicode] {mnemonic vaultAddress changeAddress : String} {utxos : List Utxo}
  {amount : ℤ} {memo : Option Memo} {sweep : Bool} {built : AdaBuilt}

/-- The keys of a build have different public keys. -/
theorem signingKeys_nodup {chosen : List Utxo} {keys : List ExtendedKey}
    (h : signingKeys ad mnemonic chosen = .ok keys) : (keys.map ad.publicKey).Nodup := by
  rw [signingKeys] at h
  split at h
  · cases h
  · obtain ⟨derived, -, h⟩ := bind_eq_ok h
    cases h
    have hkeys : ((keyed ad.publicKey id derived).map Prod.snd).map ad.publicKey
        = (keyed ad.publicKey id derived).map Prod.fst := by
      rw [List.map_map]
      refine List.map_congr_left fun e he => ?_
      obtain ⟨key, -, rfl⟩ := mem_keyed he
      rfl
    rw [hkeys]
    exact nodup_keys_keyed _ _ _

/-- What a build shows is what its bytes pay, read before they were signed. -/
theorem buildUnsignedSwap_view
    (h : buildUnsignedSwap ad mnemonic utxos vaultAddress amount memo changeAddress sweep
      = .ok built) :
    neutralView ad.codec (serialize ad.codec built.tx []) = .ok (built.outputs, built.fee)
      ∧ (built.keys.map ad.publicKey).Nodup := by
  obtain ⟨s, -, h⟩ := bind_eq_ok h
  obtain ⟨⟨chosen, outputs, fee⟩, -, h⟩ := bind_eq_ok h
  obtain ⟨tx, -, h⟩ := bind_eq_ok h
  obtain ⟨dummy, -, h⟩ := bind_eq_ok h
  dsimp only at h
  split at h
  · cases h
  · obtain ⟨⟨neutral, neutralFee⟩, hview, h⟩ := bind_eq_ok h
    obtain ⟨required, -, h⟩ := bind_eq_ok h
    obtain ⟨keys, hkeys, h⟩ := bind_eq_ok h
    cases h
    exact ⟨hview, signingKeys_nodup hkeys⟩

/-- **Signing a build passes the last check.** -/
theorem sign_built (hset : ad.codec.SetOrder)
    (h : buildUnsignedSwap ad mnemonic utxos vaultAddress amount memo changeAddress sweep
      = .ok built) {ws : List (Bytes × Bytes)} (hws : signatures ad keySign built = .ok ws)
    (hread : ad.codec.ReadsTx built.tx ws) (hunsigned : ad.codec.ReadsTx built.tx []) :
    sign ad keySign built = .ok [hex (serialize ad.codec built.tx ws)] := by
  obtain ⟨hview, hkeys⟩ := buildUnsignedSwap_view h
  rw [neutralView_serialize hset hunsigned hread] at hview
  obtain ⟨parsed, hparsed, htxid, -, -, -, -, hwitnesses⟩ := parse_serialize hset hread
  have hfirst := signatures_keys hws
  -- keys sign under different public keys, so the set of witnesses has one for each
  have hnodup : ws.Nodup := by
    rw [← hfirst] at hkeys
    exact hkeys.of_map
  have hcount : parsed.witnesses.length = built.keys.length := by
    rw [(hwitnesses hnodup).length_eq, ← List.length_map (f := Prod.fst), hfirst,
      List.length_map]
  have hpassed : ¬ (parsed.txid ≠ txid ad.codec built.tx
      ∨ parsed.witnesses.length ≠ built.keys.length
      ∨ built.outputs ≠ built.outputs ∨ built.fee ≠ built.fee) := by
    rintro (hid | hlen | houtputs | hfee)
    · exact hid htxid
    · exact hlen hcount
    · exact houtputs rfl
    · exact hfee rfl
  rw [sign, hws]
  simp only [ok_bind, hparsed, hview]
  rw [if_neg hpassed]

variable (ad) in
/-- **Reading back**: a serialized transaction is parsed into itself, what it pays
    does not depend on its witnesses, a signed build passes the last check, and
    accepted bytes bind their auxiliary data. -/
theorem serialize_readBack (hset : ad.codec.SetOrder) :
    (∀ tx ws, ad.codec.ReadsTx tx ws → tx.inputs.Nodup → ws.Nodup →
      ∃ parsed, parse ad.codec (serialize ad.codec tx ws) = .ok parsed
        ∧ parsed.txid = txid ad.codec tx
        ∧ List.Forall₂ (fun (o : TxOut) p => addressString o.address = .ok p.1
          ∧ p.2 = o.lovelace) tx.outputs parsed.outputs
        ∧ parsed.fee = .int tx.fee
        ∧ parsed.memo = tx.memo.map encodeUtf8
        ∧ parsed.inputs.Perm (tx.inputs.map fun i => (i.txid, .int i.index))
        ∧ parsed.witnesses.Perm ws)
      ∧ (∀ tx ws ws', ad.codec.ReadsTx tx ws → ad.codec.ReadsTx tx ws' →
        neutralView ad.codec (serialize ad.codec tx ws)
          = neutralView ad.codec (serialize ad.codec tx ws'))
      ∧ (∀ keySign mnemonic utxos vaultAddress amount memo changeAddress sweep built ws,
        buildUnsignedSwap ad mnemonic utxos vaultAddress amount memo changeAddress sweep
          = .ok built →
        signatures ad keySign built = .ok ws →
        ad.codec.ReadsTx built.tx ws → ad.codec.ReadsTx built.tx [] →
        sign ad keySign built = .ok [hex (serialize ad.codec built.tx ws)])
      ∧ (∀ raw parsed, parse ad.codec raw = .ok parsed →
        ∃ body aux auxBytes, Found ad.codec raw body aux auxBytes
          ∧ (aux ≠ .null ↔ contains body 7 = .ok true)
          ∧ (aux ≠ .null → getItem body 7 = .ok (.bytes (ad.codec.blake2b256 auxBytes)))) := by
  refine ⟨?_, ?_, ?_, ?_⟩
  · intro tx ws hread hinputs hws
    obtain ⟨parsed, hparsed, hid, houtputs, hfee, hmemo, hperm, hperm'⟩ :=
      parse_serialize hset hread
    exact ⟨parsed, hparsed, hid, houtputs, hfee, hmemo, hperm hinputs, hperm' hws⟩
  · intro tx ws ws' hread hread'
    exact neutralView_serialize hset hread hread'
  · intro keySign mnemonic utxos vaultAddress amount memo changeAddress sweep built ws h hws
      hread hunsigned
    exact sign_built hset h hws hread hunsigned
  · intro raw parsed h
    exact parse_bound h

end Sign

/-! ## A codec that reads back -/

/-- A codec that leaves sets in order puts nothing into them. -/
theorem plainCodec_setOrder : plainCodec.SetOrder where
  subset items := List.Subset.refl items
  perm items _ := List.Perm.refl items

/-- What is not too deep and not too long the witness wallet's codec reads back. -/
theorem plainCodec_readsBack {v : Value} (hdepth : v.depth ≤ 8) (hplain : v.Plain)
    (hsize : (plainCodec.dumps v).length < 2 ^ 64) : plainCodec.ReadsBack v := by
  rw [plainCodec_shortestForm] at hsize
  exact Cbor.reads_encode () v hdepth hplain hsize

/-- Items that are shallow each are so together. -/
theorem mem_shape {α : Type} {item : α → Value} (h : ∀ a, (item a).depth ≤ 3 ∧ (item a).Plain)
    (l : List α) : Cbor.depths (l.map item) ≤ 3 ∧ Cbor.PlainItems (l.map item) := by
  constructor
  · refine Cbor.depths_le fun v hv => ?_
    obtain ⟨a, -, rfl⟩ := List.mem_map.mp hv
    exact (h a).1
  · refine Cbor.plainItems_of fun v hv => ?_
    obtain ⟨a, -, rfl⟩ := List.mem_map.mp hv
    exact (h a).2

/-- The parts of a transaction are plain and not deep: -/
theorem inputItem_shape (i : TxIn) : (inputItem i).depth ≤ 3 ∧ (inputItem i).Plain :=
  ⟨Nat.le_refl 3, trivial, trivial, trivial⟩

/-- an output, -/
theorem outputItem_shape (o : TxOut) : (outputItem o).depth ≤ 3 ∧ (outputItem o).Plain :=
  ⟨Nat.le_refl 3, trivial, trivial, trivial⟩

/-- a witness, -/
theorem witnessItem_shape (w : Bytes × Bytes) :
    (witnessItem w).depth ≤ 3 ∧ (witnessItem w).Plain :=
  ⟨show 2 ≤ 3 by decide, trivial, trivial, trivial⟩

/-- a text, -/
theorem text_shape (text : String) : (Value.text text).depth ≤ 3 ∧ (Value.text text).Plain :=
  ⟨show 1 ≤ 3 by decide, trivial⟩

/-- and with them the body, -/
theorem bodyItem_shape (c : Codec) (tx : UnsignedTx) :
    (bodyItem c tx).depth ≤ 8 ∧ (bodyItem c tx).Plain := by
  obtain ⟨hinputs, hplainInputs⟩ := mem_shape inputItem_shape (tx.inputs.insertionSort inputLe)
  obtain ⟨houtputs, hplainOutputs⟩ := mem_shape outputItem_shape tx.outputs
  have htag : setTag < 2 ^ 64 ∧ setTag ≠ 2 ∧ setTag ≠ 3 := by decide
  obtain ⟨inputs, outputs, fee, ttl, memo⟩ := tx
  cases memo <;>
    simp only [bodyItem, auxHashEntry, Value.depth, Value.Plain, Cbor.entryDepths,
      Cbor.PlainEntries, List.cons_append, List.nil_append] at * <;>
    refine ⟨by omega, ?_⟩ <;> tauto

/-- the witness set -/
theorem witnessSetItem_shape (ws : List (Bytes × Bytes)) :
    (witnessSetItem ws).depth ≤ 8 ∧ (witnessSetItem ws).Plain := by
  obtain ⟨hws, hplain⟩ := mem_shape witnessItem_shape (ws.insertionSort witnessLe)
  have htag : setTag < 2 ^ 64 ∧ setTag ≠ 2 ∧ setTag ≠ 3 := by decide
  simp only [witnessSetItem, Value.depth, Value.Plain, Cbor.entryDepths, Cbor.PlainEntries]
  refine ⟨by omega, ?_⟩
  tauto

/-- and the metadata. -/
theorem auxItem_shape (memo : Option String) :
    (auxItem memo).depth ≤ 8 ∧ (auxItem memo).Plain := by
  cases memo with
  | none => exact ⟨by decide, trivial⟩
  | some memo =>
      obtain ⟨hchunks, hplain⟩ := mem_shape text_shape (memoChunks memo)
      simp only [auxItem, metadataForMemo, Value.depth, Value.Plain, Cbor.entryDepths,
        Cbor.PlainEntries]
      refine ⟨by omega, ?_⟩
      tauto

/-- **The codec of the witness wallet reads back** every transaction of fewer than
    2^64 bytes. -/
theorem plainCodec_readsTx {tx : UnsignedTx} {ws : List (Bytes × Bytes)}
    (hsize : (serialize plainCodec tx ws).length < 2 ^ 64) : plainCodec.ReadsTx tx ws := by
  rw [serialize, auxiliaryData_eq, List.length_cons, List.length_append, List.length_append,
    List.length_append] at hsize
  obtain ⟨hbody, hbodyPlain⟩ := bodyItem_shape plainCodec tx
  obtain ⟨hws, hwsPlain⟩ := witnessSetItem_shape ws
  obtain ⟨haux, hauxPlain⟩ := auxItem_shape tx.memo
  have hbytes : (encodeBody plainCodec tx).length
      = (plainCodec.dumps (bodyItem plainCodec tx)).length := rfl
  exact {
    body := plainCodec_readsBack hbody hbodyPlain (by omega)
    witnessSet := plainCodec_readsBack hws hwsPlain (by omega)
    valid := plainCodec_readsBack (by decide) trivial (by omega)
    aux := plainCodec_readsBack haux hauxPlain (by omega) }

/-! ## A signed build -/

/-- Two coins of one transaction, an output and a memo, not yet sized. -/
def pairTx : UnsignedTx where
  inputs := [{ txid := List.replicate 32 0xAA, index := 1 },
    { txid := List.replicate 32 0xAA, index := 0 }]
  outputs := [{ address := List.replicate 29 0x61, lovelace := 1000000 }]
  fee := 170000
  ttl := 200007200
  memo := some "=:BTC.BTC"

/-- Witnesses out of order. -/
def pairWitnesses : List (Bytes × Bytes) :=
  [(List.replicate 32 2, List.replicate 64 0), (List.replicate 32 1, List.replicate 64 0)]

/-- A signer whose signatures are all zeros. -/
def zeroSign (_ : ExtendedKey) (_ : Bytes) : Except PyError Bytes := .ok (List.replicate 64 0)

/-- Five ADA swapped with a memo are built and signed. -/
theorem signedBuild_exists :
    let _ : PyUnicode := asciiUnicode
    ∃ built, buildUnsignedSwap (oneCoinAdapter 56691) "" [fiveAda 0] mayaVault 300000000
        (some (.text "=:BTC.BTC")) ownAddress false = .ok built
      ∧ (signatures (oneCoinAdapter 56691) zeroSign built >>= fun ws =>
          .ok (decide ((serialize plainCodec built.tx ws).length < 2 ^ 64),
            decide ((serialize plainCodec built.tx []).length < 2 ^ 64))) = .ok (true, true) := by
  intro _
  exact bind_eq_ok (by decide +kernel)

/-- A transaction read back, and the build of a swap signed. -/
theorem serialize_readBack_pair :
    let _ : PyUnicode := asciiUnicode
    (∃ parsed, parse plainCodec (serialize plainCodec pairTx pairWitnesses) = .ok parsed
        ∧ parsed.memo = some (encodeUtf8 "=:BTC.BTC"))
      ∧ neutralView plainCodec (serialize plainCodec pairTx pairWitnesses)
        = neutralView plainCodec (serialize plainCodec pairTx [])
      ∧ (∃ built ws,
        sign (oneCoinAdapter 56691) zeroSign built = .ok [hex (serialize plainCodec built.tx ws)])
      ∧ ∃ body aux auxBytes, Found plainCodec (serialize plainCodec pairTx []) body aux auxBytes
        ∧ (aux ≠ .null → getItem body 7 = .ok (.bytes (plainCodec.blake2b256 auxBytes))) := by
  intro _
  obtain ⟨hparse, hview, hsign, hbound⟩ :=
    serialize_readBack (oneCoinAdapter 56691) plainCodec_setOrder
  have hsigned : (oneCoinAdapter 56691).codec.ReadsTx pairTx pairWitnesses :=
    plainCodec_readsTx (by decide +kernel)
  have hunsigned : (oneCoinAdapter 56691).codec.ReadsTx pairTx [] :=
    plainCodec_readsTx (by decide +kernel)
  obtain ⟨parsed, hparsed, -, -, -, hmemo, -, -⟩ :=
    hparse pairTx pairWitnesses hsigned (by decide +kernel) (by decide +kernel)
  obtain ⟨unsigned, hparsedUnsigned, -⟩ :=
    hparse pairTx [] hunsigned (by decide +kernel) List.nodup_nil
  obtain ⟨built, hbuilt, hsizes⟩ := signedBuild_exists
  obtain ⟨ws, hws, hsizes⟩ := bind_eq_ok hsizes
  have hsmall : decide ((serialize plainCodec built.tx ws).length < 2 ^ 64) = true
      ∧ decide ((serialize plainCodec built.tx []).length < 2 ^ 64) = true :=
    Prod.mk.inj (Except.ok.inj hsizes)
  refine ⟨⟨parsed, hparsed, hmemo⟩, hview _ _ _ hsigned hunsigned, ⟨built, ws, ?_⟩, ?_⟩
  · exact hsign _ _ _ _ _ _ _ _ _ _ hbuilt hws
      (plainCodec_readsTx (of_decide_eq_true hsmall.1))
      (plainCodec_readsTx (of_decide_eq_true hsmall.2))
  · obtain ⟨body, aux, auxBytes, hfound, -, hhash⟩ := hbound _ _ hparsedUnsigned
    exact ⟨body, aux, auxBytes, hfound, hhash⟩

end SwapsackCardano
