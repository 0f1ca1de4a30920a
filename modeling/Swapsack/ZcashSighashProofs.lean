import Swapsack.ZcashTxProofs

/-! # What a Zcash signature commits to

    The ZIP-243 digest hashes the outpoints, the sequences and the outputs of a
    v4 transaction, and then a preimage built over the three digests.  BLAKE2b
    and the elliptic-curve library are parameters.

    * `sighashZip243_injective` — without a BLAKE2b collision among the data of
      two computations, equal digests were taken of the same transaction, up to
      its script signatures, and of the same spent output;
    * `sighashZip243_eraseSigs` — the script signatures are not hashed;
    * `signTransparent_digests` — so each digest that was signed is the digest
      of the transaction that comes back. -/

namespace SwapsackZcashSighash

open ListKit ByteString SwapsackBase SwapsackZcashTx

/-- The one type of signature that is made. -/
def sighashAll : ℕ := 1

/-- BLAKE2b-256 under a personalization. -/
abbrev Blake2b := Bytes → Bytes → Bytes

/-- The personalisations of the hashes, by what they hash. -/
def prevoutPerson : Bytes := encodeUtf8 "ZcashPrevoutHash"
def sequencePerson : Bytes := encodeUtf8 "ZcashSequencHash"
def outputsPerson : Bytes := encodeUtf8 "ZcashOutputsHash"
def sighashPerson : Bytes := encodeUtf8 "ZcashSigHash"

/-! ## The digest -/

section Digest

/-- The coin an input spends, as it is hashed. -/
def serializePrevout (i : TxIn) : Except PyError Bytes := do
  let vout ← packLE 4 i.vout
  .ok (i.prevTxid ++ vout)

/-- All the coins that are spent, in order. -/
def prevouts (tx : TxV4) : Except PyError Bytes := do
  let parts ← tx.inputs.mapM serializePrevout
  .ok parts.flatten

/-- All the sequence numbers, in order. -/
def sequences (tx : TxV4) : Except PyError Bytes := do
  let parts ← tx.inputs.mapM fun i => packLE 4 i.sequence
  .ok parts.flatten

/-- All the outputs, in order. -/
def outs (tx : TxV4) : Except PyError Bytes := do
  let parts ← tx.outputs.mapM serializeOut
  .ok parts.flatten

/-- The input at an index, counted from the end when it is negative. -/
def inputAt (tx : TxV4) (index : ℤ) : Except PyError TxIn :=
  match itemAt tx.inputs index with
  | none => .error .indexError
  | some inp => .ok inp

variable (blake2b256 : Blake2b)

/-- What is hashed last: the three digests, the empty shielded sections, and
    the output being spent by the input at `index`. -/
def preimage (tx : TxV4) (index : ℤ) (scriptCode : Bytes) (value : ℤ) :
    Except PyError Bytes := do
  let hashPrevouts ← prevouts tx
  let hashSequences ← sequences tx
  let hashOuts ← outs tx
  let zero32 : Bytes := List.replicate 32 0x00
  let inp ← inputAt tx index
  let lockTime ← packLE 4 tx.lockTime
  let expiryHeight ← packLE 4 tx.expiryHeight
  let vout ← packLE 4 inp.vout
  let codeLen ← varint scriptCode.length
  let spentValue ← packLE 8 value
  let sequence ← packLE 4 inp.sequence
  .ok (leBytes 4 v4Header ++ leBytes 4 v4VersionGroup
    ++ blake2b256 prevoutPerson hashPrevouts
    ++ blake2b256 sequencePerson hashSequences
    ++ blake2b256 outputsPerson hashOuts
    -- no joinsplits, no shielded spends, no shielded outputs
    ++ zero32 ++ zero32 ++ zero32
    ++ lockTime ++ expiryHeight ++ leBytes 8 0 ++ leBytes 4 sighashAll
    ++ inp.prevTxid ++ vout ++ codeLen ++ scriptCode ++ spentValue ++ sequence)

/-- The SIGHASH_ALL digest of the input at `index`.  `scriptCode` and `value`
    are the output it spends. -/
def sighashZip243 (tx : TxV4) (index : ℤ) (scriptCode : Bytes) (value : ℤ)
    (branchId : ℤ) : Except PyError Bytes := do
  let data ← preimage blake2b256 tx index scriptCode value
  let branch ← packLE 4 branchId
  .ok (blake2b256 (sighashPerson ++ branch) data)

end Digest

/-! ## Signing -/

/-- The elliptic-curve library: a private key is 32 bytes it accepts. -/
structure Coincurve (κ : Type) where
  privateKey : Bytes → Except PyError κ
  sign : κ → Bytes → Bytes
  publicKey : κ → Bytes
  verify : Bytes → Bytes → Bytes → Bool

section Sign

variable {κ : Type} (ec : Coincurve κ) (blake2b256 : Blake2b)

/-- `bytes([len(data)]) + data`. -/
def pushData (data : Bytes) : Except PyError Bytes :=
  if data.length < 256 then .ok (UInt8.ofNat data.length :: data)
  else .error (.valueError "bytes must be in range(0, 256)")

/-- `<sig> <pubkey>`, the script signature of a P2PKH input. -/
def p2pkhScriptSig (sig pub : Bytes) : Except PyError Bytes := do
  let pushedSig ← pushData sig
  let pushedPub ← pushData pub
  .ok (pushedSig ++ pushedPub)

/-- One turn of the signing loop.  A signature that does not verify is never
    put into an input. -/
def signInput (tx : TxV4) (branchId : ℤ) (index : ℕ) (inp : TxIn)
    (spent : Bytes × ℤ) (priv : Bytes) : Except PyError TxIn :=
  match p2pkhHash160 spent.1 with
  | none => .error (.zcashTxError s!"input {index} spends a non-P2PKH output")
  | some _ => do
      let digest ← sighashZip243 blake2b256 tx index spent.1 spent.2 branchId
      let key ← ec.privateKey priv
      let der := ec.sign key digest
      let pub := ec.publicKey key
      if ec.verify pub der digest = false then
        .error (.zcashTxError s!"self-check failed: input {index} signature invalid")
      else do
        let scriptSig ← p2pkhScriptSig (der ++ [UInt8.ofNat sighashAll]) pub
        .ok { inp with scriptSig }

/-- Sign every input with its own coin and key; the three lists go together. -/
def signTransparent (tx : TxV4) (spent : List (Bytes × ℤ)) (privkeys : List Bytes)
    (branchId : ℤ) : Except PyError TxV4 :=
  if tx.inputs.length = spent.length ∧ spent.length = privkeys.length then do
    let signed ← (tx.inputs.zip (spent.zip privkeys)).zipIdx.mapM fun item =>
      signInput ec blake2b256 tx branchId item.2 item.1.1 item.1.2.1 item.1.2.2
    .ok { tx with inputs := signed }
  else .error (.zcashTxError "inputs, spent outputs and keys must align 1:1")

end Sign

/-! ## The hashed data, read back

    Each concatenation is uniquely decodable: the outpoints and the sequences
    have a fixed width, an output carries the length of its script. -/

section Decode

/-- An integer of `w` bytes. -/
def readInt (w : ℕ) : Reader PyError ℤ :=
  (readLE w).bind fun n => Reader.pure (n : ℤ)

/-- The coin an input spends. -/
def outpoint (i : TxIn) : Bytes × ℤ := (i.prevTxid, i.vout)

/-- The reader of one coin. -/
def readPrevout : Reader PyError (Bytes × ℤ) :=
  (readSlice 32).bind fun prevTxid =>
  (readInt 4).bind fun vout =>
  Reader.pure (prevTxid, vout)

/-- A packed number is read back. -/
theorem reads_int {w : ℕ} {n : ℤ} {bs : Bytes} (h : packLE w n = .ok bs) :
    Reads (readInt w) bs n := by
  obtain ⟨m, rfl, hreads⟩ := reads_packLE h
  exact hreads.map fun n : ℕ => (n : ℤ)

/-- It has its width. -/
theorem packLE_length {w : ℕ} {n : ℤ} {bs : Bytes} (h : packLE w n = .ok bs) :
    bs.length = w := by
  obtain ⟨m, -, -, rfl⟩ := packLE_ok h
  exact leBytes_length w m

/-- So it is not empty. -/
theorem packLE_ne_nil {w : ℕ} {n : ℤ} {bs : Bytes} (hw : 0 < w)
    (h : packLE w n = .ok bs) : bs ≠ [] := by
  rintro rfl
  have hlen : 0 = w := packLE_length h
  omega

/-- A coin is read back. -/
theorem reads_serializePrevout {i : TxIn} {bs : Bytes} (htxid : i.prevTxid.length = 32)
    (h : serializePrevout i = .ok bs) : Reads readPrevout bs (outpoint i) ∧ bs ≠ [] := by
  obtain ⟨vout, hvout, h⟩ := bind_eq_ok h
  cases h
  constructor
  · have readsTxid : Reads (readSlice 32 : Reader PyError Bytes) i.prevTxid i.prevTxid :=
      htxid ▸ reads_slice i.prevTxid
    have hbs : i.prevTxid ++ vout = i.prevTxid ++ (vout ++ []) := by
      rw [List.append_nil]
    rw [hbs]
    exact readsTxid.bind ((reads_int hvout).bind (reads_pure (outpoint i)))
  · intro hnil
    exact packLE_ne_nil (by decide) hvout (List.append_eq_nil_iff.mp hnil).2

/-- No output is empty. -/
theorem serializeOut_ne_nil {o : TxOut} {bs : Bytes} (h : serializeOut o = .ok bs) :
    bs ≠ [] := by
  obtain ⟨value, hvalue, h⟩ := bind_eq_ok h
  obtain ⟨slen, -, h⟩ := bind_eq_ok h
  cases h
  intro hnil
  rw [List.append_assoc] at hnil
  exact packLE_ne_nil (by decide) hvalue (List.append_eq_nil_iff.mp hnil).1

/-- The outpoints of a transaction are 32-byte ids. -/
def TxidsWide (tx : TxV4) : Prop := ∀ i ∈ tx.inputs, i.prevTxid.length = 32

/-- Equal outpoint data comes from equal outpoints. -/
theorem prevouts_injective {tx tx' : TxV4} {data : Bytes} (hwide : TxidsWide tx)
    (hwide' : TxidsWide tx') (h : prevouts tx = .ok data) (h' : prevouts tx' = .ok data) :
    tx.inputs.map outpoint = tx'.inputs.map outpoint := by
  have hreads : ∀ {tx : TxV4} {parts : List Bytes}, TxidsWide tx →
      tx.inputs.mapM serializePrevout = .ok parts →
      List.Forall₂ (fun p bs => Reads readPrevout bs p ∧ bs ≠ [])
        (tx.inputs.map outpoint) parts := by
    intro tx parts hwide hparts
    rw [List.forall₂_map_left_iff]
    exact (mapM_ok_forall₂_mem hparts).imp fun i bs hi =>
      reads_serializePrevout (hwide i hi.1) hi.2
  obtain ⟨parts, hparts, h⟩ := bind_eq_ok h
  obtain ⟨parts', hparts', h'⟩ := bind_eq_ok h'
  cases h
  exact reads_flatten_injective (hreads hwide hparts) (hreads hwide' hparts')
    (Except.ok.inj h').symm

/-- The bytes of the sequence numbers name them all. -/
theorem sequences_injective {tx tx' : TxV4} {data : Bytes}
    (h : sequences tx = .ok data) (h' : sequences tx' = .ok data) :
    tx.inputs.map TxIn.sequence = tx'.inputs.map TxIn.sequence := by
  have hreads : ∀ {tx : TxV4} {parts : List Bytes},
      (tx.inputs.mapM fun i => packLE 4 i.sequence) = .ok parts →
      List.Forall₂ (fun n bs => Reads (readInt 4) bs n ∧ bs ≠ [])
        (tx.inputs.map TxIn.sequence) parts := by
    intro tx parts hparts
    rw [List.forall₂_map_left_iff]
    exact (mapM_ok_forall₂ hparts).imp fun i bs hi =>
      ⟨reads_int hi, packLE_ne_nil (by decide) hi⟩
  obtain ⟨parts, hparts, h⟩ := bind_eq_ok h
  obtain ⟨parts', hparts', h'⟩ := bind_eq_ok h'
  cases h
  exact reads_flatten_injective (hreads hparts) (hreads hparts') (Except.ok.inj h').symm

/-- The bytes of the outputs name them all. -/
theorem outs_injective {tx tx' : TxV4} {data : Bytes} (h : outs tx = .ok data)
    (h' : outs tx' = .ok data) : tx.outputs = tx'.outputs := by
  have hreads : ∀ {os : List TxOut} {parts : List Bytes},
      os.mapM serializeOut = .ok parts →
      List.Forall₂ (fun o bs => Reads readOut bs o ∧ bs ≠ []) os parts :=
    fun hparts => (mapM_ok_forall₂ hparts).imp fun o bs ho =>
      ⟨reads_serializeOut ho, serializeOut_ne_nil ho⟩
  obtain ⟨parts, hparts, h⟩ := bind_eq_ok h
  obtain ⟨parts', hparts', h'⟩ := bind_eq_ok h'
  cases h
  exact reads_flatten_injective (hreads hparts) (hreads hparts') (Except.ok.inj h').symm

/-- The fields of a preimage that depend on what is signed. -/
structure SighashFields where
  hashPrevouts : Bytes
  hashSequences : Bytes
  hashOuts : Bytes
  lockTime : ℤ
  expiryHeight : ℤ
  prevTxid : Bytes
  vout : ℤ
  scriptCode : Bytes
  value : ℤ
  sequence : ℤ

/-- The reader of a preimage: the fields that are kept, and those that are skipped. -/
def readPreimage : Reader PyError SighashFields :=
  (readSlice 8).bind fun _ =>
  (readSlice 32).bind fun hashPrevouts =>
  (readSlice 32).bind fun hashSequences =>
  (readSlice 32).bind fun hashOuts =>
  (readSlice 96).bind fun _ =>
  (readInt 4).bind fun lockTime =>
  (readInt 4).bind fun expiryHeight =>
  (readSlice 12).bind fun _ =>
  (readSlice 32).bind fun prevTxid =>
  (readInt 4).bind fun vout =>
  readVarint.bind fun codeLen =>
  (readSlice codeLen).bind fun scriptCode =>
  (readInt 8).bind fun value =>
  (readInt 4).bind fun sequence =>
  Reader.pure { hashPrevouts, hashSequences, hashOuts, lockTime, expiryHeight
                prevTxid, vout, scriptCode, value, sequence }

theorem reads_slice_of_length {n : ℕ} {bs : Bytes} (h : bs.length = n) :
    Reads (readSlice n : Reader PyError Bytes) bs bs := h ▸ reads_slice bs

/-- An input that is found is the one at the index. -/
theorem inputAt_ok {tx : TxV4} {index : ℤ} {inp : TxIn} (h : inputAt tx index = .ok inp) :
    itemAt tx.inputs index = some inp := by
  rw [inputAt] at h
  cases hitem : itemAt tx.inputs index with
  | none => rw [hitem] at h; cases h
  | some i => rw [hitem] at h; cases h; rfl

/-- **A preimage is read back**: what it was built from, field by field. -/
theorem reads_preimage {blake2b256 : Blake2b}
    (hdigest : ∀ person data, (blake2b256 person data).length = 32)
    {tx : TxV4} {index value : ℤ} {scriptCode bs : Bytes} (hwide : TxidsWide tx)
    (h : preimage blake2b256 tx index scriptCode value = .ok bs) :
    ∃ hashPrevouts hashSequences hashOuts inp,
      prevouts tx = .ok hashPrevouts ∧ sequences tx = .ok hashSequences
      ∧ outs tx = .ok hashOuts ∧ itemAt tx.inputs index = some inp
      ∧ Reads readPreimage bs
          { hashPrevouts := blake2b256 prevoutPerson hashPrevouts
            hashSequences := blake2b256 sequencePerson hashSequences
            hashOuts := blake2b256 outputsPerson hashOuts
            lockTime := tx.lockTime, expiryHeight := tx.expiryHeight
            prevTxid := inp.prevTxid, vout := inp.vout, scriptCode, value
            sequence := inp.sequence } := by
  obtain ⟨hashPrevouts, hprevouts, h⟩ := bind_eq_ok h
  obtain ⟨hashSequences, hsequences, h⟩ := bind_eq_ok h
  obtain ⟨hashOuts, houts, h⟩ := bind_eq_ok h
  obtain ⟨inp, hinp, h⟩ := bind_eq_ok h
  obtain ⟨lockTime, hlock, h⟩ := bind_eq_ok h
  obtain ⟨expiryHeight, hexpiry, h⟩ := bind_eq_ok h
  obtain ⟨vout, hvout, h⟩ := bind_eq_ok h
  obtain ⟨codeLen, hcode, h⟩ := bind_eq_ok h
  obtain ⟨spentValue, hvalue, h⟩ := bind_eq_ok h
  obtain ⟨sequence, hsequence, h⟩ := bind_eq_ok h
  have hitem := inputAt_ok hinp
  refine ⟨hashPrevouts, hashSequences, hashOuts, inp, hprevouts, hsequences, houts,
    hitem, ?_⟩
  have hbs : bs = (leBytes 4 v4Header ++ leBytes 4 v4VersionGroup)
      ++ (blake2b256 prevoutPerson hashPrevouts
      ++ (blake2b256 sequencePerson hashSequences
      ++ (blake2b256 outputsPerson hashOuts
      ++ ((List.replicate 32 0x00 ++ (List.replicate 32 0x00 ++ List.replicate 32 0x00))
      ++ (lockTime ++ (expiryHeight ++ ((leBytes 8 0 ++ leBytes 4 sighashAll)
      ++ (inp.prevTxid ++ (vout ++ (codeLen ++ (scriptCode ++ (spentValue
      ++ (sequence ++ []))))))))))))) := by
    cases h
    simp only [List.append_assoc, List.append_nil]
  rw [hbs]
  refine Reads.bind (reads_slice_of_length rfl) ?_
  refine Reads.bind (reads_slice_of_length (hdigest _ _)) ?_
  refine Reads.bind (reads_slice_of_length (hdigest _ _)) ?_
  refine Reads.bind (reads_slice_of_length (hdigest _ _)) ?_
  refine Reads.bind (reads_slice_of_length rfl) ?_
  refine Reads.bind (reads_int hlock) (Reads.bind (reads_int hexpiry) ?_)
  refine Reads.bind (reads_slice_of_length rfl) ?_
  refine Reads.bind (reads_slice_of_length (hwide inp (itemAt_mem hitem))) ?_
  refine Reads.bind (reads_int hvout) (Reads.bind (reads_varint hcode) ?_)
  refine Reads.bind (reads_slice scriptCode) ?_
  exact (reads_int hvalue).bind ((reads_int hsequence).bind (reads_pure _))

end Decode

/-! ## What a digest determines -/

section Injective

variable (blake2b256 : Blake2b) (tx tx' : TxV4) (index index' : ℤ)
  (scriptCode scriptCode' : Bytes) (value value' : ℤ) (branchId : ℤ)

/-- The BLAKE2b calls of a sighash: a personalization and the data under it. -/
inductive Hashes (person data : Bytes) : Prop
  | prevouts (hperson : person = prevoutPerson) (h : prevouts tx = .ok data)
  | sequences (hperson : person = sequencePerson) (h : sequences tx = .ok data)
  | outs (hperson : person = outputsPerson) (h : outs tx = .ok data)
  | preimage (branch : Bytes) (hbranch : packLE 4 branchId = .ok branch)
      (hperson : person = sighashPerson ++ branch)
      (h : preimage blake2b256 tx index scriptCode value = .ok data)

/-- Under each personalization the function is injective on the data given. -/
def CollisionFree (hashed : Bytes → Bytes → Prop) : Prop :=
  ∀ person data data', hashed person data → hashed person data' →
    blake2b256 person data = blake2b256 person data' → data = data'

/-- Two computations of a digest that signed the same thing: transactions alike
    up to their script signatures, and the same spent output at the input. -/
structure SignedAlike : Prop where
  prevouts : tx.inputs.map outpoint = tx'.inputs.map outpoint
  sequences : tx.inputs.map TxIn.sequence = tx'.inputs.map TxIn.sequence
  outputs : tx.outputs = tx'.outputs
  lockTime : tx.lockTime = tx'.lockTime
  expiryHeight : tx.expiryHeight = tx'.expiryHeight
  input : ∃ inp inp', itemAt tx.inputs index = some inp
    ∧ itemAt tx'.inputs index' = some inp'
    ∧ outpoint inp = outpoint inp' ∧ inp.sequence = inp'.sequence
  scriptCode : scriptCode = scriptCode'
  value : value = value'

variable {blake2b256 tx tx' index index' scriptCode scriptCode' value value' branchId}

/-- **Equal digests sign the same transaction**, when no two data of the two
    computations collide. -/
theorem sighashZip243_injective
    (hdigest : ∀ person data, (blake2b256 person data).length = 32)
    (hwide : TxidsWide tx) (hwide' : TxidsWide tx')
    (hfree : CollisionFree blake2b256 fun person data =>
      Hashes blake2b256 tx index scriptCode value branchId person data
        ∨ Hashes blake2b256 tx' index' scriptCode' value' branchId person data)
    {digest : Bytes}
    (h : sighashZip243 blake2b256 tx index scriptCode value branchId = .ok digest)
    (h' : sighashZip243 blake2b256 tx' index' scriptCode' value' branchId = .ok digest) :
    SignedAlike tx tx' index index' scriptCode scriptCode' value value' := by
  obtain ⟨data, hdata, h⟩ := bind_eq_ok h
  obtain ⟨branch, hbranch, h⟩ := bind_eq_ok h
  obtain ⟨data', hdata', h'⟩ := bind_eq_ok h'
  obtain ⟨branch', hbranch', h'⟩ := bind_eq_ok h'
  have hbranches : branch' = branch := Except.ok.inj (hbranch'.symm.trans hbranch)
  rw [hbranches] at h'
  -- the outer hash: the two preimages are one
  have hdatas : data = data' := hfree _ _ _
    (Or.inl (.preimage branch hbranch rfl hdata))
    (Or.inr (.preimage branch hbranch rfl hdata'))
    (Except.ok.inj (h.trans h'.symm))
  obtain ⟨p, s, o, inp, hp, hs, ho, hinp, hreads⟩ := reads_preimage hdigest hwide hdata
  obtain ⟨p', s', o', inp', hp', hs', ho', hinp', hreads'⟩ :=
    reads_preimage hdigest hwide' hdata'
  rw [← hdatas] at hreads'
  have hfields := congrArg Prod.fst (Except.ok.inj (hreads.whole.symm.trans hreads'.whole))
  injection hfields with hashp hashs hasho hlock hexpiry htxid hvout hcode hvalue hseq
  -- the inner hashes
  have hps : p = p' := hfree _ _ _ (Or.inl (.prevouts rfl hp))
    (Or.inr (.prevouts rfl hp')) hashp
  have hss : s = s' := hfree _ _ _ (Or.inl (.sequences rfl hs))
    (Or.inr (.sequences rfl hs')) hashs
  have hos : o = o' := hfree _ _ _ (Or.inl (.outs rfl ho))
    (Or.inr (.outs rfl ho')) hasho
  rw [← hps] at hp'
  rw [← hss] at hs'
  rw [← hos] at ho'
  exact
    { prevouts := prevouts_injective hwide hwide' hp hp'
      sequences := sequences_injective hs hs'
      outputs := outs_injective ho ho'
      lockTime := hlock
      expiryHeight := hexpiry
      input := ⟨inp, inp', hinp, hinp', Prod.ext htxid hvout, hseq⟩
      scriptCode := hcode
      value := hvalue }

/-- The personalizations keep the four calls apart. -/
theorem Hashes.functional {person data data' : Bytes}
    (h : Hashes blake2b256 tx index scriptCode value branchId person data)
    (h' : Hashes blake2b256 tx index scriptCode value branchId person data') :
    data = data' := by
  have hinner : ∀ {branch q : Bytes}, person = sighashPerson ++ branch → person = q →
      q.take 12 = sighashPerson := by
    intro branch q hperson hq
    rw [← hq, hperson]
    rfl
  cases h with
  | prevouts hperson h =>
      cases h' with
      | prevouts _ h' => exact Except.ok.inj (h.symm.trans h')
      | sequences hperson' _ => exact absurd (hperson.symm.trans hperson') (by decide)
      | outs hperson' _ => exact absurd (hperson.symm.trans hperson') (by decide)
      | preimage branch _ hperson' _ => exact absurd (hinner hperson' hperson) (by decide)
  | sequences hperson h =>
      cases h' with
      | prevouts hperson' _ => exact absurd (hperson.symm.trans hperson') (by decide)
      | sequences _ h' => exact Except.ok.inj (h.symm.trans h')
      | outs hperson' _ => exact absurd (hperson.symm.trans hperson') (by decide)
      | preimage branch _ hperson' _ => exact absurd (hinner hperson' hperson) (by decide)
  | outs hperson h =>
      cases h' with
      | prevouts hperson' _ => exact absurd (hperson.symm.trans hperson') (by decide)
      | sequences hperson' _ => exact absurd (hperson.symm.trans hperson') (by decide)
      | outs _ h' => exact Except.ok.inj (h.symm.trans h')
      | preimage branch _ hperson' _ => exact absurd (hinner hperson' hperson) (by decide)
  | preimage branch _ hperson h =>
      cases h' with
      | prevouts hperson' _ => exact absurd (hinner hperson hperson') (by decide)
      | sequences hperson' _ => exact absurd (hinner hperson hperson') (by decide)
      | outs hperson' _ => exact absurd (hinner hperson hperson') (by decide)
      | preimage _ _ _ h' => exact Except.ok.inj (h.symm.trans h')

end Injective

/-! ## What a digest does not see -/

/-- An input as it was before it was signed. -/
def eraseSig (i : TxIn) : TxIn := { i with scriptSig := [] }

/-- A transaction without its script signatures. -/
def eraseSigs (tx : TxV4) : TxV4 := { tx with inputs := tx.inputs.map eraseSig }

section EraseSigs

variable {blake2b256 : Blake2b} {tx tx' : TxV4} {index : ℤ} {scriptCode : Bytes}
  {value branchId : ℤ}

/-- Signatures are not among what is hashed: not of the coins, -/
theorem prevouts_eraseSigs (tx : TxV4) : prevouts (eraseSigs tx) = prevouts tx := by
  unfold prevouts
  show (do
    let parts ← (tx.inputs.map eraseSig).mapM serializePrevout
    .ok parts.flatten) = _
  rw [List.mapM_map]
  rfl

/-- nor of the sequence numbers, -/
theorem sequences_eraseSigs (tx : TxV4) : sequences (eraseSigs tx) = sequences tx := by
  unfold sequences
  show (do
    let parts ← (tx.inputs.map eraseSig).mapM fun i : TxIn => packLE 4 i.sequence
    .ok parts.flatten) = _
  rw [List.mapM_map]
  rfl

/-- nor of the outputs. -/
theorem outs_eraseSigs (tx : TxV4) : outs (eraseSigs tx) = outs tx := rfl

/-- **The preimage does not depend on the signatures.** -/
theorem preimage_eraseSigs (tx : TxV4) :
    preimage blake2b256 (eraseSigs tx) index scriptCode value
      = preimage blake2b256 tx index scriptCode value := by
  unfold preimage
  rw [prevouts_eraseSigs, sequences_eraseSigs]
  have hinput : inputAt (eraseSigs tx) index = eraseSig <$> inputAt tx index := by
    unfold inputAt
    show (match itemAt (tx.inputs.map eraseSig) index with
      | none => _
      | some inp => _) = _
    rw [itemAt_map]
    cases itemAt tx.inputs index <;> rfl
  rw [hinput]
  cases inputAt tx index <;> rfl

/-- The digest does not depend on the script signatures. -/
theorem sighashZip243_eraseSigs (h : eraseSigs tx = eraseSigs tx') :
    sighashZip243 blake2b256 tx index scriptCode value branchId
      = sighashZip243 blake2b256 tx' index scriptCode value branchId := by
  unfold sighashZip243
  rw [← preimage_eraseSigs tx, h, preimage_eraseSigs tx']

/-- Nor do the data that are hashed. -/
theorem Hashes.of_eraseSigs (h : eraseSigs tx = eraseSigs tx') {person data : Bytes}
    (hhashes : Hashes blake2b256 tx' index scriptCode value branchId person data) :
    Hashes blake2b256 tx index scriptCode value branchId person data := by
  cases hhashes with
  | prevouts hperson hdata =>
      exact .prevouts hperson (by
        rw [← prevouts_eraseSigs, h, prevouts_eraseSigs, hdata])
  | sequences hperson hdata =>
      exact .sequences hperson (by
        rw [← sequences_eraseSigs, h, sequences_eraseSigs, hdata])
  | outs hperson hdata =>
      exact .outs hperson (by rw [← outs_eraseSigs, h, outs_eraseSigs, hdata])
  | preimage branch hbranch hperson hdata =>
      exact .preimage branch hbranch hperson (by
        rw [← preimage_eraseSigs, h, preimage_eraseSigs, hdata])

end EraseSigs

/-! ## What signing signs -/

section Signed

variable {κ : Type} {ec : Coincurve κ} {blake2b256 : Blake2b} {tx signed : TxV4}
  {spent : List (Bytes × ℤ)} {privkeys : List Bytes} {branchId : ℤ}

/-- What one turn of the loop puts into an input. -/
theorem signInput_ok {index : ℕ} {inp out : TxIn} {spentOut : Bytes × ℤ} {priv : Bytes}
    (h : signInput ec blake2b256 tx branchId index inp spentOut priv = .ok out) :
    ∃ key digest scriptSig, ec.privateKey priv = .ok key
      ∧ sighashZip243 blake2b256 tx index spentOut.1 spentOut.2 branchId = .ok digest
      ∧ ec.verify (ec.publicKey key) (ec.sign key digest) digest = true
      ∧ p2pkhScriptSig (ec.sign key digest ++ [UInt8.ofNat sighashAll])
          (ec.publicKey key) = .ok scriptSig
      ∧ out = { inp with scriptSig } := by
  rw [signInput] at h
  split at h
  · cases h
  · obtain ⟨digest, hdigest, h⟩ := bind_eq_ok h
    obtain ⟨key, hkey, h⟩ := bind_eq_ok h
    dsimp only at h
    split at h
    · cases h
    · rename_i hverify
      obtain ⟨scriptSig, hscript, h⟩ := bind_eq_ok h
      cases h
      exact ⟨key, digest, scriptSig, hkey, hdigest, Bool.of_not_eq_false hverify, hscript,
        rfl⟩

/-- The loop keeps every input but its script signature. -/
theorem signTransparent_eraseSigs
    (h : signTransparent ec blake2b256 tx spent privkeys branchId = .ok signed) :
    eraseSigs signed = eraseSigs tx := by
  rw [signTransparent] at h
  split at h
  · rename_i halign
    obtain ⟨inputs, hinputs, h⟩ := bind_eq_ok h
    cases h
    -- the turns run through the inputs in order
    have hzip : (tx.inputs.zip (spent.zip privkeys)).map Prod.fst = tx.inputs :=
      List.map_fst_zip (by rw [List.length_zip]; omega)
    have hturns : inputs.map eraseSig
        = (tx.inputs.zip (spent.zip privkeys)).zipIdx.map fun item => eraseSig item.1.1 := by
      refine map_eq_of_forall₂ ((mapM_ok_forall₂ hinputs).flip.imp fun out item hsign => ?_)
      obtain ⟨key, digest, scriptSig, -, -, -, -, rfl⟩ := signInput_ok hsign
      rfl
    have herase : inputs.map eraseSig = tx.inputs.map eraseSig := by
      calc inputs.map eraseSig
          = ((tx.inputs.zip (spent.zip privkeys)).zipIdx.map Prod.fst).map
              fun p => eraseSig p.1 := by rw [hturns, List.map_map]; rfl
        _ = ((tx.inputs.zip (spent.zip privkeys)).map Prod.fst).map eraseSig := by
              rw [List.zipIdx_map_fst, List.map_map]; rfl
        _ = tx.inputs.map eraseSig := by rw [hzip]
    show TxV4.mk (inputs.map eraseSig) _ _ _ = _
    rw [herase]
    rfl
  · cases h

/-- **Each signature is over the digest of the signed transaction.** -/
theorem signTransparent_digests
    (h : signTransparent ec blake2b256 tx spent privkeys branchId = .ok signed)
    {index : ℕ} {out : TxIn} (hout : signed.inputs[index]? = some out) :
    ∃ scriptCode value priv key digest,
      spent[index]? = some (scriptCode, value) ∧ privkeys[index]? = some priv
      ∧ ec.privateKey priv = .ok key
      ∧ sighashZip243 blake2b256 signed index scriptCode value branchId = .ok digest
      ∧ ec.verify (ec.publicKey key) (ec.sign key digest) digest = true
      ∧ p2pkhScriptSig (ec.sign key digest ++ [UInt8.ofNat sighashAll])
          (ec.publicKey key) = .ok out.scriptSig := by
  have herase := signTransparent_eraseSigs h
  rw [signTransparent] at h
  split at h
  · obtain ⟨inputs, hinputs, h⟩ := bind_eq_ok h
    cases h
    obtain ⟨⟨⟨inp, ⟨scriptCode, value⟩, priv⟩, i⟩, hitem, hsign⟩ :=
      forall₂_getElem? (mapM_ok_forall₂ hinputs).flip hout
    obtain ⟨key, digest, scriptSig, hkey, hdigest, hverify, hscript, rfl⟩ :=
      signInput_ok hsign
    rw [List.getElem?_zipIdx, Option.map_eq_some_iff] at hitem
    obtain ⟨item, hzip, hpair⟩ := hitem
    obtain ⟨rfl, rfl⟩ : item = (inp, (scriptCode, value), priv) ∧ i = index := by
      injection hpair with hfst hsnd
      exact ⟨hfst, by omega⟩
    rw [List.getElem?_zip_eq_some] at hzip
    obtain ⟨-, hrest⟩ := hzip
    rw [List.getElem?_zip_eq_some] at hrest
    refine ⟨scriptCode, value, priv, key, digest, hrest.1, hrest.2, hkey, ?_, hverify,
      hscript⟩
    rw [sighashZip243_eraseSigs herase]
    exact hdigest
  · cases h

end Signed

/-! ## What a signature commits to -/

/-- **The digest determines what is signed and nothing else.**  Equal digests
    come from transactions alike in all but their script signatures and from
    the same spent output; the script signatures do not change the digest; and
    every signature of a signed transaction is over that transaction's own
    digest. -/
theorem sighashZip243_commits (blake2b256 : Blake2b) :
    (∀ (tx tx' : TxV4) (index index' : ℤ) (scriptCode scriptCode' : Bytes)
        (value value' branchId : ℤ) (digest : Bytes),
      (∀ person data, (blake2b256 person data).length = 32) →
      TxidsWide tx → TxidsWide tx' →
      (CollisionFree blake2b256 fun person data =>
        Hashes blake2b256 tx index scriptCode value branchId person data
          ∨ Hashes blake2b256 tx' index' scriptCode' value' branchId person data) →
      sighashZip243 blake2b256 tx index scriptCode value branchId = .ok digest →
      sighashZip243 blake2b256 tx' index' scriptCode' value' branchId = .ok digest →
      SignedAlike tx tx' index index' scriptCode scriptCode' value value')
    ∧ (∀ (tx tx' : TxV4) (index : ℤ) (scriptCode : Bytes) (value branchId : ℤ),
      eraseSigs tx = eraseSigs tx' →
      sighashZip243 blake2b256 tx index scriptCode value branchId
        = sighashZip243 blake2b256 tx' index scriptCode value branchId)
    ∧ ∀ (κ : Type) (ec : Coincurve κ) (tx signed : TxV4) (spent : List (Bytes × ℤ))
        (privkeys : List Bytes) (branchId : ℤ),
      signTransparent ec blake2b256 tx spent privkeys branchId = .ok signed →
      eraseSigs signed = eraseSigs tx
      ∧ ∀ (index : ℕ) (out : TxIn), signed.inputs[index]? = some out →
        ∃ scriptCode value priv key digest,
          spent[index]? = some (scriptCode, value) ∧ privkeys[index]? = some priv
          ∧ ec.privateKey priv = .ok key
          ∧ sighashZip243 blake2b256 signed index scriptCode value branchId = .ok digest
          ∧ ec.verify (ec.publicKey key) (ec.sign key digest) digest = true
          ∧ p2pkhScriptSig (ec.sign key digest ++ [UInt8.ofNat sighashAll])
              (ec.publicKey key) = .ok out.scriptSig := by
  refine ⟨?_, ?_, ?_⟩
  · intro tx tx' index index' scriptCode scriptCode' value value' branchId digest hdigest
      hwide hwide' hfree h h'
    exact sighashZip243_injective hdigest hwide hwide' hfree h h'
  · intro tx tx' index scriptCode value branchId h
    exact sighashZip243_eraseSigs h
  · intro κ ec tx signed spent privkeys branchId h
    exact ⟨signTransparent_eraseSigs h, fun index out hout => signTransparent_digests h hout⟩

def paySig : Bytes :=
  [0x30, 0x44, 0x02, 0x20, 0x41, 0x71, 0xd2, 0xe3, 0x0f, 0x5c, 0xa1, 0x96, 0x82, 0xcc,
   0x2c, 0x86, 0xf7, 0x87, 0xa0, 0x97, 0x02, 0xc0, 0xb2, 0x07, 0xe8, 0x50, 0x21, 0x1c,
   0x77, 0x62, 0xd0, 0xa2, 0x60, 0x2a, 0xb7, 0x7f, 0x02, 0x20, 0x06, 0xc3, 0xe2, 0x37,
   0xd6, 0x7d, 0x2c, 0x76, 0x61, 0x56, 0x2f, 0xdd, 0x61, 0x88, 0xc7, 0x44, 0x08, 0x7e,
   0xe6, 0x83, 0x3f, 0xa4, 0x90, 0xd3, 0xc3, 0x58, 0xdc, 0xcc, 0x37, 0x03, 0xd0, 0x52]

def payPub : Bytes :=
  [0x03, 0x1b, 0x84, 0xc5, 0x56, 0x7b, 0x12, 0x64, 0x40, 0x99, 0x5d, 0x3e, 0xd5, 0xaa,
   0xba, 0x05, 0x65, 0xd7, 0x1e, 0x18, 0x34, 0x60, 0x48, 0x19, 0xff, 0x9c, 0x17, 0xf5,
   0xe9, 0xd5, 0xdd, 0x07, 0x8f]

/-- The script of the output being spent, paying the hash of `payPub`. -/
def payCode : Bytes :=
  [0x76, 0xa9, 0x14, 0x79, 0xb0, 0x00, 0x88, 0x76, 0x26, 0xb2, 0x94, 0xa9, 0x14, 0x50,
   0x1a, 0x4c, 0xd2, 0x26, 0xb5, 0x8b, 0x23, 0x59, 0x83, 0x88, 0xac]

/-- The digest of the one input. -/
def payDigest : Bytes :=
  [0x57, 0x6d, 0x82, 0xd6, 0x59, 0xd1, 0xb2, 0x9a, 0x78, 0x36, 0x94, 0x16, 0xa8, 0x6b,
   0x20, 0x40, 0x48, 0xf0, 0x60, 0x50, 0x74, 0xea, 0x5f, 0x8c, 0x6d, 0xed, 0x20, 0x3e,
   0x2d, 0x2e, 0x77, 0x12]

/-- BLAKE2b on the data of one sweep. -/
def payBlake : Blake2b := fun person _ =>
  if person = prevoutPerson then
    [0xf5, 0xfc, 0x9e, 0x06, 0x45, 0xd4, 0xee, 0xa8, 0x91, 0x23, 0x63, 0x98, 0x7c, 0x55,
     0x1c, 0x4b, 0x90, 0x17, 0x05, 0x1b, 0x9b, 0x04, 0x10, 0xe4, 0x21, 0xfd, 0x37, 0x9a,
     0xeb, 0x5d, 0xec, 0x94]
  else if person = sequencePerson then
    [0xac, 0xdd, 0xf3, 0x81, 0x1d, 0x3f, 0x38, 0xae, 0x44, 0x78, 0x8d, 0x7a, 0xc2, 0x8a,
     0x22, 0xbb, 0x1d, 0x3c, 0xf3, 0xc2, 0x4a, 0xff, 0x09, 0xf1, 0x63, 0xc6, 0x8e, 0x9d,
     0x9d, 0xbb, 0x48, 0x26]
  else if person = outputsPerson then
    [0x0a, 0xc2, 0x71, 0x17, 0xc0, 0x4a, 0xb3, 0x90, 0x14, 0x6e, 0x21, 0xf7, 0xbb, 0x72,
     0x02, 0xfa, 0x9c, 0x90, 0x36, 0x9e, 0xf3, 0xf1, 0x46, 0x7a, 0xca, 0x18, 0xf7, 0xa8,
     0x52, 0x4c, 0xe7, 0x89]
  else payDigest

def payMemo : String := "=:BTC.BTC:bc1qw508d6qejxtdg4y5r3zarvary0c5xw7kv8f3t4"

/-- A deposit of one coin with a memo, not yet signed. -/
def payUnsigned : TxV4 where
  inputs := [{
    prevTxid := [0x3b, 0xa3, 0xed, 0xfd, 0x7a, 0x7b, 0x12, 0xb2, 0x7a, 0xc7, 0x2c, 0x3e, 0x67, 0x76,
                 0x8f, 0x61, 0x7f, 0xc8, 0x1b, 0xc3, 0x88, 0x8a, 0x51, 0x32, 0x3a, 0x9f, 0xb8, 0xaa,
                 0x4b, 0x1e, 0x5e, 0x4a]
    vout := 0 }]
  outputs := [
    { value := 85000
      script := [0x76, 0xa9, 0x14, 0x75, 0x1e, 0x76, 0xe8, 0x19, 0x91, 0x96, 0xd4, 0x54, 0x94, 0x1c,
                 0x45, 0xd1, 0xb3, 0xa3, 0x23, 0xf1, 0x43, 0x3b, 0xd6, 0x88, 0xac] },
    { value := 0, script := [0x6a, 0x34] ++ encodeUtf8 payMemo }]
  expiryHeight := 2500040

/-- The one key of the wallet, and its signature over the one digest. -/
def payCurve : Coincurve Bytes where
  privateKey priv :=
    if priv = List.replicate 32 0x01 then .ok priv
    else .error (.valueError "invalid secret")
  sign _ digest := if digest = payDigest then paySig else []
  publicKey _ := payPub
  verify pub sig digest := decide (pub = payPub ∧ sig = paySig ∧ digest = payDigest)

/-- The same, with its signature. -/
def paySigned : TxV4 :=
  { payUnsigned with inputs := payUnsigned.inputs.map fun i =>
      { i with scriptSig := 71 :: (paySig ++ [0x01]) ++ 33 :: payPub } }

/-- The sweep and its signed form share their digest. -/
theorem sighashZip243_commits_sweep :
    SignedAlike payUnsigned paySigned 0 0 payCode payCode 100000 100000
      ∧ sighashZip243 payBlake payUnsigned 0 payCode 100000 0xC8E71055
          = sighashZip243 payBlake paySigned 0 payCode 100000 0xC8E71055
      ∧ eraseSigs paySigned = eraseSigs payUnsigned := by
  have herase : eraseSigs payUnsigned = eraseSigs paySigned := rfl
  have hsign : signTransparent payCurve payBlake payUnsigned [(payCode, 100000)]
      [List.replicate 32 0x01] 0xC8E71055 = .ok paySigned := by decide +kernel
  obtain ⟨hinjective, hinvariant, hsigned⟩ := sighashZip243_commits payBlake
  refine ⟨?_, hinvariant _ _ _ _ _ _ herase, (hsigned _ _ _ _ _ _ _ hsign).1⟩
  refine hinjective payUnsigned paySigned 0 0 payCode payCode 100000 100000 0xC8E71055
    payDigest ?_ (forall_mem_of_all (by decide)) (forall_mem_of_all (by decide)) ?_
    (by decide +kernel) (by decide +kernel)
  · intro person data
    unfold payBlake
    split_ifs <;> rfl
  · rintro person data data' (h | h) (h' | h') -
    · exact h.functional h'
    · exact h.functional (h'.of_eraseSigs herase)
    · exact (h.of_eraseSigs herase).functional h'
    · exact h.functional h'

end SwapsackZcashSighash
