import Swapsack.CardanoFeeProofs

/-! # The Cardano sweep estimate against the build

    A sweep is sized before its recipient is known, on a dummy transaction: the
    longest address, the largest expiry, a witness for every input and inputs
    numbered from zero.  The build then sizes the transaction it makes.

    * `finishSpend_avoids` — a build reports missing funds only while it chooses
      its coins;
    * `fixedSize_dummySweep`, `sweep_required` — the two sizes, part by part;
    * `buildUnsignedSwap_funds_iff` — the build accepts the estimate exactly when
      its own parts take no more bytes than those of the dummy. -/

namespace SwapsackCardanoSweep

open ListKit ByteString PyText SwapsackBase SwapsackBech32 SwapsackCardanoTx
open SwapsackCardano SwapsackCardanoFee Settle
open Cbor (Value headSize natSize intSize sizes natSize_mono intSize_mono intSize_natCast)
open SwapsackSelection (sumValues)

/-- The error of a wallet that does not hold enough. -/
def MissingFunds : PyError → Prop
  | .insufficientFunds _ => True
  | _ => False

/-! ## Where missing funds are not reported -/

section Avoid

/-- Regrouping bits fails for their values only. -/
theorem regroup_avoids (frm size : ℕ) (data : List ℕ) (acc bits : ℕ) :
    Avoids MissingFunds (regroup frm size data acc bits) := by
  induction data generalizing acc bits with
  | nil => exact avoids_ok _
  | cons value data ih =>
      rw [regroup]
      split
      · exact avoids_error id
      · exact (ih _ _).bind fun _ => avoids_ok _

/-- So does the conversion between widths. -/
theorem convertbits_avoids (data : List ℕ) (frm size : ℕ) (pad : Bool) :
    Avoids MissingFunds (convertbits data frm size pad) := by
  refine (regroup_avoids frm size data 0 0).bind ?_
  intro groups
  dsimp only
  split
  · exact avoids_ok _
  · split
    · exact avoids_error id
    · exact avoids_ok _

/-- An address is spelled without a look at what there is to spend. -/
theorem addressString_avoids (raw : Bytes) : Avoids MissingFunds (addressString raw) := by
  refine (convertbits_avoids _ 8 5 true).bind ?_
  intro values
  dsimp only
  split
  · exact avoids_error id
  · exact avoids_ok _

/-- Nor does its payment credential depend on that. -/
theorem paymentKeyHash_avoids (raw : Bytes) : Avoids MissingFunds (paymentKeyHash raw) := by
  rw [paymentKeyHash.eq_def]
  split
  · exact avoids_error id
  · dsimp only
    split
    · exact avoids_error id
    · exact avoids_ok _

/-- What cannot be gone through is refused as such. -/
theorem iterate_avoids (v : Value) : Avoids MissingFunds (iterate v) := by
  rw [iterate.eq_def]
  split
  all_goals first | exact avoids_ok _ | exact avoids_error id

/-- What is no text is refused as such; and so on for the other readings of a value. -/
theorem asText_avoids (v : Value) : Avoids MissingFunds (asText v) := by
  rw [asText.eq_def]
  split
  · exact avoids_ok _
  · exact avoids_error id

/-- The memo of a metadatum is refused for its shape only. -/
theorem memoFromMetadata_avoids (v : Value) :
    Avoids MissingFunds (memoFromMetadata v) := by
  rw [memoFromMetadata.eq_def]
  split
  · split
    · split
      · exact (avoids_mapM asText_avoids _).bind fun _ => avoids_ok _
      · exact avoids_ok _
    · exact avoids_ok _
  · exact avoids_ok _

/-- A missing key is a missing key. -/
theorem getItem_avoids (v : Value) (k : ℕ) : Avoids MissingFunds (getItem v k) := by
  cases v
  case map entries =>
      rw [getItem]
      split
      · exact avoids_error id
      · exact avoids_ok _
  case list | bytes | text =>
      refine (iterate_avoids _).bind ?_
      intro items
      split
      · exact avoids_error id
      · exact avoids_ok _
  all_goals exact avoids_error id

theorem contains_avoids (v : Value) (k : ℤ) : Avoids MissingFunds (contains v k) := by
  rw [contains.eq_def]
  split
  all_goals first | exact avoids_ok _ | exact avoids_error id

theorem asPair_avoids (v : Value) : Avoids MissingFunds (asPair v) := by
  refine (iterate_avoids v).bind ?_
  intro items
  split
  · exact avoids_ok _
  · split
    all_goals exact avoids_error id

theorem asByte_avoids (v : Value) : Avoids MissingFunds (asByte v) := by
  rw [asByte]
  split
  · exact avoids_error id
  · split
    · exact avoids_ok _
    · exact avoids_error id

theorem asBytes_avoids (v : Value) : Avoids MissingFunds (asBytes v) := by
  rw [asBytes.eq_def]
  split
  · exact avoids_ok _
  · exact avoids_error id
  · split
    · split
      · exact avoids_error id
      · exact avoids_ok _
    · exact (iterate_avoids v).bind fun items => avoids_mapM asByte_avoids items

variable (c : Codec)

/-- The items of a set, tagged or not, are refused for their shape only. -/
theorem setItems_avoids (v : Value) : Avoids MissingFunds (setItems c v) := by
  rw [setItems.eq_def]
  split
  · split
    · exact (iterate_avoids _).bind fun _ => avoids_ok _
    · exact avoids_error id
  · exact iterate_avoids v

/-- An output is refused for what it carries beyond lovelace, or for its shape. -/
theorem plainOutput_avoids (v : Value) : Avoids MissingFunds (plainOutput c v) := by
  rw [plainOutput.eq_def]
  dsimp only
  split
  · split
    · exact avoids_error id
    · exact (addressString_avoids _).bind fun _ => avoids_ok _
  · exact avoids_error id

theorem parsedInput_avoids (v : Value) : Avoids MissingFunds (parsedInput v) :=
  (asPair_avoids v).bind fun p => (asBytes_avoids p.1).bind fun _ => avoids_ok _

theorem parsedWitness_avoids (v : Value) : Avoids MissingFunds (parsedWitness v) :=
  (asPair_avoids v).bind fun p => (asBytes_avoids p.1).bind fun _ =>
    (asBytes_avoids p.2).bind fun _ => avoids_ok _

/-- The memo is refused where its hash is not the one of the body. -/
theorem boundMemo_avoids (body aux : Value) (auxBytes : Bytes) :
    Avoids MissingFunds (boundMemo c body aux auxBytes) := by
  rw [boundMemo.eq_def]
  split
  · refine (contains_avoids body 7).bind ?_
    intro found
    split
    · exact avoids_error id
    · exact avoids_ok _
  · split
    · dsimp only
      split
      · split
        · exact avoids_error id
        · exact memoFromMetadata_avoids aux
      · exact avoids_error id
    · exact avoids_error id

/-- Bytes that are no CBOR are refused as such. -/
theorem read_avoids (data : Bytes) (i : ℕ) : Avoids MissingFunds (c.read data i) := by
  rw [Codec.read]
  split
  · exact avoids_error id
  · exact avoids_ok _

/-- **Reading a transaction never reports missing funds.** -/
theorem parse_avoids (raw : Bytes) : Avoids MissingFunds (parse c raw) := by
  rw [parse]
  split
  · exact avoids_error id
  · refine (read_avoids c _ _).bind fun body => ?_
    refine (read_avoids c _ _).bind fun witnessSet => ?_
    refine (read_avoids c _ _).bind fun valid => ?_
    refine (read_avoids c _ _).bind fun aux => ?_
    refine (boundMemo_avoids c _ _ _).bind fun memo => ?_
    refine (getItem_avoids _ _).bind fun outputs => ?_
    refine (iterate_avoids _).bind fun outputs => ?_
    refine (avoids_mapM (plainOutput_avoids c) _).bind fun outputs => ?_
    refine (getItem_avoids _ _).bind fun inputs => ?_
    refine (setItems_avoids c _).bind fun inputs => ?_
    refine (avoids_mapM parsedInput_avoids _).bind fun inputs => ?_
    refine (getItem_avoids _ _).bind fun fee => ?_
    refine (getItem_avoids _ _).bind fun witnesses => ?_
    refine (setItems_avoids c _).bind fun witnesses => ?_
    exact (avoids_mapM parsedWitness_avoids _).bind fun _ => avoids_ok _

/-- Nor does the view without signatures. -/
theorem neutralView_avoids (raw : Bytes) : Avoids MissingFunds (neutralView c raw) := by
  refine (parse_avoids c raw).bind ?_
  intro parsed
  dsimp only
  split
  · exact avoids_error id
  · exact avoids_ok _

/-- The placeholders are made of indices that fit, or refused. -/
theorem placeholders_avoids (n : ℕ) : Avoids MissingFunds (placeholders n) := by
  refine avoids_mapM ?_ _
  intro i
  split
  · exact avoids_ok _
  · exact avoids_error id

/-- Putting a spend into a transaction does not count the money again. -/
theorem unsigned_avoids (s : Spend) (chosen : List Utxo) (outputs : List TxOut) (fee : ℤ) :
    Avoids MissingFunds (s.unsigned chosen outputs fee) := by
  refine (avoids_mapM ?_ chosen).bind fun _ => avoids_ok _
  intro u
  rw [buildInput]
  split
  · exact avoids_error id
  · exact avoids_ok _

variable (ad : AdaAdapter)

/-- Nor does its fee, which is taken from its size. -/
theorem feeFor_avoids (s : Spend) (chosen : List Utxo) (outputs : List TxOut) :
    Avoids MissingFunds (s.feeFor ad chosen outputs) :=
  (unsigned_avoids s chosen outputs 0).bind fun _ =>
    (placeholders_avoids _).bind fun _ => avoids_ok _

variable [PyUnicode]

/-- An address is refused as one that is not a mainnet address. -/
theorem addressBytes_avoids (address : String) :
    Avoids MissingFunds (addressBytes address) := by
  have hsplit : Avoids MissingFunds (SwapsackBech32.split address) := by
    rw [SwapsackBech32.split]
    dsimp only
    split
    · exact avoids_error id
    · split
      · exact avoids_error id
      · split
        · exact avoids_error id
        · split
          · exact avoids_error id
          · exact avoids_ok _
  have hdecode : Avoids MissingFunds (bech32Decode address) := by
    refine hsplit.bind ?_
    intro parts
    dsimp only
    split
    · exact avoids_error id
    · exact (convertbits_avoids _ 5 8 false).bind fun _ => avoids_ok _
  refine hdecode.bind ?_
  intro parts
  dsimp only
  split
  · exact avoids_error id
  · split
    · exact avoids_error id
    · exact avoids_ok _

/-- A coin that is not the wallet's is refused as that, not as missing. -/
theorem signingKeys_avoids (mnemonic : String) (chosen : List Utxo) :
    Avoids MissingFunds (signingKeys ad mnemonic chosen) := by
  rw [signingKeys]
  split
  · exact avoids_error id
  · refine (avoids_mapM ?_ chosen).bind fun _ => avoids_ok _
    intro u
    rw [signingKey]
    split
    · exact avoids_error id
    · refine (addressBytes_avoids u.address).bind fun raw => ?_
      refine (paymentKeyHash_avoids raw).bind fun owner => ?_
      split
      · exact avoids_error id
      · exact avoids_ok _

/-- **Once the coins are chosen, funds are not missing any more.** -/
theorem finishSpend_avoids (s : Spend) (mnemonic changeAddress : String) (sweep : Bool)
    (chosen : List Utxo) (outputs : List TxOut) (fee : ℤ) :
    Avoids MissingFunds
      (finishSpend ad s mnemonic changeAddress sweep chosen outputs fee) := by
  refine (unsigned_avoids s chosen outputs fee).bind fun tx => ?_
  refine (placeholders_avoids _).bind fun dummy => ?_
  dsimp only
  split
  · exact avoids_error id
  · refine (neutralView_avoids ad.codec _).bind fun neutral => ?_
    refine (feeFor_avoids ad s chosen outputs).bind fun required => ?_
    exact (signingKeys_avoids ad mnemonic chosen).bind fun _ => avoids_ok _

end Avoid

/-! ## The two sizes -/

section Sizes

variable {c : Codec}

/-- The bytes of a sweep that vary with its inputs, amount, expiry and memo. -/
def sweepParts (c : Codec) (utxos : List Utxo) (lovelace ttl : ℤ) (memo : Option String) :
    ℕ :=
  (utxos.map fun u => intSize u.vout).sum + intSize lovelace + intSize ttl + memoCost c memo
    + witnessCost (witnessCount utxos)

/-- What the estimate sets aside for them: inputs numbered from zero, the whole
    total, the largest expiry, and a witness for every input. -/
def dummyParts (c : Codec) (lovelace : ℤ) (n memoLen : ℕ) : ℕ :=
  ((List.range n).map natSize).sum + intSize lovelace + intSize (2 ^ 32 - 1)
    + memoCost c (dummyMemo memoLen) + witnessCost n

/-- Inputs cost their ids and what their indices take. -/
theorem inputsCost_eq {inputs : List TxIn} (h : ∀ i ∈ inputs, i.txid.length = 32) :
    inputsCost inputs = headSize inputs.length + 35 * inputs.length
      + (inputs.map fun i => intSize i.index).sum := by
  have hitems : sizes (inputs.map inputItem)
      = 35 * inputs.length + (inputs.map fun i => intSize i.index).sum := by
    induction inputs with
    | nil => rfl
    | cons i inputs ih =>
        have hid := h i List.mem_cons_self
        have hitem : (inputItem i).size = 35 + intSize i.index := by
          rw [inputItem]
          simp only [Value.size, sizes, hid, List.length_cons, List.length_nil]
          have hheads : headSize (0 + 1 + 1) = 1 ∧ headSize 32 = 2 := ⟨rfl, rfl⟩
          omega
        rw [List.map_cons, sizes, hitem, ih fun i hi => h i (List.mem_cons_of_mem _ hi),
          List.map_cons, List.sum_cons, List.length_cons]
        omega
  rw [inputsCost, hitems]
  omega

/-- An output to a base address takes sixty bytes and its amount. -/
theorem outputItem_size {o : TxOut} (h : o.address.length = 57) :
    (outputItem o).size = 60 + intSize o.lovelace := by
  rw [outputItem]
  simp only [Value.size, sizes, h, List.length_cons, List.length_nil]
  have hheads : headSize (0 + 1 + 1) = 1 ∧ headSize 57 = 2 := ⟨rfl, rfl⟩
  omega

/-- One such output, in its list. -/
theorem outputsCost_single {o : TxOut} (h : o.address.length = 57) :
    outputsCost [o] = 61 + intSize o.lovelace := by
  rw [outputsCost, List.map_singleton, sizes, outputItem_size h, sizes, List.length_singleton]
  have hhead : headSize 1 = 1 := rfl
  omega

theorem longestAddress_length : longestAddress.length = 57 := rfl

/-- The estimate's size, part by part. -/
theorem fixedSize_dummySweep (lovelace : ℤ) (n memoLen : ℕ) :
    fixedSize c (dummySweep lovelace n memoLen) n
      = 76 + headSize n + 35 * n + dummyParts c lovelace n memoLen := by
  have hids : ∀ i ∈ (dummySweep lovelace n memoLen).inputs, i.txid.length = 32 := by
    intro i hi
    obtain ⟨k, -, rfl⟩ := List.mem_map.mp hi
    exact beBytes_length 32 k
  have hinputs := inputsCost_eq hids
  have hcount : (dummySweep lovelace n memoLen).inputs.length = n := by
    rw [dummySweep, List.length_map, List.length_range]
  have hindices : ((dummySweep lovelace n memoLen).inputs.map fun i => intSize i.index)
      = (List.range n).map natSize := by
    rw [dummySweep, List.map_map]
    refine List.map_congr_left ?_
    intro i _
    exact intSize_natCast i
  rw [hcount, hindices] at hinputs
  have houtputs := outputsCost_single
    (o := { address := longestAddress, lovelace }) longestAddress_length
  rw [fixedSize, hinputs, dummyParts]
  show 15 + _ + outputsCost [{ address := longestAddress, lovelace }] + intSize (2 ^ 32 - 1)
    + memoCost c (dummyMemo memoLen) + _ = _
  rw [houtputs]
  dsimp only
  omega

/-- The witnesses do not depend on the order of the coins. -/
theorem witnessCount_perm {us vs : List Utxo} (h : us.Perm vs) :
    witnessCount us = witnessCount vs :=
  ((h.map Utxo.address).dedup).length_eq

/-- There are no more witnesses than coins. -/
theorem witnessCount_le (utxos : List Utxo) : witnessCount utxos ≤ utxos.length := by
  have hle := (List.dedup_sublist (utxos.map Utxo.address)).length_le
  rwa [List.length_map] at hle

/-- The coins are named by transaction ids: 32 bytes in hexadecimal. -/
def TxidsDecode (utxos : List Utxo) : Prop :=
  ∀ u ∈ utxos, ∃ id, fromHex u.txid = some id ∧ id.length = 32

/-- The inputs that spend some coins. -/
theorem buildInputs_ok {utxos : List Utxo} (hids : TxidsDecode utxos) :
    ∃ inputs, utxos.mapM buildInput = .ok inputs ∧ (∀ i ∈ inputs, i.txid.length = 32)
      ∧ inputs.length = utxos.length
      ∧ (inputs.map fun i => intSize i.index) = utxos.map fun u => intSize u.vout := by
  obtain ⟨inputs, hinputs⟩ : ∃ inputs, utxos.mapM buildInput = .ok inputs := by
    refine mapM_isOk_iff.mpr ?_
    intro u hu
    obtain ⟨id, hid, -⟩ := hids u hu
    rw [buildInput, hid]
    exact ⟨_, rfl⟩
  have hall := mapM_ok_forall₂_mem hinputs
  have hmade : ∀ u i, u ∈ utxos ∧ buildInput u = .ok i →
      i.txid.length = 32 ∧ u.vout = i.index := by
    rintro u i ⟨hu, hi⟩
    obtain ⟨id, hid, hlen⟩ := hids u hu
    rw [buildInput, hid] at hi
    cases hi
    exact ⟨hlen, rfl⟩
  refine ⟨inputs, hinputs, ?_, hall.length_eq.symm, ?_⟩
  · intro i hi
    obtain ⟨u, -, hu⟩ := forall₂_mem_right hall hi
    exact (hmade u i hu).1
  · refine (map_eq_of_forall₂ (hall.imp ?_)).symm
    intro u i hu
    rw [(hmade u i hu).2]

end Sizes

/-! ## The estimate and the build -/

section Sweep

variable {ad : AdaAdapter} {params : ProtocolParams} {utxos : List Utxo} {amount : ℤ}
  {memoLen : ℕ}

/-- What a returned estimate was made of. -/
theorem sweepSendAmount_ok {total fee : ℤ} {n : ℕ} (hparams : ad.protocolParams = .ok params)
    (h : sweepSendAmount ad total n memoLen = .ok (amount, fee)) :
    ∃ dummyFee : ℕ, requiredFee ad.codec (dummySweep (total / lovelaceToUnits) n memoLen) n params
        = .ok dummyFee
      ∧ amount = (total / lovelaceToUnits - dummyFee) * lovelaceToUnits
      ∧ (minLovelace ad.codec
          { address := longestAddress, lovelace := total / lovelaceToUnits - dummyFee } params : ℤ)
        ≤ total / lovelaceToUnits - dummyFee := by
  rw [sweepSendAmount, hparams, ok_bind] at h
  obtain ⟨dummyFee, hfee, h⟩ := bind_eq_ok h
  dsimp only at h
  split at h
  · cases h
  · rename_i hfloor
    cases h
    exact ⟨dummyFee, hfee, rfl, not_lt.mp hfloor⟩

/-- The least an output may hold only depends on the lengths of its parts. -/
theorem minLovelace_eq (hshort : ad.codec.ShortestForm) (params : ProtocolParams)
    {o o' : TxOut} (ho : o.address.length = 57) (ho' : o'.address.length = 57)
    (hsame : o.lovelace = o'.lovelace) :
    minLovelace ad.codec o params = minLovelace ad.codec o' params := by
  rw [minLovelace, minLovelace, hshort, hshort, outputItem_size ho, outputItem_size ho', hsame]

/-- The requirement of a sweep, in its parts. -/
theorem sweep_required (hshort : ad.codec.ShortestForm) {s : Spend} {pool : List Utxo}
    (hids : TxidsDecode utxos) (hperm : pool.Perm utxos) (hfew : utxos.length ≤ 256)
    (hlong : s.recipient.address.length = 57) :
    ∃ required, s.feeFor ad pool [s.recipient] = .ok required
      ∧ IsLeast (Meets (demand s.params (76 + headSize utxos.length + 35 * utxos.length
        + sweepParts ad.codec utxos s.recipient.lovelace s.ttl s.memo))) required := by
  have hpoolIds : TxidsDecode pool := fun u hu => hids u (hperm.subset hu)
  obtain ⟨inputs, hinputs, hlen, hcount, hindices⟩ := buildInputs_ok hpoolIds
  have hwitnesses := witnessCount_perm hperm
  obtain ⟨required, hrequired⟩ := requiredFee_isOk ad.codec
    { inputs, outputs := [s.recipient], fee := 0, ttl := s.ttl, memo := s.memo } s.params
    (show witnessCount pool ≤ 256 by rw [hwitnesses]; exact (witnessCount_le utxos).trans hfew)
  refine ⟨required, ?_, ?_⟩
  · rw [Spend.feeFor, Spend.unsigned, hinputs]
    exact hrequired
  · have hleast := requiredFee_isLeast hshort hrequired
    have hindexSum : (inputs.map fun i => intSize i.index).sum
        = (utxos.map fun u => intSize u.vout).sum := by
      rw [hindices]
      exact (hperm.map _).sum_eq
    have hsize : fixedSize ad.codec
        { inputs, outputs := [s.recipient], fee := 0, ttl := s.ttl, memo := s.memo }
        (witnessCount pool) = 76 + headSize utxos.length + 35 * utxos.length
          + sweepParts ad.codec utxos s.recipient.lovelace s.ttl s.memo := by
      rw [fixedSize, sweepParts, inputsCost_eq hlen, outputsCost_single hlong, hindexSum,
        hcount, hperm.length_eq, hwitnesses]
      dsimp only
      omega
    rwa [hsize] at hleast

variable [PyUnicode] {mnemonic vaultAddress changeAddress : String}

/-- The checks of a build, passed. -/
theorem prepareSpend_passed (memo : Option String) {tip : ℤ} {vaultRaw changeRaw : Bytes}
    (hwhole : amount % lovelaceToUnits = 0) (hparams : ad.protocolParams = .ok params)
    (htip : ad.tipSlot = .ok tip) (hvault : addressBytes vaultAddress = .ok vaultRaw)
    (hcovered : (minLovelace ad.codec
      { address := vaultRaw, lovelace := amount / lovelaceToUnits } params : ℤ)
        ≤ amount / lovelaceToUnits)
    (hchange : addressBytes changeAddress = .ok changeRaw) :
    prepareSpend ad vaultAddress amount (memo.map Memo.text) changeAddress
      = .ok { params, ttl := tip + ttlSlots
              recipient := { address := vaultRaw, lovelace := amount / lovelaceToUnits }
              changeRaw, memo } := by
  have htext : textMemo (memo.map Memo.text) = .ok memo := by
    cases memo with
    | none => rfl
    | some memo => rfl
  rw [prepareSpend, htext, ok_bind, if_neg (not_not.mpr hwhole), hparams, ok_bind, htip, ok_bind,
    hvault, ok_bind]
  dsimp only
  rw [if_neg (not_lt.mpr hcovered), hchange, ok_bind]

/-- **The build accepts the estimate of a sweep** exactly when the parts it
    could not know take no more bytes than it set aside for them, or when bytes
    are free. -/
theorem buildUnsignedSwap_funds_iff (memo : Option String) {tip fee : ℤ}
    {vaultRaw changeRaw : Bytes} (hshort : ad.codec.ShortestForm)
    (hparams : ad.protocolParams = .ok params) (htip : ad.tipSlot = .ok tip)
    (hids : TxidsDecode utxos) (hvault : addressBytes vaultAddress = .ok vaultRaw)
    (hlong : vaultRaw.length = 57) (hchange : addressBytes changeAddress = .ok changeRaw)
    (hsized : sweepSendAmount ad (sumValues utxos) utxos.length memoLen = .ok (amount, fee)) :
    (∀ text, buildUnsignedSwap ad mnemonic utxos vaultAddress amount (memo.map Memo.text)
        changeAddress true ≠ .error (.insufficientFunds text))
      ↔ params.minFeeA = 0
        ∨ sweepParts ad.codec utxos (amount / lovelaceToUnits) (tip + ttlSlots) memo
          ≤ dummyParts ad.codec (sumValues utxos / lovelaceToUnits) utxos.length memoLen := by
  obtain ⟨dummyFee, hdummy, hamount, hfloor⟩ := sweepSendAmount_ok hparams hsized
  have hestimate := requiredFee_isLeast hshort hdummy
  rw [fixedSize_dummySweep] at hestimate
  have hfew : utxos.length ≤ 256 := by
    obtain ⟨dummy, hplaceholders, -⟩ := bind_eq_ok hdummy
    exact (placeholders_ok hplaceholders).1
  have hunits : amount / lovelaceToUnits = sumValues utxos / lovelaceToUnits - dummyFee := by
    rw [hamount]
    exact Int.mul_ediv_cancel _ (by decide)
  -- the checks of the build pass
  let s : Spend :=
    { params, ttl := tip + ttlSlots
      recipient := { address := vaultRaw, lovelace := amount / lovelaceToUnits }
      changeRaw, memo }
  have hprepared : prepareSpend ad vaultAddress amount (memo.map Memo.text) changeAddress
      = .ok s := by
    refine prepareSpend_passed memo ?_ hparams htip hvault ?_ hchange
    · rw [hamount]
      exact Int.mul_emod_left _ _
    · have hsame : minLovelace ad.codec s.recipient params
          = minLovelace ad.codec { address := longestAddress
                                   lovelace := sumValues utxos / lovelaceToUnits - dummyFee }
            params :=
        minLovelace_eq hshort params hlong longestAddress_length hunits
      rw [hsame, hunits]
      exact hfloor
  -- the build compares the rest with its own requirement
  have hperm : (sortedPool utxos).Perm utxos := List.perm_insertionSort _ utxos
  have hpool : lovelaceOf (sortedPool utxos) = sumValues utxos / lovelaceToUnits := by
    rw [lovelaceOf, sumValues, sumValues, (hperm.map _).sum_eq]
  obtain ⟨required, hrequired, hleast⟩ := sweep_required (s := s) hshort hids hperm hfew hlong
  have hsettled := settled_le_iff hleast hestimate
  rw [Nat.add_le_add_iff_left] at hsettled
  rw [← hsettled, buildUnsignedSwap, hprepared, ok_bind, chooseSpend, if_pos rfl, sweepAll,
    hrequired, ok_bind]
  have hrest : lovelaceOf (sortedPool utxos) - s.recipient.lovelace = dummyFee := by
    rw [hpool]
    show _ - amount / lovelaceToUnits = _
    rw [hunits]
    omega
  rw [hrest]
  by_cases hcovers : required ≤ dummyFee
  · rw [if_neg (by omega)]
    refine iff_of_true ?_ hcovers
    intro text htext
    exact finishSpend_avoids ad s mnemonic changeAddress true _ _ _ _ htext trivial
  · rw [if_pos (by omega)]
    refine iff_of_false ?_ hcovers
    intro hnever
    exact hnever _ rfl

end Sweep

/-! ## The output after the twenty-third -/

def payeeRaw : Bytes :=
  beBytes 29 0x01047a68b1455233e294da486bf72792b8fa848d30d001fa2cdb8268f4
    ++ beBytes 28 0xe557890352095f1cf6fd2b7d1a28e3c3cb029f48cf34ff890a28d176

def ownRaw : Bytes :=
  beBytes 29 0x010fdc780023d8be7c9ff3a6bdc0d8d3b263bd0cc12448c40948efbf42
    ++ beBytes 28 0xe557890352095f1cf6fd2b7d1a28e3c3cb029f48cf34ff890a28d176

theorem payee_raw :
    let _ : PyUnicode := asciiUnicode
    addressBytes payeeAddress = .ok payeeRaw := by decide +kernel

theorem own_raw :
    let _ : PyUnicode := asciiUnicode
    addressBytes ownAddress = .ok ownRaw := by decide +kernel

/-- Five ADA at output 23 are swept for the estimate. -/
theorem buildUnsignedSwap_funds_index23 :
    let _ : PyUnicode := asciiUnicode
    ∀ text, buildUnsignedSwap (oneCoinAdapter 155381) "" [fiveAda 23] payeeAddress 483445500
      none ownAddress true ≠ .error (.insufficientFunds text) := by
  intro _
  have hids : TxidsDecode [fiveAda 23] := by
    intro u hu
    rw [List.mem_singleton.mp hu]
    exact ⟨beBytes 32 0xaa, by decide +kernel⟩
  have hsized : sweepSendAmount (oneCoinAdapter 155381) (sumValues [fiveAda 23])
      [fiveAda 23].length 0 = .ok (483445500, 16554500) := by decide +kernel
  have hparts : sweepParts (oneCoinAdapter 155381).codec [fiveAda 23]
        (483445500 / lovelaceToUnits) (200000000 + ttlSlots) none
      ≤ dummyParts (oneCoinAdapter 155381).codec (sumValues [fiveAda 23] / lovelaceToUnits)
        [fiveAda 23].length 0 := by decide +kernel
  have hshort : (oneCoinAdapter 155381).codec.ShortestForm := plainCodec_shortestForm
  have hparams : (oneCoinAdapter 155381).protocolParams = .ok (oneCoinParams 155381) := rfl
  have htip : (oneCoinAdapter 155381).tipSlot = .ok 200000000 := rfl
  have hlong : payeeRaw.length = 57 := by decide +kernel
  exact (buildUnsignedSwap_funds_iff none hshort hparams htip hids payee_raw hlong own_raw
    hsized).mpr (Or.inr hparts)

/-- Whether a computation reports missing funds. -/
def reportsMissing {α : Type} : Except PyError α → Bool
  | .error (.insufficientFunds _) => true
  | _ => false

/-- The report is one result, whatever its text. -/
theorem reportsMissing_iff {α : Type} {x : Except PyError α} :
    reportsMissing x = true ↔ ∃ text, x = .error (.insufficientFunds text) := by
  constructor
  · intro h
    unfold reportsMissing at h
    split at h
    · exact ⟨_, rfl⟩
    · cases h
  · rintro ⟨text, rfl⟩
    rfl

/-- **The same coin at output 24 is refused**: its index takes a byte more than
    the estimate's zero. -/
theorem buildUnsignedSwap_index24_refused :
    let _ : PyUnicode := asciiUnicode
    sweepSendAmount (oneCoinAdapter 155381) (sumValues [fiveAda 24]) 1 0
        = .ok (483445500, 16554500)
      ∧ ∃ text, buildUnsignedSwap (oneCoinAdapter 155381) "" [fiveAda 24] payeeAddress
        483445500 none ownAddress true = .error (.insufficientFunds text) := by
  intro _
  refine ⟨by decide +kernel, ?_⟩
  rw [← reportsMissing_iff]
  rw [buildUnsignedSwap, prepareSpend]
  rw [payee_raw, own_raw]
  decide +kernel

end SwapsackCardanoSweep
