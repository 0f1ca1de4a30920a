import Swapsack.Bech32Proofs
import Swapsack.CoinsProofs

/-! # Zcash v4 transparent transactions

    Addresses, scripts and the transparent-only subset of the v4 format: what
    the wallet serializes, and what it reads back before the gate looks at it.

    * `scriptToAddress_addressToScript` — a script shows the canonical form of
      the address it was made for, also when that was a TEX address;
    * `parseV4_serializeV4` — the parser reads back exactly what was
      serialized. -/

namespace SwapsackZcashTx

open ListKit ByteString PyText SwapsackBase SwapsackBech32

/-- Version 4, with the overwintered bit. -/
def v4Header : ℕ := 0x80000004

/-- The version group of Sapling. -/
def v4VersionGroup : ℕ := 0x892F2085

/-- The two bytes in front of a P2PKH hash, and in front of a P2SH one. -/
def prefixT1 : Bytes := [0x1C, 0xB8]
def prefixT3 : Bytes := [0x1C, 0xBD]

/-- The prefix of a TEX address. -/
def texHrp : String := "tex"

/-- The base58check codec of the library; a refused text has no payload. -/
structure Base58 where
  encodeCheck : Bytes → String
  decodeCheck : String → Option Bytes

/-- A text that decodes is the encoding of its payload, to the last character: no blank
    may stand behind it. -/
def Base58.Inverse (b58 : Base58) : Prop :=
  ∀ {a payload}, b58.decodeCheck a = some payload → b58.encodeCheck payload = a

/-! ## Scripts and addresses -/

section Address

variable [PyUnicode]

/-- The hash a TEX address encodes. -/
def texHash160 (address : String) : Except PyError Bytes :=
  match bech32mDecode address with
  | .error (.valueError exc) =>
      .error (.zcashTxError s!"not a valid TEX address: {address}: {exc}")
  | .error e => .error e
  | .ok (hrp, payload) =>
      if hrp ≠ texHrp.toList ∨ payload.length ≠ 20 then
        .error (.zcashTxError s!"not a valid mainnet TEX address: {address}")
      else .ok payload

variable (b58 : Base58)

/-- The t1 address paying the same hash as a TEX address. -/
def texToT1 (address : String) : Except PyError String := do
  let hash160 ← texHash160 address
  .ok (b58.encodeCheck (prefixT1 ++ hash160))

/-- The address as `scriptToAddress` would show its output. -/
def canonicalAddress (address : String) : Except PyError String :=
  if startsWith address (texHrp ++ "1") then texToT1 b58 address else .ok address

omit [PyUnicode] in
/-- `OP_DUP OP_HASH160 <hash> OP_EQUALVERIFY OP_CHECKSIG`. -/
def p2pkhScript (hash160 : Bytes) : Bytes :=
  [0x76, 0xA9, 0x14] ++ hash160 ++ [0x88, 0xAC]

omit [PyUnicode] in
/-- `OP_HASH160 <hash> OP_EQUAL`. -/
def p2shScript (hash160 : Bytes) : Bytes := [0xA9, 0x14] ++ hash160 ++ [0x87]

/-- The script paying a t1, tex1 or t3 address. -/
def addressToScript (address : String) : Except PyError Bytes :=
  if startsWith address (texHrp ++ "1") then do
    let hash160 ← texHash160 address
    .ok (p2pkhScript hash160)
  else
    match b58.decodeCheck address with
    | none =>
        .error (.zcashTxError s!"not a transparent t1/t3/tex address: {address}")
    | some payload =>
        if payload.length ≠ 22 then
          .error (.zcashTxError s!"not a transparent t1/t3 address: {address}")
        else if payload.take 2 = prefixT1 then .ok (p2pkhScript (payload.drop 2))
        else if payload.take 2 = prefixT3 then .ok (p2shScript (payload.drop 2))
        else .error (.zcashTxError s!"not a transparent t1/t3 address: {address}")

omit [PyUnicode] in

/-- The hash a P2PKH script pays, if it is one. -/
def p2pkhHash160 (script : Bytes) : Option Bytes :=
  if script.length = 25 ∧ script.take 3 = [0x76, 0xA9, 0x14]
      ∧ script.drop 23 = [0x88, 0xAC] then some (slice script 3 20)
  else none

omit [PyUnicode] in

/-- The hash a P2SH script pays, if it is one. -/
def p2shHash160 (script : Bytes) : Option Bytes :=
  if script.length = 23 ∧ script.take 2 = [0xA9, 0x14] ∧ script.drop 22 = [0x87] then
    some (slice script 2 20)
  else none

omit [PyUnicode] in
/-- The t1 or t3 address of a script, when it is one of the two shapes. -/
def scriptToAddress (script : Bytes) : Option String :=
  match p2pkhHash160 script with
  | some hash160 => some (b58.encodeCheck (prefixT1 ++ hash160))
  | none =>
      match p2shHash160 script with
      | some hash160 => some (b58.encodeCheck (prefixT3 ++ hash160))
      | none => none

omit [PyUnicode] in

/-- The script of a hash pays that hash. -/
theorem p2pkhHash160_p2pkhScript {hash160 : Bytes} (h : hash160.length = 20) :
    p2pkhHash160 (p2pkhScript hash160) = some hash160 := by
  have hlen : (p2pkhScript hash160).length = 25 := by
    rw [p2pkhScript, List.length_append, List.length_append, h]
    rfl
  have hdrop : (p2pkhScript hash160).drop 23 = [0x88, 0xAC] :=
    List.drop_left' (by rw [List.length_append, h]; rfl)
  have hslice : slice (p2pkhScript hash160) 3 20 = hash160 := by
    rw [p2pkhScript, List.append_assoc, ← h]
    exact slice_append [0x76, 0xA9, 0x14] hash160 [0x88, 0xAC]
  rw [p2pkhHash160, if_pos ⟨hlen, rfl, hdrop⟩, hslice]

omit [PyUnicode] in

/-- So does a P2SH script, which is not a P2PKH one. -/
theorem p2shHash160_p2shScript {hash160 : Bytes} (h : hash160.length = 20) :
    p2shHash160 (p2shScript hash160) = some hash160
      ∧ p2pkhHash160 (p2shScript hash160) = none := by
  have hlen : (p2shScript hash160).length = 23 := by
    rw [p2shScript, List.length_append, List.length_append, h]
    rfl
  have hdrop : (p2shScript hash160).drop 22 = [0x87] :=
    List.drop_left' (by rw [List.length_append, h]; rfl)
  have hslice : slice (p2shScript hash160) 2 20 = hash160 := by
    rw [p2shScript, List.append_assoc, ← h]
    exact slice_append [0xA9, 0x14] hash160 [0x87]
  constructor
  · rw [p2shHash160, if_pos ⟨hlen, rfl, hdrop⟩, hslice]
  · rw [p2pkhHash160, if_neg]
    rintro ⟨hlen', -, -⟩
    omega

/-- A TEX address carries twenty bytes. -/
theorem texHash160_length {address : String} {hash160 : Bytes}
    (h : texHash160 address = .ok hash160) : hash160.length = 20 := by
  rw [texHash160] at h
  split at h
  · exact nomatch h
  · exact nomatch h
  · split at h
    · exact nomatch h
    · rename_i hne
      cases h
      exact not_not.mp (not_or.mp hne).2

/-- **What a payable address pays.**  Its script is one of the two shapes, over
    a hash of twenty bytes, and the shape's own address is the canonical form. -/
theorem addressToScript_ok (hb58 : b58.Inverse) {address : String} {script : Bytes}
    (h : addressToScript b58 address = .ok script) :
    ∃ hash160 : Bytes, hash160.length = 20
      ∧ ((script = p2pkhScript hash160
          ∧ canonicalAddress b58 address = .ok (b58.encodeCheck (prefixT1 ++ hash160)))
        ∨ (script = p2shScript hash160
          ∧ canonicalAddress b58 address
              = .ok (b58.encodeCheck (prefixT3 ++ hash160)))) := by
  rw [addressToScript] at h
  by_cases htex : startsWith address (texHrp ++ "1") = true
  · rw [if_pos htex] at h
    obtain ⟨hash160, hhash, h⟩ := bind_eq_ok h
    cases h
    refine ⟨hash160, texHash160_length hhash, Or.inl ⟨rfl, ?_⟩⟩
    rw [canonicalAddress, if_pos htex, texToT1, hhash]
    rfl
  · rw [if_neg htex] at h
    have hcanonical : canonicalAddress b58 address = .ok address := by
      rw [canonicalAddress, if_neg htex]
    cases hpayload : b58.decodeCheck address with
    | none => rw [hpayload] at h; exact nomatch h
    | some payload =>
        rw [hpayload] at h
        dsimp only at h
        have hencode := hb58 hpayload
        split at h
        · exact nomatch h
        · rename_i hlen
          rw [not_not] at hlen
          have hdrop : (payload.drop 2).length = 20 := by
            rw [List.length_drop, hlen]
          -- the prefix the payload starts with decides the shape
          split at h
          · rename_i hprefix
            cases h
            refine ⟨payload.drop 2, hdrop, Or.inl ⟨rfl, ?_⟩⟩
            rw [hcanonical, ← hprefix, List.take_append_drop, hencode]
          · split at h
            · rename_i hprefix
              cases h
              refine ⟨payload.drop 2, hdrop, Or.inr ⟨rfl, ?_⟩⟩
              rw [hcanonical, ← hprefix, List.take_append_drop, hencode]
            · exact nomatch h

/-- **A script shows its address in canonical form.** -/
theorem scriptToAddress_addressToScript (hb58 : b58.Inverse) {address : String}
    {script : Bytes} (h : addressToScript b58 address = .ok script) :
    ∃ canonical, canonicalAddress b58 address = .ok canonical
      ∧ scriptToAddress b58 script = some canonical := by
  obtain ⟨hash160, hlen, ⟨rfl, hcanonical⟩ | ⟨rfl, hcanonical⟩⟩ :=
    addressToScript_ok b58 hb58 h
  · refine ⟨_, hcanonical, ?_⟩
    rw [scriptToAddress, p2pkhHash160_p2pkhScript hlen]
  · obtain ⟨hsome, hnone⟩ := p2shHash160_p2shScript hlen
    refine ⟨_, hcanonical, ?_⟩
    rw [scriptToAddress, hnone, hsome]

/-- No address is paid by a script that starts with the OP_RETURN opcode. -/
theorem addressToScript_opcode (hb58 : b58.Inverse) {address : String} {script : Bytes}
    (h : addressToScript b58 address = .ok script) :
    script.take 1 ≠ [SwapsackCoins.opReturnOpcode] := by
  obtain ⟨hash160, -, ⟨rfl, -⟩ | ⟨rfl, -⟩⟩ := addressToScript_ok b58 hb58 h
  · show ([0x76] : Bytes) ≠ [0x6A]
    decide
  · show ([0xA9] : Bytes) ≠ [0x6A]
    decide

omit [PyUnicode] in
/-- An OP_RETURN script shows no address. -/
theorem scriptToAddress_opReturn {script : Bytes} :
    scriptToAddress b58 (SwapsackCoins.opReturnOpcode :: script) = none := by
  have hpkh : p2pkhHash160 (SwapsackCoins.opReturnOpcode :: script) = none := by
    rw [p2pkhHash160, if_neg]
    rintro ⟨-, htake, -⟩
    exact absurd (List.cons.inj htake).1 (by decide)
  have hsh : p2shHash160 (SwapsackCoins.opReturnOpcode :: script) = none := by
    rw [p2shHash160, if_neg]
    rintro ⟨-, htake, -⟩
    exact absurd (List.cons.inj htake).1 (by decide)
  rw [scriptToAddress, hpkh, hsh]

end Address

/-! ## Transactions -/

/-- An input; the txid is in wire order. -/
structure TxIn where
  prevTxid : Bytes
  vout : ℤ
  scriptSig : Bytes := []
  sequence : ℤ := 0xFFFFFFFF
deriving DecidableEq

/-- An output: zatoshis and a script. -/
structure TxOut where
  value : ℤ
  script : Bytes
deriving DecidableEq

/-- A transparent transaction of version 4. -/
structure TxV4 where
  inputs : List TxIn
  outputs : List TxOut
  lockTime : ℤ := 0
  expiryHeight : ℤ := 0
deriving DecidableEq

/-- `struct.pack` of one little-endian unsigned integer of `w` bytes. -/
def packLE (w : ℕ) (n : ℤ) : Except PyError Bytes :=
  if 0 ≤ n ∧ n < 256 ^ w then .ok (leBytes w n.toNat) else .error .structError

/-- A count or a length, in one byte or in three; nothing longer is written. -/
def varint (n : ℕ) : Except PyError Bytes :=
  if n < 0xFD then .ok [UInt8.ofNat n]
  else if n ≤ 0xFFFF then .ok (0xFD :: leBytes 2 n)
  else .error (.zcashTxError s!"varint {n} out of the transparent-tx range")

/-- An input, as it is written. -/
def serializeIn (i : TxIn) : Except PyError Bytes := do
  let vout ← packLE 4 i.vout
  let slen ← varint i.scriptSig.length
  let sequence ← packLE 4 i.sequence
  .ok (i.prevTxid ++ vout ++ slen ++ i.scriptSig ++ sequence)

/-- An output, as it is written. -/
def serializeOut (o : TxOut) : Except PyError Bytes := do
  let value ← packLE 8 o.value
  let slen ← varint o.script.length
  .ok (value ++ slen ++ o.script)

/-- The v4 serialization with empty shielded sections. -/
def serializeV4 (tx : TxV4) : Except PyError Bytes := do
  let nIn ← varint tx.inputs.length
  let inputs ← tx.inputs.mapM serializeIn
  let nOut ← varint tx.outputs.length
  let outputs ← tx.outputs.mapM serializeOut
  let lockTime ← packLE 4 tx.lockTime
  let expiryHeight ← packLE 4 tx.expiryHeight
  .ok (leBytes 4 v4Header ++ leBytes 4 v4VersionGroup ++ nIn ++ inputs.flatten
    ++ nOut ++ outputs.flatten ++ lockTime ++ expiryHeight
    -- valueBalance, then vShieldedSpend, vShieldedOutput and vJoinSplit
    ++ leBytes 8 0 ++ [0x00, 0x00, 0x00])

/-! ## Reading a transaction back -/

/-- `_read_varint`: a byte that is not there is an IndexError. -/
def readVarint : Reader PyError ℕ := fun b i =>
  match b[i]? with
  | none => .error .indexError
  | some v =>
      if v < 0xFD then .ok (v.toNat, i + 1)
      else if v = 0xFD then .ok (leNat (slice b (i + 1) 2), i + 3)
      else .error (.zcashTxError "varint too large for a transparent tx")

/-- `int.from_bytes(b, "little", signed=True)`. -/
def leInt (b : Bytes) : ℤ :=
  if 2 * leNat b < 256 ^ b.length then leNat b else leNat b - 256 ^ b.length

/-- The reader of an input. -/
def readIn : Reader PyError TxIn :=
  (readSlice 32).bind fun prevTxid =>
  (readLE 4).bind fun vout =>
  readVarint.bind fun slen =>
  (readSlice slen).bind fun scriptSig =>
  (readLE 4).bind fun sequence =>
  Reader.pure { prevTxid, vout, scriptSig, sequence }

/-- The reader of an output. -/
def readOut : Reader PyError TxOut :=
  (readLE 8).bind fun value =>
  readVarint.bind fun slen =>
  (readSlice slen).bind fun script =>
  Reader.pure { value, script }

/-- The header and the version group. -/
def readHeader : Reader PyError Unit :=
  (readLE 4).bind fun header =>
  (readLE 4).bind fun vgroup =>
  if header ≠ v4Header ∨ vgroup ≠ v4VersionGroup then
    let shown := "0x" ++ String.ofList (Nat.toDigits 16 header)
    Reader.throw (.zcashTxError s!"not a v4/Sapling tx (header {shown})")
  else Reader.pure ()

/-- The value balance and the counts of the shielded sections, all of them 0. -/
def readShielded : Reader PyError Unit :=
  (readSlice 8).bind fun valueBalance =>
  readVarint.bind fun nSpends =>
  readVarint.bind fun nOutputs =>
  readVarint.bind fun nJoinSplits =>
  if leInt valueBalance ≠ 0 ∨ nSpends ≠ 0 ∨ nOutputs ≠ 0 ∨ nJoinSplits ≠ 0 then
    Reader.throw
      (.zcashTxError "tx carries shielded components; transparent-only here")
  else Reader.pure ()

/-- The reader of a transaction that has no shielded part. -/
def readV4 : Reader PyError TxV4 :=
  readHeader.bind fun _ =>
  readVarint.bind fun nIn =>
  (readMany readIn nIn).bind fun inputs =>
  readVarint.bind fun nOut =>
  (readMany readOut nOut).bind fun outputs =>
  (readLE 4).bind fun lockTime =>
  (readLE 4).bind fun expiryHeight =>
  readShielded.bind fun _ =>
  Reader.pure { inputs, outputs, lockTime, expiryHeight }

/-- Parse a transparent-only v4 transaction, to the last byte. -/
def parseV4 (raw : Bytes) : Except PyError TxV4 := do
  let (tx, i) ← readV4 raw 0
  if i ≠ raw.length then
    let trailing : ℤ := raw.length - i
    .error (.zcashTxError s!"trailing bytes after tx ({trailing})")
  else .ok tx

/-! ## The round trip -/

/-- What is packed is a natural number that fits. -/
theorem packLE_ok {w : ℕ} {n : ℤ} {bs : Bytes} (h : packLE w n = .ok bs) :
    ∃ m : ℕ, n = m ∧ m < 256 ^ w ∧ bs = leBytes w m := by
  rw [packLE] at h
  split at h
  · rename_i hrange
    obtain ⟨hpos, hlt⟩ := hrange
    cases h
    refine ⟨n.toNat, by omega, ?_, rfl⟩
    have hcast : ((n.toNat : ℕ) : ℤ) < ((256 ^ w : ℕ) : ℤ) := by
      rw [Int.toNat_of_nonneg hpos]
      exact_mod_cast hlt
    exact_mod_cast hcast
  · exact nomatch h

/-- A packed integer is read back. -/
theorem reads_packLE {w : ℕ} {n : ℤ} {bs : Bytes} (h : packLE w n = .ok bs) :
    ∃ m : ℕ, n = m ∧ Reads (readLE w : Reader PyError ℕ) bs m := by
  obtain ⟨m, hn, hlt, rfl⟩ := packLE_ok h
  exact ⟨m, hn, reads_LE hlt⟩

/-- A length is read back, -/
theorem reads_varint {n : ℕ} {bs : Bytes} (h : varint n = .ok bs) :
    Reads readVarint bs n := by
  intro pre post
  rw [varint] at h
  split at h
  · -- the length byte itself
    rename_i hsmall
    cases h
    have hbyte : (UInt8.ofNat n).toNat = n := by
      rw [UInt8.toNat_ofNat']
      omega
    have hlt : UInt8.ofNat n < 0xFD := by
      show (UInt8.ofNat n).toNat < 253
      omega
    rw [readVarint, List.singleton_append, List.getElem?_append_right (le_refl _),
      Nat.sub_self, List.getElem?_cons_zero]
    dsimp only
    rw [if_pos hlt, hbyte, List.length_append]
    rfl
  · split at h
    · -- two bytes behind the marker
      rename_i hsmall
      cases h
      have hslice := slice_append (pre ++ [0xFD]) (leBytes 2 n) post
      rw [List.append_assoc, List.length_append, leBytes_length] at hslice
      rw [readVarint, List.cons_append, List.getElem?_append_right (le_refl _),
        Nat.sub_self, List.getElem?_cons_zero]
      dsimp only
      rw [if_neg (by decide), if_pos rfl]
      show Except.ok (leNat (slice (pre ++ ([0xFD] ++ (leBytes 2 n ++ post)))
        (pre.length + [(0xFD : UInt8)].length) 2), pre.length + 3) = _
      rw [hslice, leNat_leBytes (by norm_num; omega), List.length_append,
        List.length_cons, leBytes_length]
    · exact nomatch h

/-- An input whose outpoint is a transaction id is read back. -/
theorem reads_serializeIn {i : TxIn} {bs : Bytes} (htxid : i.prevTxid.length = 32)
    (h : serializeIn i = .ok bs) : Reads readIn bs i := by
  obtain ⟨vout, hvout, h⟩ := bind_eq_ok h
  obtain ⟨slen, hslen, h⟩ := bind_eq_ok h
  obtain ⟨sequence, hsequence, h⟩ := bind_eq_ok h
  obtain ⟨v, hv, readsVout⟩ := reads_packLE hvout
  obtain ⟨s, hs, readsSequence⟩ := reads_packLE hsequence
  have readsTxid : Reads (readSlice 32 : Reader PyError Bytes) i.prevTxid i.prevTxid :=
    htxid ▸ reads_slice i.prevTxid
  have hi : i = { prevTxid := i.prevTxid, vout := v, scriptSig := i.scriptSig
                  sequence := s } := by
    rw [← hv, ← hs]
  have hbs : bs = i.prevTxid ++ (vout ++ (slen ++ (i.scriptSig ++ (sequence ++ [])))) := by
    cases h
    simp only [List.append_assoc, List.append_nil]
  rw [hbs]
  exact readsTxid.bind (readsVout.bind ((reads_varint hslen).bind
    ((reads_slice i.scriptSig).bind (readsSequence.bind (hi ▸ reads_pure _)))))

/-- an output is, -/
theorem reads_serializeOut {o : TxOut} {bs : Bytes} (h : serializeOut o = .ok bs) :
    Reads readOut bs o := by
  obtain ⟨value, hvalue, h⟩ := bind_eq_ok h
  obtain ⟨slen, hslen, h⟩ := bind_eq_ok h
  obtain ⟨v, hv, readsValue⟩ := reads_packLE hvalue
  have ho : o = { value := v, script := o.script } := by rw [← hv]
  have hbs : bs = value ++ (slen ++ (o.script ++ [])) := by
    cases h
    simp only [List.append_assoc, List.append_nil]
  rw [hbs]
  exact readsValue.bind ((reads_varint hslen).bind
    ((reads_slice o.script).bind (ho ▸ reads_pure _)))

/-- the header is, -/
theorem reads_header :
    Reads readHeader (leBytes 4 v4Header ++ (leBytes 4 v4VersionGroup ++ [])) () := by
  refine (reads_LE (by decide)).bind ((reads_LE (by decide)).bind ?_)
  rw [if_neg (by decide)]
  exact reads_pure ()

/-- and so are the empty shielded parts. -/
theorem reads_shielded :
    Reads readShielded (leBytes 8 0 ++ ([0x00] ++ ([0x00] ++ ([0x00] ++ [])))) () := by
  have hzero : varint 0 = .ok [0x00] := rfl
  refine (reads_slice (leBytes 8 0)).bind ((reads_varint hzero).bind
    ((reads_varint hzero).bind ((reads_varint hzero).bind ?_)))
  rw [if_neg (by decide)]
  exact reads_pure ()

/-- **The parser reads back what was serialized**, when every outpoint names a
    transaction id. -/
theorem parseV4_serializeV4 {tx : TxV4} {raw : Bytes}
    (htxid : ∀ i ∈ tx.inputs, i.prevTxid.length = 32) (h : serializeV4 tx = .ok raw) :
    parseV4 raw = .ok tx := by
  obtain ⟨nIn, hnIn, h⟩ := bind_eq_ok h
  obtain ⟨inputs, hinputs, h⟩ := bind_eq_ok h
  obtain ⟨nOut, hnOut, h⟩ := bind_eq_ok h
  obtain ⟨outputs, houtputs, h⟩ := bind_eq_ok h
  obtain ⟨lockTime, hlock, h⟩ := bind_eq_ok h
  obtain ⟨expiryHeight, hexpiry, h⟩ := bind_eq_ok h
  obtain ⟨l, hl, readsLock⟩ := reads_packLE hlock
  obtain ⟨e, he, readsExpiry⟩ := reads_packLE hexpiry
  have readsInputs : Reads (readMany readIn tx.inputs.length) inputs.flatten tx.inputs :=
    reads_many (mapM_ok_forall₂_mem hinputs |>.imp fun i bs hi =>
      reads_serializeIn (htxid i hi.1) hi.2)
  have readsOutputs :
      Reads (readMany readOut tx.outputs.length) outputs.flatten tx.outputs :=
    reads_many ((mapM_ok_forall₂ houtputs).imp fun o bs ho => reads_serializeOut ho)
  -- the fields go through the natural numbers the reader returns
  have htx : tx = { inputs := tx.inputs, outputs := tx.outputs, lockTime := l
                    expiryHeight := e } := by
    rw [← hl, ← he]
  have hraw : raw = (leBytes 4 v4Header ++ (leBytes 4 v4VersionGroup ++ []))
      ++ (nIn ++ (inputs.flatten ++ (nOut ++ (outputs.flatten ++ (lockTime
        ++ (expiryHeight ++ ((leBytes 8 0 ++ ([0x00] ++ ([0x00] ++ ([0x00] ++ []))))
          ++ []))))))) := by
    cases h
    simp only [List.append_assoc, List.append_nil, List.cons_append, List.nil_append]
  have reads : Reads readV4 raw tx := by
    rw [hraw]
    exact reads_header.bind ((reads_varint hnIn).bind (readsInputs.bind
      ((reads_varint hnOut).bind (readsOutputs.bind (readsLock.bind
        (readsExpiry.bind (reads_shielded.bind (htx ▸ reads_pure _))))))))
  rw [parseV4, reads.whole]
  dsimp only [ok_bind]
  rw [if_neg (not_not.mpr rfl)]

end SwapsackZcashTx
