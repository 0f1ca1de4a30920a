import Swapsack.SpellingProofs
import Swapsack.ZcashTxProofs

/-! # The v4 format, both ways

    The gate reads outputs back through the parser, so the pair must neither
    lose a transaction nor take two encodings for one.

    * `serializeV4_parseV4` — every transaction in the format's ranges is
      serialized and read back;
    * `parseV4_spelled` — what is read is the serialization of what was found
      there, but for length prefixes below `0xFD` written in three bytes. -/

namespace SwapsackZcashTx

open ListKit ByteString SwapsackBase Spelling

/-! ## Every transaction in range is written -/

/-- The ranges of the format, with one- and three-byte length prefixes. -/
structure TxV4.InRange (tx : TxV4) : Prop where
  inputs : tx.inputs.length ≤ 65535
  outputs : tx.outputs.length ≤ 65535
  input : ∀ i ∈ tx.inputs, i.prevTxid.length = 32 ∧ (0 ≤ i.vout ∧ i.vout < 2 ^ 32)
    ∧ i.scriptSig.length ≤ 65535 ∧ 0 ≤ i.sequence ∧ i.sequence < 2 ^ 32
  output : ∀ o ∈ tx.outputs, (0 ≤ o.value ∧ o.value < 2 ^ 64) ∧ o.script.length ≤ 65535
  lockTime : 0 ≤ tx.lockTime ∧ tx.lockTime < 2 ^ 32
  expiryHeight : 0 ≤ tx.expiryHeight ∧ tx.expiryHeight < 2 ^ 32

/-- A length of at most two bytes can be written. -/
theorem varint_isOk {n : ℕ} (h : n ≤ 65535) : ∃ bytes, varint n = .ok bytes := by
  rw [varint]
  by_cases hsmall : n < 0xFD
  · exact ⟨_, if_pos hsmall⟩
  · rw [if_neg hsmall]
    exact ⟨_, if_pos h⟩

/-- A number that fits can be packed. -/
theorem packLE_isOk {w : ℕ} {n : ℤ} (hpos : 0 ≤ n) (hlt : n < 256 ^ w) :
    ∃ bytes, packLE w n = .ok bytes :=
  ⟨_, if_pos ⟨hpos, hlt⟩⟩

/-- An input in range can be written, -/
theorem serializeIn_isOk {i : TxIn} (hvout : 0 ≤ i.vout ∧ i.vout < 2 ^ 32)
    (hscript : i.scriptSig.length ≤ 65535) (hsequence : 0 ≤ i.sequence ∧ i.sequence < 2 ^ 32) :
    ∃ bytes, serializeIn i = .ok bytes := by
  obtain ⟨vout, hv⟩ := packLE_isOk (w := 4) hvout.1 hvout.2
  obtain ⟨slen, hl⟩ := varint_isOk hscript
  obtain ⟨sequence, hs⟩ := packLE_isOk (w := 4) hsequence.1 hsequence.2
  refine ⟨i.prevTxid ++ vout ++ slen ++ i.scriptSig ++ sequence, ?_⟩
  rw [serializeIn, hv, hl, hs]
  rfl

/-- an output in range can, -/
theorem serializeOut_isOk {o : TxOut} (hvalue : 0 ≤ o.value ∧ o.value < 2 ^ 64)
    (hscript : o.script.length ≤ 65535) : ∃ bytes, serializeOut o = .ok bytes := by
  obtain ⟨value, hv⟩ := packLE_isOk (w := 8) hvalue.1 hvalue.2
  obtain ⟨slen, hl⟩ := varint_isOk hscript
  refine ⟨value ++ slen ++ o.script, ?_⟩
  rw [serializeOut, hv, hl]
  rfl

/-- and so can a transaction. -/
theorem serializeV4_isOk {tx : TxV4} (h : tx.InRange) : ∃ raw, serializeV4 tx = .ok raw := by
  obtain ⟨nIn, hnIn⟩ := varint_isOk h.inputs
  obtain ⟨nOut, hnOut⟩ := varint_isOk h.outputs
  obtain ⟨inputs, hinputs⟩ := mapM_isOk_iff.mpr fun i hi => by
    obtain ⟨-, hvout, hscript, hsequence⟩ := h.input i hi
    exact serializeIn_isOk hvout hscript hsequence
  obtain ⟨outputs, houtputs⟩ := mapM_isOk_iff.mpr fun o ho =>
    serializeOut_isOk (h.output o ho).1 (h.output o ho).2
  obtain ⟨lockTime, hlock⟩ := packLE_isOk (w := 4) h.lockTime.1 h.lockTime.2
  obtain ⟨expiryHeight, hexpiry⟩ := packLE_isOk (w := 4) h.expiryHeight.1 h.expiryHeight.2
  rw [serializeV4, hnIn, hinputs, hnOut, houtputs, hlock, hexpiry]
  exact ⟨_, rfl⟩

/-- **Every transaction in range is written and read back**, also without
    inputs or outputs, with empty scripts and on both sides of the varint
    boundary. -/
theorem serializeV4_parseV4 {tx : TxV4} (h : tx.InRange) :
    ∃ raw, serializeV4 tx = .ok raw ∧ parseV4 raw = .ok tx := by
  obtain ⟨raw, hraw⟩ := serializeV4_isOk h
  exact ⟨raw, hraw, parseV4_serializeV4 (fun i hi => (h.input i hi).1) hraw⟩

/-- One input with a script at the varint boundary, one output with an empty
    script. -/
theorem serializeV4_parseV4_boundary :
    let tx : TxV4 := {
      inputs := [{ prevTxid := List.replicate 32 7, vout := 0, scriptSig := List.replicate 253 1 }]
      outputs := [{ value := 1000, script := [] }] }
    ∃ raw, serializeV4 tx = .ok raw ∧ parseV4 raw = .ok tx := by
  intro tx
  refine serializeV4_parseV4 ⟨by decide, by decide, ?_, ?_, by decide, by decide⟩
  · intro i hi
    rw [List.mem_singleton.mp hi]
    decide +kernel
  · intro o ho
    rw [List.mem_singleton.mp ho]
    decide +kernel

/-! ## What is read was spelled

    A length prefix below `0xFD` can be written in one byte or, behind the
    marker, in three.  The serializer writes the first form and the parser
    takes both. -/

/-- The bytes of a length prefix; `longs` is 1 when it is longer than it need be. -/
def LengthPrefix (longs n : ℕ) (bytes : Bytes) : Prop :=
  (longs = 0 ∧ varint n = .ok bytes) ∨ (longs = 1 ∧ n < 0xFD ∧ bytes = 0xFD :: leBytes 2 n)

/-- The bytes of an input, with so many long length prefixes. -/
def SpelledIn (longs : ℕ) (i : TxIn) (bytes : Bytes) : Prop :=
  ∃ vout slen sequence, i.prevTxid.length = 32 ∧ packLE 4 i.vout = .ok vout
    ∧ LengthPrefix longs i.scriptSig.length slen ∧ packLE 4 i.sequence = .ok sequence
    ∧ bytes = i.prevTxid ++ vout ++ slen ++ i.scriptSig ++ sequence

/-- The bytes of an output. -/
def SpelledOut (longs : ℕ) (o : TxOut) (bytes : Bytes) : Prop :=
  ∃ value slen, packLE 8 o.value = .ok value ∧ LengthPrefix longs o.script.length slen
    ∧ bytes = value ++ slen ++ o.script

/-- The bytes of items, with so many long prefixes among them. -/
inductive SpelledAll {α : Type} (S : ℕ → α → Bytes → Prop) : ℕ → List α → Bytes → Prop where
  | nil : SpelledAll S 0 [] []
  | cons {m n : ℕ} {a : α} {as : List α} {front back : Bytes} :
      S m a front → SpelledAll S n as back → SpelledAll S (m + n) (a :: as) (front ++ back)

/-- The bytes of a transaction with empty shielded sections, all of them, with
    `longs` length prefixes written longer than they need be. -/
def SpelledV4 (longs : ℕ) (tx : TxV4) (raw : Bytes) : Prop :=
  ∃ (a b c d e f g : ℕ) (nIn inputs nOut outputs lockTime expiryHeight spends shielded
      joinSplits : Bytes),
    longs = a + b + c + d + e + f + g
    ∧ LengthPrefix a tx.inputs.length nIn ∧ SpelledAll SpelledIn b tx.inputs inputs
    ∧ LengthPrefix c tx.outputs.length nOut ∧ SpelledAll SpelledOut d tx.outputs outputs
    ∧ packLE 4 tx.lockTime = .ok lockTime ∧ packLE 4 tx.expiryHeight = .ok expiryHeight
    ∧ LengthPrefix e 0 spends ∧ LengthPrefix f 0 shielded ∧ LengthPrefix g 0 joinSplits
    ∧ raw = leBytes 4 v4Header ++ leBytes 4 v4VersionGroup ++ nIn ++ inputs ++ nOut ++ outputs
      ++ lockTime ++ expiryHeight ++ leBytes 8 0 ++ spends ++ shielded ++ joinSplits

section Spelled

/-- One byte of the input. -/
theorem slice_one {data : Bytes} {i : ℕ} {v : UInt8} (h : data[i]? = some v) :
    slice data i 1 = [v] := by
  have hhead : (data.drop i)[0]? = some v := by
    rw [List.getElem?_drop, Nat.add_zero]
    exact h
  rw [slice]
  cases hd : data.drop i with
  | nil =>
      rw [hd] at hhead
      cases hhead
  | cons w rest =>
      rw [hd] at hhead
      obtain rfl : w = v := Option.some.inj hhead
      rfl

/-- What is read as a length is a spelling of it, and so on for the larger readers. -/
theorem spells_readVarint :
    Spells readVarint (fun n bytes => ∃ longs, LengthPrefix longs n bytes) := by
  intro data i j n h
  rw [readVarint] at h
  cases hv : data[i]? with
  | none =>
      rw [hv] at h
      cases h
  | some v =>
      rw [hv] at h
      dsimp only at h
      by_cases hsmall : v < 0xFD
      · rw [if_pos hsmall] at h
        cases h
        -- one byte is the short form
        refine ⟨1, rfl, fun _ => ⟨0, Or.inl ⟨rfl, ?_⟩⟩⟩
        rw [slice_one hv, varint, if_pos (show v.toNat < 0xFD from hsmall), UInt8.ofNat_toNat]
      · rw [if_neg hsmall] at h
        by_cases hmarker : v = 0xFD
        · rw [if_pos hmarker] at h
          cases h
          refine ⟨3, rfl, ?_⟩
          intro hle
          have hlen : (slice data (i + 1) 2).length = 2 := slice_length (by omega)
          have hbytes := leBytes_leNat (slice data (i + 1) 2)
          have hlt := leNat_lt (slice data (i + 1) 2)
          rw [hlen] at hbytes hlt
          have hslice : slice data i 3 = 0xFD :: leBytes 2 (leNat (slice data (i + 1) 2)) := by
            rw [slice_add data i 1 2, slice_one hv, hmarker, hbytes]
            rfl
          rw [hslice]
          -- behind the marker the parser takes any two bytes
          by_cases hlong : leNat (slice data (i + 1) 2) < 0xFD
          · exact ⟨1, Or.inr ⟨rfl, hlong, rfl⟩⟩
          · refine ⟨0, Or.inl ⟨rfl, ?_⟩⟩
            rw [varint, if_neg hlong, if_pos (by omega)]
        · rw [if_neg hmarker] at h
          cases h

/-- A number that was read packs into the bytes it was read from. -/
theorem packLE_natCast {w n : ℕ} (h : n < 256 ^ w) : packLE w n = .ok (leBytes w n) := by
  have hlt : (n : ℤ) < 256 ^ w := by exact_mod_cast h
  rw [packLE, if_pos ⟨Int.natCast_nonneg n, hlt⟩, Int.toNat_natCast]

/-- An input. -/
theorem spells_readIn : Spells readIn (fun i bytes => ∃ longs, SpelledIn longs i bytes) := by
  refine ((spells_slice 32).bind fun prevTxid => (spells_LE 4).bind fun vout =>
    spells_readVarint.bind fun slen => (spells_slice slen).bind fun scriptSig =>
    (spells_LE 4).bind fun sequence => spells_pure _).imp ?_
  rintro i bytes ⟨prevTxid, _, _, rfl, ⟨rfl, htxid⟩, vout, _, _, rfl, ⟨rfl, hvout⟩,
    _, slen, _, rfl, ⟨longs, hslen⟩, scriptSig, _, _, rfl, ⟨rfl, rfl⟩,
    sequence, _, _, rfl, ⟨rfl, hsequence⟩, rfl, rfl⟩
  refine ⟨longs, leBytes 4 vout, slen, leBytes 4 sequence, htxid, packLE_natCast hvout, hslen,
    packLE_natCast hsequence, ?_⟩
  simp only [List.append_assoc, List.append_nil]

/-- An output. -/
theorem spells_readOut : Spells readOut (fun o bytes => ∃ longs, SpelledOut longs o bytes) := by
  refine ((spells_LE 8).bind fun value => spells_readVarint.bind fun slen =>
    (spells_slice slen).bind fun script => spells_pure _).imp ?_
  rintro o bytes ⟨value, _, _, rfl, ⟨rfl, hvalue⟩, _, slen, _, rfl, ⟨longs, hslen⟩,
    script, _, _, rfl, ⟨rfl, rfl⟩, rfl, rfl⟩
  refine ⟨longs, leBytes 8 value, slen, packLE_natCast hvalue, hslen, ?_⟩
  simp only [List.append_assoc, List.append_nil]

/-- Items that are spelled one by one have so many long prefixes together. -/
theorem spelledAll_of_items {α : Type} {S : ℕ → α → Bytes → Prop} {P : α → Bytes → Prop}
    (hS : ∀ a bytes, P a bytes → ∃ longs, S longs a bytes) {as : List α} {bytes : Bytes}
    (h : Items P as bytes) : ∃ longs, SpelledAll S longs as bytes := by
  induction h with
  | nil => exact ⟨0, .nil⟩
  | cons ha _ ih =>
      obtain ⟨m, hm⟩ := hS _ _ ha
      obtain ⟨n, hn⟩ := ih
      exact ⟨m + n, .cons hm hn⟩

/-- The header has one spelling. -/
theorem spells_readHeader : Spells readHeader
    (fun _ bytes => bytes = leBytes 4 v4Header ++ leBytes 4 v4VersionGroup) := by
  refine ((spells_LE 4).bind (T := fun header _ bytes => header = v4Header
    ∧ bytes = leBytes 4 v4VersionGroup) fun header => ?_).imp ?_
  · refine ((spells_LE 4).bind (T := fun vgroup _ bytes => header = v4Header
      ∧ vgroup = v4VersionGroup ∧ bytes = []) fun vgroup => ?_).imp ?_
    · by_cases hbad : header ≠ v4Header ∨ vgroup ≠ v4VersionGroup
      · rw [if_pos hbad]
        exact spells_throw _ _
      · rw [if_neg hbad]
        obtain ⟨hheader, hvgroup⟩ := not_or.mp hbad
        refine (spells_pure ()).imp ?_
        rintro _ bytes ⟨-, hnil⟩
        exact ⟨not_not.mp hheader, not_not.mp hvgroup, hnil⟩
    · rintro _ bytes ⟨vgroup, _, _, rfl, ⟨rfl, -⟩, hheader, rfl, rfl⟩
      exact ⟨hheader, List.append_nil _⟩
  · rintro _ bytes ⟨header, _, _, rfl, ⟨rfl, -⟩, rfl, rfl⟩
    rfl

/-- Eight bytes that read as zero are zeros. -/
theorem leInt_eq_zero {bytes : Bytes} (hlen : bytes.length = 8) (h : leInt bytes = 0) :
    bytes = leBytes 8 0 := by
  have hlt := leNat_lt bytes
  have hbytes := leBytes_leNat bytes
  rw [leInt] at h
  rw [hlen] at h hlt hbytes
  have hzero : leNat bytes = 0 := by
    split at h <;> omega
  rw [← hbytes, hzero]

/-- The shielded parts are empty, their counts spelled in any way. -/
theorem spells_readShielded : Spells readShielded (fun _ bytes =>
    ∃ e f g spends shielded joinSplits, LengthPrefix e 0 spends ∧ LengthPrefix f 0 shielded
      ∧ LengthPrefix g 0 joinSplits
      ∧ bytes = leBytes 8 0 ++ (spends ++ (shielded ++ joinSplits))) := by
  refine ((spells_slice 8).bind fun valueBalance => spells_readVarint.bind fun nSpends =>
    spells_readVarint.bind fun nOutputs => spells_readVarint.bind
      (T := fun nJoinSplits _ bytes => leInt valueBalance = 0 ∧ nSpends = 0 ∧ nOutputs = 0
        ∧ nJoinSplits = 0 ∧ bytes = []) fun nJoinSplits => ?_).imp ?_
  · by_cases hbad : leInt valueBalance ≠ 0 ∨ nSpends ≠ 0 ∨ nOutputs ≠ 0 ∨ nJoinSplits ≠ 0
    · rw [if_pos hbad]
      exact spells_throw _ _
    · rw [if_neg hbad]
      simp only [ne_eq, not_or, not_not] at hbad
      refine (spells_pure ()).imp ?_
      rintro _ bytes ⟨-, hnil⟩
      exact ⟨hbad.1, hbad.2.1, hbad.2.2.1, hbad.2.2.2, hnil⟩
  · rintro _ bytes ⟨valueBalance, _, _, rfl, ⟨rfl, hlen⟩, _, spends, _, rfl, ⟨e, he⟩,
      _, shielded, _, rfl, ⟨f, hf⟩, _, joinSplits, _, rfl, ⟨g, hg⟩, hzero, rfl, rfl, rfl, rfl⟩
    refine ⟨e, f, g, spends, shielded, joinSplits, he, hf, hg, ?_⟩
    rw [leInt_eq_zero hlen hzero, List.append_nil]

/-- What the parser got through is spelled, field by field. -/
theorem spells_readV4 : Spells readV4 (fun tx raw => ∃ longs, SpelledV4 longs tx raw) := by
  refine (spells_readHeader.bind fun _ => spells_readVarint.bind fun nIn =>
    (spells_readIn.many nIn).bind fun inputs => spells_readVarint.bind fun nOut =>
    (spells_readOut.many nOut).bind fun outputs => (spells_LE 4).bind fun lockTime =>
    (spells_LE 4).bind fun expiryHeight => spells_readShielded.bind fun _ =>
    spells_pure _).imp ?_
  rintro tx raw ⟨_, _, _, rfl, rfl, _, nIn, _, rfl, ⟨a, ha⟩, inputs, _, _, rfl, ⟨rfl, hin⟩,
    _, nOut, _, rfl, ⟨c, hc⟩, outputs, _, _, rfl, ⟨rfl, hout⟩, lockTime, _, _, rfl, ⟨rfl, hlock⟩,
    expiryHeight, _, _, rfl, ⟨rfl, hexpiry⟩, _, _, _, rfl,
    ⟨e, f, g, spends, shielded, joinSplits, he, hf, hg, rfl⟩, rfl, rfl⟩
  obtain ⟨b, hb⟩ := spelledAll_of_items (fun _ _ h => h) hin
  obtain ⟨d, hd⟩ := spelledAll_of_items (fun _ _ h => h) hout
  refine ⟨_, a, b, c, d, e, f, g, nIn, _, nOut, _, _, _,
    spends, shielded, joinSplits, rfl, ha, hb, hc, hd, packLE_natCast hlock,
    packLE_natCast hexpiry, he, hf, hg, ?_⟩
  simp only [List.append_assoc, List.append_nil]

/-! ## Two bytes for each long prefix -/

/-- The bytes are the short form, up to two bytes for each long prefix. -/
def Respells (longs : ℕ) (short : Except PyError Bytes) (bytes : Bytes) : Prop :=
  ∃ c, short = .ok c ∧ bytes.length = c.length + 2 * longs ∧ (longs = 0 → bytes = c)

/-- A length that is written again takes two bytes less if it was spelled long. -/
theorem LengthPrefix.respells {longs n : ℕ} {bytes : Bytes} (h : LengthPrefix longs n bytes) :
    Respells longs (varint n) bytes := by
  rcases h with ⟨rfl, hshort⟩ | ⟨rfl, hsmall, rfl⟩
  · exact ⟨bytes, hshort, rfl, fun _ => rfl⟩
  · refine ⟨[UInt8.ofNat n], ?_, ?_, fun h => absurd h one_ne_zero⟩
    · rw [varint, if_pos hsmall]
    · rw [List.length_cons, leBytes_length]
      rfl

/-- An input that is written again, -/
theorem SpelledIn.respells {longs : ℕ} {i : TxIn} {bytes : Bytes} (h : SpelledIn longs i bytes) :
    Respells longs (serializeIn i) bytes := by
  obtain ⟨vout, slen, sequence, -, hvout, hslen, hsequence, rfl⟩ := h
  obtain ⟨c, hc, hlen, hshort⟩ := hslen.respells
  refine ⟨i.prevTxid ++ vout ++ c ++ i.scriptSig ++ sequence, ?_, ?_, ?_⟩
  · rw [serializeIn, hvout, hc, hsequence]
    rfl
  · simp only [List.length_append]
    omega
  · intro hzero
    rw [hshort hzero]

/-- an output, -/
theorem SpelledOut.respells {longs : ℕ} {o : TxOut} {bytes : Bytes}
    (h : SpelledOut longs o bytes) : Respells longs (serializeOut o) bytes := by
  obtain ⟨value, slen, hvalue, hslen, rfl⟩ := h
  obtain ⟨c, hc, hlen, hshort⟩ := hslen.respells
  refine ⟨value ++ c ++ o.script, ?_, ?_, ?_⟩
  · rw [serializeOut, hvalue, hc]
    rfl
  · simp only [List.length_append]
    omega
  · intro hzero
    rw [hshort hzero]

/-- a list of either, -/
theorem SpelledAll.respells {α : Type} {S : ℕ → α → Bytes → Prop} {f : α → Except PyError Bytes}
    (hS : ∀ longs a bytes, S longs a bytes → Respells longs (f a) bytes) {longs : ℕ}
    {as : List α} {bytes : Bytes} (h : SpelledAll S longs as bytes) :
    Respells longs ((as.mapM f).map List.flatten) bytes := by
  induction h with
  | nil => exact ⟨[], rfl, rfl, fun _ => rfl⟩
  | @cons m n a as front back ha _ ih =>
      obtain ⟨c, hc, hlen, hshort⟩ := hS m a front ha
      obtain ⟨d, hd, hlens, hshorts⟩ := ih
      cases hrest : as.mapM f with
      | error e =>
          rw [hrest] at hd
          cases hd
      | ok ds =>
          rw [hrest] at hd
          obtain rfl : ds.flatten = d := Except.ok.inj hd
          refine ⟨c ++ ds.flatten, ?_, ?_, ?_⟩
          · rw [List.mapM_cons, hc, hrest]
            rfl
          · rw [List.length_append, List.length_append]
            omega
          · intro hzero
            rw [hshort (by omega), hshorts (by omega)]

/-- **and a transaction lose two bytes for each long length.** -/
theorem SpelledV4.respells {longs : ℕ} {tx : TxV4} {raw : Bytes} (h : SpelledV4 longs tx raw) :
    Respells longs (serializeV4 tx) raw := by
  obtain ⟨a, b, c, d, e, f, g, nIn, inputs, nOut, outputs, lockTime, expiryHeight, spends,
    shielded, joinSplits, hlongs, ha, hb, hc, hd, hlock, hexpiry, he, hf, hg, rfl⟩ := h
  obtain ⟨cIn, hcIn, lenIn, shortIn⟩ := ha.respells
  obtain ⟨cIns, hcIns, lenIns, shortIns⟩ := SpelledAll.respells
    (fun k i bytes (h : SpelledIn k i bytes) => h.respells) hb
  obtain ⟨cOut, hcOut, lenOut, shortOut⟩ := hc.respells
  obtain ⟨cOuts, hcOuts, lenOuts, shortOuts⟩ := SpelledAll.respells
    (fun k o bytes (h : SpelledOut k o bytes) => h.respells) hd
  -- the shielded counts are zeros, in either form
  have hzero : varint 0 = .ok [0x00] := rfl
  obtain ⟨cs, hcs, lenS, shortS⟩ := he.respells
  obtain ⟨ch, hch, lenH, shortH⟩ := hf.respells
  obtain ⟨cj, hcj, lenJ, shortJ⟩ := hg.respells
  rw [hzero] at hcs hch hcj
  cases hcs
  cases hch
  cases hcj
  cases hins : tx.inputs.mapM serializeIn with
  | error _ =>
      rw [hins] at hcIns
      cases hcIns
  | ok ins =>
      cases houts : tx.outputs.mapM serializeOut with
      | error _ =>
          rw [houts] at hcOuts
          cases hcOuts
      | ok outs =>
          rw [hins] at hcIns
          rw [houts] at hcOuts
          obtain rfl : ins.flatten = cIns := Except.ok.inj hcIns
          obtain rfl : outs.flatten = cOuts := Except.ok.inj hcOuts
          refine ⟨leBytes 4 v4Header ++ leBytes 4 v4VersionGroup ++ cIn ++ ins.flatten
            ++ cOut ++ outs.flatten ++ lockTime ++ expiryHeight ++ leBytes 8 0
            ++ [0x00, 0x00, 0x00], ?_, ?_, ?_⟩
          · rw [serializeV4, hcIn, hins, hcOut, houts, hlock, hexpiry]
            rfl
          · simp only [List.length_append, List.length_cons, List.length_nil] at *
            omega
          · intro hnone
            rw [shortIn (by omega), shortIns (by omega), shortOut (by omega),
              shortOuts (by omega), shortS (by omega), shortH (by omega), shortJ (by omega)]
            simp only [List.append_assoc, List.cons_append, List.nil_append]

/-- **What is read is what was written**, up to its length prefixes: nothing is
    short, trailing or shielded, and the input is the serialization of what was
    read exactly when no length prefix is longer than it need be. -/
theorem parseV4_spelled {raw : Bytes} {tx : TxV4} (h : parseV4 raw = .ok tx) :
    ∃ longs canonical, SpelledV4 longs tx raw ∧ serializeV4 tx = .ok canonical
      ∧ raw.length = canonical.length + 2 * longs ∧ (serializeV4 tx = .ok raw ↔ longs = 0) := by
  rw [parseV4] at h
  obtain ⟨⟨tx', i⟩, hread, h⟩ := bind_eq_ok h
  dsimp only at h
  split at h
  · cases h
  · rename_i hend
    cases h
    rw [not_not.mp hend] at hread
    obtain ⟨longs, hspelled⟩ := spells_readV4.whole hread
    obtain ⟨canonical, hcanonical, hlen, hshort⟩ := hspelled.respells
    refine ⟨longs, canonical, hspelled, hcanonical, hlen, ?_⟩
    constructor
    · intro hraw
      rw [hcanonical] at hraw
      rw [Except.ok.inj hraw] at hlen
      omega
    · intro hnone
      rw [hcanonical, hshort hnone]

end Spelled

/-- A transaction without inputs and outputs whose input count stands behind the
    marker. -/
def longCount : Bytes :=
  leBytes 4 v4Header ++ leBytes 4 v4VersionGroup ++ [0xFD, 0, 0] ++ [0] ++ leBytes 4 0
    ++ leBytes 4 0 ++ leBytes 8 0 ++ [0, 0, 0]

theorem parseV4_longCount : parseV4 longCount = .ok { inputs := [], outputs := [] } := by
  decide +kernel

/-- It is read, and written shorter. -/
theorem parseV4_nonMinimal :
    parseV4 longCount = .ok { inputs := [], outputs := [] }
      ∧ serializeV4 { inputs := [], outputs := [] } ≠ .ok longCount := by
  refine ⟨parseV4_longCount, ?_⟩
  decide +kernel

/-- The one long prefix of that input. -/
theorem parseV4_spelled_longCount :
    ∃ longs canonical, SpelledV4 longs { inputs := [], outputs := [] } longCount
      ∧ serializeV4 { inputs := [], outputs := [] } = .ok canonical
      ∧ longCount.length = canonical.length + 2 * longs
      ∧ (serializeV4 { inputs := [], outputs := [] } = .ok longCount ↔ longs = 0) :=
  parseV4_spelled parseV4_longCount

end SwapsackZcashTx
