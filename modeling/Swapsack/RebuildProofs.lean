import Swapsack.BtcProofs
import Swapsack.RbfProofs
import Swapsack.UtxoProofs

/-! # Rebuilding a replaced transaction

    The bump's promise is that the memo is kept byte for byte.  The original's
    OP_RETURN script is read by `decodeOpReturn`, carried through the plan as a
    payload, and written again by `encodeOpReturn`.  The decoder accepts more
    than the encoder writes — other pushes, several of them, truncated ones,
    trailing bytes — so a rebuilt script is the original's exactly when the
    original is a canonical push.

    * `rebuilt_opReturn_iff` — the bump's round trip;
    * `builtFrom_script` — whatever the builders write, the payload the gates
      read determines the script. -/

namespace SwapsackRebuild

open ListKit ByteString PyText SwapsackBase SwapsackCoins SwapsackBtc SwapsackRbf
open SwapsackUtxo

section Rebuild

variable {κ : Type} (ad : UtxoAdapter κ)

/-- One output of the plan, as the chain library takes it. -/
def rebuildOutput (out : TxOutput) : Except PyError LibOutput :=
  match out.opReturnData with
  | some data => addOpReturn ad out.value data
  | none => addOutput ad out.value out.address

/-- Rebuild a mempool transaction with a higher fee: no coin selection and no
    fee maths, the plan has fixed both. -/
def buildReplacement (mnemonic : String) (replacement : Replacement) :
    Except PyError (BuiltSwap κ) := do
  let inputs ← replacement.inputs.mapM (addInput ad mnemonic ad.defaultDerivation)
  let outs ← replacement.outputs.mapM (rebuildOutput ad)
  let tx : Transaction κ := { inputs, outputs := outs }
  let outputs ← extractOutputs tx
  .ok { tx, outputs, fee := replacement.fee
        changeAddress := replacement.changeAddress, keys := inputs.map TxInput.key
        inputs := replacement.inputs }

end Rebuild

section Rebuilt

variable {κ : Type} {ad : UtxoAdapter κ} {mnemonic : String}

theorem buildReplacement_steps {r : Replacement} {built : BuiltSwap κ}
    (h : buildReplacement ad mnemonic r = .ok built) :
    r.outputs.mapM (rebuildOutput ad) = .ok built.tx.outputs
      ∧ extractOutputs built.tx = .ok built.outputs := by
  rw [buildReplacement] at h
  obtain ⟨inputs, -, h⟩ := bind_eq_ok h
  obtain ⟨outs, houts, h⟩ := bind_eq_ok h
  obtain ⟨outputs, houtputs, h⟩ := bind_eq_ok h
  cases h
  exact ⟨houts, houtputs⟩

/-! ## The payload determines the script -/

/-- An output as the builders make one: an address paid, or a payload encoded. -/
def BuiltFrom (ad : UtxoAdapter κ) (o : LibOutput) : Prop :=
  (∃ value address, addOutput ad value (some address) = .ok o)
    ∨ ∃ value data, addOpReturn ad value data = .ok o

theorem builtFrom_rebuildOutput {out : TxOutput} {o : LibOutput}
    (h : rebuildOutput ad out = .ok o) : BuiltFrom ad o := by
  rw [rebuildOutput] at h
  split at h
  · exact Or.inr ⟨_, _, h⟩
  · cases ha : out.address with
    | none => rw [ha] at h; exact nomatch h
    | some address =>
        rw [ha] at h
        exact Or.inl ⟨_, _, h⟩

/-- What the gates read from a built output determines its whole script. -/
theorem builtFrom_script (hcodec : AddressCodec ad) {o : LibOutput} {out : TxOutput}
    {data : Bytes} (ho : BuiltFrom ad o) (hout : extractOutput o = .ok out)
    (hdata : out.opReturnData = some data) :
    encodeOpReturn data = .ok o.lockScript := by
  rw [extractOutput] at hout
  rcases ho with ⟨value, address, ho⟩ | ⟨value, payload, ho⟩
  · -- an address is never paid by an OP_RETURN script
    obtain ⟨s, hs, rfl⟩ := addOutput_ok ho
    rw [if_neg (hcodec.not_opReturn hs)] at hout
    cases hout
    cases hdata
  · obtain ⟨script, hscript, ho⟩ := bind_eq_ok ho
    cases ho
    split at hout
    · obtain ⟨d, hd, hout⟩ := bind_eq_ok hout
      cases hout
      rw [decodeOpReturn_encodeOpReturn hscript] at hd
      obtain rfl := Except.ok.inj hd
      obtain rfl := Option.some.inj hdata
      exact hscript
    · cases hout
      cases hdata

/-- Every output of a build is made one of the two ways. -/
theorem builtFrom_of_buildUnsignedSwap {utxos : List Utxo} {vaultAddress : String}
    {amount : ℤ} {memo : Option Memo} {feeRate : ℚ}
    {changeAddress defaultPath : Option String} {sweep : Bool} {built : BuiltSwap κ}
    (h : buildUnsignedSwap ad mnemonic utxos vaultAddress amount memo feeRate
      changeAddress defaultPath sweep = .ok built) :
    ∀ o ∈ built.tx.outputs, BuiltFrom ad o := by
  obtain ⟨change, vault, memoOuts, changeOuts, -, -, hvault, hmemo, hchange, houts,
    -, -⟩ := buildUnsignedSwap_steps h
  intro o ho
  rw [houts, List.cons_append, List.mem_cons, List.mem_append] at ho
  rcases ho with rfl | ho | ho
  · exact Or.inl ⟨_, _, hvault⟩
  · cases memo with
    | none =>
        cases hmemo
        exact nomatch ho
    | some m =>
        obtain ⟨o', ho', hmemo⟩ := bind_eq_ok hmemo
        cases hmemo
        obtain rfl := List.mem_singleton.mp ho
        exact Or.inr ⟨_, _, ho'⟩
  · rcases changeOutputs_ok hchange with ⟨-, rfl⟩ | ⟨-, o', ho', rfl⟩
    · exact nomatch ho
    · obtain rfl := List.mem_singleton.mp ho
      exact Or.inl ⟨_, _, ho'⟩

theorem builtFrom_of_buildReplacement {r : Replacement} {built : BuiltSwap κ}
    (h : buildReplacement ad mnemonic r = .ok built) :
    ∀ o ∈ built.tx.outputs, BuiltFrom ad o := by
  intro o ho
  have hall := mapM_ok_forall₂ (buildReplacement_steps h).1
  obtain ⟨i, hi⟩ := List.mem_iff_getElem?.mp ho
  obtain ⟨out, -, hout⟩ := forall₂_getElem? hall.flip hi
  exact builtFrom_rebuildOutput hout

/-! ## The bump's round trip -/

/-- A data output that could be read was read off its reported script. -/
theorem entry_payload {item : EsploraOut} {script data : Bytes}
    (hscript : item.scriptpubkey.bind fromHex = some script)
    (hdata : (entry item).opReturnData = some data) :
    decodeOpReturn script = .ok data := by
  cases htext : item.scriptpubkey with
  | none => rw [htext] at hscript; exact nomatch hscript
  | some text =>
      rw [htext] at hscript
      have hhex : fromHex text = some script := hscript
      have hread : readPayload text = some data := by
        rw [entry, htext] at hdata
        dsimp only at hdata
        split at hdata
        · rename_i heq
          cases heq
          split at hdata
          · exact nomatch hdata
          · exact hdata
        · exact nomatch hdata
      rw [readPayload, hhex] at hread
      dsimp only at hread
      split at hread
      · rename_i d hd
        rw [hd, Option.some.inj hread]
      · exact nomatch hread

/-- **A rebuilt data script is the original's exactly for a canonical push.** -/
theorem rebuilt_opReturn_iff {payload : EsploraTx} {owned : Owned}
    {changePrefix : String} {feeRate : ℚ} {extraFee : ℤ} {script : ScriptParams}
    {inc : ℚ} {r : Replacement} {built : BuiltSwap κ} {i : ℕ} {item : EsploraOut}
    {original : Bytes}
    (hplan : planReplacement (parseTxSummary payload) owned changePrefix feeRate
      extraFee script inc = .ok r)
    (hbuild : buildReplacement ad mnemonic r = .ok built)
    (hitem : (payload.vout.getD [])[i]? = some item)
    (htype : item.scriptpubkeyType = some "op_return")
    (hscript : item.scriptpubkey.bind fromHex = some original) :
    ∃ o, built.tx.outputs[i]? = some o
      ∧ (o.lockScript = original ↔ CanonicalPush original) := by
  have hentry : (parseTxSummary payload).outputs[i]? = some (entry item) := by
    show ((payload.vout.getD []).map entry)[i]? = _
    rw [List.getElem?_map, hitem, Option.map_some]
  have hop : (entry item).opReturn = true := by
    rw [entry, htype]
    rfl
  obtain ⟨hkept, hsome⟩ := planReplacement_opReturn hplan hentry hop
  obtain ⟨data, hdata⟩ := Option.isSome_iff_exists.mp hsome
  have hdecode := entry_payload hscript hdata
  -- the rebuilt output stands where the original did
  have hall := mapM_ok_forall₂ (buildReplacement_steps hbuild).1
  obtain ⟨o, ho, hrebuilt⟩ := forall₂_getElem? hall hkept
  refine ⟨o, ho, ?_⟩
  have hadd : addOpReturn ad (entry item).value data = .ok o := by
    rw [rebuildOutput, neutralOutput, hdata] at hrebuilt
    exact hrebuilt
  obtain ⟨s, hs, hadd⟩ := bind_eq_ok hadd
  cases hadd
  rw [← encodeOpReturn_decode_iff hdecode (encodeOpReturn_length_le hs), hs]
  exact ⟨fun h => congrArg Except.ok h, fun h => Except.ok.inj h⟩

/-- The payload the gates read at a position determines the script there. -/
theorem extracted_script (hcodec : AddressCodec ad) {tx : Transaction κ}
    {outputs : List TxOutput} (hbuilt : ∀ o ∈ tx.outputs, BuiltFrom ad o)
    (hextract : extractOutputs tx = .ok outputs) {i : ℕ} {out : TxOutput} {data : Bytes}
    (hi : outputs[i]? = some out) (hdata : out.opReturnData = some data) :
    ∃ o, tx.outputs[i]? = some o ∧ encodeOpReturn data = .ok o.lockScript := by
  have hall := mapM_ok_forall₂ hextract
  obtain ⟨o, ho, hout⟩ := forall₂_getElem? hall.flip hi
  exact ⟨o, ho, builtFrom_script hcodec (hbuilt o (List.mem_of_getElem? ho)) hout hdata⟩

end Rebuilt

/-- **The encoder undoes the decoder exactly on canonical pushes.**  For a
    decodable script with a payload that fits, and for every data output of a
    bumped transaction, writing back gives the original script exactly when
    that script is one push, as short as can be, with nothing after it.  What
    the builders sign is always determined by the payload the gates compare. -/
theorem opReturn_roundTrip_iff (original : Bytes) :
    (∀ data : Bytes, decodeOpReturn original = .ok data → data.length ≤ 80 →
      (encodeOpReturn data = .ok original ↔ CanonicalPush original))
    ∧ (∀ {κ : Type} (ad : UtxoAdapter κ) (mnemonic : String) (payload : EsploraTx)
        (owned : Owned) (changePrefix : String) (feeRate : ℚ) (extraFee : ℤ)
        (script : ScriptParams) (inc : ℚ) (r : Replacement) (built : BuiltSwap κ)
        (i : ℕ) (item : EsploraOut),
      planReplacement (parseTxSummary payload) owned changePrefix feeRate extraFee
          script inc = .ok r →
      buildReplacement ad mnemonic r = .ok built →
      (payload.vout.getD [])[i]? = some item →
      item.scriptpubkeyType = some "op_return" →
      item.scriptpubkey.bind fromHex = some original →
      ∃ o, built.tx.outputs[i]? = some o
        ∧ (o.lockScript = original ↔ CanonicalPush original))
    ∧ ∀ {κ : Type} (ad : UtxoAdapter κ) (mnemonic : String) (built : BuiltSwap κ),
      AddressCodec ad →
      ((∃ utxos vaultAddress amount memo feeRate changeAddress defaultPath sweep,
          buildUnsignedSwap ad mnemonic utxos vaultAddress amount memo feeRate
            changeAddress defaultPath sweep = .ok built)
        ∨ ∃ r, buildReplacement ad mnemonic r = .ok built) →
      ∀ (i : ℕ) (out : TxOutput) (data : Bytes), built.outputs[i]? = some out →
        out.opReturnData = some data →
        ∃ o, built.tx.outputs[i]? = some o
          ∧ encodeOpReturn data = .ok o.lockScript := by
  refine ⟨?_, ?_, ?_⟩
  · intro data hdecode hlen
    exact encodeOpReturn_decode_iff hdecode hlen
  · intro κ ad mnemonic payload owned changePrefix feeRate extraFee script inc r built
      i item hplan hbuild hitem htype hscript
    exact rebuilt_opReturn_iff hplan hbuild hitem htype hscript
  · intro κ ad mnemonic built hcodec hbuild i out data hi hdata
    rcases hbuild with ⟨utxos, vaultAddress, amount, memo, feeRate, changeAddress,
      defaultPath, sweep, hbuild⟩ | ⟨r, hbuild⟩
    · obtain ⟨-, -, -, -, -, -, -, -, -, -, hextract, -⟩ := buildUnsignedSwap_steps hbuild
      exact extracted_script hcodec (builtFrom_of_buildUnsignedSwap hbuild) hextract hi
        hdata
    · exact extracted_script hcodec (builtFrom_of_buildReplacement hbuild)
        (buildReplacement_steps hbuild).2 hi hdata

theorem opReturn_roundTrip_iff_one :
    encodeOpReturn [0x61] = .ok [0x6a, 0x01, 0x61]
      ↔ CanonicalPush [0x6a, 0x01, 0x61] :=
  (opReturn_roundTrip_iff [0x6a, 0x01, 0x61]).1 [0x61] (by decide) (by decide)

/-- Two pushes: the second one is neither read nor written back. -/
theorem opReturn_second_push_lost :
    ¬ ∀ script data : Bytes, decodeOpReturn script = .ok data → data.length ≤ 80 →
        encodeOpReturn data = .ok script := by
  intro h
  have hsame := h [0x6a, 0x01, 0x61, 0x01, 0x62] [0x61] (by decide) (by decide)
  exact absurd hsame (by decide)

end SwapsackRebuild
