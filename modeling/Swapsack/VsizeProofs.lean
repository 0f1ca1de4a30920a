import Mathlib.Algebra.Group.Action.Defs
import Mathlib.Tactic.Linarith
import Swapsack.BitcoinWireProofs
import Swapsack.RbfProofs

/-! # The size estimate against the signed transaction

    `estimateVsize` adds up rounded per-part constants before anything is
    signed.  Its segwit input is exact at the longest witness and its overhead
    covers the marker, so it has nothing to spare for the one byte
    `OP_PUSHDATA1` adds from 76 bytes of payload on.

    * `base_size` — the size of a signed shape besides its witnesses;
    * `vsize_le_estimate_iff` — when the estimate covers the signed size;
    * `estimate_covers_iff` — and with it every fee priced from it. -/

namespace SwapsackVsize

open ListKit ByteString BitcoinWire SwapsackBase SwapsackCoins SwapsackSelection
open SwapsackRbf

/-- The two kinds of output the wallet spends and pays itself with. -/
inductive ScriptKind where
  | segwit
  | legacy
deriving DecidableEq

def ScriptKind.params : ScriptKind → ScriptParams
  | .segwit => p2wpkh
  | .legacy => p2pkh

/-- A signed input: native segwit signs in the witness, P2PKH in the script. -/
def ScriptKind.SignedInput : ScriptKind → Input → Prop
  | .segwit, i => (serializeInput i).length = 41 ∧ i.witness.length ≤ 108
  | .legacy, i => (serializeInput i).length ≤ 148 ∧ i.witness = []

/-- The data output for a payload; an empty payload has none. -/
def MemoOutput (data : Bytes) (outs : List Output) : Prop :=
  (data = [] ∧ outs = [])
    ∨ data ≠ [] ∧ ∃ value script, encodeOpReturn data = .ok script
      ∧ outs = [{ value, script }]

/-- A signed spend of the kind, with `nOut` outputs of its own type and an
    OP_RETURN for `data`, whose counts each fit a byte. -/
structure SignedShape (kind : ScriptKind) (tx : Tx) (nOut : ℕ) (data : Bytes) :
    Prop where
  some_input : 1 ≤ tx.inputs.length
  few_inputs : tx.inputs.length ≤ 252
  few_outputs : tx.outputs.length < 253
  inputs : ∀ i ∈ tx.inputs, kind.SignedInput i
  outputs : ∃ own memo, tx.outputs.Perm (own ++ memo) ∧ own.length = nOut
    ∧ (∀ o ∈ own, (serializeOutput o).length = kind.params.outputVb)
    ∧ MemoOutput data memo

/-! ## The size of a signed shape -/

theorem sum_map_eq {α : Type} {f : α → ℕ} {c : ℕ} {l : List α} (h : ∀ a ∈ l, f a = c) :
    (l.map f).sum = l.length * c := by
  rw [List.map_congr_left h, List.map_const', List.sum_replicate, smul_eq_mul]

theorem sum_map_le {α : Type} {f : α → ℕ} {c : ℕ} {l : List α} (h : ∀ a ∈ l, f a ≤ c) :
    (l.map f).sum ≤ l.length * c := by
  have hle := List.sum_le_card_nsmul (l.map f) c (by
    intro x hx
    obtain ⟨a, ha, rfl⟩ := List.mem_map.mp hx
    exact h a ha)
  rwa [List.length_map, smul_eq_mul] at hle

/-- The serialized data output: a second push byte from 76 bytes on. -/
theorem memoOutput_size {data : Bytes} {outs : List Output} (h : MemoOutput data outs) :
    (outs.map fun o => (serializeOutput o).length).sum
      = if data.length = 0 then 0
        else opReturnVb data.length + if data.length ≤ 75 then 0 else 1 := by
  rcases h with ⟨rfl, rfl⟩ | ⟨hne, value, script, hscript, rfl⟩
  · rfl
  · have hlen : data.length ≠ 0 := fun h0 => hne (List.length_eq_zero_iff.mp h0)
    rw [if_neg hlen, List.map_singleton, List.sum_singleton, opReturnVb]
    rcases encodeOpReturn_cases hscript with ⟨hlt, rfl⟩ | ⟨hge, hle, rfl⟩
    · rw [if_pos (by omega), serializeOutput_length (by
        rw [List.length_cons, List.length_cons]
        omega)]
      dsimp only [List.length_cons]
      omega
    · rw [if_neg (by omega), serializeOutput_length (by
        rw [List.length_cons, List.length_cons, List.length_cons]
        omega)]
      dsimp only [List.length_cons]
      omega

section Shape

variable {kind : ScriptKind} {tx : Tx} {nOut : ℕ} {data : Bytes}

/-- **The size of a signed shape** besides its witnesses. -/
theorem base_size (h : SignedShape kind tx nOut data) :
    (stripped tx).length
      = 10 + (tx.inputs.map fun i => (serializeInput i).length).sum
        + nOut * kind.params.outputVb
        + if data.length = 0 then 0
          else opReturnVb data.length + if data.length ≤ 75 then 0 else 1 := by
  obtain ⟨own, memo, hperm, hcount, hown, hmemo⟩ := h.outputs
  have houts : (tx.outputs.map fun o => (serializeOutput o).length).sum
      = ((own ++ memo).map fun o => (serializeOutput o).length).sum :=
    (hperm.map _).sum_eq
  rw [stripped_length (by have := h.few_inputs; omega) h.few_outputs, houts,
    List.map_append, List.sum_append, sum_map_eq hown, hcount, memoOutput_size hmemo]
  omega

/-- **When the estimate covers the signed size**: always for P2PKH and for
    payloads of up to 75 bytes, and else when the witnesses leave two bytes. -/
theorem vsize_le_estimate_iff (h : SignedShape kind tx nOut data) :
    vsize tx ≤ estimateVsize tx.inputs.length nOut data.length kind.params
      ↔ kind = .legacy ∨ data.length ≤ 75
        ∨ (witnesses tx).length + 2 ≤ 108 * tx.inputs.length := by
  have hbase := base_size h
  have hsome := h.some_input
  have hwit := witnesses_length tx
  rw [vsize_eq, hbase, estimateVsize, txOverheadVb]
  cases kind with
  | legacy =>
      have hins := sum_map_le fun i hi => (h.inputs i hi).1
      have hnone : (witnesses tx).length = 0 := by
        rw [hwit, sum_map_eq fun i hi => congrArg List.length (h.inputs i hi).2]
        rfl
      rw [if_pos hnone]
      dsimp only [ScriptKind.params, p2pkh]
      refine ⟨fun _ => Or.inl rfl, fun _ => ?_⟩
      split <;> split <;> omega
  | segwit =>
      have hins := sum_map_eq fun i hi => (h.inputs i hi).1
      have hcap := sum_map_le fun i hi => (h.inputs i hi).2
      rw [← hwit] at hcap
      rw [hins]
      dsimp only [ScriptKind.params, p2wpkh]
      have hnever : ¬ (ScriptKind.segwit = ScriptKind.legacy) := by decide
      split <;> split <;> (try split) <;> simp only [hnever, false_or] <;> omega

/-! ## The fees priced from the estimate -/

/-- Every fee the wallet prices for this shape pays for its signed size: a
    selection's and a sweep's at the rate, a replacement's at the relay fee on
    top of the old fee (BIP125 rule 4). -/
structure FeesCover (kind : ScriptKind) (tx : Tx) (nOut : ℕ) (data : Bytes) : Prop where
  selected : ∀ (utxos : List Utxo) (sendAmount : ℤ) (feeRate : ℚ) (sel : Selection),
    0 ≤ feeRate →
    selectCoins utxos sendAmount feeRate data.length kind.params = .ok sel →
    sel.utxos.length = tx.inputs.length → (if 0 < sel.change then 2 else 1) = nOut →
    feeRate * vsize tx ≤ sel.fee
  swept : ∀ (total : ℤ) (feeRate : ℚ) (extraFee send fee : ℤ), 0 ≤ feeRate →
    0 ≤ extraFee → nOut = 1 →
    sweepAmount total tx.inputs.length feeRate data.length kind.params extraFee
      = .ok (send, fee) →
    feeRate * vsize tx ≤ fee
  replaced : ∀ (original : TxSummary) (owned : Owned) (changePrefix : String)
      (feeRate : ℚ) (extraFee : ℤ) (inc : ℚ) (r : Replacement), 0 ≤ inc →
    planReplacement original owned changePrefix feeRate extraFee kind.params inc
      = .ok r →
    r.inputs.length = tx.inputs.length →
    r.memo = (if data = [] then none else some data) →
    original.outputs.length - (if r.memo.isSome then 1 else 0) = nOut →
    original.fee + inc * vsize tx ≤ r.fee

/-- A fee that pays for a size rounded up pays for any smaller size. -/
theorem mul_le_of_ceil {rate : ℚ} {size bound : ℕ} {fee : ℤ} (hrate : 0 ≤ rate)
    (hsize : size ≤ bound) (hfee : ⌈(bound : ℚ) * rate⌉ ≤ fee) : rate * size ≤ fee := by
  have hceil : (bound : ℚ) * rate ≤ fee := Int.ceil_le.mp hfee
  have hmono : (size : ℚ) * rate ≤ bound * rate :=
    mul_le_mul_of_nonneg_right (by exact_mod_cast hsize) hrate
  linarith

theorem feesCover_of_estimate
    (h : vsize tx ≤ estimateVsize tx.inputs.length nOut data.length kind.params) :
    FeesCover kind tx nOut data := by
  refine ⟨?_, ?_, ?_⟩
  · intro utxos sendAmount feeRate sel hrate hsel hn hout
    have hfee := (selectCoins_sound hrate hsel).fee_covers
    rw [hout, rateFee, hn] at hfee
    exact mul_le_of_ceil hrate h (by omega)
  · intro total feeRate extraFee send fee hrate hextra hone hsweep
    obtain ⟨hfee, -, -⟩ := sweepAmount_ok hsweep
    rw [hone] at h
    exact mul_le_of_ceil hrate h (by omega)
  · intro original owned changePrefix feeRate extraFee inc r hinc hplan hn hmemo hout
    have hfee := planReplacement_relays hplan
    have hlen : (r.memo.getD []).length = data.length := by
      rw [hmemo]
      split
      · rename_i hnil
        rw [hnil]
        rfl
      · rfl
    rw [hn, hout, hlen] at hfee
    have hbound : vsize tx ≤ max original.vsize
        (estimateVsize tx.inputs.length nOut data.length kind.params) :=
      h.trans (le_max_right _ _)
    have hrelay : inc * vsize tx ≤ ((r.fee - original.fee : ℤ) : ℚ) :=
      mul_le_of_ceil hinc hbound (by omega)
    push_cast at hrelay
    linarith

end Shape

/-- **The estimate covers the signed transaction, and every fee with it, exactly
    when** it is P2PKH, or its payload is at most 75 bytes, or its witnesses
    stay two bytes under their longest. -/
theorem estimate_covers_iff (kind : ScriptKind) (tx : Tx) (nOut : ℕ) (data : Bytes)
    (h : SignedShape kind tx nOut data) :
    (vsize tx ≤ estimateVsize tx.inputs.length nOut data.length kind.params
        ∧ FeesCover kind tx nOut data)
      ↔ kind = .legacy ∨ data.length ≤ 75
        ∨ (witnesses tx).length + 2 ≤ 108 * tx.inputs.length := by
  rw [← vsize_le_estimate_iff h]
  exact ⟨fun hcover => hcover.1, fun hsize => ⟨hsize, feesCover_of_estimate hsize⟩⟩

/-! ## A long memo on a segwit spend -/

/-- One input signed at the longest, one output, 76 bytes of payload. -/
def longMemoTx : Tx :=
  { version := 2
    inputs := [{ txid := List.replicate 32 0xAA, index := 0, scriptSig := []
                 sequence := 0xFFFFFFFD, witness := List.replicate 108 0x01 }]
    outputs := [{ value := 20000, script := 0x00 :: 0x14 :: List.replicate 20 0xBB },
                { value := 0
                  script := 0x6A :: 0x4C :: 76 :: List.replicate 76 0x61 }]
    lockTime := 0 }

theorem longMemoTx_shape :
    SignedShape .segwit longMemoTx 1 (List.replicate 76 0x61) := by
  refine ⟨by decide, by decide, by decide, ?_, ?_⟩
  · intro i hi
    obtain rfl := List.mem_singleton.mp hi
    exact ⟨by decide +kernel, by decide +kernel⟩
  · refine ⟨[{ value := 20000, script := 0x00 :: 0x14 :: List.replicate 20 0xBB }], _,
      List.Perm.refl _, rfl, ?_, Or.inr ⟨by decide, 0, _, ?_, rfl⟩⟩
    · intro o ho
      obtain rfl := List.mem_singleton.mp ho
      decide +kernel
    · decide +kernel

theorem estimate_covers_iff_longMemoTx :
    (vsize longMemoTx ≤ estimateVsize 1 1 76 p2wpkh
        ∧ FeesCover .segwit longMemoTx 1 (List.replicate 76 0x61))
      ↔ ScriptKind.segwit = .legacy ∨ (List.replicate 76 (0x61 : UInt8)).length ≤ 75
        ∨ (witnesses longMemoTx).length + 2 ≤ 108 * longMemoTx.inputs.length :=
  estimate_covers_iff .segwit longMemoTx 1 (List.replicate 76 0x61) longMemoTx_shape

/-- The signed transaction is one vbyte larger than estimated. -/
theorem estimate_short_by_one :
    ¬ ∀ (kind : ScriptKind) (tx : Tx) (nOut : ℕ) (data : Bytes),
        SignedShape kind tx nOut data →
        vsize tx ≤ estimateVsize tx.inputs.length nOut data.length kind.params := by
  intro h
  have hle := h .segwit longMemoTx 1 (List.replicate 76 0x61) longMemoTx_shape
  have hsize : vsize longMemoTx = 198 := by decide +kernel
  have hestimate : estimateVsize longMemoTx.inputs.length 1
      (List.replicate 76 (0x61 : UInt8)).length ScriptKind.segwit.params = 197 := by
    decide +kernel
  rw [hsize, hestimate] at hle
  exact absurd hle (by decide)

end SwapsackVsize
