import Mathlib.Algebra.Order.Floor.Semiring
import Mathlib.Tactic.Positivity
import Swapsack.BaseProofs
import Swapsack.BinaryFloatProofs
import Swapsack.FeePackageProofs

/-! # Fee maths and OP_RETURN encoding

    The pure core of a UTXO spend: the child-pays-for-parent surcharge, the
    OP_RETURN codec and the size estimate.  A fee rate is an exact rational, or
    the float that is read from the command line.

    * `decodeOpReturn_encodeOpReturn` — the decoder undoes the encoder;
    * `encodeOpReturn_decode_iff` — the encoder undoes the decoder on exactly
      the scripts that are one minimal push (`CanonicalPush`);
    * `cpfpSurcharge_eq` — a parent's shortfall is charged once, however many
      of its outputs are spent. -/

namespace SwapsackCoins

open ListKit ByteString BinaryFloat FeePackage SwapsackBase

/-! ## Constants and script types -/

def opReturnMaxBytes : ℕ := 80
def opPushdata1 : UInt8 := 0x4C
def opReturnOpcode : UInt8 := 0x6A
def txOverheadVb : ℕ := 11

/-- Per-script-type sizing constants, in vbytes and base units. -/
structure ScriptParams where
  inputVb : ℕ
  outputVb : ℕ
  dust : ℕ
deriving DecidableEq

/-- Native segwit (BTC). -/
def p2wpkh : ScriptParams := { inputVb := 68, outputVb := 31, dust := 294 }

/-- Legacy pay-to-pubkey-hash (DASH). -/
def p2pkh : ScriptParams := { inputVb := 148, outputVb := 34, dust := 546 }

/-- The inputs a spend takes, what it pays in fee and what returns as change. -/
structure Selection where
  utxos : List Utxo
  fee : ℤ
  change : ℤ
deriving DecidableEq

/-! ## Fee rates -/

/-- `float(n)`. -/
def floatOfNat (n : ℕ) : Except PyError Double :=
  if overflowLimit ≤ n then .error .overflowError else .ok (Double.ofRat n)

/-- `math.ceil(x)`. -/
def ceilFloat : Double → Except PyError ℤ
  | .finite q => .ok ⌈q⌉
  | .infinity _ => .error .overflowError
  | .nan => .error (.valueError "cannot convert float NaN to integer")

/-- `math.floor(x)`. -/
def floorFloat : Double → Except PyError ℤ
  | .finite q => .ok ⌊q⌋
  | .infinity _ => .error .overflowError
  | .nan => .error (.valueError "cannot convert float NaN to integer")

/-- `a / b` of two integers, as the value of a float. -/
def trueDiv (a : ℤ) (b : ℕ) : Except PyError ℚ :=
  if overflowLimit ≤ |(a : ℚ) / b| then .error .overflowError
  else .ok (nearest ((a : ℚ) / b))

/-- A fee rate, by what it makes of a size: `math.ceil(vsize * fee_rate)`. -/
class Rate (ρ : Type) where
  cost : ρ → ℕ → Except PyError ℤ

instance : Rate ℚ := ⟨fun feeRate vsize => .ok ⌈(vsize : ℚ) * feeRate⌉⟩

instance : Rate Double :=
  ⟨fun feeRate vsize => do
    let size ← floatOfNat vsize
    ceilFloat (Double.mul size feeRate)⟩

/-- What a finite rate makes of a size, when it makes anything of it. -/
theorem cost_finite_ok {q : ℚ} {n : ℕ} {c : ℤ}
    (h : Rate.cost (Double.finite q) n = .ok c) :
    |(n : ℚ)| < overflowLimit ∧ |nearest n * q| < overflowLimit
      ∧ c = ⌈nearest (nearest n * q)⌉ := by
  obtain ⟨size, hsize, h⟩ := bind_eq_ok h
  rw [floatOfNat] at hsize
  split at hsize
  · cases hsize
  · rename_i hn
    rw [not_le, ← Nat.abs_cast] at hn
    cases hsize
    rw [Double.ofRat_of_lt hn, Double.mul, Double.ofRat] at h
    split at h
    · cases h
    · rename_i hproduct
      cases h
      exact ⟨hn, not_le.mp hproduct, rfl⟩

theorem cost_finite {q : ℚ} {n : ℕ} (hn : |(n : ℚ)| < overflowLimit)
    (hproduct : |nearest n * q| < overflowLimit) :
    Rate.cost (Double.finite q) n = .ok ⌈nearest (nearest n * q)⌉ := by
  have hsize : floatOfNat n = .ok (.finite (nearest n)) := by
    rw [floatOfNat, if_neg (by rwa [not_le, ← Nat.abs_cast]), Double.ofRat_of_lt hn]
  show floatOfNat n >>= _ = _
  rw [hsize, ok_bind, Double.mul, Double.ofRat_of_lt hproduct, ceilFloat]

/-- **A lower rate costs no more**, and costs something where a higher one does. -/
theorem cost_finite_mono {p q : ℚ} {n : ℕ} {c : ℤ} (hp : 0 ≤ p) (hpq : p ≤ q)
    (h : Rate.cost (Double.finite q) n = .ok c) :
    ∃ d, Rate.cost (Double.finite p) n = .ok d ∧ d ≤ c := by
  obtain ⟨hn, hproduct, rfl⟩ := cost_finite_ok h
  have hsize : 0 ≤ nearest n := nearest_nonneg (Nat.cast_nonneg n)
  have hlow : 0 ≤ nearest n * p := mul_nonneg hsize hp
  have hle : nearest n * p ≤ nearest n * q := mul_le_mul_of_nonneg_left hpq hsize
  refine ⟨_, cost_finite hn ?_, Int.ceil_mono (nearest_mono hlow hle)⟩
  rw [abs_of_nonneg hlow]
  rw [abs_of_nonneg (hlow.trans hle)] at hproduct
  exact lt_of_le_of_lt hle hproduct

/-! ## Child-pays-for-parent -/

/-- Base units a child must add so its parent reaches `feeRate`: never negative,
    a well-paid parent gives no refund. -/
def cpfpDeficit {ρ : Type} [Rate ρ] (parentFee : ℤ) (parentVsize : ℕ) (feeRate : ρ) :
    Except PyError ℕ := do
  let cost ← Rate.cost feeRate parentVsize
  .ok (cost - parentFee).toNat

/-- The total deficit of the unconfirmed parents, one entry per parent. -/
def cpfpSurcharge (utxos : List Utxo) : ℕ :=
  ((keyed Utxo.txid Utxo.ancestorDeficit
    (utxos.filter fun u => !u.confirmed)).map Prod.snd).sum

/-- The distinct transactions that created the unconfirmed ones of `utxos`. -/
def mempoolParents (utxos : List Utxo) : List String :=
  ((utxos.filter fun u => !u.confirmed).map Utxo.txid).dedup

/-- **Each parent once**: when the unconfirmed inputs of one parent agree on
    its deficit, the surcharge totals over the distinct parents. -/
theorem cpfpSurcharge_eq {utxos : List Utxo} {deficit : String → ℕ}
    (h : ∀ u ∈ utxos, u.confirmed = false → u.ancestorDeficit = deficit u.txid) :
    cpfpSurcharge utxos = ((mempoolParents utxos).map deficit).sum := by
  refine sum_keyed ?_
  intro u hu
  obtain ⟨hmem, hconf⟩ := List.mem_filter.mp hu
  exact h u hmem (by simpa using hconf)

/-! ## OP_RETURN -/

/-- The OP_RETURN payload of a memo; no memo gives no bytes. -/
def memoBytes : Option Memo → Bytes
  | none => []
  | some (.text s) => encodeUtf8 s
  | some (.binary b) => b

/-- `OP_RETURN <push> <data>`. -/
def encodeOpReturn (data : Bytes) : Except PyError Bytes :=
  if data.length > opReturnMaxBytes then
    .error (.valueError
      s!"OP_RETURN data {data.length} bytes exceeds {opReturnMaxBytes}")
  else if data.length < opPushdata1.toNat then
    .ok ([opReturnOpcode, UInt8.ofNat data.length] ++ data)
  else
    .ok ([opReturnOpcode, opPushdata1, UInt8.ofNat data.length] ++ data)

/-- The payload of an OP_RETURN script. -/
def decodeOpReturn : Bytes → Except PyError Bytes
  | [] => .error (.valueError "not an OP_RETURN script")
  | op :: script =>
      if op ≠ opReturnOpcode then .error (.valueError "not an OP_RETURN script")
      else
        match script with
        | [] => .error (.valueError "OP_RETURN script carries no data push")
        | push :: rest =>
            if push = opPushdata1 then
              match rest with
              | [] => .error (.valueError "truncated OP_PUSHDATA1 OP_RETURN script")
              | len :: body => .ok (body.take len.toNat)
            else .ok (rest.take push.toNat)

/-- One push, as short as it can be written, and nothing after it: the length
    byte counts what follows it, alone below `OP_PUSHDATA1` and behind that
    opcode from there on. -/
def CanonicalPush (script : Bytes) : Prop :=
  (∃ len body, script = opReturnOpcode :: len :: body
      ∧ body.length = len.toNat ∧ len.toNat < opPushdata1.toNat)
  ∨ (∃ len body, script = opReturnOpcode :: opPushdata1 :: len :: body
      ∧ body.length = len.toNat ∧ opPushdata1.toNat ≤ len.toNat)

theorem opPushdata1_toNat : opPushdata1.toNat = 76 := rfl

/-- The two forms the encoder writes. -/
theorem encodeOpReturn_cases {data script : Bytes}
    (h : encodeOpReturn data = .ok script) :
    (data.length < 76 ∧ script = opReturnOpcode :: UInt8.ofNat data.length :: data)
    ∨ (76 ≤ data.length ∧ data.length ≤ 80
        ∧ script = opReturnOpcode :: opPushdata1 :: UInt8.ofNat data.length :: data) := by
  rw [encodeOpReturn, opReturnMaxBytes] at h
  split at h
  · exact nomatch h
  · split at h
    · rename_i hlt
      exact Or.inl ⟨hlt, (Except.ok.inj h).symm⟩
    · rename_i hle hlt
      rw [opPushdata1_toNat] at hlt
      exact Or.inr ⟨by omega, by omega, (Except.ok.inj h).symm⟩

theorem encodeOpReturn_length_le {data script : Bytes}
    (h : encodeOpReturn data = .ok script) : data.length ≤ 80 := by
  rcases encodeOpReturn_cases h with ⟨hlt, -⟩ | ⟨-, hle, -⟩
  · omega
  · exact hle

/-- Eighty bytes are not refused. -/
theorem encodeOpReturn_isOk {data : Bytes} (h : data.length ≤ 80) :
    ∃ script, encodeOpReturn data = .ok script := by
  rw [encodeOpReturn, opReturnMaxBytes]
  rw [if_neg (not_lt.mpr h)]
  split
  · exact ⟨_, rfl⟩
  · exact ⟨_, rfl⟩

private theorem lengthByte {n : ℕ} (h : n ≤ 80) : (UInt8.ofNat n).toNat = n := by
  rw [UInt8.toNat_ofNat']
  omega

/-- What the encoder writes is a canonical push. -/
theorem canonicalPush_of_encodeOpReturn {data script : Bytes}
    (h : encodeOpReturn data = .ok script) : CanonicalPush script := by
  rcases encodeOpReturn_cases h with ⟨hlt, rfl⟩ | ⟨hge, hle, rfl⟩
  · have hb := lengthByte (n := data.length) (by omega)
    refine Or.inl ⟨_, data, rfl, hb.symm, ?_⟩
    rw [hb, opPushdata1_toNat]
    exact hlt
  · have hb := lengthByte hle
    refine Or.inr ⟨_, data, rfl, hb.symm, ?_⟩
    rw [hb, opPushdata1_toNat]
    exact hge

private theorem shortPush_ne {n : ℕ} (h : n < 76) : UInt8.ofNat n ≠ opPushdata1 := by
  intro heq
  have hnat := congrArg UInt8.toNat heq
  rw [lengthByte (by omega), opPushdata1_toNat] at hnat
  omega

/-- **The decoder undoes the encoder.** -/
theorem decodeOpReturn_encodeOpReturn {data script : Bytes}
    (h : encodeOpReturn data = .ok script) : decodeOpReturn script = .ok data := by
  rcases encodeOpReturn_cases h with ⟨hlt, rfl⟩ | ⟨-, hle, rfl⟩
  · unfold decodeOpReturn
    simp only [ne_eq, not_true_eq_false, if_false, if_neg (shortPush_ne hlt)]
    rw [lengthByte (by omega), List.take_length]
  · rw [decodeOpReturn]
    simp only [ne_eq, not_true_eq_false, if_false, if_true]
    rw [lengthByte hle, List.take_length]

/-- A canonical push of at most eighty bytes is re-encoded byte for byte. -/
theorem encodeOpReturn_of_canonicalPush {script data : Bytes}
    (hc : CanonicalPush script) (hd : decodeOpReturn script = .ok data)
    (hlen : data.length ≤ 80) : encodeOpReturn data = .ok script := by
  rcases hc with ⟨len, body, rfl, hbody, hlt⟩ | ⟨len, body, rfl, hbody, hge⟩
  · have hne : len ≠ opPushdata1 := by
      rintro rfl
      exact absurd hlt (lt_irrefl _)
    unfold decodeOpReturn at hd
    simp only [ne_eq, not_true_eq_false, if_false, if_neg hne] at hd
    rw [← hbody, List.take_length] at hd
    rw [← Except.ok.inj hd] at hlen ⊢
    rw [encodeOpReturn, opReturnMaxBytes]
    rw [if_neg (by omega), if_pos (by omega), hbody, UInt8.ofNat_toNat]
    rfl
  · rw [decodeOpReturn] at hd
    simp only [ne_eq, not_true_eq_false, if_false, if_true] at hd
    rw [← hbody, List.take_length] at hd
    rw [← Except.ok.inj hd] at hlen ⊢
    rw [encodeOpReturn, opReturnMaxBytes]
    rw [if_neg (by omega), if_neg (by omega), hbody, UInt8.ofNat_toNat]
    rfl

/-- **The encoder undoes the decoder exactly on canonical pushes.** -/
theorem encodeOpReturn_decode_iff {script data : Bytes}
    (hd : decodeOpReturn script = .ok data) (hlen : data.length ≤ 80) :
    encodeOpReturn data = .ok script ↔ CanonicalPush script :=
  ⟨canonicalPush_of_encodeOpReturn,
    fun hc => encodeOpReturn_of_canonicalPush hc hd hlen⟩

/-! ## Size estimate and sweep -/

/-- An OP_RETURN output: value, script length, opcode, push and payload. -/
def opReturnVb (dataLen : ℕ) : ℕ := 8 + 1 + 2 + dataLen

/-- The estimated vsize of a spend of `nInputs` inputs into `nOutputs` outputs
    of `script`'s type, plus an OP_RETURN when it carries a payload. -/
def estimateVsize (nInputs nOutputs opReturnLen : ℕ) (script : ScriptParams) : ℕ :=
  let vsize := txOverheadVb + nInputs * script.inputVb + nOutputs * script.outputVb
  if opReturnLen ≠ 0 then vsize + opReturnVb opReturnLen else vsize

theorem estimateVsize_mono_outputs (n : ℕ) {m m' : ℕ} (memoLen : ℕ)
    (script : ScriptParams) (h : m ≤ m') :
    estimateVsize n m memoLen script ≤ estimateVsize n m' memoLen script := by
  have hmul : m * script.outputVb ≤ m' * script.outputVb :=
    Nat.mul_le_mul_right _ h
  unfold estimateVsize
  dsimp only
  split <;> omega

/-- `(sendAmount, fee)` for sweeping `total` into one output. -/
def sweepAmount (total : ℤ) (nInputs : ℕ) (feeRate : ℚ) (memoLen : ℕ)
    (script : ScriptParams) (extraFee : ℤ) : Except PyError (ℤ × ℤ) :=
  let fee := ⌈(estimateVsize nInputs 1 memoLen script : ℚ) * feeRate⌉ + extraFee
  let send := total - fee
  if send < script.dust then
    .error (.insufficientFunds s!"balance {total} too small to sweep after fee {fee}")
  else .ok (send, fee)

/-- What a sweep that is not refused reserves and sends. -/
theorem sweepAmount_ok {total : ℤ} {nInputs : ℕ} {feeRate : ℚ} {memoLen : ℕ}
    {script : ScriptParams} {extraFee send fee : ℤ}
    (h : sweepAmount total nInputs feeRate memoLen script extraFee = .ok (send, fee)) :
    fee = ⌈(estimateVsize nInputs 1 memoLen script : ℚ) * feeRate⌉ + extraFee
      ∧ send + fee = total ∧ (script.dust : ℤ) ≤ send := by
  unfold sweepAmount at h
  dsimp only at h
  split at h
  · exact nomatch h
  · rename_i hdust
    obtain ⟨rfl, rfl⟩ := Prod.mk.inj (Except.ok.inj h)
    exact ⟨rfl, by omega, by omega⟩

/-! ## ZIP-317 (Zcash) -/

def zip317MarginalFee : ℕ := 5000
def zip317GraceActions : ℕ := 2
def dustZec : ℕ := 546

/-- The ZIP-317 conventional fee of a transparent-only transaction. -/
def zip317Fee (nInputs nOutputs memoLen : ℕ) : ℕ :=
  let inActions := ⌈((nInputs * 150 : ℕ) : ℚ) / 150⌉₊
  let outBytes := nOutputs * 34
  -- one more byte for the OP_PUSHDATA1 a long memo needs
  let outBytes := if memoLen ≠ 0 then outBytes + (opReturnVb memoLen + 1) else outBytes
  let outActions := ⌈(outBytes : ℚ) / 34⌉₊
  zip317MarginalFee * max (max zip317GraceActions inActions) outActions

theorem zip317Fee_mono_outputs (n : ℕ) {m m' : ℕ} (memoLen : ℕ) (h : m ≤ m') :
    zip317Fee n m memoLen ≤ zip317Fee n m' memoLen := by
  have hmul : m * 34 ≤ m' * 34 := Nat.mul_le_mul_right _ h
  unfold zip317Fee
  dsimp only
  gcongr
  split <;> omega

/-- `(sendAmount, fee)` for sweeping `total` into one output, under ZIP-317. -/
def sweepAmountZip317 (total : ℤ) (nInputs memoLen dust : ℕ) :
    Except PyError (ℤ × ℤ) :=
  let fee : ℤ := zip317Fee nInputs 1 memoLen
  let send := total - fee
  if send < dust then
    .error (.insufficientFunds s!"balance {total} too small to sweep after fee {fee}")
  else .ok (send, fee)

end SwapsackCoins
