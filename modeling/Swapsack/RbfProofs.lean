import Swapsack.SelectionProofs
import Swapsack.PyTextProofs

/-! # Planning a BIP125 fee-bump replacement

    A stuck transaction is replaced by one that spends the same inputs and
    pays more.  Only the change output may move: `planReplacement` takes the
    bump out of it and refuses whatever it cannot rebuild exactly.

    The planner splits in two.  `planShape` finds the inputs, the change, the
    memo and the payee, and does not look at a rate; `priceReplacement` sets
    the fee for a shape and a rate, exact or a float.  Accordingly:

    * `planShape_isOk` — the transactions a shape is found for, exactly;
    * `priceReplacement_ok_iff` — a shape is priced when the change can pay;
    * `planReplacement_sound` — same inputs, same outputs, the change shrunk
      by exactly the bump;
    * `planReplacement_suggestion_iff` — when the rate a refusal names is accepted
      and a hundredth more is not: it is worked out in floats. -/

namespace SwapsackRbf

open ListKit ByteString BinaryFloat FeePackage PyText SwapsackBase SwapsackCoins

/-- BIP125 rule 4, at the default policy of one sat per vbyte. -/
def incrementalRelayFee : Double := .finite 1

/-! ## Refusals -/

/-- What `_too_little_change` concludes after saying what the bump would leave. -/
inductive ChangeVerdict where
  | parents (extraFee : ℤ)
  | relay (required : ℤ)
  | bestRate (rate : ℚ)

/-- Why the change output cannot fund a bump. -/
structure TooLittleChange where
  fee : ℤ
  left : ℤ
  dust : ℕ
  headroom : ℤ
  verdict : ChangeVerdict

/-- The rate the refusal tells the user to try, as it is printed: `--fee-rate r`. -/
def TooLittleChange.namesRate (w : TooLittleChange) : Option ℚ :=
  match w.verdict with
  | .bestRate rate => some (printed2 rate)
  | _ => none

/-- What the bump would leave, and the room there is. -/
def TooLittleChange.over (w : TooLittleChange) : String :=
  let fee := w.fee
  let left := w.left
  let dust := w.dust
  let headroom := w.headroom
  s!"bumping to {fee} sats would leave {left} sats of change, under the {dust}-sat dust limit. The change output has only {headroom} sats of headroom above dust"

def TooLittleChange.text (w : TooLittleChange) : String :=
  let tooLittle := w.over
  match w.verdict with
  | .parents extraFee =>
      s!"{tooLittle}, which is less than the {extraFee} sats its own unconfirmed parent(s) need to reach this rate (child-pays-for-parent) — so this transaction cannot be fee-bumped. Spending its change with --allow-unconfirmed lifts the whole package instead"
  | .relay required =>
      s!"{tooLittle}, which is less than the {required} sats BIP125 requires on top of the old fee just to relay a replacement — so this transaction cannot be fee-bumped. Child-pays-for-parent (spend its change with --allow-unconfirmed) is the remaining option"
  | .bestRate rate =>
      let shown := format2 rate
      s!"{tooLittle}, so the most it can be bumped to is {shown} sat/vB (--fee-rate {shown})"

/-- The rate is named as the option the user types it back with. -/
theorem TooLittleChange.text_namesRate {w : TooLittleChange} {r : ℚ}
    (h : w.namesRate = some r) :
    ∃ advice, w.text = advice ++ ("(--fee-rate " ++ format2 r ++ ")") := by
  rw [namesRate] at h
  split at h
  · rename_i rate hverdict
    obtain rfl : printed2 rate = r := Option.some.inj h
    have hsplit : " sat/vB (--fee-rate " = " sat/vB " ++ "(--fee-rate " := by decide
    refine ⟨w.over ++ (", so the most it can be bumped to is "
      ++ (format2 rate ++ " sat/vB ")), ?_⟩
    rw [format2_printed2, text]
    rw [hverdict]
    simp only [hsplit, String.append_assoc]
    rfl
  · exact nomatch h

/-- This transaction cannot be fee-bumped, and why. -/
inductive NotReplaceable where
  | confirmed (blockHeight : Option ℤ)
  | notSignalling
  | noOutpoint
  | notOwned (txid : String) (vout : ℤ) (address : Option String)
  | noInputs
  | noChange
  | ambiguousChange (ours internal : ℕ)
  | manyMemos (count : ℕ)
  | unreadableMemo
  | notOnePayee (count : ℕ)
  | tooLittleChange (why : TooLittleChange)
  | cannotPrice (why : String)

/-- The rate a refusal names as `--fee-rate r`. -/
def NotReplaceable.namesRate : NotReplaceable → Option ℚ
  | .tooLittleChange why => why.namesRate
  | _ => none

def NotReplaceable.text : NotReplaceable → String
  | .confirmed blockHeight =>
      let height := strOfInt blockHeight
      s!"already confirmed in block {height} — a mined transaction cannot be replaced"
  | .notSignalling =>
      "this transaction does not signal BIP125 opt-in RBF, so standard nodes will not accept a replacement for it. Child-pays-for-parent (spend its output with --allow-unconfirmed) is the way to unstick it"
  | .noOutpoint =>
      "the explorer did not report this transaction's input outpoint; a replacement must spend the very same outputs and there is nothing here to spend"
  | .notOwned txid vout address =>
      let shown := strOf address
      s!"input {txid}:{vout} pays from {shown}, which is not an address of this wallet — the replacement could not be signed"
  | .noInputs => "transaction has no inputs to re-spend"
  | .noChange =>
      "this transaction has no change output to take the bump from (a sweep spends everything). Raising its fee would mean adding another input, which changes what is being spent — not something this command will do behind your back"
  | .ambiguousChange ours internal =>
      s!"ambiguous change: {ours} outputs pay this wallet and {internal} of them are on the change branch, so which one to shrink is a guess"
  | .manyMemos count =>
      s!"transaction carries {count} OP_RETURN outputs; this wallet builds at most one"
  | .unreadableMemo =>
      "could not read this transaction's OP_RETURN payload, and a swap memo must be reproduced byte-for-byte"
  | .notOnePayee count =>
      s!"expected one recipient output besides the change, found {count} — this is not a transaction shape this wallet builds"
  | .tooLittleChange why => why.text
  | .cannotPrice why => s!"cannot price this transaction's inputs: {why}"

/-- Why a plan comes to nothing: it is refused, or its arithmetic raises. -/
inductive PlanError where
  | refused (why : NotReplaceable)
  | raised (e : PyError)

/-! ## The shape of a replacement -/

/-- The rebuilt transaction: same inputs, same outputs, more fee, less change. -/
structure Replacement where
  inputs : List Utxo
  outputs : List TxOutput
  fee : ℤ
  oldFee : ℤ
  vsize : ℕ
  changeIndex : ℕ
  changeAddress : String
  recipient : String
  amount : ℤ
  memo : Option Bytes

/-- `owned` is the wallet's addresses, each with its derivation path. -/
abbrev Owned := String → Option String

/-- One of the original's inputs as a spendable output. -/
def inputWithPath (owned : Owned) (entry : TxEntry) : Except NotReplaceable Utxo :=
  match entry.txid, entry.vout with
  | some txid, some vout =>
      match owned (entry.address.getD "") with
      | none => .error (.notOwned txid vout entry.address)
      | some path =>
          .ok { txid, vout, value := entry.value
                address := entry.address.getD "", path := some path }
  | _, _ => .error .noOutpoint

/-- The original's inputs, or a refusal when one cannot be signed. -/
def inputsWithPaths (tx : TxSummary) (owned : Owned) :
    Except NotReplaceable (List Utxo) :=
  match tx.inputs.mapM (inputWithPath owned) with
  | .error e => .error e
  | .ok [] => .error .noInputs
  | .ok utxos => .ok utxos

/-- An output that pays us and carries no data: it may be our change. -/
def paysUs (owned : Owned) (o : TxEntry) : Bool :=
  o.opReturnData.isNone && !o.opReturn
    && match o.address with
       | some address => (owned address).isSome
       | none => false

/-- `tx.outputs[i]`; only positions taken from the list itself are asked for. -/
def outputAt (tx : TxSummary) (i : ℕ) : TxEntry := tx.outputs.getD i { value := 0 }

/-- The output at `i` pays an address on the internal branch. -/
def onChangeBranch (tx : TxSummary) (owned : Owned) (changePrefix : String)
    (i : ℕ) : Bool :=
  match ((outputAt tx i).address).bind owned with
  | some path => startsWith path changePrefix
  | none => false

/-- Which output is our change; the internal branch settles a self-send. -/
def changeIndex (tx : TxSummary) (owned : Owned) (changePrefix : String) :
    Except NotReplaceable ℕ :=
  match indicesWhere (fun _ o => paysUs owned o) tx.outputs with
  | [] => .error .noChange
  | [i] => .ok i
  | ours@(_ :: _ :: _) =>
      match ours.filter (onChangeBranch tx owned changePrefix) with
      | [i] => .ok i
      | internal => .error (.ambiguousChange ours.length internal.length)

/-- The memo to carry over: at most one, and it must have been readable. -/
def planMemo (tx : TxSummary) : Except NotReplaceable (Option Bytes) :=
  match tx.outputs.filter TxEntry.opReturn with
  | [] => .ok none
  | [o] =>
      match o.opReturnData with
      | none => .error .unreadableMemo
      | some data => .ok (some data)
  | memos => .error (.manyMemos memos.length)

/-- The positions of the outputs besides the change that carry no data. -/
def payees (tx : TxSummary) (change : ℕ) : List ℕ :=
  indicesWhere (fun i o => decide (i ≠ change) && !o.opReturn) tx.outputs

/-- The one recipient output besides the change. -/
def planPayee (tx : TxSummary) (change : ℕ) : Except NotReplaceable TxEntry :=
  match payees tx change with
  | [i] => .ok (outputAt tx i)
  | others => .error (.notOnePayee others.length)

/-- What a replacement keeps of the original, whatever it pays. -/
structure Shape where
  inputs : List Utxo
  changeIndex : ℕ
  memo : Option Bytes
  payee : TxEntry

/-- `plan_replacement` up to the fee: everything that does not depend on a rate. -/
def planShape (tx : TxSummary) (owned : Owned) (changePrefix : String) :
    Except NotReplaceable Shape :=
  if tx.confirmed then .error (.confirmed tx.blockHeight)
  else if !tx.signalsRbf then .error .notSignalling
  else do
    let inputs ← inputsWithPaths tx owned
    let change ← changeIndex tx owned changePrefix
    let memo ← planMemo tx
    let payee ← planPayee tx change
    .ok { inputs, changeIndex := change, memo, payee }

/-! ## The price of a replacement -/

section Pricing

variable {ρ : Type} [Rate ρ]

/-- The fee a replacement must pay to reach `feeRate` and still relay. -/
def replacementFee (oldFee : ℤ) (vsize : ℕ) (feeRate : ρ) (extraFee : ℤ)
    (replacementVsize : Option ℕ) (incrementalRelayFee : ρ) : Except PyError ℤ := do
  let cost ← Rate.cost feeRate vsize
  let target := cost + extraFee
  let relayVsize := replacementVsize.getD vsize
  let relay ← Rate.cost incrementalRelayFee relayVsize
  let floor := oldFee + relay
  .ok (max target floor)

/-- `math.floor(for_rate / vsize * 100) / 100`, and zero without a size. -/
def suggestedRate (forRate : ℤ) (vsize : ℕ) : Except PyError ℚ :=
  if vsize ≠ 0 then do
    let quotient ← trueDiv forRate vsize
    let hundredths ← floorFloat (Double.mul (.finite quotient) (.finite 100))
    trueDiv hundredths 100
  else .ok 0

/-- What there is to be said about a change that cannot fund the bump. -/
def changeVerdict (tx : TxSummary) (ceiling floor extraFee : ℤ) :
    Except PyError ChangeVerdict :=
  if extraFee > ceiling then .ok (.parents extraFee)
  else if floor > ceiling then .ok (.relay (floor - tx.fee))
  else do
    -- what is left for the rate once the surcharge has taken its cut
    let forRate := ceiling - extraFee
    let rate ← suggestedRate forRate tx.vsize
    .ok (.bestRate rate)

/-- Why the change cannot fund this bump, and the best rate that fits. -/
def tooLittleChange (tx : TxSummary) (oldChange fee : ℤ) (script : ScriptParams)
    (extraFee : ℤ) (replacementVsize : Option ℕ) (incrementalRelayFee : ρ) :
    Except PyError TooLittleChange := do
  let relayVsize := replacementVsize.getD tx.vsize
  let headroom := oldChange - script.dust
  let ceiling := tx.fee + headroom
  let relay ← Rate.cost incrementalRelayFee relayVsize
  let floor := tx.fee + relay
  let verdict ← changeVerdict tx ceiling floor extraFee
  .ok { fee, left := oldChange - (fee - tx.fee), dust := script.dust, headroom, verdict }

/-- An upper bound on the replacement's own size, never below the original's. -/
def replacementVsize (tx : TxSummary) (shape : Shape) (script : ScriptParams) : ℕ :=
  let nValueOutputs := tx.outputs.length - (if shape.memo.isSome then 1 else 0)
  max tx.vsize
    (estimateVsize shape.inputs.length nValueOutputs (shape.memo.getD []).length script)

/-- An output of the original, as the gates read outputs. -/
def neutralOutput (o : TxEntry) : TxOutput :=
  { address := o.address, value := o.value, opReturnData := o.opReturnData }

/-- The original's outputs, with the change output worth `change`. -/
def replacementOutputs (tx : TxSummary) (changeIndex : ℕ) (change : ℤ) :
    List TxOutput :=
  (tx.outputs.map neutralOutput).modify changeIndex fun o => { o with value := change }

/-- The original rebuilt at an absolute fee: only the change is different. -/
def rebuiltAt (tx : TxSummary) (shape : Shape) (fee : ℤ) : Replacement :=
  let old := outputAt tx shape.changeIndex
  { inputs := shape.inputs
    outputs := replacementOutputs tx shape.changeIndex (old.value - (fee - tx.fee))
    fee := fee
    oldFee := tx.fee
    vsize := tx.vsize
    changeIndex := shape.changeIndex
    changeAddress := old.address.getD ""
    recipient := shape.payee.address.getD ""
    amount := shape.payee.value
    memo := shape.memo }

/-- `plan_replacement` from the fee on: price a shape at a rate. -/
def priceReplacement (tx : TxSummary) (shape : Shape) (feeRate : ρ) (extraFee : ℤ)
    (script : ScriptParams) (incrementalRelayFee : ρ) : Except PlanError Replacement := do
  let relayVsize := replacementVsize tx shape script
  let fee ← (replacementFee tx.fee tx.vsize feeRate extraFee (some relayVsize)
    incrementalRelayFee).mapError .raised
  let oldChange := (outputAt tx shape.changeIndex).value
  let change := oldChange - (fee - tx.fee)
  if change < script.dust then do
    let why ← (tooLittleChange tx oldChange fee script extraFee (some relayVsize)
      incrementalRelayFee).mapError .raised
    .error (.refused (.tooLittleChange why))
  else .ok (rebuiltAt tx shape fee)

/-- Plan a fee-bumped rebuild of the mempool transaction `tx`. -/
def planReplacement (tx : TxSummary) (owned : Owned) (changePrefix : String)
    (feeRate : ρ) (extraFee : ℤ) (script : ScriptParams) (incrementalRelayFee : ρ) :
    Except PlanError Replacement := do
  let shape ← (planShape tx owned changePrefix).mapError .refused
  priceReplacement tx shape feeRate extraFee script incrementalRelayFee

end Pricing

/-! ## Which shapes are refused -/

/-- The outputs that may still be our change once the internal branch has been
    consulted: every output that pays us, or, of several, those on it. -/
def changeCandidates (tx : TxSummary) (owned : Owned) (changePrefix : String) :
    List ℕ :=
  let ours := indicesWhere (fun _ o => paysUs owned o) tx.outputs
  if ours.length ≤ 1 then ours
  else ours.filter (onChangeBranch tx owned changePrefix)

theorem changeIndex_ok_iff {tx : TxSummary} {owned : Owned} {changePrefix : String}
    {i : ℕ} :
    changeIndex tx owned changePrefix = .ok i
      ↔ changeCandidates tx owned changePrefix = [i] := by
  unfold changeIndex changeCandidates
  dsimp only
  cases hours : indicesWhere (fun _ o => paysUs owned o) tx.outputs with
  | nil => simp
  | cons a ours =>
      cases ours with
      | nil => simp
      | cons b ours =>
          rw [if_neg (by simp)]
          dsimp only
          cases hint : (a :: b :: ours).filter (onChangeBranch tx owned changePrefix) with
          | nil => simp
          | cons c cs =>
              cases cs with
              | nil => simp
              | cons d cs => simp

/-- The change output is one that pays us. -/
theorem changeIndex_paysUs {tx : TxSummary} {owned : Owned} {changePrefix : String}
    {i : ℕ} (h : changeIndex tx owned changePrefix = .ok i) :
    ∃ o, tx.outputs[i]? = some o ∧ paysUs owned o = true := by
  have hcand := changeIndex_ok_iff.mp h
  have hmem : i ∈ indicesWhere (fun _ o => paysUs owned o) tx.outputs := by
    unfold changeCandidates at hcand
    dsimp only at hcand
    split at hcand
    · rw [hcand]
      exact List.mem_singleton_self i
    · have hin : i ∈ [i] := List.mem_singleton_self i
      rw [← hcand] at hin
      exact (List.mem_filter.mp hin).1
  exact mem_indicesWhere.mp hmem

/-- An input that can be spent again: it has an outpoint, at an owned address. -/
def Respendable (owned : Owned) (entry : TxEntry) : Prop :=
  entry.txid.isSome = true ∧ entry.vout.isSome = true
    ∧ (owned (entry.address.getD "")).isSome = true

theorem inputWithPath_isOk {owned : Owned} {entry : TxEntry} :
    (∃ u, inputWithPath owned entry = .ok u) ↔ Respendable owned entry := by
  rw [inputWithPath, Respendable]
  cases entry.txid with
  | none => simp
  | some txid =>
      cases entry.vout with
      | none => simp
      | some vout => cases owned (entry.address.getD "") <;> simp

/-- Everything a replaceable transaction must be, before any rate is asked for. -/
structure Replaceable (tx : TxSummary) (owned : Owned) (changePrefix : String) :
    Prop where
  unconfirmed : tx.confirmed = false
  signals : tx.signalsRbf = true
  respendable : ∀ i ∈ tx.inputs, Respendable owned i
  one_change : (changeCandidates tx owned changePrefix).length = 1
  one_memo : (tx.outputs.filter TxEntry.opReturn).length ≤ 1
  memo_read : ∀ o ∈ tx.outputs, o.opReturn = true → o.opReturnData.isSome = true
  one_payee : ∀ i, changeCandidates tx owned changePrefix = [i] →
    (payees tx i).length = 1

theorem inputsWithPaths_ok {tx : TxSummary} {owned : Owned} {us : List Utxo}
    (h : inputsWithPaths tx owned = .ok us) :
    tx.inputs.mapM (inputWithPath owned) = .ok us := by
  rw [inputsWithPaths] at h
  cases hm : tx.inputs.mapM (inputWithPath owned) with
  | error e => rw [hm] at h; exact nomatch h
  | ok vs =>
      rw [hm] at h
      cases vs with
      | nil => exact nomatch h
      | cons v vs => exact h

theorem inputsWithPaths_isOk {tx : TxSummary} {owned : Owned}
    (hsig : tx.signalsRbf = true) :
    (∃ us, inputsWithPaths tx owned = .ok us)
      ↔ ∀ i ∈ tx.inputs, Respendable owned i := by
  have hpoint : (∀ i ∈ tx.inputs, Respendable owned i)
      ↔ ∃ us, tx.inputs.mapM (inputWithPath owned) = .ok us := by
    rw [mapM_isOk_iff]
    exact forall₂_congr fun i _ => inputWithPath_isOk.symm
  rw [hpoint]
  constructor
  · rintro ⟨us, hus⟩
    exact ⟨us, inputsWithPaths_ok hus⟩
  · rintro ⟨us, hus⟩
    have hlen := (mapM_ok_forall₂ hus).length_eq
    rw [inputsWithPaths]
    rw [hus]
    cases us with
    | nil =>
        -- a signalling transaction has an input
        have hnil : tx.inputs = [] := List.length_eq_zero_iff.mp hlen
        rw [TxSummary.signalsRbf] at hsig
        rw [hnil] at hsig
        exact nomatch hsig
    | cons u us => exact ⟨_, rfl⟩

theorem planMemo_isOk {tx : TxSummary} :
    (∃ m, planMemo tx = .ok m)
      ↔ (tx.outputs.filter TxEntry.opReturn).length ≤ 1
        ∧ ∀ o ∈ tx.outputs, o.opReturn = true → o.opReturnData.isSome = true := by
  have hmem : (∀ o ∈ tx.outputs, o.opReturn = true → o.opReturnData.isSome = true)
      ↔ ∀ o ∈ tx.outputs.filter TxEntry.opReturn, o.opReturnData.isSome = true := by
    constructor
    · intro h o ho
      obtain ⟨hin, hop⟩ := List.mem_filter.mp ho
      exact h o hin hop
    · intro h o hin hop
      exact h o (List.mem_filter.mpr ⟨hin, hop⟩)
  rw [hmem]
  rw [planMemo]
  cases tx.outputs.filter TxEntry.opReturn with
  | nil => simp
  | cons o os =>
      cases os with
      | nil => cases hdata : o.opReturnData <;> simp [hdata]
      | cons p os => simp

theorem planPayee_isOk {tx : TxSummary} {i : ℕ} :
    (∃ p, planPayee tx i = .ok p) ↔ (payees tx i).length = 1 := by
  rw [planPayee]
  cases payees tx i with
  | nil => simp
  | cons a as =>
      cases as with
      | nil => simp
      | cons b as => simp

/-- The steps behind a shape. -/
theorem planShape_ok {tx : TxSummary} {owned : Owned} {changePrefix : String}
    {shape : Shape} (h : planShape tx owned changePrefix = .ok shape) :
    tx.confirmed = false ∧ tx.signalsRbf = true
      ∧ inputsWithPaths tx owned = .ok shape.inputs
      ∧ changeIndex tx owned changePrefix = .ok shape.changeIndex
      ∧ planMemo tx = .ok shape.memo
      ∧ planPayee tx shape.changeIndex = .ok shape.payee := by
  rw [planShape] at h
  split at h
  · exact nomatch h
  · rename_i hconf
    split at h
    · exact nomatch h
    · rename_i hsig
      obtain ⟨inputs, hinputs, h⟩ := bind_eq_ok h
      obtain ⟨change, hchange, h⟩ := bind_eq_ok h
      obtain ⟨memo, hmemo, h⟩ := bind_eq_ok h
      obtain ⟨payee, hpayee, h⟩ := bind_eq_ok h
      cases h
      exact ⟨by simpa using hconf, by simpa using hsig, hinputs, hchange, hmemo, hpayee⟩

/-- **A shape is found exactly for the replaceable transactions.** -/
theorem planShape_isOk {tx : TxSummary} {owned : Owned} {changePrefix : String} :
    (∃ shape, planShape tx owned changePrefix = .ok shape)
      ↔ Replaceable tx owned changePrefix := by
  constructor
  · rintro ⟨shape, h⟩
    obtain ⟨hconf, hsig, hinputs, hchange, hmemo, hpayee⟩ := planShape_ok h
    have hcand := changeIndex_ok_iff.mp hchange
    obtain ⟨hone, hread⟩ := planMemo_isOk.mp ⟨_, hmemo⟩
    refine ⟨hconf, hsig, (inputsWithPaths_isOk hsig).mp ⟨_, hinputs⟩, ?_, hone,
      hread, ?_⟩
    · rw [hcand]
      rfl
    · intro i hi
      rw [hcand] at hi
      obtain rfl : shape.changeIndex = i := List.singleton_inj.mp hi
      exact planPayee_isOk.mp ⟨_, hpayee⟩
  · intro h
    obtain ⟨inputs, hinputs⟩ := (inputsWithPaths_isOk h.signals).mpr h.respendable
    obtain ⟨i, hi⟩ := List.length_eq_one_iff.mp h.one_change
    obtain ⟨memo, hmemo⟩ := planMemo_isOk.mpr ⟨h.one_memo, h.memo_read⟩
    obtain ⟨payee, hpayee⟩ := planPayee_isOk.mpr (h.one_payee i hi)
    refine ⟨{ inputs, changeIndex := i, memo, payee }, ?_⟩
    rw [planShape]
    rw [if_neg (by simp [h.unconfirmed]), if_neg (by simp [h.signals]), hinputs]
    rw [ok_bind, changeIndex_ok_iff.mpr hi, ok_bind, hmemo, ok_bind, hpayee, ok_bind]

/-! ## When a shape is priced -/

/-- The most a replacement of this shape can pay: the old fee and everything
    its change output holds above dust. -/
def feeCeiling (tx : TxSummary) (shape : Shape) (script : ScriptParams) : ℤ :=
  tx.fee + ((outputAt tx shape.changeIndex).value - script.dust)

section Price

variable {ρ : Type} [Rate ρ] {tx : TxSummary} {shape : Shape} {feeRate inc : ρ}
  {extraFee cost relay : ℤ} {script : ScriptParams}

/-- The fee of a shape is what the rate and the surcharge cost, or the relay floor. -/
theorem replacementFee_ok_iff {fee : ℤ} :
    replacementFee tx.fee tx.vsize feeRate extraFee (some (replacementVsize tx shape script))
        inc = .ok fee
      ↔ ∃ cost relay, Rate.cost feeRate tx.vsize = .ok cost
        ∧ Rate.cost inc (replacementVsize tx shape script) = .ok relay
        ∧ fee = max (cost + extraFee) (tx.fee + relay) := by
  constructor
  · intro h
    obtain ⟨cost, hcost, h⟩ := bind_eq_ok h
    obtain ⟨relay, hrelay, h⟩ := bind_eq_ok h
    cases h
    exact ⟨cost, relay, hcost, hrelay, rfl⟩
  · rintro ⟨cost, relay, hcost, hrelay, rfl⟩
    unfold replacementFee
    simp only [hcost, hrelay, ok_bind, Option.getD_some]

/-- A priced shape is the original rebuilt, at a fee that covers the rate and relays
    and that the change can pay. -/
theorem priceReplacement_ok {r : Replacement}
    (h : priceReplacement tx shape feeRate extraFee script inc = .ok r) :
    ∃ cost relay, Rate.cost feeRate tx.vsize = .ok cost
      ∧ Rate.cost inc (replacementVsize tx shape script) = .ok relay
      ∧ r = rebuiltAt tx shape (max (cost + extraFee) (tx.fee + relay))
      ∧ max (cost + extraFee) (tx.fee + relay) ≤ feeCeiling tx shape script := by
  obtain ⟨fee, hfee, h⟩ := bind_eq_ok h
  obtain ⟨cost, relay, hcost, hrelay, rfl⟩ := replacementFee_ok_iff.mp (mapError_eq_ok hfee)
  dsimp only at h
  split at h
  · obtain ⟨why, -, h⟩ := bind_eq_ok h
    cases h
  · rename_i hdust
    cases h
    refine ⟨cost, relay, hcost, hrelay, rfl, ?_⟩
    rw [feeCeiling]
    omega

/-- **A shape is priced exactly when the change can pay its fee.** -/
theorem priceReplacement_of_le (hcost : Rate.cost feeRate tx.vsize = .ok cost)
    (hrelay : Rate.cost inc (replacementVsize tx shape script) = .ok relay)
    (h : max (cost + extraFee) (tx.fee + relay) ≤ feeCeiling tx shape script) :
    priceReplacement tx shape feeRate extraFee script inc
      = .ok (rebuiltAt tx shape (max (cost + extraFee) (tx.fee + relay))) := by
  have hfee : replacementFee tx.fee tx.vsize feeRate extraFee
      (some (replacementVsize tx shape script)) inc
        = .ok (max (cost + extraFee) (tx.fee + relay)) :=
    replacementFee_ok_iff.mpr ⟨cost, relay, hcost, hrelay, rfl⟩
  rw [priceReplacement, hfee]
  refine if_neg ?_
  rw [feeCeiling] at h
  omega

/-- What becomes of a shape whose change cannot pay. -/
theorem priceReplacement_of_lt (hcost : Rate.cost feeRate tx.vsize = .ok cost)
    (hrelay : Rate.cost inc (replacementVsize tx shape script) = .ok relay)
    (h : feeCeiling tx shape script < max (cost + extraFee) (tx.fee + relay)) :
    priceReplacement tx shape feeRate extraFee script inc
      = ((changeVerdict tx (feeCeiling tx shape script) (tx.fee + relay) extraFee).mapError
          PlanError.raised >>= fun verdict =>
          .error (.refused (.tooLittleChange
            { fee := max (cost + extraFee) (tx.fee + relay)
              left := (outputAt tx shape.changeIndex).value
                - (max (cost + extraFee) (tx.fee + relay) - tx.fee)
              dust := script.dust
              headroom := (outputAt tx shape.changeIndex).value - script.dust
              verdict }))) := by
  have hfee : replacementFee tx.fee tx.vsize feeRate extraFee
      (some (replacementVsize tx shape script)) inc
        = .ok (max (cost + extraFee) (tx.fee + relay)) :=
    replacementFee_ok_iff.mpr ⟨cost, relay, hcost, hrelay, rfl⟩
  rw [priceReplacement, hfee]
  refine (if_pos ?_).trans ?_
  · rw [feeCeiling] at h
    omega
  · rw [tooLittleChange, Option.getD_some, hrelay, ok_bind, feeCeiling]
    dsimp only
    cases changeVerdict tx (tx.fee + ((outputAt tx shape.changeIndex).value - script.dust))
      (tx.fee + relay) extraFee with
    | error e => rfl
    | ok verdict => rfl

/-- A refusal over the change: what was short, and what is said about it. -/
theorem priceReplacement_refused {why : TooLittleChange}
    (h : priceReplacement tx shape feeRate extraFee script inc
      = .error (.refused (.tooLittleChange why))) :
    ∃ cost relay, Rate.cost feeRate tx.vsize = .ok cost
      ∧ Rate.cost inc (replacementVsize tx shape script) = .ok relay
      ∧ feeCeiling tx shape script < max (cost + extraFee) (tx.fee + relay)
      ∧ changeVerdict tx (feeCeiling tx shape script) (tx.fee + relay) extraFee
          = .ok why.verdict := by
  cases hfee : replacementFee tx.fee tx.vsize feeRate extraFee
      (some (replacementVsize tx shape script)) inc with
  | error e =>
      rw [priceReplacement, hfee] at h
      cases h
  | ok fee =>
      obtain ⟨cost, relay, hcost, hrelay, rfl⟩ := replacementFee_ok_iff.mp hfee
      by_cases hle : max (cost + extraFee) (tx.fee + relay) ≤ feeCeiling tx shape script
      · rw [priceReplacement_of_le hcost hrelay hle] at h
        cases h
      · rw [not_le] at hle
        rw [priceReplacement_of_lt hcost hrelay hle] at h
        refine ⟨cost, relay, hcost, hrelay, hle, ?_⟩
        cases hverdict : changeVerdict tx (feeCeiling tx shape script) (tx.fee + relay)
          extraFee with
        | error e =>
            rw [hverdict] at h
            cases h
        | ok verdict =>
            rw [hverdict] at h
            cases h
            rfl

/-- A shape whose change was too little for one rate is refused again wherever the
    change is too little. -/
theorem priceReplacement_refusedAgain {verdict : ChangeVerdict}
    (hcost : Rate.cost feeRate tx.vsize = .ok cost)
    (hrelay : Rate.cost inc (replacementVsize tx shape script) = .ok relay)
    (h : feeCeiling tx shape script < max (cost + extraFee) (tx.fee + relay))
    (hverdict : changeVerdict tx (feeCeiling tx shape script) (tx.fee + relay) extraFee
      = .ok verdict) :
    ∃ why, priceReplacement tx shape feeRate extraFee script inc
      = .error (.refused (.tooLittleChange why)) := by
  rw [priceReplacement_of_lt hcost hrelay h, hverdict]
  exact ⟨_, rfl⟩

/-- A rate is named where neither the surcharge nor the relay floor is beyond the
    ceiling: the float worked out for what the surcharge leaves, as it is printed. -/
theorem changeVerdict_namesRate {ceiling floor : ℤ} {why : TooLittleChange}
    (h : changeVerdict tx ceiling floor extraFee = .ok why.verdict) (r : ℚ) :
    why.namesRate = some r
      ↔ extraFee ≤ ceiling ∧ floor ≤ ceiling
        ∧ ∃ rate, suggestedRate (ceiling - extraFee) tx.vsize = .ok rate
          ∧ r = printed2 rate := by
  rw [TooLittleChange.namesRate]
  rw [changeVerdict] at h
  -- the verdicts in the order they are tried: parents, relay floor, best rate
  split at h
  · rename_i hextra
    rw [← Except.ok.inj h]
    refine ⟨fun hr => ?_, fun hr => ?_⟩
    · cases hr
    · have hle := hr.1
      omega
  · rename_i hextra
    split at h
    · rename_i hfloor
      rw [← Except.ok.inj h]
      refine ⟨fun hr => ?_, fun hr => ?_⟩
      · cases hr
      · have hle := hr.2.1
        omega
    · rename_i hfloor
      obtain ⟨rate, hrate, h⟩ := bind_eq_ok h
      rw [← Except.ok.inj h, Option.some_inj]
      constructor
      · rintro rfl
        exact ⟨not_lt.mp hextra, not_lt.mp hfloor, rate, hrate, rfl⟩
      · rintro ⟨-, -, rate', hrate', rfl⟩
        rw [hrate] at hrate'
        rw [Except.ok.inj hrate']

/-- With room for the surcharge and the relay floor, a rate was worked out. -/
theorem changeVerdict_room {ceiling floor : ℤ} {verdict : ChangeVerdict}
    (h : changeVerdict tx ceiling floor extraFee = .ok verdict) (hextra : extraFee ≤ ceiling)
    (hfloor : floor ≤ ceiling) :
    ∃ rate, suggestedRate (ceiling - extraFee) tx.vsize = .ok rate := by
  rw [changeVerdict, if_neg (not_lt.mpr hextra), if_neg (not_lt.mpr hfloor)] at h
  obtain ⟨rate, hrate, -⟩ := bind_eq_ok h
  exact ⟨rate, hrate⟩

end Price

/-! ## What a plan guarantees -/

/-- What a returned replacement promises against the original `tx`. -/
structure ReplacementSound (tx : TxSummary) (owned : Owned) (feeRate : ℚ)
    (extraFee : ℤ) (script : ScriptParams) (inc : ℚ) (r : Replacement) : Prop where
  /-- the same outpoints and values in order, each at an owned address with its
      derivation path -/
  inputs : List.Forall₂ (fun (i : TxEntry) (u : Utxo) =>
    i.txid = some u.txid ∧ i.vout = some u.vout ∧ u.value = i.value
      ∧ i.address = some u.address ∧ (∃ path, owned u.address = some path
        ∧ u.path = some path)) tx.inputs r.inputs
  outputs_length : r.outputs.length = tx.outputs.length
  outputs_kept : ∀ i o, i ≠ r.changeIndex → tx.outputs[i]? = some o →
    r.outputs[i]? = some (neutralOutput o)
  /-- the change is ours, carries no data, and shrinks by the bump, to dust at
      the least -/
  change : ∃ o address, tx.outputs[r.changeIndex]? = some o
    ∧ o.address = some address ∧ (owned address).isSome = true
    ∧ o.opReturn = false ∧ o.opReturnData = none
    ∧ r.outputs[r.changeIndex]? = some
        { address := some address, value := o.value - (r.fee - tx.fee) }
    ∧ (script.dust : ℤ) ≤ o.value - (r.fee - tx.fee)
  fee_reaches_rate : ⌈(tx.vsize : ℚ) * feeRate⌉ + extraFee ≤ r.fee
  fee_relays : tx.fee + ⌈((max tx.vsize (estimateVsize r.inputs.length
      (tx.outputs.length - (if r.memo.isSome then 1 else 0))
      (r.memo.getD []).length script) : ℕ) : ℚ) * inc⌉ ≤ r.fee
  balanced : tx.fee = tx.totalIn - tx.totalOut →
    (r.inputs.map Utxo.value).sum - (r.outputs.map TxOutput.value).sum = r.fee

section Sound

variable {ρ : Type} [Rate ρ] {tx : TxSummary} {owned : Owned} {changePrefix : String}
  {feeRate inc : ρ} {extraFee : ℤ} {script : ScriptParams}

/-- `plan_replacement` on a transaction that has a shape only prices it. -/
theorem planReplacement_of_shape {shape : Shape}
    (h : planShape tx owned changePrefix = .ok shape) (feeRate inc : ρ) (extraFee : ℤ)
    (script : ScriptParams) :
    planReplacement tx owned changePrefix feeRate extraFee script inc
      = priceReplacement tx shape feeRate extraFee script inc := by
  rw [planReplacement, h]
  rfl

theorem planReplacement_cases {r : Replacement}
    (h : planReplacement tx owned changePrefix feeRate extraFee script inc = .ok r) :
    ∃ shape, planShape tx owned changePrefix = .ok shape
      ∧ priceReplacement tx shape feeRate extraFee script inc = .ok r := by
  obtain ⟨shape, hshape, h⟩ := bind_eq_ok h
  exact ⟨shape, mapError_eq_ok hshape, h⟩

theorem inputWithPath_ok {i : TxEntry} {u : Utxo} (hempty : owned "" = none)
    (h : inputWithPath owned i = .ok u) :
    i.txid = some u.txid ∧ i.vout = some u.vout ∧ u.value = i.value
      ∧ i.address = some u.address ∧ (∃ path, owned u.address = some path
        ∧ u.path = some path) := by
  rw [inputWithPath] at h
  cases htxid : i.txid with
  | none => rw [htxid] at h; exact nomatch h
  | some txid =>
      cases hvout : i.vout with
      | none => rw [htxid, hvout] at h; exact nomatch h
      | some vout =>
          rw [htxid, hvout] at h
          dsimp only at h
          cases hpath : owned (i.address.getD "") with
          | none => rw [hpath] at h; exact nomatch h
          | some path =>
              rw [hpath] at h
              cases h
              refine ⟨rfl, rfl, rfl, ?_, path, hpath, rfl⟩
              cases haddr : i.address with
              | none =>
                  rw [haddr, Option.getD_none, hempty] at hpath
                  exact nomatch hpath
              | some address => rfl

/-- The change output of a shape, and the conditions that made it the change. -/
theorem shape_change {shape : Shape}
    (h : planShape tx owned changePrefix = .ok shape) :
    ∃ address, tx.outputs[shape.changeIndex]?
        = some (outputAt tx shape.changeIndex)
      ∧ (outputAt tx shape.changeIndex).address = some address
      ∧ (owned address).isSome = true
      ∧ (outputAt tx shape.changeIndex).opReturn = false
      ∧ (outputAt tx shape.changeIndex).opReturnData = none := by
  obtain ⟨-, -, -, hchange, -, -⟩ := planShape_ok h
  obtain ⟨o, hidx, hours⟩ := changeIndex_paysUs hchange
  have hat : outputAt tx shape.changeIndex = o := by
    rw [outputAt]
    rw [List.getD_eq_getElem?_getD, hidx, Option.getD_some]
  rw [hat]
  rw [paysUs] at hours
  rw [Bool.and_eq_true, Bool.and_eq_true] at hours
  obtain ⟨⟨hdata, hop⟩, haddr⟩ := hours
  cases ha : o.address with
  | none => rw [ha] at haddr; exact nomatch haddr
  | some address =>
      rw [ha] at haddr
      exact ⟨address, hidx, rfl, haddr, by simpa using hop, by simpa using hdata⟩

/-- The recorded inputs, entry by entry. -/
theorem shape_inputs {shape : Shape}
    (h : planShape tx owned changePrefix = .ok shape) :
    List.Forall₂ (fun i u => inputWithPath owned i = .ok u) tx.inputs shape.inputs := by
  obtain ⟨-, -, hinputs, -, -, -⟩ := planShape_ok h
  exact mapM_ok_forall₂ (inputsWithPaths_ok hinputs)

theorem shape_inputs_value {shape : Shape}
    (h : planShape tx owned changePrefix = .ok shape) :
    (shape.inputs.map Utxo.value).sum = tx.totalIn := by
  have hall := shape_inputs h
  have hvalue : ∀ {i : TxEntry} {u : Utxo}, inputWithPath owned i = .ok u →
      u.value = i.value := by
    intro i u hu
    rw [inputWithPath] at hu
    split at hu
    · split at hu
      · exact nomatch hu
      · cases hu
        rfl
    · exact nomatch hu
  rw [TxSummary.totalIn]
  congr 1
  generalize tx.inputs = is at hall
  generalize shape.inputs = us at hall
  induction hall with
  | nil => rfl
  | cons hu _ ih => rw [List.map_cons, List.map_cons, ih, hvalue hu]

/-- Every output besides the change is carried over. -/
theorem planReplacement_output {r : Replacement}
    (h : planReplacement tx owned changePrefix feeRate extraFee script inc = .ok r)
    {i : ℕ} {o : TxEntry} (hne : i ≠ r.changeIndex) (hi : tx.outputs[i]? = some o) :
    r.outputs[i]? = some (neutralOutput o) := by
  obtain ⟨shape, -, hprice⟩ := planReplacement_cases h
  obtain ⟨cost, relay, -, -, rfl, -⟩ := priceReplacement_ok hprice
  have hne' : shape.changeIndex ≠ i := Ne.symm hne
  show (replacementOutputs tx shape.changeIndex _)[i]? = _
  rw [replacementOutputs, List.getElem?_modify_ne _ _ hne', List.getElem?_map, hi,
    Option.map_some]

/-- The fee of a plan covers the rate and the surcharge, and relays. -/
theorem planReplacement_fee {r : Replacement}
    (h : planReplacement tx owned changePrefix feeRate extraFee script inc = .ok r) :
    ∃ cost relay, Rate.cost feeRate tx.vsize = .ok cost
      ∧ Rate.cost inc (max tx.vsize (estimateVsize r.inputs.length
        (tx.outputs.length - (if r.memo.isSome then 1 else 0))
        (r.memo.getD []).length script)) = .ok relay
      ∧ r.fee = max (cost + extraFee) (tx.fee + relay) := by
  obtain ⟨shape, -, hprice⟩ := planReplacement_cases h
  obtain ⟨cost, relay, hcost, hrelay, rfl, -⟩ := priceReplacement_ok hprice
  exact ⟨cost, relay, hcost, hrelay, rfl⟩

/-- BIP125 rule 4, at the size estimated for the replacement. -/
theorem planReplacement_relays {feeRate inc : ℚ} {r : Replacement}
    (h : planReplacement tx owned changePrefix feeRate extraFee script inc = .ok r) :
    tx.fee + ⌈((max tx.vsize (estimateVsize r.inputs.length
      (tx.outputs.length - (if r.memo.isSome then 1 else 0))
      (r.memo.getD []).length script) : ℕ) : ℚ) * inc⌉ ≤ r.fee := by
  obtain ⟨cost, relay, -, hrelay, hfee⟩ := planReplacement_fee h
  obtain rfl := Except.ok.inj hrelay
  rw [hfee]
  exact le_max_right _ _

/-- **A data output is carried over, payload and all.** -/
theorem planReplacement_opReturn {r : Replacement}
    (h : planReplacement tx owned changePrefix feeRate extraFee script inc = .ok r)
    {i : ℕ} {o : TxEntry} (hi : tx.outputs[i]? = some o) (hop : o.opReturn = true) :
    r.outputs[i]? = some (neutralOutput o) ∧ o.opReturnData.isSome = true := by
  obtain ⟨shape, hshape, hprice⟩ := planReplacement_cases h
  obtain ⟨-, -, -, -, hmemo, -⟩ := planShape_ok hshape
  obtain ⟨-, hidx, -, -, hdata, -⟩ := shape_change hshape
  have hchange : r.changeIndex = shape.changeIndex := by
    obtain ⟨cost, relay, -, -, rfl, -⟩ := priceReplacement_ok hprice
    rfl
  refine ⟨planReplacement_output h ?_ hi, ?_⟩
  · -- the change carries no data
    rintro rfl
    rw [hchange, hidx] at hi
    obtain rfl := Option.some.inj hi
    rw [hdata] at hop
    exact nomatch hop
  · exact (planMemo_isOk.mp ⟨_, hmemo⟩).2 o (List.mem_of_getElem? hi) hop

/-- Only the change moves, by what the fee goes up. -/
theorem planReplacement_balanced {r : Replacement}
    (h : planReplacement tx owned changePrefix feeRate extraFee script inc = .ok r)
    (hbal : tx.fee = tx.totalIn - tx.totalOut) :
    (r.inputs.map Utxo.value).sum - (r.outputs.map TxOutput.value).sum = r.fee := by
  obtain ⟨shape, hshape, hprice⟩ := planReplacement_cases h
  obtain ⟨cost, relay, -, -, rfl, -⟩ := priceReplacement_ok hprice
  obtain ⟨-, hidx, -, -, -, -⟩ := shape_change hshape
  have hmapped : (tx.outputs.map neutralOutput)[shape.changeIndex]?
      = some (neutralOutput (outputAt tx shape.changeIndex)) := by
    rw [List.getElem?_map, hidx, Option.map_some]
  have hsum := sum_map_modify TxOutput.value
    (fun o => { o with value := (outputAt tx shape.changeIndex).value
      - (max (cost + extraFee) (tx.fee + relay) - tx.fee) }) hmapped
  have hvalues : ((tx.outputs.map neutralOutput).map TxOutput.value).sum
      = tx.totalOut := by
    rw [List.map_map]
    rfl
  rw [hvalues] at hsum
  show (shape.inputs.map Utxo.value).sum
    - ((replacementOutputs tx shape.changeIndex _).map TxOutput.value).sum
      = max (cost + extraFee) (tx.fee + relay)
  rw [shape_inputs_value hshape, replacementOutputs, hsum]
  dsimp only [neutralOutput]
  omega

/-- A planned fee is not negative: it covers a rate and a surcharge that are
    not, or the old fee and a relay fee that are not. -/
theorem planReplacement_fee_nonneg {feeRate inc : ℚ} {r : Replacement}
    (hplan : planReplacement tx owned changePrefix feeRate extraFee script inc = .ok r)
    (hnonneg : 0 ≤ feeRate ∧ 0 ≤ extraFee ∨ 0 ≤ tx.fee ∧ 0 ≤ inc) : 0 ≤ r.fee := by
  obtain ⟨cost, relay, hcost, hrelay, hfee⟩ := planReplacement_fee hplan
  obtain rfl := Except.ok.inj hcost
  obtain rfl := Except.ok.inj hrelay
  rw [hfee]
  rcases hnonneg with ⟨hrate, hextra⟩ | ⟨hold, hinc⟩
  · have hcost : 0 ≤ ⌈(tx.vsize : ℚ) * feeRate⌉ :=
      Int.ceil_nonneg (mul_nonneg (Nat.cast_nonneg _) hrate)
    exact le_max_of_le_left (by omega)
  · exact le_max_of_le_right
      (add_nonneg hold (Int.ceil_nonneg (mul_nonneg (Nat.cast_nonneg _) hinc)))

/-- The inputs of a plan are the original's, each at an owned address. -/
theorem planReplacement_inputs {r : Replacement} (hempty : owned "" = none)
    (h : planReplacement tx owned changePrefix feeRate extraFee script inc = .ok r) :
    List.Forall₂ (fun (i : TxEntry) (u : Utxo) =>
      i.txid = some u.txid ∧ i.vout = some u.vout ∧ u.value = i.value
        ∧ i.address = some u.address ∧ (∃ path, owned u.address = some path
          ∧ u.path = some path)) tx.inputs r.inputs := by
  obtain ⟨shape, hshape, hprice⟩ := planReplacement_cases h
  obtain ⟨cost, relay, -, -, rfl, -⟩ := priceReplacement_ok hprice
  exact (shape_inputs hshape).imp fun _ _ hu => inputWithPath_ok hempty hu

/-- **A replacement is the original with a smaller change.** -/
theorem replacementSound_of_ok {feeRate inc : ℚ} {r : Replacement}
    (hempty : owned "" = none)
    (h : planReplacement tx owned changePrefix feeRate extraFee script inc = .ok r) :
    ReplacementSound tx owned feeRate extraFee script inc r := by
  have hinputs := planReplacement_inputs hempty h
  have hrelays := planReplacement_relays h
  have hbalanced := planReplacement_balanced h
  have hkept : ∀ i o, i ≠ r.changeIndex → tx.outputs[i]? = some o →
      r.outputs[i]? = some (neutralOutput o) := fun i o hne hi => planReplacement_output h hne hi
  obtain ⟨shape, hshape, hprice⟩ := planReplacement_cases h
  obtain ⟨cost, relay, hcost, hrelay, rfl, hceiling⟩ := priceReplacement_ok hprice
  obtain rfl := Except.ok.inj hcost
  obtain ⟨address, hidx, haddr, howned, hop, hdata⟩ := shape_change hshape
  have hmapped : (tx.outputs.map neutralOutput)[shape.changeIndex]?
      = some (neutralOutput (outputAt tx shape.changeIndex)) := by
    rw [List.getElem?_map, hidx, Option.map_some]
  refine ⟨hinputs, ?_, hkept, ?_, ?_, hrelays, hbalanced⟩
  · rw [rebuiltAt, replacementOutputs, List.length_modify, List.length_map]
  · refine ⟨outputAt tx shape.changeIndex, address, hidx, haddr, howned, hop, hdata, ?_, ?_⟩
    · show (replacementOutputs tx shape.changeIndex _)[shape.changeIndex]? = _
      rw [replacementOutputs, List.getElem?_modify_eq, hmapped]
      show some _ = some _
      rw [neutralOutput, haddr, hdata]
      rfl
    · rw [feeCeiling] at hceiling
      show (script.dust : ℤ) ≤ (outputAt tx shape.changeIndex).value - (max _ _ - tx.fee)
      omega
  · exact le_max_left _ _

/-- What is not replaceable is refused, whatever the rate. -/
theorem planReplacement_error (h : ¬ Replaceable tx owned changePrefix) :
    ∃ e, planReplacement tx owned changePrefix feeRate extraFee script inc
      = .error (.refused e) := by
  rw [planReplacement]
  cases hs : planShape tx owned changePrefix with
  | error e => exact ⟨e, rfl⟩
  | ok shape => exact absurd (planShape_isOk.mp ⟨shape, hs⟩) h

end Sound

/-- **The planner keeps everything but the change, and refuses the rest.**  A
    returned replacement is sound, and whatever is not replaceable — confirmed,
    not signalling, an input without an outpoint or an owned address, no or
    several change candidates after the change-branch rule, several or
    unreadable memos, not one payee — is refused. -/
theorem planReplacement_sound (tx : TxSummary) (owned : Owned)
    (changePrefix : String) (feeRate : ℚ) (extraFee : ℤ) (script : ScriptParams)
    (inc : ℚ) (hempty : owned "" = none) :
    (∀ r, planReplacement tx owned changePrefix feeRate extraFee script inc = .ok r →
      ReplacementSound tx owned feeRate extraFee script inc r)
    ∧ ((tx.confirmed = true
        ∨ (∀ i ∈ tx.inputs, ∀ s, i.sequence = some s → rbfSequenceMax ≤ s)
        ∨ (∃ i ∈ tx.inputs, i.txid = none ∨ i.vout = none
            ∨ ∀ address, i.address = some address → owned address = none)
        ∨ (changeCandidates tx owned changePrefix).length ≠ 1
        ∨ 1 < (tx.outputs.filter TxEntry.opReturn).length
        ∨ (∃ o ∈ tx.outputs, o.opReturn = true ∧ o.opReturnData = none)
        ∨ (∃ i, changeCandidates tx owned changePrefix = [i]
            ∧ (payees tx i).length ≠ 1)) →
      ∃ e, planReplacement tx owned changePrefix feeRate extraFee script inc
        = .error (.refused e)) := by
  refine ⟨fun r h => replacementSound_of_ok hempty h, ?_⟩
  intro hbad
  refine planReplacement_error ?_
  intro hrep
  -- each refusal contradicts the requirement of the same name
  rcases hbad with hconf | hsig | ⟨i, hi, hin⟩ | hcand | hmemos | ⟨o, ho, hop, hnone⟩
    | ⟨i, hone, hpay⟩
  · rw [hrep.unconfirmed] at hconf
    exact nomatch hconf
  · obtain ⟨i, hi, hlt⟩ := List.any_eq_true.mp hrep.signals
    cases hs : i.sequence with
    | none => rw [hs] at hlt; exact nomatch hlt
    | some s =>
        rw [hs] at hlt
        exact absurd (of_decide_eq_true hlt) (not_lt.mpr (hsig i hi s hs))
  · obtain ⟨htxid, hvout, howned⟩ := hrep.respendable i hi
    rcases hin with hnone | hnone | hno
    · rw [hnone] at htxid
      exact nomatch htxid
    · rw [hnone] at hvout
      exact nomatch hvout
    · cases ha : i.address with
      | none =>
          rw [ha, Option.getD_none, hempty] at howned
          exact nomatch howned
      | some address =>
          rw [ha, Option.getD_some, hno address ha] at howned
          exact nomatch howned
  · exact hcand hrep.one_change
  · exact absurd hrep.one_memo (not_le.mpr hmemos)
  · have hsome := hrep.memo_read o ho hop
    rw [hnone] at hsome
    exact nomatch hsome
  · exact hpay (hrep.one_payee i hone)

/-! ## The suggested rate

    The refusal works its rate out of the ceiling, in floats; the planner prices a
    rate up from the size.  The two meet where no hundredth is lost on the way. -/

section Named

/-- The hundredths of the rate a refusal names: two divisions, a multiplication and
    a rounding, each to the nearest float. -/
def namedHundredths (forRate : ℤ) (vsize : ℕ) : ℤ :=
  roundHalfEven (nearest (⌊nearest (nearest ((forRate : ℚ) / vsize) * 100)⌋ / 100) * 100)

variable {forRate : ℤ} {vsize : ℕ}

theorem trueDiv_ok {a : ℤ} {b : ℕ} {q : ℚ} (h : trueDiv a b = .ok q) :
    q = nearest ((a : ℚ) / b) := by
  rw [trueDiv] at h
  split at h
  · cases h
  · exact (Except.ok.inj h).symm

/-- What is printed of a suggestion. -/
theorem suggestedRate_ok (hv : 0 < vsize) {rate : ℚ}
    (h : suggestedRate forRate vsize = .ok rate) :
    printed2 rate = namedHundredths forRate vsize / 100 := by
  rw [suggestedRate, if_pos hv.ne'] at h
  obtain ⟨quotient, hquotient, h⟩ := bind_eq_ok h
  obtain ⟨n, hn, h⟩ := bind_eq_ok h
  rw [Double.mul, Double.ofRat] at hn
  split at hn
  · cases hn
  · obtain rfl := trueDiv_ok hquotient
    obtain rfl := Except.ok.inj hn
    rw [trueDiv_ok h, printed2, namedHundredths]
    push_cast
    rfl

theorem namedHundredths_nonneg (h : 0 ≤ forRate) : 0 ≤ namedHundredths forRate vsize := by
  have hquot : (0 : ℚ) ≤ forRate / vsize :=
    div_nonneg (by exact_mod_cast h) (Nat.cast_nonneg _)
  have hfloor : 0 ≤ ⌊nearest (nearest ((forRate : ℚ) / vsize) * 100)⌋ :=
    Int.floor_nonneg.mpr
      (nearest_nonneg (mul_nonneg (nearest_nonneg hquot) (by norm_num)))
  have hcast : (0 : ℚ) ≤ ⌊nearest (nearest ((forRate : ℚ) / vsize) * 100)⌋ := by
    exact_mod_cast hfloor
  rw [namedHundredths, show (0 : ℤ) = roundHalfEven ((0 : ℤ) : ℚ) from
    (roundHalfEven_intCast 0).symm]
  refine roundHalfEven_mono ?_
  rw [Int.cast_zero]
  exact mul_nonneg (nearest_nonneg (div_nonneg hcast (by norm_num))) (by norm_num)

/-- Below some two hundred thousand bitcoin the hundredths named are known. -/
theorem namedHundredths_eq {a : ℕ} (hv : 0 < vsize) (h : 100 * a ≤ 2 ^ 51) :
    namedHundredths a vsize = hundredths a vsize := by
  have hfloor := floor_hundredths hv h
  push_cast at hfloor
  rw [namedHundredths, Int.cast_natCast, hfloor, Int.cast_natCast,
    roundHalfEven_hundredths ((hundredths_le a vsize).trans h)]

/-- **No hundredth is lost** in working out the rate: where hundredths divide
    without a remainder, the float of the quotient times a hundred does not fall
    below it.  Beyond the integers that floats hold, the hundredths are compared. -/
def RateKept (forRate : ℤ) (vsize : ℕ) : Prop :=
  if 100 * forRate ≤ 2 ^ 51 then
    vsize ∣ 100 * forRate.toNat → HundredthKept (100 * forRate.toNat / vsize)
  else namedHundredths forRate vsize = 100 * forRate / vsize

instance : Decidable (RateKept forRate vsize) := by
  unfold RateKept
  infer_instance

/-- The best rate is the one named exactly when no hundredth is lost. -/
theorem namedHundredths_eq_iff (hv : 0 < vsize) (h : 0 ≤ forRate) :
    namedHundredths forRate vsize = 100 * forRate / vsize ↔ RateKept forRate vsize := by
  rw [RateKept]
  split
  · rename_i hrange
    lift forRate to ℕ using h
    have hrange' : 100 * forRate ≤ 2 ^ 51 := by exact_mod_cast hrange
    rw [namedHundredths_eq hv hrange', Int.toNat_natCast, hundredths]
    have hquot : (100 * (forRate : ℤ) / vsize) = ((100 * forRate / vsize : ℕ) : ℤ) := by
      push_cast
      rfl
    rw [hquot, Nat.cast_inj]
    constructor
    · intro hsame hdvd
      by_contra hlost
      rw [if_pos ⟨hdvd, hlost⟩] at hsame
      have hzero : 100 * forRate / vsize = 0 := by omega
      rw [hzero] at hlost
      exact hlost (by decide +kernel)
    · intro hkept
      rw [if_neg (fun hlost => hlost.2 (hkept hlost.1)), Nat.sub_zero]
  · exact Iff.rfl

end Named

/-- A text mentions a phrase. -/
def Mentions (text phrase : String) : Prop := ∃ before after, text = before ++ phrase ++ after

/-- A refusal without a rate says that no rate will do. -/
theorem TooLittleChange.text_final {w : TooLittleChange} (h : w.namesRate = none) :
    Mentions w.text "so this transaction cannot be fee-bumped" := by
  rw [namesRate] at h
  cases hverdict : w.verdict with
  | parents extraFee =>
      refine ⟨w.over ++ ", which is less than the " ++ toString extraFee
        ++ " sats its own unconfirmed parent(s) need to reach this rate (child-pays-for-parent) — ",
        ". Spending its change with --allow-unconfirmed lifts the whole package instead", ?_⟩
      have hsplit : " sats its own unconfirmed parent(s) need to reach this rate (child-pays-for-parent) — so this transaction cannot be fee-bumped. Spending its change with --allow-unconfirmed lifts the whole package instead"
          = " sats its own unconfirmed parent(s) need to reach this rate (child-pays-for-parent) — "
            ++ "so this transaction cannot be fee-bumped"
            ++ ". Spending its change with --allow-unconfirmed lifts the whole package instead" := by
        decide +kernel
      rw [text]
      rw [hverdict]
      simp only [hsplit, String.append_assoc]
      rfl
  | relay required =>
      refine ⟨w.over ++ ", which is less than the " ++ toString required
        ++ " sats BIP125 requires on top of the old fee just to relay a replacement — ",
        ". Child-pays-for-parent (spend its change with --allow-unconfirmed) is the remaining option",
        ?_⟩
      have hsplit : " sats BIP125 requires on top of the old fee just to relay a replacement — so this transaction cannot be fee-bumped. Child-pays-for-parent (spend its change with --allow-unconfirmed) is the remaining option"
          = " sats BIP125 requires on top of the old fee just to relay a replacement — "
            ++ "so this transaction cannot be fee-bumped"
            ++ ". Child-pays-for-parent (spend its change with --allow-unconfirmed) is the remaining option" := by
        decide +kernel
      rw [text]
      rw [hverdict]
      simp only [hsplit, String.append_assoc]
      rfl
  | bestRate rate =>
      rw [hverdict] at h
      exact nomatch h

section Suggestion

variable {ρ : Type} [Rate ρ] {tx : TxSummary} {owned : Owned} {changePrefix : String}
  {feeRate inc : ρ} {extraFee : ℤ} {script : ScriptParams}

/-- The refusal is about how much change there is. -/
def NotReplaceable.AboutChange (e : NotReplaceable) : Prop :=
  ∃ why, e = .tooLittleChange why

/-- Whatever is wrong with a shape, it is not how much change there is. -/
theorem planShape_avoids :
    Avoids NotReplaceable.AboutChange (planShape tx owned changePrefix) := by
  have hinput : ∀ entry, Avoids NotReplaceable.AboutChange (inputWithPath owned entry) := by
    intro entry
    unfold inputWithPath
    split
    · split
      · exact avoids_error (by rintro ⟨why, ⟨⟩⟩)
      · exact avoids_ok _
    · exact avoids_error (by rintro ⟨why, ⟨⟩⟩)
  have hinputs : Avoids NotReplaceable.AboutChange (inputsWithPaths tx owned) := by
    have hall := avoids_mapM hinput tx.inputs
    unfold inputsWithPaths
    split
    · rename_i e he
      exact avoids_error (hall e he)
    · exact avoids_error (by rintro ⟨why, ⟨⟩⟩)
    · exact avoids_ok _
  have hchange : Avoids NotReplaceable.AboutChange (changeIndex tx owned changePrefix) := by
    unfold changeIndex
    split
    · exact avoids_error (by rintro ⟨why, ⟨⟩⟩)
    · exact avoids_ok _
    · split
      · exact avoids_ok _
      · exact avoids_error (by rintro ⟨why, ⟨⟩⟩)
  have hmemo : Avoids NotReplaceable.AboutChange (planMemo tx) := by
    unfold planMemo
    split
    · exact avoids_ok _
    · split
      · exact avoids_error (by rintro ⟨why, ⟨⟩⟩)
      · exact avoids_ok _
    · exact avoids_error (by rintro ⟨why, ⟨⟩⟩)
  have hpayee : ∀ i, Avoids NotReplaceable.AboutChange (planPayee tx i) := by
    intro i
    unfold planPayee
    split
    · exact avoids_ok _
    · exact avoids_error (by rintro ⟨why, ⟨⟩⟩)
  unfold planShape
  split
  · exact avoids_error (by rintro ⟨why, ⟨⟩⟩)
  · split
    · exact avoids_error (by rintro ⟨why, ⟨⟩⟩)
    · exact hinputs.bind fun inputs => hchange.bind fun change => hmemo.bind fun memo =>
        (hpayee change).bind fun payee => avoids_ok _

/-- A plan refused over its change has a shape, and it is the shape that is refused. -/
theorem planReplacement_tooLittle {why : TooLittleChange}
    (h : planReplacement tx owned changePrefix feeRate extraFee script inc
      = .error (.refused (.tooLittleChange why))) :
    ∃ shape, planShape tx owned changePrefix = .ok shape
      ∧ priceReplacement tx shape feeRate extraFee script inc
          = .error (.refused (.tooLittleChange why)) := by
  rw [planReplacement] at h
  cases hs : planShape tx owned changePrefix with
  | error e =>
      rw [hs] at h
      obtain rfl : e = .tooLittleChange why := PlanError.refused.inj (Except.error.inj h)
      exact absurd ⟨why, rfl⟩ (planShape_avoids _ hs)
  | ok shape =>
      rw [hs] at h
      exact ⟨shape, rfl, h⟩

end Suggestion

section Exact

variable {tx : TxSummary} {shape : Shape} {extraFee : ℤ} {script : ScriptParams} {inc : ℚ}

/-- The fee a node asks of a replacement of this shape, at exact rates. -/
def relayFloor (tx : TxSummary) (shape : Shape) (script : ScriptParams) (inc : ℚ) : ℤ :=
  tx.fee + ⌈(replacementVsize tx shape script : ℚ) * inc⌉

/-- At an exact rate a shape is priced when the rate and the relay floor both fit. -/
theorem priceReplacement_isOk_iff {q : ℚ} :
    (∃ r, priceReplacement tx shape q extraFee script inc = .ok r)
      ↔ ⌈(tx.vsize : ℚ) * q⌉ + extraFee ≤ feeCeiling tx shape script
        ∧ relayFloor tx shape script inc ≤ feeCeiling tx shape script := by
  constructor
  · rintro ⟨r, hr⟩
    obtain ⟨cost, relay, hcost, hrelay, -, hle⟩ := priceReplacement_ok hr
    obtain rfl := Except.ok.inj hcost
    obtain rfl := Except.ok.inj hrelay
    exact max_le_iff.mp hle
  · intro h
    exact ⟨_, priceReplacement_of_le rfl rfl (max_le_iff.mpr h)⟩

/-- Beside a verdict, at an exact rate a shape is refused when either does not fit. -/
theorem priceReplacement_isRefused_iff {q : ℚ} {verdict : ChangeVerdict}
    (hverdict : changeVerdict tx (feeCeiling tx shape script)
      (relayFloor tx shape script inc) extraFee = .ok verdict) :
    (∃ why, priceReplacement tx shape q extraFee script inc
        = .error (.refused (.tooLittleChange why)))
      ↔ feeCeiling tx shape script < ⌈(tx.vsize : ℚ) * q⌉ + extraFee
        ∨ feeCeiling tx shape script < relayFloor tx shape script inc := by
  rw [← lt_max_iff]
  constructor
  · rintro ⟨why, hwhy⟩
    obtain ⟨cost, relay, hcost, hrelay, hlt, -⟩ := priceReplacement_refused hwhy
    obtain rfl := Except.ok.inj hcost
    obtain rfl := Except.ok.inj hrelay
    exact hlt
  · intro h
    exact priceReplacement_refusedAgain rfl rfl h hverdict

end Exact

/-- What a refusal promises: the rate it names is planned and a hundredth more is
    refused, or where it names none, every rate is. -/
def SuggestionHolds (tx : TxSummary) (owned : Owned) (changePrefix : String)
    (extraFee : ℤ) (script : ScriptParams) (inc : ℚ) (why : TooLittleChange) : Prop :=
  (∀ r, why.namesRate = some r →
    (∃ replacement, planReplacement tx owned changePrefix r extraFee script inc
      = .ok replacement)
    ∧ ∃ why', planReplacement tx owned changePrefix (r + 1 / 100) extraFee script inc
      = .error (.refused (.tooLittleChange why')))
  ∧ (why.namesRate = none → ∀ q : ℚ, 0 ≤ q →
    ∃ why', planReplacement tx owned changePrefix q extraFee script inc
      = .error (.refused (.tooLittleChange why')))

/-- Where a rate is named, no hundredth of it is lost. -/
def SuggestionKept (tx : TxSummary) (shape : Shape) (extraFee : ℤ)
    (script : ScriptParams) (inc : ℚ) : Prop :=
  extraFee ≤ feeCeiling tx shape script →
    relayFloor tx shape script inc ≤ feeCeiling tx shape script →
    RateKept (feeCeiling tx shape script - extraFee) tx.vsize

instance (tx : TxSummary) (shape : Shape) (extraFee : ℤ) (script : ScriptParams) (inc : ℚ) :
    Decidable (SuggestionKept tx shape extraFee script inc) := by
  unfold SuggestionKept
  infer_instance

/-- A rate that is named is a number of hundredths. -/
theorem suggestedRate_hundredths {forRate : ℤ} {vsize : ℕ} (hv : 0 < vsize) (h : 0 ≤ forRate)
    {rate : ℚ} (hrate : suggestedRate forRate vsize = .ok rate) :
    ∃ k : ℕ, printed2 rate = k / 100 := by
  refine ⟨(namedHundredths forRate vsize).toNat, ?_⟩
  have hcast : ((namedHundredths forRate vsize).toNat : ℤ) = namedHundredths forRate vsize :=
    Int.toNat_of_nonneg (namedHundredths_nonneg h)
  rw [suggestedRate_ok hv hrate, ← Int.cast_natCast (R := ℚ), hcast]

/-- **The suggested rate is the best one exactly when no hundredth of it is lost.**
    A plan refused for too little change either names a rate, which two decimals
    write in full, or says that the transaction cannot be fee-bumped.  It keeps
    what that promises exactly when `SuggestionKept`. -/
theorem planReplacement_suggestion_iff (tx : TxSummary) (owned : Owned)
    (changePrefix : String) (feeRate : ℚ) (extraFee : ℤ) (script : ScriptParams)
    (inc : ℚ) (why : TooLittleChange) (hv : 0 < tx.vsize)
    (h : planReplacement tx owned changePrefix feeRate extraFee script inc
      = .error (.refused (.tooLittleChange why))) :
    ∃ shape, planShape tx owned changePrefix = .ok shape
      ∧ (∀ r, why.namesRate = some r →
        Mentions why.text ("(--fee-rate " ++ format2 r ++ ")") ∧ ∃ k : ℕ, r = k / 100)
      ∧ (why.namesRate = none →
        Mentions why.text "so this transaction cannot be fee-bumped")
      ∧ (SuggestionHolds tx owned changePrefix extraFee script inc why
        ↔ SuggestionKept tx shape extraFee script inc) := by
  obtain ⟨shape, hs, hprice⟩ := planReplacement_tooLittle h
  obtain ⟨cost, relay, -, hrelay, -, hverdict⟩ := priceReplacement_refused hprice
  obtain rfl := Except.ok.inj hrelay
  have hnames := changeVerdict_namesRate hverdict
  change ∀ r, why.namesRate = some r ↔ extraFee ≤ feeCeiling tx shape script
    ∧ relayFloor tx shape script inc ≤ feeCeiling tx shape script ∧ _ at hnames
  have hplan : ∀ q : ℚ, planReplacement tx owned changePrefix q extraFee script inc
      = priceReplacement tx shape q extraFee script inc :=
    fun q => planReplacement_of_shape hs q inc extraFee script
  refine ⟨shape, hs, fun r hr => ⟨?_, ?_⟩, TooLittleChange.text_final, ?_⟩
  · obtain ⟨advice, htext⟩ := TooLittleChange.text_namesRate hr
    exact ⟨advice, "", by rw [htext, String.append_empty]⟩
  · obtain ⟨hextra, -, rate, hrate, rfl⟩ := (hnames r).mp hr
    exact suggestedRate_hundredths hv (sub_nonneg.mpr hextra) hrate
  · rw [SuggestionHolds, SuggestionKept]
    simp only [hplan, priceReplacement_isOk_iff, priceReplacement_isRefused_iff hverdict]
    by_cases hroom : extraFee ≤ feeCeiling tx shape script
        ∧ relayFloor tx shape script inc ≤ feeCeiling tx shape script
    · -- a rate is named: it is the best one, or not
      obtain ⟨hextra, hfloor⟩ := hroom
      obtain ⟨rate, hrate⟩ := changeVerdict_room hverdict hextra hfloor
      have hname := (hnames _).mpr ⟨hextra, hfloor, rate, hrate, rfl⟩
      have hbest := bestRate_unique (feeCeiling tx shape script - extraFee) hv
        (namedHundredths (feeCeiling tx shape script - extraFee) tx.vsize)
      rw [namedHundredths_eq_iff hv (sub_nonneg.mpr hextra),
        ← suggestedRate_ok hv hrate] at hbest
      constructor
      · rintro ⟨hsome, -⟩ - -
        obtain ⟨hfits, hnext⟩ := hsome _ hname
        refine hbest.mp ⟨by omega, ?_⟩
        rcases hnext with hnext | hnext
        · omega
        · omega
      · intro hkept
        obtain ⟨hfits, hnext⟩ := hbest.mpr (hkept hextra hfloor)
        refine ⟨fun r hr => ?_, fun hnone => ?_⟩
        · obtain rfl : printed2 rate = r := Option.some.inj (hname.symm.trans hr)
          exact ⟨⟨by omega, hfloor⟩, Or.inl (by omega)⟩
        · rw [hname] at hnone
          cases hnone
    · -- no rate is named, and none would do
      refine iff_of_true ⟨fun r hr => ?_, fun _ q hq => ?_⟩ fun hextra hfloor => ?_
      · obtain ⟨hextra, hfloor, -⟩ := (hnames r).mp hr
        exact absurd ⟨hextra, hfloor⟩ hroom
      · have hcost : 0 ≤ ⌈(tx.vsize : ℚ) * q⌉ :=
          Int.ceil_nonneg (mul_nonneg (Nat.cast_nonneg _) hq)
        omega
      · exact absurd ⟨hextra, hfloor⟩ hroom

/-! ## A stuck payment

    200 vB at 1 sat/vB, one input of ours, one payee, change back to us. -/

def stuckTx : TxSummary :=
  { txid := "child", confirmed := false, blockHeight := none, fee := 200, vsize := 200
    inputs := [{ value := 51494, address := some "bc1qmine", txid := some "parent"
                 vout := some 0, sequence := some 0xFFFFFFFD }]
    outputs := [{ value := 50000, address := some "bc1qpayee" },
                { value := 1294, address := some "bc1qchange" }] }

def stuckOwned : Owned := fun address =>
  if address = "bc1qmine" then some "m/84'/0'/0'/0/0"
  else if address = "bc1qchange" then some "m/84'/0'/0'/1/0"
  else none

theorem planReplacement_sound_stuckTx :
    ∃ r, planReplacement stuckTx stuckOwned "m/84'/0'/0'/1/" (3 : ℚ) 0 p2wpkh 1 = .ok r
      ∧ ReplacementSound stuckTx stuckOwned 3 0 p2wpkh 1 r := by
  have hok : (planReplacement stuckTx stuckOwned "m/84'/0'/0'/1/" (3 : ℚ) 0 p2wpkh
      1).isOk = true := by decide +kernel
  obtain ⟨r, hr⟩ := exists_of_isOk hok
  exact ⟨r, hr, (planReplacement_sound stuckTx stuckOwned "m/84'/0'/0'/1/" 3 0
    p2wpkh 1 (by decide)).1 r hr⟩

/-- The rate the abort message of a plan names as `--fee-rate r`. -/
def refusedRate {α : Type} (plan : Except PlanError α) : Option ℚ :=
  match plan with
  | .error (.refused e) => e.namesRate
  | _ => none

/-- What was to be planned does not matter to a refusal. -/
theorem refusedRate_error {α β : Type} (e : PlanError) :
    refusedRate (.error e : Except PlanError α) = refusedRate (.error e : Except PlanError β) := by
  cases e with
  | refused e => rfl
  | raised e => rfl

/-- Only a refusal over the change names a rate. -/
theorem tooLittle_of_refusedRate {α : Type} {plan : Except PlanError α} {r : ℚ}
    (h : refusedRate plan = some r) :
    ∃ why, plan = .error (.refused (.tooLittleChange why)) ∧ why.namesRate = some r := by
  cases plan with
  | ok a => cases h
  | error e =>
      cases e with
      | raised e => cases h
      | refused e =>
          cases e with
          | tooLittleChange why => exact ⟨why, rfl, h⟩
          | _ => cases h

/-- At 20 sat/vB the stuck payment is refused, and told what it can afford. -/
theorem planReplacement_suggestion_stuckTx :
    ∃ why, planReplacement stuckTx stuckOwned "m/84'/0'/0'/1/" (20 : ℚ) 0 p2wpkh 1
        = .error (.refused (.tooLittleChange why))
      ∧ why.namesRate = some 6
      ∧ ∃ replacement, planReplacement stuckTx stuckOwned "m/84'/0'/0'/1/" (6 : ℚ) 0
          p2wpkh 1 = .ok replacement := by
  have hrefused : refusedRate (planReplacement stuckTx stuckOwned "m/84'/0'/0'/1/"
      (20 : ℚ) 0 p2wpkh 1) = some 6 := by decide +kernel
  obtain ⟨why, hwhy, hrate⟩ := tooLittle_of_refusedRate hrefused
  obtain ⟨shape, hshape, -, -, hiff⟩ := planReplacement_suggestion_iff stuckTx stuckOwned
    "m/84'/0'/0'/1/" 20 0 p2wpkh 1 why (by decide) hwhy
  have hkept : (planShape stuckTx stuckOwned "m/84'/0'/0'/1/").toOption.all
      (fun shape => decide (SuggestionKept stuckTx shape 0 p2wpkh 1)) = true := by
    decide +kernel
  rw [hshape] at hkept
  exact ⟨why, hwhy, hrate, ((hiff.mpr (of_decide_eq_true hkept)).1 6 hrate).1⟩

/-- The stuck payment with two hundred sats of headroom and two: 2.01 sat/vB would fit,
    but in floats `402 / 200 * 100` is just below 201. -/
def tightTx : TxSummary :=
  { stuckTx with
    inputs := [{ value := 50696, address := some "bc1qmine", txid := some "parent"
                 vout := some 0, sequence := some 0xFFFFFFFD }]
    outputs := [{ value := 50000, address := some "bc1qpayee" },
                { value := 496, address := some "bc1qchange" }] }

/-- The rate a refusal names is not always the best one. -/
theorem planReplacement_suggestion_tight :
    ¬ ∀ (tx : TxSummary) (owned : Owned) (changePrefix : String) (feeRate : ℚ)
        (extraFee : ℤ) (script : ScriptParams) (inc : ℚ) (why : TooLittleChange),
        0 ≤ feeRate → 0 ≤ extraFee → 0 ≤ inc → 0 < tx.vsize →
        planReplacement tx owned changePrefix feeRate extraFee script inc
          = .error (.refused (.tooLittleChange why)) →
        SuggestionHolds tx owned changePrefix extraFee script inc why := by
  intro h
  have hrefused : refusedRate (planReplacement tightTx stuckOwned "m/84'/0'/0'/1/"
      (10 : ℚ) 0 p2wpkh 1) = some 2 := by decide +kernel
  obtain ⟨why, hwhy, hrate⟩ := tooLittle_of_refusedRate hrefused
  obtain ⟨-, why', hnext⟩ := (h tightTx stuckOwned "m/84'/0'/0'/1/" 10 0 p2wpkh 1 why
    (by norm_num) (le_refl 0) (by norm_num) (by decide) hwhy).1 2 hrate
  have hplanned : (planReplacement tightTx stuckOwned "m/84'/0'/0'/1/" (2 + 1 / 100 : ℚ) 0
      p2wpkh 1).isOk = true := by decide +kernel
  rw [hnext] at hplanned
  cases hplanned

end SwapsackRbf
