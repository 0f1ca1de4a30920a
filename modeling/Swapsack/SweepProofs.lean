import Swapsack.CardanoSweepErrorsProofs

/-! # Sizing a sweep

    How much of a balance a sweep sends: all of it but what the chain charges.
    Five functions size one, each in its chain's units, and each should refuse or
    send something that the balance covers.

    * `ethSweepAmount_spec`, `tokenSweepAmount_spec` — what the account chains' two
      return;
    * `sizing_lawful_iff` — the law, which a native EVM balance breaks that covers its
      gas and less than one unit more. -/

namespace SwapsackSweep

open ListKit SwapsackBase SwapsackCoins Rescaling
open SwapsackCardano SwapsackCardanoTx SwapsackCardanoSweep

/-! ## Account chains -/

/-- Wei in one of the wallet's 1e-8 units. -/
def weiPerThorchainUnit : ℤ := 10 ^ 10

/-- The 1e-8 units that send an entire token balance. -/
def tokenSweepAmount (balance : ℤ) (decimals : ℕ) : Except PyError ℤ :=
  let amount := rescale (10 ^ decimals) (10 ^ 8) balance
  if amount ≤ 0 then
    .error (.insufficientFunds s!"token balance {balance} too small to sweep")
  else .ok amount

/-- The 1e-8 units that sweep the balance less the worst-case gas reserve. -/
def ethSweepAmount (balanceWei gas maxFeePerGas : ℤ) : Except PyError ℤ :=
  let sendable := balanceWei - gas * maxFeePerGas
  if sendable ≤ 0 then
    .error (.insufficientFunds <|
      s!"balance {balanceWei} wei too small to cover gas reserve " ++
      s!"{gas * maxFeePerGas}")
  else .ok (sendable / weiPerThorchainUnit)

/-- A token sweep that is not refused sends something. -/
theorem tokenSweepAmount_spec {balance amount : ℤ} {decimals : ℕ}
    (h : tokenSweepAmount balance decimals = .ok amount) :
    amount = rescale (10 ^ decimals) (10 ^ 8) balance ∧ 0 < amount := by
  rw [tokenSweepAmount] at h
  split at h
  · cases h
  · rename_i hpos
    cases h
    exact ⟨rfl, not_le.mp hpos⟩

/-- What a native sweep sends is covered beside its reserve. -/
theorem ethSweepAmount_spec {balanceWei gas maxFeePerGas amount : ℤ}
    (h : ethSweepAmount balanceWei gas maxFeePerGas = .ok amount) :
    0 < balanceWei - gas * maxFeePerGas
      ∧ amount = (balanceWei - gas * maxFeePerGas) / weiPerThorchainUnit := by
  rw [ethSweepAmount] at h
  split at h
  · cases h
  · rename_i hpos
    cases h
    exact ⟨not_le.mp hpos, rfl⟩

/-- **Value and reserve fit the balance.** -/
theorem ethSweepAmount_covers {balanceWei gas maxFeePerGas amount : ℤ}
    (h : ethSweepAmount balanceWei gas maxFeePerGas = .ok amount) :
    amount * weiPerThorchainUnit + gas * maxFeePerGas ≤ balanceWei := by
  obtain ⟨-, rfl⟩ := ethSweepAmount_spec h
  have hfloor : (balanceWei - gas * maxFeePerGas) / weiPerThorchainUnit * weiPerThorchainUnit
      ≤ balanceWei - gas * maxFeePerGas :=
    Int.ediv_mul_le _ (by decide)
  omega

/-! ## The law -/

/-- The script types of the wallet's UTXO chains. -/
def ScriptType : Type := { script : ScriptParams // script = p2wpkh ∨ script = p2pkh }

/-- One sizing: the function, and what it is called with. -/
inductive Sizing where
  | utxo (script : ScriptType) (total : ℤ) (nInputs : ℕ) (feeRate : ℚ) (memoLen : ℕ)
      (extraFee : ℤ)
  | zip317 (total : ℤ) (nInputs memoLen : ℕ)
  | token (balance : ℤ) (decimals : ℕ)
  | evm (balanceWei gas maxFeePerGas : ℤ)
  | ada (ad : AdaAdapter) (total : ℤ) (nInputs memoLen : ℕ)

/-- `InsufficientFunds`. -/
def Refusal (e : PyError) : Prop := ∃ text, e = .insufficientFunds text

/-- A placeholder key beyond the range of a byte, or an integer beyond that of a
    float. -/
def RangeError : SweepError → Prop
  | .raised e => e = .valueError "bytes must be in range(0, 256)"
  | .overflowError => True

/-- A computation that raises nothing but `refusal`, and returns what is `good`. -/
def EndsIn {ε α : Type} (refusal : ε → Prop) (good : α → Prop) : Except ε α → Prop
  | .ok a => good a
  | .error e => refusal e

/-- **The law of a sizing**: it refuses, or returns something that together with the
    fee it reserves does not exceed the balance; a range error is neither. -/
def Sizing.Lawful : Sizing → Prop
  | utxo script total nInputs feeRate memoLen extraFee =>
      EndsIn Refusal (fun sized => 0 < sized.1 ∧ sized.1 + sized.2 ≤ total)
        (sweepAmount total nInputs feeRate memoLen script.val extraFee)
  | zip317 total nInputs memoLen =>
      EndsIn Refusal (fun sized => 0 < sized.1 ∧ sized.1 + sized.2 ≤ total)
        (sweepAmountZip317 total nInputs memoLen dustZec)
  | token balance decimals =>
      EndsIn Refusal (fun amount => 0 < amount ∧ amount * 10 ^ decimals ≤ balance * 10 ^ 8)
        (tokenSweepAmount balance decimals)
  | evm balanceWei gas maxFeePerGas =>
      EndsIn Refusal (fun amount => 0 < amount
          ∧ amount * weiPerThorchainUnit + gas * maxFeePerGas ≤ balanceWei)
        (ethSweepAmount balanceWei gas maxFeePerGas)
  | ada ad total nInputs memoLen =>
      EndsIn (fun e => (∃ reason, e = .raised reason ∧ Refusal reason) ∨ RangeError e)
        (fun sized => 0 < sized.1 ∧ sized.1 + sized.2 ≤ total)
        (sweepSendAmountFloat ad total nInputs memoLen)

/-- What breaks the law: an EVM balance that covers the gas and something more, but
    not one unit more; a node that fails, or by which an output may hold nothing where
    the balance is the fee. -/
def Sizing.Breaks : Sizing → Prop
  | evm balanceWei gas maxFeePerGas =>
      0 < balanceWei - gas * maxFeePerGas
        ∧ balanceWei - gas * maxFeePerGas < weiPerThorchainUnit
  | ada ad total nInputs memoLen =>
      (∃ e, ad.protocolParams = .error e ∧ ¬ Refusal e ∧ ¬ RangeError (.raised e))
      ∨ ∃ params fee, ad.protocolParams = .ok params ∧ params.coinsPerUtxoByte = 0
          ∧ requiredFee ad.codec (dummySweep (total / lovelaceToUnits) nInputs memoLen) nInputs
              params = .ok fee
          ∧ total / lovelaceToUnits = fee
  | _ => False

/-! ## The five functions -/

/-- A sizing with a floor ends well when what it returns above the floor is good. -/
theorem endsIn_floor {α : Type} {short : Prop} [Decidable short] {text : String} {a : α}
    {good : α → Prop} :
    EndsIn Refusal good (if short then .error (.insufficientFunds text) else .ok a)
      ↔ (¬ short → good a) := by
  by_cases h : short
  · rw [if_pos h]
    exact iff_of_true ⟨text, rfl⟩ fun hnot => absurd h hnot
  · rw [if_neg h]
    exact ⟨fun hgood _ => hgood, fun hgood => hgood h⟩

theorem utxo_lawful (script : ScriptType) (total : ℤ) (nInputs : ℕ) (feeRate : ℚ)
    (memoLen : ℕ) (extraFee : ℤ) :
    (Sizing.utxo script total nInputs feeRate memoLen extraFee).Lawful := by
  have hdust : 0 < script.val.dust := by
    rcases script.property with h | h
    · rw [h]
      decide
    · rw [h]
      decide
  rw [Sizing.Lawful, sweepAmount, endsIn_floor]
  intro hfloor
  dsimp only
  omega

theorem zip317_lawful (total : ℤ) (nInputs memoLen : ℕ) :
    (Sizing.zip317 total nInputs memoLen).Lawful := by
  have hdust : dustZec = 546 := rfl
  rw [Sizing.Lawful, sweepAmountZip317, hdust, endsIn_floor]
  intro hfloor
  dsimp only
  omega

theorem token_lawful (balance : ℤ) (decimals : ℕ) : (Sizing.token balance decimals).Lawful := by
  rw [Sizing.Lawful, tokenSweepAmount, endsIn_floor]
  intro hfloor
  exact ⟨not_le.mp hfloor, rescale_mul_le (by positivity)⟩

/-- A native sweep sends nothing exactly below one unit. -/
theorem evm_lawful_iff (balanceWei gas maxFeePerGas : ℤ) :
    (Sizing.evm balanceWei gas maxFeePerGas).Lawful
      ↔ ¬ (Sizing.evm balanceWei gas maxFeePerGas).Breaks := by
  have hunit : (0 : ℤ) < weiPerThorchainUnit := by decide
  have hsent : 0 < (balanceWei - gas * maxFeePerGas) / weiPerThorchainUnit
      ↔ weiPerThorchainUnit ≤ balanceWei - gas * maxFeePerGas := by
    rw [← Int.add_one_le_iff, Int.zero_add, Int.le_ediv_iff_mul_le hunit, Int.one_mul]
  have hcovers : ¬ balanceWei - gas * maxFeePerGas ≤ 0 →
      (balanceWei - gas * maxFeePerGas) / weiPerThorchainUnit * weiPerThorchainUnit
        + gas * maxFeePerGas ≤ balanceWei := by
    intro hfloor
    refine @ethSweepAmount_covers balanceWei gas maxFeePerGas _ ?_
    rw [ethSweepAmount, if_neg hfloor]
  rw [Sizing.Lawful, Sizing.Breaks, ethSweepAmount, endsIn_floor]
  constructor
  · rintro hlawful ⟨hpos, hbelow⟩
    exact absurd (hsent.mp (hlawful (not_le.mpr hpos)).1) (not_le.mpr hbelow)
  · intro hunitLeft hfloor
    refine ⟨hsent.mpr (not_lt.mp fun hbelow => ?_), hcovers hfloor⟩
    exact hunitLeft ⟨not_le.mp hfloor, hbelow⟩

/-- The sizing loop fails only for want of a placeholder. -/
theorem requiredFee_error {c : Codec} {tx : UnsignedTx} {n : ℕ} {params : ProtocolParams}
    {e : PyError} (h : requiredFee c tx n params = .error e) :
    e = .valueError "bytes must be in range(0, 256)" := by
  rw [requiredFee] at h
  rcases bind_eq_error h with hplaceholders | ⟨dummy, -, hnever⟩
  · obtain ⟨i, -, hi⟩ := mapM_error hplaceholders
    split at hi
    · cases hi
    · cases hi
      rfl
  · cases hnever

/-- An output has a minimum where a byte of one costs something, and only there. -/
theorem minLovelace_eq_zero_iff (c : Codec) (output : TxOut) (params : ProtocolParams) :
    minLovelace c output params = 0 ↔ params.coinsPerUtxoByte = 0 := by
  rw [minLovelace, Nat.mul_eq_zero]
  refine or_iff_right (Nat.ne_of_gt (Nat.add_pos_left ?_ _))
  decide

/-- A node that fails: the sizing raises what it raised. -/
theorem ada_lawful_error {ad : AdaAdapter} {e : PyError} (h : ad.protocolParams = .error e)
    (total : ℤ) (nInputs memoLen : ℕ) :
    (Sizing.ada ad total nInputs memoLen).Lawful ↔ Refusal e ∨ RangeError (.raised e) := by
  rw [Sizing.Lawful, sweepSendAmountFloat, h]
  constructor
  · rintro (⟨reason, hreason, hrefusal⟩ | hrange)
    · cases hreason
      exact Or.inl hrefusal
    · exact Or.inr hrange
  · rintro (hrefusal | hrange)
    · exact Or.inl ⟨e, rfl, hrefusal⟩
    · exact Or.inr hrange

/-- A balance that is the fee is swept as nothing, where an output may hold nothing. -/
theorem ada_lawful_ok {ad : AdaAdapter} {params : ProtocolParams} {total : ℤ}
    {nInputs memoLen fee : ℕ} (hparams : ad.protocolParams = .ok params)
    (hrequired : requiredFee ad.codec (dummySweep (total / lovelaceToUnits) nInputs memoLen)
      nInputs params = .ok fee) :
    (Sizing.ada ad total nInputs memoLen).Lawful
      ↔ ¬ (params.coinsPerUtxoByte = 0 ∧ total / lovelaceToUnits = fee) := by
  have hzero := minLovelace_eq_zero_iff ad.codec
    { address := longestAddress, lovelace := total / lovelaceToUnits - fee } params
  -- Where an output may hold nothing, a balance that is the fee covers one.
  have hnothing : ¬ Covered ad params total fee →
      ¬ (params.coinsPerUtxoByte = 0 ∧ total / lovelaceToUnits = fee) := by
    rintro hshort ⟨hfree, hspent⟩
    rw [Covered, hzero.mpr hfree, hspent, Int.sub_self] at hshort
    exact hshort le_rfl
  rw [Sizing.Lawful]
  rcases sweepSendAmountFloat_cases hparams hrequired with ⟨hcovered, hsized⟩ |
    ⟨hshort, -, text, hrefused⟩ | ⟨hshort, -, hrange⟩
  · rw [hsized]
    rw [Covered] at hcovered
    have hunits : (0 : ℤ) < lovelaceToUnits := by decide
    constructor
    · rintro ⟨hpos, -⟩ ⟨-, hspent⟩
      rw [hspent, Int.sub_self, Int.zero_mul] at hpos
      exact absurd hpos (lt_irrefl 0)
    · intro hsome
      refine ⟨Int.mul_pos ?_ hunits, drained_le total fee⟩
      by_cases hfree : params.coinsPerUtxoByte = 0
      · have hspent : total / lovelaceToUnits ≠ fee := fun h => hsome ⟨hfree, h⟩
        omega
      · have hmin := mt hzero.mp hfree
        omega
  · rw [hrefused]
    exact iff_of_true (Or.inl ⟨_, rfl, text, rfl⟩) (hnothing hshort)
  · rw [hrange]
    exact iff_of_true (Or.inr trivial) (hnothing hshort)

theorem ada_lawful_iff (ad : AdaAdapter) (total : ℤ) (nInputs memoLen : ℕ) :
    (Sizing.ada ad total nInputs memoLen).Lawful
      ↔ ¬ (Sizing.ada ad total nInputs memoLen).Breaks := by
  rw [Sizing.Breaks]
  cases hparams : ad.protocolParams with
  | error e =>
      rw [ada_lawful_error hparams]
      constructor
      · rintro hallowed (⟨e', he', hrefusal, hrange⟩ | ⟨params, fee, hok, -⟩)
        · cases he'
          exact hallowed.elim hrefusal hrange
        · cases hok
      · intro hnot
        by_contra hother
        obtain ⟨hrefusal, hrange⟩ := not_or.mp hother
        exact hnot (Or.inl ⟨e, rfl, hrefusal, hrange⟩)
  | ok params =>
      cases hrequired : requiredFee ad.codec (dummySweep (total / lovelaceToUnits) nInputs memoLen)
          nInputs params with
      | error e =>
          refine iff_of_true ?_ ?_
          · rw [Sizing.Lawful, sweepSendAmountFloat, hparams]
            dsimp only
            rw [hrequired]
            exact Or.inr (requiredFee_error hrequired)
          · rintro (⟨e', he', -⟩ | ⟨params', fee, hok, -, hfee, -⟩)
            · cases he'
            · cases hok
              rw [hrequired] at hfee
              cases hfee
      | ok fee =>
          rw [ada_lawful_ok hparams hrequired]
          refine not_congr ⟨fun h => Or.inr ⟨params, fee, rfl, h.1, hrequired, h.2⟩, ?_⟩
          rintro (⟨e', he', -⟩ | ⟨params', fee', hok, hfree, hfee, hspent⟩)
          · cases he'
          · cases hok
            rw [hrequired] at hfee
            cases hfee
            exact ⟨hfree, hspent⟩

/-- **Every sizing keeps the law** but where the balance leaves nothing to send, and
    is not refused. -/
theorem sizing_lawful_iff (s : Sizing) : s.Lawful ↔ ¬ s.Breaks := by
  cases s with
  | utxo script total nInputs feeRate memoLen extraFee =>
      exact iff_of_true (utxo_lawful ..) id
  | zip317 total nInputs memoLen => exact iff_of_true (zip317_lawful ..) id
  | token balance decimals => exact iff_of_true (token_lawful ..) id
  | evm balanceWei gas maxFeePerGas => exact evm_lawful_iff balanceWei gas maxFeePerGas
  | ada ad total nInputs memoLen => exact ada_lawful_iff ad total nInputs memoLen

end SwapsackSweep
