import Swapsack.CardanoSweepProofs

/-! # What a Cardano sweep estimate raises

    An estimate returns an amount and a fee, or says that the funds do not
    suffice.  Two things can stop it before either: the placeholder witnesses are
    numbered by single bytes, and the refusal prints its amounts as floats.

    * `sweepSendAmountFloat_eq` — with floats large enough this is
      `sweepSendAmount`;
    * `sweepSendAmountFloat_iff` — when an estimate ends as it should. -/

namespace SwapsackCardanoSweep

open ListKit ByteString PyText SwapsackBase SwapsackCardanoTx SwapsackCardano Settle
open SwapsackSelection (sumValues)

/-- The first integer that no float holds: half-way between the greatest float and
    2^1024, rounded up. -/
def floatLimit : ℤ := 2 ^ 1024 - 2 ^ 970

/-- What an estimate raises: an error of the program's, or the conversion of an
    integer to a float. -/
inductive SweepError where
  | raised (e : PyError)
  | overflowError

section Estimate

variable (ad : AdaAdapter)

/-- `sweep_send_amount`, with the floats of its message: `total / 1e8` and
    `fee / 1e6` only exist where the integers are in range. -/
def sweepSendAmountFloat (total : ℤ) (nInputs memoLen : ℕ) : Except SweepError (ℤ × ℤ) :=
  match ad.protocolParams with
  | .error e => .error (.raised e)
  | .ok params =>
      let lovelace := total / lovelaceToUnits
      match requiredFee ad.codec (dummySweep lovelace nInputs memoLen) nInputs params with
      | .error e => .error (.raised e)
      | .ok fee =>
          let amount := lovelace - fee
          if amount < minLovelace ad.codec { address := longestAddress, lovelace := amount } params
          then
            if total < floatLimit ∧ (fee : ℤ) < floatLimit then
              let total8 := ad.fixed6 total 100000000
              .error (.raised (.insufficientFunds <|
                s!"{total8} ADA cannot cover a {ad.ada fee} ADA fee " ++
                "and still leave an output above the minimum ADA"))
            else .error .overflowError
          else .ok (amount * lovelaceToUnits, fee * lovelaceToUnits)

/-- How an estimate should end: with an amount and a fee within the total, the
    amount at least what the output must hold, or by saying that the funds do not
    suffice. -/
def EndsWell (params : ProtocolParams) (total : ℤ) : Except SweepError (ℤ × ℤ) → Prop
  | .ok (amount, fee) => amount + fee ≤ total ∧ ∃ lovelace, amount = lovelace * lovelaceToUnits
      ∧ (minLovelace ad.codec { address := longestAddress, lovelace } params : ℤ) ≤ lovelace
  | .error (.raised (.insufficientFunds _)) => True
  | .error _ => False

variable {ad} {params : ProtocolParams} {total : ℤ} {n memoLen : ℕ}

/-- Where the floats hold what is printed, the estimate is the one above. -/
theorem sweepSendAmountFloat_eq (htotal : total < floatLimit)
    (hfee : ∀ params fee, ad.protocolParams = .ok params →
      requiredFee ad.codec (dummySweep (total / lovelaceToUnits) n memoLen) n params = .ok fee →
      (fee : ℤ) < floatLimit) :
    sweepSendAmountFloat ad total n memoLen
      = (sweepSendAmount ad total n memoLen).mapError SweepError.raised := by
  rw [sweepSendAmountFloat, sweepSendAmount]
  cases hparams : ad.protocolParams with
  | error e => rfl
  | ok params =>
      rw [ok_bind]
      dsimp only
      cases hrequired : requiredFee ad.codec (dummySweep (total / lovelaceToUnits) n memoLen) n
          params with
      | error e => rfl
      | ok fee =>
          rw [ok_bind]
          dsimp only
          have hfloats := hfee params fee hparams hrequired
          by_cases hfloor : total / lovelaceToUnits - fee < minLovelace ad.codec
              { address := longestAddress, lovelace := total / lovelaceToUnits - fee } params
          · rw [if_pos hfloor, if_pos hfloor, if_pos (And.intro htotal hfloats)]
            rfl
          · rw [if_neg hfloor, if_neg hfloor]
            rfl

/-- What a fee leaves of the total is at least what the output must hold. -/
def Covered (ad : AdaAdapter) (params : ProtocolParams) (total : ℤ) (fee : ℕ) : Prop :=
  (minLovelace ad.codec
      { address := longestAddress, lovelace := total / lovelaceToUnits - fee } params : ℤ)
    ≤ total / lovelaceToUnits - fee

/-- Once the fee is sized, what is left is sent; or it is refused, where floats hold
    what the refusal prints. -/
theorem sweepSendAmountFloat_cases {fee : ℕ} (hparams : ad.protocolParams = .ok params)
    (hfee : requiredFee ad.codec (dummySweep (total / lovelaceToUnits) n memoLen) n params
      = .ok fee) :
    (Covered ad params total fee ∧ sweepSendAmountFloat ad total n memoLen = .ok
        ((total / lovelaceToUnits - fee) * lovelaceToUnits, fee * lovelaceToUnits))
    ∨ (¬ Covered ad params total fee ∧ (total < floatLimit ∧ (fee : ℤ) < floatLimit)
      ∧ ∃ text, sweepSendAmountFloat ad total n memoLen
        = .error (.raised (.insufficientFunds text)))
    ∨ (¬ Covered ad params total fee ∧ ¬ (total < floatLimit ∧ (fee : ℤ) < floatLimit)
      ∧ sweepSendAmountFloat ad total n memoLen = .error .overflowError) := by
  rw [sweepSendAmountFloat, hparams, Covered, not_le]
  dsimp only
  rw [hfee]
  dsimp only
  by_cases hfloor : total / lovelaceToUnits - fee < minLovelace ad.codec
      { address := longestAddress, lovelace := total / lovelaceToUnits - fee } params
  · rw [if_pos hfloor]
    by_cases hfloats : total < floatLimit ∧ (fee : ℤ) < floatLimit
    · rw [if_pos hfloats]
      exact Or.inr (Or.inl ⟨hfloor, hfloats, _, rfl⟩)
    · rw [if_neg hfloats]
      exact Or.inr (Or.inr ⟨hfloor, hfloats, rfl⟩)
  · rw [if_neg hfloor]
    exact Or.inl ⟨not_lt.mp hfloor, rfl⟩

/-- More keys than a byte counts cannot be sized for. -/
theorem requiredFee_many (c : Codec) (tx : UnsignedTx) (params : ProtocolParams)
    (hmany : 256 < n) :
    ∃ e, requiredFee c tx n params = .error e ∧ ∀ text, e ≠ .insufficientFunds text := by
  cases hplaceholders : placeholders n with
  | ok ws => exact absurd (placeholders_ok hplaceholders).1 (by omega)
  | error e =>
      obtain ⟨i, -, hi⟩ := mapM_error hplaceholders
      refine ⟨e, by rw [requiredFee, hplaceholders]; rfl, ?_⟩
      split at hi
      · cases hi
      · cases hi
        intro text htext
        cases htext

/-- The amount and the fee are whole lovelace of the total. -/
theorem drained_le (total fee : ℤ) :
    (total / lovelaceToUnits - fee) * lovelaceToUnits + fee * lovelaceToUnits ≤ total := by
  have hunits : lovelaceToUnits = 100 := rfl
  rw [hunits]
  omega

/-- **An estimate ends as it should** exactly for as many inputs as a byte counts,
    where a refusal has floats for the total and for the fee. -/
theorem sweepSendAmountFloat_endsWell (hparams : ad.protocolParams = .ok params) :
    EndsWell ad params total (sweepSendAmountFloat ad total n memoLen) ↔ n ≤ 256
      ∧ ∀ fee, requiredFee ad.codec (dummySweep (total / lovelaceToUnits) n memoLen) n params
          = .ok fee →
        (minLovelace ad.codec
            { address := longestAddress, lovelace := total / lovelaceToUnits - fee } params : ℤ)
          ≤ total / lovelaceToUnits - fee
        ∨ (total < floatLimit ∧ (fee : ℤ) < floatLimit) := by
  by_cases hmany : 256 < n
  · -- The placeholders fail first.
    obtain ⟨e, hrequired, hother⟩ := requiredFee_many ad.codec
      (dummySweep (total / lovelaceToUnits) n memoLen) params hmany
    rw [sweepSendAmountFloat, hparams]
    dsimp only
    rw [hrequired]
    refine iff_of_false (fun hends => ?_) (fun h => absurd h.1 (by omega))
    cases e
    case insufficientFunds text => exact hother text rfl
    all_goals exact hends
  · have hfew : n ≤ 256 := not_lt.mp hmany
    obtain ⟨fee, hrequired⟩ := requiredFee_isOk ad.codec
      (dummySweep (total / lovelaceToUnits) n memoLen) params hfew
    rcases sweepSendAmountFloat_cases hparams hrequired with ⟨hcovered, hsized⟩ |
      ⟨-, hfloats, text, hrefused⟩ | ⟨hshort, hfloats, hrange⟩
    · rw [hsized]
      refine iff_of_true ⟨drained_le total fee, _, rfl, hcovered⟩ ⟨hfew, fun fee' hfee' => ?_⟩
      cases hrequired.symm.trans hfee'
      exact Or.inl hcovered
    · rw [hrefused]
      refine iff_of_true trivial ⟨hfew, fun fee' hfee' => ?_⟩
      cases hrequired.symm.trans hfee'
      exact Or.inr hfloats
    · rw [hrange]
      refine iff_of_false id fun h => ?_
      exact (h.2 fee hrequired).elim hshort hfloats

/-- **The estimate of a sweep**: its fee sizing ends, at the least fee that pays for
    its own bytes, and it ends as it should exactly for as many inputs as a byte
    counts, where a refusal has floats for what it prints. -/
theorem sweepSendAmountFloat_iff (hshort : ad.codec.ShortestForm)
    (hparams : ad.protocolParams = .ok params) :
    (∀ fee, requiredFee ad.codec (dummySweep (total / lovelaceToUnits) n memoLen) n params
        = .ok fee →
      IsLeast (Meets (demand params
        (fixedSize ad.codec (dummySweep (total / lovelaceToUnits) n memoLen) n))) fee)
    ∧ (EndsWell ad params total (sweepSendAmountFloat ad total n memoLen) ↔ n ≤ 256
      ∧ ∀ fee, requiredFee ad.codec (dummySweep (total / lovelaceToUnits) n memoLen) n params
          = .ok fee →
        (minLovelace ad.codec
            { address := longestAddress, lovelace := total / lovelaceToUnits - fee } params : ℤ)
          ≤ total / lovelaceToUnits - fee
        ∨ (total < floatLimit ∧ (fee : ℤ) < floatLimit)) :=
  ⟨fun _ hfee => requiredFee_isLeast hshort hfee, sweepSendAmountFloat_endsWell hparams⟩

end Estimate

/-- Three coins of five ADA are estimated as they should be. -/
theorem sweepSendAmountFloat_iff_three :
    EndsWell (oneCoinAdapter 155381) (oneCoinParams 155381) 1500000000
      (sweepSendAmountFloat (oneCoinAdapter 155381) 1500000000 3 0) := by
  have hparams : (oneCoinAdapter 155381).protocolParams = .ok (oneCoinParams 155381) := rfl
  have hfee : requiredFee (oneCoinAdapter 155381).codec
      (dummySweep (1500000000 / lovelaceToUnits) 3 0) 3 (oneCoinParams 155381) = .ok 177601 := by
    decide +kernel
  have hcovered : (minLovelace (oneCoinAdapter 155381).codec
        { address := longestAddress, lovelace := 1500000000 / lovelaceToUnits - 177601 }
        (oneCoinParams 155381) : ℤ) ≤ 1500000000 / lovelaceToUnits - 177601 := by
    decide +kernel
  have hshort : (oneCoinAdapter 155381).codec.ShortestForm := plainCodec_shortestForm
  have hiff := (@sweepSendAmountFloat_iff (oneCoinAdapter 155381) (oneCoinParams 155381)
    1500000000 3 0 hshort hparams).2
  rw [hiff]
  refine ⟨by decide, fun fee h => Or.inl ?_⟩
  obtain rfl : 177601 = fee := Except.ok.inj (hfee.symm.trans h)
  exact hcovered

/-- **257 coins on one address** cannot be sized for, though one key signs for them
    all: the placeholder of the last does not fit a byte. -/
theorem sweepSendAmountFloat_manyCoins :
    ¬ EndsWell (oneCoinAdapter 155381) (oneCoinParams 155381) 128500000000
      (sweepSendAmountFloat (oneCoinAdapter 155381) 128500000000 257 0) := by
  have hparams : (oneCoinAdapter 155381).protocolParams = .ok (oneCoinParams 155381) := rfl
  rw [sweepSendAmountFloat_endsWell hparams]
  rintro ⟨hfew, -⟩
  exact absurd hfew (by decide)

end SwapsackCardanoSweep
