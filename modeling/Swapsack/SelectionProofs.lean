import Mathlib.Data.List.Sort
import Swapsack.CoinsProofs

/-! # Coin selection

    The greedy loop both fee models share: confirmed coins first, then largest
    first, pricing after each coin the shape with a change output and the shape
    without.  `selectLoop_cases` says once how the loop can end; everything
    about a selection — which coins, what it conserves, what its fee covers —
    is read off that, as `SelectionSound`. -/

namespace SwapsackSelection

open ListKit SwapsackBase SwapsackCoins

/-- What a list of coins is worth. -/
def sumValues (utxos : List Utxo) : ℤ := (utxos.map Utxo.value).sum

/-- Coins together are worth what they are worth apart. -/
@[simp] theorem sumValues_append (us vs : List Utxo) :
    sumValues (us ++ vs) = sumValues us + sumValues vs := by
  unfold sumValues
  rw [List.map_append, List.sum_append]

@[simp] theorem sumValues_singleton (u : Utxo) : sumValues [u] = u.value := by
  simp [sumValues]

/-! ## The loop -/

/-- The order coins are offered in: by `(confirmed, value)`, descending. -/
def offeredBefore (a b : Utxo) : Prop :=
  (a.confirmed = true ∧ b.confirmed = false)
    ∨ (a.confirmed = b.confirmed ∧ b.value ≤ a.value)

instance : DecidableRel offeredBefore := fun a b => by
  rw [offeredBefore]
  infer_instance

/-- The greedy loop over the coins still on offer.  `feeFn chosen nOut` prices
    a candidate shape with `nOut` value outputs. -/
def selectLoop (sendAmount : ℤ) (dust : ℕ) (feeFn : List Utxo → ℕ → ℤ) :
    List Utxo → List Utxo → ℤ → Except PyError Selection
  | [], _, total =>
      .error (.insufficientFunds
        s!"have {total} base units, need {sendAmount} + fee for the spend")
  | utxo :: rest, chosen, total =>
      let chosen := chosen ++ [utxo]
      let total := total + utxo.value
      let feeWithChange := feeFn chosen 2
      let change := total - sendAmount - feeWithChange
      if change ≥ dust then
        .ok { utxos := chosen, fee := feeWithChange, change := change }
      -- no change output: whatever stands above the minimal fee is fee
      else if total ≥ sendAmount + feeFn chosen 1 then
        .ok { utxos := chosen, fee := total - sendAmount, change := 0 }
      else selectLoop sendAmount dust feeFn rest chosen total

/-- The greedy selection core, whatever the fee model. -/
def select (utxos : List Utxo) (sendAmount : ℤ) (dust : ℕ)
    (feeFn : List Utxo → ℕ → ℤ) : Except PyError Selection :=
  selectLoop sendAmount dust feeFn (utxos.insertionSort offeredBefore) [] 0

/-- The fee `selectCoins` prices a shape at: its size at the rate, and the
    surcharge of the chosen inputs. -/
def rateFee (feeRate : ℚ) (memoLen : ℕ) (script : ScriptParams)
    (chosen : List Utxo) (nOut : ℕ) : ℤ :=
  ⌈(estimateVsize chosen.length nOut memoLen script : ℚ) * feeRate⌉
    + cpfpSurcharge chosen

/-- Selection under a fee rate (BTC, DASH). -/
def selectCoins (utxos : List Utxo) (sendAmount : ℤ) (feeRate : ℚ)
    (memoLen : ℕ) (script : ScriptParams) : Except PyError Selection :=
  select utxos sendAmount script.dust (rateFee feeRate memoLen script)

/-- The fee `selectCoinsZip317` prices a shape at. -/
def actionFee (memoLen : ℕ) (chosen : List Utxo) (nOut : ℕ) : ℤ :=
  zip317Fee chosen.length nOut memoLen + cpfpSurcharge chosen

/-- Selection under ZIP-317 (ZEC). -/
def selectCoinsZip317 (utxos : List Utxo) (sendAmount : ℤ) (memoLen dust : ℕ) :
    Except PyError Selection :=
  select utxos sendAmount dust (actionFee memoLen)

/-! ## How the loop ends -/

/-- The two ways a selection is returned: with a change output worth keeping,
    or with the leftover folded into the fee. -/
inductive Outcome (sendAmount : ℤ) (dust : ℕ) (feeFn : List Utxo → ℕ → ℤ)
    (sel : Selection) : Prop where
  | kept (hfee : sel.fee = feeFn sel.utxos 2)
      (hchange : sel.change = sumValues sel.utxos - sendAmount - sel.fee)
      (hdust : (dust : ℤ) ≤ sel.change)
  | folded (hchange : sel.change = 0)
      (hfee : sel.fee = sumValues sel.utxos - sendAmount)
      (hcover : feeFn sel.utxos 1 ≤ sel.fee)
      (hdust : sumValues sel.utxos - sendAmount - feeFn sel.utxos 2 < dust)

/-- **One description of the loop**: what it returns is what it had chosen plus
    a prefix of what was on offer, ending one of the two ways. -/
theorem selectLoop_cases {sendAmount : ℤ} {dust : ℕ} {feeFn : List Utxo → ℕ → ℤ}
    {sel : Selection} :
    ∀ {rest chosen : List Utxo} {total : ℤ}, total = sumValues chosen →
      selectLoop sendAmount dust feeFn rest chosen total = .ok sel →
      (∃ pre post, rest = pre ++ post ∧ sel.utxos = chosen ++ pre)
        ∧ Outcome sendAmount dust feeFn sel := by
  intro rest
  induction rest with
  | nil => intro chosen total _ h; exact nomatch h
  | cons utxo rest ih =>
      intro chosen total htotal h
      have hsum : total + utxo.value = sumValues (chosen ++ [utxo]) := by
        rw [sumValues_append, sumValues_singleton, htotal]
      unfold selectLoop at h
      dsimp only at h
      split at h
      · -- enough for a change output
        rename_i hdust
        cases h
        refine ⟨⟨[utxo], rest, rfl, rfl⟩, .kept rfl ?_ hdust⟩
        rw [← hsum]
      · rename_i hdust
        split at h
        · -- enough without one
          rename_i hcover
          cases h
          refine ⟨⟨[utxo], rest, rfl, rfl⟩, .folded rfl ?_ ?_ ?_⟩
          · rw [← hsum]
          · dsimp only
            omega
          · rw [← hsum]
            dsimp only
            omega
        · obtain ⟨⟨pre, post, hrest, hutxos⟩, hout⟩ := ih hsum h
          refine ⟨⟨utxo :: pre, post, ?_, ?_⟩, hout⟩
          · rw [hrest, List.cons_append]
          · rw [hutxos, List.append_assoc, List.singleton_append]

/-- A selection takes offered coins, each at most once. -/
theorem select_subperm {utxos : List Utxo} {sendAmount : ℤ} {dust : ℕ}
    {feeFn : List Utxo → ℕ → ℤ} {sel : Selection}
    (h : select utxos sendAmount dust feeFn = .ok sel) :
    sel.utxos.Subperm utxos := by
  obtain ⟨⟨pre, post, hsorted, hutxos⟩, -⟩ := selectLoop_cases rfl h
  rw [List.nil_append] at hutxos
  have hperm := List.perm_insertionSort offeredBefore utxos
  rw [hsorted] at hperm
  rw [hutxos]
  exact (List.sublist_append_left pre post).subperm.trans hperm.subperm

/-- A selection that is made has one of the outcomes. -/
theorem select_outcome {utxos : List Utxo} {sendAmount : ℤ} {dust : ℕ}
    {feeFn : List Utxo → ℕ → ℤ} {sel : Selection}
    (h : select utxos sendAmount dust feeFn = .ok sel) :
    Outcome sendAmount dust feeFn sel :=
  (selectLoop_cases rfl h).2

/-! ## What a selection guarantees -/

/-- What a returned selection promises about the coins, the money and the fee. -/
structure SelectionSound (utxos : List Utxo) (sendAmount : ℤ) (dust : ℕ)
    (feeFn : List Utxo → ℕ → ℤ) (sel : Selection) : Prop where
  offered : sel.utxos.Subperm utxos
  conserved : sumValues sel.utxos = sendAmount + sel.change + sel.fee
  change_dust : sel.change = 0 ∨ (dust : ℤ) ≤ sel.change
  /-- the fee covers the shape that is built -/
  fee_covers : feeFn sel.utxos (if 0 < sel.change then 2 else 1) ≤ sel.fee
  /-- dropped change costs less than dust and an output; where dust is zero, a
      change of exactly zero was not dropped but paid in full -/
  dropped : sel.change = 0 →
    sel.fee - feeFn sel.utxos 1 < dust + (feeFn sel.utxos 2 - feeFn sel.utxos 1)
      ∨ dust = 0 ∧ sel.fee = feeFn sel.utxos 2

/-- **Greedy selection is sound** under any fee that does not fall when an
    output is added. -/
theorem select_sound {utxos : List Utxo} {sendAmount : ℤ} {dust : ℕ}
    {feeFn : List Utxo → ℕ → ℤ} {sel : Selection}
    (hmono : ∀ us, feeFn us 1 ≤ feeFn us 2)
    (h : select utxos sendAmount dust feeFn = .ok sel) :
    SelectionSound utxos sendAmount dust feeFn sel := by
  refine ⟨select_subperm h, ?_, ?_, ?_, ?_⟩
  · rcases select_outcome h with ⟨-, hchange, -⟩ | ⟨hchange, hfee, -, -⟩ <;> omega
  · rcases select_outcome h with ⟨-, -, hdust⟩ | ⟨hchange, -, -, -⟩
    · exact Or.inr hdust
    · exact Or.inl hchange
  · rcases select_outcome h with ⟨hfee, -, -⟩ | ⟨hchange, -, hcover, -⟩
    · split
      · exact hfee.ge
      · exact (hmono sel.utxos).trans hfee.ge
    · rw [if_neg (by omega)]
      exact hcover
  · intro hzero
    rcases select_outcome h with ⟨hfee, -, hdust⟩ | ⟨-, hfee, -, hdust⟩
    · exact Or.inr ⟨by omega, hfee⟩
    · exact Or.inl (by omega)

/-- A second output costs no less at a rate, -/
theorem rateFee_mono {feeRate : ℚ} (hrate : 0 ≤ feeRate) (memoLen : ℕ)
    (script : ScriptParams) (us : List Utxo) :
    rateFee feeRate memoLen script us 1 ≤ rateFee feeRate memoLen script us 2 := by
  have hsize := estimateVsize_mono_outputs us.length memoLen script one_le_two
  have hcast : (estimateVsize us.length 1 memoLen script : ℚ)
      ≤ estimateVsize us.length 2 memoLen script := by exact_mod_cast hsize
  unfold rateFee
  gcongr

/-- and no less by actions. -/
theorem actionFee_mono (memoLen : ℕ) (us : List Utxo) :
    actionFee memoLen us 1 ≤ actionFee memoLen us 2 := by
  have hfee := zip317Fee_mono_outputs us.length memoLen one_le_two
  unfold actionFee
  omega

/-- **The selection at a rate is sound,** -/
theorem selectCoins_sound {utxos : List Utxo} {sendAmount : ℤ} {feeRate : ℚ}
    {memoLen : ℕ} {script : ScriptParams} {sel : Selection}
    (hrate : 0 ≤ feeRate)
    (h : selectCoins utxos sendAmount feeRate memoLen script = .ok sel) :
    SelectionSound utxos sendAmount script.dust
      (rateFee feeRate memoLen script) sel :=
  select_sound (rateFee_mono hrate memoLen script) h

/-- **and so is that by actions.** -/
theorem selectCoinsZip317_sound {utxos : List Utxo} {sendAmount : ℤ}
    {memoLen dust : ℕ} {sel : Selection}
    (h : selectCoinsZip317 utxos sendAmount memoLen dust = .ok sel) :
    SelectionSound utxos sendAmount dust (actionFee memoLen) sel :=
  select_sound (actionFee_mono memoLen) h

/-- A fee at a non-negative rate is never negative. -/
theorem rateFee_nonneg {feeRate : ℚ} (hrate : 0 ≤ feeRate) (memoLen : ℕ)
    (script : ScriptParams) (us : List Utxo) (nOut : ℕ) :
    0 ≤ rateFee feeRate memoLen script us nOut := by
  have hceil : 0 ≤ ⌈(estimateVsize us.length nOut memoLen script : ℚ) * feeRate⌉ :=
    Int.ceil_nonneg (by positivity)
  rw [rateFee]
  omega

theorem actionFee_nonneg (memoLen : ℕ) (us : List Utxo) (nOut : ℕ) :
    0 ≤ actionFee memoLen us nOut := by
  rw [actionFee]
  omega

end SwapsackSelection
