import Swapsack.VerifyProofs

/-! # Where the value of a swap goes

    The swap gate looks at the outputs three times: by address for the vault,
    by payload for the memo, and by ownership for the change.  Each filter skips
    what another one is meant to cover.  Together they account for every unit of
    value except what sits in an output that carries data.

    * `verifyBtcSwap_accounts_iff` — a passing swap is fully accounted for
      exactly when its data output holds no value;
    * `verifyBtcSwap_passes_burnt_value` — a passing swap that burns value. -/

namespace SwapsackAccounting

open ListKit ByteString PyText SwapsackBase SwapsackVerify
open SwapsackCoins (memoBytes)

/-- What the outputs hold together. -/
def total (outputs : List TxOutput) : ℤ := (outputs.map TxOutput.value).sum

/-- The output pays an address of ours. -/
def paysOwned (ownedAddresses : List String) (o : TxOutput) : Bool :=
  match o.address with
  | some address => ownedAddresses.contains address
  | none => false

theorem paysOwned_iff {ownedAddresses : List String} {o : TxOutput} :
    paysOwned ownedAddresses o = true
      ↔ ∃ address ∈ ownedAddresses, o.address = some address := by
  rw [paysOwned]
  cases o.address with
  | none => simp
  | some address => simp

/-- What comes back to the wallet. -/
def ownedTotal (outputs : List TxOutput) (ownedAddresses : List String) : ℤ :=
  total (outputs.filter (paysOwned ownedAddresses))

/-- Every unit of value is accounted for by the plan, the change and the fee. -/
structure Accounted (outputs : List TxOutput) (fee maxFee : ℤ) (plan : SwapPlan)
    (ownedAddresses : List String) : Prop where
  /-- The vault is paid the planned amount, in one output. -/
  vault_once : ∃ o, outputs.filter (fun o => o.address == some plan.inboundAddress) = [o]
    ∧ o.value = plan.amount
  /-- All the rest comes back to us. -/
  rest_owned : total outputs = plan.amount + ownedTotal outputs ownedAddresses
  /-- No value sits in a data output, or anywhere else. -/
  no_stray : ∀ o ∈ outputs, o.value ≠ 0 →
    o.opReturnData = none ∧ (o.address = some plan.inboundAddress
      ∨ ∃ address ∈ ownedAddresses, o.address = some address)
  /-- One output carries data, and it is the memo. -/
  memo_once : outputs.filterMap TxOutput.opReturnData = [memoBytes (some plan.memo)]
  fee_bounds : 0 ≤ fee ∧ fee ≤ maxFee
  /-- The wallet loses the amount and the fee. -/
  loss : ∀ spent : ℤ, fee = spent - total outputs →
    spent - ownedTotal outputs ownedAddresses = plan.amount + fee

/-- Outputs without value add nothing. -/
theorem total_eq_zero {outputs : List TxOutput} (h : ∀ o ∈ outputs, o.value = 0) :
    total outputs = 0 := by
  rw [total]
  refine List.sum_eq_zero fun v hv => ?_
  obtain ⟨o, ho, rfl⟩ := List.mem_map.mp hv
  exact h o ho

/-- The total is the payee's output, our outputs, and what neither of us gets. -/
theorem total_split {outputs : List TxOutput} {payee : String}
    {ownedAddresses : List String} (hpayee : payee ∉ ownedAddresses) :
    total outputs
      = total (outputs.filter fun o => o.address == some payee)
        + ownedTotal outputs ownedAddresses
        + total (outputs.filter fun o =>
            !(o.address == some payee) && !paysOwned ownedAddresses o) := by
  have hpay := sum_filter_add_not (fun o : TxOutput => o.address == some payee)
    TxOutput.value outputs
  have hown := sum_filter_add_not (paysOwned ownedAddresses) TxOutput.value
    (outputs.filter fun o => !(o.address == some payee))
  -- an output to us is not an output to the payee
  have hours : (outputs.filter fun o => !(o.address == some payee)).filter
        (paysOwned ownedAddresses)
      = outputs.filter (paysOwned ownedAddresses) := by
    rw [List.filter_filter]
    refine List.filter_congr fun o _ => ?_
    cases howned : paysOwned ownedAddresses o with
    | false => rfl
    | true =>
        obtain ⟨address, hmem, haddr⟩ := paysOwned_iff.mp howned
        have hne : address ≠ payee := fun h => hpayee (h ▸ hmem)
        simp [haddr, hne]
  have hrest : (outputs.filter fun o => !(o.address == some payee)).filter
        (fun o => !paysOwned ownedAddresses o)
      = outputs.filter fun o =>
          !(o.address == some payee) && !paysOwned ownedAddresses o := by
    rw [List.filter_filter]
    refine List.filter_congr fun o _ => ?_
    exact Bool.and_comm ..
  rw [hours, hrest] at hown
  rw [total, total, total, ownedTotal, total]
  linarith

section Gate

variable [PyUnicode]

/-- **The swap gate's account.**  A swap that passes pays the vault the planned
    amount once, returns all the rest, and costs the amount and the fee —
    exactly when no output that carries data holds value. -/
theorem verifyBtcSwap_accounts_iff {outputs : List TxOutput} {fee : ℤ} {plan : SwapPlan}
    {ownedAddresses : List String} {now maxFee : ℤ} {memoMaxBytes : ℕ}
    (hvault : plan.inboundAddress ∉ ownedAddresses)
    (hpass : verifyBtcSwap outputs fee plan ownedAddresses now maxFee memoMaxBytes = []) :
    Accounted outputs fee maxFee plan ownedAddresses
      ↔ ∀ o ∈ outputs, o.opReturnData ≠ none → o.value = 0 := by
  obtain ⟨-, hpaid, hmemo, hchange, -, hfee⟩ := verifyBtcSwap_eq_nil.mp hpass
  constructor
  · intro hacc o ho hdata
    by_contra hvalue
    exact hdata (hacc.no_stray o ho hvalue).1
  · intro hempty
    obtain ⟨paid, honce, hvalue⟩ := vaultProblems_eq_nil.mp hpaid
    have hkept := changeProblems_eq_nil.mp hchange
    have hstray : ∀ o ∈ outputs, o.value ≠ 0 →
        o.opReturnData = none ∧ (o.address = some plan.inboundAddress
          ∨ ∃ address ∈ ownedAddresses, o.address = some address) := by
      intro o ho hne
      have hdata : o.opReturnData = none := by
        by_contra hdata
        exact hne (hempty o ho hdata)
      refine ⟨hdata, ?_⟩
      by_cases haddr : o.address = some plan.inboundAddress
      · exact .inl haddr
      · exact .inr (hkept o ho hdata haddr)
    have hrest : total outputs
        = plan.amount + ownedTotal outputs ownedAddresses := by
      have hnone : total (outputs.filter fun o =>
          !(o.address == some plan.inboundAddress) && !paysOwned ownedAddresses o) = 0 := by
        refine total_eq_zero fun o ho => ?_
        obtain ⟨ho, hneither⟩ := List.mem_filter.mp ho
        by_contra hne
        rcases (hstray o ho hne).2 with haddr | howned
        · simp [haddr] at hneither
        · simp [paysOwned_iff.mpr howned] at hneither
      rw [total_split hvault, honce, hnone, total, List.map_singleton,
        List.sum_singleton, hvalue, add_zero]
    exact {
      vault_once := ⟨paid, honce, hvalue⟩
      rest_owned := hrest
      no_stray := hstray
      memo_once := (opReturnProblems_eq_nil.mp hmemo).1
      fee_bounds := hfee
      loss := by
        intro spent hspent
        rw [hspent, hrest]
        ring }

end Gate

/-! ## A swap that burns value -/

def burntPlan : SwapPlan where
  inboundAddress := "bc1qvault"
  amount := 1000
  memo := .text "=:ETH.ETH:0xme"
  expiry := 100
  destination := "0xme"

/-- The planned swap; `burnt` is what its data output holds. -/
def burntOutputs (burnt : ℤ) : List TxOutput :=
  [⟨some "bc1qvault", 1000, none⟩,
   ⟨none, burnt, some (encodeUtf8 "=:ETH.ETH:0xme")⟩,
   ⟨some "bc1qme", 2000, none⟩]

/-- The condition is met when the data output is empty, as the builder has it. -/
theorem verifyBtcSwap_accounts_iff_plain :
    Accounted (burntOutputs 0) 300 500 burntPlan ["bc1qme"] :=
  (@verifyBtcSwap_accounts_iff asciiUnicode (burntOutputs 0) 300 burntPlan ["bc1qme"] 7 500 80
    (by decide) (by decide +kernel)).mpr (by decide)

/-- **A passing swap that burns value**: 5000 of 8000 go to the data output, and
    the gate has nothing to say. -/
theorem verifyBtcSwap_passes_burnt_value :
    ¬ ∀ (_ : PyUnicode) (outputs : List TxOutput) (fee : ℤ) (plan : SwapPlan)
        (ownedAddresses : List String) (now maxFee : ℤ),
      (∀ o ∈ outputs, 0 ≤ o.value) → plan.inboundAddress ∉ ownedAddresses →
      verifyBtcSwap outputs fee plan ownedAddresses now maxFee = [] →
      Accounted outputs fee maxFee plan ownedAddresses := by
  intro h
  have hacc := h asciiUnicode (burntOutputs 5000) 300 burntPlan ["bc1qme"] 7 500
    (by decide) (by decide) (by decide +kernel)
  have hdata := (hacc.no_stray ⟨none, 5000, some (encodeUtf8 "=:ETH.ETH:0xme")⟩
    (by decide) (by decide)).1
  cases hdata

end SwapsackAccounting
