import Mathlib.Algebra.BigOperators.Ring.Finset
import Swapsack.GreedyProofs
import Swapsack.SelectionProofs

/-! # What coin selection refuses

    The greedy loop returns the shortest prefix of the offered coins that pays
    for its shape; it raises when none does.

    * `select_utxos` — the loop as the search for that prefix;
    * `select_confirmed` — confirmed coins that cover a spend are enough, and
      then nothing unconfirmed is spent;
    * `selectCoins_confirmed` — so for both fee models;
    * `covers_iff_netWorth` — what coins cover, in what each brings and costs;
    * `selectCoins_refusal` — a refusal means that no coins cover the spend where
      the coins that pay their way are offered first. -/

namespace SwapsackSelection

open ListKit Greedy SwapsackBase SwapsackCoins

/-! ## The loop as a search -/

/-- The coins pay for one of the two shapes: with a change output worth keeping
    or without one. -/
def Pays (sendAmount : ℤ) (dust : ℕ) (feeFn : List Utxo → ℕ → ℤ) (us : List Utxo) : Prop :=
  (dust : ℤ) ≤ sumValues us - sendAmount - feeFn us 2
    ∨ sendAmount + feeFn us 1 ≤ sumValues us

instance (sendAmount : ℤ) (dust : ℕ) (feeFn : List Utxo → ℕ → ℤ) :
    DecidablePred (Pays sendAmount dust feeFn) :=
  fun _ => inferInstanceAs (Decidable (_ ∨ _))

section Loop

variable {sendAmount : ℤ} {dust : ℕ} {feeFn : List Utxo → ℕ → ℤ}

/-- The loop returns the first prefix that pays. -/
theorem selectLoop_utxos {rest : List Utxo} :
    ∀ {chosen : List Utxo} {total : ℤ}, total = sumValues chosen →
      (selectLoop sendAmount dust feeFn rest chosen total).toOption.map Selection.utxos
        = firstPassing (Pays sendAmount dust feeFn) chosen rest := by
  -- the running total is what the chosen coins are worth
  induction rest with
  | nil =>
      intro chosen total _
      rfl
  | cons utxo rest ih =>
      intro chosen total htotal
      have hsum : total + utxo.value = sumValues (chosen ++ [utxo]) := by
        rw [sumValues_append, sumValues_singleton, htotal]
      have hpays : Pays sendAmount dust feeFn (chosen ++ [utxo])
          ↔ (dust : ℤ) ≤ total + utxo.value - sendAmount - feeFn (chosen ++ [utxo]) 2
            ∨ sendAmount + feeFn (chosen ++ [utxo]) 1 ≤ total + utxo.value := by
        rw [Pays, hsum]
      unfold selectLoop
      dsimp only
      rw [firstPassing]
      by_cases hkept : (dust : ℤ) ≤ total + utxo.value - sendAmount - feeFn (chosen ++ [utxo]) 2
      · rw [if_pos hkept, if_pos (hpays.mpr (Or.inl hkept))]
        rfl
      · rw [if_neg hkept]
        by_cases hcover : sendAmount + feeFn (chosen ++ [utxo]) 1 ≤ total + utxo.value
        · rw [if_pos hcover, if_pos (hpays.mpr (Or.inr hcover))]
          rfl
        · rw [if_neg hcover, if_neg (mt hpays.mp (not_or.mpr ⟨hkept, hcover⟩))]
          exact ih hsum

/-- **Selection is the search for the shortest prefix that pays.** -/
theorem select_utxos (utxos : List Utxo) :
    (select utxos sendAmount dust feeFn).toOption.map Selection.utxos
      = firstPassing (Pays sendAmount dust feeFn) [] (utxos.insertionSort offeredBefore) :=
  selectLoop_utxos rfl

/-- Selection raises exactly when no prefix of the offered coins pays. -/
theorem select_raises_iff (utxos : List Utxo) :
    (select utxos sendAmount dust feeFn).toOption = none
      ↔ ∀ pre, pre ≠ [] → pre <+: utxos.insertionSort offeredBefore →
        ¬ Pays sendAmount dust feeFn pre := by
  rw [← Option.map_eq_none_iff, select_utxos, firstPassing_eq_none_iff]
  simp only [List.nil_append]

/-- The only error of a selection is that the funds are insufficient. -/
theorem select_error_iff (utxos : List Utxo) :
    (∃ msg, select utxos sendAmount dust feeFn = .error (.insufficientFunds msg))
      ↔ (select utxos sendAmount dust feeFn).toOption = none := by
  have hloop : ∀ {rest chosen : List Utxo} {total : ℤ} {e : PyError},
      selectLoop sendAmount dust feeFn rest chosen total = .error e →
        ∃ msg, e = .insufficientFunds msg := by
    intro rest
    induction rest with
    | nil =>
        intro chosen total e h
        cases h
        exact ⟨_, rfl⟩
    | cons utxo rest ih =>
        intro chosen total e h
        unfold selectLoop at h
        dsimp only at h
        split at h
        · cases h
        · split at h
          · cases h
          · exact ih h
  constructor
  · rintro ⟨msg, h⟩
    rw [h]
    rfl
  · intro h
    cases hrun : select utxos sendAmount dust feeFn with
    | error e =>
        obtain ⟨msg, rfl⟩ := hloop hrun
        exact ⟨msg, rfl⟩
    | ok sel =>
        rw [hrun] at h
        cases h

/-- A prefix that pays is enough, and no coin behind it is spent. -/
theorem select_of_pays {utxos pre : List Utxo} (hne : pre ≠ [])
    (hpre : pre <+: utxos.insertionSort offeredBefore) (hpays : Pays sendAmount dust feeFn pre) :
    ∃ sel, select utxos sendAmount dust feeFn = .ok sel ∧ sel.utxos <+: pre := by
  rw [← List.nil_append pre] at hpays
  obtain ⟨first, hfirst, hfound⟩ := firstPassing_le hne hpre hpays
  rw [← select_utxos, List.nil_append] at hfound
  cases hrun : select utxos sendAmount dust feeFn with
  | error e =>
      rw [hrun] at hfound
      cases hfound
  | ok sel =>
      rw [hrun] at hfound
      exact ⟨sel, rfl, Option.some.inj hfound ▸ hfirst⟩

end Loop

/-! ## The order on offer -/

instance : Std.Total offeredBefore := ⟨fun a b => by
  unfold offeredBefore
  cases a.confirmed <;> cases b.confirmed <;> simp [le_total]⟩

instance : IsTrans Utxo offeredBefore := ⟨fun a b c => by
  unfold offeredBefore
  cases a.confirmed <;> cases b.confirmed <;> cases c.confirmed <;> simp
  all_goals exact fun hab hbc => hbc.trans hab⟩

/-- Behind an unconfirmed coin there is no confirmed one. -/
theorem confirmed_leads {l : List Utxo} (h : l.Pairwise offeredBefore) :
    l.filter Utxo.confirmed <+: l := by
  refine filter_prefix (h.imp ?_)
  rintro a b (⟨hconf, -⟩ | ⟨hconf, -⟩) hb
  · exact hconf
  · rw [hconf]
    exact hb

/-- Among the confirmed coins the order is by value. -/
theorem confirmed_descending {l : List Utxo} (h : l.Pairwise offeredBefore) :
    (l.filter Utxo.confirmed).Pairwise fun a b => b.value ≤ a.value := by
  refine (h.filter _).imp_of_mem ?_
  intro a b ha hb hab
  have hconfa := (List.mem_filter.mp ha).2
  have hconfb := (List.mem_filter.mp hb).2
  rcases hab with ⟨-, hconf⟩ | ⟨-, hvalue⟩
  · rw [hconfb] at hconf
    cases hconf
  · exact hvalue

/-! ## Confirmed coins are enough -/

/-- Confirmed coins have no parent to lift. -/
theorem cpfpSurcharge_of_confirmed {us : List Utxo} (h : ∀ u ∈ us, u.confirmed = true) :
    cpfpSurcharge us = 0 := by
  have hnone : us.filter (fun u => !u.confirmed) = [] := by
    rw [List.filter_eq_nil_iff]
    intro u hu
    rw [h u hu]
    decide
  rw [cpfpSurcharge, hnone]
  rfl

section Confirmed

variable {sendAmount : ℤ} {dust : ℕ} {feeFn : List Utxo → ℕ → ℤ}

/-- **Confirmed coins are enough**: where the fee of confirmed coins goes by
    their number, and some of them cover the spend, the largest ones do, and
    the loop stops among them. -/
theorem select_confirmed (fee : ℕ → ℤ) {utxos s : List Utxo}
    (hfee : ∀ us : List Utxo, (∀ u ∈ us, u.confirmed = true) → feeFn us 1 = fee us.length)
    (hne : s ≠ []) (hs : s.Subperm (utxos.filter Utxo.confirmed))
    (hcover : sendAmount + fee s.length ≤ sumValues s) :
    ∃ sel, select utxos sendAmount dust feeFn = .ok sel
      ∧ ∀ u ∈ sel.utxos, u.confirmed = true := by
  -- the largest confirmed coins, as many as the cover has, stand first on offer
  have hsorted := List.pairwise_insertionSort offeredBefore utxos
  have hperm := (List.perm_insertionSort offeredBefore utxos).filter Utxo.confirmed
  have hoffered : s.Subperm ((utxos.insertionSort offeredBefore).filter Utxo.confirmed) :=
    hs.trans hperm.symm.subperm
  have hpre := List.take_prefix s.length
    ((utxos.insertionSort offeredBefore).filter Utxo.confirmed)
  have hlen : (((utxos.insertionSort offeredBefore).filter Utxo.confirmed).take
      s.length).length = s.length := by
    rw [List.length_take]
    exact Nat.min_eq_left hoffered.length_le
  -- and no cover of that many is worth more
  have hbest := sum_le_sum_take (confirmed_descending hsorted) hoffered
  generalize hbiggest : ((utxos.insertionSort offeredBefore).filter Utxo.confirmed).take
    s.length = biggest at hpre hlen hbest
  have hconf : ∀ u ∈ biggest, u.confirmed = true :=
    fun u hu => (List.mem_filter.mp (hpre.subset hu)).2
  have hne' : biggest ≠ [] := by
    rw [← List.length_pos_iff, hlen]
    exact List.length_pos_iff.mpr hne
  have hpays : Pays sendAmount dust feeFn biggest := by
    refine Or.inr ?_
    rw [hfee biggest hconf, hlen]
    exact hcover.trans hbest
  obtain ⟨sel, hsel, hsub⟩ := select_of_pays hne'
    (hpre.trans (confirmed_leads hsorted)) hpays
  exact ⟨sel, hsel, fun u hu => hconf u (hsub.subset hu)⟩

end Confirmed

/-- The size fee of confirmed coins goes by their number. -/
theorem rateFee_of_confirmed (feeRate : ℚ) (memoLen : ℕ) (script : ScriptParams)
    {us : List Utxo} (h : ∀ u ∈ us, u.confirmed = true) (nOut : ℕ) :
    rateFee feeRate memoLen script us nOut
      = ⌈(estimateVsize us.length nOut memoLen script : ℚ) * feeRate⌉ := by
  rw [rateFee, cpfpSurcharge_of_confirmed h, Nat.cast_zero, add_zero]

/-- So does the ZIP-317 fee. -/
theorem actionFee_of_confirmed (memoLen : ℕ) {us : List Utxo}
    (h : ∀ u ∈ us, u.confirmed = true) (nOut : ℕ) :
    actionFee memoLen us nOut = zip317Fee us.length nOut memoLen := by
  rw [actionFee, cpfpSurcharge_of_confirmed h, Nat.cast_zero, add_zero]

/-- Confirmed coins that cover a spend at a rate are enough for it. -/
theorem selectCoins_of_confirmed {utxos s : List Utxo} {sendAmount : ℤ} {feeRate : ℚ}
    {memoLen : ℕ} {script : ScriptParams} (hne : s ≠ [])
    (hs : s.Subperm (utxos.filter Utxo.confirmed))
    (hcover : sendAmount + ⌈(estimateVsize s.length 1 memoLen script : ℚ) * feeRate⌉
      ≤ sumValues s) :
    ∃ sel, selectCoins utxos sendAmount feeRate memoLen script = .ok sel
      ∧ ∀ u ∈ sel.utxos, u.confirmed = true :=
  select_confirmed (fun n => ⌈(estimateVsize n 1 memoLen script : ℚ) * feeRate⌉)
    (fun _ hus => rateFee_of_confirmed feeRate memoLen script hus 1) hne hs hcover

/-- **Confirmed coins first**: under both fee models, when some confirmed coins
    cover a spend without change, selection succeeds on confirmed coins alone
    and pays no parent's shortfall. -/
theorem selectCoins_confirmed (utxos s : List Utxo) (sendAmount : ℤ) (memoLen : ℕ)
    (hne : s ≠ []) (hs : s.Subperm (utxos.filter Utxo.confirmed)) :
    (∀ (feeRate : ℚ) (script : ScriptParams),
      sendAmount + ⌈(estimateVsize s.length 1 memoLen script : ℚ) * feeRate⌉ ≤ sumValues s →
        ∃ sel, selectCoins utxos sendAmount feeRate memoLen script = .ok sel
          ∧ (∀ u ∈ sel.utxos, u.confirmed = true) ∧ cpfpSurcharge sel.utxos = 0)
    ∧ ∀ dust : ℕ, sendAmount + zip317Fee s.length 1 memoLen ≤ sumValues s →
        ∃ sel, selectCoinsZip317 utxos sendAmount memoLen dust = .ok sel
          ∧ (∀ u ∈ sel.utxos, u.confirmed = true) ∧ cpfpSurcharge sel.utxos = 0 := by
  constructor
  · intro feeRate script hcover
    obtain ⟨sel, hsel, hconf⟩ := selectCoins_of_confirmed hne hs hcover
    exact ⟨sel, hsel, hconf, cpfpSurcharge_of_confirmed hconf⟩
  · intro dust hcover
    obtain ⟨sel, hsel, hconf⟩ := select_confirmed (fun n => zip317Fee n 1 memoLen)
      (fun us hus => actionFee_of_confirmed memoLen hus 1) hne hs hcover
    exact ⟨sel, hsel, hconf, cpfpSurcharge_of_confirmed hconf⟩

/-- Two small confirmed coins cover a spend together; the unconfirmed coin
    worth more than both stays where it is. -/
theorem selectCoins_confirmed_pair :
    let big : Utxo :=
      { txid := "aa", vout := 0, value := 90000, address := "bc1q", confirmed := false }
    let left : Utxo := { txid := "bb", vout := 0, value := 30000, address := "bc1q" }
    let right : Utxo := { txid := "cc", vout := 1, value := 40000, address := "bc1q" }
    (∃ sel, selectCoins [big, left, right] 56000 2 0 p2wpkh = .ok sel
      ∧ (∀ u ∈ sel.utxos, u.confirmed = true) ∧ cpfpSurcharge sel.utxos = 0)
    ∧ ∃ sel, selectCoinsZip317 [big, left, right] 56000 0 546 = .ok sel
      ∧ (∀ u ∈ sel.utxos, u.confirmed = true) ∧ cpfpSurcharge sel.utxos = 0 := by
  intro big left right
  have h := selectCoins_confirmed [big, left, right] [left, right] 56000 0
    (List.cons_ne_nil left [right]) (List.Subperm.refl [left, right])
  exact ⟨h.1 2 p2wpkh (by decide +kernel), h.2 546 (by decide +kernel)⟩

/-- No coin at all covers a spend of nothing at no fee, but the loop takes a
    coin before it asks: here an unconfirmed one. -/
theorem selectCoins_emptyCover :
    let coin : Utxo :=
      { txid := "aa", vout := 0, value := 1000, address := "bc1q", confirmed := false }
    ([] : List Utxo).Subperm ([coin].filter Utxo.confirmed)
      ∧ (0 : ℤ) + ⌈(estimateVsize ([] : List Utxo).length 1 0 p2wpkh : ℚ) * 0⌉ ≤ sumValues []
      ∧ selectCoins [coin] 0 0 0 p2wpkh
        = .ok { utxos := [coin], fee := 0, change := 1000 }
      ∧ coin.confirmed = false := by
  refine ⟨List.nil_subperm, ?_, ?_, rfl⟩
  · decide +kernel
  · decide +kernel

/-! ## What a refusal means

    Behind the confirmed coins the loop goes by value, not by what a coin is
    worth after its parent's shortfall: an unconfirmed coin that costs more than
    it brings stands in the way of the ones behind it. -/

/-- What a coin brings beyond the fee of its own input. -/
def margin (feeRate : ℚ) (script : ScriptParams) (u : Utxo) : ℚ :=
  u.value - script.inputVb * feeRate

/-- The unconfirmed parent of a coin. -/
def parentOf (u : Utxo) : Option String := if u.confirmed then none else some u.txid

/-- What a parent is short of; confirmed coins have none to lift. -/
def liftCost (utxos : List Utxo) : Option String → ℚ
  | none => 0
  | some txid =>
      ((utxos.find? fun u => !u.confirmed && u.txid == txid).map Utxo.ancestorDeficit).getD 0

/-- The coins of an unconfirmed parent agree on what it is short of. -/
def OneDeficit (utxos : List Utxo) : Prop :=
  ∀ u ∈ utxos, ∀ w ∈ utxos, u.confirmed = false → w.confirmed = false → u.txid = w.txid →
    u.ancestorDeficit = w.ancestorDeficit

/-- What the coins of a parent bring, of those that are worth their own input. -/
def parentGain (utxos : List Utxo) (feeRate : ℚ) (script : ScriptParams) :
    Option String → ℚ :=
  gain (margin feeRate script) parentOf utxos

/-- A coin pays its way: it is worth its own input, and the coins of its parent
    bring what the parent is short of. -/
def CoinPaysItsWay (utxos : List Utxo) (feeRate : ℚ) (script : ScriptParams) (u : Utxo) :
    Prop :=
  PaysItsWay (margin feeRate script) parentOf (liftCost utxos) utxos u

/-- The coins that pay their way are offered before those that do not. -/
def EarnersFirst (utxos : List Utxo) (feeRate : ℚ) (script : ScriptParams) : Prop :=
  (utxos.insertionSort offeredBefore).Pairwise fun a b =>
    CoinPaysItsWay utxos feeRate script b → CoinPaysItsWay utxos feeRate script a

/-- A coin that costs at least one unit more than it brings is offered before one
    that brings at least one unit more than it costs. -/
def LoserFirst (utxos : List Utxo) (feeRate : ℚ) (script : ScriptParams) : Prop :=
  ¬ (utxos.insertionSort offeredBefore).Pairwise fun a b =>
    ¬ ((margin feeRate script a + 1 ≤ 0
        ∨ parentGain utxos feeRate script (parentOf a) + 1 ≤ liftCost utxos (parentOf a))
      ∧ 1 ≤ margin feeRate script b
      ∧ liftCost utxos (parentOf b) + 1 ≤ parentGain utxos feeRate script (parentOf b))

section Refusal

variable {utxos s : List Utxo} {sendAmount : ℤ} {feeRate : ℚ} {memoLen : ℕ}
  {script : ScriptParams}

theorem liftCost_of_mem (h : OneDeficit utxos) {u : Utxo} (hu : u ∈ utxos)
    (hconf : u.confirmed = false) : liftCost utxos (some u.txid) = u.ancestorDeficit := by
  rw [liftCost]
  cases hfind : utxos.find? fun w => !w.confirmed && w.txid == u.txid with
  | none =>
      have hnone := List.find?_eq_none.mp hfind u hu
      simp [hconf] at hnone
  | some w =>
      have hw := List.find?_some hfind
      rw [Bool.and_eq_true, Bool.not_eq_true', beq_iff_eq] at hw
      rw [Option.map_some, Option.getD_some,
        h w (List.mem_of_find?_eq_some hfind) u hu hw.1 hconf hw.2]

/-- The surcharge is what the parents of the chosen coins are short of. -/
theorem cpfpSurcharge_eq_lift (h : OneDeficit utxos) (hs : ∀ u ∈ s, u ∈ utxos) :
    (cpfpSurcharge s : ℚ) = ∑ k ∈ (s.map parentOf).toFinset, liftCost utxos k := by
  let deficit (txid : String) : ℕ := (liftCost utxos (some txid)).num.toNat
  have hdeficit : ∀ u ∈ s, u.confirmed = false → u.ancestorDeficit = deficit u.txid := by
    intro u hu hconf
    show u.ancestorDeficit = (liftCost utxos (some u.txid)).num.toNat
    rw [liftCost_of_mem h (hs u hu) hconf]
    rfl
  have hparents : ((mempoolParents s).toFinset.image some)
      ⊆ (s.map parentOf).toFinset := by
    intro k hk
    obtain ⟨txid, htxid, rfl⟩ := Finset.mem_image.mp hk
    obtain ⟨u, hu, rfl⟩ := List.mem_map.mp (List.mem_dedup.mp (List.mem_toFinset.mp htxid))
    obtain ⟨hmem, hconf⟩ := List.mem_filter.mp hu
    refine List.mem_toFinset.mpr (List.mem_map.mpr ⟨u, hmem, ?_⟩)
    rw [parentOf, if_neg (by simpa using hconf)]
  rw [cpfpSurcharge_eq hdeficit, ← Finset.sum_subset hparents,
    Finset.sum_image fun _ _ _ _ => Option.some.inj,
    ← List.sum_toFinset deficit (show (mempoolParents s).Nodup from List.nodup_dedup _)]
  · rw [Nat.cast_sum]
    refine Finset.sum_congr rfl ?_
    intro txid htxid
    obtain ⟨u, hu, rfl⟩ := List.mem_map.mp (List.mem_dedup.mp (List.mem_toFinset.mp htxid))
    obtain ⟨hmem, hconf⟩ := List.mem_filter.mp hu
    have hconf : u.confirmed = false := by simpa using hconf
    rw [liftCost_of_mem h (hs u hmem) hconf]
    rfl
  · intro k hk hnot
    cases k with
    | none => rfl
    | some txid =>
        obtain ⟨u, hu, hparent⟩ := List.mem_map.mp (List.mem_toFinset.mp hk)
        rw [parentOf] at hparent
        split at hparent
        · cases hparent
        · rename_i hconf
          refine absurd (Finset.mem_image.mpr ⟨txid, ?_, rfl⟩) hnot
          rw [← Option.some.inj hparent, mempoolParents]
          exact List.mem_toFinset.mpr (List.mem_dedup.mpr (List.mem_map_of_mem
            (List.mem_filter.mpr ⟨hu, by simpa using hconf⟩)))

/-- **Coins cover a spend** exactly when what they are worth together, less their
    inputs and their parents, reaches the amount and the fee of the rest. -/
theorem covers_iff_netWorth (h : OneDeficit utxos) (hs : s.Subperm utxos) :
    sendAmount + rateFee feeRate memoLen script s 1 ≤ sumValues s
      ↔ sendAmount + estimateVsize 0 1 memoLen script * feeRate
        ≤ netWorth (margin feeRate script) parentOf (liftCost utxos) s := by
  have hvsize : (estimateVsize s.length 1 memoLen script : ℚ)
      = estimateVsize 0 1 memoLen script + s.length * script.inputVb := by
    unfold estimateVsize
    dsimp only
    split <;> · push_cast; ring
  have hmargins : (s.map (margin feeRate script)).sum
      = sumValues s - s.length * (script.inputVb * feeRate) := by
    clear hs hvsize
    induction s with
    | nil => simp [sumValues]
    | cons u s ih =>
        rw [List.map_cons, List.sum_cons, ih, margin, sumValues, sumValues, List.map_cons,
          List.sum_cons, List.length_cons]
        push_cast
        ring
  have hceil : sendAmount + rateFee feeRate memoLen script s 1 ≤ sumValues s
      ↔ ⌈(estimateVsize s.length 1 memoLen script : ℚ) * feeRate⌉
        ≤ sumValues s - cpfpSurcharge s - sendAmount := by
    rw [rateFee]
    omega
  rw [hceil, Int.ceil_le, netWorth, ← cpfpSurcharge_eq_lift h hs.subset, hmargins, hvsize]
  push_cast
  constructor
  · intro hle
    linarith
  · intro hle
    linarith

/-- The coins that pay their way, in the order on offer. -/
def earners (utxos : List Utxo) (feeRate : ℚ) (script : ScriptParams) : List Utxo :=
  (utxos.insertionSort offeredBefore).filter fun u =>
    PaysItsWay (margin feeRate script) parentOf (liftCost utxos) utxos u

theorem mem_earners {u : Utxo} :
    u ∈ earners utxos feeRate script ↔ u ∈ utxos ∧ CoinPaysItsWay utxos feeRate script u := by
  rw [earners, List.mem_filter, decide_eq_true_eq,
    (List.perm_insertionSort offeredBefore utxos).mem_iff]
  rfl

theorem earners_subperm : (earners utxos feeRate script).Subperm utxos :=
  List.filter_sublist.subperm.trans (List.perm_insertionSort offeredBefore utxos).subperm

/-- They are worth the most. -/
theorem netWorth_earners :
    netWorth (margin feeRate script) parentOf (liftCost utxos) (earners utxos feeRate script)
      = mostWorth (margin feeRate script) parentOf (liftCost utxos) utxos := by
  have hcost : ∀ k, 0 ≤ liftCost utxos k := by
    intro k
    cases k with
    | none => exact le_refl _
    | some txid => exact Nat.cast_nonneg _
  rw [earners, netWorth_perm ((List.perm_insertionSort offeredBefore utxos).filter _)]
  exact netWorth_paysItsWay hcost

/-- Where they are offered first they are a prefix. -/
theorem prefix_of_earners (h : EarnersFirst utxos feeRate script) :
    earners utxos feeRate script <+: utxos.insertionSort offeredBefore := by
  refine filter_prefix (h.imp ?_)
  intro a b hab hb
  rw [decide_eq_true_eq] at hb ⊢
  exact hab hb

/-- A prefix misses a unit of what could be had when a loser is offered before an
    earner. -/
theorem netWorth_prefix_lt (h : LoserFirst utxos feeRate script) {pre : List Utxo}
    (hpre : pre <+: utxos.insertionSort offeredBefore) :
    netWorth (margin feeRate script) parentOf (liftCost utxos) pre + 1
      ≤ mostWorth (margin feeRate script) parentOf (liftCost utxos) utxos := by
  rw [LoserFirst, List.pairwise_iff_getElem] at h
  simp only [not_forall, not_not] at h
  obtain ⟨i, j, hi, hj, hij, hloses, hmargin, hgain⟩ := h
  have hperm := List.perm_insertionSort offeredBefore utxos
  obtain ⟨post, hsplit⟩ := hpre
  generalize utxos.insertionSort offeredBefore = offered at *
  subst hsplit
  by_cases hlong : j < pre.length
  · -- the prefix that has the earner has the loser too
    refine netWorth_lt_of_losing
      ((List.sublist_append_left pre post).subperm.trans hperm.subperm) ?_ hloses
    rw [List.getElem_append_left (by omega)]
    exact List.getElem_mem _
  · refine netWorth_lt_of_missing hperm ?_ hmargin hgain
    rw [List.getElem_append_right (not_lt.mp hlong)]
    exact List.getElem_mem _

/-- Some coin earns, where a loser is offered before one. -/
theorem earners_ne_nil (h : LoserFirst utxos feeRate script) :
    earners utxos feeRate script ≠ [] := by
  rw [LoserFirst, List.pairwise_iff_getElem] at h
  simp only [not_forall, not_not] at h
  obtain ⟨i, j, hi, hj, hij, -, hmargin, hgain⟩ := h
  have hmem : (utxos.insertionSort offeredBefore)[j] ∈ utxos :=
    (List.perm_insertionSort offeredBefore utxos).mem_iff.mp (List.getElem_mem hj)
  refine List.ne_nil_of_mem (mem_earners.mpr ⟨hmem, ?_, ?_⟩)
  · linarith
  · exact le_trans (by linarith) hgain

end Refusal

/-- **What a refusal means.**  Where the coins that pay their way are offered
    first, that no coins cover the spend.  Where a coin that does not is offered
    before one that does, some amount is refused that coins do cover. -/
theorem selectCoins_refusal (utxos : List Utxo) (feeRate : ℚ) (memoLen : ℕ)
    (script : ScriptParams) :
    (OneDeficit utxos → EarnersFirst utxos feeRate script → ∀ sendAmount : ℤ,
      ((∃ u ∈ utxos, CoinPaysItsWay utxos feeRate script u) ∨ 0 < sendAmount ∧ 0 ≤ feeRate) →
      (∃ msg, selectCoins utxos sendAmount feeRate memoLen script
        = .error (.insufficientFunds msg)) →
      ∀ s : List Utxo, s ≠ [] → s.Subperm utxos →
        ¬ sendAmount + (⌈(estimateVsize s.length 1 memoLen script : ℚ) * feeRate⌉
          + cpfpSurcharge s) ≤ sumValues s)
    ∧ (OneDeficit utxos → LoserFirst utxos feeRate script → 0 ≤ feeRate → ∃ sendAmount : ℤ,
      (∃ msg, selectCoins utxos sendAmount feeRate memoLen script
        = .error (.insufficientFunds msg))
      ∧ ∃ s : List Utxo, s ≠ [] ∧ s.Subperm utxos
        ∧ sendAmount + (⌈(estimateVsize s.length 1 memoLen script : ℚ) * feeRate⌉
          + cpfpSurcharge s) ≤ sumValues s) := by
  constructor
  · intro hparents hfirst sendAmount hsome hraises s hne hs hcover
    rw [selectCoins, select_error_iff, select_raises_iff] at hraises
    have hworth := ((covers_iff_netWorth hparents hs).mp hcover).trans (netWorth_le hs)
    rw [← netWorth_earners] at hworth
    by_cases hempty : earners utxos feeRate script = []
    · rcases hsome with ⟨u, hu, hpays⟩ | ⟨hamount, hrate⟩
      · have hmem := mem_earners.mpr ⟨hu, hpays⟩
        rw [hempty] at hmem
        cases hmem
      · have hamount' : (0 : ℚ) < sendAmount := by exact_mod_cast hamount
        have hbase : 0 ≤ (estimateVsize 0 1 memoLen script : ℚ) * feeRate := by positivity
        have hzero : netWorth (margin feeRate script) parentOf (liftCost utxos) [] = 0 :=
          sub_zero _
        rw [hempty, hzero] at hworth
        linarith
    · have hpays := (covers_iff_netWorth hparents earners_subperm).mpr hworth
      exact hraises _ hempty (prefix_of_earners hfirst) (Or.inr hpays)
  · intro hparents hloser hrate
    -- the amount that the earners just cover
    refine ⟨sumValues (earners utxos feeRate script)
      - rateFee feeRate memoLen script (earners utxos feeRate script) 1, ?_,
      earners utxos feeRate script, earners_ne_nil hloser, earners_subperm, ?_⟩
    · rw [selectCoins, select_error_iff, select_raises_iff]
      intro pre hne hpre hpays
      have hsub : pre.Subperm utxos := hpre.sublist.subperm.trans
        (List.perm_insertionSort offeredBefore utxos).subperm
      have hmono := rateFee_mono hrate memoLen script pre
      have hcover := (covers_iff_netWorth hparents hsub).mp
        (hpays.elim (fun hdust => by omega) id)
      have hless := netWorth_prefix_lt hloser hpre
      -- a unit more is beyond the earners
      have htop : ¬ sumValues (earners utxos feeRate script)
          - rateFee feeRate memoLen script (earners utxos feeRate script) 1 + 1
          + rateFee feeRate memoLen script (earners utxos feeRate script) 1
            ≤ sumValues (earners utxos feeRate script) := by omega
      rw [covers_iff_netWorth hparents earners_subperm] at htop
      rw [netWorth_earners] at htop
      push_cast at htop hcover
      linarith
    · rw [rateFee]
      omega

/-- The larger of two unconfirmed coins owes more for its parent than the coin
    is worth; the other covers the spend, and the selection raises. -/
theorem selectCoins_refusesCovered :
    let dear : Utxo :=
      { txid := "aa", vout := 0, value := 100000, address := "bc1q", confirmed := false
        ancestorDeficit := 1000000 }
    let cheap : Utxo :=
      { txid := "bb", vout := 0, value := 90000, address := "bc1q", confirmed := false }
    (∃ msg, selectCoins [dear, cheap] 50000 1 0 p2wpkh = .error (.insufficientFunds msg))
      ∧ [cheap] ≠ [] ∧ [cheap].Subperm [dear, cheap]
      ∧ (50000 : ℤ) + (⌈(estimateVsize [cheap].length 1 0 p2wpkh : ℚ) * 1⌉
          + cpfpSurcharge [cheap]) ≤ sumValues [cheap] := by
  intro dear cheap
  refine ⟨?_, List.cons_ne_nil cheap [], ?_, ?_⟩
  · rw [selectCoins, select_error_iff]
    decide +kernel
  · exact (List.sublist_cons_self dear [cheap]).subperm
  · decide +kernel

end SwapsackSelection
