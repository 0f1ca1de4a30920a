import Swapsack.AllowanceProofs

/-! # The approvals of an order

    Before an order is signed its spender is granted exactly the amount it may
    pull.  Nothing is built where the standing allowance suffices, and an
    allowance that does not is reset first.

    * `buildApprovals_eq_ok_iff` — which transactions are built;
    * `grants_run` — a chain of grants goes through where every change of a
      standing allowance passes through zero;
    * `verifyEthApprovals_eq_nil_iff` — the gate objects to nothing but the fee;
    * `buildAndVerifyApprovals_grants` — what the transactions do, and when they
      pass. -/

namespace SwapsackAllowance

open ListKit ByteString HexText PyText SwapsackBase SwapsackEvmVault
open SwapsackAddresses (ChecksumLib)
open SwapsackChainflip (approveGas checksummed encodeApprove)

/-! ## The gate -/

/-- 0–2 `approve` transactions granting `spender` exactly `amount`. -/
structure EthApprovals where
  txs : List EvmTx
  token : String
  spender : String
  amount : ℤ
  chainId : ℤ

def EthApprovals.fee (built : EthApprovals) : ℤ :=
  (built.txs.map fun t => t.gas * t.maxFeePerGas).sum

section Gate

variable [PyUnicode] (abi : TokenAbi)

/-- What is wrong with one of the transactions, which is to grant `expected`. -/
def approvalProblems (built : EthApprovals) (expected : ℤ) (tx : EvmTx) : List String :=
  (if PyUnicode.lower tx.toAddress ≠ PyUnicode.lower built.token then
    [s!"approve 'to' {tx.toAddress} != token {built.token}"] else [])
  ++ (if tx.value ≠ 0 then ["approve tx must not send ETH value"] else [])
  ++ (if tx.chainId ≠ built.chainId then ["wrong chainId"] else [])
  ++ match decodeCall abi.toEthAbi tx.data approveSelector with
    | none => ["approve calldata could not be decoded"]
    | some (spender, allowance) =>
        (if PyUnicode.lower spender ≠ PyUnicode.lower built.spender then
          [s!"approve spender {spender} != {built.spender}"] else [])
        ++ (if allowance ≠ expected then
          [s!"approve amount {allowance} != {expected}"] else [])

/-- Only the last transaction may grant a non-zero amount. -/
def verifyEthApprovals (built : EthApprovals) (maxFeeWei : ℤ) : List String :=
  (built.txs.zipIdx.flatMap fun (tx, i) =>
    approvalProblems abi built (if i + 1 = built.txs.length then built.amount else 0) tx)
  ++ if maxFeeWei < built.fee then
    [s!"max fee {built.fee} wei exceeds limit {maxFeeWei}"] else []

/-- What is built, and what the gate says about it. -/
def buildAndVerifyApprovals (lib : ChecksumLib) (chainId : ℤ) (token spender : String)
    (amount currentAllowance : ℤ) (gas : Gas) (maxFeeWei : ℤ) :
    Except PyError (EthApprovals × List String) := do
  let txs ← buildApprovals abi lib chainId token spender amount currentAllowance gas
  let token ← checksummed lib token
  let spender ← checksummed lib spender
  let built : EthApprovals := { txs, token, spender, amount, chainId }
  .ok (built, verifyEthApprovals abi built maxFeeWei)

end Gate

/-! ## What is built -/

/-- One of the transactions. -/
def approvalTx (token data : String) (chainId : ℤ) (gas : Gas) (i : ℕ) : EvmTx where
  toAddress := token
  value := 0
  data := some data
  chainId
  nonce := gas.nonce + i
  gas := approveGas
  maxFeePerGas := gas.maxFeePerGas
  maxPriorityFeePerGas := gas.maxPriorityFeePerGas

/-- The transactions that grant the given amounts, one after the other. -/
def Grants (abi : TokenAbi) (token spender : String) (chainId : ℤ) (gas : Gas) (k : ℕ)
    (amounts : List ℤ) (txs : List EvmTx) : Prop :=
  List.Forall₂ (fun (p : ℤ × ℕ) tx => ∃ data, encodeApprove abi.toEthAbi spender p.1 = .ok data
    ∧ tx = approvalTx token data chainId gas p.2) (amounts.zipIdx k) txs

section Build

variable {abi : TokenAbi} {lib : ChecksumLib} {chainId amount currentAllowance : ℤ}
  {token token' spender spender' : String} {gas : Gas} {amounts : List ℤ} {txs : List EvmTx} {k : ℕ}

/-- **Which transactions are built**: one for each amount. -/
theorem buildApprovals_eq_ok_iff (htoken : checksummed lib token = .ok token')
    (hspender : checksummed lib spender = .ok spender') :
    buildApprovals abi lib chainId token spender amount currentAllowance gas = .ok txs
      ↔ Grants abi token' spender' chainId gas 0 (approvalAmounts currentAllowance amount) txs := by
  rw [buildApprovals, htoken, ok_bind, hspender, ok_bind]
  refine Iff.trans mapM_eq_ok_iff ⟨fun h => h.imp ?_, fun h => h.imp ?_⟩
  · rintro ⟨value, i⟩ tx htx
    obtain ⟨data, hdata, htx⟩ := bind_eq_ok htx
    exact ⟨data, hdata, (Except.ok.inj htx).symm⟩
  · rintro ⟨value, i⟩ tx ⟨data, hdata, htx⟩
    show (encodeApprove abi.toEthAbi spender' value >>= _) = _
    rw [hdata, htx]
    rfl

theorem grants_nil : Grants abi token spender chainId gas k [] txs ↔ txs = [] := by
  rw [Grants, List.zipIdx_nil, List.forall₂_nil_left_iff]

theorem grants_cons : Grants abi token spender chainId gas k (amount :: amounts) txs
    ↔ ∃ data rest, encodeApprove abi.toEthAbi spender amount = .ok data
      ∧ Grants abi token spender chainId gas (k + 1) amounts rest
      ∧ txs = approvalTx token data chainId gas k :: rest := by
  rw [Grants, List.zipIdx_cons, List.forall₂_cons_left_iff]
  constructor
  · rintro ⟨tx, rest, ⟨data, hdata, rfl⟩, hrest, rfl⟩
    exact ⟨data, rest, hdata, hrest, rfl⟩
  · rintro ⟨data, rest, hdata, hrest, rfl⟩
    exact ⟨_, rest, ⟨data, hdata, rfl⟩, hrest, rfl⟩

/-- What can be encoded can be granted. -/
theorem exists_grants (hencode : ∀ amount ∈ amounts,
      ∃ data, encodeApprove abi.toEthAbi spender amount = .ok data) :
    ∃ txs, Grants abi token spender chainId gas k amounts txs := by
  induction amounts generalizing k with
  | nil => exact ⟨[], grants_nil.mpr rfl⟩
  | cons amount amounts ih =>
      obtain ⟨data, hdata⟩ := hencode amount List.mem_cons_self
      obtain ⟨rest, hrest⟩ := ih (k := k + 1) fun a ha => hencode a (List.mem_cons_of_mem _ ha)
      exact ⟨_, grants_cons.mpr ⟨data, rest, hdata, hrest, rfl⟩⟩

/-- There are as many transactions as amounts. -/
theorem Grants.length_eq (h : Grants abi token spender chainId gas k amounts txs) :
    txs.length = amounts.length := by
  rw [← List.Forall₂.length_eq h, List.length_zipIdx]

/-- The nonces are consecutive. -/
theorem Grants.nonces (h : Grants abi token spender chainId gas k amounts txs) :
    txs.map (·.nonce) = (List.range' k txs.length).map fun i : ℕ => gas.nonce + i := by
  induction amounts generalizing k txs with
  | nil =>
      rw [grants_nil.mp h]
      rfl
  | cons amount amounts ih =>
      obtain ⟨data, rest, -, hrest, rfl⟩ := grants_cons.mp h
      rw [List.map_cons, ih hrest, List.length_cons, List.range'_succ, List.map_cons]
      rfl

/-- They are mined as they stand. -/
theorem Grants.inNonceOrder_eq (h : Grants abi token spender chainId gas k amounts txs) :
    inNonceOrder txs = txs := by
  have hsorted : (txs.map (·.nonce)).Pairwise (· ≤ ·) := by
    rw [h.nonces, List.pairwise_map]
    refine List.pairwise_le_range'.imp fun {i j} hij => ?_
    show gas.nonce + (i : ℤ) ≤ gas.nonce + (j : ℤ)
    omega
  exact (List.pairwise_map.mp hsorted).insertionSort_eq

end Build

section Run

variable [PyUnicode] {abi : TokenAbi} {lib : ChecksumLib} {chainId amount currentAllowance : ℤ}
  {token token' spender spender' : String} {gas : Gas} {amounts : List ℤ} {txs : List EvmTx} {k : ℕ} {start : Allowances}

/-- **A chain of grants** goes through where every change of a standing allowance
    passes through zero, and the last one stands. -/
theorem grants_run (laws : EncodesBack abi) {digits : String}
    (htoken : PyUnicode.lower token' = PyUnicode.lower token) (hsign : spender = "0x" ++ digits)
    (h : Grants abi token' spender chainId gas k amounts txs)
    (hzero : List.IsChain (fun before after : ℤ => after = 0 ∨ before = 0)
      (start (PyUnicode.lower spender) :: amounts)) :
    (∀ s ∈ runTxs abi token start txs, s.reverted = false)
      ∧ allowancesAfter abi token start txs (PyUnicode.lower spender)
        = amounts.getLastD (start (PyUnicode.lower spender)) := by
  subst hsign
  -- The run starts afresh from what the first transaction granted.
  induction amounts generalizing k txs start with
  | nil =>
      rw [grants_nil.mp h]
      exact ⟨fun s hs => (by cases hs), rfl⟩
  | cons amount amounts ih =>
      obtain ⟨data, rest, hdata, hrest, rfl⟩ := grants_cons.mp h
      obtain ⟨hallowed, hzero⟩ := List.isChain_cons_cons.mp hzero
      obtain ⟨found, hcall, hfound⟩ := callOf_approve laws
        (approvalTx token' data chainId gas k) hdata rfl
      have hstep := runTxs_approve start rest hcall htoken (by rw [hfound]; exact hallowed)
      rw [hstep.1, hstep.2, hfound, List.getLastD_cons]
      have hrestZero : List.IsChain (fun before after : ℤ => after = 0 ∨ before = 0)
          (Function.update start (PyUnicode.lower ("0x" ++ digits)) amount (PyUnicode.lower ("0x" ++ digits))
            :: amounts) := by
        rw [Function.update_self]
        exact hzero
      have hafter := ih hrest hrestZero
      rw [Function.update_self] at hafter
      exact hafter

omit [PyUnicode] in
/-- A leftover allowance that does not suffice is changed through zero. -/
theorem approvalAmounts_isChain (hnonneg : 0 ≤ currentAllowance) :
    List.IsChain (fun before after : ℤ => after = 0 ∨ before = 0)
      (currentAllowance :: approvalAmounts currentAllowance amount) := by
  rw [approvalAmounts]
  by_cases hshort : currentAllowance < amount
  · by_cases hleft : 0 < currentAllowance
    · simp [hshort, hleft]
    · have hnone : currentAllowance = 0 := by omega
      rw [if_pos hshort, if_neg hleft, List.nil_append, hnone]
      simp
  · simp [hshort]

omit [PyUnicode] in
/-- The last approval stands, or the allowance that sufficed. -/
theorem approvalAmounts_getLastD :
    (approvalAmounts currentAllowance amount).getLastD currentAllowance
      = if currentAllowance < amount then amount else currentAllowance := by
  rw [approvalAmounts]
  by_cases hshort : currentAllowance < amount
  · rw [if_pos hshort, if_pos hshort, List.getLastD_concat]
  · rw [if_neg hshort, if_neg hshort]
    rfl

omit [PyUnicode] in
theorem approvalAmounts_length_le :
    (approvalAmounts currentAllowance amount).length ≤ 2 := by
  rw [approvalAmounts]
  split_ifs <;> simp

/-- **The approvals of an order** go through from the allowance they were built
    for, and leave what they grant. -/
theorem approvals_granted (laws : EncodesBack abi) {rawToken rawSpender : Bytes}
    (hstart : start (PyUnicode.lower spender) = currentAllowance) (hnonneg : 0 ≤ currentAllowance)
    (htoken : IsAddress token rawToken) (htoken' : IsAddress token' rawToken)
    (hspender : IsAddress spender rawSpender) (hspender' : IsAddress spender' rawSpender)
    {digits : String} (hsign : spender' = "0x" ++ digits)
    (h : Grants abi token' spender' chainId gas 0 (approvalAmounts currentAllowance amount) txs) :
    (∀ s ∈ runTxs abi token start (inNonceOrder txs), s.reverted = false)
      ∧ allowancesAfter abi token start (inNonceOrder txs) (PyUnicode.lower spender)
        = if currentAllowance < amount then amount else currentAllowance := by
  have hsame : PyUnicode.lower spender' = PyUnicode.lower spender :=
    hspender'.lower.trans hspender.lower.symm
  have hlower : start (PyUnicode.lower spender') = currentAllowance := by
    rw [hsame, hstart]
  have hzero : List.IsChain (fun before after : ℤ => after = 0 ∨ before = 0)
      (start (PyUnicode.lower spender') :: approvalAmounts currentAllowance amount) := by
    rw [hlower]
    exact approvalAmounts_isChain hnonneg
  have hrun := grants_run laws (htoken'.lower.trans htoken.lower.symm) hsign h hzero
  rw [hlower, approvalAmounts_getLastD, hsame] at hrun
  rw [h.inNonceOrder_eq]
  exact hrun

end Run

/-! ## What the gate says of it -/

section Verify

variable [PyUnicode] {abi : TokenAbi} {lib : ChecksumLib} {chainId amount currentAllowance : ℤ}
  {token token' spender spender' : String} {gas : Gas}

/-- The gate objects to no transaction that grants what it expects. -/
theorem approvalProblems_approvalTx (laws : EncodesBack abi)
    {built : EthApprovals} {expected : ℤ} {digits data : String} (i : ℕ)
    (hsign : built.spender = "0x" ++ digits)
    (h : encodeApprove abi.toEthAbi built.spender expected = .ok data) :
    approvalProblems abi built expected (approvalTx built.token data built.chainId gas i) = [] := by
  rw [hsign] at h
  obtain ⟨found, hfound, hlower⟩ := decodeCall_approve laws h
  simp [approvalProblems, approvalTx, hfound, hlower, hsign]

omit [PyUnicode] in
/-- Only the last amount is not zero, and it is the whole. -/
theorem approvalAmounts_getElem? {i : ℕ} {value : ℤ}
    (h : (approvalAmounts currentAllowance amount)[i]? = some value) :
    value = if i + 1 = (approvalAmounts currentAllowance amount).length then amount else 0 := by
  rw [approvalAmounts] at h ⊢
  by_cases hshort : currentAllowance < amount
  · by_cases hleft : 0 < currentAllowance
    · simp only [if_pos hshort, if_pos hleft, List.singleton_append] at h ⊢
      obtain rfl | rfl : i = 0 ∨ i = 1 := by
        obtain ⟨hi, -⟩ := List.getElem?_eq_some_iff.mp h
        have hi' : i < 2 := hi
        omega
      · simpa using h.symm
      · simpa using h.symm
    · simp only [if_pos hshort, if_neg hleft, List.nil_append] at h ⊢
      obtain rfl : i = 0 := by
        obtain ⟨hi, -⟩ := List.getElem?_eq_some_iff.mp h
        have hi' : i < 1 := hi
        omega
      simpa using h.symm
  · rw [if_neg hshort] at h
    cases h

/-- **The gate objects to nothing but the fee.** -/
theorem verifyEthApprovals_eq_nil_iff (laws : EncodesBack abi)
    {built : EthApprovals} {digits : String} (maxFeeWei : ℤ)
    (hsign : built.spender = "0x" ++ digits)
    (h : Grants abi built.token built.spender built.chainId gas 0
      (approvalAmounts currentAllowance built.amount) built.txs) :
    verifyEthApprovals abi built maxFeeWei = [] ↔ built.fee ≤ maxFeeWei := by
  have hlength := h.length_eq
  have htxs : (built.txs.zipIdx.flatMap fun (tx, i) =>
      approvalProblems abi built (if i + 1 = built.txs.length then built.amount else 0) tx)
        = [] := by
    rw [List.flatMap_eq_nil_iff]
    rintro ⟨tx, i⟩ hi
    obtain ⟨⟨value, j⟩, hvalue, data, hdata, htx⟩ :=
      forall₂_getElem? (List.Forall₂.flip h) (List.mem_zipIdx_iff_getElem?.mp hi)
    rw [List.getElem?_zipIdx, Option.map_eq_some_iff] at hvalue
    obtain ⟨amount, hvalue, hpair⟩ := hvalue
    obtain ⟨rfl, -⟩ := Prod.mk.inj hpair
    rw [approvalAmounts_getElem? hvalue, ← hlength] at hdata
    have htx : tx = approvalTx built.token data built.chainId gas j := htx
    show approvalProblems abi built (if i + 1 = built.txs.length then built.amount else 0) tx = []
    rw [htx]
    exact approvalProblems_approvalTx laws j hsign hdata
  rw [verifyEthApprovals, htxs, List.nil_append]
  by_cases hfee : maxFeeWei < built.fee
  · rw [if_pos hfee]
    exact iff_of_false (List.cons_ne_nil _ _) (not_le.mpr hfee)
  · rw [if_neg hfee]
    exact iff_of_true rfl (not_lt.mp hfee)

/-- The library encodes an address as it has been checksummed, with any amount of a word. -/
def EncodesWords (abi : TokenAbi) (lib : ChecksumLib) : Prop :=
  ∀ address raw found value, IsAddress address raw → checksummed lib address = .ok found →
    0 ≤ value → value < 2 ^ 256 → ∃ args, abi.encodeAddressUint256 found value = some args

/-- **The approvals of an order**: from the allowance they were built for they go
    through in the order of their nonces and leave enough, exactly the amount
    where anything was built; the gate passes them if and only if it allows their
    fee. -/
theorem buildAndVerifyApprovals_grants (laws : EncodesBack abi) (hencode : EncodesWords abi lib)
    (hdigest : ∀ b, (lib.keccak256 b).length = 32) {rawToken rawSpender : Bytes}
    (htoken : IsAddress token rawToken) (hspender : IsAddress spender rawSpender)
    (hnonneg : 0 ≤ currentAllowance) (hpos : 0 < amount) (hamount : amount < 2 ^ 256)
    (maxFeeWei : ℤ) :
    ∃ built problems,
      buildAndVerifyApprovals abi lib chainId token spender amount currentAllowance gas maxFeeWei
        = .ok (built, problems)
      ∧ (∀ start : Allowances, start (PyUnicode.lower spender) = currentAllowance →
        (∀ s ∈ runTxs abi token start (inNonceOrder built.txs), s.reverted = false)
        ∧ amount ≤ allowancesAfter abi token start (inNonceOrder built.txs)
            (PyUnicode.lower spender)
        ∧ (built.txs ≠ [] → allowancesAfter abi token start (inNonceOrder built.txs)
            (PyUnicode.lower spender) = amount))
      ∧ built.txs.length ≤ 2
      ∧ built.txs.map (·.nonce) = (List.range built.txs.length).map (fun i : ℕ => gas.nonce + i)
      ∧ (problems = [] ↔ (built.txs.map fun t => t.gas * t.maxFeePerGas).sum ≤ maxFeeWei) := by
  have hbounds : ∀ value ∈ approvalAmounts currentAllowance amount,
      0 ≤ value ∧ value < 2 ^ 256 := by
    intro value hvalue
    obtain ⟨i, hi⟩ := List.mem_iff_getElem?.mp hvalue
    have hvalue := approvalAmounts_getElem? hi
    split_ifs at hvalue <;> omega
  obtain ⟨token', htoken', haddress⟩ := isAddress_checksummed hdigest htoken
  obtain ⟨spender', hspender', haddress'⟩ := isAddress_checksummed hdigest hspender
  obtain ⟨digits, hsign⟩ := checksummed_sign hspender'
  obtain ⟨txs, htxs⟩ : ∃ txs, Grants abi token' spender' chainId gas 0
      (approvalAmounts currentAllowance amount) txs := by
    refine exists_grants fun value hvalue => ?_
    obtain ⟨hlow, hhigh⟩ := hbounds value hvalue
    obtain ⟨args, hargs⟩ := hencode spender rawSpender spender' value hspender hspender' hlow hhigh
    exact ⟨_, by rw [encodeApprove, hargs]⟩
  have hbuild := (buildApprovals_eq_ok_iff htoken' hspender').mpr htxs
  refine ⟨{ txs, token := token', spender := spender', amount, chainId }, _, ?_,
    fun start hstart => ?_, ?_, ?_, verifyEthApprovals_eq_nil_iff laws maxFeeWei hsign htxs⟩
  · rw [buildAndVerifyApprovals, hbuild, ok_bind, htoken', ok_bind, hspender', ok_bind]
  · obtain ⟨hrun, hafter⟩ := approvals_granted laws hstart hnonneg htoken haddress hspender
      haddress' hsign htxs
    refine ⟨hrun, ?_, fun hbuilt => ?_⟩
    · rw [hafter]
      split_ifs <;> omega
    · have hshort : currentAllowance < amount := by
        by_contra hshort
        rw [approvalAmounts, if_neg hshort] at htxs
        exact hbuilt (grants_nil.mp htxs)
      rw [hafter, if_pos hshort]
  · rw [htxs.length_eq]
    exact approvalAmounts_length_le
  · rw [List.range_eq_range']
    exact htxs.nonces

end Verify

/-! ## One USDT for the router -/

def usdtTokenRaw : Bytes := beBytes 20 0xdac17f958d2ee523a2206206994597c13d831ec7

def usdtRouterRaw : Bytes := beBytes 20 0xd37bbe5744d730a1d98d8dc97c42f0ca46ad7146

theorem isAddress_usdt : IsAddress usdtToken usdtTokenRaw ∧ IsAddress usdtRouter usdtRouterRaw := by
  refine ⟨⟨?_, ?_⟩, ?_, ?_⟩ <;> decide +kernel

/-- The ABI's layout of an address and an amount, in two words. -/
def wordsAbi : TokenAbi where
  encodeAddressUint256 address amount :=
    match fromHexChars (address.toList.drop 2) with
    | some raw =>
        if address.toList.map Char.toLower = ("0x" ++ hex raw).toList ∧ raw.length = 20
            ∧ 0 ≤ amount ∧ amount < 2 ^ 256 then
          some ((List.replicate 12 0 ++ raw) ++ beBytes 32 amount.toNat)
        else none
    | none => none
  decodeAddressUint256 args :=
    if args.length = 64 then
      some ("0x" ++ hex ((args.take 32).drop 12), beNat (args.drop 32))
    else none
  encodeDepositArgs := only usdtDeposit usdtDepositArgs
  decodeDepositArgs := only usdtDepositArgs usdtFound

theorem wordsAbi_encodes {address : String} {raw : Bytes} {amount : ℤ}
    (haddress : IsAddress address raw) (hlow : 0 ≤ amount) (hhigh : amount < 2 ^ 256) :
    wordsAbi.encodeAddressUint256 address amount
      = some ((List.replicate 12 0 ++ raw) ++ beBytes 32 amount.toNat) := by
  obtain ⟨digits, hshape, hraw⟩ := haddress.digits
  have hdrop : address.toList.drop 2 = digits := by
    rcases hshape with hshape | hshape
    · rw [hshape]
      rfl
    · rw [hshape]
      rfl
  simp only [wordsAbi]
  rw [hdrop, hraw]
  exact if_pos ⟨haddress.1, haddress.2, hlow, hhigh⟩

theorem wordsAbi_encodesBack : @EncodesBack asciiUnicode wordsAbi := by
  let _ : PyUnicode := asciiUnicode
  refine ⟨?_, usdtAbi_encodesBack.deposit⟩
  intro digits amount args h
  simp only [wordsAbi] at h
  split at h
  · rename_i raw hraw
    split at h
    · rename_i hfits
      obtain ⟨hspelled, hlen, hlow, hhigh⟩ := hfits
      cases h
      have hword : (List.replicate 12 (0 : UInt8) ++ raw).length = 32 := by
        rw [List.length_append, List.length_replicate, hlen]
      have hamount : beNat (beBytes 32 amount.toNat) = amount.toNat :=
        beNat_beBytes (by norm_num; omega)
      refine ⟨"0x" ++ hex raw, ?_, ?_⟩
      · simp only [wordsAbi]
        rw [List.take_left' hword, List.drop_left' hword, List.drop_left' List.length_replicate,
          hamount, Int.toNat_of_nonneg hlow,
          if_pos (by rw [List.length_append, hword, beBytes_length])]
      · have hcall : IsAddress ("0x" ++ digits) raw := ⟨hspelled, hlen⟩
        rw [hcall.lower, lower_hexText]
    · cases h
  · cases h

theorem wordsAbi_encodesWords : EncodesWords wordsAbi usdtLib := by
  intro address raw found value haddress hfound hlow hhigh
  obtain ⟨spelled, hspelled, hsame⟩ := isAddress_checksummed usdtLib_length haddress
  obtain rfl : found = spelled := Except.ok.inj (hfound.symm.trans hspelled)
  exact ⟨_, wordsAbi_encodes hsame hlow hhigh⟩

/-- A leftover of one unit is reset and replaced: two transactions, and the gate
    allows their fee. -/
theorem buildAndVerifyApprovals_grants_usdt :
    let _ : PyUnicode := asciiUnicode
    ∃ built problems,
      buildAndVerifyApprovals wordsAbi usdtLib 1 usdtToken usdtRouter 1000000 1 usdtGas 1400000
          = .ok (built, problems)
      ∧ (∀ start : Allowances, start (PyUnicode.lower usdtRouter) = 1 →
        (∀ s ∈ runTxs wordsAbi usdtToken start (inNonceOrder built.txs), s.reverted = false)
        ∧ 1000000 ≤ allowancesAfter wordsAbi usdtToken start (inNonceOrder built.txs)
            (PyUnicode.lower usdtRouter)
        ∧ (built.txs ≠ [] → allowancesAfter wordsAbi usdtToken start (inNonceOrder built.txs)
            (PyUnicode.lower usdtRouter) = 1000000))
      ∧ built.txs.length ≤ 2
      ∧ built.txs.map (·.nonce)
        = (List.range built.txs.length).map (fun i : ℕ => usdtGas.nonce + i)
      ∧ (problems = [] ↔ (built.txs.map fun t => t.gas * t.maxFeePerGas).sum ≤ 1400000) := by
  let _ : PyUnicode := asciiUnicode
  intro _
  exact buildAndVerifyApprovals_grants wordsAbi_encodesBack wordsAbi_encodesWords usdtLib_length
    isAddress_usdt.1 isAddress_usdt.2 (by norm_num) (by norm_num) (by norm_num) 1400000

end SwapsackAllowance
