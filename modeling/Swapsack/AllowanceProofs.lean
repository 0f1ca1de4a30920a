import Mathlib.Data.List.Sort
import Mathlib.Logic.Function.Basic
import Swapsack.ChainflipProofs

/-! # Allowances behind a token deposit

    A token leaves the wallet in two transactions, an `approve` and a call that
    pulls what was approved.  Some tokens refuse to change one allowance for
    another without passing through zero, so what the pair does depends on what
    an earlier run left behind.

    * `isAddress_checksummed` — EIP-55 spells an address and loses nothing of it;
    * `funds_pair` — an `approve` and the pull behind it, by the allowance they
      start from;
    * `buildTokenDeposit_funds`, `buildVaultSwap_funds` — both token paths build
      such a pair. -/

namespace SwapsackAllowance

open ListKit ByteString HexText PyText SwapsackBase SwapsackEvmVault
open SwapsackAddresses (ChecksumLib toChecksumAddress)
open SwapsackChainflip (EvmFees approveGas checksummed encodeApprove buildApprove buildVaultSwap
  vaultSwapGas vaultSwapTokenGas)

/-! ## Addresses -/

/-- The text of 20 bytes: `0x` and hexadecimal digits, of either case. -/
def IsAddress (address : String) (raw : Bytes) : Prop :=
  address.toList.map Char.toLower = ("0x" ++ hex raw).toList ∧ raw.length = 20

/-- Two characters for each byte. -/
theorem length_hex (b : Bytes) : (hex b).toList.length = 2 * b.length := by
  induction b with
  | nil => rfl
  | cons x b ih =>
      rw [hexChars_cons, List.length_cons, List.length_cons, ih, List.length_cons]
      omega

theorem toLower_toUpper {c : Char} (h : c.toNat < 128) : c.toUpper.toLower = c.toLower := by
  have hall : ∀ k < 128, (Char.ofNat k).toUpper.toLower = (Char.ofNat k).toLower := by decide
  have hc : c = Char.ofNat c.toNat := (Char.ofNat_toNat c).symm
  rw [hc]
  exact hall _ h

theorem toLower_eq_x {c : Char} (h : c.toLower = 'x') : c = 'x' ∨ c = 'X' := by
  have hascii : c.toNat < 128 := ascii_of_toLower (by rw [h]; decide)
  have hall : ∀ k < 128, (Char.ofNat k).toLower = 'x' →
      Char.ofNat k = 'x' ∨ Char.ofNat k = 'X' := by decide
  have hc : c = Char.ofNat c.toNat := (Char.ofNat_toNat c).symm
  rw [hc] at h ⊢
  exact hall _ hascii h

/-- An address is the sign of a hexadecimal number and its digits. -/
theorem IsAddress.digits {address : String} {raw : Bytes} (h : IsAddress address raw) :
    ∃ digits, (address.toList = '0' :: 'x' :: digits ∨ address.toList = '0' :: 'X' :: digits)
      ∧ fromHexChars digits = some raw := by
  obtain ⟨hspelled, -⟩ := h
  have hsign : ("0x" ++ hex raw).toList = '0' :: 'x' :: (hex raw).toList := by
    rw [String.toList_append]
    rfl
  rw [hsign] at hspelled
  cases hlist : address.toList with
  | nil =>
      rw [hlist] at hspelled
      cases hspelled
  | cons c tail =>
      rw [hlist, List.map_cons] at hspelled
      obtain ⟨hc, htail⟩ := List.cons.inj hspelled
      cases tail with
      | nil => cases htail
      | cons x digits =>
          rw [List.map_cons] at htail
          obtain ⟨hx, hdigits⟩ := List.cons.inj htail
          refine ⟨digits, ?_, fromHexChars_of_toLower hdigits⟩
          rw [toLower_eq_zero hc]
          rcases toLower_eq_x hx with rfl | rfl
          · exact Or.inl rfl
          · exact Or.inr rfl

/-- An address in lower case. -/
theorem IsAddress.lower [PyUnicode] {address : String} {raw : Bytes} (h : IsAddress address raw) :
    PyUnicode.lower address = "0x" ++ hex raw := by
  have hascii : ∀ c ∈ address.toList, c.toNat < 128 := by
    intro c hc
    refine ascii_of_toLower (hexText_ascii raw _ ?_)
    rw [← h.1]
    exact List.mem_map_of_mem hc
  rw [PyUnicode.lower_ascii address hascii, h.1, String.ofList_toList]

/-- Digits raised to upper case here and there lower-case to what they were. -/
theorem map_toLower_cased (raise : Char → Bool) {lower digest : List Char}
    (hascii : ∀ c ∈ lower, c.toNat < 128) (hlower : lower.map Char.toLower = lower)
    (hlen : lower.length ≤ digest.length) :
    ((lower.zip digest).map fun p =>
      if p.1.isAlpha && raise p.2 then p.1.toUpper else p.1).map Char.toLower = lower := by
  have hcase : ∀ p ∈ lower.zip digest,
      (if p.1.isAlpha && raise p.2 then p.1.toUpper else p.1).toLower = p.1.toLower := by
    intro p hp
    split
    · exact toLower_toUpper (hascii p.1 (List.of_mem_zip hp).1)
    · rfl
  calc ((lower.zip digest).map fun p =>
        if p.1.isAlpha && raise p.2 then p.1.toUpper else p.1).map Char.toLower
      = (lower.zip digest).map fun p => p.1.toLower := by
        rw [List.map_map]
        exact List.map_congr_left hcase
    _ = ((lower.zip digest).map Prod.fst).map Char.toLower := by
        rw [List.map_map]
        rfl
    _ = lower := by rw [List.map_fst_zip hlen, hlower]

/-- **The EIP-55 spelling of an address** is one of the same bytes. -/
theorem isAddress_checksummed {lib : ChecksumLib} (hdigest : ∀ b, (lib.keccak256 b).length = 32)
    {address : String} {raw : Bytes} (h : IsAddress address raw) :
    ∃ found, checksummed lib address = .ok found ∧ IsAddress found raw := by
  obtain ⟨digits, hshape, hraw⟩ := h.digits
  obtain ⟨-, hlen⟩ := h
  have hascii : ∀ c ∈ (hex raw).toList, c.toNat < 128 := by
    intro c hc
    refine hexText_ascii raw c ?_
    rw [String.toList_append]
    exact List.mem_append_right _ hc
  have henough : (hex raw).toList.length
      ≤ (hex (lib.keccak256 (encodeUtf8 (hex raw)))).toList.length := by
    rw [length_hex, length_hex, hdigest, hlen]
    omega
  have hcased := map_toLower_cased (fun d => decide (8 ≤ (hexValue d).getD 0)) hascii
    (hex_map_toLower raw) henough
  have hspelled (cased : List Char) (hcased : cased.map Char.toLower = (hex raw).toList) :
      IsAddress (String.ofList ('0' :: 'x' :: cased)) raw := by
    refine ⟨?_, hlen⟩
    rw [String.toList_ofList, String.toList_append]
    exact congrArg (fun digits => '0' :: 'x' :: digits) hcased
  rcases hshape with hshape | hshape
  all_goals
    rw [checksummed, hshape, toChecksumAddress]
    dsimp only
    rw [hraw]
    exact ⟨_, rfl, hspelled _ hcased⟩

/-- A checksummed text carries the sign. -/
theorem checksummed_sign {lib : ChecksumLib} {address found : String}
    (h : checksummed lib address = .ok found) : ∃ digits, found = "0x" ++ digits := by
  rw [checksummed] at h
  split at h
  · rename_i text htext
    cases h
    obtain ⟨raw, -, rfl⟩ := Option.map_eq_some_iff.mp htext
    exact ⟨_, (String.ofList_append : String.ofList (['0', 'x'] ++ _) = _)⟩
  · cases h

/-! ## Calldata -/

/-- The selector of `depositWithExpiry`. -/
def depositSelector : String := "44bc937b"

def tokenDepositGas : ℤ := 200000

/-- The arguments of `depositWithExpiry`. -/
structure DepositArgs where
  vault : String
  token : String
  amount : ℤ
  memo : String
  expiry : ℤ
deriving DecidableEq

/-- The ABI library, with the argument types of a deposit. -/
structure TokenAbi extends EthAbi where
  encodeDepositArgs : DepositArgs → Option Bytes
  decodeDepositArgs : Bytes → Option DepositArgs

/-- `depositWithExpiry`; an argument the library refuses raises. -/
def encodeDeposit (abi : TokenAbi) (args : DepositArgs) : Except PyError String :=
  match abi.encodeDepositArgs args with
  | some args => .ok ("0x" ++ depositSelector ++ hex args)
  | none => .error .library

/-! ## What is built -/

/-- An approval and a deposit, with what they were built from. -/
structure EthTokenBuiltSwap where
  approveTx : EvmTx
  depositTx : EvmTx
  token : String
  router : String
  vault : String
  nativeAmount : ℤ
  memo : String
  expiry : ℤ
  chainId : ℤ

/-- Both transactions, in the order they are sent. -/
def EthTokenBuiltSwap.txs (built : EthTokenBuiltSwap) : List EvmTx :=
  [built.approveTx, built.depositTx]

/-- The fees of a transaction, and its place among the account's. -/
structure Gas where
  nonce : ℤ
  maxFeePerGas : ℤ
  maxPriorityFeePerGas : ℤ

/-- `_build_token_deposit`: an `approve` and the router's `depositWithExpiry`. -/
def buildTokenDeposit (abi : TokenAbi) (lib : ChecksumLib) (chainId : ℤ)
    (token router vault : String) (native : ℤ) (memo : String) (expiry : ℤ) (gas : Gas) :
    Except PyError EthTokenBuiltSwap := do
  let token ← checksummed lib token
  let router ← checksummed lib router
  let vault ← checksummed lib vault
  let approveData ← encodeApprove abi.toEthAbi router native
  let depositData ← encodeDeposit abi { vault, token, amount := native, memo, expiry }
  .ok
    { approveTx :=
        { toAddress := token, value := 0, data := some approveData, chainId
          nonce := gas.nonce, gas := approveGas, maxFeePerGas := gas.maxFeePerGas
          maxPriorityFeePerGas := gas.maxPriorityFeePerGas }
      depositTx :=
        { toAddress := router, value := 0, data := some depositData, chainId
          nonce := gas.nonce + 1, gas := tokenDepositGas, maxFeePerGas := gas.maxFeePerGas
          maxPriorityFeePerGas := gas.maxPriorityFeePerGas }
      token, router, vault, nativeAmount := native, memo, expiry, chainId }

/-- The amounts of `build_and_verify_approvals`: a leftover allowance that does not
    suffice is reset first. -/
def approvalAmounts (currentAllowance amount : ℤ) : List ℤ :=
  if currentAllowance < amount then
    (if 0 < currentAllowance then [0] else []) ++ [amount]
  else []

/-- The transactions of `build_and_verify_approvals`. -/
def buildApprovals (abi : TokenAbi) (lib : ChecksumLib) (chainId : ℤ) (token spender : String)
    (amount currentAllowance : ℤ) (gas : Gas) : Except PyError (List EvmTx) := do
  let token ← checksummed lib token
  let spender ← checksummed lib spender
  (approvalAmounts currentAllowance amount).zipIdx.mapM fun (value, i) => do
    let data ← encodeApprove abi.toEthAbi spender value
    .ok
      { toAddress := token, value := 0, data := some data, chainId, nonce := gas.nonce + i
        gas := approveGas, maxFeePerGas := gas.maxFeePerGas
        maxPriorityFeePerGas := gas.maxPriorityFeePerGas }

section Chain

variable [PyUnicode]

/-! ## What the chain does with it -/

/-- What a transaction asks a contract for: an allowance of the contract's token,
    or a transfer that uses one. -/
inductive Call where
  | approve (spender : String) (amount : ℤ)
  | pull (token : String) (amount : ℤ)
  | other
deriving DecidableEq

/-- The arguments behind a selector. -/
def argsOf (data : Option String) (selector : String) : Option Bytes := do
  let data ← data
  let raw ← fromHex (removePrefix data "0x")
  if hex (raw.take 4) = selector then some (raw.drop 4) else none

/-- The call a transaction makes, by its selector: an ERC-20 `approve`, a router
    deposit or a Vault call. -/
def callOf (abi : TokenAbi) (tx : EvmTx) : Call :=
  match decodeCall abi.toEthAbi tx.data approveSelector with
  | some (spender, amount) => .approve spender amount
  | none =>
      match (argsOf tx.data depositSelector).bind abi.decodeDepositArgs with
      | some args => .pull args.token args.amount
      | none =>
          match (tx.data.bind fun data => fromHex (removePrefix data "0x")).bind
              decodeEvmVaultCall with
          | some call => .pull call.sourceToken call.sourceAmount
          | none => .other

/-- The account's allowances of one token, by lower-case spender. -/
abbrev Allowances := String → ℤ

/-- A token that refuses an `approve` from one non-zero allowance to another; a
    pull uses an allowance up. -/
def execute (token : String) (before : Allowances) (callee : String) : Call → Option Allowances
  | .approve spender amount =>
      if PyUnicode.lower callee ≠ PyUnicode.lower token then some before
      else if amount ≠ 0 ∧ before (PyUnicode.lower spender) ≠ 0 then none
      else some (Function.update before (PyUnicode.lower spender) amount)
  | .pull source amount =>
      if PyUnicode.lower source ≠ PyUnicode.lower token then some before
      else if before (PyUnicode.lower callee) < amount then none
      else some (Function.update before (PyUnicode.lower callee)
        (before (PyUnicode.lower callee) - amount))
  | .other => some before

/-- A transaction that ran, with the allowances it met. -/
structure Step where
  callee : String
  call : Call
  before : Allowances
  reverted : Bool

/-- The run of some transactions; one that reverts changes nothing, and the next
    one runs all the same. -/
def runTxs (abi : TokenAbi) (token : String) : Allowances → List EvmTx → List Step
  | _, [] => []
  | before, tx :: txs =>
      let call := callOf abi tx
      let result := execute token before tx.toAddress call
      { callee := tx.toAddress, call, before, reverted := result.isNone }
        :: runTxs abi token (result.getD before) txs

/-- The allowances a run leaves. -/
def allowancesAfter (abi : TokenAbi) (token : String) : Allowances → List EvmTx → Allowances
  | before, [] => before
  | before, tx :: txs =>
      allowancesAfter abi token
        ((execute token before tx.toAddress (callOf abi tx)).getD before) txs

omit [PyUnicode] in
/-- The order in which an account's transactions are mined. -/
def inNonceOrder (txs : List EvmTx) : List EvmTx :=
  txs.insertionSort fun a b => a.nonce ≤ b.nonce

/-- No `approve` reverts, and a call finds its spender authorised for exactly the
    amount it pulls. -/
structure Funds (token : String) (steps : List Step) : Prop where
  approved : ∀ s ∈ steps, ∀ spender amount, s.call = .approve spender amount →
    s.reverted = false
  exact : ∀ s ∈ steps, ∀ source amount, s.call = .pull source amount →
    PyUnicode.lower source = PyUnicode.lower token
      ∧ s.before (PyUnicode.lower s.callee) = amount

/-- **An approve and the pull behind it** are funded from an empty allowance, or
    for nothing. -/
theorem funds_pair {abi : TokenAbi} {token spender source : String} {amount : ℤ}
    {approveTx pullTx : EvmTx} {start : Allowances}
    (happrove : callOf abi approveTx = .approve spender amount)
    (hpull : callOf abi pullTx = .pull source amount)
    (htoken : PyUnicode.lower approveTx.toAddress = PyUnicode.lower token)
    (hsource : PyUnicode.lower source = PyUnicode.lower token)
    (hspender : PyUnicode.lower pullTx.toAddress = PyUnicode.lower spender) :
    Funds token (runTxs abi token start [approveTx, pullTx])
      ↔ start (PyUnicode.lower spender) = 0 ∨ amount = 0 := by
  by_cases hrevert : amount ≠ 0 ∧ start (PyUnicode.lower spender) ≠ 0
  · -- The `approve` reverts.
    refine iff_of_false (fun h => ?_) (by tauto)
    have hfirst := h.approved _ List.mem_cons_self spender amount happrove
    rw [happrove, execute, if_neg (not_not.mpr htoken), if_pos hrevert] at hfirst
    cases hfirst
  · refine iff_of_true ⟨?_, ?_⟩ (by tauto)
    all_goals
      simp only [runTxs, happrove, hpull, execute, if_neg (not_not.mpr htoken),
        if_neg hrevert, List.forall_mem_cons, Option.getD_some, Option.isNone_some,
        List.not_mem_nil, false_imp_iff, implies_true, and_true]
    · exact ⟨trivial, fun _ _ h => (by cases h)⟩
    · refine ⟨fun _ _ h => (by cases h), fun s n h => ?_⟩
      cases h
      exact ⟨hsource, by rw [hspender, Function.update_self]⟩

/-! ## Both token paths build such a pair -/

/-- What the wallet relies on in the ABI library: arguments decode as they were encoded,
    and addresses, written with their sign, up to case. -/
structure EncodesBack (abi : TokenAbi) : Prop where
  approve : ∀ digits amount args, abi.encodeAddressUint256 ("0x" ++ digits) amount = some args →
    ∃ found, abi.decodeAddressUint256 args = some (found, amount)
      ∧ PyUnicode.lower found = PyUnicode.lower ("0x" ++ digits)
  deposit : ∀ d vault token args, d.vault = "0x" ++ vault → d.token = "0x" ++ token →
    abi.encodeDepositArgs d = some args →
    ∃ found, abi.decodeDepositArgs args = some found ∧ found.amount = d.amount
      ∧ found.memo = d.memo ∧ PyUnicode.lower found.token = PyUnicode.lower d.token

omit [PyUnicode] in

/-- Bytes are spelled one after the other. -/
theorem hex_append (a b : Bytes) : hex (a ++ b) = hex a ++ hex b := by
  rw [hex, hex, hex, List.flatMap_append, String.ofList_append]

omit [PyUnicode] in
/-- Calldata is its selector and its arguments. -/
theorem fromHex_calldata (selector args : Bytes) :
    fromHex (removePrefix ("0x" ++ hex selector ++ hex args) "0x") = some (selector ++ args) := by
  rw [String.append_assoc, ← hex_append, fromHex_hexText]

omit [PyUnicode] in

/-- Call data is decoded under its own selector only. -/
theorem decodeCall_calldata (abi : EthAbi) {selector : Bytes} (args : Bytes) (name : String)
    (hlen : selector.length = 4) :
    decodeCall abi (some ("0x" ++ hex selector ++ hex args)) name
      = if hex selector = name then abi.decodeAddressUint256 args else none := by
  unfold decodeCall
  simp only [fromHex_calldata]
  rw [List.take_left' hlen, List.drop_left' hlen]
  by_cases h : hex selector = name
  · rw [if_neg (not_not.mpr h), if_pos h]
  · rw [if_pos h, if_neg h]

omit [PyUnicode] in

/-- So are its arguments. -/
theorem argsOf_calldata {selector : Bytes} (args : Bytes) (name : String)
    (hlen : selector.length = 4) :
    argsOf (some ("0x" ++ hex selector ++ hex args)) name
      = if hex selector = name then some args else none := by
  unfold argsOf
  simp only [Option.bind_eq_bind, Option.bind_some, fromHex_calldata]
  rw [List.take_left' hlen, List.drop_left' hlen]

omit [PyUnicode] in

/-- An approval that is written is its selector and its arguments. -/
theorem encodeApprove_ok {abi : EthAbi} {spender data : String} {amount : ℤ}
    (h : encodeApprove abi spender amount = .ok data) :
    ∃ args, abi.encodeAddressUint256 spender amount = some args
      ∧ data = "0x" ++ approveSelector ++ hex args := by
  rw [encodeApprove] at h
  split at h
  · rename_i args hargs
    cases h
    exact ⟨args, hargs, rfl⟩
  · cases h

omit [PyUnicode] in

/-- And so is a deposit. -/
theorem encodeDeposit_ok {abi : TokenAbi} {d : DepositArgs} {data : String}
    (h : encodeDeposit abi d = .ok data) :
    ∃ args, abi.encodeDepositArgs d = some args ∧ data = "0x" ++ depositSelector ++ hex args := by
  rw [encodeDeposit] at h
  split at h
  · rename_i args hargs
    cases h
    exact ⟨args, hargs, rfl⟩
  · cases h

/-- An encoded `approve` reads back. -/
theorem decodeCall_approve {abi : TokenAbi} (laws : EncodesBack abi) {digits data : String}
    {amount : ℤ} (h : encodeApprove abi.toEthAbi ("0x" ++ digits) amount = .ok data) :
    ∃ found, decodeCall abi.toEthAbi (some data) approveSelector = some (found, amount)
      ∧ PyUnicode.lower found = PyUnicode.lower ("0x" ++ digits) := by
  obtain ⟨args, hargs, rfl⟩ := encodeApprove_ok h
  obtain ⟨found, hfound, hlower⟩ := laws.approve _ _ _ hargs
  have hselector : approveSelector = hex [0x09, 0x5e, 0xa7, 0xb3] := rfl
  refine ⟨found, ?_, hlower⟩
  rw [hselector, decodeCall_calldata _ _ _ rfl, if_pos rfl, hfound]

omit [PyUnicode] in

/-- What is decoded as an approval is that call. -/
theorem callOf_of_decodeCall {abi : TokenAbi} {tx : EvmTx} {spender : String} {amount : ℤ}
    (h : decodeCall abi.toEthAbi tx.data approveSelector = some (spender, amount)) :
    callOf abi tx = .approve spender amount := by
  rw [callOf, h]

/-- An encoded `approve` is that approve. -/
theorem callOf_approve {abi : TokenAbi} (laws : EncodesBack abi) (tx : EvmTx)
    {digits data : String} {amount : ℤ}
    (h : encodeApprove abi.toEthAbi ("0x" ++ digits) amount = .ok data)
    (hdata : tx.data = some data) :
    ∃ found, callOf abi tx = .approve found amount
      ∧ PyUnicode.lower found = PyUnicode.lower ("0x" ++ digits) := by
  obtain ⟨found, hfound, hlower⟩ := decodeCall_approve laws h
  exact ⟨found, callOf_of_decodeCall (hdata ▸ hfound), hlower⟩

omit [PyUnicode] in
/-- The arguments of a call of the router. -/
theorem argsOf_deposit (args : Bytes) :
    argsOf (some ("0x" ++ depositSelector ++ hex args)) depositSelector = some args := by
  have hselector : depositSelector = hex [0x44, 0xbc, 0x93, 0x7b] := rfl
  rw [hselector, argsOf_calldata _ _ rfl, if_pos rfl]

/-- An encoded deposit pulls its amount of its token. -/
theorem callOf_deposit {abi : TokenAbi} (laws : EncodesBack abi) (tx : EvmTx) {d : DepositArgs}
    {vault token data : String} (hvault : d.vault = "0x" ++ vault) (htoken : d.token = "0x" ++ token)
    (h : encodeDeposit abi d = .ok data) (hdata : tx.data = some data) :
    ∃ source, callOf abi tx = .pull source d.amount
      ∧ PyUnicode.lower source = PyUnicode.lower d.token := by
  obtain ⟨args, hargs, rfl⟩ := encodeDeposit_ok h
  obtain ⟨found, hfound, hamount, -, hlower⟩ := laws.deposit _ _ _ _ hvault htoken hargs
  refine ⟨found.token, ?_, hlower⟩
  have hnotApprove : decodeCall abi.toEthAbi (some ("0x" ++ depositSelector ++ hex args))
      approveSelector = none := by
    have hselector : depositSelector = hex [0x44, 0xbc, 0x93, 0x7b] := rfl
    rw [hselector, decodeCall_calldata _ _ _ rfl, if_neg (by decide)]
  rw [callOf, hdata, hnotApprove, argsOf_deposit, Option.bind_some, hfound, ← hamount]

omit [PyUnicode] in
/-- A Vault call that spends a token pulls its amount of it. -/
theorem callOf_vaultCall (abi : TokenAbi) (tx : EvmTx) {calldata : Bytes}
    {call : DecodedEvmVaultCall} (hdata : tx.data = some ("0x" ++ hex calldata))
    (hcall : decodeEvmVaultCall calldata = some call) (htoken : call.sourceToken ≠ "") :
    callOf abi tx = .pull call.sourceToken call.sourceAmount := by
  have hselector : hex (calldata.take 4) = xswapTokenSelector := by
    unfold decodeEvmVaultCall at hcall
    split at hcall
    · cases hcall
    dsimp only at hcall
    split at hcall
    · -- a native call names no token
      unfold decodeEvmVaultArgs at hcall
      split at hcall
      · cases hcall
      split at hcall
      · rename_i hsource
        cases hcall
        cases hsource
        exact absurd rfl htoken
      · cases hcall
    split at hcall
    · assumption
    · cases hcall
  have hnotApprove : decodeCall abi.toEthAbi (some ("0x" ++ hex calldata)) approveSelector
      = none := by
    unfold decodeCall
    simp only [fromHex_hexText, hselector]
    rw [if_pos (by decide)]
  have hnotDeposit : argsOf (some ("0x" ++ hex calldata)) depositSelector = none := by
    unfold argsOf
    simp only [Option.bind_eq_bind, Option.bind_some, fromHex_hexText, hselector]
    rw [if_neg (by decide)]
  rw [callOf, hdata, hnotApprove]
  simp only [hnotDeposit, Option.bind_none, Option.bind_some, fromHex_hexText, hcall]

omit [PyUnicode] in
/-- Two transactions with successive nonces are mined as they stand. -/
theorem inNonceOrder_pair {a b : EvmTx} (h : b.nonce = a.nonce + 1) :
    inNonceOrder [a, b] = [a, b] := by
  have hle : a.nonce ≤ b.nonce := by omega
  simp [inNonceOrder, hle]

/-- **A router deposit** is an approve of the router and a pull by it. -/
theorem buildTokenDeposit_funds {abi : TokenAbi} (laws : EncodesBack abi) {lib : ChecksumLib}
    {chainId : ℤ} {token router vault : String} {native : ℤ} {memo : String} {expiry : ℤ}
    {gas : Gas} {built : EthTokenBuiltSwap} (start : Allowances)
    (h : buildTokenDeposit abi lib chainId token router vault native memo expiry gas = .ok built) :
    Funds built.token (runTxs abi built.token start (inNonceOrder built.txs))
      ↔ start (PyUnicode.lower built.router) = 0 ∨ native = 0 := by
  obtain ⟨token', htoken, h⟩ := bind_eq_ok h
  obtain ⟨router', hrouter, h⟩ := bind_eq_ok h
  obtain ⟨vault', hvault, h⟩ := bind_eq_ok h
  obtain ⟨approveData, happrove, h⟩ := bind_eq_ok h
  obtain ⟨depositData, hdeposit, h⟩ := bind_eq_ok h
  cases h
  obtain ⟨tokenDigits, rfl⟩ := checksummed_sign htoken
  obtain ⟨routerDigits, rfl⟩ := checksummed_sign hrouter
  obtain ⟨vaultDigits, rfl⟩ := checksummed_sign hvault
  obtain ⟨spender, hcallApprove, hspender⟩ := callOf_approve laws
    { toAddress := "0x" ++ tokenDigits, value := 0, data := some approveData, chainId
      nonce := gas.nonce, gas := approveGas, maxFeePerGas := gas.maxFeePerGas
      maxPriorityFeePerGas := gas.maxPriorityFeePerGas } happrove rfl
  obtain ⟨source, hcallDeposit, hsource⟩ := callOf_deposit laws
    { toAddress := "0x" ++ routerDigits, value := 0, data := some depositData, chainId
      nonce := gas.nonce + 1, gas := tokenDepositGas, maxFeePerGas := gas.maxFeePerGas
      maxPriorityFeePerGas := gas.maxPriorityFeePerGas } rfl rfl hdeposit rfl
  rw [EthTokenBuiltSwap.txs, inNonceOrder_pair rfl,
    funds_pair hcallApprove hcallDeposit rfl hsource hspender.symm, hspender]

/-- **A token vault swap** that passes its gate is an approve of the Vault and a
    pull by it. -/
theorem buildVaultSwap_funds {abi : TokenAbi} {lib : ChecksumLib}
    {plan : ChainflipEvmVaultPlan} {fees : EvmFees} {built : EthVaultSwapBuilt}
    {now maxFeeWei : ℤ} {ownedAddress : String} (start : Allowances)
    (h : buildVaultSwap lib abi.toEthAbi plan fees = .ok built) (htoken : plan.sourceToken ≠ "")
    (hgate : verifyChainflipEvmVaultSwap abi.toEthAbi built plan now maxFeeWei ownedAddress
      = .ok []) :
    Funds plan.sourceToken (runTxs abi plan.sourceToken start (inNonceOrder built.txs))
      ↔ start (PyUnicode.lower plan.vaultContract) = 0 ∨ plan.sourceAmount = 0 := by
  obtain ⟨approveTx, happroveTx, h⟩ := bind_eq_ok h
  obtain ⟨vault, -, h⟩ := bind_eq_ok h
  cases h
  rw [buildApprove, if_neg htoken] at happroveTx
  obtain ⟨token', -, happroveTx⟩ := bind_eq_ok happroveTx
  obtain ⟨vault', -, happroveTx⟩ := bind_eq_ok happroveTx
  obtain ⟨approveData, -, happroveTx⟩ := bind_eq_ok happroveTx
  cases happroveTx
  obtain ⟨data, raw, call, hdata, hraw, hcall, henvelope, hgranted, hproblems, -⟩ :=
    verifyChainflipEvmVaultSwap_eq_nil.mp hgate
  cases hdata
  rw [fromHex_hexText] at hraw
  cases hraw
  obtain ⟨-, -, -, hsource, -, hamount, -⟩ := callProblems_eq_nil.mp hproblems
  obtain ⟨-, -, hto, -⟩ := envelopeProblems_eq_nil.mp henvelope
  -- the gate has decoded what the approve grants, and to whom
  obtain ⟨approve, happrove, hcontract, -, -, spender, hdecoded, hspender⟩ :=
    (verifyVaultApprove_eq_nil.mp hgranted).2 htoken
  cases happrove
  have hcallApprove := callOf_of_decodeCall hdecoded
  have hpull := callOf_vaultCall abi
    { toAddress := vault, value := plan.value, data := some ("0x" ++ hex plan.calldata)
      chainId := fees.chainId, nonce := fees.nonce + 1, gas := vaultSwapTokenGas
      maxFeePerGas := fees.maxFeePerGas
      maxPriorityFeePerGas := fees.maxPriorityFeePerGas } rfl hcall (hsource ▸ htoken)
  rw [hsource, hamount htoken] at hpull
  simp only [EthVaultSwapBuilt.txs, Option.toList_some, List.singleton_append,
    Option.isSome_some, if_true, if_neg htoken]
  rw [inNonceOrder_pair rfl,
    funds_pair hcallApprove hpull hcontract rfl (hto.trans hspender.symm), hspender]

/-- An approve that is allowed runs, and the rest runs from what it granted. -/
theorem runTxs_approve {abi : TokenAbi} {token spender : String} {amount : ℤ} {tx : EvmTx}
    (start : Allowances) (txs : List EvmTx) (hcall : callOf abi tx = .approve spender amount)
    (htoken : PyUnicode.lower tx.toAddress = PyUnicode.lower token)
    (hallowed : amount = 0 ∨ start (PyUnicode.lower spender) = 0) :
    ((∀ s ∈ runTxs abi token start (tx :: txs), s.reverted = false)
      ↔ ∀ s ∈ runTxs abi token (Function.update start (PyUnicode.lower spender) amount) txs,
        s.reverted = false)
    ∧ allowancesAfter abi token start (tx :: txs)
      = allowancesAfter abi token (Function.update start (PyUnicode.lower spender) amount) txs := by
  have hrun : execute token start tx.toAddress (callOf abi tx)
      = some (Function.update start (PyUnicode.lower spender) amount) := by
    rw [hcall, execute, if_neg (not_not.mpr htoken), if_neg (by tauto)]
  rw [runTxs, allowancesAfter, hrun]
  refine ⟨?_, rfl⟩
  rw [List.forall_mem_cons]
  exact ⟨fun h => h.2, fun h => ⟨rfl, h⟩⟩

/-- **Both token paths** are funded exactly from an empty allowance, or for
    nothing. -/
theorem tokenSpends_funds_iff {abi : TokenAbi} (laws : EncodesBack abi) (lib : ChecksumLib)
    (start : Allowances) :
    (∀ chainId token router vault native memo expiry gas built,
      buildTokenDeposit abi lib chainId token router vault native memo expiry gas = .ok built →
      (Funds built.token (runTxs abi built.token start (inNonceOrder built.txs))
        ↔ start (PyUnicode.lower built.router) = 0 ∨ native = 0))
    ∧ ∀ plan fees built now maxFeeWei ownedAddress,
      buildVaultSwap lib abi.toEthAbi plan fees = .ok built → plan.sourceToken ≠ "" →
      verifyChainflipEvmVaultSwap abi.toEthAbi built plan now maxFeeWei ownedAddress = .ok [] →
      (Funds plan.sourceToken (runTxs abi plan.sourceToken start (inNonceOrder built.txs))
        ↔ start (PyUnicode.lower plan.vaultContract) = 0 ∨ plan.sourceAmount = 0) := by
  constructor
  · intro chainId token router vault native memo expiry gas built h
    exact buildTokenDeposit_funds laws start h
  · intro plan fees built now maxFeeWei ownedAddress h htoken hgate
    exact buildVaultSwap_funds start h htoken hgate

end Chain

/-! ## A deposit of one USDT -/

/-- Tether, the router and a deposit of one dollar. -/
def usdtToken : String := "0xdAC17F958D2ee523a2206206994597C13D831ec7"

def usdtRouter : String := "0xD37BbE5744D730a1d98d8DC97c42F0Ca46aD7146"

def usdtDeposit : DepositArgs where
  vault := "0x1f9840a85d5aF5bf1D1762F925BDADdC4201F984"
  token := usdtToken
  amount := 1000000
  memo := "=:b:bc1q"
  expiry := 900

/-- What the library decodes of it: its addresses in lower case. -/
def usdtFound : DepositArgs :=
  { usdtDeposit with
    vault := "0x1f9840a85d5af5bf1d1762f925bdaddc4201f984"
    token := "0xdac17f958d2ee523a2206206994597c13d831ec7" }

/-- The ABI's layout of the two argument lists. -/
def usdtApproveArgs : Bytes :=
  beBytes 32 0xd37bbe5744d730a1d98d8dc97c42f0ca46ad7146 ++ beBytes 32 1000000

def usdtDepositArgs : Bytes :=
  beBytes 32 0x1f9840a85d5af5bf1d1762f925bdaddc4201f984
    ++ beBytes 32 0xdac17f958d2ee523a2206206994597c13d831ec7
    ++ beBytes 32 1000000 ++ beBytes 32 160 ++ beBytes 32 900
    ++ beBytes 32 8 ++ encodeUtf8 "=:b:bc1q" ++ List.replicate 24 0

/-- A codec that knows one value. -/
def only {α β : Type} [DecidableEq α] (known : α) (value : β) (asked : α) : Option β :=
  if asked = known then some value else none

/-- What is known is found, -/
@[simp]
theorem only_self {α β : Type} [DecidableEq α] (known : α) (value : β) :
    only known value known = some value :=
  if_pos rfl

/-- and nothing else is. -/
theorem only_eq_some {α β : Type} [DecidableEq α] {known asked : α} {value found : β}
    (h : only known value asked = some found) : asked = known ∧ value = found := by
  unfold only at h
  by_cases hasked : asked = known
  · rw [if_pos hasked] at h
    exact ⟨hasked, Option.some.inj h⟩
  · rw [if_neg hasked] at h
    cases h

/-- The ABI library on these arguments. -/
def usdtAbi : TokenAbi where
  encodeAddressUint256 address amount :=
    only (usdtRouter, (1000000 : ℤ)) usdtApproveArgs (address, amount)
  decodeAddressUint256 :=
    only usdtApproveArgs ("0xd37bbe5744d730a1d98d8dc97c42f0ca46ad7146", 1000000)
  encodeDepositArgs := only usdtDeposit usdtDepositArgs
  decodeDepositArgs := only usdtDepositArgs usdtFound

/-- The codec reads the approval back, -/
theorem usdtAbi_decodeApprove : usdtAbi.decodeAddressUint256 usdtApproveArgs
    = some ("0xd37bbe5744d730a1d98d8dc97c42f0ca46ad7146", 1000000) := by
  simp only [usdtAbi, only_self]

/-- and the deposit, -/
theorem usdtAbi_decodeDeposit :
    usdtAbi.decodeDepositArgs usdtDepositArgs = some usdtFound := by
  simp only [usdtAbi, only_self]

/-- as it does everything it writes. -/
theorem usdtAbi_encodesBack : @EncodesBack asciiUnicode usdtAbi := by
  let _ : PyUnicode := asciiUnicode
  refine ⟨?_, ?_⟩
  · intro digits amount args h
    obtain ⟨hasked, hargs⟩ := only_eq_some h
    obtain ⟨haddress, hamount⟩ := Prod.mk.inj hasked
    rw [haddress, hamount, ← hargs]
    exact ⟨"0xd37bbe5744d730a1d98d8dc97c42f0ca46ad7146", usdtAbi_decodeApprove, by decide +kernel⟩
  · intro d vault token args _ _ h
    obtain ⟨hasked, hargs⟩ := only_eq_some h
    rw [hasked, ← hargs]
    exact ⟨usdtFound, usdtAbi_decodeDeposit, rfl, rfl, by decide +kernel⟩

/-- Keccak-256 of the three addresses of the deposit, and of `0x…dead`. -/
def usdtDigest (text : Bytes) : Bytes :=
  if text = encodeUtf8 "dac17f958d2ee523a2206206994597c13d831ec7" then
    beBytes 32 0x49de6b9eea964c03068ed436a2640dda792ce172920e6100977f27cc676bedc8
  else if text = encodeUtf8 "d37bbe5744d730a1d98d8dc97c42f0ca46ad7146" then
    beBytes 32 0xbc0a4db1f3bfe1151f059ff616acfb97c97832882ede279f7293d2924cd80727
  else if text = encodeUtf8 "1f9840a85d5af5bf1d1762f925bdaddc4201f984" then
    beBytes 32 0xb5e4072954d1ca17bc6500b174c99b4847ae85835a11523527a2496af5eed66c
  else if text = encodeUtf8 "000000000000000000000000000000000000dead" then
    beBytes 32 0xf43b4f03ad75b4c252c46f9d617fccf000d7382956d180916e8a2f448790b99f
  else List.replicate 32 0

def usdtLib : ChecksumLib where
  keccak256 := usdtDigest
  b58checkOk _ _ := false

theorem usdtLib_length (b : Bytes) : (usdtLib.keccak256 b).length = 32 := by
  show (usdtDigest b).length = 32
  rw [usdtDigest]
  split_ifs
  · exact beBytes_length 32 _
  · exact beBytes_length 32 _
  · exact beBytes_length 32 _
  · exact beBytes_length 32 _
  · exact List.length_replicate

theorem usdtLib_checksums : checksummed usdtLib usdtToken = .ok usdtToken
    ∧ checksummed usdtLib usdtRouter = .ok usdtRouter
    ∧ checksummed usdtLib usdtDeposit.vault = .ok usdtDeposit.vault := by
  decide +kernel

def usdtGas : Gas where
  nonce := 7
  maxFeePerGas := 10
  maxPriorityFeePerGas := 1

def usdtBuilt : Except PyError EthTokenBuiltSwap :=
  buildTokenDeposit usdtAbi usdtLib 1 usdtToken usdtRouter usdtDeposit.vault 1000000
    usdtDeposit.memo 900 usdtGas

/-- The deposit can be built. -/
theorem usdtBuilt_isOk : ∃ built, usdtBuilt = .ok built := by
  obtain ⟨htoken, hrouter, hvault⟩ := usdtLib_checksums
  have happrove : encodeApprove usdtAbi.toEthAbi usdtRouter 1000000
      = .ok ("0x" ++ approveSelector ++ hex usdtApproveArgs) := by
    have hargs := only_self (usdtRouter, (1000000 : ℤ)) usdtApproveArgs
    rw [encodeApprove]
    simp only [usdtAbi, hargs]
  have hdeposit : encodeDeposit usdtAbi usdtDeposit
      = .ok ("0x" ++ depositSelector ++ hex usdtDepositArgs) := by
    have hargs := only_self usdtDeposit usdtDepositArgs
    rw [encodeDeposit]
    simp only [usdtAbi, hargs]
  rw [usdtBuilt, buildTokenDeposit, htoken, ok_bind, hrouter, ok_bind, hvault, ok_bind, happrove,
    ok_bind]
  show ∃ built, (encodeDeposit usdtAbi usdtDeposit >>= _) = .ok built
  rw [hdeposit]
  exact ⟨_, rfl⟩

/-- From a fresh account the deposit is funded. -/
theorem tokenSpends_funds_usdt :
    let _ : PyUnicode := asciiUnicode
    ∃ built, usdtBuilt = .ok built
      ∧ Funds built.token (runTxs usdtAbi built.token (fun _ => 0) (inNonceOrder built.txs)) := by
  let _ : PyUnicode := asciiUnicode
  intro _
  obtain ⟨built, hbuilt⟩ := usdtBuilt_isOk
  refine ⟨built, hbuilt, ?_⟩
  exact ((tokenSpends_funds_iff usdtAbi_encodesBack usdtLib fun _ => 0).1 1 usdtToken usdtRouter
    usdtDeposit.vault 1000000 usdtDeposit.memo 900 usdtGas built hbuilt).mpr (Or.inl rfl)

/-- Over one unit of allowance left by an earlier run it is not. -/
theorem tokenSpends_leftover :
    let _ : PyUnicode := asciiUnicode
    ∃ built, usdtBuilt = .ok built
      ∧ ¬ Funds built.token (runTxs usdtAbi built.token (fun _ => 1) (inNonceOrder built.txs)) := by
  let _ : PyUnicode := asciiUnicode
  intro _
  obtain ⟨built, hbuilt⟩ := usdtBuilt_isOk
  have hdeposit : buildTokenDeposit usdtAbi usdtLib 1 usdtToken usdtRouter usdtDeposit.vault
      1000000 usdtDeposit.memo 900 usdtGas = .ok built := hbuilt
  have hiff := buildTokenDeposit_funds usdtAbi_encodesBack (fun _ => 1) hdeposit
  refine ⟨built, hbuilt, fun hfunds => ?_⟩
  rcases hiff.mp hfunds with hzero | hzero
  · cases hzero
  · cases hzero

end SwapsackAllowance
