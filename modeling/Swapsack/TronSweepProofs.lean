import Swapsack.EvmLiquidityProofs

/-! # Sweeping a Tron account

    A token goes to the vault itself, as a transfer that carries the memo, and an
    amount its own unit cannot say is refused rather than rounded.  Everything there
    is of TRX cannot be asked for.

    * `toTokenNative_sweep` — a sweep converts back to the balance, or is refused;
    * `swapFromTron_token`, `sendTron_token` — a token sweep transfers the balance. -/

namespace SwapsackTronSweep

open ListKit ByteString PyText HexText SwapsackBase SwapsackVerify SwapsackSweep Rescaling
open SwapsackBackends SwapsackEvm SwapsackPrepare SwapsackEvmSweep
open SwapsackAddresses (ChecksumLib)
open SwapsackCosmosTx (assetChain)
open SwapsackAllowance (TokenAbi)

/-! ## The adapter -/

/-- 1e-8 units in a sun. -/
def thorchainUnitsPerSun : ℤ := 100

/-- The contract and decimals of each token that can be spent; an asset's text has
    lost the case of its contract. -/
def tronTokens : List (String × String × ℕ) :=
  [("TRON.USDT-TR7NHQJEKQXGTCI8Q8ZY4PL8OTSZGJLJ6T", "TR7NHqjeKQxGTCi8q8ZY4pL8otSzgjLj6t", 6)]

/-- What is read of a transaction the Tron library has built; the address is the one
    paid, or the contract. -/
structure TronTx where
  contractType : String
  address : String
  amount : ℤ
  memo : String
  callData : String

/-- The Tron library: it builds a payment of sun, or a token's `transfer`, and
    decodes the arguments of one. -/
structure TronLib where
  transfer : String → ℤ → String → Except PyError TronTx
  trc20Transfer : String → String → ℤ → String → Except PyError TronTx
  decodeTransferArgs : Bytes → Option (String × ℤ)

/-- The adapter, for the key that derives `address`. -/
structure TronAdapter where
  lib : TronLib
  tokens : List (String × String × ℕ) := tronTokens
  address : String
  tokenBalance : String → String → Except PyError ℕ

structure BuiltTronTx where
  contractType : String
  toAddress : String
  amountSun : ℤ
  memo : String
  callData : String := ""

/-- Sun of 1e-8 units. -/
def toSun (amount : ℤ) : Except PyError ℤ :=
  if amount % thorchainUnitsPerSun = 0 then .ok (amount / thorchainUnitsPerSun)
  else .error (.valueError <|
    s!"amount {amount} (1e8 units) is not a whole number of sun; TRX precision is 1e6")

def TronAdapter.tokenContractAndDecimals (ad : TronAdapter) (fromAsset : String) :
    Except PyError (String × ℕ) :=
  match ad.tokens.lookup fromAsset with
  | some entry => .ok entry
  | none => .error (.valueError s!"{fromAsset} is not a supported TRON token source")

/-- A token's own units of 1e-8 units. -/
def toTokenNative (amount : ℤ) (decimals : ℕ) : Except PyError ℤ :=
  if 8 < decimals then
    .error (.valueError s!"token with {decimals} decimals (> 8) not supported")
  else if amount % 10 ^ (8 - decimals) = 0 then .ok (amount / 10 ^ (8 - decimals))
  else .error (.valueError <|
    s!"amount {amount} (1e8 units) is not a whole number of " ++
    s!"the token's {decimals}-decimal base unit")

def trc20TransferSelector : String := "a9059cbb"

/-- The recipient and the amount of a `transfer`. -/
def decodeTrc20Transfer (lib : TronLib) (callData : String) : Except PyError (String × ℤ) :=
  match fromHex (removePrefix callData "0x") with
  | none => .error (.valueError "non-hexadecimal number found in fromhex() arg")
  | some raw =>
      let selector := hex (raw.take 4)
      if selector ≠ trc20TransferSelector then
        .error (.valueError s!"selector {selector} != transfer {trc20TransferSelector}")
      else orLibrary (lib.decodeTransferArgs (raw.drop 4))

def buildUnsignedTransfer (lib : TronLib) (toAddress : String) (amountSun : ℤ) (memo : String) :
    Except PyError BuiltTronTx := do
  let tx ← lib.transfer toAddress amountSun memo
  .ok
    { contractType := tx.contractType, toAddress := tx.address, amountSun := tx.amount
      memo := tx.memo }

def buildUnsignedTrc20Transfer (lib : TronLib) (token toAddress : String) (amount : ℤ)
    (memo : String) : Except PyError BuiltTronTx := do
  let tx ← lib.trc20Transfer token toAddress amount memo
  .ok
    { contractType := tx.contractType, toAddress := tx.address, amountSun := 0, memo := tx.memo
      callData := tx.callData }

section Tron

variable [PyUnicode]

/-! ## Gates -/

/-- Reasons a plain send of TRX does not match what is meant. -/
def verifyTronSend (built : BuiltTronTx) (recipient : String) (amountSun : ℤ) : List String :=
  let kind := PyUnicode.repr built.contractType
  complain (built.contractType != "TransferContract")
      s!"contract type {kind} != 'TransferContract'"
    ++ complain (built.toAddress != recipient)
        s!"tx pays {built.toAddress} != recipient {recipient}"
    ++ complain (built.amountSun != amountSun)
        s!"tx amount {built.amountSun} sun != intended {amountSun}"
    ++ complain (built.memo != "")
        ("plain send must carry no memo, got " ++ PyUnicode.repr built.memo)

omit [PyUnicode] in
/-- The intent of a token transfer, to a vault or to somebody. -/
structure TronTokenPlan where
  payee : String
  token : String
  amount : ℤ

/-- The checks that a deposit and a send have in common; `what` and `role` are their
    words for it. -/
def transferProblems (built : BuiltTronTx) (paid : String × ℤ) (plan : TronTokenPlan)
    (what role : String) : List String :=
  let kind := PyUnicode.repr built.contractType
  complain (built.contractType != "TriggerSmartContract")
      s!"contract type {kind} != 'TriggerSmartContract'"
    ++ complain (built.toAddress != plan.token)
        s!"tx triggers {built.toAddress} != token contract {plan.token}"
    ++ complain (paid.1 != plan.payee) s!"transfer pays {paid.1} != {role} {plan.payee}"
    ++ complain (paid.2 != plan.amount)
        s!"transfer amount {paid.2} != intended {plan.amount}"
    ++ complain (built.amountSun != 0)
        s!"token {what} must not send TRX value (got {built.amountSun} sun)"

/-- Reasons a token deposit does not match its plan. -/
def verifyTronTokenSwap (built : BuiltTronTx) (paid : String × ℤ) (plan : TronTokenPlan)
    (memo : String) (expiry : ℤ) (destination : String) (now : ℤ) : List String :=
  let found := PyUnicode.repr built.memo
  let quoted := PyUnicode.repr memo
  complain (decide (expiry ≤ now)) s!"quote expired (now {now} >= expiry {expiry})"
    ++ transferProblems built paid plan "deposit" "vault"
    ++ complain (built.memo != memo) s!"tx memo {found} != intended {quoted}"
    ++ complain (!memoPaysDestination destination (.text memo))
        s!"quoted memo {quoted} does not pay destination {destination}"

/-- Reasons a token send does not match its plan. -/
def verifyTronTokenSend (built : BuiltTronTx) (paid : String × ℤ) (plan : TronTokenPlan) :
    List String :=
  transferProblems built paid plan "send" "recipient"
    ++ complain (built.memo != "")
        ("plain send must carry no memo, got " ++ PyUnicode.repr built.memo)

/-! ## Build, then gate -/

structure TronPrepared where
  built : BuiltTronTx
  problems : List GateProblem

/-- A token deposit: a transfer to the vault, with the memo beside it. -/
def buildAndVerifyToken (ad : TronAdapter) (quote : Quote) (request : SwapRequest) (now : ℤ) :
    Except PyError TronPrepared := do
  let (token, decimals) ← ad.tokenContractAndDecimals request.fromAsset
  let native ← toTokenNative request.amount decimals
  let memo := orText quote.memo ""
  let built ← buildUnsignedTrc20Transfer ad.lib token quote.inboundAddress native memo
  let paid ← decodeTrc20Transfer ad.lib built.callData
  let problems := verifyTronTokenSwap built paid
    { payee := quote.inboundAddress, token, amount := native } memo quote.expiry
    request.destination now
  .ok { built, problems := problems.map .text }

/-- A payment of TRX with a memo, swap or deposit. -/
def buildAndVerifyTransfer (ad : TronAdapter) (toAddress : String) (amountSun : ℤ)
    (memo : String) (expiry : ℤ) (destination : String) (now : ℤ) :
    Except PyError TronPrepared := do
  let built ← buildUnsignedTransfer ad.lib toAddress amountSun memo
  let problems := verifyTronSwap built.contractType built.toAddress built.amountSun built.memo
    { inboundAddress := toAddress, amountSun, memo, expiry, destination } now
  .ok { built, problems := problems.map .swap }

def buildAndVerifyTron (ad : TronAdapter) (quote : Quote) (request : SwapRequest) (now : ℤ) :
    Except PyError TronPrepared :=
  if isToken request.fromAsset then buildAndVerifyToken ad quote request now
  else do
    let amountSun ← toSun request.amount
    buildAndVerifyTransfer ad quote.inboundAddress amountSun (orText quote.memo "") quote.expiry
      request.destination now

def buildAndVerifyTronDeposit (ad : TronAdapter) (vault memo : String) (amount now : ℤ) :
    Except PyError TronPrepared := do
  let amountSun ← toSun amount
  buildAndVerifyTransfer ad vault amountSun memo (now + 3600) "" now

def buildAndVerifyTronSend (ad : TronAdapter) (recipient : String) (amount : ℤ)
    (asset : String) : Except PyError TronPrepared :=
  if isToken asset then do
    let (token, decimals) ← ad.tokenContractAndDecimals asset
    let native ← toTokenNative amount decimals
    let built ← buildUnsignedTrc20Transfer ad.lib token recipient native ""
    let paid ← decodeTrc20Transfer ad.lib built.callData
    let problems := verifyTronTokenSend built paid { payee := recipient, token, amount := native }
    .ok { built, problems := problems.map .text }
  else do
    let amountSun ← toSun amount
    let built ← buildUnsignedTransfer ad.lib recipient amountSun ""
    .ok { built, problems := (verifyTronSend built recipient amountSun).map .text }

/-! ## The commands -/

omit [PyUnicode] in
/-- Everything there is of a token; of TRX, that is not known before the fee is. -/
def resolveTron (ad : TronAdapter) (asset refusal : String) : Amount → Except Stop ℤ
  | .units n => .ok n
  | .max =>
      if isToken asset then do
        let (contract, decimals) ← orRaised (ad.tokenContractAndDecimals asset)
        orInsufficient do
          let balance ← ad.tokenBalance contract ad.address
          tokenSweepAmount balance decimals
      else .error (.misuse refusal)

omit [PyUnicode] in
/-- `except ValueError`, beside what has been caught. -/
def orInvalid {α : Type} : Except Stop α → Except Stop α
  | .error (.raised (.valueError text)) => .error (.aborted text)
  | x => x

def swapFromTron (ad : TronAdapter) (venues : Venues) (args : SwapArgs) :
    Except Stop TronPrepared := do
  let amount ← resolveTron ad args.fromAsset "--amount max is not supported for native TRX yet"
    args.amount
  let request := args.request amount
  orInvalid do
    let backend ← orAborted (selectBackend venues.clients args.backend
      (request.quoteRequest args.terms) memoDepositOnly)
    match backend.client with
    | none => .error (.raised .attributeError)
    | some client =>
        prepareSwap client "TRON" none request args.terms fun quote =>
          orRaised (buildAndVerifyTron ad quote request venues.now)

def sendTron (ad : TronAdapter) (asset : String) (amount : Amount) (recipient : String) :
    Except Stop TronPrepared := do
  let amount ← resolveTron ad asset "--amount max is not supported for native TRX send" amount
  orInvalid (orRaised (buildAndVerifyTronSend ad recipient amount asset))

/-- An add to a pool, or the deposit that triggers a withdrawal from one. -/
def liquidityTron (ad : TronAdapter) (client : ThorchainClient) (memo : String)
    (amount : Option Amount) (now : ℤ) : Except Stop TronPrepared :=
  match amount with
  | some .max => .error (.misuse "--amount max is not supported for TRON liquidity yet")
  | some (.units n) => deposit (some n)
  | none => deposit none
where
  deposit (amount : Option ℤ) : Except Stop TronPrepared :=
    orInvalid (prepareLiquidity client "TRON" memo amount fun vault deposited =>
      orRaised (buildAndVerifyTronDeposit ad vault memo deposited now))

/-! ## A token sweep -/

omit [PyUnicode] in
theorem orInvalid_eq_ok {α : Type} {x : Except Stop α} {a : α} (h : orInvalid x = .ok a) :
    x = .ok a := by
  cases x with
  | ok found =>
      cases h
      rfl
  | error stop =>
      rw [orInvalid] at h
      · cases h
      all_goals
        rintro text ⟨⟩
        cases h

omit [PyUnicode] in
/-- **Converted back, a sweep is the balance**; a token of more decimals than 1e-8
    units is refused. -/
theorem toTokenNative_sweep {balance native : ℤ} {decimals : ℕ}
    (h : toTokenNative (rescale (10 ^ decimals) (10 ^ 8) balance) decimals = .ok native) :
    decimals ≤ 8 ∧ native = balance := by
  rw [toTokenNative] at h
  split at h
  · cases h
  · rename_i hfew
    have hle : decimals ≤ 8 := not_lt.mp hfew
    have hexact : rescale (10 ^ decimals) (10 ^ 8) balance = balance * 10 ^ (8 - decimals) := by
      have hpow : (10 : ℤ) ^ 8 = 10 ^ (8 - decimals) * 10 ^ decimals := by
        rw [← pow_add, Nat.sub_add_cancel hle]
      rw [rescale, hpow, ← Int.mul_assoc]
      exact Int.mul_ediv_cancel _ (by positivity)
    split at h
    · cases h
      rw [hexact]
      exact ⟨hle, Int.mul_ediv_cancel _ (by positivity)⟩
    · cases h

omit [PyUnicode] in
/-- The calldata is that of a transfer of `n` of the token's own units. -/
def Transfers (lib : TronLib) (built : BuiltTronTx) (n : ℤ) : Prop :=
  ∃ token payee memo tx, lib.trc20Transfer token payee n memo = .ok tx
    ∧ built.callData = tx.callData

omit [PyUnicode] in
theorem buildUnsignedTrc20Transfer_ok {lib : TronLib} {token toAddress memo : String} {n : ℤ}
    {built : BuiltTronTx}
    (h : buildUnsignedTrc20Transfer lib token toAddress n memo = .ok built) :
    Transfers lib built n := by
  obtain ⟨tx, htx, h⟩ := bind_eq_ok h
  cases h
  exact ⟨token, toAddress, memo, tx, htx, rfl⟩

omit [PyUnicode] in
/-- What a token sweep transfers: the balance, of a token whose own unit is whole 1e-8
    units. -/
def SweepsTrc20 (ad : TronAdapter) (asset : String) (built : BuiltTronTx) : Prop :=
  ∃ contract decimals balance,
    ad.tokenContractAndDecimals asset = .ok (contract, decimals) ∧ decimals ≤ 8
    ∧ ad.tokenBalance contract ad.address = .ok balance ∧ Transfers ad.lib built balance

omit [PyUnicode] in
/-- **The amount of a sweep**: a token's, and a transfer of it is one of the balance. -/
theorem resolveTron_max {ad : TronAdapter} {asset refusal : String} {amount : ℤ}
    (h : resolveTron ad asset refusal .max = .ok amount) :
    isToken asset = true ∧ ∃ contract decimals,
      ad.tokenContractAndDecimals asset = .ok (contract, decimals)
      ∧ ∀ native built, toTokenNative amount decimals = .ok native →
          Transfers ad.lib built native → SweepsTrc20 ad asset built := by
  rw [resolveTron] at h
  split at h
  · rename_i htoken
    obtain ⟨⟨contract, decimals⟩, hlisted, h⟩ := bind_eq_ok h
    obtain ⟨balance, hbalance, h⟩ := bind_eq_ok (orInsufficient_eq_ok h)
    refine ⟨htoken, contract, decimals, orRaised_eq_ok hlisted, ?_⟩
    intro native built hnative htransfers
    obtain ⟨hamount, -⟩ := tokenSweepAmount_spec h
    rw [hamount] at hnative
    obtain ⟨hfew, rfl⟩ := toTokenNative_sweep hnative
    exact ⟨contract, decimals, balance, orRaised_eq_ok hlisted, hfew, hbalance, htransfers⟩
  · cases h

/-- A token deposit is a transfer of the amount in the token's own units. -/
theorem buildAndVerifyTron_token {ad : TronAdapter} {quote : Quote} {request : SwapRequest}
    {now : ℤ} {prepared : TronPrepared} {contract : String} {decimals : ℕ}
    (h : buildAndVerifyTron ad quote request now = .ok prepared)
    (htoken : isToken request.fromAsset = true)
    (hlisted : ad.tokenContractAndDecimals request.fromAsset = .ok (contract, decimals)) :
    ∃ native, toTokenNative request.amount decimals = .ok native
      ∧ Transfers ad.lib prepared.built native := by
  rw [buildAndVerifyTron, if_pos htoken, buildAndVerifyToken, hlisted, ok_bind] at h
  obtain ⟨native, hnative, h⟩ := bind_eq_ok h
  obtain ⟨built, hbuilt, h⟩ := bind_eq_ok h
  obtain ⟨paid, -, h⟩ := bind_eq_ok h
  cases h
  exact ⟨native, hnative, buildUnsignedTrc20Transfer_ok hbuilt⟩

/-- So is a token send. -/
theorem buildAndVerifyTronSend_token {ad : TronAdapter} {recipient asset : String}
    {amount : ℤ} {prepared : TronPrepared} {contract : String} {decimals : ℕ}
    (h : buildAndVerifyTronSend ad recipient amount asset = .ok prepared)
    (htoken : isToken asset = true)
    (hlisted : ad.tokenContractAndDecimals asset = .ok (contract, decimals)) :
    ∃ native, toTokenNative amount decimals = .ok native
      ∧ Transfers ad.lib prepared.built native := by
  rw [buildAndVerifyTronSend, if_pos htoken, hlisted, ok_bind] at h
  obtain ⟨native, hnative, h⟩ := bind_eq_ok h
  obtain ⟨built, hbuilt, h⟩ := bind_eq_ok h
  obtain ⟨paid, -, h⟩ := bind_eq_ok h
  cases h
  exact ⟨native, hnative, buildUnsignedTrc20Transfer_ok hbuilt⟩

/-- **A token sweep transfers the balance**; there is no other sweep. -/
theorem swapFromTron_token {ad : TronAdapter} {venues : Venues} {args : SwapArgs}
    {prepared : TronPrepared} (h : swapFromTron ad venues args = .ok prepared)
    (hmax : args.amount = .max) :
    isToken args.fromAsset = true ∧ SweepsTrc20 ad args.fromAsset prepared.built := by
  rw [swapFromTron, hmax] at h
  obtain ⟨amount, hamount, h⟩ := bind_eq_ok h
  obtain ⟨htoken, contract, decimals, hlisted, hsweeps⟩ := resolveTron_max hamount
  obtain ⟨backend, -, h⟩ := bind_eq_ok (orInvalid_eq_ok h)
  split at h
  · cases h
  · obtain ⟨quote, -, h⟩ := prepareSwap_ok h
    obtain ⟨native, hnative, htransfers⟩ :=
      buildAndVerifyTron_token (orRaised_eq_ok h) htoken hlisted
    exact ⟨htoken, hsweeps native _ hnative htransfers⟩

/-- **So does a plain send.** -/
theorem sendTron_token {ad : TronAdapter} {asset recipient : String} {prepared : TronPrepared}
    (h : sendTron ad asset .max recipient = .ok prepared) :
    isToken asset = true ∧ SweepsTrc20 ad asset prepared.built := by
  rw [sendTron] at h
  obtain ⟨amount, hamount, h⟩ := bind_eq_ok h
  obtain ⟨htoken, contract, decimals, hlisted, hsweeps⟩ := resolveTron_max hamount
  obtain ⟨native, hnative, htransfers⟩ :=
    buildAndVerifyTronSend_token (orRaised_eq_ok (orInvalid_eq_ok h)) htoken hlisted
  exact ⟨htoken, hsweeps native _ hnative htransfers⟩

end Tron

end SwapsackTronSweep
