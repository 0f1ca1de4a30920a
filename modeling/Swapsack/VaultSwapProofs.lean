import Swapsack.VerifyProofs

/-! # The Bitcoin vault-swap gate

    A Chainflip vault swap from Bitcoin is a payment to a protocol vault with
    the swap's parameters in 48 bytes of OP_RETURN.  The encoder of those bytes
    is not trusted: the gate decodes them itself.

    * `decodeVaultSwapPayload_injective` — the decoder loses no byte;
    * `verifyChainflipVaultSwap_eq_nil` — what an empty list says;
    * `vaultPayload_agree_iff` — two payloads that pass under one intent agree,
      up to the floor, exactly when they agree on the fields the gate leaves
      open: retry duration, oracle slippage and DCA interval;
    * `vaultPayload_retry_left_open` — two passing payloads that do not. -/

namespace SwapsackVaultSwap

open ListKit ByteString PyText SwapsackBase SwapsackVerify

/-! ## The payload -/

def vaultSwapPayloadBytes : ℕ := 48
def vaultSwapVersion : ℕ := 1

/-- A Chainflip vault-swap payload, decoded from its bytes alone. -/
structure DecodedVaultSwap where
  version : ℕ
  assetId : ℕ
  destination : Bytes
  retryDuration : ℕ
  minOutputAmount : ℕ
  oracleSlippage : ℕ
  dcaChunks : ℕ
  dcaInterval : ℕ
  boostFee : ℕ
  brokerFee : ℕ
  affiliates : ℕ
deriving DecidableEq

/-- Decode a 48-byte payload; its length is all that is checked. -/
def decodeVaultSwapPayload (payload : Bytes) : Option DecodedVaultSwap :=
  if payload.length ≠ vaultSwapPayloadBytes then none
  else some {
    version := byteAt payload 0
    assetId := byteAt payload 1
    destination := slice payload 2 20
    retryDuration := leNat (slice payload 22 2)
    minOutputAmount := leNat (slice payload 24 16)
    oracleSlippage := byteAt payload 40
    dcaChunks := leNat (slice payload 41 2)
    dcaInterval := leNat (slice payload 43 2)
    boostFee := byteAt payload 45
    brokerFee := byteAt payload 46
    affiliates := byteAt payload 47 }

theorem decodeVaultSwapPayload_length {payload : Bytes} {decoded : DecodedVaultSwap}
    (h : decodeVaultSwapPayload payload = some decoded) : payload.length = 48 := by
  rw [decodeVaultSwapPayload] at h
  by_cases hlen : payload.length ≠ vaultSwapPayloadBytes
  · rw [if_pos hlen] at h
    cases h
  · exact not_not.mp hlen

/-- The fields cover the payload. -/
theorem payload_layout {payload : Bytes} (h : payload.length = 48) :
    payload = slice payload 0 1 ++ slice payload 1 1 ++ slice payload 2 20
      ++ slice payload 22 2 ++ slice payload 24 16 ++ slice payload 40 1
      ++ slice payload 41 2 ++ slice payload 43 2 ++ slice payload 45 1
      ++ slice payload 46 1 ++ slice payload 47 1 := by
  have hwidths := slice_zero h
  rw [show 48 = 1 + 1 + 20 + 2 + 16 + 1 + 2 + 2 + 1 + 1 + 1 from rfl] at hwidths
  iterate 10 rw [slice_add] at hwidths
  exact hwidths.symm

/-- **No byte is lost**: payloads that decode alike are the same. -/
theorem decodeVaultSwapPayload_injective {p q : Bytes} (hp : p.length = 48)
    (hq : q.length = 48) (h : decodeVaultSwapPayload p = decodeVaultSwapPayload q) :
    p = q := by
  have field : ∀ {i n : ℕ}, i + n ≤ 48 → leNat (slice p i n) = leNat (slice q i n) →
      slice p i n = slice q i n := by
    intro i n hin heq
    exact slice_eq_of_leNat (by rw [hp]; exact hin) (by rw [hq]; exact hin) heq
  rw [decodeVaultSwapPayload, decodeVaultSwapPayload, if_neg (by rw [hp]; decide),
    if_neg (by rw [hq]; decide)] at h
  have hfields := Option.some.inj h
  rw [DecodedVaultSwap.mk.injEq] at hfields
  obtain ⟨h0, h1, h2, h22, h24, h40, h41, h43, h45, h46, h47⟩ := hfields
  rw [payload_layout hp, payload_layout hq, field (by omega) h0, field (by omega) h1, h2,
    field (by omega) h22, field (by omega) h24, field (by omega) h40,
    field (by omega) h41, field (by omega) h43, field (by omega) h45,
    field (by omega) h46, field (by omega) h47]

/-! ## The gate -/

/-- What we intend a Chainflip vault swap to do.  `knownVaults` is the list the
    protocol publishes. -/
structure ChainflipVaultPlan where
  depositAddress : String
  amount : ℤ
  payload : Bytes
  expiry : ℤ
  destinationAssetId : ℕ
  destinationBytes : Bytes
  minOutputAmount : ℤ
  knownVaults : List String

/-- What the gate can complain about, beyond the UTXO layer's own problems. -/
inductive VaultProblem where
  | utxo (problem : Problem)
  | unknownVault (address : String)
  | noChange
  | dustChange (address : Option String) (value : ℤ)
  | payloadBytes (found : ℕ)
  | payloadVersion (found : ℕ)
  | outputAsset (found intended : ℕ)
  | destination (found intended : Bytes)
  | minOutput (found : ℕ) (floor : ℤ)
  | brokerFee (bps : ℕ)
  | boostFee (bps : ℕ)
  | affiliates (entries : ℕ)
  | dcaChunks (chunks : ℕ)
deriving DecidableEq

def VaultProblem.text (repr : Memo → String) : VaultProblem → String
  | .utxo problem => problem.text repr
  | .unknownVault address =>
      s!"deposit address {address} is not one of the protocol vaults published on-chain"
  | .noChange =>
      "no change output: a vault swap refunds to its change address, so a transaction "
        ++ "without one has nowhere to be refunded to"
  | .dustChange address value =>
      let shown := strOf address
      s!"change output {shown} is {value} sats, under the {SwapsackCoins.p2wpkh.dust}-sat "
        ++ "dust limit — the refund address must be spendable"
  | .payloadBytes found =>
      s!"vault swap payload is {found} bytes, expected {vaultSwapPayloadBytes}"
  | .payloadVersion found =>
      s!"vault swap payload version {found} != {vaultSwapVersion}; "
        ++ "refusing to guess its layout"
  | .outputAsset found intended => s!"payload pays output asset {found}, intended {intended}"
  | .destination found intended =>
      let shown := hex found
      let wanted := hex intended
      s!"payload pays destination {shown}, intended {wanted}"
  | .minOutput found floor => s!"payload min output {found} is below our floor {floor}"
  | .brokerFee bps => s!"payload carries a broker fee of {bps} bps"
  | .boostFee bps => s!"payload carries a boost fee of {bps} bps"
  | .affiliates entries =>
      s!"payload carries {entries} affiliate fee entries; expected none"
  | .dcaChunks chunks =>
      s!"payload splits the swap into {chunks} DCA chunks; one was intended"

/-- The outputs the swap would be refunded to. -/
def changeOutputs (outputs : List TxOutput) (depositAddress : String) : List TxOutput :=
  outputs.filter fun o => o.opReturnData.isNone && o.address != some depositAddress

/-- There is change, and it can be spent. -/
def refundProblems (outputs : List TxOutput) (depositAddress : String) :
    List VaultProblem :=
  let change := changeOutputs outputs depositAddress
  if change.isEmpty then [.noChange]
  else change.flatMap fun (o : TxOutput) =>
    onlyIf (decide (o.value < (SwapsackCoins.p2wpkh.dust : ℤ)))
      (.dustChange o.address o.value)

/-- The payload promises what we asked for. -/
def payloadProblems (plan : ChainflipVaultPlan) : List VaultProblem :=
  match decodeVaultSwapPayload plan.payload with
  | none => [.payloadBytes plan.payload.length]
  | some decoded =>
      onlyIf (decoded.version != vaultSwapVersion) (.payloadVersion decoded.version)
        ++ onlyIf (decoded.assetId != plan.destinationAssetId)
          (.outputAsset decoded.assetId plan.destinationAssetId)
        ++ onlyIf (decoded.destination != plan.destinationBytes)
          (.destination decoded.destination plan.destinationBytes)
        ++ onlyIf (decide ((decoded.minOutputAmount : ℤ) < plan.minOutputAmount))
          (.minOutput decoded.minOutputAmount plan.minOutputAmount)
        ++ onlyIf (decoded.brokerFee != 0) (.brokerFee decoded.brokerFee)
        ++ onlyIf (decoded.boostFee != 0) (.boostFee decoded.boostFee)
        ++ onlyIf (decoded.affiliates != 0) (.affiliates decoded.affiliates)
        ++ onlyIf (decoded.dcaChunks != 1) (.dcaChunks decoded.dcaChunks)

section Gate

variable [PyUnicode]

/-- Reasons the transaction is not the vault swap we intend; empty means safe. -/
def verifyChainflipVaultSwap (outputs : List TxOutput) (fee : ℤ)
    (plan : ChainflipVaultPlan) (ownedAddresses : List String) (now maxFee : ℤ) :
    List VaultProblem :=
  -- the destination is bound below, from the payload's own bytes
  let utxoPlan : SwapPlan := {
    inboundAddress := plan.depositAddress
    amount := plan.amount
    memo := .binary plan.payload
    expiry := plan.expiry
    destination := "" }
  (verifyBtcSwap outputs fee utxoPlan ownedAddresses now maxFee).map .utxo
    ++ onlyIf (!plan.knownVaults.contains plan.depositAddress)
      (.unknownVault plan.depositAddress)
    ++ refundProblems outputs plan.depositAddress
    ++ payloadProblems plan

omit [PyUnicode] in
/-- What a payload that passes says; three of its fields are not mentioned. -/
theorem payloadProblems_eq_nil {plan : ChainflipVaultPlan} :
    payloadProblems plan = []
      ↔ ∃ decoded, decodeVaultSwapPayload plan.payload = some decoded
        ∧ decoded.version = vaultSwapVersion
        ∧ decoded.assetId = plan.destinationAssetId
        ∧ decoded.destination = plan.destinationBytes
        ∧ plan.minOutputAmount ≤ decoded.minOutputAmount
        ∧ decoded.brokerFee = 0 ∧ decoded.boostFee = 0 ∧ decoded.affiliates = 0
        ∧ decoded.dcaChunks = 1 := by
  rw [payloadProblems]
  cases decodeVaultSwapPayload plan.payload with
  | none => simp
  | some decoded =>
      simp only [List.append_eq_nil_iff, onlyIf_eq_nil, bne_eq_false_iff_eq,
        decide_eq_false_iff_not, not_lt, and_assoc, Option.some.injEq,
        exists_eq_left']

/-- **What passes the vault gate**: the UTXO layer, a published vault, a change
    output to be refunded to, and a payload that promises what we asked for. -/
theorem verifyChainflipVaultSwap_eq_nil {outputs : List TxOutput} {fee : ℤ}
    {plan : ChainflipVaultPlan} {ownedAddresses : List String} {now maxFee : ℤ} :
    verifyChainflipVaultSwap outputs fee plan ownedAddresses now maxFee = []
      ↔ verifyBtcSwap outputs fee
          { inboundAddress := plan.depositAddress, amount := plan.amount
            memo := .binary plan.payload, expiry := plan.expiry, destination := "" }
          ownedAddresses now maxFee = []
        ∧ plan.depositAddress ∈ plan.knownVaults
        ∧ refundProblems outputs plan.depositAddress = []
        ∧ payloadProblems plan = [] := by
  rw [verifyChainflipVaultSwap]
  simp only [List.append_eq_nil_iff, List.map_eq_nil_iff, onlyIf_eq_nil,
    Bool.not_eq_false', List.contains_iff_mem, and_assoc]

/-! ## Two runs -/

/-- What the user asks for; everything else about a swap may differ. -/
structure VaultIntent where
  destinationAssetId : ℕ
  destinationBytes : Bytes
  minOutputAmount : ℤ

/-- Some plan with this intent and this payload passes the gate. -/
def Passes (intent : VaultIntent) (payload : Bytes) : Prop :=
  ∃ (outputs : List TxOutput) (fee : ℤ) (plan : ChainflipVaultPlan)
    (ownedAddresses : List String) (now maxFee : ℤ),
    plan.payload = payload
      ∧ plan.destinationAssetId = intent.destinationAssetId
      ∧ plan.destinationBytes = intent.destinationBytes
      ∧ plan.minOutputAmount = intent.minOutputAmount
      ∧ verifyChainflipVaultSwap outputs fee plan ownedAddresses now maxFee = []

/-- The payloads decode to the same fields, except for the minimum output, which
    keeps the floor in both. -/
def AgreeUpToFloor (intent : VaultIntent) (p q : Bytes) : Prop :=
  ∃ d e, decodeVaultSwapPayload p = some d ∧ decodeVaultSwapPayload q = some e
    ∧ { d with minOutputAmount := e.minOutputAmount } = e
    ∧ intent.minOutputAmount ≤ d.minOutputAmount
    ∧ intent.minOutputAmount ≤ e.minOutputAmount

/-- The bytes of the retry duration, the oracle slippage and the DCA interval. -/
def openBytes (payload : Bytes) : Bytes × Bytes × Bytes :=
  (slice payload 22 2, slice payload 40 1, slice payload 43 2)

/-- What a passing payload decodes to. -/
theorem Passes.decoded {intent : VaultIntent} {payload : Bytes}
    (h : Passes intent payload) :
    ∃ d, decodeVaultSwapPayload payload = some d ∧ d.version = vaultSwapVersion
      ∧ d.assetId = intent.destinationAssetId
      ∧ d.destination = intent.destinationBytes
      ∧ intent.minOutputAmount ≤ d.minOutputAmount
      ∧ d.brokerFee = 0 ∧ d.boostFee = 0 ∧ d.affiliates = 0 ∧ d.dcaChunks = 1 := by
  obtain ⟨outputs, fee, plan, owned, now, maxFee, rfl, hasset, hdest, hfloor, hpass⟩ := h
  obtain ⟨-, -, -, hpayload⟩ := verifyChainflipVaultSwap_eq_nil.mp hpass
  rw [← hasset, ← hdest, ← hfloor]
  exact payloadProblems_eq_nil.mp hpayload

omit [PyUnicode] in
/-- The three fields the gate leaves open, in terms of the bytes they stand in. -/
theorem openBytes_eq_iff {p q : Bytes} {d e : DecodedVaultSwap}
    (hd : decodeVaultSwapPayload p = some d) (he : decodeVaultSwapPayload q = some e) :
    openBytes p = openBytes q
      ↔ d.retryDuration = e.retryDuration ∧ d.oracleSlippage = e.oracleSlippage
        ∧ d.dcaInterval = e.dcaInterval := by
  have hp := decodeVaultSwapPayload_length hd
  have hq := decodeVaultSwapPayload_length he
  rw [decodeVaultSwapPayload, if_neg (by rw [hp]; decide)] at hd
  rw [decodeVaultSwapPayload, if_neg (by rw [hq]; decide)] at he
  cases hd
  cases he
  have field : ∀ {i n : ℕ}, i + n ≤ 48 →
      (slice p i n = slice q i n ↔ leNat (slice p i n) = leNat (slice q i n)) := by
    intro i n hin
    exact ⟨fun h => by rw [h],
      slice_eq_of_leNat (by rw [hp]; exact hin) (by rw [hq]; exact hin)⟩
  rw [openBytes, openBytes, Prod.mk.injEq, Prod.mk.injEq, field (by omega),
    field (by omega), field (by omega)]
  rfl

/-- **What the gate leaves to the broker.**  The decoder loses no byte of 48; and
    two payloads that pass under one intent agree, up to the floor, exactly when
    their retry duration, oracle slippage and DCA interval bytes are equal. -/
theorem vaultPayload_agree_iff (intent : VaultIntent) (p q : Bytes) :
    (p.length = vaultSwapPayloadBytes → q.length = vaultSwapPayloadBytes →
        decodeVaultSwapPayload p = decodeVaultSwapPayload q → p = q)
      ∧ (Passes intent p → Passes intent q →
        (AgreeUpToFloor intent p q ↔ openBytes p = openBytes q)) := by
  refine ⟨decodeVaultSwapPayload_injective, fun hp hq => ?_⟩
  obtain ⟨d, hd, hversion, hasset, hdest, hfloor, hbroker, hboost, haffiliates, hchunks⟩ :=
    hp.decoded
  obtain ⟨e, he, hversion', hasset', hdest', hfloor', hbroker', hboost', haffiliates',
    hchunks'⟩ := hq.decoded
  rw [openBytes_eq_iff hd he]
  constructor
  · rintro ⟨d', e', hd', he', hagree, -, -⟩
    rw [hd] at hd'
    rw [he] at he'
    cases hd'
    cases he'
    rw [← hagree]
    exact ⟨rfl, rfl, rfl⟩
  · rintro ⟨hretry, horacle, hinterval⟩
    refine ⟨d, e, hd, he, ?_, hfloor, hfloor'⟩
    obtain ⟨_, _, _, _, _, _, _, _, _, _, _⟩ := d
    obtain ⟨_, _, _, _, _, _, _, _, _, _, _⟩ := e
    simp_all only

end Gate

/-! ## Two encodings of one swap -/

def deadIntent : VaultIntent where
  destinationAssetId := 1
  destinationBytes := List.replicate 18 0 ++ [0xde, 0xad]
  minOutputAmount := 3000000000000000000

/-- A mainnet encoding of a swap to ETH at `0x…dead`, with the retry duration and
    the minimum output as parameters. -/
def deadPayload (retryDuration minOutput : ℕ) : Bytes :=
  [1, 1] ++ (List.replicate 18 0 ++ [0xde, 0xad]) ++ leBytes 2 retryDuration
    ++ leBytes 16 minOutput ++ [255, 1, 0, 2, 0, 0, 0, 0]

def deadPlan (retryDuration minOutput : ℕ) : ChainflipVaultPlan where
  depositAddress := "bc1pvault"
  amount := 100000
  payload := deadPayload retryDuration minOutput
  expiry := 600
  destinationAssetId := 1
  destinationBytes := List.replicate 18 0 ++ [0xde, 0xad]
  minOutputAmount := 3000000000000000000
  knownVaults := ["bc1pvault"]

def deadOutputs (retryDuration minOutput : ℕ) : List TxOutput :=
  [⟨some "bc1pvault", 100000, none⟩, ⟨none, 0, some (deadPayload retryDuration minOutput)⟩,
   ⟨some "bc1qme", 5000, none⟩]

/-- The minimum output the wallet asks for, in base units. -/
def deadFloor : ℕ := 3000000000000000000

/-- More than that. -/
def deadMore : ℕ := 3100000000000000000

/-- The retry duration the wallet asks for. -/
theorem deadPayload_passes_hundred : @Passes asciiUnicode deadIntent (deadPayload 100 deadFloor) :=
  ⟨deadOutputs 100 deadFloor, 300, deadPlan 100 deadFloor, ["bc1qme"], 0, 500, rfl, rfl, rfl, rfl,
    by decide +kernel⟩

/-- The same, with a higher minimum output. -/
theorem deadPayload_passes_more : @Passes asciiUnicode deadIntent (deadPayload 100 deadMore) :=
  ⟨deadOutputs 100 deadMore, 300, deadPlan 100 deadMore, ["bc1qme"], 0, 500, rfl, rfl, rfl, rfl,
    by decide +kernel⟩

/-- One that gives up at the first block below the floor. -/
theorem deadPayload_passes_zero : @Passes asciiUnicode deadIntent (deadPayload 0 deadFloor) :=
  ⟨deadOutputs 0 deadFloor, 300, deadPlan 0 deadFloor, ["bc1qme"], 0, 500, rfl, rfl, rfl, rfl,
    by decide +kernel⟩

/-- Two encodings that differ in their minimum output agree up to it. -/
theorem vaultPayload_agree_iff_dead :
    deadPayload 100 deadFloor ≠ deadPayload 100 deadMore
    ∧ AgreeUpToFloor deadIntent (deadPayload 100 deadFloor) (deadPayload 100 deadMore) :=
  ⟨by decide,
    ((@vaultPayload_agree_iff asciiUnicode deadIntent (deadPayload 100 deadFloor)
      (deadPayload 100 deadMore)).2 deadPayload_passes_hundred deadPayload_passes_more).mpr
      (by decide)⟩

/-- **The retry duration is the broker's**: the encoding the wallet asks for and
    one that refunds at the first block below the floor pass alike. -/
theorem vaultPayload_retry_left_open :
    ¬ ∀ (_ : PyUnicode) (intent : VaultIntent) (p q : Bytes),
      Passes intent p → Passes intent q → AgreeUpToFloor intent p q := by
  intro h
  obtain ⟨d, e, hd, he, hagree, -, -⟩ := h asciiUnicode deadIntent (deadPayload 100 deadFloor)
    (deadPayload 0 deadFloor) deadPayload_passes_hundred deadPayload_passes_zero
  have hretry : d.retryDuration = e.retryDuration := by rw [← hagree]
  have hne : leNat (slice (deadPayload 100 deadFloor) 22 2)
      ≠ leNat (slice (deadPayload 0 deadFloor) 22 2) := by
    decide
  have hlen : (deadPayload 100 deadFloor).length = 48 := by decide
  have hlen' : (deadPayload 0 deadFloor).length = 48 := by decide
  rw [decodeVaultSwapPayload, if_neg (by rw [hlen]; decide)] at hd
  rw [decodeVaultSwapPayload, if_neg (by rw [hlen']; decide)] at he
  cases hd
  cases he
  exact hne hretry

end SwapsackVaultSwap
