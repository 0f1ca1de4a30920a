import Swapsack.CoinsProofs
import Swapsack.PyJsonProofs

/-! # What the Dash explorers answer

    Insight and Blockbook bodies as the neutral models.  Both are read off JSON
    as it comes: a field the parser only passes on stays the value it is. -/

namespace SwapsackDashApi

open ListKit ByteString PyText PyJson SwapsackBase SwapsackCoins

/-! ## Models -/

structure AddressInfo where
  hasHistory : Bool
  confirmed : Json
  pending : Json

/-- One input or output; `null` is a value that was not reported. -/
structure TxEntry where
  value : ℤ
  address : Json := .null
  opReturn : Bool := false
  txid : Json := .null
  vout : Json := .null
  sequence : Json := .null
  opReturnData : Option Bytes := none
  spentBy : Json := .null

structure TxSummary where
  txid : Json
  confirmed : Bool
  blockHeight : Option ℤ
  blockTime : Json
  fee : ℤ
  vsize : ℤ
  inputs : List TxEntry
  outputs : List TxEntry

/-- Base units per DASH. -/
def duffsPerDash : ℕ := 100000000

/-! ## Reads -/

/-- A number in the default decimal context: to 28 significant digits, ties to even. -/
def inContext (q : ℚ) : ℚ :=
  let unit : ℚ := 10 ^ (Int.log 10 |q| - 27)
  BinaryFloat.roundHalfEven (q / unit) * unit

/-- Half away from zero. -/
def roundHalfUp (q : ℚ) : ℤ := if 0 ≤ q then ⌊q + 1 / 2⌋ else -⌊-q + 1 / 2⌋

section Reads

variable [PyUnicode]

/-- `d.get(k)`. -/
def field (d : Json) (k : String) : Except PyExc Json := d.getD k .null

/-- `int(d.get(k, 0) or 0)`. -/
def counted (d : Json) (k : String) : Except PyExc ℤ := do
  let x ← d.getField k
  (Json.orElse x (.int 0)).toIntWithin

/-- A DASH amount as whole duffs. -/
def duffs (value : Json) : Except PyExc ℤ :=
  if value.same .null || value.same (.str "") then .ok 0
  else
    match value.toDecimal with
    | some (.number q) => .ok (roundHalfUp (inContext (q * duffsPerDash)))
    | some .infinity => .error .overflowError
    | some (.nan false) => .error .valueError
    | some (.nan true) => .error .invalidOperation
    | none => .error .invalidOperation

/-- `decode_op_return(bytes.fromhex(x))`, or nothing where that is a
    `ValueError`. -/
def opReturnData (x : Json) : Except PyExc (Option Bytes) :=
  match x with
  | .str s => .ok ((fromHex s).bind fun script => (decodeOpReturn script).toOption)
  | _ => .error .typeError

/-- `xs[0] if xs and wanted else None`, where `xs` is a value or a default. -/
def firstIf (xs : Json) (wanted : Bool) : Except PyExc Json :=
  if xs.truthy && wanted then xs.first else .ok .null

/-- `height if confirmed and isinstance(height, int) and height >= 0 else None`. -/
def blockHeight (confirmed : Bool) (height : Json) : Option ℤ :=
  if confirmed then height.asInt.filter fun h => decide (0 ≤ h) else none

/-! ## Insight -/

/-- The larger of the two spellings of an appearance counter. -/
def appearances (stats : Json) (sic corrected : String) : Except PyExc ℤ := do
  let a ← counted stats sic
  let b ← counted stats corrected
  .ok (max a b)

def parseInsightAddr (stats : Json) : Except PyExc AddressInfo := do
  let seen ← appearances stats "txApperances" "txAppearances"
  let unconfirmed ← appearances stats "unconfirmedTxApperances" "unconfirmedTxAppearances"
  let received ← stats.getD "totalReceivedSat" (.int 0)
  let pending ← stats.getD "unconfirmedBalanceSat" (.int 0)
  let hasHistory ←
    if 0 < seen ∨ 0 < unconfirmed then .ok true
    else do
      let paid ← received.isPositive
      .ok (paid || !pending.same (.int 0))
  let confirmed ← stats.getD "balanceSat" (.int 0)
  .ok { hasHistory, confirmed, pending }

/-- An input of an Insight transaction. -/
def insightSpend (item : Json) : Except PyExc TxEntry := do
  let value ← field item "valueSat"
  let value ←
    match value with
    | .null => do duffs (← field item "value")
    | value => value.toIntWithin
  .ok
    { value
      address := ← field item "addr"
      txid := ← field item "txid"
      vout := ← field item "vout"
      sequence := ← field item "sequence" }

/-- An output of an Insight transaction. -/
def insightEntry (item : Json) : Except PyExc TxEntry := do
  let script := Json.orElse (← item.getField "scriptPubKey") (.obj [])
  let isData := (← field script "type").isText "nulldata"
  let hexScript ← if isData then field script "hex" else .ok .null
  let data ← if hexScript.truthy then opReturnData hexScript else .ok none
  let addresses := Json.orElse (← script.getField "addresses") (.arr [])
  .ok
    { value := ← duffs (← field item "value")
      address := ← firstIf addresses !isData
      opReturn := isData
      opReturnData := data
      spentBy := Json.orElse (← item.getField "spentTxId") .null }

/-- One item of an Insight `/txs` answer. -/
def parseInsightTx (payload : Json) : Except PyExc TxSummary := do
  let confirmed := decide (0 < (← counted payload "confirmations"))
  let height ← field payload "blockheight"
  .ok
    { txid := ← payload.getD "txid" (.str "")
      confirmed
      blockHeight := blockHeight confirmed height
      blockTime := ← if confirmed then field payload "blocktime" else .ok .null
      fee := ← duffs (← field payload "fees")
      vsize := ← counted payload "size"
      inputs := ← (← (← payload.getD "vin" (.arr [])).items).mapM insightSpend
      outputs := ← (← (← payload.getD "vout" (.arr [])).items).mapM insightEntry }

/-! ## Blockbook -/

def parseBlockbookAddr (stats : Json) : Except PyExc AddressInfo := do
  let confirmed ← counted stats "balance"
  let pending ← counted stats "unconfirmedBalance"
  let txs := (← counted stats "txs") + (← counted stats "unconfirmedTxs")
  let received ← counted stats "totalReceived"
  .ok
    { hasHistory := decide (0 < txs) || decide (0 < received) || decide (pending ≠ 0)
      confirmed := .int confirmed
      pending := .int pending }

/-- `addresses[0] if addresses and item.get("isAddress") else None`. -/
def blockbookAddress (item : Json) : Except PyExc Json := do
  let addresses := Json.orElse (← item.getField "addresses") (.arr [])
  firstIf addresses (← field item "isAddress").truthy

/-- An input of a Blockbook transaction; only a coinbase names no outpoint. -/
def blockbookSpend (item : Json) : Except PyExc TxEntry := do
  let prevout ← field item "txid"
  .ok
    { value := ← counted item "value"
      address := ← blockbookAddress item
      txid := prevout
      vout := ← if prevout.truthy then (counted item "vout").map Json.int else .ok .null
      sequence := ← field item "sequence" }

/-- An output of a Blockbook transaction. -/
def blockbookEntry (item : Json) : Except PyExc TxEntry := do
  let hexScript := Json.orElse (← item.getField "hex") (.str "")
  let isData ←
    match hexScript with
    | .str s => .ok (startsWith s "6a")
    | _ => .error .attributeError
  let data ← if isData then opReturnData hexScript else .ok none
  .ok
    { value := ← counted item "value"
      address := ← blockbookAddress item
      opReturn := isData
      opReturnData := data
      spentBy := Json.orElse (← item.getField "spentTxId") .null }

/-- One transaction of a Blockbook address. -/
def parseBlockbookTx (payload : Json) : Except PyExc TxSummary := do
  let confirmed := decide (0 < (← counted payload "confirmations"))
  let height ← field payload "blockHeight"
  .ok
    { txid := ← payload.getD "txid" (.str "")
      confirmed
      blockHeight := blockHeight confirmed height
      blockTime := ← if confirmed then field payload "blockTime" else .ok .null
      fee := ← counted payload "fees"
      vsize := ←
        (Json.orElse (← payload.getField "vsize")
          (Json.orElse (← payload.getField "size") (.int 0))).toIntWithin
      inputs := ← (← (← payload.getD "vin" (.arr [])).items).mapM blockbookSpend
      outputs := ← (← (← payload.getD "vout" (.arr [])).items).mapM blockbookEntry }

end Reads

end SwapsackDashApi
