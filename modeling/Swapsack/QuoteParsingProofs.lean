import Swapsack.PriceFloorProofs
import Swapsack.PyValueProofs

/-! # Parsing the quotes of Chainflip and CoW

    Both parsers read the fields of an untyped answer one after another, inside
    a `try` that turns `KeyError`, `TypeError` and `ValueError` into the error
    their callers expect.  A few reads raise something else, and CoW's look for
    an error body stands before the `try`.

    * `readOf_parseQuoteFields`, `readOf_parseCowQuoteFields` — the reads of
      either parser, by the kinds of the values that are read;
    * `parseQuotes_settle_iff` — when both end as their callers expect. -/

namespace SwapsackQuoteParsing

open BinaryFloat ListKit PyText PyJson Catching SwapsackChainflip

/-! ## What is parsed -/

def thorchainUnit : ℤ := 100000000

/-- The fees of a quote, in the destination asset. -/
structure SwapFees where
  asset : String
  outbound : ℤ
  affiliate : ℤ := 0
  liquidity : ℤ
  total : ℤ
  slippageBps : ℤ := 0
  totalBps : ℤ

/-- Chainflip's three legs beside them. -/
structure ChainflipFees extends SwapFees where
  ingress : ℤ
  network : ℤ
  egress : ℤ

/-- A parsed `/v2/quote` response. -/
structure ParsedQuote extends ChainflipQuote where
  expectedAmountOut : ℤ
  fees : ChainflipFees
  intermediateAmount : Option ℤ
  estimatedDurationSeconds : ℤ
  lowLiquidityWarning : Bool
  raw : Fields

/-- A parsed `/quote` response; texts are kept as they came. -/
structure ParsedCowQuote where
  sellToken : Json
  buyToken : Json
  receiver : Json
  sellAmount : ℤ
  feeAmount : ℤ
  buyAmount : ℤ
  validTo : ℤ
  quoteId : Json
  expiry : ℤ
  verified : Bool
  expectedAmountOut : ℤ
  fees : SwapFees
  raw : Json

/-- Why a Chainflip response is refused. -/
inductive QuoteError where
  | noQuote (payload : Json)
  | message (message : Json)
  | malformed (cause : PyExc)

/-- Why a CoW response is refused. -/
inductive CowError where
  | answered (errorType description : Json)
  | malformed (cause : PyExc)

/-- `str(x)`. -/
def valueStr (repr : Json → String) : Json → String
  | .str s => s
  | x => repr x

/-- The message of a refusal. -/
def QuoteError.text (repr : Json → String) (reprExc : PyExc → String) : QuoteError → String
  | .noQuote payload => "no quote in response: " ++ String.ofList ((repr payload).toList.take 120)
  | .message v => valueStr repr v
  | .malformed cause => "malformed quote response: " ++ reprExc cause

/-- `s.strip(": ")`. -/
def stripColons (s : String) : String :=
  let isColon (c : Char) : Bool := c == ':' || c == ' '
  String.ofList (((s.toList.dropWhile isColon).reverse.dropWhile isColon).reverse)

def CowError.text (repr : Json → String) (reprExc : PyExc → String) : CowError → String
  | .answered errorType description =>
      stripColons (valueStr repr errorType ++ ": " ++ valueStr repr description)
  | .malformed cause => "malformed quote response: " ++ reprExc cause

/-! ## Chainflip -/

/-- The decimals of each asset the wallet knows on Chainflip. -/
def chainflipDecimals : List (String × ℕ) :=
  [("BTC.BTC", 8),
   ("ETH.ETH", 18),
   ("ETH.USDC-0XA0B86991C6218B36C1D19D4A2E9EB0CE3606EB48", 6),
   ("ETH.USDT-0XDAC17F958D2EE523A2206206994597C13D831EC7", 6),
   ("ARB.ETH", 18),
   ("ARB.USDC-0XAF88D065E77C8CC2239327C5EDB3A432268E5831", 6),
   ("TRON.TRX", 6),
   ("TRON.USDT-TR7NHQJEKQXGTCI8Q8ZY4PL8OTSZGJLJ6T", 6)]

/-- `TABLE[key]`. -/
def tableItem {ν : Type} (table : List (String × ν)) (key : String) : Except PyExc ν :=
  orKeyError (table.lookup key)

/-- A regular route. -/
def regular : Json → Option Fields
  | .obj fields => if (getKey fields "type").any (·.isText "REGULAR") then some fields else none
  | _ => none

/-- `select_quote`. -/
def selectQuote (payload : Json) : Except QuoteError Fields :=
  match payload with
  | .obj fields => .ok fields
  | .arr (first :: rest) =>
      match (first :: rest).findSome? regular, first with
      | some quote, _ => .ok quote
      | none, .obj fields => .ok fields
      | none, _ => .error (.noQuote payload)
  | _ => .error (.noQuote payload)

/-- The message of an error body. -/
def errorMessage (quote : Fields) : Option Json :=
  if (getKey quote "egressAmount").isSome then none else getKey quote "message"

section Chainflip

variable [PyUnicode] (repr : Json → String)

/-- `int(d[k])`. -/
def itemInt (fields : Fields) (k : String) : Except PyExc ℤ := item fields k >>= Json.toIntWithin

/-- `int(x) if x is not None else None`. -/
def optionalInt : Option Json → Except PyExc (Option ℤ)
  | none | some .null => .ok none
  | some v => v.toIntWithin.map some

/-- `str(fee.get(k, ""))`. -/
def feeText (fee : Fields) (k : String) : String :=
  match getKey fee k with
  | some v => valueStr repr v
  | none => ""

/-- An entry of `includedFees`; only an object has the method `get`. -/
def includedFee : Json → Except PyExc IncludedFee
  | .obj fee => do
      let amount ← itemInt fee "amount"
      .ok
        { kind := feeText repr fee "type", chain := feeText repr fee "chain"
          asset := feeText repr fee "asset", amount }
  | _ => .error .attributeError

/-- The entries summed up, and why they must not be used, before unknown types. -/
def looped (fees : List IncludedFee) (ingressAsset egressAsset : String × String) :
    FeeLegs × String :=
  fees.foldl (legStep ingressAsset egressAsset)
    ({ ingress := 0, network := 0, egress := 0, other := 0 }, "")

/-- Fees of unknown type are to be reported, and their sum has no text. -/
def Unprintable (legs : FeeLegs × String) : Prop :=
  legs.2 = "" ∧ 10 ^ maxStrDigits ≤ legs.1.other.natAbs

instance (legs : FeeLegs × String) : Decidable (Unprintable legs) :=
  inferInstanceAs (Decidable (_ ∧ _))

/-- `_native_fee_legs`. -/
def nativeLegs (included : Json) (ingressAsset egressAsset : String × String) :
    Except PyExc (FeeLegs × String) := do
  let entries ← included.items
  let fees ← entries.mapM (includedFee repr)
  if Unprintable (looped fees ingressAsset egressAsset) then .error .valueError
  else .ok (nativeFeeLegs fees ingressAsset egressAsset)

/-- `_convert_fees`. -/
def convertFees (native : FeeLegs) (toAsset : String) (destUnit egress deposit : ℤ)
    (intermediate : Option ℤ) : ChainflipFees :=
  let atDepositRate (amount : ℤ) : ℤ :=
    if deposit ≠ 0 then (amount * egress).fdiv deposit else 0
  let scaled (v : ℤ) : ℤ := (v * thorchainUnit).fdiv destUnit
  let throughPools :=
    if intermediate.getD 0 ≠ 0 then (native.network * egress).fdiv (intermediate.getD 0)
    else native.network
  let ingress := scaled (atDepositRate native.ingress)
  let network := scaled (throughPools + atDepositRate native.other)
  let flat := scaled native.egress
  let total := ingress + network + flat
  let gross := (egress * thorchainUnit).fdiv destUnit + total
  { asset := toAsset, outbound := flat, liquidity := ingress + network, total
    totalBps := if gross ≠ 0 then (10000 * total).fdiv gross else 0
    ingress, network, egress := flat }

/-- `_parse_quote_fields`. -/
def parseQuoteFields (quote : Fields) (fromAsset toAsset : String) : Except PyExc ParsedQuote := do
  let decimals ← tableItem chainflipDecimals toAsset
  let destUnit : ℤ := 10 ^ decimals
  let egress ← itemInt quote "egressAmount"
  let deposit ← itemInt quote "depositAmount"
  let intermediate ← optionalInt (getKey quote "intermediateAmount")
  let included ← item quote "includedFees"
  let ingressAsset ← tableItem chainflipAssets fromAsset
  let egressAsset ← tableItem chainflipAssets toAsset
  let (native, unusable) ← nativeLegs repr included ingressAsset egressAsset
  let slippage ← (orZero (getKey quote "recommendedSlippageTolerancePercent")).toFloat
  let duration ← (orZero (getKey quote "estimatedDurationSeconds")).toIntWithin
  let slippageBps ← slippage.hundredfold.round
  .ok
    { egressAmount := egress, depositAmount := deposit, recommendedSlippageBps := slippageBps
      ingressFee := native.ingress, egressFee := native.egress, unusableFeeLegs := unusable
      expectedAmountOut := (egress * thorchainUnit).fdiv destUnit
      fees := convertFees native toAsset destUnit egress deposit intermediate
      intermediateAmount := intermediate
      estimatedDurationSeconds := duration
      lowLiquidityWarning := ((getKey quote "lowLiquidityWarning").getD (.bool false)).truthy
      raw := quote }

/-- `parse_chainflip_quote`.  It catches a division by zero too, which the guards
    of the conversion leave no room for. -/
def parseChainflipQuote (payload : Json) (fromAsset toAsset : String) :
    Except (Failure QuoteError PyExc) ParsedQuote :=
  match selectQuote payload with
  | .error e => .error (.raised e)
  | .ok quote =>
      match errorMessage quote with
      | some message => .error (.raised (.message message))
      | none =>
          attempt malformedExc .malformed (parseQuoteFields repr quote fromAsset toAsset)

end Chainflip

/-! ## CoW -/

section Cow

variable [PyUnicode] (fromIso : String → Option ℤ)

/-- `_parse_expiration`; `fromIso` is the time an ISO text without a fraction
    denotes, in seconds, if it denotes one.  Only a text can be split. -/
def parseExpiration : Json → Except PyExc ℤ
  | .str stamp => orValueError (fromIso (String.ofList (partition '.' stamp.toList).1))
  | _ => .error .attributeError

/-- `int(d[k])` of any value. -/
def fieldInt (d : Json) (k : String) : Except PyExc ℤ := d.getItem k >>= Json.toIntWithin

/-- `_parse_cow_quote_fields`. -/
def parseCowQuoteFields (payload : Json) (toAsset : String) (buyDecimals : ℕ) :
    Except PyExc ParsedCowQuote := do
  let quote ← payload.getItem "quote"
  let sellAmount ← fieldInt quote "sellAmount"
  let feeAmount ← fieldInt quote "feeAmount"
  let buyAmount ← fieldInt quote "buyAmount"
  let buyUnit : ℤ := 10 ^ buyDecimals
  let expectedOut := (buyAmount * thorchainUnit).fdiv buyUnit
  let feeInBuy := if sellAmount ≠ 0 then (feeAmount * buyAmount).fdiv sellAmount else 0
  let feeOut := (feeInBuy * thorchainUnit).fdiv buyUnit
  let totalIn := sellAmount + feeAmount
  let sellToken ← quote.getItem "sellToken"
  let buyToken ← quote.getItem "buyToken"
  let receiver ← quote.getD "receiver" (.str "")
  let validTo ← fieldInt quote "validTo"
  let quoteId ← payload.getD "id" .null
  let expiration ← payload.getItem "expiration"
  let expiry ← parseExpiration fromIso expiration
  let verified ← payload.getD "verified" (.bool false)
  .ok
    { sellToken, buyToken, receiver, sellAmount, feeAmount, buyAmount, validTo, quoteId, expiry
      verified := verified.truthy
      expectedAmountOut := expectedOut
      fees :=
        { asset := toAsset, outbound := feeOut, liquidity := 0, total := feeOut
          totalBps := if totalIn ≠ 0 then (10000 * feeAmount).fdiv totalIn else 0 }
      raw := payload }

/-- An error body, read before the `try`. -/
def cowErrorBody (payload : Json) : Except PyExc (Option CowError) := do
  if ← payload.contains "errorType" then
    let errorType ← payload.getItem "errorType"
    let description ← payload.getD "description" (.str "")
    .ok (some (.answered errorType description))
  else .ok none

/-- `parse_cow_quote`. -/
def parseCowQuote (payload : Json) (toAsset : String) (buyDecimals : ℕ) :
    Except (Failure CowError PyExc) ParsedCowQuote :=
  match cowErrorBody payload with
  | .error e => .error (.escaped e)
  | .ok (some e) => .error (.raised e)
  | .ok none =>
      attempt malformedExc .malformed (parseCowQuoteFields fromIso payload toAsset buyDecimals)

end Cow

/-! ## The reads, by the kinds of what is read -/

section Chainflip

variable [PyUnicode] (repr : Json → String)

/-- An amount that may be left out or null. -/
def optionalRead : Option Json → Read
  | none | some .null => .fine
  | some v => intRead v

/-- An entry of `includedFees`: anything but an object escapes. -/
def feeRead : Json → Read
  | .obj fee => itemRead intRead (getKey fee "amount")
  | _ => .escapes

/-- `includedFees`; what cannot be iterated over is caught. -/
def includedReads (included : Json) : List Read :=
  match included.items with
  | .ok entries => entries.map feeRead
  | .error _ => [.caught]

/-- The sum of the fees of unknown type, when it is to be reported. -/
def reportRead (included : Json) (ingressAsset egressAsset : String × String) : Read :=
  match included.items >>= List.mapM (includedFee repr) with
  | .ok fees => if Unprintable (looped fees ingressAsset egressAsset) then .caught else .fine
  | .error _ => .fine

/-- The tolerance in basis points. -/
def toleranceRead (tolerance : Json) : Read :=
  match tolerance.toFloat with
  | .ok x => hundredfoldRead x
  | .error _ => .fine

/-- What is read of a Chainflip quote, in the order it is read in. -/
def quoteReads (quote : Fields) (fromAsset toAsset : String) : List Read :=
  let included := (getKey quote "includedFees").getD .null
  let tolerance := orZero (getKey quote "recommendedSlippageTolerancePercent")
  [presentRead (chainflipDecimals.lookup toAsset),
   itemRead intRead (getKey quote "egressAmount"),
   itemRead intRead (getKey quote "depositAmount"),
   optionalRead (getKey quote "intermediateAmount"),
   presentRead (getKey quote "includedFees"),
   presentRead (chainflipAssets.lookup fromAsset),
   presentRead (chainflipAssets.lookup toAsset)]
    ++ (includedReads included
      ++ [reportRead repr included ((chainflipAssets.lookup fromAsset).getD ("", ""))
        ((chainflipAssets.lookup toAsset).getD ("", ""))])
    ++ [floatRead tolerance,
      intRead (orZero (getKey quote "estimatedDurationSeconds")),
      toleranceRead tolerance]

theorem readOf_itemInt (fields : Fields) (k : String) :
    readOf malformedExc (itemInt fields k) = itemRead intRead (getKey fields k) :=
  readOf_item fields k readOf_toInt

omit [PyUnicode] in
theorem readOf_map {α β : Type} (f : α → β) (x : Except PyExc α) :
    readOf malformedExc (x.map f) = readOf malformedExc x := by
  cases x with
  | ok a => rfl
  | error e => rfl

theorem readOf_optionalInt (field : Option Json) :
    readOf malformedExc (optionalInt field) = optionalRead field := by
  cases field with
  | none => rfl
  | some v =>
      have hread := readOf_toInt v
      cases v with
      | null => rfl
      | bool b => rfl
      | int n => rfl
      | float x => exact (readOf_map some _).trans hread
      | str s => exact (readOf_map some _).trans hread
      | arr items => rfl
      | obj fields => rfl

theorem readOf_includedFee (fee : Json) :
    readOf malformedExc (includedFee repr fee) = feeRead fee := by
  cases fee with
  | obj fields =>
      have hread := readOf_itemInt fields "amount"
      show readOf malformedExc (itemInt fields "amount" >>= _) = itemRead intRead _
      rw [← hread]
      cases itemInt fields "amount" with
      | ok amount => rfl
      | error e => rfl
  | null => rfl
  | bool b => rfl
  | int n => rfl
  | float x => rfl
  | str s => rfl
  | arr items => rfl

omit [PyUnicode] in
theorem items_error {d : Json} {e : PyExc} (h : d.items = .error e) : e = .typeError := by
  cases d with
  | arr items => cases h
  | obj fields => cases h
  | str s => cases h
  | null => cases h; rfl
  | bool b => cases h; rfl
  | int n => cases h; rfl
  | float x => cases h; rfl

/-- The fees are read entry by entry, and then their unknown types. -/
theorem readOf_nativeLegs (included : Json) (ingressAsset egressAsset : String × String) :
    readOf malformedExc (nativeLegs repr included ingressAsset egressAsset)
      = ending (includedReads included
        ++ [reportRead repr included ingressAsset egressAsset]) := by
  rw [nativeLegs, includedReads, reportRead]
  cases hitems : included.items with
  | error e =>
      rw [items_error hitems]
      rfl
  | ok entries =>
      show readOf malformedExc (entries.mapM (includedFee repr) >>= _)
        = ending (entries.map feeRead ++ _)
      refine readOf_bind (readOf_mapM (readOf_includedFee repr) entries) fun fees hfees => ?_
      have hbind : (Except.ok entries >>= List.mapM (includedFee repr)) = .ok fees := hfees
      simp only [hbind]
      by_cases hlong : Unprintable (looped fees ingressAsset egressAsset)
      · rw [if_pos hlong, if_pos hlong]
        rfl
      · rw [if_neg hlong, if_neg hlong]
        rfl

/-- **The reads of a Chainflip quote.** -/
theorem readOf_parseQuoteFields (quote : Fields) (fromAsset toAsset : String) :
    readOf malformedExc (parseQuoteFields repr quote fromAsset toAsset)
      = ending (quoteReads repr quote fromAsset toAsset) := by
  rw [parseQuoteFields, quoteReads]
  refine readOf_step (readOf_orKeyError _) fun decimals _ => ?_
  refine readOf_step (readOf_itemInt quote "egressAmount") fun egress _ => ?_
  refine readOf_step (readOf_itemInt quote "depositAmount") fun deposit _ => ?_
  refine readOf_step (readOf_optionalInt _) fun intermediate _ => ?_
  refine readOf_step (readOf_orKeyError _) fun included hincluded => ?_
  refine readOf_step (readOf_orKeyError _) fun ingressAsset hingress => ?_
  refine readOf_step (readOf_orKeyError _) fun egressAsset hegress => ?_
  -- what is read of the entries is stated of the values that were just found
  rw [orKeyError_ok hincluded, orKeyError_ok hingress, orKeyError_ok hegress]
  refine readOf_bind (readOf_nativeLegs repr included ingressAsset egressAsset) fun legs _ => ?_
  refine readOf_step (readOf_toFloat _) fun tolerance htolerance => ?_
  refine readOf_step (readOf_toInt _) fun duration _ => ?_
  have hread := readOf_hundredfold tolerance
  rw [toleranceRead, htolerance]
  exact readOf_step hread fun bps _ => rfl

end Chainflip

section Cow

variable [PyUnicode] (fromIso : String → Option ℤ)

/-- An expiration: anything but a text escapes. -/
def expirationRead : Json → Read
  | .str stamp =>
      if (fromIso (String.ofList (partition '.' stamp.toList).1)).isSome then .fine else .caught
  | _ => .escapes

/-- What is read of a CoW response, in the order it is read in. -/
def cowReads (payload : Fields) : List Read :=
  match getKey payload "quote" with
  | some (.obj quote) =>
      [itemRead intRead (getKey quote "sellAmount"),
       itemRead intRead (getKey quote "feeAmount"),
       itemRead intRead (getKey quote "buyAmount"),
       presentRead (getKey quote "sellToken"),
       presentRead (getKey quote "buyToken"),
       itemRead intRead (getKey quote "validTo"),
       presentRead (getKey payload "expiration"),
       expirationRead fromIso ((getKey payload "expiration").getD .null)]
  | _ => [.caught]

omit [PyUnicode] in
theorem readOf_parseExpiration (stamp : Json) :
    readOf malformedExc (parseExpiration fromIso stamp) = expirationRead fromIso stamp := by
  cases stamp with
  | str s =>
      rw [parseExpiration, expirationRead]
      cases fromIso (String.ofList (partition '.' s.toList).1) with
      | none => rfl
      | some seconds => rfl
  | null => rfl
  | bool b => rfl
  | int n => rfl
  | float x => rfl
  | arr items => rfl
  | obj fields => rfl

/-- **The reads of a CoW response.** -/
theorem readOf_parseCowQuoteFields (payload : Fields) (toAsset : String) (buyDecimals : ℕ) :
    readOf malformedExc (parseCowQuoteFields fromIso (.obj payload) toAsset buyDecimals)
      = ending (cowReads fromIso payload) := by
  rw [parseCowQuoteFields, cowReads]
  cases hquote : getKey payload "quote" with
  | none =>
      have hitem : (Json.obj payload).getItem "quote" = .error .keyError := by
        rw [Json.getItem, item, hquote]
        rfl
      rw [hitem]
      rfl
  | some quote =>
      have hitem : (Json.obj payload).getItem "quote" = .ok quote := by
        rw [Json.getItem, item, hquote]
        rfl
      rw [hitem, ok_bind]
      cases quote with
      | obj fields =>
          refine readOf_step (readOf_itemInt fields "sellAmount") fun sellAmount _ => ?_
          refine readOf_step (readOf_itemInt fields "feeAmount") fun feeAmount _ => ?_
          refine readOf_step (readOf_itemInt fields "buyAmount") fun buyAmount _ => ?_
          refine readOf_step (readOf_orKeyError _) fun sellToken _ => ?_
          refine readOf_step (readOf_orKeyError _) fun buyToken _ => ?_
          -- `get` with a default cannot fail
          show readOf malformedExc (fieldInt (.obj fields) "validTo" >>= _) = _
          refine readOf_step (readOf_itemInt fields "validTo") fun validTo _ => ?_
          show readOf malformedExc (item payload "expiration" >>= _) = _
          refine readOf_step (readOf_orKeyError _) fun expiration hexpiration => ?_
          rw [orKeyError_ok hexpiration]
          exact readOf_step (readOf_parseExpiration fromIso expiration) fun expiry _ => rfl
      | null => rfl
      | bool b => rfl
      | int n => rfl
      | float x => rfl
      | str s => rfl
      | arr items => rfl

end Cow

/-! ## How the parsers end -/

section Parsers

variable [PyUnicode] (repr : Json → String) (fromIso : String → Option ℤ)

/-- The Chainflip responses nothing escapes on: those with no quote to read, and
    those whose quote has every escaping read behind a caught one. -/
def ChainflipSettles (payload : Json) (fromAsset toAsset : String) : Prop :=
  ∀ quote, selectQuote payload = .ok quote → errorMessage quote = none →
    Guarded (quoteReads repr quote fromAsset toAsset)

/-- The CoW responses nothing escapes on: objects that are error bodies or have
    every escaping read behind a caught one, and lists and texts in which the key
    of an error body is not found. -/
def CowSettles : Json → Prop
  | .obj fields =>
      (getKey fields "errorType").isSome = true ∨ Guarded (cowReads fromIso fields)
  | .arr items => items.any (·.isText "errorType") = false
  | .str s => isIn "errorType" s = false
  | _ => False

theorem parseChainflipQuote_settled_iff (payload : Json) (fromAsset toAsset : String) :
    Settled (parseChainflipQuote repr payload fromAsset toAsset)
      ↔ ChainflipSettles repr payload fromAsset toAsset := by
  rw [parseChainflipQuote, ChainflipSettles]
  cases hselect : selectQuote payload with
  | error e =>
      refine iff_of_true (settled_raised e) ?_
      intro quote hquote
      cases hquote
  | ok quote =>
      cases hmessage : errorMessage quote with
      | some message =>
          refine iff_of_true ?_ ?_
          · simp only [hmessage]
            exact settled_raised _
          · intro quote' hquote hnone
            cases hquote
            rw [hmessage] at hnone
            cases hnone
      | none =>
          simp only [hmessage]
          rw [settled_attempt, readOf_parseQuoteFields, ← guarded_iff]
          constructor
          · intro h quote' hquote _
            cases hquote
            exact h
          · intro h
            exact h quote rfl hmessage

omit [PyUnicode] in
/-- What is no object has no item. -/
theorem getItem_of_not_obj {payload : Json} (h : ∀ fields, payload ≠ .obj fields) (k : String) :
    payload.getItem k = .error .typeError := by
  cases payload with
  | obj fields => exact absurd rfl (h fields)
  | null => rfl
  | bool b => rfl
  | int n => rfl
  | float x => rfl
  | str s => rfl
  | arr items => rfl

/-- A list or a text is refused for want of a quote, unless the key of an error
    body is found in it: then it is read as an error body, which it is not. -/
theorem parseCowQuote_not_obj {payload : Json} (h : ∀ fields, payload ≠ .obj fields)
    {found : Bool} (hfound : payload.contains "errorType" = .ok found) (toAsset : String)
    (buyDecimals : ℕ) :
    Settled (parseCowQuote fromIso payload toAsset buyDecimals) ↔ found = false := by
  cases found with
  | true =>
      -- the key is found, but only an object can be asked for it
      have hbody : cowErrorBody payload = .error .typeError := by
        rw [cowErrorBody, hfound]
        show (payload.getItem "errorType" >>= _) = _
        rw [getItem_of_not_obj h]
        rfl
      rw [parseCowQuote, hbody]
      exact iff_of_false (not_settled_escaped _) (by decide)
  | false =>
      have hbody : cowErrorBody payload = .ok none := by
        rw [cowErrorBody, hfound]
        rfl
      rw [parseCowQuote, hbody]
      show Settled (attempt _ _ (parseCowQuoteFields fromIso payload toAsset buyDecimals)) ↔ _
      rw [parseCowQuoteFields, getItem_of_not_obj h]
      have hraised : Settled (.error (.raised (CowError.malformed .typeError))
          : Except (Failure CowError PyExc) ParsedCowQuote) := settled_raised _
      exact iff_of_true hraised rfl

theorem parseCowQuote_settled_iff (payload : Json) (toAsset : String) (buyDecimals : ℕ) :
    Settled (parseCowQuote fromIso payload toAsset buyDecimals) ↔ CowSettles fromIso payload := by
  cases payload with
  | obj fields =>
      rw [CowSettles]
      cases hkey : getKey fields "errorType" with
      | some errorType =>
          have hbody : cowErrorBody (.obj fields) = .ok (some (.answered errorType
              ((getKey fields "description").getD (.str "")))) := by
            simp only [cowErrorBody, Json.contains, Json.getItem, Json.getD, Json.getField, item,
              hkey, ok_bind, orKeyError, Option.isSome_some, if_true]
            rfl
          rw [parseCowQuote, hbody]
          exact iff_of_true (settled_raised _) (Or.inl rfl)
      | none =>
          have hbody : cowErrorBody (.obj fields) = .ok none := by
            simp only [cowErrorBody, Json.contains, hkey, ok_bind, Option.isSome_none,
              Bool.false_eq_true, if_false]
          rw [parseCowQuote, hbody]
          show Settled (attempt _ _ _) ↔ _
          rw [settled_attempt, readOf_parseCowQuoteFields, ← guarded_iff]
          exact (or_iff_right (by decide)).symm
  | arr items =>
      exact parseCowQuote_not_obj fromIso (fun _ h => by cases h) rfl toAsset buyDecimals
  | str s => exact parseCowQuote_not_obj fromIso (fun _ h => by cases h) rfl toAsset buyDecimals
  | null => exact iff_of_false (not_settled_escaped _) id
  | bool b => exact iff_of_false (not_settled_escaped _) id
  | int n => exact iff_of_false (not_settled_escaped _) id
  | float x => exact iff_of_false (not_settled_escaped _) id

/-- **When nothing escapes the parsers**: each ends with a quote or the error of
    its own exactly where every read that would escape is behind one that is
    caught. -/
theorem parseQuotes_settle_iff (payload : Json) (fromAsset toAsset : String) (buyDecimals : ℕ) :
    (Settled (parseChainflipQuote repr payload fromAsset toAsset)
      ↔ ChainflipSettles repr payload fromAsset toAsset)
    ∧ (Settled (parseCowQuote fromIso payload toAsset buyDecimals)
      ↔ CowSettles fromIso payload) :=
  ⟨parseChainflipQuote_settled_iff repr payload fromAsset toAsset,
    parseCowQuote_settled_iff fromIso payload toAsset buyDecimals⟩

end Parsers

/-- The response with an infinite amount. -/
def infiniteAmount : Json := .obj [("egressAmount", .float (.infinity false))]

/-- The infinity escapes from Chainflip's parser, and a null response from CoW's. -/
theorem parseQuotes_escape :
    let _ : PyUnicode := asciiUnicode
    parseChainflipQuote (fun _ => "") infiniteAmount "BTC.BTC" "ETH.ETH"
        = .error (.escaped .overflowError)
      ∧ ¬ Settled (parseChainflipQuote (fun _ => "") infiniteAmount "BTC.BTC" "ETH.ETH")
      ∧ parseCowQuote (fun _ => none) .null "ETH.ETH" 18 = .error (.escaped .typeError)
      ∧ ¬ Settled (parseCowQuote (fun _ => none) .null "ETH.ETH" 18) := by
  let _ : PyUnicode := asciiUnicode
  have hchainflip : parseChainflipQuote (fun _ => "") infiniteAmount "BTC.BTC" "ETH.ETH"
      = .error (.escaped .overflowError) := rfl
  have hcow : parseCowQuote (fun _ => none) .null "ETH.ETH" 18 = .error (.escaped .typeError) := rfl
  intro _
  refine ⟨hchainflip, ?_, hcow, ?_⟩
  · rw [hchainflip]
    exact not_settled_escaped _
  · rw [hcow]
    exact not_settled_escaped _

end SwapsackQuoteParsing
