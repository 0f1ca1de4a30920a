import Swapsack.ByteStringProofs
import Swapsack.PyJsonProofs

/-! # CoW orders: the gate and what is signed

    A CoW order is a JSON object.  The gate reads its fields one way, the
    EIP-712 message converts some of them again, and the signature over the
    message is the whole authorisation.

    * `verifyCowOrder_ok` — what the fields of an order are that passes;
    * `orderTypedData_ok` — what the message holds under each signed name;
    * `signedFields_bound` — so two orders that pass under one plan are signed
      alike, but for the floor and the validity;
    * `verifyCowOrder_buildOrder` — the orders built from honest quotes pass. -/

namespace SwapsackCow

open ListKit ByteString PyText PyJson

/-! ## Orders, plans and messages -/

/-- An order is a `dict` with texts for keys. -/
abbrev Order := List (String × Json)

/-- The zero appData hash: no metadata. -/
def cowZeroAppData : String := "0x" ++ String.ofList (List.replicate 64 '0')

/-- Refuse orders valid further out than this. -/
def cowMaxOrderValidity : ℤ := 7200

def defaultCowToleranceBps : ℤ := 50

def settlementContract : String := "0x9008D19f58AAbD9eD0D60971565AA8510560ab41"

/-- The signed fields of an order and their types. -/
def orderType : List (String × String) :=
  [("sellToken", "address"), ("buyToken", "address"), ("receiver", "address"),
   ("sellAmount", "uint256"), ("buyAmount", "uint256"), ("validTo", "uint32"),
   ("appData", "bytes32"), ("feeAmount", "uint256"), ("kind", "string"),
   ("partiallyFillable", "bool"), ("sellTokenBalance", "string"),
   ("buyTokenBalance", "string")]

/-- What we intend an order to do, from sources independent of the API. -/
structure CowOrderPlan where
  sellToken : String
  buyToken : String
  receiver : String
  sellAmount : ℤ
  minBuyAmount : ℤ
  expiry : ℤ
  maxValidity : ℤ := cowMaxOrderValidity

/-- What an order is built from: the fields a parsed quote keeps of the answer,
    texts as they came, numbers as integers. -/
structure CowQuote where
  sellToken : Json
  buyToken : Json
  receiver : Json
  sellAmount : ℤ
  feeAmount : ℤ
  buyAmount : ℤ
  validTo : ℤ

/-- What leaves the wallet: the quoted amount and the fee carved out of it. -/
def CowQuote.sellAmountTotal (quote : CowQuote) : ℤ := quote.sellAmount + quote.feeAmount

/-- A value of a message: as in the order, or the bytes of a hash. -/
inductive MessageValue where
  | json (v : Json)
  | bytes (b : Bytes)

/-- The domain an order is signed for. -/
structure Domain where
  name : String
  version : String
  chainId : ℕ
  verifyingContract : String

/-- A full EIP-712 message. -/
structure TypedData where
  types : List (String × List (String × String))
  primaryType : String
  domain : Domain
  message : List (String × MessageValue)

/-- The settlement contract's domain and types around a message. -/
def settlementData (message : List (String × MessageValue)) : TypedData where
  types :=
    [("EIP712Domain", [("name", "string"), ("version", "string"), ("chainId", "uint256"),
        ("verifyingContract", "address")]),
     ("Order", orderType)]
  primaryType := "Order"
  domain :=
    { name := "Gnosis Protocol", version := "v2", chainId := 1
      verifyingContract := settlementContract }
  message := message

/-- What the gate can complain about, with what the message shows. -/
inductive CowProblem where
  | sellToken (found : Option Json) (plan : String)
  | buyToken (found : Option Json) (plan : String)
  | receiver (found : Option Json) (plan : String)
  | zeroReceiver
  | sellAmount (found : Option Json) (plan : ℤ)
  | buyAmount (found : Option Json) (floor : ℤ)
  | feeAmount (found : Option Json)
  | kind (found : Option Json)
  | partiallyFillable
  | balance (side : String) (found : Option Json)
  | appData (found : Option Json)
  | passed (validTo now : ℤ)
  | farAway (validTo limit : ℤ)

/-- The message of a problem; `str` and `repr` show a value. -/
def CowProblem.text (str repr : Option Json → String) : CowProblem → String
  | .sellToken found plan =>
      let shown := str found
      s!"order sell token {shown} != {plan}"
  | .buyToken found plan =>
      let shown := str found
      s!"order buy token {shown} != {plan}"
  | .receiver found plan =>
      let shown := str found
      s!"order receiver {shown} != destination {plan}"
  | .zeroReceiver => "order receiver is the zero address"
  | .sellAmount found plan =>
      let shown := str found
      s!"order sell amount {shown} != requested {plan}"
  | .buyAmount found floor =>
      let shown := str found
      s!"order buy amount {shown} is below the tolerance floor {floor}"
  | .feeAmount found =>
      let shown := str found
      s!"order fee amount {shown} != 0 (the fee must be folded into the sell amount)"
  | .kind found =>
      let shown := repr found
      s!"order kind {shown} != 'sell'"
  | .partiallyFillable => "order must not be partially fillable (fill-or-kill)"
  | .balance side found =>
      let shown := repr found
      s!"order {side} balance {shown} != 'erc20'"
  | .appData found =>
      let shown := repr found
      s!"order appData {shown} != the zero hash"
  | .passed validTo now => s!"order validTo {validTo} already passed (now {now})"
  | .farAway validTo limit => s!"order validTo {validTo} is more than {limit}s away"

/-- The problems whose checks fail, in order. -/
def complaints (checks : List (Bool × CowProblem)) : List CowProblem :=
  checks.filterMap fun c => if c.1 then some c.2 else none

/-! ## Building, gating and signing -/

section Orders

variable [PyUnicode]

/-- `isinstance(a, str) and a.lower() == b.lower()`. -/
def addrEq (a : Option Json) (b : String) : Bool :=
  match a with
  | some (.str a) => PyUnicode.lower a == PyUnicode.lower b
  | _ => false

/-- A receiver that is all zeros means the order's owner. -/
def isZeroReceiver (receiver : Option Json) : Bool :=
  match receiver with
  | some (.str a) =>
      let digits := (PyUnicode.lower a).toList
      let digits := if ['0', 'x'].isPrefixOf digits then digits.drop 2 else digits
      digits.all (· == '0')
  | _ => false

/-- `app_data.lower() == COW_ZERO_APP_DATA` of a text. -/
def isZeroAppData (appData : Option Json) : Bool :=
  match appData with
  | some (.str a) => PyUnicode.lower a == cowZeroAppData
  | _ => false

def isField (found : Option Json) (s : String) : Bool :=
  match found with
  | some v => v.isText s
  | none => false

/-- `x is False`. -/
def isFalse (found : Option Json) : Bool :=
  match found with
  | some (.bool false) => true
  | _ => false

/-- Reasons the order to be signed does not match `plan`; empty means safe. -/
def verifyCowOrder (order : Order) (plan : CowOrderPlan) (now : ℤ) :
    Except PyExc (List CowProblem) := do
  let get := getKey order
  let sellAmount ← ((get "sellAmount").getD (.int (-1))).toInt
  let buyAmount ← ((get "buyAmount").getD (.int (-1))).toInt
  let feeAmount ← ((get "feeAmount").getD (.int (-1))).toInt
  let validTo ← ((get "validTo").getD (.int 0)).toInt
  let checks : List (Bool × CowProblem) :=
    [(!addrEq (get "sellToken") plan.sellToken, .sellToken (get "sellToken") plan.sellToken),
     (!addrEq (get "buyToken") plan.buyToken, .buyToken (get "buyToken") plan.buyToken),
     (!addrEq (get "receiver") plan.receiver, .receiver (get "receiver") plan.receiver),
     (isZeroReceiver (get "receiver"), .zeroReceiver),
     (sellAmount != plan.sellAmount, .sellAmount (get "sellAmount") plan.sellAmount),
     (decide (buyAmount < plan.minBuyAmount),
       .buyAmount (get "buyAmount") plan.minBuyAmount),
     (feeAmount != 0, .feeAmount (get "feeAmount")),
     (!isField (get "kind") "sell", .kind (get "kind")),
     (!isFalse (get "partiallyFillable"), .partiallyFillable),
     (!isField (get "sellTokenBalance") "erc20",
       .balance "sellTokenBalance" (get "sellTokenBalance")),
     (!isField (get "buyTokenBalance") "erc20",
       .balance "buyTokenBalance" (get "buyTokenBalance")),
     (!isZeroAppData (get "appData"), .appData (get "appData")),
     (decide (validTo ≤ now), .passed validTo now),
     (decide (now < validTo) && decide (now + plan.maxValidity < validTo),
       .farAway validTo plan.maxValidity)]
  .ok (complaints checks)

omit [PyUnicode] in
/-- The order to sign and submit, from a parsed quote: the fee is folded into
    the amount, and the floor is the quoted output less the tolerance. -/
def buildOrder (quote : CowQuote) (toleranceBps : ℤ := defaultCowToleranceBps) : Order :=
  [("sellToken", quote.sellToken),
   ("buyToken", quote.buyToken),
   ("receiver", quote.receiver),
   ("sellAmount", .str (toString quote.sellAmountTotal)),
   ("buyAmount", .str (toString (quote.buyAmount * (10000 - toleranceBps) / 10000))),
   ("validTo", .int quote.validTo),
   ("appData", .str cowZeroAppData),
   ("feeAmount", .str "0"),
   ("kind", .str "sell"),
   ("partiallyFillable", .bool false),
   ("sellTokenBalance", .str "erc20"),
   ("buyTokenBalance", .str "erc20")]

/-- `bytes.fromhex(str(x)[2:])`; `shown` is the `str()` of what is no text. -/
def hashBytes (shown : Json → String) (x : Json) : Except PyExc Bytes :=
  let text := match x with
    | .str s => s
    | other => shown other
  match fromHexChars (text.toList.drop 2) with
  | some bytes => .ok bytes
  | none => .error .valueError

/-- The full EIP-712 message of an order. -/
def orderTypedData (shown : Json → String) (order : Order) : Except PyExc TypedData := do
  let item := (Json.obj order).getItem
  let sellAmount ← (← item "sellAmount").toInt
  let buyAmount ← (← item "buyAmount").toInt
  let feeAmount ← (← item "feeAmount").toInt
  let appData ← hashBytes shown (← item "appData")
  let message := order.map fun p => (p.1, MessageValue.json p.2)
  let message := setKey message "sellAmount" (.json (.int sellAmount))
  let message := setKey message "buyAmount" (.json (.int buyAmount))
  let message := setKey message "feeAmount" (.json (.int feeAmount))
  .ok (settlementData (setKey message "appData" (.bytes appData)))

/-! ## What passes the gate -/

omit [PyUnicode] in
theorem complaints_eq_nil {checks : List (Bool × CowProblem)} :
    complaints checks = [] ↔ ∀ c ∈ checks, c.1 = false := by
  rw [complaints, List.filterMap_eq_nil_iff]
  refine forall₂_congr fun c _ => ?_
  cases c.1 <;> simp

omit [PyUnicode] in
theorem isField_iff {found : Option Json} {s : String} :
    isField found s = true ↔ found = some (.str s) := by
  cases found with
  | none => simp [isField]
  | some v => rw [isField, isText_iff, Option.some.injEq]

omit [PyUnicode] in
theorem isFalse_iff {found : Option Json} :
    isFalse found = true ↔ found = some (.bool false) := by
  unfold isFalse
  split
  · simp
  · rename_i hne
    constructor
    · intro h
      cases h
    · intro h
      exact absurd h hne

/-- What an order is that passes the gate: every signed field is bound. -/
structure OrderBound (order : Order) (plan : CowOrderPlan) (now : ℤ) : Prop where
  sellToken : addrEq (getKey order "sellToken") plan.sellToken = true
  buyToken : addrEq (getKey order "buyToken") plan.buyToken = true
  receiver : addrEq (getKey order "receiver") plan.receiver = true
  receiver_nonzero : isZeroReceiver (getKey order "receiver") = false
  sellAmount : ((getKey order "sellAmount").getD (.int (-1))).toInt = .ok plan.sellAmount
  buyAmount : ∃ n, ((getKey order "buyAmount").getD (.int (-1))).toInt = .ok n
    ∧ plan.minBuyAmount ≤ n
  feeAmount : ((getKey order "feeAmount").getD (.int (-1))).toInt = .ok 0
  kind : getKey order "kind" = some (.str "sell")
  partiallyFillable : getKey order "partiallyFillable" = some (.bool false)
  sellTokenBalance : getKey order "sellTokenBalance" = some (.str "erc20")
  buyTokenBalance : getKey order "buyTokenBalance" = some (.str "erc20")
  appData : isZeroAppData (getKey order "appData") = true
  validTo : ∃ n, ((getKey order "validTo").getD (.int 0)).toInt = .ok n
    ∧ now < n ∧ n ≤ now + plan.maxValidity

/-- **The gate binds every field.** -/
theorem verifyCowOrder_ok {order : Order} {plan : CowOrderPlan} {now : ℤ} :
    verifyCowOrder order plan now = .ok [] ↔ OrderBound order plan now := by
  constructor
  · intro h
    obtain ⟨sellAmount, hsell, h⟩ := bind_eq_ok h
    obtain ⟨buyAmount, hbuy, h⟩ := bind_eq_ok h
    obtain ⟨feeAmount, hfee, h⟩ := bind_eq_ok h
    obtain ⟨validTo, hvalid, h⟩ := bind_eq_ok h
    have hall := complaints_eq_nil.mp (Except.ok.inj h)
    simp only [List.forall_mem_cons, List.not_mem_nil, false_imp_iff, implies_true,
      Bool.not_eq_false', bne_eq_false_iff_eq, decide_eq_false_iff_not, not_lt, not_le,
      Bool.and_eq_false_iff, isField_iff, isFalse_iff, and_true] at hall
    obtain ⟨h1, h2, h3, h4, rfl, h6, rfl, h8, h9, h10, h11, h12, h13, h14⟩ := hall
    exact ⟨h1, h2, h3, h4, hsell, ⟨buyAmount, hbuy, h6⟩, hfee, h8, h9, h10, h11, h12,
      ⟨validTo, hvalid, h13, by omega⟩⟩
  · intro h
    obtain ⟨buyAmount, hbuy, hfloor⟩ := h.buyAmount
    obtain ⟨validTo, hvalid, hafter, hnear⟩ := h.validTo
    rw [verifyCowOrder]
    rw [h.sellAmount, ok_bind, hbuy, ok_bind, h.feeAmount, ok_bind, hvalid, ok_bind]
    refine congrArg Except.ok (complaints_eq_nil.mpr ?_)
    simp only [List.forall_mem_cons, List.not_mem_nil, false_imp_iff, implies_true,
      Bool.not_eq_false', bne_eq_false_iff_eq, decide_eq_false_iff_not, not_lt, not_le,
      Bool.and_eq_false_iff, isField_iff, isFalse_iff, and_true]
    exact ⟨h.sellToken, h.buyToken, h.receiver, h.receiver_nonzero, trivial, hfloor, trivial,
      h.kind, h.partiallyFillable, h.sellTokenBalance, h.buyTokenBalance, h.appData, hafter,
      Or.inr hnear⟩

/-! ## What is signed -/

omit [PyUnicode] in
/-- Converting every value leaves the keys. -/
theorem getKey_map {α β : Type} (f : α → β) (d : List (String × α)) (k : String) :
    getKey (d.map fun p => (p.1, f p.2)) k = (getKey d k).map f := by
  induction d with
  | nil => rfl
  | cons p d ih =>
      rw [List.map_cons, getKey, getKey]
      split
      · rfl
      · exact ih

/-- **The message holds** the converted amounts and hash, and every other field
    as it stands in the order. -/
theorem orderTypedData_ok {shown : Json → String} {order : Order} {data : TypedData}
    (h : orderTypedData shown order = .ok data) :
    ∃ sell buy fee x message, data = settlementData message
      ∧ getKey order "sellAmount" = some sell
      ∧ getKey order "buyAmount" = some buy ∧ getKey order "feeAmount" = some fee
      ∧ getKey order "appData" = some x
      ∧ (∃ n, sell.toInt = .ok n ∧ getKey message "sellAmount" = some (.json (.int n)))
      ∧ (∃ n, buy.toInt = .ok n ∧ getKey message "buyAmount" = some (.json (.int n)))
      ∧ (∃ n, fee.toInt = .ok n ∧ getKey message "feeAmount" = some (.json (.int n)))
      ∧ (∃ b, hashBytes shown x = .ok b ∧ getKey message "appData" = some (.bytes b))
      ∧ ∀ k, k ≠ "sellAmount" → k ≠ "buyAmount" → k ≠ "feeAmount" → k ≠ "appData" →
        getKey message k = (getKey order k).map .json := by
  obtain ⟨sell, hsell, h⟩ := bind_eq_ok h
  obtain ⟨sellAmount, hsellInt, h⟩ := bind_eq_ok h
  obtain ⟨buy, hbuy, h⟩ := bind_eq_ok h
  obtain ⟨buyAmount, hbuyInt, h⟩ := bind_eq_ok h
  obtain ⟨fee, hfee, h⟩ := bind_eq_ok h
  obtain ⟨feeAmount, hfeeInt, h⟩ := bind_eq_ok h
  obtain ⟨x, hx, h⟩ := bind_eq_ok h
  obtain ⟨appData, happData, h⟩ := bind_eq_ok h
  cases h
  have hitem : ∀ {k v}, (Json.obj order).getItem k = .ok v → getKey order k = some v := by
    intro k v hk
    obtain ⟨fields, heq, hv⟩ := getItem_ok hk
    cases heq
    exact hv
  refine ⟨sell, buy, fee, x, _, rfl, hitem hsell, hitem hbuy, hitem hfee, hitem hx,
    ⟨sellAmount, hsellInt, ?_⟩, ⟨buyAmount, hbuyInt, ?_⟩, ⟨feeAmount, hfeeInt, ?_⟩,
    ⟨appData, happData, ?_⟩, ?_⟩
  · simp only [getKey_setKey]
    rfl
  · simp only [getKey_setKey]
    rfl
  · simp only [getKey_setKey]
    rfl
  · simp only [getKey_setKey]
    rfl
  · intro k h1 h2 h3 h4
    simp only [getKey_setKey, getKey_map, if_neg (Ne.symm h1), if_neg (Ne.symm h2),
      if_neg (Ne.symm h3), if_neg (Ne.symm h4)]

/-! ## The zero hash -/

omit [PyUnicode] in
theorem map_toLower_zeros {s : List Char} {n : ℕ}
    (h : s.map Char.toLower = List.replicate n '0') : s = List.replicate n '0' := by
  have hlen : s.length = n := by
    rw [← List.length_map (f := Char.toLower), h, List.length_replicate]
  refine List.eq_replicate_iff.mpr ⟨hlen, fun c hc => toLower_eq_zero ?_⟩
  have hmem : c.toLower ∈ List.replicate n '0' := h ▸ List.mem_map_of_mem hc
  exact List.eq_of_mem_replicate hmem

omit [PyUnicode] in
theorem cowZeroAppData_toList :
    cowZeroAppData.toList = '0' :: 'x' :: List.replicate 64 '0' := by
  rw [cowZeroAppData, String.toList_append, String.toList_ofList]
  rfl

omit [PyUnicode] in
theorem cowZeroAppData_ascii : ∀ c ∈ cowZeroAppData.toList, c.toNat < 128 ∧ c ≠ 'k' := by
  rw [cowZeroAppData_toList]
  exact forall_mem_of_all (by decide)

/-- A text that the gate takes for the zero hash spells it, but for the case of
    the `x`. -/
theorem isZeroAppData_text {x : Json} (h : isZeroAppData (some x) = true) :
    ∃ s, x = .str s ∧ s.toList.drop 2 = List.replicate 64 '0' := by
  unfold isZeroAppData at h
  split at h
  · rename_i s heq
    cases heq
    have hlower : PyUnicode.lower s = cowZeroAppData := eq_of_beq h
    have hascii : ∀ c ∈ s.toList, c.toNat < 128 :=
      PyUnicode.lower_from_ascii s (by rw [hlower]; exact cowZeroAppData_ascii)
    have hmap : s.toList.map Char.toLower = '0' :: 'x' :: List.replicate 64 '0' := by
      rw [← cowZeroAppData_toList, ← hlower, PyUnicode.lower_ascii s hascii,
        String.toList_ofList]
    refine ⟨s, rfl, map_toLower_zeros ?_⟩
    rw [List.map_drop, hmap]
    rfl
  · cases h

/-- Every text the gate takes for the zero hash is signed as 32 zero bytes. -/
theorem hashBytes_zero {shown : Json → String} {x : Json}
    (h : isZeroAppData (some x) = true) :
    hashBytes shown x = .ok (List.replicate 32 0) := by
  obtain ⟨s, rfl, hdrop⟩ := isZeroAppData_text h
  have hzeros : fromHexChars (List.replicate 64 '0') = some (List.replicate 32 0) := by
    decide +kernel
  simp only [hashBytes, hdrop, hzeros]

/-! ## Two orders under one plan -/

/-- `int()` of a message's `validTo`, or of the gate's default for none. -/
def signedValidTo (message : List (String × MessageValue)) : Except PyExc ℤ :=
  match getKey message "validTo" with
  | some (.json v) => v.toInt
  | some (.bytes _) => .error .typeError
  | none => .ok 0

/-- The fields a plan fixes outright, as they are signed. -/
def fixedFields (plan : CowOrderPlan) : List (String × MessageValue) :=
  [("sellAmount", .json (.int plan.sellAmount)),
   ("appData", .bytes (List.replicate 32 0)),
   ("feeAmount", .json (.int 0)),
   ("kind", .json (.str "sell")),
   ("partiallyFillable", .json (.bool false)),
   ("sellTokenBalance", .json (.str "erc20")),
   ("buyTokenBalance", .json (.str "erc20"))]

/-- The addresses of a plan under their names. -/
def planAddress (plan : CowOrderPlan) : List (String × String) :=
  [("sellToken", plan.sellToken), ("buyToken", plan.buyToken), ("receiver", plan.receiver)]

/-- What a plan fixes of a message. -/
structure MessageBound (message : List (String × MessageValue)) (plan : CowOrderPlan)
    (now : ℤ) : Prop where
  address : ∀ p ∈ planAddress plan, ∃ s, getKey message p.1 = some (.json (.str s))
    ∧ PyUnicode.lower s = PyUnicode.lower p.2
  fixed : ∀ p ∈ fixedFields plan, getKey message p.1 = some p.2
  floor : ∃ n, getKey message "buyAmount" = some (.json (.int n)) ∧ plan.minBuyAmount ≤ n
  validTo : ∃ n, signedValidTo message = .ok n ∧ now < n ∧ n ≤ now + plan.maxValidity

/-- A read with a default that the gate accepted was a read of the field. -/
theorem toInt_getD {found : Option Json} {v d : Json} {n m : ℤ} (hv : found = some v)
    (h : (found.getD d).toInt = .ok n) (hm : v.toInt = .ok m) : m = n := by
  rw [hv, Option.getD_some, hm] at h
  exact Except.ok.inj h

theorem addrEq_text {found : Option Json} {b : String} (h : addrEq found b = true) :
    ∃ s, found = some (.str s) ∧ PyUnicode.lower s = PyUnicode.lower b := by
  unfold addrEq at h
  split at h
  · rename_i s
    exact ⟨s, rfl, eq_of_beq h⟩
  · cases h

/-- **What the gate checked is what is signed.** -/
theorem messageBound_of_orderBound {shown : Json → String} {order : Order}
    {plan : CowOrderPlan} {now : ℤ} {data : TypedData} (hb : OrderBound order plan now)
    (h : orderTypedData shown order = .ok data) :
    ∃ message, data = settlementData message ∧ MessageBound message plan now := by
  obtain ⟨sell, buy, fee, x, message, rfl, hsell, hbuy, hfee, hx, ⟨n, hn, hsellField⟩,
    ⟨k, hk, hbuyField⟩, ⟨j, hj, hfeeField⟩, ⟨b, happ, happField⟩, hframe⟩ :=
    orderTypedData_ok h
  obtain rfl : n = plan.sellAmount := toInt_getD hsell hb.sellAmount hn
  obtain rfl : j = 0 := toInt_getD hfee hb.feeAmount hj
  obtain ⟨floor, hfloorInt, hfloor⟩ := hb.buyAmount
  obtain rfl : k = floor := toInt_getD hbuy hfloorInt hk
  have hzero : b = List.replicate 32 0 := by
    have happData := hb.appData
    rw [hx] at happData
    rw [hashBytes_zero happData] at happ
    exact (Except.ok.inj happ).symm
  subst hzero
  have hsame : ∀ name v, name ≠ "sellAmount" → name ≠ "buyAmount" → name ≠ "feeAmount" →
      name ≠ "appData" → getKey order name = some v →
      getKey message name = some (.json v) := by
    intro name v h1 h2 h3 h4 hv
    rw [hframe name h1 h2 h3 h4, hv]
    rfl
  have haddr : ∀ name a, name ≠ "sellAmount" → name ≠ "buyAmount" → name ≠ "feeAmount" →
      name ≠ "appData" → addrEq (getKey order name) a = true →
      ∃ s, getKey message name = some (.json (.str s))
        ∧ PyUnicode.lower s = PyUnicode.lower a := by
    intro name a h1 h2 h3 h4 ha
    obtain ⟨s, hs, hlower⟩ := addrEq_text ha
    exact ⟨s, hsame name _ h1 h2 h3 h4 hs, hlower⟩
  refine ⟨message, rfl, ?_, ?_, ⟨k, hbuyField, hfloor⟩, ?_⟩
  · simp only [planAddress, List.forall_mem_cons, List.not_mem_nil, false_imp_iff,
      implies_true, and_true]
    exact ⟨haddr _ _ (by decide) (by decide) (by decide) (by decide) hb.sellToken,
      haddr _ _ (by decide) (by decide) (by decide) (by decide) hb.buyToken,
      haddr _ _ (by decide) (by decide) (by decide) (by decide) hb.receiver⟩
  · simp only [fixedFields, List.forall_mem_cons, List.not_mem_nil, false_imp_iff,
      implies_true, and_true]
    exact ⟨hsellField, happField, hfeeField,
      hsame _ _ (by decide) (by decide) (by decide) (by decide) hb.kind,
      hsame _ _ (by decide) (by decide) (by decide) (by decide) hb.partiallyFillable,
      hsame _ _ (by decide) (by decide) (by decide) (by decide) hb.sellTokenBalance,
      hsame _ _ (by decide) (by decide) (by decide) (by decide) hb.buyTokenBalance⟩
  · obtain ⟨t, ht, hwindow⟩ := hb.validTo
    refine ⟨t, ?_, hwindow⟩
    rw [signedValidTo, hframe "validTo" (by decide) (by decide) (by decide) (by decide)]
    cases hv : getKey order "validTo" with
    | none =>
        rw [hv] at ht
        exact ht
    | some v =>
        rw [hv] at ht
        exact ht

/-- Messages that agree on the addresses up to case and on every other signed
    field exactly, but for the floor and the validity, which each keep to the
    plan's bounds. -/
structure SignedAlike (plan : CowOrderPlan) (now : ℤ) (data data' : TypedData) : Prop where
  frame : data.types = data'.types ∧ data.primaryType = data'.primaryType
    ∧ data.domain = data'.domain
  address : ∀ f ∈ orderType, f.2 = "address" →
    ∃ s s', getKey data.message f.1 = some (.json (.str s))
      ∧ getKey data'.message f.1 = some (.json (.str s'))
      ∧ PyUnicode.lower s = PyUnicode.lower s'
  fixed : ∀ f ∈ orderType, f.2 ≠ "address" → f.1 ≠ "buyAmount" → f.1 ≠ "validTo" →
    ∃ v, getKey data.message f.1 = some v ∧ getKey data'.message f.1 = some v
  floor : ∀ d ∈ [data, data'],
    ∃ n, getKey d.message "buyAmount" = some (.json (.int n)) ∧ plan.minBuyAmount ≤ n
  validTo : ∀ d ∈ [data, data'],
    ∃ n, signedValidTo d.message = .ok n ∧ now < n ∧ n ≤ now + plan.maxValidity
  validTo_signed : 0 ≤ now → ∀ d ∈ [data, data'], ∃ v, getKey d.message "validTo" = some v

/-- **Two orders that pass under one plan are signed alike.** -/
theorem signedFields_bound {shown : Json → String} {order order' : Order}
    {plan : CowOrderPlan} {now : ℤ} {data data' : TypedData}
    (hpass : verifyCowOrder order plan now = .ok [])
    (hpass' : verifyCowOrder order' plan now = .ok [])
    (h : orderTypedData shown order = .ok data)
    (h' : orderTypedData shown order' = .ok data') : SignedAlike plan now data data' := by
  obtain ⟨m, rfl, hm⟩ := messageBound_of_orderBound (verifyCowOrder_ok.mp hpass) h
  obtain ⟨m', rfl, hm'⟩ := messageBound_of_orderBound (verifyCowOrder_ok.mp hpass') h'
  have haddr : ∀ p ∈ planAddress plan, ∃ s s', getKey m p.1 = some (.json (.str s))
      ∧ getKey m' p.1 = some (.json (.str s')) ∧ PyUnicode.lower s = PyUnicode.lower s' := by
    intro p hp
    obtain ⟨s, hs, hlower⟩ := hm.address p hp
    obtain ⟨s', hs', hlower'⟩ := hm'.address p hp
    exact ⟨s, s', hs, hs', hlower.trans hlower'.symm⟩
  have hfixed : ∀ p ∈ fixedFields plan, ∃ v, getKey m p.1 = some v ∧ getKey m' p.1 = some v :=
    fun p hp => ⟨p.2, hm.fixed p hp, hm'.fixed p hp⟩
  refine ⟨⟨rfl, rfl, rfl⟩, ?_, ?_, ?_, ?_, ?_⟩
  · -- The names of type `address` are the plan's.
    intro f hf htype
    have hname : f.1 ∈ (planAddress plan).map Prod.fst := by
      revert f
      simp only [orderType, planAddress, List.forall_mem_cons]
      simp
    obtain ⟨p, hp, hpf⟩ := List.mem_map.mp hname
    rw [← hpf]
    exact haddr p hp
  · intro f hf htype hbuy hvalid
    have hname : f.1 ∈ (fixedFields plan).map Prod.fst := by
      revert f
      simp only [orderType, fixedFields, List.forall_mem_cons]
      simp
    obtain ⟨p, hp, hpf⟩ := List.mem_map.mp hname
    rw [← hpf]
    exact hfixed p hp
  · exact List.forall_mem_cons.mpr ⟨hm.floor, List.forall_mem_singleton.mpr hm'.floor⟩
  · exact List.forall_mem_cons.mpr ⟨hm.validTo, List.forall_mem_singleton.mpr hm'.validTo⟩
  · intro hnow
    have hpresent : ∀ message, MessageBound message plan now →
        ∃ v, getKey message "validTo" = some v := by
      intro message hb
      obtain ⟨n, hn, hlt, -⟩ := hb.validTo
      cases hv : getKey message "validTo" with
      | some v => exact ⟨v, rfl⟩
      | none =>
          -- A missing field reads as 0, which a clock is past.
          rw [signedValidTo, hv] at hn
          have hzero : (0 : ℤ) = n := Except.ok.inj hn
          omega
    exact List.forall_mem_cons.mpr
      ⟨hpresent m hm, List.forall_mem_singleton.mpr (hpresent m' hm')⟩

/-! ## Orders from honest quotes -/

theorem isZeroAppData_zero : isZeroAppData (some (.str cowZeroAppData)) = true := by
  have hascii : ∀ c ∈ cowZeroAppData.toList, c.toNat < 128 := fun c hc =>
    (cowZeroAppData_ascii c hc).1
  have hsame : cowZeroAppData.toList.map Char.toLower = cowZeroAppData.toList := by
    rw [cowZeroAppData_toList]
    decide
  rw [isZeroAppData, beq_iff_eq, PyUnicode.lower_ascii _ hascii, hsame, String.ofList_toList]

/-- **An honest quote's order passes the gate.** -/
theorem verifyCowOrder_buildOrder {quote : CowQuote} {plan : CowOrderPlan} {now : ℤ}
    {toleranceBps : ℤ} (hsell : addrEq (some quote.sellToken) plan.sellToken = true)
    (hbuy : addrEq (some quote.buyToken) plan.buyToken = true)
    (hreceiver : addrEq (some quote.receiver) plan.receiver = true)
    (hnonzero : isZeroReceiver (some quote.receiver) = false)
    (htotal : quote.sellAmountTotal = plan.sellAmount)
    (hfloor : plan.minBuyAmount ≤ quote.buyAmount * (10000 - toleranceBps) / 10000)
    (hafter : now < quote.validTo) (hnear : quote.validTo ≤ now + plan.maxValidity) :
    verifyCowOrder (buildOrder quote toleranceBps) plan now = .ok [] := by
  refine verifyCowOrder_ok.mpr
    { sellToken := hsell, buyToken := hbuy, receiver := hreceiver, receiver_nonzero := hnonzero
      sellAmount := ?_, buyAmount := ⟨_, Json.toInt_toString _, hfloor⟩
      feeAmount := Json.toInt_toString 0
      kind := rfl, partiallyFillable := rfl, sellTokenBalance := rfl, buyTokenBalance := rfl
      appData := isZeroAppData_zero
      validTo := ⟨quote.validTo, rfl, hafter, hnear⟩ }
  rw [← htotal]
  exact Json.toInt_toString _

/-- **The gate and the signature agree**: two orders that pass are signed alike,
    with `int(validTo)` in the window, and the orders of honest quotes pass. -/
theorem verifyCowOrder_authorises (shown : Json → String) (plan : CowOrderPlan) (now : ℤ) :
    (∀ order order' data data', verifyCowOrder order plan now = .ok [] →
      verifyCowOrder order' plan now = .ok [] →
      orderTypedData shown order = .ok data → orderTypedData shown order' = .ok data' →
      SignedAlike plan now data data')
    ∧ ∀ (quote : CowQuote) (toleranceBps : ℤ),
      addrEq (some quote.sellToken) plan.sellToken = true →
      addrEq (some quote.buyToken) plan.buyToken = true →
      addrEq (some quote.receiver) plan.receiver = true →
      isZeroReceiver (some quote.receiver) = false →
      quote.sellAmountTotal = plan.sellAmount →
      plan.minBuyAmount ≤ quote.buyAmount * (10000 - toleranceBps) / 10000 →
      now < quote.validTo → quote.validTo ≤ now + plan.maxValidity →
      verifyCowOrder (buildOrder quote toleranceBps) plan now = .ok [] := by
  constructor
  · intro order order' data data' hpass hpass' h h'
    exact signedFields_bound hpass hpass' h h'
  · intro quote toleranceBps hsell hbuy hreceiver hnonzero htotal hfloor hafter hnear
    exact verifyCowOrder_buildOrder hsell hbuy hreceiver hnonzero htotal hfloor hafter hnear

end Orders

/-! ## A sale of USDC for DAI -/

def usdcQuote : CowQuote where
  sellToken := .str "0xa0b86991c6218b36c1d19d4a2e9eb0ce3606eb48"
  buyToken := .str "0x6b175474e89094c44da98b954eedeac495271d0f"
  receiver := .str "0x1111111111111111111111111111111111111111"
  sellAmount := 990000
  feeAmount := 10000
  buyAmount := 1000000
  validTo := 8200

def usdcPlan : CowOrderPlan where
  sellToken := "0xA0b86991c6218b36c1d19D4a2e9Eb0cE3606eB48"
  buyToken := "0x6B175474E89094C44Da98b954EedeAC495271d0F"
  receiver := "0x1111111111111111111111111111111111111111"
  sellAmount := 1000000
  minBuyAmount := 995000
  expiry := 2000

/-- Another quote of the sale: the fee split off otherwise, more bought, sooner over,
    and its addresses in the plan's case. -/
def promptUsdcQuote : CowQuote where
  sellToken := .str usdcPlan.sellToken
  buyToken := .str usdcPlan.buyToken
  receiver := .str usdcPlan.receiver
  sellAmount := 975000
  feeAmount := 25000
  buyAmount := 1100000
  validTo := 3000

/-- The quote is for what the plan says. -/
theorem usdcQuote_addresses :
    let _ : PyUnicode := asciiUnicode
    addrEq (some usdcQuote.sellToken) usdcPlan.sellToken = true
    ∧ addrEq (some usdcQuote.buyToken) usdcPlan.buyToken = true
    ∧ addrEq (some usdcQuote.receiver) usdcPlan.receiver = true
    ∧ isZeroReceiver (some usdcQuote.receiver) = false :=
  ⟨by decide +kernel, by decide +kernel, by decide +kernel, by decide +kernel⟩

/-- The orders of both quotes pass, and are signed alike. -/
theorem verifyCowOrder_authorises_usdc :
    let _ : PyUnicode := asciiUnicode
    verifyCowOrder (buildOrder usdcQuote) usdcPlan 1000 = .ok []
    ∧ verifyCowOrder (buildOrder promptUsdcQuote) usdcPlan 1000 = .ok []
    ∧ ∃ data data', orderTypedData (fun _ => "") (buildOrder usdcQuote) = .ok data
      ∧ orderTypedData (fun _ => "") (buildOrder promptUsdcQuote) = .ok data'
      ∧ getKey data.message "validTo" = some (.json (.int 8200))
      ∧ getKey data'.message "validTo" = some (.json (.int 3000))
      ∧ SignedAlike usdcPlan 1000 data data' := by
  let _ : PyUnicode := asciiUnicode
  intro _
  have h := verifyCowOrder_authorises (fun _ => "") usdcPlan 1000
  obtain ⟨hsell, hbuy, hreceiver, hnonzero⟩ := usdcQuote_addresses
  have hpass := h.2 usdcQuote defaultCowToleranceBps hsell hbuy hreceiver hnonzero
    (by decide) (by decide) (by decide) (by decide)
  have hpass' := h.2 promptUsdcQuote defaultCowToleranceBps (by decide +kernel)
    (by decide +kernel) (by decide +kernel) (by decide +kernel)
    (by decide) (by decide) (by decide) (by decide)
  have hdata : orderTypedData (fun _ => "") (buildOrder usdcQuote) = .ok _ := rfl
  have hdata' : orderTypedData (fun _ => "") (buildOrder promptUsdcQuote) = .ok _ := rfl
  exact ⟨hpass, hpass', _, _, hdata, hdata', rfl, rfl,
    h.1 _ _ _ _ hpass hpass' hdata hdata'⟩

/-- An order whose validity is a fraction: half a second past the last second. -/
def halfSecondOrder : Order :=
  setKey (buildOrder usdcQuote) "validTo" (.float (.finite (16401 / 2)))

/-- The gate cuts the fraction off; the message keeps it, past the window. -/
theorem verifyCowOrder_halfSecond :
    let _ : PyUnicode := asciiUnicode
    verifyCowOrder halfSecondOrder usdcPlan 1000 = .ok []
    ∧ ∃ data, orderTypedData (fun _ => "") halfSecondOrder = .ok data
      ∧ getKey data.message "validTo" = some (.json (.float (.finite (16401 / 2))))
      ∧ ((1000 + usdcPlan.maxValidity : ℤ) : ℚ) < 16401 / 2 := by
  let _ : PyUnicode := asciiUnicode
  intro _
  have hint : (Json.float (.finite (16401 / 2))).toInt = .ok 8200 := by
    have hfloor : ⌊(16401 / 2 : ℚ)⌋ = 8200 := by norm_num
    rw [Json.toInt, Json.toIntBy, BinaryFloat.Double.toInt, if_pos (by norm_num), hfloor]
  obtain ⟨hsell, hbuy, hreceiver, hnonzero⟩ := usdcQuote_addresses
  have hbound : OrderBound (buildOrder usdcQuote) usdcPlan 1000 :=
    verifyCowOrder_ok.mp (verifyCowOrder_buildOrder hsell hbuy hreceiver hnonzero
      (by decide) (by decide) (by decide) (by decide))
  refine ⟨verifyCowOrder_ok.mpr
    { hbound with validTo := ⟨8200, hint, by decide, by decide⟩ }, _, rfl, rfl, ?_⟩
  norm_num [usdcPlan, cowMaxOrderValidity]

end SwapsackCow
