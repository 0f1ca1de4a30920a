import Swapsack.BaseProofs
import Swapsack.PyTextProofs
import Swapsack.WireProofs

/-! # Cosmos transaction bodies

    The THORChain-family chains take a serialized body: an `Any` message — a
    `MsgSend` or a `MsgDeposit` — and an outer memo.  The wallet writes these by
    hand and, for its gates, reads back what it wrote.  The reader keeps every
    occurrence of every field; the decoders look at the first of a few.

    * `decodeMsgSendBody_txBody` — whatever is decoded from a single `MsgSend`
      is what it was built from;
    * `decodeMsgDepositBody_txBody` — the same for a single `MsgDeposit`. -/

namespace SwapsackCosmosTx

open ListKit ByteString PyText Wire SwapsackBase

/-- The type of a bank send. -/
def msgSendTypeUrl : String := "/cosmos.bank.v1beta1.MsgSend"

/-- MayaChain's native deposit message (a THORChain fork; same type name). -/
def msgDepositTypeUrl : String := "/types.MsgDeposit"

/-! ## Message builders -/

/-- A coin: its denomination and its amount, as texts. -/
def coin (denom amount : String) : Bytes := string 1 denom ++ string 2 amount

/-- A message, wrapped with its type. -/
def any (typeUrl : String) (value : Bytes) : Bytes :=
  string 1 typeUrl ++ delimited 2 value

/-- A `MsgSend` with a single coin. -/
def msgSend (fromAddr toAddr denom amount : String) : Bytes :=
  string 1 fromAddr ++ string 2 toAddr ++ delimited 3 (coin denom amount)

/-- The chain and the symbol of an asset, as `asset.partition(".")` gives them. -/
def assetChain (asset : String) : String :=
  String.ofList (partition '.' asset.toList).1

/-- What stands behind the first dot of an asset. -/
def assetSymbol (asset : String) : String :=
  String.ofList (partition '.' asset.toList).2.2

/-- `symbol.split("-")[0]`. -/
def assetTicker (asset : String) : String :=
  String.ofList (partition '-' (assetSymbol asset).toList).1

/-- An asset: its chain, its symbol and its ticker. -/
def assetMsg (asset : String) : Bytes :=
  string 1 (assetChain asset) ++ string 2 (assetSymbol asset)
    ++ string 3 (assetTicker asset)

/-- One coin of a deposit: a nested asset and an amount. -/
def depositCoin (c : String × String) : Bytes :=
  delimited 1 (assetMsg c.1) ++ string 2 c.2

/-- A `MsgDeposit` (swap / add-liquidity), memo in the message. -/
def msgDeposit (coins : List (String × String)) (memo : String)
    (signerAddrBytes : Bytes) : Bytes :=
  coins.flatMap (fun c => delimited 1 (depositCoin c)) ++ string 2 memo
    ++ delimited 3 signerAddrBytes

/-- The body: the messages, wrapped, and the memo. -/
def txBody (messages : List (String × Bytes)) (memo : String) : Bytes :=
  messages.flatMap (fun m => delimited 1 (any m.1 m.2)) ++ string 2 memo

/-! ## Decoding -/

/-- The fields of a message, refused as Python refuses them. -/
def readFields (data : Bytes) : Except PyError Fields :=
  Wire.readFields .indexError
    (fun wire => .valueError s!"unsupported protobuf wire type {wire}") data

/-- `fields[n][0]`. -/
def first (fields : Fields) (n : ℕ) : Except PyError Value :=
  match fields.values n with
  | [] => .error .keyError
  | value :: _ => .ok value

/-- `value.decode()`; an integer has no such method. -/
def decodeText : Value → Except PyError String
  | .bytes b =>
      match decodeUtf8 b with
      | none => .error .unicodeError
      | some s => .ok s
  | .varint _ => .error .attributeError

/-- `_read_fields(value)`; an integer has no length. -/
def readMessage : Value → Except PyError Fields
  | .bytes b => readFields b
  | .varint _ => .error .typeError

/-- Bytes are a message. -/
@[simp] theorem readMessage_bytes (b : Bytes) : readMessage (.bytes b) = readFields b :=
  rfl

/-- `fields[n][0].decode()`. -/
def firstText (fields : Fields) (n : ℕ) : Except PyError String := do
  let value ← first fields n
  decodeText value

/-- `_read_fields(fields[n][0])`. -/
def firstMessage (fields : Fields) (n : ℕ) : Except PyError Fields := do
  let value ← first fields n
  readMessage value

/-- `fields.get(n, [b""])[0].decode()`. -/
def firstTextOr (fields : Fields) (n : ℕ) : Except PyError String :=
  match fields.values n with
  | [] => .ok ""
  | value :: _ => decodeText value

/-- What the decoder reports of a `MsgSend` body. -/
structure DecodedSend where
  typeUrl : String
  fromAddr : String
  toAddr : String
  denom : String
  amount : String
  memo : String
deriving DecidableEq

/-- What the decoder reports of a `MsgDeposit` body. -/
structure DecodedDeposit where
  typeUrl : String
  coins : List (String × String)
  memo : String
  signer : Value
  outerMemo : String
deriving DecidableEq

/-- Decode a single-`MsgSend` body back to its fields. -/
def decodeMsgSendBody (bodyBytes : Bytes) : Except PyError DecodedSend := do
  let body ← readFields bodyBytes
  let memo ← firstTextOr body 2
  let anyMsg ← firstMessage body 1
  let typeUrl ← firstText anyMsg 1
  let msg ← firstMessage anyMsg 2
  let coin ← firstMessage msg 3
  let fromAddr ← firstText msg 1
  let toAddr ← firstText msg 2
  let denom ← firstText coin 1
  let amount ← firstText coin 2
  .ok { typeUrl, fromAddr, toAddr, denom, amount, memo }

/-- One coin of a deposit, as `CHAIN.SYMBOL` and amount. -/
def decodeCoin (value : Value) : Except PyError (String × String) := do
  let coin ← readMessage value
  let asset ← firstMessage coin 1
  let chain ← firstText asset 1
  let symbol ← firstText asset 2
  let amount ← firstText coin 2
  .ok (chain ++ "." ++ symbol, amount)

/-- Decode a single-`MsgDeposit` body back to its fields. -/
def decodeMsgDepositBody (bodyBytes : Bytes) : Except PyError DecodedDeposit := do
  let body ← readFields bodyBytes
  let outerMemo ← firstTextOr body 2
  let anyMsg ← firstMessage body 1
  let typeUrl ← firstText anyMsg 1
  let msg ← firstMessage anyMsg 2
  let coins ← (msg.values 1).mapM decodeCoin
  let memo ← firstTextOr msg 2
  let signer : Value :=
    match msg.values 3 with
    | [] => .bytes []
    | value :: _ => value
  .ok { typeUrl, coins, memo, signer, outerMemo }

/-! ## What a body of one message decodes to -/

/-- The bytes read, for this module's reader, as these fields. -/
abbrev EncodesFields (bs : Bytes) (fs : Fields) : Prop :=
  Encodes PyError.indexError
    (fun wire => .valueError s!"unsupported protobuf wire type {wire}") bs fs

/-- What encodes some fields is read as them. -/
theorem readFields_of_encodes {bs : Bytes} {fs : Fields} (h : EncodesFields bs fs) :
    readFields bs = .ok fs :=
  h.readFields

section Fields

variable {fields : Fields} {n : ℕ} {s t : String}

/-- A text read from a field is the text written there, and was not empty. -/
theorem firstText_ok (hv : fields.values n = (stringField n s).values n)
    (h : firstText fields n = .ok t) : t = s ∧ s ≠ "" := by
  rw [firstText, first] at h
  rw [hv] at h
  rw [stringField] at h
  by_cases hempty : s = ""
  · rw [if_pos hempty] at h
    cases h
  · rw [if_neg hempty, Fields.values_cons, if_pos rfl] at h
    have htext : decodeText (.bytes (encodeUtf8 s)) = .ok t := h
    rw [decodeText, decodeUtf8_encodeUtf8] at htext
    exact ⟨(Except.ok.inj htext).symm, hempty⟩

/-- A text that is written is the one that is read, also the empty one. -/
theorem firstTextOr_eq (hv : fields.values n = (stringField n s).values n) :
    firstTextOr fields n = .ok s := by
  rw [firstTextOr]
  rw [hv]
  rw [stringField]
  by_cases hempty : s = ""
  · rw [if_pos hempty, hempty]
    rfl
  · rw [if_neg hempty, Fields.values_cons, if_pos rfl]
    show decodeText (.bytes (encodeUtf8 s)) = .ok s
    rw [decodeText, decodeUtf8_encodeUtf8]

/-- So is a message. -/
theorem firstMessage_eq {b : Bytes} (hv : fields.values n = [.bytes b]) :
    firstMessage fields n = readFields b := by
  rw [firstMessage, first]
  rw [hv]
  rfl

end Fields

/-- The fields of a coin, and so on for each message. -/
theorem encodes_coin (denom amount : String) :
    EncodesFields (coin denom amount) (stringField 1 denom ++ stringField 2 amount) :=
  (encodes_string 1 denom).append (encodes_string 2 amount)

/-- Those of a wrapped message. -/
theorem encodes_any (typeUrl : String) (value : Bytes) :
    EncodesFields (any typeUrl value)
      (stringField 1 typeUrl ++ [(2, .bytes value)]) :=
  (encodes_string 1 typeUrl).append (encodes_delimited 2 value)

/-- Those of a send, which has one coin. -/
theorem encodes_msgSend (fromAddr toAddr denom amount : String) :
    EncodesFields (msgSend fromAddr toAddr denom amount)
      (stringField 1 fromAddr ++ stringField 2 toAddr
        ++ [(3, .bytes (coin denom amount))]) :=
  ((encodes_string 1 fromAddr).append (encodes_string 2 toAddr)).append
    (encodes_delimited 3 _)

/-- Those of a body: one for each message, and the memo. -/
theorem encodes_txBody (messages : List (String × Bytes)) (memo : String) :
    EncodesFields (txBody messages memo)
      (messages.flatMap (fun m => [(1, .bytes (any m.1 m.2))])
        ++ stringField 2 memo) :=
  (encodes_flatMap (fun m : String × Bytes => encodes_delimited 1 (any m.1 m.2))
    messages).append (encodes_string 2 memo)

/-- **A single `MsgSend` is read back**: whatever is decoded from it is what it
    was built from. -/
theorem decodeMsgSendBody_txBody {fromAddr toAddr denom amount : String}
    {decoded : DecodedSend}
    (h : decodeMsgSendBody (txBody
      [(msgSendTypeUrl, msgSend fromAddr toAddr denom amount)] "") = .ok decoded) :
    decoded = { typeUrl := msgSendTypeUrl, fromAddr, toAddr, denom, amount
                memo := "" } := by
  rw [decodeMsgSendBody] at h
  rw [readFields_of_encodes (encodes_txBody _ _), ok_bind,
    firstTextOr_eq (s := "") (by simp), ok_bind,
    firstMessage_eq (b := any msgSendTypeUrl (msgSend fromAddr toAddr denom amount))
      (by simp [values_stringField_of_ne]),
    readFields_of_encodes (encodes_any _ _), ok_bind] at h
  obtain ⟨url, hurl, h⟩ := bind_eq_ok h
  rw [firstMessage_eq (b := msgSend fromAddr toAddr denom amount)
      (by simp [values_stringField_of_ne]),
    readFields_of_encodes (encodes_msgSend _ _ _ _), ok_bind,
    firstMessage_eq (b := coin denom amount) (by simp [values_stringField_of_ne]),
    readFields_of_encodes (encodes_coin _ _), ok_bind] at h
  obtain ⟨f, hf, h⟩ := bind_eq_ok h
  obtain ⟨t, ht, h⟩ := bind_eq_ok h
  obtain ⟨d, hd, h⟩ := bind_eq_ok h
  obtain ⟨a, ha, h⟩ := bind_eq_ok h
  have hurl' := firstText_ok (s := msgSendTypeUrl) (by simp) hurl
  have hf' := firstText_ok (s := fromAddr) (by simp [values_stringField_of_ne]) hf
  have ht' := firstText_ok (s := toAddr) (by simp [values_stringField_of_ne]) ht
  have hd' := firstText_ok (s := denom) (by simp [values_stringField_of_ne]) hd
  have ha' := firstText_ok (s := amount) (by simp [values_stringField_of_ne]) ha
  rw [hurl'.1, hf'.1, ht'.1, hd'.1, ha'.1] at h
  exact (Except.ok.inj h).symm

/-- Those of an asset. -/
theorem encodes_assetMsg (asset : String) :
    EncodesFields (assetMsg asset)
      (stringField 1 (assetChain asset) ++ stringField 2 (assetSymbol asset)
        ++ stringField 3 (assetTicker asset)) :=
  ((encodes_string 1 _).append (encodes_string 2 _)).append (encodes_string 3 _)

/-- Those of a deposited coin. -/
theorem encodes_depositCoin (c : String × String) :
    EncodesFields (depositCoin c)
      ([(1, .bytes (assetMsg c.1))] ++ stringField 2 c.2) :=
  (encodes_delimited 1 _).append (encodes_string 2 c.2)

/-- Those of a deposit: one for each coin, the memo and the signer. -/
theorem encodes_msgDeposit (coins : List (String × String)) (memo : String)
    (signer : Bytes) :
    EncodesFields (msgDeposit coins memo signer)
      (coins.flatMap (fun c => [(1, .bytes (depositCoin c))]) ++ stringField 2 memo
        ++ [(3, .bytes signer)]) :=
  ((encodes_flatMap (fun c => encodes_delimited 1 (depositCoin c)) coins).append
    (encodes_string 2 memo)).append (encodes_delimited 3 signer)

/-- An asset that has a symbol is its chain, a dot, and its symbol. -/
theorem assetChain_symbol {asset : String} (h : assetSymbol asset ≠ "") :
    assetChain asset ++ "." ++ assetSymbol asset = asset := by
  have hrest : (partition '.' asset.toList).2.2 ≠ [] := by
    intro hnil
    refine h ?_
    rw [assetSymbol]
    rw [hnil]
  have hjoin := partition_join hrest
  apply String.toList_inj.mp
  rw [assetChain, assetSymbol]
  rw [String.toList_append, String.toList_append, String.toList_ofList,
    String.toList_ofList, ← hjoin]
  simp [hjoin]

/-- A coin is read back; one without a chain, a symbol or an amount is not read. -/
theorem decodeCoin_depositCoin {c r : String × String}
    (h : decodeCoin (.bytes (depositCoin c)) = .ok r) : r = c := by
  rw [decodeCoin] at h
  rw [readMessage_bytes, readFields_of_encodes (encodes_depositCoin c), ok_bind,
    firstMessage_eq (b := assetMsg c.1) (by simp [values_stringField_of_ne]),
    readFields_of_encodes (encodes_assetMsg c.1), ok_bind] at h
  obtain ⟨chain, hchain, h⟩ := bind_eq_ok h
  obtain ⟨symbol, hsymbol, h⟩ := bind_eq_ok h
  obtain ⟨amount, hamount, h⟩ := bind_eq_ok h
  obtain ⟨hchain', -⟩ := firstText_ok (s := assetChain c.1)
    (by simp [values_stringField_of_ne]) hchain
  obtain ⟨hsymbol', hne⟩ := firstText_ok (s := assetSymbol c.1)
    (by simp [values_stringField_of_ne]) hsymbol
  obtain ⟨hamount', -⟩ := firstText_ok (s := c.2) (by simp) hamount
  rw [hchain', hsymbol', hamount', assetChain_symbol hne] at h
  exact (Except.ok.inj h).symm

/-- Deposited coins are read back in order. -/
theorem decodeCoins_depositCoin {coins r : List (String × String)}
    (h : (coins.map fun c => Value.bytes (depositCoin c)).mapM decodeCoin = .ok r) :
    r = coins := by
  have hall := mapM_ok_forall₂ h
  clear h
  rw [List.forall₂_map_left_iff] at hall
  induction hall with
  | nil => rfl
  | cons hc _ ih => rw [decodeCoin_depositCoin hc, ih]

/-- **A single `MsgDeposit` is read back**, under an empty outer memo. -/
theorem decodeMsgDepositBody_txBody {coins : List (String × String)} {memo : String}
    {signer : Bytes} {decoded : DecodedDeposit}
    (h : decodeMsgDepositBody (txBody
      [(msgDepositTypeUrl, msgDeposit coins memo signer)] "") = .ok decoded) :
    decoded = { typeUrl := msgDepositTypeUrl, coins, memo
                signer := .bytes signer, outerMemo := "" } := by
  rw [decodeMsgDepositBody] at h
  rw [readFields_of_encodes (encodes_txBody _ _), ok_bind,
    firstTextOr_eq (s := "") (by simp), ok_bind,
    firstMessage_eq (b := any msgDepositTypeUrl (msgDeposit coins memo signer))
      (by simp [values_stringField_of_ne]),
    readFields_of_encodes (encodes_any _ _), ok_bind] at h
  obtain ⟨url, hurl, h⟩ := bind_eq_ok h
  rw [firstMessage_eq (b := msgDeposit coins memo signer)
      (by simp [values_stringField_of_ne]),
    readFields_of_encodes (encodes_msgDeposit _ _ _), ok_bind] at h
  obtain ⟨cs, hcs, h⟩ := bind_eq_ok h
  rw [firstTextOr_eq (s := memo)
    (by simp [values_flatMap_of_ne]), ok_bind] at h
  have hurl' := firstText_ok (s := msgDepositTypeUrl) (by simp) hurl
  have hcs' : cs = coins := by
    refine decodeCoins_depositCoin ?_
    rw [← hcs]
    congr 1
    simp [values_flatMap, values_stringField_of_ne]
  rw [hurl'.1, hcs'] at h
  have hsigner : Fields.values (coins.flatMap (fun c => [(1, .bytes (depositCoin c))])
      ++ stringField 2 memo ++ [(3, .bytes signer)]) 3 = [.bytes signer] := by
    simp [values_flatMap_of_ne, values_stringField_of_ne]
  rw [hsigner] at h
  exact (Except.ok.inj h).symm

end SwapsackCosmosTx
