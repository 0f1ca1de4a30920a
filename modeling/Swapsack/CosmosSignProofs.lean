import Swapsack.CosmosTxProofs

/-! # What a Cosmos signature covers

    SIGN_MODE_DIRECT signs the serialized `SignDoc`: the body, the auth info,
    the chain and the account number.  Fields at their default are omitted, and
    messages and fee coins are repeated, so it is not obvious that the bytes
    still determine the transaction.

    * `any_injective`, `coin_injective`, `txBody_injective`, `signerInfo_injective`,
      `fee_injective` — each message determines what it was built from;
    * `signBytes_injective` — the signed bytes determine the whole transaction. -/

namespace SwapsackCosmosSign

open ListKit ByteString Wire SwapsackBase SwapsackCosmosTx

/-- The type of the key in an `Any`. -/
def pubkeyTypeUrl : String := "/cosmos.crypto.secp256k1.PubKey"

/-- `SIGN_MODE_DIRECT`: the signature is over the bytes of the sign doc. -/
def signModeDirect : ℕ := 1

/-! ## The builders -/

/-- `_uint64`: only a number that is not negative has a base-128 form. -/
def uint64 (field : ℕ) (value : ℤ) : Except PyError Bytes :=
  if value < 0 then .error (.valueError "varint cannot encode a negative number")
  else .ok (Wire.uint64 field value.toNat)

/-- A compressed key, wrapped with its type. -/
def pubkeyAny (compressedPubkey : Bytes) : Bytes :=
  any pubkeyTypeUrl (delimited 1 compressedPubkey)

/-- `ModeInfo { single { mode } }`; the mode is not zero, so it is written. -/
def modeInfoDirect : Bytes :=
  let single := tag 1 0 ++ varint signModeDirect
  delimited 1 single

/-- The one signer: its key, how it signs and its sequence number. -/
def signerInfo (compressedPubkey : Bytes) (sequence : ℤ) : Except PyError Bytes := do
  let seq ← uint64 3 sequence
  .ok (delimited 1 (pubkeyAny compressedPubkey) ++ delimited 2 modeInfoDirect ++ seq)

/-- The fee coins, in the order given, and the gas limit. -/
def fee (coins : List (String × String)) (gasLimit : ℤ) : Except PyError Bytes := do
  let gas ← uint64 2 gasLimit
  .ok (coins.flatMap (fun c => delimited 1 (coin c.1 c.2)) ++ gas)

/-- One signer and the fee; refused as either of them is. -/
def authInfo (compressedPubkey : Bytes) (sequence : ℤ)
    (feeCoins : List (String × String)) (gasLimit : ℤ) : Except PyError Bytes := do
  let signer ← signerInfo compressedPubkey sequence
  let feeBytes ← fee feeCoins gasLimit
  .ok (delimited 1 signer ++ delimited 2 feeBytes)

/-- What is signed: the body, the auth info, the chain and the account. -/
def signDoc (bodyBytes authInfoBytes : Bytes) (chainId : String) (accountNumber : ℤ) :
    Except PyError Bytes := do
  let account ← uint64 4 accountNumber
  .ok (delimited 1 bodyBytes ++ delimited 2 authInfoBytes ++ string 3 chainId ++ account)

/-- Everything a signature is meant to authorise. -/
structure SignRequest where
  messages : List (String × Bytes)
  memo : String
  pubkey : Bytes
  sequence : ℤ
  feeCoins : List (String × String)
  gasLimit : ℤ
  chainId : String
  accountNumber : ℤ
deriving DecidableEq

/-- The bytes a signature covers. -/
def signBytes (r : SignRequest) : Except PyError Bytes := do
  let auth ← authInfo r.pubkey r.sequence r.feeCoins r.gasLimit
  signDoc (txBody r.messages r.memo) auth r.chainId r.accountNumber

/-! ## The fields each message is read as -/

/-- A number that is written is a natural number, and is one field or none. -/
theorem encodes_uint64 {field : ℕ} {value : ℤ} {bs : Bytes}
    (h : uint64 field value = .ok bs) :
    ∃ n : ℕ, value = n ∧ EncodesFields bs (uintField field n) := by
  rw [uint64] at h
  split at h
  · cases h
  · rename_i hneg
    cases h
    exact ⟨value.toNat, by omega, Wire.encodes_uint64 field value.toNat⟩

/-- The fields of a signer that was written. -/
theorem encodes_signerInfo {pubkey : Bytes} {sequence : ℤ} {bs : Bytes}
    (h : signerInfo pubkey sequence = .ok bs) :
    ∃ n : ℕ, sequence = n ∧ EncodesFields bs
      ([(1, .bytes (pubkeyAny pubkey))] ++ [(2, .bytes modeInfoDirect)]
        ++ uintField 3 n) := by
  obtain ⟨seq, hseq, h⟩ := bind_eq_ok h
  cases h
  obtain ⟨n, hn, hfield⟩ := encodes_uint64 hseq
  exact ⟨n, hn, ((encodes_delimited 1 _).append (encodes_delimited 2 _)).append hfield⟩

/-- The fields of a fee that was written: one for each coin, and the gas. -/
theorem encodes_fee {coins : List (String × String)} {gasLimit : ℤ} {bs : Bytes}
    (h : fee coins gasLimit = .ok bs) :
    ∃ n : ℕ, gasLimit = n ∧ EncodesFields bs
      (coins.flatMap (fun c => [(1, .bytes (coin c.1 c.2))]) ++ uintField 2 n) := by
  obtain ⟨gas, hgas, h⟩ := bind_eq_ok h
  cases h
  obtain ⟨n, hn, hfield⟩ := encodes_uint64 hgas
  exact ⟨n, hn, (encodes_flatMap
    (fun c : String × String => encodes_delimited 1 (coin c.1 c.2)) coins).append hfield⟩

/-- The fields of a sign doc that was written. -/
theorem encodes_signDoc {body auth : Bytes} {chainId : String} {accountNumber : ℤ}
    {bs : Bytes} (h : signDoc body auth chainId accountNumber = .ok bs) :
    ∃ n : ℕ, accountNumber = n ∧ EncodesFields bs
      ([(1, .bytes body)] ++ [(2, .bytes auth)] ++ stringField 3 chainId
        ++ uintField 4 n) := by
  obtain ⟨account, haccount, h⟩ := bind_eq_ok h
  cases h
  obtain ⟨n, hn, hfield⟩ := encodes_uint64 haccount
  exact ⟨n, hn, (((encodes_delimited 1 _).append (encodes_delimited 2 _)).append
    (encodes_string 3 _)).append hfield⟩

/-! ## Each message determines what it was built from -/

/-- The bytes of a coin name its denomination and its amount. -/
theorem coin_injective {d a d' a' : String} (h : coin d a = coin d' a') :
    d = d' ∧ a = a' := by
  have hfields := (encodes_coin d a).injective (h ▸ encodes_coin d' a')
  have hdenom := congrArg (Fields.values · 1) hfields
  have hamount := congrArg (Fields.values · 2) hfields
  simp only [Fields.values_append, ne_eq, OfNat.ofNat_ne_one, OfNat.one_ne_ofNat,
    not_false_eq_true, values_stringField_of_ne, List.append_nil, List.nil_append]
    at hdenom hamount
  exact ⟨values_stringField_injective hdenom, values_stringField_injective hamount⟩

/-- The bytes of an `Any` name its type and its value. -/
theorem any_injective {url url' : String} {value value' : Bytes}
    (h : any url value = any url' value') : url = url' ∧ value = value' := by
  have hfields := (encodes_any url value).injective (h ▸ encodes_any url' value')
  have hurl := congrArg (Fields.values · 1) hfields
  have hvalue := congrArg (Fields.values · 2) hfields
  simp only [Fields.values_append, Fields.values_cons, Fields.values_nil,
    OfNat.ofNat_ne_one, OfNat.one_ne_ofNat, ne_eq, not_false_eq_true,
    values_stringField_of_ne, ↓reduceIte, List.append_nil, List.nil_append,
    List.cons.injEq, Value.bytes.injEq, and_true] at hurl hvalue
  exact ⟨values_stringField_injective hurl, hvalue⟩

/-- Repeated messages are read back one by one. -/
theorem map_bytes_injective {α : Type} {enc : α → Bytes} (henc : ∀ a b, enc a = enc b → a = b)
    {l l' : List α}
    (h : l.map (fun a => Value.bytes (enc a)) = l'.map fun a => Value.bytes (enc a)) :
    l = l' :=
  List.map_injective_iff.mpr (fun _ _ hab => henc _ _ (Value.bytes.inj hab)) h

/-- **The bytes of a body name its messages and its memo.** -/
theorem txBody_injective {messages messages' : List (String × Bytes)} {memo memo' : String}
    (h : txBody messages memo = txBody messages' memo') :
    messages = messages' ∧ memo = memo' := by
  have hfields := (encodes_txBody messages memo).injective (h ▸ encodes_txBody messages' memo')
  have hmessages := congrArg (Fields.values · 1) hfields
  have hmemo := congrArg (Fields.values · 2) hfields
  simp only [Fields.values_append, values_flatMap,
    values_stringField_of_ne (by decide : (2 : ℕ) ≠ 1), List.append_nil] at hmessages
  simp only [Fields.values_append, values_flatMap_of_ne (by decide : (1 : ℕ) ≠ 2),
    List.nil_append] at hmemo
  refine ⟨map_bytes_injective ?_ hmessages, values_stringField_injective hmemo⟩
  intro m m' hany
  obtain ⟨hurl, hvalue⟩ := any_injective hany
  exact Prod.ext hurl hvalue

/-- The public key is two messages deep. -/
theorem pubkeyAny_injective {pubkey pubkey' : Bytes}
    (h : pubkeyAny pubkey = pubkeyAny pubkey') : pubkey = pubkey' := by
  obtain ⟨-, hfield⟩ := any_injective h
  have hread : EncodesFields (delimited 1 pubkey) [(1, .bytes pubkey)] :=
    encodes_delimited 1 pubkey
  have hread' : EncodesFields (delimited 1 pubkey) [(1, .bytes pubkey')] :=
    hfield ▸ encodes_delimited 1 pubkey'
  exact Value.bytes.inj (Prod.mk.inj (List.cons.inj (hread.injective hread')).1).2

/-- The bytes of a signer name its key and its sequence number. -/
theorem signerInfo_injective {pubkey pubkey' : Bytes} {sequence sequence' : ℤ} {bs : Bytes}
    (h : signerInfo pubkey sequence = .ok bs) (h' : signerInfo pubkey' sequence' = .ok bs) :
    pubkey = pubkey' ∧ sequence = sequence' := by
  obtain ⟨n, rfl, hfields⟩ := encodes_signerInfo h
  obtain ⟨n', rfl, hfields'⟩ := encodes_signerInfo h'
  have heq := hfields.injective hfields'
  have hpubkey := congrArg (Fields.values · 1) heq
  have hsequence := congrArg (Fields.values · 3) heq
  simp only [Fields.values_cons, OfNat.ofNat_ne_one, OfNat.one_ne_ofNat,
    Nat.reduceEqDiff, ne_eq, not_false_eq_true, values_uintField_of_ne, ↓reduceIte, List.append_nil, List.nil_append,
    List.cons_append, List.cons.injEq, Value.bytes.injEq, and_true] at hpubkey hsequence
  exact ⟨pubkeyAny_injective hpubkey, congrArg _ (values_uintField_injective hsequence)⟩

/-- The bytes of a fee name its coins, in order, and its gas limit. -/
theorem fee_injective {coins coins' : List (String × String)} {gas gas' : ℤ} {bs : Bytes}
    (h : fee coins gas = .ok bs) (h' : fee coins' gas' = .ok bs) :
    coins = coins' ∧ gas = gas' := by
  obtain ⟨n, rfl, hfields⟩ := encodes_fee h
  obtain ⟨n', rfl, hfields'⟩ := encodes_fee h'
  have heq := hfields.injective hfields'
  have hcoins := congrArg (Fields.values · 1) heq
  have hgas := congrArg (Fields.values · 2) heq
  simp only [Fields.values_append, values_flatMap,
    values_uintField_of_ne (by decide : (2 : ℕ) ≠ 1), List.append_nil] at hcoins
  simp only [Fields.values_append, values_flatMap_of_ne (by decide : (1 : ℕ) ≠ 2),
    List.nil_append] at hgas
  refine ⟨map_bytes_injective ?_ hcoins, congrArg _ (values_uintField_injective hgas)⟩
  intro c c' hcoin
  obtain ⟨hdenom, hamount⟩ := coin_injective hcoin
  exact Prod.ext hdenom hamount

theorem authInfo_injective {pubkey pubkey' : Bytes} {sequence sequence' gas gas' : ℤ}
    {coins coins' : List (String × String)} {bs : Bytes}
    (h : authInfo pubkey sequence coins gas = .ok bs)
    (h' : authInfo pubkey' sequence' coins' gas' = .ok bs) :
    pubkey = pubkey' ∧ sequence = sequence' ∧ coins = coins' ∧ gas = gas' := by
  obtain ⟨signer, hsigner, h⟩ := bind_eq_ok h
  obtain ⟨feeBytes, hfee, h⟩ := bind_eq_ok h
  obtain ⟨signer', hsigner', h'⟩ := bind_eq_ok h'
  obtain ⟨feeBytes', hfee', h'⟩ := bind_eq_ok h'
  have hbytes := Except.ok.inj (h.trans h'.symm)
  have hread : ∀ s f : Bytes, EncodesFields (delimited 1 s ++ delimited 2 f)
      ([(1, .bytes s)] ++ [(2, .bytes f)]) := fun s f =>
    (encodes_delimited 1 s).append (encodes_delimited 2 f)
  have heq := (hread signer feeBytes).injective (hbytes ▸ hread signer' feeBytes')
  simp only [List.cons_append, List.nil_append, List.cons.injEq, Prod.mk.injEq,
    Value.bytes.injEq, true_and, and_true] at heq
  obtain ⟨rfl, rfl⟩ := heq
  obtain ⟨hpubkey, hsequence⟩ := signerInfo_injective hsigner hsigner'
  obtain ⟨hcoins, hgas⟩ := fee_injective hfee hfee'
  exact ⟨hpubkey, hsequence, hcoins, hgas⟩

theorem signDoc_injective {body body' auth auth' : Bytes} {chainId chainId' : String}
    {account account' : ℤ} {bs : Bytes} (h : signDoc body auth chainId account = .ok bs)
    (h' : signDoc body' auth' chainId' account' = .ok bs) :
    body = body' ∧ auth = auth' ∧ chainId = chainId' ∧ account = account' := by
  obtain ⟨n, rfl, hfields⟩ := encodes_signDoc h
  obtain ⟨n', rfl, hfields'⟩ := encodes_signDoc h'
  have heq := hfields.injective hfields'
  have hbody := congrArg (Fields.values · 1) heq
  have hauth := congrArg (Fields.values · 2) heq
  have hchain := congrArg (Fields.values · 3) heq
  have haccount := congrArg (Fields.values · 4) heq
  simp only [Fields.values_append, Fields.values_cons, OfNat.ofNat_ne_one,
    OfNat.one_ne_ofNat, Nat.succ_ne_self, Nat.reduceEqDiff, ne_eq, not_false_eq_true, values_stringField_of_ne, values_uintField_of_ne, ↓reduceIte,
    List.append_nil, List.nil_append, List.cons_append, List.cons.injEq,
    Value.bytes.injEq, and_true] at hbody hauth hchain haccount
  exact ⟨hbody, hauth, values_stringField_injective hchain,
    congrArg _ (values_uintField_injective haccount)⟩

/-! ## The whole transaction -/

/-- **A signature covers one transaction**: the signed bytes determine the
    messages, the memo, the key, the sequence, the fee, the gas, the chain and
    the account. -/
theorem signBytes_injective {r r' : SignRequest} {bs : Bytes} (h : signBytes r = .ok bs)
    (h' : signBytes r' = .ok bs) : r = r' := by
  obtain ⟨auth, hauth, h⟩ := bind_eq_ok h
  obtain ⟨auth', hauth', h'⟩ := bind_eq_ok h'
  obtain ⟨hbody, rfl, hchain, haccount⟩ := signDoc_injective h h'
  obtain ⟨hmessages, hmemo⟩ := txBody_injective hbody
  obtain ⟨hpubkey, hsequence, hcoins, hgas⟩ := authInfo_injective hauth hauth'
  cases r
  cases r'
  simp only [SignRequest.mk.injEq]
  exact ⟨hmessages, hmemo, hpubkey, hsequence, hcoins, hgas, hchain, haccount⟩

/-- A swap out of RUNE, its gas written in two ways. -/
def depositRequest (gasLimit : ℤ) : SignRequest where
  messages := [(msgDepositTypeUrl, msgDeposit [("THOR.RUNE", "100000000")]
    "=:BTC.BTC:bc1qw508d6qejxtdg4y5r3zarvary0c5xw7kv8f3t4" (List.replicate 20 0x01))]
  memo := ""
  pubkey := 0x02 :: List.replicate 32 0x01
  sequence := 7
  feeCoins := []
  gasLimit
  chainId := "thorchain-1"
  accountNumber := 0

theorem signBytes_injective_deposit :
    depositRequest 4000000 = depositRequest (4 * 10 ^ 6) := by
  obtain ⟨bs, hbs⟩ : ∃ bs, signBytes (depositRequest 4000000) = .ok bs :=
    exists_of_isOk (by decide +kernel)
  exact signBytes_injective hbs hbs

end SwapsackCosmosSign
