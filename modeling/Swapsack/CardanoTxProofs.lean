import Mathlib.Data.List.Sort
import Swapsack.Bech32Proofs
import Swapsack.CborProofs
import Swapsack.SettleProofs

/-! # Cardano transactions

    The slice of the ledger format a pure-ADA wallet needs: inputs, plain
    outputs, fee, expiry, a CIP-20 message bound into the body by its hash, and
    the witnesses.  Sets are written under a tag, in sorted order.  The CBOR
    library and BLAKE2b are parameters.

    * `serialize_length` — the bytes of a signed transaction: a part that the
      fee does not touch, and the fee's own encoding;
    * `requiredFee_isLeast` — the fee sizing settles at the least fee that pays
      for the bytes it is written in;
    * `settled_le_iff` — of two transactions, the one with fewer bytes apart
      from the fee needs no more fee, and only that one. -/

namespace SwapsackCardanoTx

open ListKit ByteString PyText SwapsackBase SwapsackBech32 Settle
open Cbor (Value headSize natSize intSize sizes entrySizes natSize_mono natSize_pow_le
  intSize_natCast sizes_perm entrySizes_append)

/-- The tag of a set. -/
def setTag : ℕ := 258

/-- The metadatum label of messages. -/
def cip20Label : ℤ := 674

/-- The ledger's limit on one metadata string, in bytes. -/
def metadataChunk : ℕ := 64

/-- The network id in the low nibble of a mainnet address header. -/
def mainnet : ℕ := 0x01

/-- What an output counts for besides its serialized size. -/
def utxoEntryOverhead : ℕ := 160

/-- The longest common Shelley address: a header and two 28-byte hashes. -/
def longestAddress : Bytes := UInt8.ofNat mainnet :: List.replicate 56 0

/-- The protocol parameters that the fee and the least output depend on. -/
structure ProtocolParams where
  minFeeA : ℕ
  minFeeB : ℕ
  coinsPerUtxoByte : ℕ
  maxTxSize : ℕ := 16384

/-- An input: the id of a transaction and one of its outputs. -/
structure TxIn where
  txid : Bytes
  index : ℤ
deriving DecidableEq

/-- An output of lovelace only. -/
structure TxOut where
  address : Bytes
  lovelace : ℤ
deriving DecidableEq

/-- An unsigned transaction; `ttl` is the last slot it is valid in. -/
structure UnsignedTx where
  inputs : List TxIn
  outputs : List TxOut
  fee : ℤ
  ttl : ℤ
  memo : Option String := none
deriving DecidableEq

/-- What the format takes from outside: the writer and the reader of the CBOR
    library, the order in which it iterates over a tagged set, the `repr` of
    what it read, and BLAKE2b-256. -/
structure Codec where
  dumps : Value → Bytes
  decode : Reader Unit Value
  asSet : List Value → List Value
  repr : Value → String
  blake2b256 : Bytes → Bytes

/-- The CBOR library writes numbers and lengths in shortest form. -/
def Codec.ShortestForm (c : Codec) : Prop := ∀ v, (c.dumps v).length = v.size

/-- A read of the CBOR library; what it raises is its own. -/
def Codec.read (c : Codec) : Reader PyError Value := fun data i =>
  match c.decode data i with
  | .error _ => .error .library
  | .ok r => .ok r

/-! ## Addresses -/

section Addresses

variable [PyUnicode]

/-- The raw bytes of a mainnet Shelley address. -/
def addressBytes (address : String) : Except PyError Bytes := do
  let (hrp, raw) ← bech32Decode address
  let refused :=
    PyError.valueError s!"not a mainnet Shelley address: {PyUnicode.repr address}"
  match raw with
  | [] => .error refused
  | header :: _ =>
      if hrp ≠ "addr".toList ∨ header.toNat &&& 0x0F ≠ mainnet then .error refused
      else .ok raw

end Addresses

/-- The text of an address. -/
def addressString (raw : Bytes) : Except PyError String := bech32Encode "addr" raw

/-- The payment credential of a key-hash address. -/
def paymentKeyHash (raw : Bytes) : Except PyError Bytes :=
  match raw with
  | [] => .error .indexError
  | header :: _ =>
      let kind := header.toNat >>> 4
      if kind ∉ [0, 2, 4, 6] then
        .error (.valueError s!"address type {kind} has no payment key hash")
      else .ok (slice raw 1 28)

/-! ## The memo -/

/-- The loop over the characters, from the chunk it is filling. -/
def chunkLoop : List Char → String → List String
  | [], current => [current]
  | char :: rest, current =>
      if current ≠ "" ∧ metadataChunk < (encodeUtf8 (current.push char)).length then
        current :: chunkLoop rest ("".push char)
      else chunkLoop rest (current.push char)

/-- Split a memo into strings of at most 64 bytes, between characters. -/
def memoChunks (memo : String) : List String := chunkLoop memo.toList ""

/-- The memo, in chunks under its label. -/
def metadataForMemo (memo : String) : Value :=
  .map [(.int cip20Label, .map [(.text "msg", .list ((memoChunks memo).map Value.text))])]

/-- The integer a value is, when it is one; a truth value counts as one. -/
def asInt : Value → Option ℤ
  | .int i => some i
  | .bool b => some (if b then 1 else 0)
  | _ => none

/-- The value under an integer key; of two equal keys the last one counts. -/
def lookupInt (entries : List (Value × Value)) (k : ℤ) : Option Value :=
  (entries.reverse.find? fun e => asInt e.1 == some k).map Prod.snd

/-- The value under a text key. -/
def lookupText (entries : List (Value × Value)) (k : String) : Option Value :=
  (entries.reverse.find? fun e =>
    match e.1 with
    | .text s => s == k
    | _ => false).map Prod.snd

def asText : Value → Except PyError String
  | .text s => .ok s
  | _ => .error .typeError

/-- The CIP-20 message in decoded auxiliary data, if there is one. -/
def memoFromMetadata (metadata : Value) : Except PyError (Option Bytes) :=
  match metadata with
  | .map entries =>
      match lookupInt entries cip20Label with
      | some (.map message) =>
          match lookupText message "msg" with
          | some (.list chunks) => do
              let texts ← chunks.mapM asText
              .ok (some (encodeUtf8 (String.join texts)))
          | _ => .ok none
      | _ => .ok none
  | _ => .ok none

/-! ## Serialization -/

section Serialize

variable (c : Codec)

/-- The auxiliary data of a memo. -/
def encodeAux (memo : String) : Bytes := c.dumps (metadataForMemo memo)

/-- Inputs in the order of their ids, then of their indices. -/
def inputLe (a b : TxIn) : Prop := a.txid < b.txid ∨ a.txid = b.txid ∧ a.index ≤ b.index

instance : DecidableRel inputLe := fun a b => by unfold inputLe; infer_instance

/-- Witnesses in the order of their keys, then of their signatures. -/
def witnessLe (a b : Bytes × Bytes) : Prop := a.1 < b.1 ∨ a.1 = b.1 ∧ a.2 ≤ b.2

instance : DecidableRel witnessLe := fun a b => by unfold witnessLe; infer_instance

/-- An input, an output and a witness, as they are written. -/
def inputItem (i : TxIn) : Value := .list [.bytes i.txid, .int i.index]

def outputItem (o : TxOut) : Value := .list [.bytes o.address, .int o.lovelace]

def witnessItem (w : Bytes × Bytes) : Value := .list [.bytes w.1, .bytes w.2]

/-- The entry that binds the memo into the body. -/
def auxHashEntry : Option String → List (Value × Value)
  | none => []
  | some memo => [(.int 7, .bytes (c.blake2b256 (encodeAux c memo)))]

/-- The body; its inputs are a set, written in order. -/
def bodyItem (tx : UnsignedTx) : Value :=
  .map ([(.int 0, .tag setTag (.list ((tx.inputs.insertionSort inputLe).map inputItem))),
    (.int 1, .list (tx.outputs.map outputItem)),
    (.int 2, .int tx.fee),
    (.int 3, .int tx.ttl)] ++ auxHashEntry c tx.memo)

/-- The bytes of the body, -/
def encodeBody (tx : UnsignedTx) : Bytes := c.dumps (bodyItem c tx)

/-- whose hash is the id. -/
def txid (tx : UnsignedTx) : Bytes := c.blake2b256 (encodeBody c tx)

/-- The witnesses, a set too. -/
def witnessSetItem (witnesses : List (Bytes × Bytes)) : Value :=
  .map [(.int 0,
    .tag setTag (.list ((witnesses.insertionSort witnessLe).map witnessItem)))]

/-- The third part: null without a memo. -/
def auxiliaryData : Option String → Bytes
  | none => c.dumps .null
  | some memo => encodeAux c memo

/-- The signed transaction: body, witnesses, validity, auxiliary data. -/
def serialize (tx : UnsignedTx) (witnesses : List (Bytes × Bytes)) : Bytes :=
  0x84 :: (encodeBody c tx ++ c.dumps (witnessSetItem witnesses)
    ++ c.dumps (.bool true) ++ auxiliaryData c tx.memo)

/-! ## Fees and the least output -/

/-- The fee is linear in the size. -/
def minFee (size : ℕ) (params : ProtocolParams) : ℕ :=
  params.minFeeA * size + params.minFeeB

/-- The least an output may hold. -/
def minLovelace (output : TxOut) (params : ProtocolParams) : ℕ :=
  (utxoEntryOverhead + (c.dumps (outputItem output)).length) * params.coinsPerUtxoByte

/-- Witnesses of the length of real ones.  A byte counts them, so there are at
    most 256. -/
def placeholders (n : ℕ) : Except PyError (List (Bytes × Bytes)) :=
  (List.range n).mapM fun i =>
    if i < 256 then .ok (List.replicate 32 (UInt8.ofNat i), List.replicate 64 0)
    else .error (.valueError "bytes must be in range(0, 256)")

/-- The minimum fee of the transaction once `n` keys have signed it: the fee is
    raised until it pays for the bytes it is written in.  The count of rounds
    only has to be large enough. -/
def requiredFee (tx : UnsignedTx) (n : ℕ) (params : ProtocolParams) : Except PyError ℕ := do
  let dummy ← placeholders n
  let needed := fun fee : ℕ => minFee (serialize c { tx with fee } dummy).length params
  let rounds := params.minFeeA + params.minFeeB + (serialize c { tx with fee := 0 } dummy).length
  .ok (settle needed (rounds + 12) 0)

/-! ## The neutral reader -/

/-- A transaction that was read. -/
structure ParsedTx where
  txid : Bytes
  inputs : List (Bytes × Value)
  outputs : List (String × ℤ)
  fee : Value
  memo : Option Bytes
  witnesses : List (Bytes × Bytes)

/-- What iterating over a decoded value gives. -/
def iterate : Value → Except PyError (List Value)
  | .list items => .ok items
  | .map entries => .ok (entries.map Prod.fst)
  | .bytes b => .ok (b.map fun x => .int x.toNat)
  | .text s => .ok (s.toList.map fun ch => .text ("".push ch))
  | _ => .error .typeError

/-- The items of a set: of a tagged list, in the order of the library's own set,
    or of anything that can be iterated. -/
def setItems : Value → Except PyError (List Value)
  | .tag n content =>
      if n = setTag then do
        let items ← iterate content
        .ok (c.asSet items)
      else .error .typeError
  | v => iterate v

/-- A value unpacked as a pair. -/
def asPair (v : Value) : Except PyError (Value × Value) := do
  match ← iterate v with
  | [a, b] => .ok (a, b)
  | items =>
      if items.length < 2 then
        .error (.valueError
          s!"not enough values to unpack (expected 2, got {items.length})")
      else .error (.valueError "too many values to unpack (expected 2)")

/-- One byte of a byte string made from a list. -/
def asByte (v : Value) : Except PyError UInt8 :=
  match asInt v with
  | none => .error .typeError
  | some i =>
      if 0 ≤ i ∧ i < 256 then .ok (UInt8.ofNat i.toNat)
      else .error (.valueError "bytes must be in range(0, 256)")

/-- `bytes(v)`: a count gives that many zeros. -/
def asBytes (v : Value) : Except PyError Bytes :=
  match v with
  | .bytes b => .ok b
  | .text _ => .error .typeError
  | v =>
      match asInt v with
      | some i =>
          if i < 0 then .error (.valueError "negative count")
          else .ok (List.replicate i.toNat 0)
      | none => do
          let items ← iterate v
          items.mapM asByte

/-- The item of a decoded container under an integer. -/
def getItem (v : Value) (k : ℕ) : Except PyError Value :=
  match v with
  | .map entries =>
      match lookupInt entries k with
      | none => .error .keyError
      | some item => .ok item
  | .list _ | .bytes _ | .text _ => do
      let items ← iterate v
      match items[k]? with
      | none => .error .indexError
      | some item => .ok item
  | _ => .error .typeError

/-- Whether an integer is in a decoded container. -/
def contains (v : Value) (k : ℤ) : Except PyError Bool :=
  match v with
  | .map entries => .ok (lookupInt entries k).isSome
  | .list items => .ok (items.any fun item => asInt item == some k)
  | .bytes b => .ok (b.any fun x => (x.toNat : ℤ) == k)
  | _ => .error .typeError

/-- An output of the plain shape that the wallet writes. -/
def plainOutput (output : Value) : Except PyError (String × ℤ) :=
  let refused := PyError.valueError s!"unsupported output shape: {c.repr output}"
  match output with
  | .list [.bytes address, lovelace] =>
      match asInt lovelace with
      | none => .error refused
      | some lovelace => do
          let address ← addressString address
          .ok (address, lovelace)
  | _ => .error refused

/-- An input that was read; its index is not looked at. -/
def parsedInput (v : Value) : Except PyError (Bytes × Value) := do
  let (t, i) ← asPair v
  let t ← asBytes t
  .ok (t, i)

/-- A witness that was read. -/
def parsedWitness (v : Value) : Except PyError (Bytes × Bytes) := do
  let (k, s) ← asPair v
  let k ← asBytes k
  let s ← asBytes s
  .ok (k, s)

/-- The memo of decoded auxiliary data, which the body must commit to. -/
def boundMemo (body aux : Value) (auxBytes : Bytes) : Except PyError (Option Bytes) :=
  match aux with
  | .null => do
      if ← contains body 7 then
        .error (.valueError "body commits to auxiliary data the tx does not carry")
      else .ok none
  | aux =>
      match body with
      | .map entries =>
          let mismatch := PyError.valueError "auxiliary data does not match the body's hash"
          match lookupInt entries 7 with
          | some (.bytes hash) =>
              if hash ≠ c.blake2b256 auxBytes then .error mismatch
              else memoFromMetadata aux
          | _ => .error mismatch
      | _ => .error .attributeError

/-- Decode a serialized transaction.  Its id is the hash of the body's bytes as
    they were found. -/
def parse (raw : Bytes) : Except PyError ParsedTx :=
  if raw.take 1 ≠ [0x84] then
    .error (.valueError "not a 4-element Cardano transaction")
  else do
    let stream := raw.drop 1
    let (body, bodyEnd) ← c.read stream 0
    let bodyBytes := slice stream 0 bodyEnd
    let (witnessSet, i) ← c.read stream bodyEnd
    let (_, auxStart) ← c.read stream i
    let (aux, auxEnd) ← c.read stream auxStart
    let auxBytes := slice stream auxStart (auxEnd - auxStart)
    let memo ← boundMemo c body aux auxBytes
    let outputs ← (← iterate (← getItem body 1)).mapM (plainOutput c)
    let inputs ← (← setItems c (← getItem body 0)).mapM parsedInput
    let fee ← getItem body 2
    let witnesses ← (← setItems c (← getItem witnessSet 0)).mapM parsedWitness
    .ok { txid := c.blake2b256 bodyBytes, inputs, outputs, fee, memo, witnesses }

end Serialize

/-! ## Sizes -/

section Sizes

variable {c : Codec}

/-- The bytes that `w` witnesses take, their count included. -/
def witnessCost (w : ℕ) : ℕ := headSize w + 101 * w

/-- The bytes a memo takes: its hash in the body and the auxiliary data. -/
def memoCost (c : Codec) : Option String → ℕ
  | none => 1
  | some memo =>
      1 + (headSize (c.blake2b256 (encodeAux c memo)).length
        + (c.blake2b256 (encodeAux c memo)).length) + (metadataForMemo memo).size

/-- What the inputs take, -/
def inputsCost (inputs : List TxIn) : ℕ :=
  headSize inputs.length + sizes (inputs.map inputItem)

/-- and what the outputs do. -/
def outputsCost (outputs : List TxOut) : ℕ :=
  headSize outputs.length + sizes (outputs.map outputItem)

/-- What a transaction with `n` witnesses takes besides its fee. -/
def fixedSize (c : Codec) (tx : UnsignedTx) (n : ℕ) : ℕ :=
  15 + inputsCost tx.inputs + outputsCost tx.outputs + intSize tx.ttl
    + memoCost c tx.memo + witnessCost n

/-- A key and a signature have fixed lengths. -/
def WitnessShaped (w : Bytes × Bytes) : Prop := w.1.length = 32 ∧ w.2.length = 64

/-- A memo costs its entry in the body and its own bytes. -/
theorem auxiliary_cost (hshort : c.ShortestForm) (memo : Option String) :
    entrySizes (auxHashEntry c memo) + (auxiliaryData c memo).length = memoCost c memo := by
  cases memo with
  | none =>
      show 0 + (c.dumps .null).length = 1
      rw [hshort]
      rfl
  | some memo =>
      rw [auxHashEntry, auxiliaryData, encodeAux, hshort, memoCost, encodeAux]
      simp only [entrySizes, Value.size, Nat.add_zero]
      rfl

/-- The body and the auxiliary data, part by part. -/
theorem encodeBody_length (hshort : c.ShortestForm) (tx : UnsignedTx) :
    (encodeBody c tx).length + (auxiliaryData c tx.memo).length
      = 8 + inputsCost tx.inputs + outputsCost tx.outputs + intSize tx.fee
        + intSize tx.ttl + memoCost c tx.memo := by
  have hsorted := List.perm_insertionSort inputLe tx.inputs
  have hinputs := sizes_perm (hsorted.map inputItem)
  have hcount : (tx.inputs.insertionSort inputLe).length = tx.inputs.length :=
    hsorted.length_eq
  have haux := auxiliary_cost hshort tx.memo
  have hfew : (auxHashEntry c tx.memo).length ≤ 1 := by
    cases tx.memo with
    | none => exact Nat.zero_le _
    | some memo => exact Nat.le_refl _
  rw [encodeBody, hshort, bodyItem, inputsCost, outputsCost, Value.size,
    entrySizes_append, List.length_append]
  simp only [entrySizes, Value.size, List.length_map, List.length_cons, List.length_nil,
    hinputs, hcount]
  -- the heads of the entries, of the keys and of the tag
  have hentries : headSize (0 + 1 + 1 + 1 + 1 + (auxHashEntry c tx.memo).length) = 1 :=
    if_pos (by omega)
  have hkeys : intSize 0 = 1 ∧ intSize 1 = 1 ∧ intSize 2 = 1 ∧ intSize 3 = 1 := by decide
  have htag : headSize setTag = 3 := rfl
  rw [hentries, htag]
  omega

/-- Witnesses of the usual shape take what their number says. -/
theorem witnessSet_size {ws : List (Bytes × Bytes)} (hws : ∀ w ∈ ws, WitnessShaped w) :
    (witnessSetItem ws).size = 5 + witnessCost ws.length := by
  have hsorted := List.perm_insertionSort witnessLe ws
  have hitems : ∀ ws : List (Bytes × Bytes), (∀ w ∈ ws, WitnessShaped w) →
      sizes (ws.map witnessItem) = 101 * ws.length := by
    intro ws hws
    induction ws with
    | nil => rfl
    | cons w ws ih =>
        obtain ⟨hkey, hsig⟩ := hws w List.mem_cons_self
        have hitem : (witnessItem w).size = 101 := by
          rw [witnessItem]
          simp only [Value.size, sizes, hkey, hsig]
          rfl
        rw [List.map_cons, sizes, hitem, ih fun w hw => hws w (List.mem_cons_of_mem _ hw),
          List.length_cons]
        omega
  rw [witnessSetItem]
  simp only [Value.size, entrySizes, List.length_map, List.length_cons, List.length_nil,
    sizes_perm (hsorted.map witnessItem), hsorted.length_eq, hitems ws hws]
  rw [witnessCost]
  have hhead : headSize (0 + 1) = 1 := rfl
  have hkey : intSize 0 = 1 := rfl
  have htag : headSize setTag = 3 := rfl
  omega

/-- **The size of a signed transaction** is a part that the fee does not touch,
    and the size of the fee. -/
theorem serialize_length (hshort : c.ShortestForm) (tx : UnsignedTx)
    {ws : List (Bytes × Bytes)} (hws : ∀ w ∈ ws, WitnessShaped w) :
    (serialize c tx ws).length = fixedSize c tx ws.length + intSize tx.fee := by
  have hbody := encodeBody_length hshort tx
  rw [serialize, fixedSize, List.length_cons, List.length_append, List.length_append,
    List.length_append, hshort, hshort, witnessSet_size hws]
  have hvalid : (Value.bool true).size = 1 := rfl
  omega

end Sizes

/-! ## The required fee -/

section Fee

variable {c : Codec} {params : ProtocolParams} {base base' : ℕ}

/-- What a fee is asked for by a transaction that takes `base` bytes besides it. -/
def demand (params : ProtocolParams) (base fee : ℕ) : ℕ :=
  minFee (base + natSize fee) params

/-- The demand grows with the fee. -/
theorem demand_mono (params : ProtocolParams) (base : ℕ) : Monotone (demand params base) := by
  intro x y hxy
  have hsize := natSize_mono hxy
  rw [demand, demand, minFee, minFee]
  gcongr

/-- Some fee pays for itself: the encoding grows slower than the number. -/
theorem demand_met (params : ProtocolParams) (base : ℕ) :
    256 ^ (params.minFeeA + params.minFeeB + base) ∈ Meets (demand params base) := by
  have hsize := natSize_pow_le (params.minFeeA + params.minFeeB + base)
  show minFee _ params ≤ _
  rw [minFee]
  generalize hk : params.minFeeA + params.minFeeB + base = k at hsize ⊢
  have hbound : params.minFeeA * (base + natSize (256 ^ k)) + params.minFeeB
      ≤ k * (2 * k + 11) + k := by
    have ha : params.minFeeA ≤ k := by omega
    have hbytes : base + natSize (256 ^ k) ≤ 2 * k + 11 := by omega
    have hb : params.minFeeB ≤ k := by omega
    exact Nat.add_le_add (Nat.mul_le_mul ha hbytes) hb
  refine hbound.trans ?_
  clear hbound hsize hk
  induction k with
  | zero => decide
  | succ k ih =>
      rw [pow_succ]
      nlinarith [Nat.one_le_pow k 256 (by decide)]

/-- One placeholder for every key, each of the shape of a real witness. -/
theorem placeholders_ok {n : ℕ} {ws : List (Bytes × Bytes)} (h : placeholders n = .ok ws) :
    n ≤ 256 ∧ ws.length = n ∧ ∀ w ∈ ws, WitnessShaped w := by
  have hall := mapM_ok_forall₂ h
  refine ⟨?_, ?_, ?_⟩
  · by_contra hmany
    obtain ⟨w, hw⟩ := mapM_isOk_iff.mp ⟨ws, h⟩ 256 (List.mem_range.mpr (by omega))
    exact nomatch hw
  · rw [← hall.length_eq, List.length_range]
  · intro w hw
    obtain ⟨i, -, hi⟩ := forall₂_mem_right hall hw
    split at hi
    · cases hi
      exact ⟨List.length_replicate, List.length_replicate⟩
    · cases hi

/-- As many as 256 placeholders can be made. -/
theorem placeholders_isOk {n : ℕ} (hn : n ≤ 256) : ∃ ws, placeholders n = .ok ws := by
  refine mapM_isOk_iff.mpr ?_
  intro i hi
  have hlt := List.mem_range.mp hi
  exact ⟨_, if_pos (by omega)⟩

/-- **The fee sizing ends, at the least fee that pays for its own bytes.** -/
theorem requiredFee_isLeast (hshort : c.ShortestForm) {tx : UnsignedTx} {n fee : ℕ}
    (h : requiredFee c tx n params = .ok fee) :
    IsLeast (Meets (demand params (fixedSize c tx n))) fee := by
  obtain ⟨dummy, hdummy, h⟩ := bind_eq_ok h
  obtain ⟨-, hcount, hshaped⟩ := placeholders_ok hdummy
  have hneeded : (fun fee : ℕ => minFee (serialize c { tx with fee } dummy).length params)
      = demand params (fixedSize c tx n) := by
    funext fee
    rw [serialize_length hshort _ hshaped, hcount, demand, ← intSize_natCast]
    rfl
  have hstart : (serialize c { tx with fee := 0 } dummy).length = fixedSize c tx n + 1 := by
    rw [serialize_length hshort _ hshaped, hcount]
    rfl
  dsimp only at h
  rw [hneeded, hstart] at h
  cases h
  refine settle_isLeast (demand_mono params _) natSize_mono ?_ (demand_met params _) ?_ ?_
  · intro x y hxy
    rw [demand, hxy, demand]
  · intro y _
    exact Nat.zero_le y
  · have hrank := natSize_pow_le (params.minFeeA + params.minFeeB + fixedSize c tx n)
    have hzero : natSize 0 = 1 := rfl
    omega

/-- A fee can be sized for as many keys as a byte counts. -/
theorem requiredFee_isOk (c : Codec) (tx : UnsignedTx) (params : ProtocolParams) {n : ℕ}
    (hn : n ≤ 256) : ∃ fee, requiredFee c tx n params = .ok fee := by
  obtain ⟨dummy, hdummy⟩ := placeholders_isOk hn
  rw [requiredFee, hdummy]
  exact ⟨_, rfl⟩

/-- A transaction with no more bytes asks for no more, nor does any when bytes are
    free. -/
theorem demand_le_of_bytes (h : params.minFeeA = 0 ∨ base ≤ base') (fee : ℕ) :
    demand params base fee ≤ demand params base' fee := by
  rw [demand, demand, minFee, minFee]
  rcases h with hfree | hshorter
  · rw [hfree, Nat.zero_mul, Nat.zero_mul]
  · gcongr

/-- **Comparing two settled fees**: a fee covers another one exactly when the
    bytes besides it are no more, or when bytes are free. -/
theorem settled_le_iff {fee fee' : ℕ} (h : IsLeast (Meets (demand params base)) fee)
    (h' : IsLeast (Meets (demand params base')) fee') :
    fee ≤ fee' ↔ params.minFeeA = 0 ∨ base ≤ base' := by
  constructor
  · intro hle
    by_contra hmore
    obtain ⟨hprice, hlonger⟩ := not_or.mp hmore
    have hstrict : ∀ x, demand params base' x < demand params base x := by
      intro x
      rw [demand, demand, minFee, minFee]
      have hpos := Nat.pos_of_ne_zero hprice
      have hmul := Nat.mul_lt_mul_of_pos_left
        (show base' + natSize x < base + natSize x by omega) hpos
      omega
    have hlt := isLeast_lt_of_lt (demand_mono params base') hstrict h' h
    omega
  · intro hbytes
    exact isLeast_le_of_le (demand_le_of_bytes hbytes) h h'

end Fee

end SwapsackCardanoTx
