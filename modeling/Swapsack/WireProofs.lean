import Swapsack.ByteStringProofs

/-! # The protobuf wire format

    Base-128 integers, tagged fields, and a reader that lists every field of a
    message in order of appearance.  What a reader raises is a parameter: one
    error for data that ends too soon, one for each wire type it cannot read.

    * `readVarint_varint` — an integer is read back, with what follows it;
    * `Encodes bs fs` — wherever `bs` stands at the front of a message the
      reader lists `fs` and goes on with the rest.  A message is written by
      concatenation, so it is read correctly as soon as its fields are:
      `encodes_delimited`, `encodes_string`, `Encodes.append`,
      `encodes_flatMap`. -/

namespace Wire

open ListKit ByteString

variable {ε : Type}

/-! ## Writing -/

/-- A base-128 integer: seven bits a byte, the top bit set on all but the last. -/
def varint (n : ℕ) : Bytes :=
  if n < 128 then [UInt8.ofNat n]
  else UInt8.ofNat (n % 128 + 128) :: varint (n / 128)
termination_by n

/-- Field number and wire type. -/
def tag (field wire : ℕ) : Bytes := varint (field * 8 + wire)

/-- A length-delimited field: a sub-message, a text or bytes. -/
def delimited (field : ℕ) (data : Bytes) : Bytes :=
  tag field 2 ++ varint data.length ++ data

/-- A text field; the default, the empty text, is omitted. -/
def string (field : ℕ) (value : String) : Bytes :=
  if value = "" then [] else delimited field (encodeUtf8 value)

/-- An integer field; the default, 0, is omitted. -/
def uint64 (field value : ℕ) : Bytes :=
  if value = 0 then [] else tag field 0 ++ varint value

/-! ## Reading -/

/-- What a field holds. -/
inductive Value where
  | varint (n : ℕ)
  | bytes (b : Bytes)
deriving DecidableEq

/-- The fields of a message, in order of appearance. -/
abbrev Fields := List (ℕ × Value)

/-- The values of one field, in order of appearance. -/
def Fields.values (fields : Fields) (field : ℕ) : List Value :=
  (fields.filter fun f => f.1 == field).map Prod.snd

/-- No field has a value in an empty message. -/
@[simp] theorem Fields.values_nil (n : ℕ) : Fields.values [] n = [] := rfl

/-- The values of a field in two messages, one after the other. -/
@[simp] theorem Fields.values_append (fs gs : Fields) (n : ℕ) :
    Fields.values (fs ++ gs) n = Fields.values fs n ++ Fields.values gs n := by
  unfold Fields.values
  rw [List.filter_append, List.map_append]

/-- The values of a field, by the first field of the message. -/
@[simp] theorem Fields.values_cons (f : ℕ × Value) (fs : Fields) (n : ℕ) :
    Fields.values (f :: fs) n
      = (if f.1 = n then [f.2] else []) ++ Fields.values fs n := by
  rw [Fields.values]
  rw [List.filter_cons]
  by_cases h : f.1 = n
  · rw [if_pos (by simpa using h), if_pos h]
    rfl
  · rw [if_neg (by simpa using h), if_neg h]
    rfl

/-- Read an integer on top of the bits read so far. -/
def readVarintFrom (short : ε) : ℕ → ℕ → Bytes → Except ε (ℕ × Bytes)
  | _, _, [] => .error short
  | result, shift, byte :: rest =>
      -- the bits are disjoint, so adding them in is the bitwise or
      let result := result + byte.toNat % 128 * 2 ^ shift
      if byte.toNat < 128 then .ok (result, rest)
      else readVarintFrom short result (shift + 7) rest

/-- A varint from its first byte on. -/
def readVarint (short : ε) (data : Bytes) : Except ε (ℕ × Bytes) :=
  readVarintFrom short 0 0 data

/-- Read one field.  A length that reaches past the end takes what there is. -/
def readField (short : ε) (unsupported : ℕ → ε) (data : Bytes) :
    Except ε ((ℕ × Value) × Bytes) := do
  let (key, rest) ← readVarint short data
  let field := key / 8
  let wire := key % 8
  if wire = 0 then
    let (value, rest) ← readVarint short rest
    .ok ((field, .varint value), rest)
  else if wire = 2 then
    let (length, rest) ← readVarint short rest
    .ok ((field, .bytes (rest.take length)), rest.drop length)
  else .error (unsupported wire)

/-- A varint takes at least one byte, -/
theorem readVarintFrom_length {short : ε} :
    ∀ {data rest : Bytes} {result shift n : ℕ},
      readVarintFrom short result shift data = .ok (n, rest) →
      rest.length < data.length := by
  intro data
  induction data with
  | nil => intro rest result shift n h; exact nomatch h
  | cons byte data ih =>
      intro rest result shift n h
      unfold readVarintFrom at h
      dsimp only at h
      split at h
      · cases h
        exact Nat.lt_succ_self _
      · exact Nat.lt_succ_of_lt (ih h)

/-- and so does a field. -/
theorem readField_length {short : ε} {unsupported : ℕ → ε} {data rest : Bytes}
    {f : ℕ × Value} (h : readField short unsupported data = .ok (f, rest)) :
    rest.length < data.length := by
  rw [readField] at h
  obtain ⟨⟨key, rest₁⟩, hkey, h⟩ := bind_eq_ok h
  have hlen := readVarintFrom_length hkey
  dsimp only at h
  split at h
  · obtain ⟨⟨value, rest₂⟩, hvalue, h⟩ := bind_eq_ok h
    cases h
    exact (readVarintFrom_length hvalue).trans hlen
  · split at h
    · obtain ⟨⟨length, rest₂⟩, hlength, h⟩ := bind_eq_ok h
      cases h
      have hrest := readVarintFrom_length hlength
      have hdrop : (rest₂.drop length).length ≤ rest₂.length := by
        rw [List.length_drop]
        omega
      show (rest₂.drop length).length < data.length
      omega
    · exact nomatch h

/-- Read every field of a message. -/
def readFields (short : ε) (unsupported : ℕ → ε) (data : Bytes) : Except ε Fields :=
  if data = [] then .ok []
  else
    match _ : readField short unsupported data with
    | .error e => .error e
    | .ok (field, rest) => do
        let fields ← readFields short unsupported rest
        .ok (field :: fields)
termination_by data.length
decreasing_by exact readField_length (by assumption)

/-! ## Reading back what was written -/

section RoundTrip

variable (short : ε) (unsupported : ℕ → ε)

/-- **A varint is read back**, from any shift on. -/
theorem readVarintFrom_varint (n : ℕ) : ∀ (result shift : ℕ) (rest : Bytes),
    readVarintFrom short result shift (varint n ++ rest)
      = .ok (result + n * 2 ^ shift, rest) := by
  induction n using Nat.strong_induction_on with
  | _ n ih =>
      intro result shift rest
      rw [varint]
      by_cases hlt : n < 128
      · have hbyte : (UInt8.ofNat n).toNat = n := by
          rw [UInt8.toNat_ofNat']
          omega
        rw [if_pos hlt, List.singleton_append, readVarintFrom, hbyte, if_pos hlt,
          Nat.mod_eq_of_lt hlt]
      · have hbyte : (UInt8.ofNat (n % 128 + 128)).toNat = n % 128 + 128 := by
          rw [UInt8.toNat_ofNat']
          omega
        have hlow : (n % 128 + 128) % 128 = n % 128 := by omega
        have hsplit : n % 128 * 2 ^ shift + n / 128 * 2 ^ (shift + 7)
            = n * 2 ^ shift := by
          have hn : n = n / 128 * 128 + n % 128 := by omega
          calc n % 128 * 2 ^ shift + n / 128 * 2 ^ (shift + 7)
              = (n / 128 * 128 + n % 128) * 2 ^ shift := by ring
            _ = n * 2 ^ shift := by rw [← hn]
        rw [if_neg hlt, List.cons_append, readVarintFrom, hbyte, hlow,
          if_neg (by omega), ih (n / 128) (by omega), Nat.add_assoc, hsplit]

/-- An integer is read back, with what follows it. -/
theorem readVarint_varint (n : ℕ) (rest : Bytes) :
    readVarint short (varint n ++ rest) = .ok (n, rest) := by
  rw [readVarint, readVarintFrom_varint]
  simp

/-- A delimited field is read back whole. -/
theorem readField_delimited (field : ℕ) (data rest : Bytes) :
    readField short unsupported (delimited field data ++ rest)
      = .ok ((field, .bytes data), rest) := by
  have hwire : (field * 8 + 2) % 8 = 2 := by omega
  have hfield : (field * 8 + 2) / 8 = field := by omega
  rw [delimited, tag, List.append_assoc, List.append_assoc, readField,
    readVarint_varint, ok_bind]
  dsimp only
  rw [hwire, if_neg (by decide), if_pos rfl, readVarint_varint, ok_bind, hfield,
    List.take_left, List.drop_left]

/-- A number is read back under its tag. -/
theorem readField_uint (field value : ℕ) (rest : Bytes) :
    readField short unsupported (tag field 0 ++ varint value ++ rest)
      = .ok ((field, .varint value), rest) := by
  have hwire : (field * 8 + 0) % 8 = 0 := by omega
  have hfield : (field * 8 + 0) / 8 = field := by omega
  rw [tag, List.append_assoc, readField, readVarint_varint, ok_bind]
  dsimp only
  rw [hwire, if_pos rfl, readVarint_varint, ok_bind, hfield]

/-- No bytes are no fields. -/
theorem readFields_nil : readFields short unsupported [] = .ok [] := by
  rw [readFields, if_pos rfl]

/-- A message is read field by field. -/
theorem readFields_cons {data rest : Bytes} {f : ℕ × Value}
    (h : readField short unsupported data = .ok (f, rest)) :
    readFields short unsupported data
      = readFields short unsupported rest >>= fun fields => .ok (f :: fields) := by
  have hne : data ≠ [] := by
    rintro rfl
    exact nomatch readField_length h
  rw [readFields, if_neg hne]
  split
  · rename_i e he
    rw [h] at he
    exact nomatch he
  · rename_i f' rest' hf
    rw [h] at hf
    cases hf
    rfl

/-- At the front of a message `bs` reads as the fields `fs`. -/
def Encodes (bs : Bytes) (fs : Fields) : Prop :=
  ∀ rest, readFields short unsupported (bs ++ rest)
    = readFields short unsupported rest >>= fun fields => .ok (fs ++ fields)

/-- The field a text leaves in a message: none for the empty text. -/
def stringField (field : ℕ) (value : String) : Fields :=
  if value = "" then [] else [(field, .bytes (encodeUtf8 value))]

/-- The field an integer leaves in a message: none for 0. -/
def uintField (field value : ℕ) : Fields :=
  if value = 0 then [] else [(field, .varint value)]

/-- What a text field holds determines the text. -/
theorem values_stringField_injective {n : ℕ} {s t : String}
    (h : (stringField n s).values n = (stringField n t).values n) : s = t := by
  rw [stringField] at h
  rw [stringField] at h
  split_ifs at h with hs ht ht
  · rw [hs, ht]
  · rw [Fields.values_cons, if_pos rfl] at h
    cases h
  · rw [Fields.values_cons, if_pos rfl] at h
    cases h
  · rw [Fields.values_cons, Fields.values_cons, if_pos rfl, if_pos rfl] at h
    exact encodeUtf8_injective (Value.bytes.inj (List.cons.inj h).1)

/-- A number field names its number, zero by its absence. -/
theorem values_uintField_injective {n v w : ℕ}
    (h : (uintField n v).values n = (uintField n w).values n) : v = w := by
  rw [uintField] at h
  rw [uintField] at h
  split_ifs at h with hv hw hw
  · rw [hv, hw]
  · rw [Fields.values_cons, if_pos rfl] at h
    cases h
  · rw [Fields.values_cons, if_pos rfl] at h
    cases h
  · rw [Fields.values_cons, Fields.values_cons, if_pos rfl, if_pos rfl] at h
    exact Value.varint.inj (List.cons.inj h).1

/-- A number is no value of another field. -/
theorem values_uintField_of_ne {field n : ℕ} (h : field ≠ n) (value : ℕ) :
    (uintField field value).values n = [] := by
  rw [uintField]
  split
  · rfl
  · rw [Fields.values_cons, if_neg h]
    rfl

/-- Nor is a string. -/
theorem values_stringField_of_ne {field n : ℕ} (h : field ≠ n) (value : String) :
    (stringField field value).values n = [] := by
  rw [stringField]
  split
  · rfl
  · rw [Fields.values_cons, if_neg h]
    rfl

/-- A repeated field keeps every element, in order. -/
theorem values_flatMap {α : Type} (n : ℕ) (value : α → Value) (l : List α) :
    Fields.values (l.flatMap fun a => [(n, value a)]) n = l.map value := by
  induction l with
  | nil => rfl
  | cons a l ih =>
      rw [List.flatMap_cons, Fields.values_append, ih, Fields.values_cons, if_pos rfl]
      rfl

/-- Nor is anything of a repeated field. -/
theorem values_flatMap_of_ne {α : Type} {n m : ℕ} (h : n ≠ m) (value : α → Value)
    (l : List α) : Fields.values (l.flatMap fun a => [(n, value a)]) m = [] := by
  induction l with
  | nil => rfl
  | cons a l ih =>
      rw [List.flatMap_cons, Fields.values_append, ih, Fields.values_cons, if_neg h]
      rfl

variable {short unsupported}

/-- Nothing encodes no fields. -/
theorem encodes_nil : Encodes short unsupported [] [] := by
  intro rest
  rw [List.nil_append]
  cases readFields short unsupported rest <;> rfl

/-- A delimited field encodes itself. -/
theorem encodes_delimited (field : ℕ) (data : Bytes) :
    Encodes short unsupported (delimited field data) [(field, .bytes data)] :=
  fun rest => readFields_cons short unsupported
    (readField_delimited short unsupported field data rest)

/-- A string encodes its field, or nothing when it is empty. -/
theorem encodes_string (field : ℕ) (value : String) :
    Encodes short unsupported (string field value) (stringField field value) := by
  rw [string, stringField]
  split
  · exact encodes_nil
  · exact encodes_delimited field (encodeUtf8 value)

/-- A number encodes its field, or nothing when it is zero. -/
theorem encodes_uint64 (field value : ℕ) :
    Encodes short unsupported (uint64 field value) (uintField field value) := by
  rw [uint64, uintField]
  split
  · exact encodes_nil
  · exact fun rest => readFields_cons short unsupported
      (readField_uint short unsupported field value rest)

/-- **Encodings are put one after the other.** -/
theorem Encodes.append {bs cs : Bytes} {fs gs : Fields}
    (hb : Encodes short unsupported bs fs) (hc : Encodes short unsupported cs gs) :
    Encodes short unsupported (bs ++ cs) (fs ++ gs) := by
  intro rest
  rw [List.append_assoc, hb, hc]
  cases readFields short unsupported rest with
  | error e => rfl
  | ok fields =>
      rw [ok_bind, ok_bind, ok_bind, List.append_assoc]

/-- And so are those of a repeated field. -/
theorem encodes_flatMap {α : Type} {enc : α → Bytes} {fields : α → Fields}
    (h : ∀ a, Encodes short unsupported (enc a) (fields a)) (l : List α) :
    Encodes short unsupported (l.flatMap enc) (l.flatMap fields) := by
  induction l with
  | nil => exact encodes_nil
  | cons a l ih =>
      rw [List.flatMap_cons, List.flatMap_cons]
      exact (h a).append ih

/-- A whole message reads as the fields it was written from. -/
theorem Encodes.readFields {bs : Bytes} {fs : Fields}
    (h : Encodes short unsupported bs fs) :
    readFields short unsupported bs = .ok fs := by
  have hend := h []
  rw [List.append_nil, readFields_nil, ok_bind, List.append_nil] at hend
  exact hend

/-- **Bytes determine the fields they were written from.** -/
theorem Encodes.injective {bs : Bytes} {fs gs : Fields}
    (hf : Encodes short unsupported bs fs) (hg : Encodes short unsupported bs gs) :
    fs = gs :=
  Except.ok.inj (hf.readFields.symm.trans hg.readFields)

end RoundTrip

end Wire
