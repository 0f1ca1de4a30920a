import Swapsack.BaseProofs
import Swapsack.PyTextProofs

/-! # bech32 and bech32m

    The checksum, the regrouping of bits, the encoder and the two decoders.  Cosmos accounts
    are plain bech32; the TEX addresses of Zcash are bech32m without a witness
    version.

    * `convertbits_exact` — regrouping without padding loses less than a value;
    * `split_ok` — an accepted text is its human-readable part, the separator
      and its data, and their checksum is that of a variant;
    * `decode_ok` — the decoders accept the one variant they are for. -/

namespace SwapsackBech32

open ListKit ByteString PyText SwapsackBase

/-- The thirty-two characters, in the order of their values. -/
def charset : List Char := "qpzry9x8gf2tvdw0s3jn54khce6mua7l".toList

/-- The final polymod a well-formed text produces, per variant. -/
def bech32 : ℕ := 1

/-- The constant that tells bech32m from bech32. -/
def bech32m : ℕ := 0x2BC830A3

/-- The generators of the checksum. -/
def generators : List ℕ :=
  [0x3B6A57B2, 0x26508E6D, 0x1EA119FA, 0x3D4233DD, 0x2A1462B3]

/-- One round of the checksum. -/
def polymodStep (chk value : ℕ) : ℕ :=
  let top := chk >>> 25
  generators.zipIdx.foldl
    (fun chk gen => chk ^^^ if (top >>> gen.2) &&& 1 ≠ 0 then gen.1 else 0)
    (((chk &&& 0x1FFFFFF) <<< 5) ^^^ value)

/-- The checksum over all the values. -/
def polymod (values : List ℕ) : ℕ := values.foldl polymodStep 1

/-- The prefix, as values: the high bits, a zero, the low bits. -/
def hrpExpand (hrp : List Char) : List ℕ :=
  hrp.map (fun c => c.toNat >>> 5) ++ [0] ++ hrp.map fun c => c.toNat &&& 31

/-! ## Regrouping bits -/

/-- The inner loop: the groups of `size` bits at the top of the `bits` low bits
    of `acc`, and how many bits are left. -/
def drain (size acc bits : ℕ) : List ℕ × ℕ :=
  if 0 < size ∧ size ≤ bits then
    let (groups, left) := drain size acc (bits - size)
    (((acc >>> (bits - size)) &&& (2 ^ size - 1)) :: groups, left)
  else ([], bits)
termination_by bits

/-- The outer loop, from an accumulator and its pending bits. -/
def regroup (frm size : ℕ) : List ℕ → ℕ → ℕ → Except PyError (List ℕ × ℕ × ℕ)
  | [], acc, bits => .ok ([], acc, bits)
  | value :: data, acc, bits =>
      if value >>> frm ≠ 0 then
        .error (.valueError "invalid value for bech32 base conversion")
      else do
        let acc := (acc <<< frm) ||| value
        let (groups, left) := drain size acc (bits + frm)
        let (rest, acc, bits) ← regroup frm size data acc left
        .ok (groups ++ rest, acc, bits)

/-- Regroup `data` from `frm`-bit to `size`-bit values. -/
def convertbits (data : List ℕ) (frm size : ℕ) (pad : Bool) :
    Except PyError (List ℕ) := do
  let (ret, acc, bits) ← regroup frm size data 0 0
  let last := (acc <<< (size - bits)) &&& (2 ^ size - 1)
  if pad then .ok (if bits ≠ 0 then ret ++ [last] else ret)
  else if frm ≤ bits ∨ last ≠ 0 then
    .error (.valueError "invalid padding in bech32 base conversion")
  else .ok ret

/-- What is left after draining is less than a group, and no bit is lost. -/
theorem drain_length {size : ℕ} (hsize : 0 < size) (acc bits : ℕ) :
    (drain size acc bits).2 < size
      ∧ size * (drain size acc bits).1.length + (drain size acc bits).2 = bits := by
  induction bits using Nat.strong_induction_on with
  | _ bits ih =>
      rw [drain]
      by_cases hle : size ≤ bits
      · rw [if_pos ⟨hsize, hle⟩]
        obtain ⟨hlt, hsum⟩ := ih (bits - size) (by omega)
        refine ⟨hlt, ?_⟩
        show size * ((drain size acc (bits - size)).1.length + 1)
          + (drain size acc (bits - size)).2 = bits
        rw [Nat.mul_add, Nat.mul_one]
        omega
      · rw [if_neg (fun h => hle h.2)]
        exact ⟨by show bits < size; omega, by show size * 0 + bits = bits; omega⟩

/-- Regrouping keeps the count of the bits: the groups, with what is pending. -/
theorem regroup_length {frm size : ℕ} (hsize : 0 < size) :
    ∀ {data : List ℕ} {acc bits : ℕ} {groups : List ℕ} {acc' left : ℕ},
      regroup frm size data acc bits = .ok (groups, acc', left) → bits < size →
      left < size ∧ size * groups.length + left = frm * data.length + bits := by
  intro data
  induction data with
  | nil =>
      intro acc bits groups acc' left h hbits
      cases h
      exact ⟨hbits, by rw [List.length_nil, Nat.mul_zero, Nat.mul_zero]⟩
  | cons value data ih =>
      intro acc bits groups acc' left h hbits
      rw [regroup] at h
      split at h
      · exact nomatch h
      · obtain ⟨hlt, hsum⟩ := drain_length hsize (acc <<< frm ||| value) (bits + frm)
        obtain ⟨⟨rest, acc'', left'⟩, hrest, h⟩ := bind_eq_ok h
        obtain ⟨hleft, hlength⟩ := ih hrest hlt
        cases h
        refine ⟨hleft, ?_⟩
        rw [List.length_append, List.length_cons, Nat.mul_add, Nat.mul_add, Nat.mul_one]
        omega

/-- **Without padding** the groups hold all the bits but a rest shorter than one
    value. -/
theorem convertbits_exact {data ret : List ℕ} {frm size : ℕ} (hsize : 0 < size)
    (h : convertbits data frm size false = .ok ret) :
    ∃ left, left < frm ∧ left < size
      ∧ size * ret.length + left = frm * data.length := by
  obtain ⟨⟨groups, acc, left⟩, hgroups, h⟩ := bind_eq_ok h
  obtain ⟨hleft, hlength⟩ := regroup_length hsize hgroups hsize
  dsimp only at h
  rw [if_neg (by decide)] at h
  split at h
  · exact nomatch h
  · rename_i hpad
    obtain ⟨hfrm, -⟩ := not_or.mp hpad
    cases h
    exact ⟨left, by omega, hleft, by omega⟩

/-! ## Encoding -/

/-- The text of a byte string under the given variant. -/
def encode (hrp : String) (data : Bytes) (variant : ℕ) : Except PyError String := do
  let values ← convertbits (data.map UInt8.toNat) 8 5 true
  let checksumInput := hrpExpand hrp.toList ++ values ++ [0, 0, 0, 0, 0, 0]
  let checked := polymod checksumInput ^^^ variant
  let checksum := (List.range 6).map fun i => (checked >>> (5 * (5 - i))) &&& 31
  match (values ++ checksum).mapM fun d => charset[d]? with
  | none => .error .indexError
  | some chars => .ok (String.ofList (hrp.toList ++ '1' :: chars))

/-- The two variants of encoding. -/
def bech32Encode (hrp : String) (data : Bytes) : Except PyError String :=
  encode hrp data bech32

def bech32mEncode (hrp : String) (data : Bytes) : Except PyError String :=
  encode hrp data bech32m

/-! ## Decoding -/

section Decode

variable [PyUnicode]

/-- The position of the last `1`. -/
def rfindOne (s : List Char) : Option ℕ :=
  (s.reverse.idxOf? '1').map fun i => s.length - 1 - i

/-- Split into the human-readable part, the data values with the checksum, and
    the variant the checksum matches. -/
def split (address : String) : Except PyError (List Char × List ℕ × ℕ) :=
  let s := address.toList
  let shown := PyUnicode.repr address
  match rfindOne s with
  | none => .error (.valueError s!"not a bech32 address: {shown}")
  | some pos =>
      if pos < 1 ∨ s.length < pos + 7 then
        .error (.valueError s!"not a bech32 address: {shown}")
      else
        let hrp := s.take pos
        match (s.drop (pos + 1)).mapM charset.idxOf? with
        | none => .error (.valueError s!"invalid bech32 character in {shown}")
        | some values =>
            let variant := polymod (hrpExpand hrp ++ values)
            if variant ≠ bech32 ∧ variant ≠ bech32m then
              .error (.valueError s!"bad bech32 checksum in {shown}")
            else .ok (hrp, values, variant)

/-- Decode under the given variant. -/
def decode (address : String) (variant : ℕ) : Except PyError (List Char × Bytes) := do
  let (hrp, values, got) ← split address
  if got ≠ variant then
    let other := if got = bech32m then "bech32m" else "bech32"
    let shown := PyUnicode.repr address
    .error (.valueError s!"bad checksum in {shown} (it is {other})")
  else do
    let payload ← convertbits (values.take (values.length - 6)) 5 8 false
    .ok (hrp, payload.map UInt8.ofNat)

omit [PyUnicode] in

/-- The separator stands where it is found. -/
theorem rfindOne_some {s : List Char} {pos : ℕ} (h : rfindOne s = some pos) :
    s[pos]? = some '1' := by
  rw [rfindOne, Option.map_eq_some_iff] at h
  obtain ⟨i, hi, hpos⟩ := h
  rw [List.idxOf?, List.findIdx?_eq_some_iff_getElem] at hi
  obtain ⟨hlt, hone, -⟩ := hi
  rw [List.getElem_reverse] at hone
  rw [List.length_reverse] at hlt
  rw [List.getElem?_eq_some_iff]
  exact ⟨by omega, by simpa [← hpos] using hone⟩

/-- What an accepted text is made of. -/
theorem split_ok {address : String} {hrp : List Char} {values : List ℕ} {variant : ℕ}
    (h : split address = .ok (hrp, values, variant)) :
    hrp ≠ [] ∧ (∃ data, address.toList = hrp ++ '1' :: data
        ∧ data.mapM charset.idxOf? = some values)
      ∧ variant = polymod (hrpExpand hrp ++ values)
      ∧ (variant = bech32 ∨ variant = bech32m) := by
  rw [split] at h
  dsimp only at h
  cases hpos : rfindOne address.toList with
  | none => rw [hpos] at h; exact nomatch h
  | some pos =>
      rw [hpos] at h
      dsimp only at h
      split at h
      · exact nomatch h
      · -- a separator with something before it and a checksum after it
        rename_i hlen
        obtain ⟨hone, hseven⟩ := not_or.mp hlen
        split at h
        · exact nomatch h
        · rename_i values' hvalues
          split at h
          · exact nomatch h
          · rename_i hvariant
            cases h
            obtain ⟨hlt, hsep⟩ := List.getElem?_eq_some_iff.mp (rfindOne_some hpos)
            refine ⟨?_, ⟨_, ?_, hvalues⟩, rfl, ?_⟩
            · intro hnil
              have hlength := congrArg List.length hnil
              rw [List.length_take, List.length_nil] at hlength
              omega
            · rw [← hsep, List.cons_getElem_drop_succ, List.take_append_drop]
            · by_contra hnone
              exact hvariant (not_or.mp hnone)

/-- A decoder accepts one variant, and its payload is the data without the
    checksum. -/
theorem decode_ok {address : String} {variant : ℕ} {hrp : List Char} {payload : Bytes}
    (h : decode address variant = .ok (hrp, payload)) :
    ∃ values groups, split address = .ok (hrp, values, variant)
      ∧ convertbits (values.take (values.length - 6)) 5 8 false = .ok groups
      ∧ payload = groups.map UInt8.ofNat := by
  obtain ⟨⟨hrp', values, got⟩, hsplit, h⟩ := bind_eq_ok h
  dsimp only at h
  split at h
  · exact nomatch h
  · rename_i hgot
    obtain ⟨groups, hgroups, h⟩ := bind_eq_ok h
    cases h
    rw [not_not] at hgot
    exact ⟨values, groups, hgot ▸ hsplit, hgroups, rfl⟩

/-- The two variants of decoding. -/
def bech32Decode (address : String) : Except PyError (List Char × Bytes) :=
  decode address bech32

def bech32mDecode (address : String) : Except PyError (List Char × Bytes) :=
  decode address bech32m

/-- Whether a text is a well-formed segwit address: the witness version selects
    the variant, and version 0 has programs of 20 or 32 bytes only. -/
def segwitOk (address hrp : String) : Bool :=
  match split address with
  | .error _ => false
  | .ok (gotHrp, values, variant) =>
      match values with
      | [] => false
      | version :: rest =>
          if gotHrp ≠ hrp.toList ∨ values.length < 7 then false
          else if 16 < version then false
          else if variant ≠ (if version = 0 then bech32 else bech32m) then false
          else
            match convertbits (rest.take (rest.length - 6)) 5 8 false with
            | .error _ => false
            | .ok program =>
                if program.length < 2 ∨ 40 < program.length then false
                else version ≠ 0 || program.length = 20 || program.length = 32

end Decode

end SwapsackBech32
