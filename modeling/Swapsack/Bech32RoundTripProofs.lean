import Swapsack.ChecksumProofs
import Swapsack.TypoProofs

/-! # bech32, both ways

    Regrouping keeps the bit string, and the six checksum symbols are the only
    ones that give the variant.

    * `convertbits_pad` and `convertbits_exact_bits` — what the two modes of
      regrouping do to the bits;
    * `decode_encode` — an encoded text decodes to what was encoded;
    * `encode_decode` — an accepted text is the encoding of what it decodes to;
    * `bech32_roundTrip` — the two pairs of functions, and neither reads the
      other's texts. -/

namespace SwapsackBech32

open ListKit ByteString PyText SwapsackBase TypoCode Bits
open SwapsackTypo (bech32Code polymod_eq_run)

/-! ## Regrouping keeps the bits -/

/-- Draining cuts the pending bits into groups and leaves the rest. -/
theorem drain_bits {size : ℕ} (hsize : 0 < size) (acc bits : ℕ) :
    Bits.bits bits acc
        = spell size (drain size acc bits).1 ++ Bits.bits (drain size acc bits).2 acc
      ∧ ∀ g ∈ (drain size acc bits).1, g < 2 ^ size := by
  induction bits using Nat.strong_induction_on with
  | _ bits ih =>
      rw [drain]
      by_cases hle : size ≤ bits
      · rw [if_pos ⟨hsize, hle⟩]
        obtain ⟨hbits, hlt⟩ := ih (bits - size) (by omega)
        have hmask : (acc >>> (bits - size)) &&& (2 ^ size - 1)
            = (acc >>> (bits - size)) % 2 ^ size := Nat.and_two_pow_sub_one_eq_mod _ _
        have hsplit : Bits.bits bits acc
            = Bits.bits size (acc >>> (bits - size)) ++ Bits.bits (bits - size) acc := by
          rw [← bits_add, Nat.add_sub_cancel' hle]
        dsimp only
        rw [hmask]
        refine ⟨?_, List.forall_mem_cons.mpr ⟨Nat.mod_lt _ (Nat.two_pow_pos size), hlt⟩⟩
        rw [spell_cons, bits_mod, hsplit, hbits, List.append_assoc]
      · rw [if_neg fun h => hle h.2]
        refine ⟨rfl, ?_⟩
        intro g hg
        cases hg

/-- **Regrouping keeps the bits**: pending bits and data are the groups and what
    is pending then. -/
theorem regroup_bits {frm size : ℕ} (hsize : 0 < size) {data : List ℕ} :
    ∀ {acc bits : ℕ} {groups : List ℕ} {acc' left : ℕ},
      regroup frm size data acc bits = .ok (groups, acc', left) →
        Bits.bits bits acc ++ spell frm data = spell size groups ++ Bits.bits left acc'
          ∧ ∀ g ∈ groups, g < 2 ^ size := by
  induction data with
  | nil =>
      intro acc bits groups acc' left h
      cases h
      refine ⟨List.append_nil _, ?_⟩
      intro g hg
      cases hg
  | cons value data ih =>
      intro acc bits groups acc' left h
      rw [regroup] at h
      split at h
      · cases h
      · rename_i hvalue
        have hlt : value < 2 ^ frm := by
          rw [not_not, Nat.shiftRight_eq_div_pow] at hvalue
          exact (Nat.div_eq_zero_iff_lt (Nat.two_pow_pos frm)).mp hvalue
        obtain ⟨⟨rest, acc'', left'⟩, hrest, h⟩ := bind_eq_ok h
        obtain ⟨hdrain, hdrained⟩ := drain_bits hsize (acc <<< frm ||| value) (bits + frm)
        obtain ⟨hbits, hgroups⟩ := ih hrest
        cases h
        constructor
        · -- a value goes behind the pending bits, and what is drained goes out in front
          rw [spell_cons, ← List.append_assoc, ← bits_append bits acc hlt, hdrain,
            List.append_assoc, hbits, spell_append, List.append_assoc]
        · intro g hg
          rcases List.mem_append.mp hg with hg | hg
          · exact hdrained g hg
          · exact hgroups g hg

/-- Values of the right width are regrouped. -/
theorem regroup_isOk {frm : ℕ} (size : ℕ) {data : List ℕ} (h : ∀ v ∈ data, v < 2 ^ frm) :
    ∀ acc bits : ℕ, ∃ result, regroup frm size data acc bits = .ok result := by
  induction data with
  | nil =>
      intro acc bits
      exact ⟨_, rfl⟩
  | cons value data ih =>
      intro acc bits
      obtain ⟨hvalue, hdata⟩ := List.forall_mem_cons.mp h
      have hzero : value >>> frm = 0 := Nat.shiftRight_eq_zero value frm hvalue
      rw [regroup, if_neg (not_not.mpr hzero)]
      dsimp only
      obtain ⟨result, hresult⟩ := ih hdata (acc <<< frm ||| value)
        (drain size (acc <<< frm ||| value) (bits + frm)).2
      rw [hresult]
      exact ⟨_, rfl⟩

/-- Pending bits, filled up with zeros to a group. -/
theorem bits_fill (acc : ℕ) {left size : ℕ} (h : left ≤ size) :
    Bits.bits size (acc <<< (size - left))
      = Bits.bits left acc ++ List.replicate (size - left) false := by
  rw [← bits_shiftLeft, Nat.add_sub_cancel' h]

/-- **With padding** the groups hold the data and the zeros that fill the last. -/
theorem convertbits_pad {frm size : ℕ} (hsize : 0 < size) {data : List ℕ}
    (h : ∀ v ∈ data, v < 2 ^ frm) :
    ∃ ret zeros, convertbits data frm size true = .ok ret ∧ zeros < size
      ∧ spell size ret = spell frm data ++ List.replicate zeros false
      ∧ ∀ g ∈ ret, g < 2 ^ size := by
  obtain ⟨⟨groups, acc, left⟩, hgroups⟩ := regroup_isOk size h 0 0
  obtain ⟨hleft, -⟩ := regroup_length hsize hgroups hsize
  obtain ⟨hbits, hlt⟩ := regroup_bits hsize hgroups
  have hspell : spell frm data = spell size groups ++ Bits.bits left acc := hbits
  have hmask : (acc <<< (size - left)) &&& (2 ^ size - 1)
      = (acc <<< (size - left)) % 2 ^ size := Nat.and_two_pow_sub_one_eq_mod _ _
  rw [convertbits, hgroups]
  by_cases hnone : left = 0
  · refine ⟨groups, 0, ?_, hsize, ?_, hlt⟩
    · simp [hnone]
    · rw [hspell, hnone, List.replicate_zero, List.append_nil]
      exact (List.append_nil _).symm
  · refine ⟨groups ++ [(acc <<< (size - left)) &&& (2 ^ size - 1)], size - left, ?_, by omega,
      ?_, ?_⟩
    · simp [hnone]
    · rw [spell_append, hspell, hmask, spell_singleton, bits_mod, bits_fill acc hleft.le,
        List.append_assoc]
    · intro g hg
      rcases List.mem_append.mp hg with hg | hg
      · exact hlt g hg
      · rw [List.mem_singleton.mp hg, hmask]
        exact Nat.mod_lt _ (Nat.two_pow_pos size)

/-- **Without padding** the data is the groups and fewer zeros than a value has. -/
theorem convertbits_exact_bits {frm size : ℕ} (hsize : 0 < size) {data ret : List ℕ}
    (h : convertbits data frm size false = .ok ret) :
    ∃ zeros, zeros < frm ∧ zeros < size
      ∧ spell frm data = spell size ret ++ List.replicate zeros false
      ∧ ∀ g ∈ ret, g < 2 ^ size := by
  obtain ⟨⟨groups, acc, left⟩, hgroups, h⟩ := bind_eq_ok h
  obtain ⟨hleft, -⟩ := regroup_length hsize hgroups hsize
  obtain ⟨hbits, hlt⟩ := regroup_bits hsize hgroups
  dsimp only at h
  rw [if_neg (by decide)] at h
  split at h
  · cases h
  · rename_i hpad
    obtain ⟨hfrm, hlast⟩ := not_or.mp hpad
    cases h
    refine ⟨left, not_le.mp hfrm, hleft, ?_, hlt⟩
    -- the last group would have been zeros, so the pending bits are
    rw [not_not, Nat.and_two_pow_sub_one_eq_mod] at hlast
    have hzeros : Bits.bits left acc ++ List.replicate (size - left) false
        = List.replicate size false := by
      rw [← bits_fill acc hleft.le, ← bits_mod, hlast, bits_zero]
    have hpending : Bits.bits left acc = List.replicate left false := by
      have htake := congrArg (List.take left) hzeros
      rw [List.take_left' (bits_length left acc), List.take_replicate,
        Nat.min_eq_left hleft.le] at htake
      exact htake
    rw [← hpending]
    exact hbits

/-- Data that is groups and few zeros is regrouped into the groups. -/
theorem convertbits_of_bits {frm size zeros : ℕ} (hsize : 0 < size) {data ret : List ℕ}
    (hdata : ∀ v ∈ data, v < 2 ^ frm) (hret : ∀ g ∈ ret, g < 2 ^ size) (hfrm : zeros < frm)
    (hlt : zeros < size)
    (h : spell frm data = spell size ret ++ List.replicate zeros false) :
    convertbits data frm size false = .ok ret := by
  obtain ⟨⟨groups, acc, left⟩, hgroups⟩ := regroup_isOk size hdata 0 0
  obtain ⟨hleft, hlength⟩ := regroup_length hsize hgroups hsize
  obtain ⟨hbits, hgroupsLt⟩ := regroup_bits hsize hgroups
  have hspell : spell frm data = spell size groups ++ Bits.bits left acc := hbits
  have hlen : frm * data.length = size * ret.length + zeros := by
    have hl := congrArg List.length h
    rw [length_spell, List.length_append, length_spell, List.length_replicate] at hl
    exact hl
  -- the two ways to cut the bits have as many groups
  have hdiv : groups.length = ret.length := by
    have hq : (size * groups.length + left) / size = (size * ret.length + zeros) / size := by
      rw [hlength, ← hlen]
      rfl
    rw [Nat.mul_add_div hsize, Nat.mul_add_div hsize, Nat.div_eq_of_lt hleft,
      Nat.div_eq_of_lt hlt] at hq
    omega
  have hleftZeros : left = zeros := by
    rw [hdiv] at hlength
    omega
  rw [hspell] at h
  obtain ⟨hgroupsBits, hpending⟩ := List.append_inj h (by rw [length_spell, length_spell, hdiv])
  have hsame : groups = ret := spell_injective hdiv hgroupsLt hret hgroupsBits
  have hlast : (acc <<< (size - left)) &&& (2 ^ size - 1) = 0 := by
    rw [Nat.and_two_pow_sub_one_eq_mod]
    refine mod_eq_zero_of_bits ?_
    rw [bits_fill acc hleft.le, hpending, ← hleftZeros, ← List.replicate_add,
      Nat.add_sub_cancel' hleft.le]
  rw [convertbits, hgroups, hsame]
  simp only [ok_bind, hlast]
  rw [if_neg (by decide), if_neg]
  rintro (hwide | hdirty)
  · omega
  · exact hdirty rfl

/-- Bytes that were regrouped into symbols come back. -/
theorem convertbits_bytes {data values : List ℕ} (hdata : ∀ v ∈ data, v < 2 ^ 8)
    (h : convertbits data 8 5 true = .ok values) :
    convertbits values 5 8 false = .ok data ∧ ∀ v ∈ values, v < 2 ^ 5 := by
  obtain ⟨ret, zeros, hret, hzeros, hbits, hlt⟩ := @convertbits_pad 8 5 (by decide) _ hdata
  obtain rfl : ret = values := Except.ok.inj (hret.symm.trans h)
  exact ⟨convertbits_of_bits (by decide) hlt hdata hzeros (by omega) hbits, hlt⟩

/-- Symbols that were regrouped into bytes come back. -/
theorem convertbits_symbols {values data : List ℕ} (hvalues : ∀ v ∈ values, v < 2 ^ 5)
    (h : convertbits values 5 8 false = .ok data) :
    convertbits data 8 5 true = .ok values ∧ ∀ v ∈ data, v < 2 ^ 8 := by
  obtain ⟨zeros, hzeros, -, hbits, hdata⟩ := convertbits_exact_bits (by decide) h
  obtain ⟨ret, zeros', hret, hzeros', hbits', hlt⟩ :=
    @convertbits_pad 8 5 (by decide) _ hdata
  have hlen := congrArg List.length hbits
  have hlen' := congrArg List.length hbits'
  rw [List.length_append, length_spell, length_spell, List.length_replicate] at hlen hlen'
  -- both counts are below five and fill the same number of bits
  have hsame : zeros = zeros' := by omega
  rw [← hsame, ← hbits] at hbits'
  rw [hret, spell_injective (by omega) hlt hvalues hbits']
  exact ⟨rfl, hdata⟩

/-- A byte's number, masked back into a byte. -/
theorem bytes_toNat (data : Bytes) : (data.map UInt8.toNat).map UInt8.ofNat = data := by
  rw [List.map_map]
  calc data.map (UInt8.ofNat ∘ UInt8.toNat) = data.map id := by
        refine List.map_congr_left fun b _ => ?_
        exact UInt8.ofNat_toNat
    _ = data := List.map_id data

theorem toNat_lt (data : Bytes) : ∀ v ∈ data.map UInt8.toNat, v < 2 ^ 8 := by
  intro v hv
  obtain ⟨b, -, rfl⟩ := List.mem_map.mp hv
  exact b.toNat_lt

theorem toNat_bytes {groups : List ℕ} (h : ∀ g ∈ groups, g < 2 ^ 8) :
    (groups.map UInt8.ofNat).map UInt8.toNat = groups := by
  rw [List.map_map]
  calc groups.map (UInt8.toNat ∘ UInt8.ofNat) = groups.map id := by
        refine List.map_congr_left fun g hg => ?_
        exact UInt8.toNat_ofNat_of_lt' (h g hg)
    _ = groups := List.map_id groups

/-! ## Symbols and characters -/

/-- Each symbol has a character, which is that symbol's. -/
theorem charset_symbol : ∀ v < 32, (charset[v]?).bind charset.idxOf? = some v := by
  decide +kernel

/-- The characters of symbols stand for these symbols. -/
theorem mapM_symbols {values : List ℕ} (h : ∀ v ∈ values, v < 32) :
    ∃ chars, values.mapM (fun d => charset[d]?) = some chars
      ∧ chars.mapM charset.idxOf? = some values := by
  induction values with
  | nil => exact ⟨[], rfl, rfl⟩
  | cons v values ih =>
      obtain ⟨hv, hvalues⟩ := List.forall_mem_cons.mp h
      obtain ⟨c, hc, hcv⟩ := Option.bind_eq_some_iff.mp (charset_symbol v hv)
      obtain ⟨chars, hchars, hback⟩ := ih hvalues
      refine ⟨c :: chars, ?_, ?_⟩
      · rw [List.mapM_cons, hc, hchars]
        rfl
      · rw [List.mapM_cons, hcv, hback]
        rfl

/-- A text of the alphabet is the characters of its symbols. -/
theorem mapM_chars {chars : List Char} :
    ∀ {values : List ℕ}, chars.mapM charset.idxOf? = some values →
      values.mapM (fun d => charset[d]?) = some chars ∧ (∀ v ∈ values, v < 32)
        ∧ values.length = chars.length ∧ '1' ∉ chars := by
  induction chars with
  | nil =>
      intro values h
      cases h
      refine ⟨rfl, ?_, rfl, List.not_mem_nil⟩
      intro v hv
      cases hv
  | cons c chars ih =>
      intro values h
      rw [List.mapM_cons] at h
      obtain ⟨v, hv, h⟩ := Option.bind_eq_some_iff.mp h
      obtain ⟨rest, hrest, h⟩ := Option.bind_eq_some_iff.mp h
      cases h
      obtain ⟨hback, hlt, hlen, hone⟩ := ih hrest
      have hchar : charset[v]? = some c := SwapsackTypo.symbol_char hv
      refine ⟨?_, List.forall_mem_cons.mpr ⟨SwapsackTypo.symbol_lt hv, hlt⟩, ?_, ?_⟩
      · rw [List.mapM_cons, hchar, hback]
        rfl
      · rw [List.length_cons, List.length_cons, hlen]
      · intro hmem
        rcases List.mem_cons.mp hmem with rfl | hmem
        · exact SwapsackTypo.charset_separators.1 (List.mem_of_getElem? hchar)
        · exact hone hmem

/-- The last `1` is the separator. -/
theorem rfindOne_separator (hrp : List Char) {data : List Char} (h : '1' ∉ data) :
    rfindOne (hrp ++ '1' :: data) = some hrp.length := by
  have hrev : (hrp ++ '1' :: data).reverse = data.reverse ++ '1' :: hrp.reverse := by
    simp only [List.reverse_append, List.reverse_cons, List.append_assoc, List.singleton_append]
  have hnone : data.reverse.findIdx? (fun c => c == '1') = none := by
    rw [List.findIdx?_eq_none_iff]
    intro c hc
    rw [beq_eq_false_iff_ne]
    rintro rfl
    exact h (List.mem_reverse.mp hc)
  have hidx : (data.reverse ++ '1' :: hrp.reverse).idxOf? '1' = some data.length := by
    rw [List.idxOf?, List.findIdx?_append, hnone, List.findIdx?_cons]
    simp
  rw [rfindOne, hrev, hidx, Option.map_some, List.length_append, List.length_cons]
  congr 1
  omega

/-! ## The checksum -/

/-- The six symbols the encoder puts behind the data. -/
def checksum (hrp : List Char) (values : List ℕ) (variant : ℕ) : List ℕ :=
  digits 5 6 (polymod (hrpExpand hrp ++ values ++ [0, 0, 0, 0, 0, 0]) ^^^ variant)

/-- **The checksum is the one that gives the variant.** -/
theorem checksum_iff (hrp : List Char) (values : List ℕ) {cs : List ℕ} {variant : ℕ}
    (hlen : cs.length = 6) (hcs : ∀ v ∈ cs, v < 32) (hvariant : variant < 2 ^ 30) :
    polymod (hrpExpand hrp ++ (values ++ cs)) = variant ↔ cs = checksum hrp values variant := by
  rw [polymod_eq_run, checksum, polymod_eq_run, ← List.append_assoc]
  exact bech32Code.run_checksum_iff rfl (by decide) 1 (hrpExpand hrp ++ values) hlen hcs hvariant

theorem checksum_length (hrp : List Char) (values : List ℕ) (variant : ℕ) :
    (checksum hrp values variant).length = 6 := length_digits 5 6 _

theorem checksum_lt {hrp : List Char} {values : List ℕ} {variant v : ℕ}
    (h : v ∈ checksum hrp values variant) : v < 32 := digits_lt h

/-- The two constants fit the register. -/
theorem variant_lt {variant : ℕ} (h : variant = bech32 ∨ variant = bech32m) :
    variant < 2 ^ 30 := by
  rcases h with rfl | rfl <;> decide

/-! ## The two directions -/

/-- What the encoder writes: the part it was given, the separator, and the
    characters of the data and its checksum. -/
theorem encode_shape (hrp : String) (data : Bytes) (variant : ℕ) :
    ∃ values chars, convertbits (data.map UInt8.toNat) 8 5 true = .ok values
      ∧ encode hrp data variant = .ok (String.ofList (hrp.toList ++ '1' :: chars))
      ∧ chars.mapM charset.idxOf? = some (values ++ checksum hrp.toList values variant) := by
  obtain ⟨values, zeros, hvalues, -, -, hlt⟩ := @convertbits_pad 8 5 (by decide) _ (toNat_lt data)
  have hsymbols : ∀ v ∈ values ++ checksum hrp.toList values variant, v < 32 := by
    intro v hv
    rcases List.mem_append.mp hv with hv | hv
    · exact hlt v hv
    · exact checksum_lt hv
  obtain ⟨chars, hchars, hback⟩ := mapM_symbols hsymbols
  refine ⟨values, chars, hvalues, ?_, hback⟩
  rw [encode, hvalues]
  simp only [ok_bind]
  have hchecksum : (List.range 6).map (fun i =>
      ((polymod (hrpExpand hrp.toList ++ values ++ [0, 0, 0, 0, 0, 0]) ^^^ variant)
        >>> (5 * (5 - i))) &&& 31) = checksum hrp.toList values variant := rfl
  rw [hchecksum, hchars]

section Decode

variable [PyUnicode]

/-- A text with the variant's checksum splits at its separator. -/
theorem split_separator {address : String} {hrp chars : List Char} {values : List ℕ}
    {variant : ℕ} (haddress : address.toList = hrp ++ '1' :: chars) (hne : hrp ≠ [])
    (hchars : chars.mapM charset.idxOf? = some values) (hlen : 6 ≤ values.length)
    (hpolymod : polymod (hrpExpand hrp ++ values) = variant)
    (hvariant : variant = bech32 ∨ variant = bech32m) :
    split address = .ok (hrp, values, variant) := by
  obtain ⟨-, -, hsame, hone⟩ := mapM_chars hchars
  have hpos : 0 < hrp.length := List.length_pos_iff.mpr hne
  have hbound : ¬ (hrp.length < 1 ∨ address.toList.length < hrp.length + 7) := by
    rw [haddress, List.length_append, List.length_cons]
    omega
  have htake : address.toList.take hrp.length = hrp := by
    rw [haddress, List.take_left' rfl]
  have hdrop : address.toList.drop (hrp.length + 1) = chars := by
    rw [haddress, List.drop_append, Nat.add_sub_cancel_left, List.drop_of_length_le (by omega)]
    rfl
  have hfind : rfindOne address.toList = some hrp.length := by
    rw [haddress, rfindOne_separator hrp hone]
  have hknown : ¬ (variant ≠ bech32 ∧ variant ≠ bech32m) := by
    rintro ⟨hplain, hm⟩
    exact hvariant.elim hplain hm
  rw [split]
  simp only [hfind]
  rw [if_neg hbound, htake, hdrop]
  simp only [hchars, hpolymod]
  rw [if_neg hknown]

/-- An accepted text has room for the checksum. -/
theorem split_long {address : String} {hrp : List Char} {values : List ℕ} {variant : ℕ}
    (h : split address = .ok (hrp, values, variant)) : 6 ≤ values.length := by
  rw [split] at h
  dsimp only at h
  cases hpos : rfindOne address.toList with
  | none =>
      rw [hpos] at h
      cases h
  | some pos =>
      rw [hpos] at h
      dsimp only at h
      split at h
      · cases h
      · rename_i hlen
        split at h
        · cases h
        · rename_i values' hvalues
          split at h
          · cases h
          · cases h
            obtain ⟨-, -, hsame, -⟩ := mapM_chars hvalues
            rw [hsame, List.length_drop]
            omega

/-- **A text the encoder wrote decodes** to what was encoded. -/
theorem decode_encode {hrp : String} (hne : hrp ≠ "") (data : Bytes) {variant : ℕ}
    (hvariant : variant = bech32 ∨ variant = bech32m) :
    ∃ address, encode hrp data variant = .ok address
      ∧ decode address variant = .ok (hrp.toList, data) := by
  obtain ⟨values, chars, hvalues, hencode, hchars⟩ := encode_shape hrp data variant
  obtain ⟨hback, -⟩ := convertbits_bytes (toNat_lt data) hvalues
  have hpolymod : polymod (hrpExpand hrp.toList ++ (values ++ checksum hrp.toList values variant))
      = variant :=
    (checksum_iff hrp.toList values (checksum_length _ _ _) (fun _ hv => checksum_lt hv)
      (variant_lt hvariant)).mpr rfl
  have hsplit : split (String.ofList (hrp.toList ++ '1' :: chars))
      = .ok (hrp.toList, values ++ checksum hrp.toList values variant, variant) := by
    refine split_separator String.toList_ofList ?_ hchars ?_ hpolymod hvariant
    · intro hnil
      exact hne (String.toList_eq_nil_iff.mp hnil)
    · rw [List.length_append, checksum_length]
      omega
  have htake : (values ++ checksum hrp.toList values variant).take
      ((values ++ checksum hrp.toList values variant).length - 6) = values := by
    rw [List.length_append, checksum_length, Nat.add_sub_cancel, List.take_left' rfl]
  refine ⟨_, hencode, ?_⟩
  rw [decode, hsplit]
  simp only [ok_bind]
  rw [if_neg (not_not.mpr rfl), htake, hback, ok_bind, bytes_toNat]

/-- **An accepted text is the encoding** of what it decodes to. -/
theorem encode_decode {address : String} {variant : ℕ} {hrp : List Char} {payload : Bytes}
    (h : decode address variant = .ok (hrp, payload)) :
    encode (String.ofList hrp) payload variant = .ok address := by
  obtain ⟨values, groups, hsplit, hgroups, rfl⟩ := decode_ok h
  obtain ⟨-, ⟨chars, haddress, hchars⟩, hpolymod, hvariant⟩ := split_ok hsplit
  obtain ⟨hback, hsymbols, -, -⟩ := mapM_chars hchars
  have hlen := split_long hsplit
  -- the last six symbols are the checksum, the others the payload
  set init := values.take (values.length - 6) with hinit
  set tail := values.drop (values.length - 6) with htail
  have hvalues : values = init ++ tail := (List.take_append_drop _ values).symm
  have htailLen : tail.length = 6 := by
    rw [htail, List.length_drop]
    omega
  -- the payload is regrouped into these symbols again, and they have one checksum
  obtain ⟨hregroup, hbytes⟩ := convertbits_symbols
    (fun v hv => hsymbols v (List.mem_of_mem_take hv)) hgroups
  have hcs : tail = checksum hrp init variant := by
    refine (checksum_iff hrp init htailLen ?_ (variant_lt hvariant)).mp ?_
    · intro v hv
      exact hsymbols v (List.mem_of_mem_drop hv)
    · rw [← hvalues, hpolymod]
  obtain ⟨values', chars', hvalues', hencode, hchars'⟩ :=
    encode_shape (String.ofList hrp) (groups.map UInt8.ofNat) variant
  rw [toNat_bytes hbytes, hregroup] at hvalues'
  obtain rfl : init = values' := Except.ok.inj hvalues'
  rw [String.toList_ofList] at hencode hchars'
  rw [← hcs, ← hvalues] at hchars'
  obtain ⟨hback', -⟩ := mapM_chars hchars'
  obtain rfl : chars' = chars := Option.some.inj (hback'.symm.trans hback)
  rw [hencode, ← haddress, String.ofList_toList]

/-- A text of one variant is refused under another. -/
theorem decode_other {address : String} {variant other : ℕ} {result : List Char × Bytes}
    (h : decode address variant = .ok result) (hne : variant ≠ other) :
    ∃ text, decode address other = .error (.valueError text) := by
  obtain ⟨hrp, payload⟩ := result
  obtain ⟨values, groups, hsplit, -, -⟩ := decode_ok h
  rw [decode, hsplit]
  simp only [ok_bind]
  rw [if_pos hne]
  exact ⟨_, rfl⟩

/-- A payload has one spelling under its human-readable part. -/
theorem decode_injective {address address' : String} {variant : ℕ} {result : List Char × Bytes}
    (h : decode address variant = .ok result) (h' : decode address' variant = .ok result) :
    address = address' := by
  obtain ⟨hrp, payload⟩ := result
  exact Except.ok.inj ((encode_decode h).symm.trans (encode_decode h'))

/-- **The two codecs**: each reads back what it wrote and nothing the other
    wrote, and a text it accepts is the only spelling of what it reads there. -/
theorem bech32_roundTrip :
    (∀ hrp data, hrp ≠ "" →
      (∃ address, bech32Encode hrp data = .ok address
        ∧ bech32Decode address = .ok (hrp.toList, data)
        ∧ ∃ text, bech32mDecode address = .error (.valueError text))
      ∧ ∃ address, bech32mEncode hrp data = .ok address
        ∧ bech32mDecode address = .ok (hrp.toList, data)
        ∧ ∃ text, bech32Decode address = .error (.valueError text))
    ∧ (∀ s hrp payload,
      (bech32Decode s = .ok (hrp, payload) → bech32Encode (String.ofList hrp) payload = .ok s)
      ∧ (bech32mDecode s = .ok (hrp, payload) → bech32mEncode (String.ofList hrp) payload = .ok s))
    ∧ ∀ s s' result,
      (bech32Decode s = .ok result → bech32Decode s' = .ok result → s = s')
      ∧ (bech32mDecode s = .ok result → bech32mDecode s' = .ok result → s = s') := by
  have happart : bech32 ≠ bech32m := by decide
  refine ⟨fun hrp data hne => ⟨?_, ?_⟩, fun s hrp payload => ⟨encode_decode, encode_decode⟩,
    fun s s' result => ⟨decode_injective, decode_injective⟩⟩
  · obtain ⟨address, hencode, hdecode⟩ := decode_encode hne data (Or.inl rfl)
    exact ⟨address, hencode, hdecode, decode_other hdecode happart⟩
  · obtain ⟨address, hencode, hdecode⟩ := decode_encode hne data (Or.inr rfl)
    exact ⟨address, hencode, hdecode, decode_other hdecode happart.symm⟩

end Decode

end SwapsackBech32
