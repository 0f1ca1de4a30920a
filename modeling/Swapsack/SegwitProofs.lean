import Swapsack.Bech32RoundTripProofs

/-! # Segwit addresses

    What a segwit address is, apart from the code that checks one: a witness
    version and a witness program, written under a human-readable part.

    * `segwitOk_iff` — the check accepts these texts and no others;
    * `encodes_existsUnique` — every program has one such text;
    * `validate_encodes` — the shape rule of Bitcoin addresses refuses none of
      them. -/

namespace SwapsackSegwit

open ListKit ByteString PyText SwapsackBase SwapsackBech32 SwapsackAddresses Bits
open SwapsackTypo (segwitOk_iff_split checksumProblem_segwit charset_plain parsePaymentUri_plain
  charset_separators strip_plain)

/-! ## Witness programs -/

/-- What a witness version and its program are held to. -/
structure WitnessProgram (version : ℕ) (program : Bytes) : Prop where
  version_le : version ≤ 16
  two_le : 2 ≤ program.length
  le_forty : program.length ≤ 40
  version_zero : version = 0 → program.length = 20 ∨ program.length = 32

/-- The constant of the checksum under a witness version. -/
def witnessVariant (version : ℕ) : ℕ := if version = 0 then bech32 else bech32m

/-- `address` is the human-readable part, the separator, and the characters of
    the version, of the program's symbols and of their checksum; the symbols
    spell the program's bits and fewer than five zeros. -/
def Encodes (hrp : String) (version : ℕ) (program : Bytes) (address : String) : Prop :=
  ∃ symbols zeros chars, zeros < 5 ∧ (∀ v ∈ symbols, v < 32)
    ∧ spell 5 symbols = spell 8 (program.map UInt8.toNat) ++ List.replicate zeros false
    ∧ (version :: symbols ++ checksum hrp.toList (version :: symbols)
        (witnessVariant version)).mapM (fun d => charset[d]?) = some chars
    ∧ address.toList = hrp.toList ++ '1' :: chars

theorem witnessVariant_known (version : ℕ) :
    witnessVariant version = bech32 ∨ witnessVariant version = bech32m := by
  rw [witnessVariant]
  by_cases h : version = 0
  · exact Or.inl (if_pos h)
  · exact Or.inr (if_neg h)

/-- Version, symbols and checksum are symbols of the alphabet. -/
theorem symbols_lt (hrp : String) {version : ℕ} {symbols : List ℕ} (hversion : version ≤ 16)
    (hsymbols : ∀ v ∈ symbols, v < 32) :
    ∀ v ∈ version :: symbols ++ checksum hrp.toList (version :: symbols) (witnessVariant version),
      v < 32 := by
  intro v hv
  rcases List.mem_append.mp hv with hv | hv
  · rcases List.mem_cons.mp hv with rfl | hv
    · omega
    · exact hsymbols v hv
  · exact checksum_lt hv

/-- **Every program is encoded** by one text. -/
theorem encodes_existsUnique (hrp : String) {version : ℕ} {program : Bytes}
    (h : WitnessProgram version program) : ∃! address, Encodes hrp version program address := by
  obtain ⟨symbols, zeros, -, hzeros, hbits, hsymbols⟩ :=
    @convertbits_pad 8 5 (by decide) _ (toNat_lt program)
  obtain ⟨chars, hchars, -⟩ := mapM_symbols (symbols_lt hrp h.version_le hsymbols)
  refine ⟨String.ofList (hrp.toList ++ '1' :: chars), ⟨symbols, zeros, chars, hzeros, hsymbols,
    hbits, hchars, String.toList_ofList⟩, ?_⟩
  rintro address ⟨symbols', zeros', chars', hzeros', hsymbols', hbits', hchars', haddress⟩
  -- fewer than five zeros fill the last symbol one way
  have hlen := congrArg List.length hbits
  have hlen' := congrArg List.length hbits'
  rw [List.length_append, length_spell, length_spell, List.length_replicate] at hlen hlen'
  have hsame : zeros' = zeros := by omega
  rw [hsame, ← hbits] at hbits'
  obtain rfl : symbols' = symbols :=
    spell_injective (by omega) hsymbols' hsymbols hbits'
  obtain rfl : chars' = chars := Option.some.inj (hchars'.symm.trans hchars)
  rw [← haddress, String.ofList_toList]

section Check

variable [PyUnicode] {address hrp : String} {version : ℕ} {program : Bytes}

/-- An accepted text encodes a program. -/
theorem encodes_of_segwitOk (h : segwitOk address hrp = true) :
    ∃ version program, WitnessProgram version program ∧ Encodes hrp version program address := by
  obtain ⟨version, rest, variant, groups, hsplit, hlen, hversion, hvariant, hgroups, hlow, hhigh,
    hzero⟩ := segwitOk_iff_split.mp h
  obtain ⟨-, ⟨chars, haddress, hchars⟩, hpolymod, hknown⟩ := split_ok hsplit
  obtain ⟨hback, hsymbols, -, -⟩ := mapM_chars hchars
  obtain ⟨zeros, hzeros, -, hbits, hbytes⟩ := convertbits_exact_bits (by decide) hgroups
  set symbols := rest.take (rest.length - 6) with hinit
  have hrest : rest = symbols ++ rest.drop (rest.length - 6) := (List.take_append_drop _ rest).symm
  have hprogram : (groups.map UInt8.ofNat).length = groups.length := List.length_map _
  refine ⟨version, groups.map UInt8.ofNat, ⟨hversion, by rw [hprogram]; exact hlow,
    by rw [hprogram]; exact hhigh, by rw [hprogram]; exact hzero⟩, symbols, zeros, chars, hzeros,
    ?_, ?_, ?_, haddress⟩
  · intro v hv
    exact hsymbols v (List.mem_cons_of_mem _ (List.mem_of_mem_take hv))
  · rw [toNat_bytes hbytes]
    exact hbits
  · -- the last six symbols are the checksum of the others
    have htail : rest.drop (rest.length - 6)
        = checksum hrp.toList (version :: symbols) (witnessVariant version) := by
      refine (checksum_iff hrp.toList (version :: symbols) ?_ ?_
        (variant_lt (witnessVariant_known version))).mp ?_
      · rw [List.length_drop]
        omega
      · intro v hv
        exact hsymbols v (List.mem_cons_of_mem _ (List.mem_of_mem_drop hv))
      · rw [List.cons_append, ← hrest, ← hpolymod, hvariant]
        rfl
    rw [← htail, List.cons_append, ← hrest]
    exact hback

/-- A text that encodes a program is accepted. -/
theorem segwitOk_of_encodes (hne : hrp ≠ "") (hwitness : WitnessProgram version program)
    (h : Encodes hrp version program address) : segwitOk address hrp = true := by
  obtain ⟨symbols, zeros, chars, hzeros, hsymbols, hbits, hchars, haddress⟩ := h
  have hlt := symbols_lt hrp hwitness.version_le hsymbols
  obtain ⟨chars', hchars', hback⟩ := mapM_symbols hlt
  obtain rfl : chars = chars' := Option.some.inj (hchars.symm.trans hchars')
  have hcs := checksum_length hrp.toList (version :: symbols) (witnessVariant version)
  have hpolymod : polymod (hrpExpand hrp.toList ++ (version :: symbols
      ++ checksum hrp.toList (version :: symbols) (witnessVariant version)))
      = witnessVariant version :=
    (checksum_iff hrp.toList (version :: symbols) hcs (fun _ hv => checksum_lt hv)
      (variant_lt (witnessVariant_known version))).mpr rfl
  have hsplit := split_separator haddress (fun hnil => hne (String.toList_eq_nil_iff.mp hnil))
    hback (by rw [List.length_append, hcs]; omega) hpolymod (witnessVariant_known version)
  have hgroups : convertbits symbols 5 8 false = .ok (program.map UInt8.toNat) :=
    convertbits_of_bits (by decide) hsymbols (toNat_lt program) hzeros (by omega) hbits
  have hlength : (program.map UInt8.toNat).length = program.length := List.length_map _
  rw [List.cons_append] at hsplit
  refine segwitOk_iff_split.mpr ⟨version, _, _, program.map UInt8.toNat, hsplit, ?_,
    hwitness.version_le, rfl, ?_, ?_, ?_, ?_⟩
  · rw [List.length_append, hcs]
    omega
  · rw [List.length_append, hcs, Nat.add_sub_cancel, List.take_left' rfl, hgroups]
  · rw [hlength]
    exact hwitness.two_le
  · rw [hlength]
    exact hwitness.le_forty
  · rw [hlength]
    exact hwitness.version_zero

/-- **The segwit check** accepts the encodings under its human-readable part, and
    nothing else; an empty part encodes nothing it accepts. -/
theorem segwitOk_iff : segwitOk address hrp = true ↔ hrp ≠ ""
    ∧ ∃ version program, WitnessProgram version program ∧ Encodes hrp version program address := by
  constructor
  · intro h
    refine ⟨?_, encodes_of_segwitOk h⟩
    rintro rfl
    obtain ⟨_, _, _, _, hsplit, -⟩ := segwitOk_iff_split.mp h
    exact (split_ok hsplit).1 rfl
  · rintro ⟨hne, version, program, hwitness, h⟩
    exact segwitOk_of_encodes hne hwitness h

end Check

/-! ## Bitcoin's rule for them -/

section Rule

variable [PyUnicode] (lib : ChecksumLib) {address : String} {version : ℕ} {program : Bytes}

omit [PyUnicode] in
/-- The alphabet is within the rule's. -/
theorem charset_base32 : ∀ c ∈ charset, isBase32 c = true ∧ c.toNat < 128 ∧ c.toLower = c :=
  forall_mem_of_all (by decide)

omit [PyUnicode] in
/-- How long the part behind the separator is. -/
theorem Encodes.data {hrp : String} (h : Encodes hrp version program address)
    (hwitness : WitnessProgram version program) :
    ∃ chars, address.toList = hrp.toList ++ '1' :: chars ∧ (∀ c ∈ chars, c ∈ charset)
      ∧ 11 ≤ chars.length ∧ chars.length ≤ 71 := by
  obtain ⟨symbols, zeros, chars, hzeros, hsymbols, hbits, hchars, haddress⟩ := h
  refine ⟨chars, haddress, ?_, ?_⟩
  · intro c hc
    obtain ⟨v, -, hv⟩ := forall₂_mem_right (mapM_eq_some_iff.mp hchars) hc
    exact List.mem_of_getElem? hv
  · have hlen := congrArg List.length hbits
    have hall := (mapM_eq_some_iff.mp hchars).length_eq
    rw [length_spell, List.length_append, length_spell, List.length_replicate, List.length_map]
      at hlen
    rw [List.length_append, List.length_cons, checksum_length] at hall
    have hlow := hwitness.two_le
    have hhigh := hwitness.le_forty
    omega

omit [PyUnicode] in
/-- A text of Bitcoin's segwit shape matches its rule. -/
theorem ruleMatches_segwit {chars : List Char} (hchars : ∀ c ∈ chars, c ∈ charset)
    (hlow : 11 ≤ chars.length) (hhigh : chars.length ≤ 71) {rule : List Form}
    (hrule : getKey rules "BTC" = some rule) : ruleMatches rule ("bc1".toList ++ chars) = true := by
  obtain rfl : [{ literal := "bc1", body := isBase32, least := 11, most := 71 }, legacy "13"]
      = rule := Option.some.inj hrule
  have hend : ("bc1".toList ++ chars).getLast? ≠ some '\n' := by
    intro hlast
    rcases List.mem_append.mp (List.mem_of_getLast? hlast) with hin | hin
    · exact absurd hin (by decide)
    · exact absurd (charset_plain _ (hchars _ hin)).1 (by decide)
  have hbody : chars.all isBase32 = true :=
    List.all_eq_true.mpr fun c hc => (charset_base32 c (hchars c hc)).1
  have hdrop : ("bc1".toList ++ chars).drop "bc1".length = chars := rfl
  have hleads : "bc1".toList.isPrefixOf ("bc1".toList ++ chars) = true :=
    List.isPrefixOf_iff_prefix.mpr (List.prefix_append _ _)
  rw [ruleMatches, if_neg hend, List.any_cons, Form.accepts]
  simp only [hleads, hdrop, Form.leadMatches, if_true, Form.bodyMatches, hbody, hlow, hhigh,
    decide_true, Bool.and_true, Bool.true_or]

omit [PyUnicode] in
theorem uriSchemes_head : ∀ p ∈ uriSchemes, "bc1".toList.isPrefixOf p.1.toList = false :=
  forall_mem_of_all (by decide)

/-- It is no payment URI: it has no colon, and is no scheme. -/
theorem uriChain_segwit {chars : List Char} (hchars : ∀ c ∈ chars, c ∈ charset) :
    uriChain (String.ofList ("bc1".toList ++ chars)) = none
      ∧ (parsePaymentUri (String.ofList ("bc1".toList ++ chars))).1
        = String.ofList ("bc1".toList ++ chars) := by
  have hlead : ∀ c ∈ "bc1".toList, isSpace c = false ∧ c ≠ ':' ∧ c.toNat < 128 ∧ c.toLower = c :=
    forall_mem_of_all (by decide)
  have hplain : ∀ c ∈ "bc1".toList ++ chars,
      isSpace c = false ∧ c ≠ ':' ∧ c.toNat < 128 ∧ c.toLower = c := by
    intro c hc
    rcases List.mem_append.mp hc with hin | hin
    · exact hlead c hin
    · obtain ⟨hspace, hcolon, -⟩ := charset_plain c (hchars c hin)
      exact ⟨hspace, hcolon, (charset_base32 c (hchars c hin)).2⟩
  have hspace : ∀ c ∈ "bc1".toList ++ chars, isSpace c = false := fun c hc => (hplain c hc).1
  have hcolon : ':' ∉ "bc1".toList ++ chars := fun hin => (hplain _ hin).2.1 rfl
  have hlower : PyUnicode.lower (String.ofList ("bc1".toList ++ chars))
      = String.ofList ("bc1".toList ++ chars) := by
    rw [PyUnicode.lower_ascii, String.toList_ofList]
    · rw [List.map_congr_left fun c hc => (hplain c hc).2.2.2, List.map_id']
    · rw [String.toList_ofList]
      exact fun c hc => (hplain c hc).2.2.1
  constructor
  · rw [uriChain, String.toList_ofList, strip_plain hspace, partition_of_notMem hcolon]
    show getKey uriSchemes (PyUnicode.lower (String.ofList ("bc1".toList ++ chars))) = none
    rw [hlower]
    cases hkey : getKey uriSchemes (String.ofList ("bc1".toList ++ chars)) with
    | none => rfl
    | some chain =>
        -- a scheme would begin with `bc1`
        have hhead := uriSchemes_head _ (mem_of_getKey hkey)
        have htext : (String.ofList ("bc1".toList ++ chars)).toList = "bc1".toList ++ chars :=
          String.toList_ofList
        have hleads : "bc1".toList.isPrefixOf ("bc1".toList ++ chars) = true :=
          List.isPrefixOf_iff_prefix.mpr (List.prefix_append _ _)
        dsimp only at hhead
        rw [htext, hleads] at hhead
        cases hhead
  · refine String.toList_inj.mp ?_
    exact (parsePaymentUri_plain hspace hcolon).trans String.toList_ofList.symm

/-- The checksum it is held against is the segwit one. -/
theorem checksumProblem_of_segwitOk {chars : List Char}
    (hok : segwitOk (String.ofList ("bc1".toList ++ chars)) "bc" = true) :
    checksumProblem lib "BTC" (String.ofList ("bc1".toList ++ chars)) = none := by
  have hkey : getKey segwitHrp "BTC" = some "bc" := rfl
  have hstarts : startsWith (String.ofList ("bc1".toList ++ chars)) ("bc" ++ "1") = true := by
    rw [startsWith, List.isPrefixOf_iff_prefix, String.toList_ofList]
    exact List.prefix_append _ _
  rw [checksumProblem]
  rw [hkey, Option.filter_some, if_pos hstarts]
  dsimp only
  rw [hok]
  rfl

/-- **Bitcoin's rule** refuses no segwit address. -/
theorem validate_encodes (hwitness : WitnessProgram version program)
    (h : Encodes "bc" version program address) :
    validateDestinationAddress lib "BTC" address = none := by
  have hok := segwitOk_of_encodes (by decide) hwitness h
  obtain ⟨chars, haddress, hchars, hlow, hhigh⟩ := h.data hwitness
  obtain rfl : address = String.ofList ("bc1".toList ++ chars) := by
    rw [← String.ofList_toList (s := address), haddress]
    rfl
  obtain ⟨huri, hparse⟩ := uriChain_segwit hchars
  obtain ⟨rule, hrule⟩ : ∃ rule, getKey rules "BTC" = some rule := ⟨_, rfl⟩
  have hmatch := ruleMatches_segwit hchars hlow hhigh hrule
  have hproblem := checksumProblem_of_segwitOk lib hok
  have hne : String.ofList ("bc1".toList ++ chars) ≠ "" := by
    intro hempty
    have hnil := congrArg String.toList hempty
    rw [String.toList_ofList] at hnil
    cases hnil
  rw [← String.toList_ofList (l := "bc1".toList ++ chars)] at hmatch
  rw [validateDestinationAddress, if_neg hne]
  simp only [huri]
  generalize parsePaymentUri (String.ofList ("bc1".toList ++ chars)) = parsed at hparse ⊢
  obtain ⟨text, params⟩ := parsed
  dsimp only at hparse ⊢
  rw [hparse, if_neg (by decide), if_neg hne, hrule]
  dsimp only
  rw [hmatch]
  exact hproblem

end Rule

/-- **Segwit addresses**: the check accepts the encodings of witness programs
    under its human-readable part and nothing else, and the ones of Bitcoin are
    accepted as destinations. -/
theorem segwitOk_encodes [PyUnicode] (lib : ChecksumLib) (address hrp : String) :
    (segwitOk address hrp = true ↔ hrp ≠ ""
      ∧ ∃ version program, WitnessProgram version program ∧ Encodes hrp version program address)
    ∧ ∀ version program, WitnessProgram version program → Encodes "bc" version program address →
      validateDestinationAddress lib "BTC" address = none :=
  ⟨segwitOk_iff, fun _ _ hwitness h => validate_encodes lib hwitness h⟩

end SwapsackSegwit
