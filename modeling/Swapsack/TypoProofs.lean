import Swapsack.AddressesProofs
import Swapsack.TypoCodeProofs

/-! # Single-character typos

    bech32 and cashaddr are two codes of one kind (`TypoCode`), so a wrong
    symbol is caught at any length as long as one constant ends the checksum.
    Where the witness version selects the constant, a typo in the version must
    also not carry one constant into the other; version 0 has two lengths, and
    both are computed.

    * `polymod_eq_run`, `cashaddrStep_eq` — both checksums are registers;
    * `segwitOk_typo`, `bech32Decode_typo`, `cashaddrOk_typo` — what each check
      says of a typo;
    * `validateDestinationAddress_typo` — no typo behind the separator is
      accepted. -/

namespace SwapsackTypo

open ListKit PyText SwapsackBase SwapsackBech32 SwapsackAddresses TypoCode

/-! ## The two codes -/

/-- The checksum of bech32 and bech32m. -/
def bech32Code : Code where
  width := 30
  symbol := 5
  generators := generators
  wide := by decide
  generators_lt := by decide
  independent := by decide +kernel

/-- The checksum of cashaddr. -/
def cashaddrCode : Code where
  width := 40
  symbol := 5
  generators := cashaddrGenerators
  wide := by decide
  generators_lt := by decide
  independent := by decide +kernel

theorem polymodStep_eq (chk value : ℕ) :
    polymodStep chk value = bech32Code.shift chk ^^^ value := by
  have hmask : chk &&& 0x1FFFFFF = chk % 2 ^ 25 := Nat.and_two_pow_sub_one_eq_mod chk 25
  rw [polymodStep]
  rw [hmask, foldl_feed]
  show (chk % 2 ^ 25) <<< 5 ^^^ value ^^^ feed generators (chk >>> 25)
    = (chk % 2 ^ 25) <<< 5 ^^^ feed generators (chk >>> 25) ^^^ value
  ac_rfl

theorem cashaddrStep_eq (checksum value : ℕ) :
    cashaddrStep checksum value = cashaddrCode.shift checksum ^^^ value := by
  have hmask : checksum &&& 0x07FFFFFFFF = checksum % 2 ^ 35 :=
    Nat.and_two_pow_sub_one_eq_mod checksum 35
  have hfeed : (fun (c : ℕ) (gen : ℕ × ℕ) =>
        if (checksum >>> 35 >>> gen.2) &&& 1 ≠ 0 then c ^^^ gen.1 else c)
      = fun c gen => c ^^^ if (checksum >>> 35 >>> gen.2) &&& 1 ≠ 0 then gen.1 else 0 := by
    funext c gen
    split
    · rfl
    · exact (Nat.xor_zero c).symm
  rw [cashaddrStep]
  rw [hfeed, hmask, foldl_feed]
  show (checksum % 2 ^ 35) <<< 5 ^^^ value ^^^ feed cashaddrGenerators (checksum >>> 35)
    = (checksum % 2 ^ 35) <<< 5 ^^^ feed cashaddrGenerators (checksum >>> 35) ^^^ value
  ac_rfl

/-- The bech32 checksum is a run of its register. -/
theorem polymod_eq_run (values : List ℕ) : polymod values = bech32Code.run 1 values := by
  have hstep : polymodStep = fun chk value => bech32Code.shift chk ^^^ value := by
    funext chk value
    exact polymodStep_eq chk value
  rw [polymod, hstep]
  rfl

theorem cashaddr_eq_run (values : List ℕ) :
    values.foldl cashaddrStep 1 = cashaddrCode.run 1 values := by
  have hstep : cashaddrStep = fun chk value => cashaddrCode.shift chk ^^^ value := by
    funext chk value
    exact cashaddrStep_eq chk value
  rw [hstep]
  rfl

/-- **No version typo carries one constant into the other**: at the two lengths
    of a version 0 address, no symbol shifted on is the constants' difference. -/
theorem version_apart :
    ∀ e < 32, bech32Code.shift^[38] e ≠ bech32 ^^^ bech32m
      ∧ bech32Code.shift^[58] e ≠ bech32 ^^^ bech32m := by
  decide +kernel

/-! ## Typos -/

/-- `data` and `data'` differ in one character, which `data'` has from the
    bech32 alphabet. -/
def Typo (data data' : List Char) : Prop :=
  ∃ l x y r, data = l ++ x :: r ∧ data' = l ++ y :: r ∧ x ≠ y ∧ y ∈ charset

/-- The symbol of a character; the alphabet has thirty-two. -/
theorem symbol_lt {c : Char} {v : ℕ} (h : charset.idxOf? c = some v) : v < 32 := by
  rw [List.idxOf?, List.findIdx?_eq_some_iff_getElem] at h
  obtain ⟨hlt, -, -⟩ := h
  exact hlt

theorem symbol_char {c : Char} {v : ℕ} (h : charset.idxOf? c = some v) :
    charset[v]? = some c := by
  rw [List.idxOf?, List.findIdx?_eq_some_iff_getElem] at h
  obtain ⟨hlt, hc, -⟩ := h
  rw [List.getElem?_eq_some_iff]
  exact ⟨hlt, by simpa using hc⟩

/-- The symbols of a text, around one of its characters. -/
theorem symbols_split {l r : List Char} {x : Char} {values : List ℕ}
    (h : (l ++ x :: r).mapM charset.idxOf? = some values) :
    ∃ vl v vr, l.mapM charset.idxOf? = some vl ∧ charset.idxOf? x = some v
      ∧ r.mapM charset.idxOf? = some vr ∧ values = vl ++ v :: vr := by
  rw [List.mapM_append, List.mapM_cons] at h
  obtain ⟨vl, hl, h⟩ := Option.bind_eq_some_iff.mp h
  obtain ⟨rest, hrest, h⟩ := Option.bind_eq_some_iff.mp h
  obtain ⟨v, hv, hrest⟩ := Option.bind_eq_some_iff.mp hrest
  obtain ⟨vr, hr, hrest⟩ := Option.bind_eq_some_iff.mp hrest
  cases hrest
  cases h
  exact ⟨vl, v, vr, hl, hv, hr, rfl⟩

/-- The symbols of a text and of its typo differ in one place. -/
theorem typo_symbols {data data' : List Char} {values values' : List ℕ}
    (htypo : Typo data data') (h : data.mapM charset.idxOf? = some values)
    (h' : data'.mapM charset.idxOf? = some values') :
    ∃ l vx vy r, values = l ++ vx :: r ∧ values' = l ++ vy :: r ∧ vx ≠ vy
      ∧ vx < 32 ∧ vy < 32 := by
  obtain ⟨l, x, y, r, rfl, rfl, hne, -⟩ := htypo
  obtain ⟨vl, vx, vr, hl, hx, hr, rfl⟩ := symbols_split h
  obtain ⟨vl', vy, vr', hl', hy, hr', rfl⟩ := symbols_split h'
  obtain rfl : vl = vl' := Option.some.inj (hl.symm.trans hl')
  obtain rfl : vr = vr' := Option.some.inj (hr.symm.trans hr')
  refine ⟨vl, vx, vy, vr, rfl, rfl, ?_, symbol_lt hx, symbol_lt hy⟩
  rintro rfl
  exact hne (Option.some.inj ((symbol_char hx).symm.trans (symbol_char hy)))

/-- The alphabet has neither the bech32 separator nor the cashaddr one. -/
theorem charset_separators : '1' ∉ charset ∧ ':' ∉ charset := by
  decide

/-- Behind the part that ends in the separator stands what has symbols: the
    alphabet has no separator. -/
theorem data_of_split [PyUnicode] {address : String} {hrp data : List Char}
    {values : List ℕ} {variant : ℕ} (h : split address = .ok (hrp, values, variant))
    (haddress : address.toList = hrp ++ '1' :: data) :
    data.mapM charset.idxOf? = some values
      ∧ variant = bech32Code.run 1 (hrpExpand hrp ++ values) := by
  obtain ⟨-, ⟨data', hdata, hvalues⟩, hvariant, -⟩ := split_ok h
  rw [haddress] at hdata
  obtain rfl : data = data' := List.tail_eq_of_cons_eq (List.append_cancel_left hdata)
  rw [polymod_eq_run] at hvariant
  exact ⟨hvalues, hvariant⟩

/-! ## What each check says of a typo -/

section Checks

variable [PyUnicode] {address address' : String} {hrp data data' : List Char}

/-- **Plain bech32**: one constant, so any typo is caught, at any length. -/
theorem bech32Decode_typo (htypo : Typo data data')
    (haddress : address.toList = hrp ++ '1' :: data)
    (haddress' : address'.toList = hrp ++ '1' :: data') {payload payload' : ByteString.Bytes}
    (h : bech32Decode address = .ok (hrp, payload)) :
    bech32Decode address' ≠ .ok (hrp, payload') := by
  intro h'
  obtain ⟨values, -, hsplit, -, -⟩ := decode_ok h
  obtain ⟨values', -, hsplit', -, -⟩ := decode_ok h'
  obtain ⟨hvalues, hrun⟩ := data_of_split hsplit haddress
  obtain ⟨hvalues', hrun'⟩ := data_of_split hsplit' haddress'
  obtain ⟨l, vx, vy, r, rfl, rfl, hne, hx, hy⟩ := typo_symbols htypo hvalues hvalues'
  rw [hrun, ← List.append_assoc, ← List.append_assoc] at hrun'
  exact bech32Code.run_replace_ne 1 _ r (lt_trans hx (by decide)) (lt_trans hy (by decide))
    hne hrun'

/-- What a well-formed segwit address is: the version selects the constant, and
    the program has a length the version allows. -/
theorem segwitOk_iff_split {hrp : String} : segwitOk address hrp = true
    ↔ ∃ version rest variant program, split address = .ok (hrp.toList, version :: rest, variant)
      ∧ 6 ≤ rest.length ∧ version ≤ 16
      ∧ variant = (if version = 0 then bech32 else bech32m)
      ∧ convertbits (rest.take (rest.length - 6)) 5 8 false = .ok program
      ∧ 2 ≤ program.length ∧ program.length ≤ 40
      ∧ (version = 0 → program.length = 20 ∨ program.length = 32) := by
  constructor
  · intro h
    rw [segwitOk] at h
    split at h
    · cases h
    rename_i gotHrp values variant hsplit
    split at h
    · cases h
    rename_i version rest
    split at h
    · cases h
    rename_i hshape
    obtain ⟨hhrp, hlen⟩ := not_or.mp hshape
    split at h
    · cases h
    rename_i hversion
    by_cases hvariant : variant = if version = 0 then bech32 else bech32m
    swap
    · rw [if_pos hvariant] at h
      cases h
    rw [if_neg (not_not.mpr hvariant)] at h
    split at h
    · cases h
    rename_i program hprogram
    split at h
    · cases h
    rename_i hlength
    obtain ⟨hlow, hhigh⟩ := not_or.mp hlength
    rw [not_not] at hhrp
    rw [List.length_cons] at hlen
    refine ⟨version, rest, variant, program, hhrp ▸ hsplit, by omega, not_lt.mp hversion,
      hvariant, hprogram, not_lt.mp hlow, not_lt.mp hhigh, ?_⟩
    rintro rfl
    simpa using h
  · rintro ⟨version, rest, variant, program, hsplit, hlen, hversion, hvariant, hprogram, hlow,
      hhigh, hzero⟩
    rw [segwitOk, hsplit]
    dsimp only
    rw [if_neg (by rw [List.length_cons]; simp; omega), if_neg (not_lt.mpr hversion),
      if_neg (not_not.mpr hvariant), hprogram]
    dsimp only
    rw [if_neg (by omega)]
    by_cases h : version = 0
    · simpa [h] using hzero h
    · simp [h]

/-- The lengths of the two programs of version 0, in symbols with the checksum. -/
theorem segwitOk_parts {hrp : String} (h : segwitOk address hrp = true) :
    ∃ version rest variant, split address = .ok (hrp.toList, version :: rest, variant)
      ∧ variant = (if version = 0 then bech32 else bech32m)
      ∧ (version = 0 → rest.length = 38 ∨ rest.length = 58) := by
  obtain ⟨version, rest, variant, program, hsplit, hlen, -, hvariant, hprogram, -, -, hzero⟩ :=
    segwitOk_iff_split.mp h
  refine ⟨version, rest, variant, hsplit, hvariant, fun hversion => ?_⟩
  obtain ⟨left, hleft, -, hbits⟩ := convertbits_exact (by decide) hprogram
  have hbytes := hzero hversion
  rw [List.length_take] at hbits
  omega

/-- **Segwit**: a typo is caught, the version's own included. -/
theorem segwitOk_typo {hrp : String} (htypo : Typo data data')
    (haddress : address.toList = hrp.toList ++ '1' :: data)
    (haddress' : address'.toList = hrp.toList ++ '1' :: data')
    (h : segwitOk address hrp = true) : segwitOk address' hrp = false := by
  rw [Bool.eq_false_iff]
  intro h'
  obtain ⟨version, rest, variant, hsplit, hvariant, hlen⟩ := segwitOk_parts h
  obtain ⟨version', rest', variant', hsplit', hvariant', hlen'⟩ := segwitOk_parts h'
  obtain ⟨hvalues, hrun⟩ := data_of_split hsplit haddress
  obtain ⟨hvalues', hrun'⟩ := data_of_split hsplit' haddress'
  obtain ⟨l, vx, vy, r, hsame, hsame', hne, hx, hy⟩ := typo_symbols htypo hvalues hvalues'
  rw [hsame, ← List.append_assoc] at hrun
  rw [hsame', ← List.append_assoc] at hrun'
  have hone : variant ≠ variant' := by
    rw [hrun, hrun']
    exact bech32Code.run_replace_ne 1 _ r (lt_trans hx (by decide))
      (lt_trans hy (by decide)) hne
  cases l with
  | cons v l =>
      -- the version is untouched, so one constant ends both
      have hv : version = version' := by
        rw [(List.cons.inj hsame).1, (List.cons.inj hsame').1]
      rw [hvariant, hvariant', hv] at hone
      exact hone rfl
  | nil =>
      obtain ⟨hv, hrest⟩ := List.cons.inj hsame
      obtain ⟨hv', hrest'⟩ := List.cons.inj hsame'
      rw [hrest] at hlen
      rw [hrest'] at hlen'
      subst hv hv'
      have hdiff := bech32Code.run_replace 1 (hrpExpand hrp.toList ++ []) r version version'
      rw [← hrun, ← hrun'] at hdiff
      have he : version ^^^ version' < 32 := Nat.xor_lt_two_pow (n := 5) hx hy
      obtain ⟨h38, h58⟩ := version_apart _ he
      by_cases hzero : version = 0
      · rw [if_pos hzero] at hvariant
        by_cases hzero' : version' = 0
        · exact hne (hzero.trans hzero'.symm)
        · rw [if_neg hzero'] at hvariant'
          rw [hvariant, hvariant'] at hdiff
          rcases hlen hzero with hr | hr
          · rw [hr] at hdiff
            exact h38 hdiff.symm
          · rw [hr] at hdiff
            exact h58 hdiff.symm
      · rw [if_neg hzero] at hvariant
        by_cases hzero' : version' = 0
        · rw [if_pos hzero'] at hvariant'
          rw [hvariant, hvariant', Nat.xor_comm] at hdiff
          rcases hlen' hzero' with hr | hr
          · rw [hr] at hdiff
            exact h38 hdiff.symm
          · rw [hr] at hdiff
            exact h58 hdiff.symm
        · rw [if_neg hzero'] at hvariant'
          exact hone (hvariant.trans hvariant'.symm)

end Checks

/-- What a cashaddr checksum is taken over. -/
def cashaddrPrefixed (pre : List Char) : List ℕ :=
  pre.map (fun (c : Char) => c.toNat &&& 0x1F) ++ [0]

/-- A cashaddr checksum over a written or implied prefix. -/
theorem cashaddrOk_iff {address : String} {pre data : List Char}
    (hsplit : rpartitionColon address.toList = (pre, data)) :
    cashaddrOk address = true
      ↔ ∃ values, data.mapM charset.idxOf? = some values
        ∧ cashaddrCode.run 1 (cashaddrPrefixed
            (if pre = [] then "bitcoincash".toList else pre) ++ values) = 1 := by
  unfold cashaddrOk
  rw [hsplit]
  dsimp only
  generalize (if pre = [] then "bitcoincash".toList else pre) = shown
  cases hvalues : data.mapM charset.idxOf? with
  | none =>
      constructor
      · intro h
        cases h
      · rintro ⟨values, hnone, -⟩
        cases hnone
  | some values =>
      show (((cashaddrPrefixed shown ++ values).foldl cashaddrStep 1) ^^^ 1 == 0) = true ↔ _
      rw [cashaddr_eq_run, beq_iff_eq, Nat.xor_eq_zero_iff]
      constructor
      · intro h
        exact ⟨values, rfl, h⟩
      · rintro ⟨values', hsame, h⟩
        cases hsame
        exact h

/-- **cashaddr**: a typo behind the same prefix is caught. -/
theorem cashaddrOk_typo {address address' : String} {pre data data' : List Char}
    (htypo : Typo data data') (hsplit : rpartitionColon address.toList = (pre, data))
    (hsplit' : rpartitionColon address'.toList = (pre, data'))
    (h : cashaddrOk address = true) : cashaddrOk address' = false := by
  rw [Bool.eq_false_iff]
  intro h'
  obtain ⟨values, hvalues, hrun⟩ := (cashaddrOk_iff hsplit).mp h
  obtain ⟨values', hvalues', hrun'⟩ := (cashaddrOk_iff hsplit').mp h'
  obtain ⟨l, vx, vy, r, rfl, rfl, hne, hx, hy⟩ := typo_symbols htypo hvalues hvalues'
  rw [← List.append_assoc] at hrun hrun'
  exact cashaddrCode.run_replace_ne 1 _ r (lt_trans hx (by decide))
    (lt_trans hy (by decide)) hne (hrun.trans hrun'.symm)

/-! ## Destinations -/

/-- The addresses with a bech32 or cashaddr checksum: the chain, what stands up
    to the separator, and the part after it.  A cashaddr may leave its prefix
    off; it is then told from a legacy address by its first character. -/
inductive Separated : String → List Char → List Char → Prop where
  | segwit {chain hrp : String} {data : List Char} (h : getKey segwitHrp chain = some hrp) :
      Separated chain (hrp.toList ++ ['1']) data
  | plain {chain hrp : String} {data : List Char}
      (h : getKey plainBech32Hrp chain = some hrp) :
      Separated chain (hrp.toList ++ ['1']) data
  | prefixed {data : List Char} : Separated "BCH" "bitcoincash:".toList data
  | bare {data : List Char} (h : data.head? = some 'q' ∨ data.head? = some 'p') :
      Separated "BCH" [] data

section Destination

variable [PyUnicode] {lib : ChecksumLib} {chain hrp : String}

/-- An accepted destination names an address of the chain's shape that does not
    fail its checksum. -/
theorem validate_accepted {text : String} {rule : List Form}
    (hrule : getKey rules chain = some rule)
    (h : validateDestinationAddress lib chain text = none) :
    ruleMatches rule (parsePaymentUri text).1.toList = true
      ∧ checksumProblem lib chain (parsePaymentUri text).1 = none := by
  rw [validateDestinationAddress] at h
  split at h
  · cases h
  dsimp only at h
  split at h
  · cases h
  generalize parsePaymentUri text = parsed at h ⊢
  obtain ⟨address, params⟩ := parsed
  dsimp only at h ⊢
  split at h
  · cases h
  rw [hrule] at h
  dsimp only at h
  cases hmatch : ruleMatches rule address.toList with
  | false =>
      rw [hmatch] at h
      cases h
  | true =>
      rw [hmatch] at h
      exact ⟨rfl, h⟩

omit [PyUnicode] in
/-- The chains with a bech32 form have a shape rule. -/
theorem segwit_rule (h : getKey segwitHrp chain = some hrp) :
    ∃ rule, getKey rules chain = some rule := by
  have hmem := mem_of_getKey h
  rw [segwitHrp, List.mem_cons, List.mem_singleton] at hmem
  rcases hmem with heq | heq
  · cases heq
    exact ⟨_, rfl⟩
  · cases heq
    exact ⟨_, rfl⟩

omit [PyUnicode] in
theorem plain_rule (h : getKey plainBech32Hrp chain = some hrp) :
    (∃ rule, getKey rules chain = some rule) ∧ getKey segwitHrp chain = none := by
  have hmem := mem_of_getKey h
  simp only [plainBech32Hrp, List.mem_cons, List.not_mem_nil, or_false] at hmem
  rcases hmem with heq | heq | heq | heq
  · cases heq
    exact ⟨⟨_, rfl⟩, rfl⟩
  · cases heq
    exact ⟨⟨_, rfl⟩, rfl⟩
  · cases heq
    exact ⟨⟨_, rfl⟩, rfl⟩
  · cases heq
    exact ⟨⟨_, rfl⟩, rfl⟩

/-- A segwit address is held against the segwit checksum. -/
theorem checksumProblem_segwit (h : getKey segwitHrp chain = some hrp) {address : String}
    {data : List Char} (haddress : address.toList = hrp.toList ++ '1' :: data)
    (hnone : checksumProblem lib chain address = none) : segwitOk address hrp = true := by
  have hstarts : startsWith address (hrp ++ "1") = true := by
    rw [startsWith, List.isPrefixOf_iff_prefix, haddress, String.toList_append]
    exact ⟨data, by rw [List.append_assoc]; rfl⟩
  rw [checksumProblem] at hnone
  rw [h, Option.filter_some, if_pos hstarts] at hnone
  dsimp only at hnone
  cases hok : segwitOk address hrp with
  | true => rfl
  | false =>
      rw [hok] at hnone
      cases hnone

/-- An account address is held against plain bech32. -/
theorem checksumProblem_plain (h : getKey plainBech32Hrp chain = some hrp) {address : String}
    (hnone : checksumProblem lib chain address = none) :
    ∃ payload, bech32Decode address = .ok (hrp.toList, payload) := by
  rw [checksumProblem] at hnone
  rw [(plain_rule h).2, Option.filter_none, h] at hnone
  dsimp only at hnone
  cases hdecode : bech32Decode address with
  | error e =>
      rw [hdecode] at hnone
      cases hnone
  | ok decoded =>
      obtain ⟨decodedHrp, payload⟩ := decoded
      rw [hdecode] at hnone
      dsimp only at hnone
      cases hsame : (decodedHrp == hrp.toList) with
      | true => exact ⟨payload, by rw [beq_iff_eq.mp hsame]⟩
      | false =>
          rw [hsame] at hnone
          cases hnone

/-- On BCH whatever does not start as a legacy address is a cashaddr. -/
theorem checksumProblem_cashaddr {address : String}
    (hlegacy : address.toList.head? ≠ some '1' ∧ address.toList.head? ≠ some '3')
    (hnone : checksumProblem lib "BCH" address = none) : cashaddrOk address = true := by
  have hstarts : ∀ c : Char, address.toList.head? ≠ some c →
      startsWith address (String.ofList [c]) = false := by
    intro c hc
    rw [startsWith, String.toList_ofList]
    cases hlist : address.toList with
    | nil => rfl
    | cons d s =>
        rw [hlist] at hc
        have hne : (c == d) = false := by
          rw [beq_eq_false_iff_ne]
          exact fun heq => hc (congrArg some heq.symm)
        show ((c == d) && List.isPrefixOf [] s) = false
        rw [hne, Bool.false_and]
  rw [checksumProblem] at hnone
  have hone : startsWith address "1" = false := hstarts '1' hlegacy.1
  have hthree : startsWith address "3" = false := hstarts '3' hlegacy.2
  have hsegwit : getKey segwitHrp "BCH" = none := rfl
  have hplain : getKey plainBech32Hrp "BCH" = none := rfl
  rw [hsegwit, Option.filter_none, hplain] at hnone
  dsimp only at hnone
  rw [if_pos ⟨rfl, by rw [hone, hthree]; rfl⟩] at hnone
  cases hok : cashaddrOk address with
  | true => rfl
  | false =>
      rw [hok] at hnone
      cases hnone

end Destination

/-! ## The shapes of BCH -/

/-- What a form with a lead character accepts: no colon behind the literal. -/
theorem accepts_lead {f : Form} {s : List Char} (hlead : f.lead ≠ "")
    (hcolon : ':' ∉ f.lead.toList) (hbody : f.body = isBase32 ∨ f.body = isBase58)
    (h : f.accepts s = true) :
    ∃ c rest, s = f.literal.toList ++ c :: rest ∧ c ∈ f.lead.toList
      ∧ f.least ≤ rest.length ∧ rest.length ≤ f.most ∧ ':' ∉ c :: rest := by
  rw [Form.accepts, Bool.and_eq_true, List.isPrefixOf_iff_prefix] at h
  obtain ⟨⟨t, rfl⟩, hmatch⟩ := h
  unfold Form.leadMatches at hmatch
  rw [if_neg hlead, ← String.length_toList, List.drop_left] at hmatch
  cases t with
  | nil => cases hmatch
  | cons c rest =>
      dsimp only at hmatch
      rw [Bool.and_eq_true, Form.bodyMatches, Bool.and_eq_true, Bool.and_eq_true,
        decide_eq_true_iff, decide_eq_true_iff, List.all_eq_true, List.contains_iff_mem]
        at hmatch
      obtain ⟨hc, ⟨hleast, hmost⟩, hall⟩ := hmatch
      refine ⟨c, rest, rfl, hc, hleast, hmost, ?_⟩
      intro hmem
      rcases List.mem_cons.mp hmem with rfl | hin
      · exact hcolon hc
      · have hclass := hall _ hin
        rcases hbody with heq | heq
        · rw [heq] at hclass
          exact absurd hclass (by decide)
        · rw [heq] at hclass
          exact absurd hclass (by decide)

/-- What the shape rule of BCH asks for: an optional prefix, a first character
    that tells cashaddr from legacy, and a length that tells them apart too. -/
theorem bch_shape {rule : List Form} {s : List Char} (hrule : getKey rules "BCH" = some rule)
    (h : ruleMatches rule s = true) :
    ∃ pre c rest tail, s = pre ++ c :: rest ++ tail
      ∧ (pre = [] ∨ pre = "bitcoincash:".toList) ∧ (tail = [] ∨ tail = ['\n'])
      ∧ ':' ∉ c :: rest
      ∧ ((c ∈ ['q', 'p'] ∧ 40 ≤ rest.length) ∨ (c ∈ ['1', '3'] ∧ rest.length ≤ 34)) := by
  obtain rfl := Option.some.inj hrule
  rw [ruleMatches] at h
  -- `$` overlooks one final newline
  obtain ⟨t, tail, rfl, htail, hforms⟩ : ∃ t tail, s = t ++ tail
      ∧ (tail = [] ∨ tail = ['\n'])
      ∧ ([cashaddr "bitcoincash:", cashaddr "",
          { literal := "bitcoincash:", lead := "13", body := isBase58, least := 24, most := 34 },
          legacy "13"].any fun f => f.accepts t) = true := by
    by_cases hlast : s.getLast? = some '\n'
    · rw [if_pos hlast] at h
      exact ⟨s.dropLast, ['\n'], (List.dropLast_append_getLast? _ hlast).symm, Or.inr rfl, h⟩
    · rw [if_neg hlast] at h
      exact ⟨s, [], (List.append_nil s).symm, Or.inl rfl, h⟩
  obtain ⟨f, hf, haccepts⟩ := List.any_eq_true.mp hforms
  simp only [List.mem_cons, List.not_mem_nil, or_false] at hf
  rcases hf with rfl | rfl | rfl | rfl
  · obtain ⟨c, rest, rfl, hc, hleast, -, hcolon⟩ :=
      accepts_lead (by decide) (by decide) (Or.inl rfl) haccepts
    exact ⟨_, c, rest, tail, rfl, Or.inr rfl, htail, hcolon, Or.inl ⟨hc, hleast⟩⟩
  · obtain ⟨c, rest, rfl, hc, hleast, -, hcolon⟩ :=
      accepts_lead (by decide) (by decide) (Or.inl rfl) haccepts
    exact ⟨_, c, rest, tail, rfl, Or.inl rfl, htail, hcolon, Or.inl ⟨hc, hleast⟩⟩
  · obtain ⟨c, rest, rfl, hc, -, hmost, hcolon⟩ :=
      accepts_lead (by decide) (by decide) (Or.inr rfl) haccepts
    exact ⟨_, c, rest, tail, rfl, Or.inr rfl, htail, hcolon, Or.inr ⟨hc, hmost⟩⟩
  · obtain ⟨c, rest, rfl, hc, -, hmost, hcolon⟩ :=
      accepts_lead (by decide) (by decide) (Or.inr rfl) haccepts
    exact ⟨_, c, rest, tail, rfl, Or.inl rfl, htail, hcolon, Or.inr ⟨hc, hmost⟩⟩

/-- Behind the written prefix stands no colon. -/
theorem bch_prefixed {rule : List Form} {data : List Char}
    (hrule : getKey rules "BCH" = some rule)
    (h : ruleMatches rule ("bitcoincash:".toList ++ data) = true) : ':' ∉ data := by
  obtain ⟨pre, c, rest, tail, heq, hpre, htail, hcolon, -⟩ := bch_shape hrule h
  have hnewline : ':' ∉ tail := by
    rcases htail with rfl | rfl
    · exact List.not_mem_nil
    · decide
  have hplain : ':' ∉ c :: rest ++ tail := by
    rw [List.mem_append]
    rintro (hin | hin)
    · exact hcolon hin
    · exact hnewline hin
  rw [List.append_assoc] at heq
  rcases hpre with rfl | rfl
  · refine absurd ?_ hplain
    rw [List.nil_append] at heq
    rw [← heq]
    exact List.mem_append_left _ (by decide)
  · rwa [List.append_cancel_left heq]

/-- Without a colon an address of BCH is of one of two lengths, as its first
    character tells. -/
theorem bch_bare {rule : List Form} {data : List Char} (hrule : getKey rules "BCH" = some rule)
    (h : ruleMatches rule data = true) (hcolon : ':' ∉ data) :
    ((data.head? = some 'q' ∨ data.head? = some 'p') ∧ 41 ≤ data.length)
      ∨ ((data.head? = some '1' ∨ data.head? = some '3') ∧ data.length ≤ 36) := by
  obtain ⟨pre, c, rest, tail, rfl, hpre, htail, -, hlen⟩ := bch_shape hrule h
  have htailLen : tail.length ≤ 1 := by
    rcases htail with rfl | rfl
    · exact Nat.zero_le 1
    · exact le_refl 1
  rcases hpre with rfl | rfl
  · rw [List.nil_append, List.length_append, List.length_cons]
    rcases hlen with ⟨hc, hleast⟩ | ⟨hc, hmost⟩
    · refine Or.inl ⟨?_, by omega⟩
      rw [List.cons_append, List.head?_cons]
      rcases List.mem_cons.mp hc with rfl | hc
      · exact Or.inl rfl
      · exact Or.inr (congrArg some (List.mem_singleton.mp hc))
    · refine Or.inr ⟨?_, by omega⟩
      rw [List.cons_append, List.head?_cons]
      rcases List.mem_cons.mp hc with rfl | hc
      · exact Or.inl rfl
      · exact Or.inr (congrArg some (List.mem_singleton.mp hc))
  · refine absurd ?_ hcolon
    rw [List.append_assoc]
    exact List.mem_append_left _ (by decide)

/-! ## Taking the prefix off -/

theorem rpartitionColon_prefixed {data : List Char} (h : ':' ∉ data) :
    rpartitionColon ("bitcoincash:".toList ++ data) = ("bitcoincash".toList, data) := by
  have hsplit : ("bitcoincash:".toList ++ data).reverse
      = data.reverse ++ ':' :: "bitcoincash".toList.reverse := by
    rw [List.reverse_append]
    rfl
  rw [rpartitionColon, hsplit, partition_append (mt List.mem_reverse.mp h)]
  dsimp only
  rw [List.reverse_reverse, List.reverse_reverse]

theorem rpartitionColon_bare {data : List Char} (h : ':' ∉ data) :
    rpartitionColon data = ([], data) := by
  rw [rpartitionColon, partition_of_notMem (mt List.mem_reverse.mp h)]

/-- A typo brings no colon and keeps the length. -/
theorem typo_colon {data data' : List Char} (htypo : Typo data data') (h : ':' ∉ data) :
    ':' ∉ data' ∧ data'.length = data.length := by
  obtain ⟨l, x, y, r, rfl, rfl, -, hy⟩ := htypo
  constructor
  · intro hmem
    rcases List.mem_append.mp hmem with hin | hin
    · exact h (List.mem_append_left _ hin)
    · rcases List.mem_cons.mp hin with rfl | hin
      · exact charset_separators.2 hy
      · exact h (List.mem_append_right _ (List.mem_cons_of_mem _ hin))
  · rw [List.length_append, List.length_append, List.length_cons, List.length_cons]

/-- A cashaddr without its prefix has no colon. -/
theorem bch_bare_colon {rule : List Form} {data : List Char}
    (hrule : getKey rules "BCH" = some rule) (h : ruleMatches rule data = true)
    (hhead : data.head? = some 'q' ∨ data.head? = some 'p') : ':' ∉ data := by
  obtain ⟨pre, c, rest, tail, rfl, hpre, htail, hcolon, -⟩ := bch_shape hrule h
  rcases hpre with rfl | rfl
  · rw [List.nil_append, List.mem_append]
    rintro (hin | hin)
    · exact hcolon hin
    · rcases htail with rfl | rfl
      · cases hin
      · exact absurd hin (by decide)
  · -- the written prefix starts with neither letter
    have hb : ("bitcoincash:".toList ++ c :: rest ++ tail).head? = some 'b' := by
      rw [List.append_assoc]
      rfl
    rw [hb] at hhead
    rcases hhead with heq | heq
    · exact absurd (Option.some.inj heq) (by decide)
    · exact absurd (Option.some.inj heq) (by decide)

/-! ## No typo is accepted -/

section Destination

variable [PyUnicode] {lib : ChecksumLib} {chain : String} {lead data data' : List Char}

/-- No two cashaddrs that are accepted differ by a typo behind the same prefix. -/
theorem typo_of_cashaddr (htypo : Typo data data') {address address' : String} {pre : List Char}
    (hsplit : rpartitionColon address.toList = (pre, data))
    (hsplit' : rpartitionColon address'.toList = (pre, data'))
    (hhead : address.toList.head? ≠ some '1' ∧ address.toList.head? ≠ some '3')
    (hhead' : address'.toList.head? ≠ some '1' ∧ address'.toList.head? ≠ some '3')
    (hnone : checksumProblem lib "BCH" address = none) :
    checksumProblem lib "BCH" address' ≠ none := by
  intro hnone'
  have hok := checksumProblem_cashaddr hhead hnone
  have hok' := checksumProblem_cashaddr hhead' hnone'
  rw [cashaddrOk_typo htypo hsplit hsplit' hok] at hok'
  cases hok'

/-- Whatever names the address and whatever names its typo, not both are
    accepted. -/
theorem typo_of_named (hform : Separated chain lead data) (htypo : Typo data data')
    {text text' : String} (htext : (parsePaymentUri text).1.toList = lead ++ data)
    (htext' : (parsePaymentUri text').1.toList = lead ++ data')
    (h : validateDestinationAddress lib chain text = none) :
    validateDestinationAddress lib chain text' ≠ none := by
  intro h'
  cases hform with
  | @segwit _ hrp _ hhrp =>
      obtain ⟨rule, hrule⟩ := segwit_rule hhrp
      rw [List.append_assoc] at htext htext'
      have hok := checksumProblem_segwit hhrp htext (validate_accepted hrule h).2
      have hok' := checksumProblem_segwit hhrp htext' (validate_accepted hrule h').2
      rw [segwitOk_typo htypo htext htext' hok] at hok'
      cases hok'
  | @plain _ hrp _ hhrp =>
      obtain ⟨⟨rule, hrule⟩, -⟩ := plain_rule hhrp
      rw [List.append_assoc] at htext htext'
      obtain ⟨payload, hdecode⟩ := checksumProblem_plain hhrp (validate_accepted hrule h).2
      obtain ⟨payload', hdecode'⟩ := checksumProblem_plain hhrp (validate_accepted hrule h').2
      exact bech32Decode_typo htypo htext htext' hdecode hdecode'
  | prefixed =>
      obtain ⟨rule, hrule⟩ : ∃ rule, getKey rules "BCH" = some rule := ⟨_, rfl⟩
      obtain ⟨hmatch, hnone⟩ := validate_accepted hrule h
      obtain ⟨-, hnone'⟩ := validate_accepted hrule h'
      rw [htext] at hmatch
      have hcolon := bch_prefixed hrule hmatch
      obtain ⟨hcolon', -⟩ := typo_colon htypo hcolon
      have hlead : ∀ d : List Char, ("bitcoincash:".toList ++ d).head? = some 'b' :=
        fun _ => rfl
      exact typo_of_cashaddr htypo (by rw [htext, rpartitionColon_prefixed hcolon])
        (by rw [htext', rpartitionColon_prefixed hcolon']) (by rw [htext, hlead]; decide)
        (by rw [htext', hlead]; decide) hnone hnone'
  | bare hhead =>
      obtain ⟨rule, hrule⟩ : ∃ rule, getKey rules "BCH" = some rule := ⟨_, rfl⟩
      obtain ⟨hmatch, hnone⟩ := validate_accepted hrule h
      obtain ⟨hmatch', hnone'⟩ := validate_accepted hrule h'
      rw [List.nil_append] at htext htext'
      rw [htext] at hmatch
      rw [htext'] at hmatch'
      have hcolon := bch_bare_colon hrule hmatch hhead
      obtain ⟨hcolon', hlen⟩ := typo_colon htypo hcolon
      have hlegacy : ∀ d : List Char, (d.head? = some 'q' ∨ d.head? = some 'p') →
          d.head? ≠ some '1' ∧ d.head? ≠ some '3' := by
        rintro d (hd | hd)
        · rw [hd]
          decide
        · rw [hd]
          decide
      have hlong : 41 ≤ data.length := by
        rcases bch_bare hrule hmatch hcolon with ⟨-, hlong⟩ | ⟨hone | hthree, -⟩
        · exact hlong
        · exact absurd hone (hlegacy data hhead).1
        · exact absurd hthree (hlegacy data hhead).2
      -- a typo in the first character makes no legacy address: it is too long
      have hhead' : data'.head? = some 'q' ∨ data'.head? = some 'p' := by
        rcases bch_bare hrule hmatch' hcolon' with ⟨hhead', -⟩ | ⟨-, hshort⟩
        · exact hhead'
        · omega
      exact typo_of_cashaddr htypo (by rw [htext, rpartitionColon_bare hcolon])
        (by rw [htext', rpartitionColon_bare hcolon']) (by rw [htext]; exact hlegacy _ hhead)
        (by rw [htext']; exact hlegacy _ hhead') hnone hnone'

omit [PyUnicode] in
/-- The alphabet stands for itself in a payment URI. -/
theorem charset_plain : ∀ c ∈ charset, isSpace c = false ∧ c ≠ ':' ∧ c ≠ '?' ∧ c ≠ '@'
    ∧ c ≠ '/' ∧ c ≠ '%' :=
  forall_mem_of_all (by decide)

omit [PyUnicode] in
theorem strip_plain {s : List Char} (h : ∀ c ∈ s, isSpace c = false) : strip s = s :=
  strip_eq_self (fun c hc => h c (List.mem_of_mem_head? hc))
    (fun c hc => h c (List.mem_of_getLast? hc))

/-- A text with neither whitespace nor a colon is an address as it stands. -/
theorem parsePaymentUri_plain {s : List Char} (hspace : ∀ c ∈ s, isSpace c = false)
    (hcolon : ':' ∉ s) : (parsePaymentUri (String.ofList s)).1.toList = s := by
  rw [parsePaymentUri]
  rw [String.toList_ofList, strip_plain hspace, partition_of_notMem hcolon]
  exact String.toList_ofList

/-- A cashaddr with its prefix is read as a URI that keeps its scheme. -/
theorem parsePaymentUri_cashaddr (hdata : ∀ c ∈ data, c ∈ charset) :
    (parsePaymentUri (String.ofList ("bitcoincash:".toList ++ data))).1.toList
      = "bitcoincash:".toList ++ data := by
  have hnot : ∀ c : Char, c ∉ charset → c ∉ data := fun c hc hin => hc (hdata c hin)
  have hspace : ∀ c ∈ "bitcoincash:".toList ++ data, isSpace c = false := by
    have hprefix : ∀ c ∈ "bitcoincash:".toList, isSpace c = false :=
      forall_mem_of_all (by decide)
    intro c hc
    rcases List.mem_append.mp hc with hin | hin
    · exact hprefix c hin
    · exact (charset_plain c (hdata c hin)).1
  have hsplit : partition ':' ("bitcoincash:".toList ++ data)
      = ("bitcoincash".toList, true, data) :=
    have hhead : ':' ∉ "bitcoincash".toList := by decide
    partition_append hhead data
  have hlower : PyUnicode.lower (String.ofList "bitcoincash".toList) = "bitcoincash" :=
    PyUnicode.lower_ascii _ (forall_mem_of_all (by decide))
  rw [parsePaymentUri]
  rw [String.toList_ofList, strip_plain hspace, hsplit]
  dsimp only
  rw [hlower, partition_of_notMem (hnot '?' (by decide))]
  dsimp only
  rw [partition_of_notMem (hnot '@' (by decide)), partition_of_notMem (hnot '/' (by decide)),
    UriText.unquote, if_pos (hnot '%' (by decide)),
    strip_plain fun c hc => (charset_plain c (hdata c hc)).1]
  show ("bitcoincash" ++ ":" ++ String.ofList data).toList = _
  rw [String.toList_append, String.toList_ofList]
  rfl

omit [PyUnicode] in
/-- The part up to the separator is written in letters and digits. -/
theorem bech32_lead_plain {hrp : String}
    (h : getKey segwitHrp chain = some hrp ∨ getKey plainBech32Hrp chain = some hrp) :
    ∀ c ∈ hrp.toList ++ ['1'], isSpace c = false ∧ c ≠ ':' := by
  have htables : ∀ p ∈ segwitHrp ++ plainBech32Hrp,
      (p.2.toList ++ ['1']).all (fun c => !isSpace c && c != ':') = true :=
    forall_mem_of_all (by decide)
  have hmem : (chain, hrp) ∈ segwitHrp ++ plainBech32Hrp := by
    rw [List.mem_append]
    exact h.imp mem_of_getKey mem_of_getKey
  intro c hc
  have hclass := List.all_eq_true.mp (htables _ hmem) c hc
  simpa using hclass

/-- Behind a lead any text of the alphabet is read as it is written. -/
theorem parsePaymentUri_written (hform : Separated chain lead data) {written : List Char}
    (hwritten : ∀ c ∈ written, c ∈ charset) :
    (parsePaymentUri (String.ofList (lead ++ written))).1.toList = lead ++ written := by
  have hplain : (∀ c ∈ lead, isSpace c = false ∧ c ≠ ':') →
      (parsePaymentUri (String.ofList (lead ++ written))).1.toList = lead ++ written := by
    intro hlead
    refine parsePaymentUri_plain ?_ ?_
    · intro c hc
      rcases List.mem_append.mp hc with hin | hin
      · exact (hlead c hin).1
      · exact (charset_plain c (hwritten c hin)).1
    · intro hc
      rcases List.mem_append.mp hc with hin | hin
      · exact (hlead _ hin).2 rfl
      · exact charset_separators.2 (hwritten _ hin)
  cases hform with
  | segwit hhrp => exact hplain (bech32_lead_plain (Or.inl hhrp))
  | plain hhrp => exact hplain (bech32_lead_plain (Or.inr hhrp))
  | prefixed => exact parsePaymentUri_cashaddr hwritten
  | bare hhead => exact hplain fun c hc => nomatch hc

end Destination

/-- **A single-character typo is always caught.**  Where an accepted text names
    an address with a bech32 or cashaddr checksum, no text that names the same
    address with one character behind the separator replaced by another of the
    alphabet is accepted; in particular not the address written out. -/
theorem validateDestinationAddress_typo [PyUnicode] (lib : ChecksumLib) (chain : String)
    (lead data data' : List Char) (hform : Separated chain lead data)
    (htypo : Typo data data') :
    (∀ text text' : String, (parsePaymentUri text).1.toList = lead ++ data →
      (parsePaymentUri text').1.toList = lead ++ data' →
      validateDestinationAddress lib chain text = none →
      validateDestinationAddress lib chain text' ≠ none)
    ∧ ((∀ c ∈ data, c ∈ charset) →
      validateDestinationAddress lib chain (String.ofList (lead ++ data)) = none →
      validateDestinationAddress lib chain (String.ofList (lead ++ data')) ≠ none) := by
  refine ⟨fun text text' ht ht' h => typo_of_named hform htypo ht ht' h, ?_⟩
  intro hdata h
  have hdata' : ∀ c ∈ data', c ∈ charset := by
    obtain ⟨l, x, y, r, rfl, rfl, -, hy⟩ := htypo
    intro c hc
    rcases List.mem_append.mp hc with hin | hin
    · exact hdata c (List.mem_append_left _ hin)
    · rcases List.mem_cons.mp hin with rfl | hin
      · exact hy
      · exact hdata c (List.mem_append_right _ (List.mem_cons_of_mem _ hin))
  exact typo_of_named hform htypo (parsePaymentUri_written hform hdata)
    (parsePaymentUri_written hform hdata') h

/-! ## A segwit address with its version mistyped -/

/-- A native segwit address, behind its separator. -/
def segwitData : List Char := "qw508d6qejxtdg4y5r3zarvary0c5xw7kv8f3t4".toList

theorem validateDestinationAddress_typo_version :
    let _ : PyUnicode := asciiUnicode
    validateDestinationAddress noChecksums "BTC"
        (String.ofList ("bc".toList ++ ['1'] ++ segwitData)) = none
      ∧ validateDestinationAddress noChecksums "BTC"
        (String.ofList ("bc".toList ++ ['1'] ++ 'p' :: segwitData.tail)) ≠ none := by
  intro _
  have hcharset : ∀ c ∈ segwitData, c ∈ charset := forall_mem_of_all (by decide +kernel)
  have haccepted : @validateDestinationAddress asciiUnicode noChecksums "BTC"
      (String.ofList ("bc".toList ++ ['1'] ++ segwitData)) = none := by decide +kernel
  exact ⟨haccepted, (@validateDestinationAddress_typo asciiUnicode noChecksums "BTC"
    ("bc".toList ++ ['1']) segwitData ('p' :: segwitData.tail) (Separated.segwit rfl)
    ⟨[], 'q', 'p', segwitData.tail, rfl, rfl, by decide, by decide⟩).2 hcharset haccepted⟩

end SwapsackTypo
