import Swapsack.Bech32RoundTripProofs
import Swapsack.RadixProofs
import Swapsack.ZcashTxProofs

/-! # The three forms of a transparent address

    A t1 address and a TEX address can pay one script; a t3 address pays another.
    The base58check codec is a parameter; of its texts only the first two
    characters matter, and those are decided by the prefix of the payload.

    * `encodeCheck_t1`, `encodeCheck_t3` — what the texts of the two prefixes
      start with;
    * `script_iff_canonical` — the canonical address is the script's name;
    * `texToT1_t1ToTex`, `t1ToTex_texToT1` — the two forms of one hash;
    * `displayAddress_ok` — what is shown beside an address pays the same;
    * `address_forms` — all of it, for every accepted address. -/

namespace SwapsackZcashAddress

open ListKit ByteString PyText SwapsackBase SwapsackBech32 SwapsackZcashTx

/-! ## base58check -/

def base58Alphabet : List Char :=
  "123456789ABCDEFGHJKLMNPQRSTUVWXYZabcdefghijkmnopqrstuvwxyz".toList

/-- The base-58 text of a byte string: a one for each zero byte in front, then
    the digits of the number. -/
def base58Text (b : Bytes) : String :=
  String.ofList ((Radix.respell 256 58 (b.map UInt8.toNat)).map fun d => base58Alphabet.getD d '1')

/-- What is encoded is decoded again, and is the base-58 text of the payload and four
    bytes of checksum.  Nothing is said of texts that were not encoded. -/
structure Base58Check (b58 : Base58) : Prop where
  decode_encode : ∀ payload, b58.decodeCheck (b58.encodeCheck payload) = some payload
  spelled : ∀ payload, ∃ sum : Bytes, sum.length = 4
    ∧ b58.encodeCheck payload = base58Text (payload ++ sum)

/-- The text of a number that starts with a non-zero byte starts with the digits
    of its high part. -/
theorem base58Text_head {first : UInt8} {b : Bytes} {k : ℕ} {pre : List Char}
    (hfirst : first ≠ 0)
    (hpre : (Radix.digits 58 (Radix.value 256 ((first :: b).map UInt8.toNat) / 58 ^ k)).map
      (fun d => base58Alphabet.getD d '1') = pre) :
    pre <+: (base58Text (first :: b)).toList := by
  have hzeros : Radix.zeros ((first :: b).map UInt8.toNat) = 0 := by
    rw [List.map_cons]
    cases hn : first.toNat with
    | zero => exact absurd (UInt8.toNat_inj.mp hn) hfirst
    | succ n => rfl
  obtain ⟨low, hlow⟩ := Radix.digits_append_low (b := 58) (by decide) k
    (Radix.value 256 ((first :: b).map UInt8.toNat))
  rw [base58Text, String.toList_ofList, Radix.respell, hzeros, hlow, List.replicate_zero,
    List.nil_append, List.map_append, hpre]
  exact List.prefix_append _ _

/-- The number of a byte string lies among those with its first bytes. -/
theorem value_bounds (hi lo : Bytes) :
    Radix.value 256 (hi.map UInt8.toNat) * 256 ^ lo.length
        ≤ Radix.value 256 ((hi ++ lo).map UInt8.toNat)
      ∧ Radix.value 256 ((hi ++ lo).map UInt8.toNat)
        < (Radix.value 256 (hi.map UInt8.toNat) + 1) * 256 ^ lo.length := by
  have hlow : Radix.value 256 (lo.map UInt8.toNat) < 256 ^ lo.length := by
    have h := Nat.ofDigits_lt_base_pow_length (b := 256) (l := (lo.map UInt8.toNat).reverse)
      (by decide) ?_
    · rwa [List.length_reverse, List.length_map] at h
    · intro d hd
      obtain ⟨b, -, rfl⟩ := List.mem_map.mp (List.mem_reverse.mp hd)
      exact b.toNat_lt
  have hsum : Radix.value 256 ((hi ++ lo).map UInt8.toNat)
      = Radix.value 256 (lo.map UInt8.toNat)
        + 256 ^ lo.length * Radix.value 256 (hi.map UInt8.toNat) := by
    rw [Radix.value, List.map_append, List.reverse_append, Nat.ofDigits_append,
      List.length_reverse, List.length_map]
    rfl
  rw [hsum]
  constructor
  · rw [Nat.mul_comm]
    exact Nat.le_add_left _ _
  · rw [Nat.add_mul, Nat.one_mul, Nat.mul_comm, Nat.add_comm]
    exact Nat.add_lt_add_left hlow _

/-- The texts of one two-byte prefix start alike, when the numbers that start
    with it do. -/
theorem encodeCheck_head {b58 : Base58} (hb58 : Base58Check b58) {first second : UInt8}
    {q : ℕ} {pre : List Char} (hfirst : first ≠ 0)
    (hlow : q * 58 ^ 33 ≤ Radix.value 256 ([first, second].map UInt8.toNat) * 256 ^ 24)
    (hhigh : (Radix.value 256 ([first, second].map UInt8.toNat) + 1) * 256 ^ 24
      ≤ (q + 1) * 58 ^ 33)
    (hpre : (Radix.digits 58 q).map (fun d => base58Alphabet.getD d '1') = pre)
    {hash160 : Bytes} (hlen : hash160.length = 20) :
    pre <+: (b58.encodeCheck ([first, second] ++ hash160)).toList := by
  obtain ⟨sum, hsum, htext⟩ := hb58.spelled ([first, second] ++ hash160)
  obtain ⟨hle, hlt⟩ := value_bounds [first, second] (hash160 ++ sum)
  rw [List.length_append, hlen, hsum] at hle hlt
  have hq : Radix.value 256 (([first, second] ++ (hash160 ++ sum)).map UInt8.toNat) / 58 ^ 33
      = q :=
    Nat.div_eq_of_lt_le (hlow.trans hle) (hlt.trans_le hhigh)
  rw [htext, List.append_assoc]
  refine base58Text_head (k := 33) hfirst ?_
  exact (congrArg (fun n => (Radix.digits 58 n).map _) hq).trans hpre

/-- **A P2PKH address starts with `t1`.** -/
theorem encodeCheck_t1 {b58 : Base58} (hb58 : Base58Check b58) {hash160 : Bytes}
    (hlen : hash160.length = 20) :
    ['t', '1'] <+: (b58.encodeCheck (prefixT1 ++ hash160)).toList :=
  encodeCheck_head (q := 2958) hb58 (by decide) (by decide +kernel) (by decide +kernel)
    (by decide +kernel) hlen

/-- **A P2SH address starts with `t3`.** -/
theorem encodeCheck_t3 {b58 : Base58} (hb58 : Base58Check b58) {hash160 : Bytes}
    (hlen : hash160.length = 20) :
    ['t', '3'] <+: (b58.encodeCheck (prefixT3 ++ hash160)).toList :=
  encodeCheck_head (q := 2960) hb58 (by decide) (by decide +kernel) (by decide +kernel)
    (by decide +kernel) hlen

/-! ## The forms -/

/-- A text does not start with two texts of the same length. -/
theorem startsWith_apart {address pre pre' : String} (h : startsWith address pre = true)
    (hlen : pre.toList.length = pre'.toList.length) (hne : pre ≠ pre') :
    startsWith address pre' = false := by
  rw [Bool.eq_false_iff]
  intro h'
  obtain ⟨rest, hrest⟩ := List.isPrefixOf_iff_prefix.mp h
  obtain ⟨rest', hrest'⟩ := List.isPrefixOf_iff_prefix.mp h'
  exact hne (String.toList_inj.mp (List.append_inj_left (hrest.trans hrest'.symm) hlen))

theorem startsWith_of_longer {address pre pre' : String} (h : startsWith address pre = true)
    (hpre : pre'.toList <+: pre.toList) : startsWith address pre' = true :=
  List.isPrefixOf_iff_prefix.mpr (hpre.trans (List.isPrefixOf_iff_prefix.mp h))

/-- A TEX address is not a t1 or t3 one. -/
theorem tex_apart {address : String} (h : startsWith address (texHrp ++ "1") = true) :
    startsWith address "t1" = false ∧ startsWith address "t3" = false := by
  have hte : startsWith address "te" = true := startsWith_of_longer h (by decide)
  exact ⟨startsWith_apart hte (by decide) (by decide), startsWith_apart hte (by decide) (by decide)⟩

section Forms

variable [PyUnicode] (b58 : Base58)

/-- The TEX form of a t1 address. -/
def t1ToTex (address : String) : Except PyError String := do
  let script ← addressToScript b58 address
  match p2pkhHash160 script with
  | none =>
      .error (.zcashTxError s!"only a P2PKH (t1) address has a TEX form: {address}")
  | some hash160 => bech32mEncode texHrp hash160

/-- The address as it is shown for comparison. -/
def displayAddress (address : String) : Except PyError String :=
  match t1ToTex b58 address with
  | .ok tex => .ok s!"{address} (tex1… form: {tex})"
  | .error (.zcashTxError _) => .ok address
  | .error e => .error e

variable {b58}

/-- **What an accepted address is**: the t1 or t3 text of a hash, or the TEX text
    of one. -/
theorem addressToScript_form (hb58 : Base58Check b58) (hinverse : b58.Inverse)
    {address : String} {script : Bytes} (h : addressToScript b58 address = .ok script) :
    ∃ hash160 : Bytes, hash160.length = 20
      ∧ ((address = b58.encodeCheck (prefixT1 ++ hash160) ∧ script = p2pkhScript hash160
            ∧ startsWith address "t1" = true)
        ∨ (address = b58.encodeCheck (prefixT3 ++ hash160) ∧ script = p2shScript hash160
            ∧ startsWith address "t3" = true)
        ∨ (texHash160 address = .ok hash160 ∧ script = p2pkhScript hash160
            ∧ startsWith address (texHrp ++ "1") = true)) := by
  rw [addressToScript] at h
  by_cases htex : startsWith address (texHrp ++ "1") = true
  · rw [if_pos htex] at h
    obtain ⟨hash160, hhash, h⟩ := bind_eq_ok h
    cases h
    exact ⟨hash160, texHash160_length hhash, Or.inr (Or.inr ⟨hhash, rfl, htex⟩)⟩
  · rw [if_neg htex] at h
    cases hpayload : b58.decodeCheck address with
    | none =>
        rw [hpayload] at h
        cases h
    | some payload =>
        rw [hpayload] at h
        dsimp only at h
        have hencode := hinverse hpayload
        split at h
        · cases h
        · rename_i hlen
          have hdrop : (payload.drop 2).length = 20 := by
            rw [List.length_drop, not_not.mp hlen]
          -- the prefix of the payload decides the shape
          split at h
          · rename_i hprefix
            cases h
            have haddress : address = b58.encodeCheck (prefixT1 ++ payload.drop 2) := by
              rw [← hprefix, List.take_append_drop, hencode]
            refine ⟨payload.drop 2, hdrop, Or.inl ⟨haddress, rfl, ?_⟩⟩
            rw [haddress]
            exact List.isPrefixOf_iff_prefix.mpr (encodeCheck_t1 hb58 hdrop)
          · split at h
            · rename_i hprefix
              cases h
              have haddress : address = b58.encodeCheck (prefixT3 ++ payload.drop 2) := by
                rw [← hprefix, List.take_append_drop, hencode]
              refine ⟨payload.drop 2, hdrop, Or.inr (Or.inl ⟨haddress, rfl, ?_⟩)⟩
              rw [haddress]
              exact List.isPrefixOf_iff_prefix.mpr (encodeCheck_t3 hb58 hdrop)
            · cases h

/-- A Base58Check text of two prefix bytes and a hash is shown as itself, and read
    by its prefix. -/
theorem encoded_payload (hb58 : Base58Check b58) {before hash160 : Bytes}
    (hbefore : before.length = 2) (hlen : hash160.length = 20)
    (htex : ¬ startsWith (b58.encodeCheck (before ++ hash160)) (texHrp ++ "1") = true) :
    (before = prefixT1 → addressToScript b58 (b58.encodeCheck (before ++ hash160))
        = .ok (p2pkhScript hash160))
      ∧ (before = prefixT3 → addressToScript b58 (b58.encodeCheck (before ++ hash160))
        = .ok (p2shScript hash160))
      ∧ canonicalAddress b58 (b58.encodeCheck (before ++ hash160))
        = .ok (b58.encodeCheck (before ++ hash160)) := by
  have hpayload : ¬ (before ++ hash160).length ≠ 22 := by
    rw [List.length_append, hlen, hbefore]
    decide
  have htake : (before ++ hash160).take 2 = before := List.take_left' hbefore
  have hdrop : (before ++ hash160).drop 2 = hash160 := List.drop_left' hbefore
  have hapart : prefixT3 ≠ prefixT1 := by decide
  refine ⟨?_, ?_, ?_⟩
  · intro h1
    rw [addressToScript, if_neg htex, hb58.decode_encode]
    dsimp only
    rw [if_neg hpayload, htake, hdrop, if_pos h1]
  · intro h3
    have h1 : before ≠ prefixT1 := by
      rw [h3]
      exact hapart
    rw [addressToScript, if_neg htex, hb58.decode_encode]
    dsimp only
    rw [if_neg hpayload, htake, hdrop, if_neg h1, if_pos h3]
  · rw [canonicalAddress, if_neg htex]

/-- The t1 text of a hash is read as that hash, and shown as itself. -/
theorem encoded_t1 (hb58 : Base58Check b58) {hash160 : Bytes} (hlen : hash160.length = 20) :
    addressToScript b58 (b58.encodeCheck (prefixT1 ++ hash160)) = .ok (p2pkhScript hash160)
      ∧ canonicalAddress b58 (b58.encodeCheck (prefixT1 ++ hash160))
        = .ok (b58.encodeCheck (prefixT1 ++ hash160)) := by
  have ht1 : startsWith (b58.encodeCheck (prefixT1 ++ hash160)) "t1" = true :=
    List.isPrefixOf_iff_prefix.mpr (encodeCheck_t1 hb58 hlen)
  have htex : ¬ startsWith (b58.encodeCheck (prefixT1 ++ hash160)) (texHrp ++ "1") = true := by
    intro htex
    rw [(tex_apart htex).1] at ht1
    cases ht1
  obtain ⟨hread, -, hcanonical⟩ := encoded_payload hb58 rfl hlen htex
  exact ⟨hread rfl, hcanonical⟩

/-- The t3 text of a hash likewise. -/
theorem encoded_t3 (hb58 : Base58Check b58) {hash160 : Bytes} (hlen : hash160.length = 20) :
    addressToScript b58 (b58.encodeCheck (prefixT3 ++ hash160)) = .ok (p2shScript hash160)
      ∧ canonicalAddress b58 (b58.encodeCheck (prefixT3 ++ hash160))
        = .ok (b58.encodeCheck (prefixT3 ++ hash160)) := by
  have ht3 : startsWith (b58.encodeCheck (prefixT3 ++ hash160)) "t3" = true :=
    List.isPrefixOf_iff_prefix.mpr (encodeCheck_t3 hb58 hlen)
  have htex : ¬ startsWith (b58.encodeCheck (prefixT3 ++ hash160)) (texHrp ++ "1") = true := by
    intro htex
    rw [(tex_apart htex).2] at ht3
    cases ht3
  obtain ⟨-, hread, hcanonical⟩ := encoded_payload hb58 rfl hlen htex
  exact ⟨hread rfl, hcanonical⟩

/-- **The canonical address pays the same script**, and is canonical. -/
theorem addressToScript_canonical (hb58 : Base58Check b58) (hinverse : b58.Inverse)
    {address : String} {script : Bytes} (h : addressToScript b58 address = .ok script) :
    ∃ canonical, canonicalAddress b58 address = .ok canonical
      ∧ addressToScript b58 canonical = .ok script
      ∧ canonicalAddress b58 canonical = .ok canonical := by
  obtain ⟨hash160, hlen, ⟨rfl, hcanonical⟩ | ⟨rfl, hcanonical⟩⟩ :=
    addressToScript_ok b58 hinverse h
  · exact ⟨_, hcanonical, encoded_t1 hb58 hlen⟩
  · exact ⟨_, hcanonical, encoded_t3 hb58 hlen⟩

/-- **The canonical address is the script's name**: one for each script. -/
theorem script_iff_canonical (hb58 : Base58Check b58) (hinverse : b58.Inverse)
    {address address' : String} {script script' : Bytes}
    (h : addressToScript b58 address = .ok script)
    (h' : addressToScript b58 address' = .ok script') :
    script = script' ↔ canonicalAddress b58 address = canonicalAddress b58 address' := by
  constructor
  · rintro rfl
    obtain ⟨canonical, hcanonical, hshown⟩ :=
      scriptToAddress_addressToScript b58 hinverse h
    obtain ⟨canonical', hcanonical', hshown'⟩ :=
      scriptToAddress_addressToScript b58 hinverse h'
    rw [hcanonical, hcanonical', Option.some.inj (hshown.symm.trans hshown')]
  · intro hsame
    obtain ⟨canonical, hcanonical, hscript, -⟩ := addressToScript_canonical hb58 hinverse h
    obtain ⟨canonical', hcanonical', hscript', -⟩ := addressToScript_canonical hb58 hinverse h'
    rw [hcanonical, hcanonical'] at hsame
    rw [Except.ok.inj hsame] at hscript
    exact Except.ok.inj (hscript.symm.trans hscript')

/-- Canonical texts stay as they are, whatever they were made from. -/
theorem canonicalAddress_idem (hb58 : Base58Check b58) {address canonical : String}
    (h : canonicalAddress b58 address = .ok canonical) :
    canonicalAddress b58 canonical = .ok canonical := by
  by_cases htex : startsWith address (texHrp ++ "1") = true
  · rw [canonicalAddress, if_pos htex] at h
    obtain ⟨hash160, hhash, h⟩ := bind_eq_ok h
    cases h
    exact (encoded_t1 hb58 (texHash160_length hhash)).2
  · have hsame : address = canonical := by
      rw [canonicalAddress, if_neg htex] at h
      exact Except.ok.inj h
    rw [← hsame] at h ⊢
    exact h

/-! ## The two texts of one hash -/

/-- The TEX text of a hash of twenty bytes is read as that hash. -/
theorem texHash160_encode {hash160 : Bytes} (hlen : hash160.length = 20) :
    ∃ tex, bech32mEncode texHrp hash160 = .ok tex ∧ texHash160 tex = .ok hash160 := by
  obtain ⟨tex, hencode, hdecode⟩ :=
    decode_encode (show texHrp ≠ "" by decide) hash160 (Or.inr rfl)
  refine ⟨tex, hencode, ?_⟩
  have hmdecode : bech32mDecode tex = .ok (texHrp.toList, hash160) := hdecode
  rw [texHash160, hmdecode]
  dsimp only
  rw [if_neg]
  rintro (hhrp | hshort)
  · exact hhrp rfl
  · exact hshort hlen

/-- A TEX address is the TEX text of its hash. -/
theorem encode_texHash160 {address : String} {hash160 : Bytes}
    (h : texHash160 address = .ok hash160) : bech32mEncode texHrp hash160 = .ok address := by
  rw [texHash160] at h
  split at h
  · cases h
  · cases h
  · rename_i hrp payload hdecode
    split at h
    · cases h
    · rename_i hne
      cases h
      have hhrp : hrp = texHrp.toList := not_not.mp (not_or.mp hne).1
      have hencode := encode_decode hdecode
      rw [hhrp, String.ofList_toList] at hencode
      exact hencode

theorem t1ToTex_p2pkh {address : String} {hash160 : Bytes} (hlen : hash160.length = 20)
    (h : addressToScript b58 address = .ok (p2pkhScript hash160)) :
    t1ToTex b58 address = bech32mEncode texHrp hash160 := by
  rw [t1ToTex, h, ok_bind, p2pkhHash160_p2pkhScript hlen]

/-- **A t1 address comes back** from its TEX form. -/
theorem texToT1_t1ToTex (hb58 : Base58Check b58) (hinverse : b58.Inverse)
    {address : String} {script : Bytes}
    (h : addressToScript b58 address = .ok script) (ht1 : startsWith address "t1" = true) :
    ∃ tex, t1ToTex b58 address = .ok tex ∧ texToT1 b58 tex = .ok address := by
  obtain ⟨hash160, hlen, ⟨haddress, rfl, -⟩ | ⟨-, -, ht3⟩ | ⟨-, -, htex⟩⟩ :=
    addressToScript_form hb58 hinverse h
  · obtain ⟨tex, hencode, hhash⟩ := texHash160_encode hlen
    refine ⟨tex, ?_, ?_⟩
    · rw [t1ToTex_p2pkh hlen h, hencode]
    · rw [texToT1, hhash, ok_bind, ← haddress]
  · have hnot : startsWith address "t1" = false := startsWith_apart ht3 (by decide) (by decide)
    rw [hnot] at ht1
    cases ht1
  · rw [(tex_apart htex).1] at ht1
    cases ht1

/-- **A TEX address comes back** from its t1 form. -/
theorem t1ToTex_texToT1 (hb58 : Base58Check b58) {address : String} {script : Bytes}
    (h : addressToScript b58 address = .ok script)
    (htex : startsWith address (texHrp ++ "1") = true) :
    ∃ t1, texToT1 b58 address = .ok t1 ∧ t1ToTex b58 t1 = .ok address := by
  rw [addressToScript, if_pos htex] at h
  obtain ⟨hash160, hhash, h⟩ := bind_eq_ok h
  have hlen := texHash160_length hhash
  refine ⟨b58.encodeCheck (prefixT1 ++ hash160), ?_, ?_⟩
  · rw [texToT1, hhash]
    rfl
  · rw [t1ToTex_p2pkh hlen (encoded_t1 hb58 hlen).1, encode_texHash160 hhash]

/-- **A t3 address has no TEX form.** -/
theorem t1ToTex_t3 (hb58 : Base58Check b58) (hinverse : b58.Inverse)
    {address : String} {script : Bytes}
    (h : addressToScript b58 address = .ok script) (ht3 : startsWith address "t3" = true) :
    t1ToTex b58 address
      = .error (.zcashTxError s!"only a P2PKH (t1) address has a TEX form: {address}") := by
  obtain ⟨hash160, hlen, ⟨-, -, ht1⟩ | ⟨-, rfl, -⟩ | ⟨-, -, htex⟩⟩ :=
    addressToScript_form hb58 hinverse h
  · have hnot : startsWith address "t3" = false := startsWith_apart ht1 (by decide) (by decide)
    rw [hnot] at ht3
    cases ht3
  · rw [t1ToTex, h, ok_bind, (p2shHash160_p2shScript hlen).2]
  · rw [(tex_apart htex).2] at ht3
    cases ht3

/-- What is shown beside a t1 address pays the same; a t3 address stands alone. -/
theorem displayAddress_ok (hb58 : Base58Check b58) (hinverse : b58.Inverse)
    {address : String} {script : Bytes} (h : addressToScript b58 address = .ok script) :
    (startsWith address "t1" = true → ∃ tex, texToT1 b58 tex = .ok address
        ∧ displayAddress b58 address = .ok s!"{address} (tex1… form: {tex})")
      ∧ (startsWith address "t3" = true → displayAddress b58 address = .ok address) := by
  constructor
  · intro ht1
    obtain ⟨tex, htex, hback⟩ := texToT1_t1ToTex hb58 hinverse h ht1
    refine ⟨tex, hback, ?_⟩
    rw [displayAddress, htex]
  · intro ht3
    rw [displayAddress, t1ToTex_t3 hb58 hinverse h ht3]

/-- **The forms of an address**, for every address that is accepted. -/
theorem address_forms (hb58 : Base58Check b58) (hinverse : b58.Inverse) :
    (∀ address script, addressToScript b58 address = .ok script →
      (startsWith address "t1" = true ∨ startsWith address "t3" = true
          ∨ startsWith address (texHrp ++ "1") = true)
        ∧ (∃ canonical, canonicalAddress b58 address = .ok canonical
          ∧ scriptToAddress b58 script = some canonical)
        ∧ (∀ address' script', addressToScript b58 address' = .ok script' →
          (script = script' ↔ canonicalAddress b58 address = canonicalAddress b58 address'))
        ∧ (startsWith address "t1" = true →
          ∃ tex, t1ToTex b58 address = .ok tex ∧ texToT1 b58 tex = .ok address)
        ∧ (startsWith address (texHrp ++ "1") = true →
          ∃ t1, texToT1 b58 address = .ok t1 ∧ t1ToTex b58 t1 = .ok address)
        ∧ (startsWith address "t3" = true → t1ToTex b58 address
          = .error (.zcashTxError s!"only a P2PKH (t1) address has a TEX form: {address}")))
      ∧ (∀ address canonical, canonicalAddress b58 address = .ok canonical →
        canonicalAddress b58 canonical = .ok canonical)
      ∧ (∀ address, startsWith address "t3" = true → ∃ e, t1ToTex b58 address = .error e) := by
  refine ⟨?_, fun _ _ => canonicalAddress_idem hb58, ?_⟩
  · intro address script h
    refine ⟨?_, scriptToAddress_addressToScript b58 hinverse h,
      fun _ _ h' => script_iff_canonical hb58 hinverse h h', texToT1_t1ToTex hb58 hinverse h,
      t1ToTex_texToT1 hb58 h, t1ToTex_t3 hb58 hinverse h⟩
    obtain ⟨-, -, ⟨-, -, ht1⟩ | ⟨-, -, ht3⟩ | ⟨-, -, htex⟩⟩ := addressToScript_form hb58 hinverse h
    · exact Or.inl ht1
    · exact Or.inr (Or.inl ht3)
    · exact Or.inr (Or.inr htex)
  · intro address ht3
    cases h : addressToScript b58 address with
    | error e =>
        refine ⟨e, ?_⟩
        rw [t1ToTex, h]
        rfl
    | ok script => exact ⟨_, t1ToTex_t3 hb58 hinverse h ht3⟩

end Forms

/-! ## A codec with a given checksum -/

/-- base58check over a checksum of four bytes. -/
def base58check (sum : Bytes → Bytes) : Base58 where
  encodeCheck payload := base58Text (payload ++ sum payload)
  decodeCheck address := do
    let digits ← address.toList.mapM fun c => base58Alphabet.idxOf? c
    let decoded := (Radix.respell 58 256 digits).map UInt8.ofNat
    let payload := decoded.take (decoded.length - 4)
    if 4 ≤ decoded.length ∧ decoded.drop (decoded.length - 4) = sum payload then some payload
    else none

/-- Each digit has a character, which is that digit's. -/
theorem base58Alphabet_digit :
    ∀ d < 58, base58Alphabet.idxOf? (base58Alphabet.getD d '1') = some d := by
  decide +kernel

/-- A digit that a character stands for has that character. -/
theorem base58Alphabet_char {c : Char} {d : ℕ} (h : base58Alphabet.idxOf? c = some d) :
    d < 58 ∧ base58Alphabet.getD d '1' = c := by
  rw [List.idxOf?, List.findIdx?_eq_some_iff_getElem] at h
  obtain ⟨hlt, hc, -⟩ := h
  refine ⟨hlt, ?_⟩
  rw [List.getD_eq_getElem _ _ hlt]
  exact beq_iff_eq.mp hc

theorem mapM_base58 {digits : List ℕ} (h : ∀ d ∈ digits, d < 58) :
    (digits.map fun d => base58Alphabet.getD d '1').mapM (fun c => base58Alphabet.idxOf? c)
      = some digits := by
  induction digits with
  | nil => rfl
  | cons d digits ih =>
      obtain ⟨hd, hdigits⟩ := List.forall_mem_cons.mp h
      rw [List.map_cons, List.mapM_cons, base58Alphabet_digit d hd, ih hdigits]
      rfl

theorem of_mapM_base58 {chars : List Char} :
    ∀ {digits : List ℕ}, chars.mapM (fun c => base58Alphabet.idxOf? c) = some digits →
      (∀ d ∈ digits, d < 58) ∧ digits.map (fun d => base58Alphabet.getD d '1') = chars := by
  induction chars with
  | nil =>
      intro digits h
      cases h
      refine ⟨?_, rfl⟩
      intro d hd
      cases hd
  | cons c chars ih =>
      intro digits h
      rw [List.mapM_cons] at h
      obtain ⟨d, hd, h⟩ := Option.bind_eq_some_iff.mp h
      obtain ⟨rest, hrest, h⟩ := Option.bind_eq_some_iff.mp h
      cases h
      obtain ⟨hlt, hchar⟩ := base58Alphabet_char hd
      obtain ⟨hrestLt, hchars⟩ := ih hrest
      refine ⟨List.forall_mem_cons.mpr ⟨hlt, hrestLt⟩, ?_⟩
      rw [List.map_cons, hchar, hchars]

theorem toNat_lt {b : Bytes} : ∀ v ∈ b.map UInt8.toNat, v < 256 := by
  intro v hv
  obtain ⟨x, -, rfl⟩ := List.mem_map.mp hv
  exact x.toNat_lt

/-- Such a codec reads no text but its own. -/
theorem base58check_inverse (sum : Bytes → Bytes) : (base58check sum).Inverse := by
  intro address payload h
  obtain ⟨digits, hdigits, h⟩ := Option.bind_eq_some_iff.mp h
  obtain ⟨hlt, hchars⟩ := of_mapM_base58 hdigits
  dsimp only at h
  split at h
  · rename_i hcheck
    have hpayload := Option.some.inj h
    have hdecoded : payload ++ sum payload = (Radix.respell 58 256 digits).map UInt8.ofNat := by
      rw [← hpayload, ← hcheck.2, List.take_append_drop]
    show base58Text (payload ++ sum payload) = address
    have hbytes : ∀ v ∈ Radix.respell 58 256 digits, v < 2 ^ 8 :=
      Radix.respell_lt (by decide)
    rw [base58Text, hdecoded, toNat_bytes hbytes, Radix.respell_respell (by decide) hlt, hchars,
      String.ofList_toList]
  · cases h

/-- **Such a codec is as documented.** -/
theorem base58check_law {sum : Bytes → Bytes} (hsum : ∀ payload, (sum payload).length = 4) :
    Base58Check (base58check sum) where
  decode_encode := by
    intro payload
    have hdigits : (base58Text (payload ++ sum payload)).toList.mapM
        (fun c => base58Alphabet.idxOf? c)
        = some (Radix.respell 256 58 ((payload ++ sum payload).map UInt8.toNat)) := by
      rw [base58Text, String.toList_ofList]
      exact mapM_base58 (Radix.respell_lt (by decide))
    have hback : (Radix.respell 58 256
        (Radix.respell 256 58 ((payload ++ sum payload).map UInt8.toNat))).map UInt8.ofNat
        = payload ++ sum payload := by
      rw [Radix.respell_respell (by decide) toNat_lt, bytes_toNat]
    have hlen : (payload ++ sum payload).length - 4 = payload.length := by
      rw [List.length_append, hsum, Nat.add_sub_cancel]
    refine Option.bind_eq_some_iff.mpr ⟨_, hdigits, ?_⟩
    dsimp only
    rw [hback, hlen, List.take_left' rfl, List.drop_left' rfl, List.length_append, hsum,
      if_pos ⟨Nat.le_add_left 4 _, rfl⟩]
  spelled payload := ⟨sum payload, hsum payload, rfl⟩

/-- The hash of an address that is known in both forms. -/
def knownHash : Bytes :=
  [0x82, 0x86, 0xBF, 0x79, 0x08, 0x66, 0x80, 0x53, 0x97, 0xE3, 0xA9, 0x47, 0x64, 0x0B, 0x77,
    0xA4, 0x3F, 0x0B, 0x43, 0xA5]

/-- The checksums of that hash under the two prefixes. -/
def knownSum (payload : Bytes) : Bytes :=
  if payload = prefixT1 ++ knownHash then [0x08, 0x98, 0xA5, 0x7B]
  else if payload = prefixT3 ++ knownHash then [0xCE, 0x66, 0xAE, 0x24]
  else [0, 0, 0, 0]

theorem knownSum_length (payload : Bytes) : (knownSum payload).length = 4 := by
  rw [knownSum]
  split
  · rfl
  · split <;> rfl

theorem address_forms_known :
    let _ : PyUnicode := asciiUnicode
    let b58 := base58check knownSum
    (∃ tex, t1ToTex b58 "t1VmmGiyjVNeCjxDZzg7vZmd99WyzVby9yC" = .ok tex
        ∧ texToT1 b58 tex = .ok "t1VmmGiyjVNeCjxDZzg7vZmd99WyzVby9yC")
      ∧ (∃ t1, texToT1 b58 "tex1s2rt77ggv6q989lr49rkgzmh5slsksa9khdgte" = .ok t1
        ∧ t1ToTex b58 t1 = .ok "tex1s2rt77ggv6q989lr49rkgzmh5slsksa9khdgte")
      ∧ t1ToTex b58 "t3WTnCGUB3Gxaq7v17mnWzPz5J3Gi8q95vs"
        = .error (.zcashTxError
          "only a P2PKH (t1) address has a TEX form: t3WTnCGUB3Gxaq7v17mnWzPz5J3Gi8q95vs") := by
  intro _ b58
  have hb58 : Base58Check b58 := base58check_law knownSum_length
  obtain ⟨haccepted, -, -⟩ := address_forms hb58 (base58check_inverse knownSum)
  have htext1 : b58.encodeCheck (prefixT1 ++ knownHash)
      = "t1VmmGiyjVNeCjxDZzg7vZmd99WyzVby9yC" := by decide +kernel
  have htext3 : b58.encodeCheck (prefixT3 ++ knownHash)
      = "t3WTnCGUB3Gxaq7v17mnWzPz5J3Gi8q95vs" := by decide +kernel
  have ht1 : addressToScript b58 "t1VmmGiyjVNeCjxDZzg7vZmd99WyzVby9yC"
      = .ok (p2pkhScript knownHash) := by
    rw [← htext1]
    exact (encoded_t1 hb58 rfl).1
  have htex : addressToScript b58 "tex1s2rt77ggv6q989lr49rkgzmh5slsksa9khdgte"
      = .ok (p2pkhScript knownHash) := by decide +kernel
  have ht3 : addressToScript b58 "t3WTnCGUB3Gxaq7v17mnWzPz5J3Gi8q95vs"
      = .ok (p2shScript knownHash) := by
    rw [← htext3]
    exact (encoded_t3 hb58 rfl).1
  obtain ⟨-, -, -, hback, -, -⟩ := haccepted _ _ ht1
  obtain ⟨-, -, -, -, hback', -⟩ := haccepted _ _ htex
  obtain ⟨-, -, -, -, -, hrefused⟩ := haccepted _ _ ht3
  exact ⟨hback (by decide), hback' (by decide), hrefused (by decide)⟩

end SwapsackZcashAddress
