import Swapsack.CardanoKeysProofs
import Swapsack.CardanoReadBackProofs

/-! # Who owns a Cardano coin

    The adapter with the keys it really uses.  An address is made of two public keys of
    one root, and a spend is signed by the keys its coins' addresses were made of.

    * `deriveAddress_eq` — the address at a path of five proper indices, and its bytes;
    * `signingKeys_derived` — coins on derived addresses are never refused;
    * `sign_witnessed` — what is signed carries, for each coin, a witness whose key hash
      is the coin's payment credential, and every witness verifies. -/

namespace SwapsackCardanoKeys

open ListKit ByteString PyText PyJson SwapsackBase SwapsackBech32
open SwapsackCardano SwapsackCardanoTx
open Ed25519 (order)

def stakeRoleIndex : String := "2/0"

section Account

/-- The pieces of a text hold no separator. -/
theorem not_mem_of_mem_splitOn {α : Type} [DecidableEq α] {sep : α} {l piece : List α}
    (h : piece ∈ l.splitOn sep) : sep ∉ piece := by
  induction l generalizing piece with
  | nil =>
      rw [List.splitOn_nil, List.mem_singleton] at h
      rw [h]
      exact List.not_mem_nil
  | cons x l ih =>
      rw [List.splitOn_cons_eq_if_modifyHead] at h
      split_ifs at h with hx
      · rcases List.mem_cons.mp h with rfl | h
        · exact List.not_mem_nil
        · exact ih h
      · cases hsplit : l.splitOn sep with
        | nil => exact absurd hsplit (List.splitOn_ne_nil sep l)
        | cons first rest =>
            rw [hsplit] at h ih
            rw [List.modifyHead_cons] at h
            rcases List.mem_cons.mp h with rfl | h
            · rintro (_ | ⟨_, hmem⟩)
              · exact hx (beq_self_eq_true _)
              · exact ih List.mem_cons_self hmem
            · exact ih (List.mem_cons_of_mem first h)

/-- `path.rsplit("/", 2)[0]`. -/
def accountOf (path : String) : String :=
  let parts := path.toList.splitOn '/'
  String.ofList (['/'].intercalate (parts.take (max 1 (parts.length - 2))))

/-- The account's stake key. -/
def stakePath (path : String) : String := accountOf path ++ "/" ++ stakeRoleIndex

/-- The path of the stake key: the account's parts, and two more. -/
theorem splitPath_stake (path : String) (h : 3 ≤ (splitPath path).length) :
    splitPath (stakePath path)
      = (splitPath path).take ((splitPath path).length - 2) ++ ["2", "0"] := by
  have hlen : (splitPath path).length = (path.toList.splitOn '/').length :=
    List.length_map String.ofList
  have hmax : max 1 ((path.toList.splitOn '/').length - 2)
      = (path.toList.splitOn '/').length - 2 := by omega
  have haccount : (accountOf path).toList.splitOn '/'
      = (path.toList.splitOn '/').take ((path.toList.splitOn '/').length - 2) := by
    rw [accountOf, String.toList_ofList, hmax, List.splitOn_intercalate]
    · exact fun piece hpiece => not_mem_of_mem_splitOn (List.mem_of_mem_take hpiece)
    · intro hnil
      have := congrArg List.length hnil
      rw [List.length_take, List.length_nil] at this
      omega
  have htext : (stakePath path).toList = (accountOf path).toList ++ '/' :: "2/0".toList := by
    rw [stakePath, String.toList_append, String.toList_append, List.append_assoc]
    rfl
  have htail : "2/0".toList.splitOn '/' = [['2'], ['0']] := by decide
  rw [splitPath, htext, List.splitOn_append_cons_self, haccount, htail, List.map_append, hlen,
    splitPath, List.map_take]
  rfl

variable [PyUnicode]

theorem intOfText_short {s : String} (h : s.toList.length ≤ maxStrDigits) :
    intOfText s = intText s := by
  have hcount := List.length_filter_le (fun c => (PyUnicode.decimal c).isSome) s.toList
  exact if_neg (by omega)

theorem parsePart_two : parsePart "2" = .ok 2 := by
  have hint : intOfText "2" = some 2 :=
    (intOfText_short (by decide)).trans (intText_toString 2)
  have hplain : ("2".toList.getLast? == some '\'' || "2".toList.getLast? == some 'h') = false := by
    decide
  rw [parsePart, hplain]
  simp only [Bool.false_eq_true, if_false, hint]

theorem parsePart_zero : parsePart "0" = .ok 0 := by
  have hint : intOfText "0" = some 0 :=
    (intOfText_short (by decide)).trans (intText_toString 0)
  have hplain : ("0".toList.getLast? == some '\'' || "0".toList.getLast? == some 'h') = false := by
    decide
  rw [parsePart, hplain]
  simp only [Bool.false_eq_true, if_false, hint]

/-- The stake key is the account's, whatever the role and the index. -/
theorem parsePath_stake {path : String} {indices : List ℤ} (hpath : parsePath path = .ok indices)
    (hlen : indices.length = 5) : parsePath (stakePath path) = .ok (indices.take 3 ++ [2, 0]) := by
  rw [parsePath] at hpath
  split at hpath
  · cases hpath
  · rename_i hhead
    cases hparts : splitPath path with
    | nil =>
        rw [hparts] at hhead
        exact absurd (by decide : (none : Option String) ≠ some "m") hhead
    | cons first parts =>
        rw [hparts, List.head?_cons, not_not] at hhead
        obtain rfl : first = "m" := Option.some.inj hhead
        rw [hparts, List.tail_cons] at hpath
        -- three of the five parts are the account's, and stay
        have hcount : parts.length = 5 := by
          rw [(mapM_ok_forall₂ hpath).length_eq, hlen]
        have hstake := splitPath_stake path (by rw [hparts, List.length_cons]; omega)
        rw [hparts, List.length_cons, hcount] at hstake
        rw [← List.take_append_drop 3 parts, List.mapM_append] at hpath
        obtain ⟨account, haccount, hpath⟩ := bind_eq_ok hpath
        obtain ⟨rest, -, hpath⟩ := bind_eq_ok hpath
        cases hpath
        have haccountLen : account.length = 3 := by
          rw [← (mapM_ok_forall₂ haccount).length_eq, List.length_take]
          omega
        rw [parsePath, hstake]
        have hfirst : (("m" :: parts).take (5 + 1 - 2) ++ ["2", "0"]).head? = some "m" := rfl
        have htail : (("m" :: parts).take (5 + 1 - 2) ++ ["2", "0"]).tail
            = parts.take 3 ++ ["2", "0"] := rfl
        rw [hfirst, htail, if_neg (not_not.mpr rfl), List.mapM_append, haccount, ok_bind,
          List.mapM_cons, parsePart_two, ok_bind, List.mapM_cons, parsePart_zero,
          List.take_left' haccountLen]
        rfl

end Account

/-! ## Addresses -/

section Addresses

variable [PyUnicode] (lib : KeyLib) (passphrase : String)

/-- The base address whose payment key sits at `path`. -/
def deriveAddress (mnemonic path : String) : Except KeyError String := do
  let indices ← parsePath path
  if indices.length ≠ 5 then
    .error (.raised (.valueError s!"not a CIP-1852 address path: {PyUnicode.repr path}"))
  else do
    let root ← rootKey lib passphrase mnemonic
    let paymentKey ← derive lib root path
    let payment ← publicKey lib paymentKey
    let stakeKey ← derive lib root (stakePath path)
    let stake ← publicKey lib stakeKey
    baseAddress lib payment stake

variable {passphrase}

/-- A base address is read back into its two key hashes, and is a key-hash address. -/
theorem baseAddress_reads (payment stake : Bytes) :
    ∃ address raw, baseAddress lib payment stake = .ok address
      ∧ addressBytes address = .ok raw ∧ paymentKeyHash raw = .ok (lib.blake2b224 payment)
      ∧ raw = [baseAddressMainnet] ++ lib.blake2b224 payment ++ lib.blake2b224 stake := by
  have hprefix : addressHrp ≠ "" := by decide
  have hvariant : bech32 = bech32 ∨ bech32 = bech32m := Or.inl rfl
  obtain ⟨address, hencode, hdecode⟩ := decode_encode hprefix
    ([baseAddressMainnet] ++ lib.blake2b224 payment ++ lib.blake2b224 stake) hvariant
  refine ⟨address, [baseAddressMainnet] ++ lib.blake2b224 payment ++ lib.blake2b224 stake,
    ?_, ?_, ?_, rfl⟩
  · rw [baseAddress, bech32Encode, hencode]
    rfl
  · have hheader : ¬ (addressHrp.toList ≠ "addr".toList
        ∨ baseAddressMainnet.toNat &&& 0x0F ≠ mainnet) := by decide
    rw [addressBytes, bech32Decode, hdecode, ok_bind]
    exact if_neg hheader
  · have hkind : ¬ baseAddressMainnet.toNat >>> 4 ∉ [0, 2, 4, 6] := by decide
    have hhash : slice (baseAddressMainnet :: (lib.blake2b224 payment ++ lib.blake2b224 stake)) 1 28
        = lib.blake2b224 payment := by
      rw [slice, List.drop_succ_cons, List.drop_zero,
        List.take_left' (lib.blake2b224_length payment)]
    rw [List.append_assoc, List.singleton_append, paymentKeyHash, hhash]
    exact if_neg hkind

variable {lib} {mnemonic path : String} {root : ExtendedKey} {indices : List ℤ}

/-- What a derived address was made of. -/
theorem deriveAddress_ok {address : String}
    (h : deriveAddress lib passphrase mnemonic path = .ok address) :
    ∃ root key payment raw, rootKey lib passphrase mnemonic = .ok root
      ∧ derive lib root path = .ok key ∧ publicKey lib key = .ok payment
      ∧ key.kl.length = 32 ∧ ¬ order ∣ leNat key.kl
      ∧ addressBytes address = .ok raw ∧ paymentKeyHash raw = .ok (lib.blake2b224 payment) := by
  obtain ⟨indices, hindices, h⟩ := bind_eq_ok h
  split at h
  · cases h
  · rename_i hlen
    rw [not_not] at hlen
    obtain ⟨root, hroot, h⟩ := bind_eq_ok h
    obtain ⟨key, hkey, h⟩ := bind_eq_ok h
    obtain ⟨payment, hpayment, h⟩ := bind_eq_ok h
    obtain ⟨stakeKey, -, h⟩ := bind_eq_ok h
    obtain ⟨stake, -, h⟩ := bind_eq_ok h
    obtain ⟨address', raw, haddress, hraw, hhash, -⟩ :=
      baseAddress_reads lib payment stake
    rw [haddress] at h
    cases h
    have hroomy : indices.length ≤ roomySteps := by
      rw [hlen]
      decide
    obtain ⟨-, -, hshape⟩ := derive_sound hroot hindices hroomy
    obtain ⟨hshape, -⟩ := hshape key hkey
    exact ⟨root, key, payment, raw, hroot, hkey, hpayment, hshape.kl_length,
      hshape.not_order_dvd hroomy, hraw, hhash⟩

/-- **An address for every proper path**: five 32-bit indices below a root have an
    address.  Its first half is the hash of the key at the path, its second that of a key
    all addresses of the account share. -/
theorem deriveAddress_eq (hroot : rootKey lib passphrase mnemonic = .ok root)
    (hpath : parsePath path = .ok indices) (hlen : indices.length = 5)
    (hproper : ∀ index ∈ indices, ProperIndex index) :
    ∃ key stake address, deriveIndices lib root indices = .ok key
      ∧ deriveIndices lib root (indices.take 3 ++ [2, 0]) = .ok stake
      ∧ deriveAddress lib passphrase mnemonic path = .ok address
      ∧ addressBytes address = .ok ([baseAddressMainnet]
        ++ lib.blake2b224 (lib.encode (leNat key.kl • lib.base))
        ++ lib.blake2b224 (lib.encode (leNat stake.kl • lib.base))) := by
  have hroomy : indices.length ≤ roomySteps := by
    rw [hlen]
    decide
  -- the stake key's path is as long, and as proper, as the payment key's
  have hstakePath := parsePath_stake hpath hlen
  have hstakeLen : (indices.take 3 ++ [2, 0]).length = 5 := by
    rw [List.length_append, List.length_take, hlen]
    rfl
  have hstakeRoomy : (indices.take 3 ++ [2, 0]).length ≤ roomySteps := by
    rw [hstakeLen]
    decide
  have hstakeProper : ∀ index ∈ indices.take 3 ++ [2, 0], ProperIndex index := by
    intro index hindex
    rcases List.mem_append.mp hindex with hindex | hindex
    · exact hproper index (List.mem_of_mem_take hindex)
    · have hrole : ∀ i ∈ ([2, 0] : List ℤ), ProperIndex i := by decide
      exact hrole index hindex
  obtain ⟨hiff, -, hkeys⟩ := derive_sound hroot hpath hroomy
  obtain ⟨key, hkey⟩ := hiff.mpr hproper
  obtain ⟨hstakeIff, -, hstakeKeys⟩ := derive_sound hroot hstakePath hstakeRoomy
  obtain ⟨stake, hstake⟩ := hstakeIff.mpr hstakeProper
  obtain ⟨address, raw, haddress, hraw, -, rfl⟩ := baseAddress_reads lib
    (lib.encode (leNat key.kl • lib.base)) (lib.encode (leNat stake.kl • lib.base))
  refine ⟨key, stake, address, ?_, ?_, ?_, hraw⟩
  · rw [derive, hpath, ok_bind] at hkey
    exact hkey
  · rw [derive, hstakePath, ok_bind] at hstake
    exact hstake
  · rw [deriveAddress, hpath, ok_bind, if_neg (not_not.mpr hlen), hroot, ok_bind, hkey, ok_bind,
      (hkeys key hkey).2, ok_bind, hstake, ok_bind, (hstakeKeys stake hstake).2, ok_bind,
      haddress]

end Addresses

/-! ## The adapter on its own keys -/

section Adapter

variable [PyUnicode] (lib : KeyLib) (passphrase : String) (ad : AdaAdapter)

/-- An adapter, with the keys it really derives. -/
def withKeys : AdaAdapter :=
  { ad with
    blake2b224 := lib.blake2b224
    rootKey := fun mnemonic => (rootKey lib passphrase mnemonic).toOption
    derive := fun root path => (derive lib root path).toOption
    publicKey := fun key => (publicKey lib key).toOption.getD [] }

/-- How a key signs for the adapter. -/
def keySign (key : ExtendedKey) (message : Bytes) : Except PyError Bytes :=
  match sign lib key message with
  | .ok signature => .ok signature
  | .error (.raised e) => .error e
  | .error _ => .error .library

variable {lib} {mnemonic : String} {chosen : List Utxo}

/-- What the adapter signs with verifies under the key it shows. -/
theorem keySign_ok {key : ExtendedKey} {message signature : Bytes}
    (h : keySign lib key message = .ok signature) :
    lib.verify ((withKeys lib passphrase ad).publicKey key) message signature = true := by
  rw [keySign] at h
  cases hsign : sign lib key message with
  | error e =>
      rw [hsign] at h
      cases e <;> exact nomatch h
  | ok signed =>
      rw [hsign] at h
      cases h
      obtain ⟨pub, hpub, hsign⟩ := bind_eq_ok hsign
      obtain ⟨bigR, -, hsign⟩ := bind_eq_ok hsign
      dsimp only at hsign
      split at hsign
      · rename_i hverify
        cases hsign
        show lib.verify ((publicKey lib key).toOption.getD []) message _ = true
        rw [hpub]
        exact hverify
      · cases hsign

/-- Each coin has a key among the signing keys: the last of those with its public key. -/
theorem signingKeys_own {ad : AdaAdapter} {chosen : List Utxo} {keys : List ExtendedKey}
    (h : signingKeys ad mnemonic chosen = .ok keys) {utxo : Utxo} (hutxo : utxo ∈ chosen) :
    ∃ key ∈ keys, ∃ raw, addressBytes utxo.address = .ok raw
      ∧ paymentKeyHash raw = .ok (ad.blake2b224 (ad.publicKey key)) := by
  rw [signingKeys] at h
  split at h
  · cases h
  · obtain ⟨derived, hderived, h⟩ := bind_eq_ok h
    cases h
    obtain ⟨key, hkey, hsigning⟩ := forall₂_mem_right (mapM_ok_forall₂ hderived).flip hutxo
    have hpublic : ad.publicKey key ∈ (keyed ad.publicKey id derived).map Prod.fst :=
      (mem_keys_keyed ad.publicKey id derived _).mpr (List.mem_map_of_mem hkey)
    -- a later coin may have put its own key in this one's place, under the same public key
    obtain ⟨e, he, hfst⟩ := List.mem_map.mp hpublic
    obtain ⟨owner, -, rfl⟩ := mem_keyed he
    refine ⟨owner, List.mem_map_of_mem (f := Prod.snd) he, ?_⟩
    rw [signingKey] at hsigning
    split at hsigning
    · cases hsigning
    · obtain ⟨raw, hraw, hsigning⟩ := bind_eq_ok hsigning
      obtain ⟨hash, hhash, hsigning⟩ := bind_eq_ok hsigning
      dsimp only at hsigning
      split at hsigning
      · cases hsigning
      · rename_i howner
        cases hsigning
        rw [not_not] at howner
        rw [howner, ← hfst] at hhash
        exact ⟨raw, hraw, hhash⟩

variable {passphrase}

/-- The key of a coin on a derived address is the one the address was made of. -/
theorem signingKey_derived {root : ExtendedKey}
    (hroot : rootKey lib passphrase mnemonic = .ok root) {utxo : Utxo}
    (hcoin : deriveAddress lib passphrase mnemonic (orText utxo.path defaultDerivation)
      = .ok utxo.address) :
    ∃ key, signingKey (withKeys lib passphrase ad) root utxo = .ok key
      ∧ key.kl.length = 32 ∧ ¬ order ∣ leNat key.kl := by
  obtain ⟨root', key, payment, raw, hroot', hkey, hpayment, hlen, hdvd, hraw, hhash⟩ :=
    deriveAddress_ok hcoin
  rw [hroot] at hroot'
  cases hroot'
  have hderive : (withKeys lib passphrase ad).derive root (orText utxo.path defaultDerivation)
      = some key := by
    show (derive lib root _).toOption = some key
    rw [hkey]
    rfl
  have howner : (withKeys lib passphrase ad).blake2b224
      ((withKeys lib passphrase ad).publicKey key) = lib.blake2b224 payment := by
    show lib.blake2b224 ((publicKey lib key).toOption.getD []) = _
    rw [hpayment]
    rfl
  refine ⟨key, ?_, hlen, hdvd⟩
  rw [signingKey, hderive]
  dsimp only
  rw [hraw, ok_bind, hhash, ok_bind, howner]
  exact if_neg (not_not.mpr rfl)

variable (lib passphrase) in
/-- **The wallet's own coins are never refused**: coins on derived addresses all have
    their keys among the signing ones, and each of these signs whatever it is given,
    unless the nonce it is given is a multiple of the order. -/
theorem signingKeys_derived (hroot : (rootKey lib passphrase mnemonic).isOk = true)
    (hcoins : ∀ utxo ∈ chosen, deriveAddress lib passphrase mnemonic
      (orText utxo.path defaultDerivation) = .ok utxo.address) :
    ∃ keys, signingKeys (withKeys lib passphrase ad) mnemonic chosen = .ok keys
      ∧ (∀ utxo ∈ chosen, ∃ key ∈ keys, ∃ raw, addressBytes utxo.address = .ok raw
        ∧ paymentKeyHash raw
          = .ok (lib.blake2b224 ((withKeys lib passphrase ad).publicKey key)))
      ∧ ∀ key ∈ keys, ∀ message, ¬ order ∣ leNat (lib.sha512 (key.kr ++ message)) →
        ∃ signature, keySign lib key message = .ok signature ∧ signature.length = 64
          ∧ lib.verify ((withKeys lib passphrase ad).publicKey key) message signature = true := by
  obtain ⟨root, hroot⟩ := exists_of_isOk hroot
  have hrootOption : (withKeys lib passphrase ad).rootKey mnemonic = some root := by
    show (rootKey lib passphrase mnemonic).toOption = some root
    rw [hroot]
    rfl
  obtain ⟨derived, hderived⟩ := mapM_isOk_iff.mpr fun utxo hutxo =>
    (signingKey_derived ad hroot (hcoins utxo hutxo)).imp fun _ h => h.1
  have hkeys : signingKeys (withKeys lib passphrase ad) mnemonic chosen
      = .ok ((keyed (withKeys lib passphrase ad).publicKey id derived).map Prod.snd) := by
    rw [signingKeys, hrootOption]
    dsimp only
    rw [hderived, ok_bind]
  refine ⟨_, hkeys, fun utxo hutxo => signingKeys_own hkeys hutxo, ?_⟩
  intro key hkey message hnonce
  obtain ⟨e, he, rfl⟩ := List.mem_map.mp hkey
  obtain ⟨key, hmem, rfl⟩ := mem_keyed he
  obtain ⟨utxo, hutxo, hsigning⟩ := mapM_ok_mem hderived hmem
  obtain ⟨key', hkey', hlen, hdvd⟩ := signingKey_derived ad hroot (hcoins utxo hutxo)
  rw [hsigning] at hkey'
  cases hkey'
  rcases sign_outcome lib hlen hdvd message with ⟨hbad, -⟩ | ⟨signature, hsign, hlength, -⟩
  · exact absurd hbad hnonce
  · have hkeySign : keySign lib key message = .ok signature := by rw [keySign, hsign]
    exact ⟨signature, hkeySign, hlength, keySign_ok passphrase ad hkeySign⟩

end Adapter

/-! ## What is signed -/

section Signed

variable [PyUnicode] {lib : KeyLib} {passphrase : String} {ad : AdaAdapter}
  {mnemonic vaultAddress changeAddress : String} {utxos : List Utxo} {amount : ℤ}
  {memo : Option Memo} {sweep : Bool} {built : AdaBuilt} {raws : List String}

/-- The keys of a build are its coins'. -/
theorem buildUnsignedSwap_keys {ad : AdaAdapter}
    (h : buildUnsignedSwap ad mnemonic utxos vaultAddress amount memo changeAddress sweep
      = .ok built) : signingKeys ad mnemonic built.inputs = .ok built.keys := by
  obtain ⟨s, -, h⟩ := bind_eq_ok h
  obtain ⟨⟨chosen, outputs, fee⟩, -, h⟩ := bind_eq_ok h
  obtain ⟨tx, -, h⟩ := bind_eq_ok h
  obtain ⟨dummy, -, h⟩ := bind_eq_ok h
  dsimp only at h
  split at h
  · cases h
  · obtain ⟨⟨neutral, neutralFee⟩, -, h⟩ := bind_eq_ok h
    obtain ⟨required, -, h⟩ := bind_eq_ok h
    obtain ⟨keys, hkeys, h⟩ := bind_eq_ok h
    cases h
    exact hkeys

/-- **What is signed is witnessed**: the bytes are the built transaction with witnesses
    that all verify over its id, and among them is one under the payment credential of
    each coin that is spent. -/
theorem sign_witnessed
    (h : buildUnsignedSwap (withKeys lib passphrase ad) mnemonic utxos vaultAddress amount memo
      changeAddress sweep = .ok built)
    (hsign : SwapsackCardano.sign (withKeys lib passphrase ad) (keySign lib) built = .ok raws) :
    ∃ ws, raws = [hex (serialize ad.codec built.tx ws)]
      ∧ (∀ w ∈ ws, lib.verify w.1 (txid ad.codec built.tx) w.2 = true)
      ∧ ∀ utxo ∈ built.inputs, ∃ w ∈ ws, ∃ raw, addressBytes utxo.address = .ok raw
        ∧ paymentKeyHash raw = .ok (lib.blake2b224 w.1) := by
  have hkeys := buildUnsignedSwap_keys h
  obtain ⟨ws, hws, hsign⟩ := bind_eq_ok hsign
  obtain ⟨parsed, -, hsign⟩ := bind_eq_ok hsign
  obtain ⟨⟨outputs, fee⟩, -, hsign⟩ := bind_eq_ok hsign
  dsimp only at hsign
  split at hsign
  · cases hsign
  · cases hsign
    refine ⟨ws, rfl, ?_, ?_⟩
    · intro w hw
      obtain ⟨key, -, hkey⟩ := mapM_ok_mem hws hw
      obtain ⟨signature, hsignature, hkey⟩ := bind_eq_ok hkey
      cases hkey
      exact keySign_ok passphrase ad hsignature
    · intro utxo hutxo
      obtain ⟨key, hkey, raw, hraw, hhash⟩ := signingKeys_own hkeys hutxo
      obtain ⟨w, hw, hsigned⟩ := forall₂_mem_right (mapM_ok_forall₂ hws).flip hkey
      obtain ⟨signature, -, hsigned⟩ := bind_eq_ok hsigned
      cases hsigned
      exact ⟨_, hw, raw, hraw, hhash⟩

end Signed

/-! ## The coin of the wallet -/

theorem ownAddress_derived : let _ : PyUnicode := asciiUnicode
    deriveAddress plainLib "" plainMnemonic ownPath = .ok ownAddress := by
  decide +kernel

/-- Its address is the hash of its own public key and of the stake key's. -/
theorem deriveAddress_eq_plain : let _ : PyUnicode := asciiUnicode
    ∃ stake : ExtendedKey,
      deriveIndices plainLib SwapsackCardano.rootKey (ownIndices.take 3 ++ [2, 0]) = .ok stake
      ∧ addressBytes ownAddress = .ok ([baseAddressMainnet]
        ++ plainLib.blake2b224 (plainLib.encode (leNat ownKey.kl • plainLib.base))
        ++ plainLib.blake2b224 (plainLib.encode (leNat stake.kl • plainLib.base))) := by
  intro _
  obtain ⟨key, stake, address, hkey, hstake, haddress, hraw⟩ :=
    deriveAddress_eq rootKey_plain parsePath_ownPath rfl (by decide)
  rw [deriveIndices_own] at hkey
  cases hkey
  rw [ownAddress_derived] at haddress
  cases haddress
  exact ⟨stake, hstake, hraw⟩

theorem signingKeys_own_plain : let _ : PyUnicode := asciiUnicode
    signingKeys (withKeys plainLib "" (oneCoinAdapter 56691)) plainMnemonic [fiveAda 0]
      = .ok [ownKey] := by
  decide +kernel

/-- The coin has its key, and the key signs a transaction. -/
theorem signingKeys_derived_plain : let _ : PyUnicode := asciiUnicode
    ∃ signature, keySign plainLib ownKey foldedTxid = .ok signature ∧ signature.length = 64
      ∧ plainLib.verify ((withKeys plainLib "" (oneCoinAdapter 56691)).publicKey ownKey)
        foldedTxid signature = true := by
  intro _
  have hcoins : ∀ utxo ∈ [fiveAda 0], deriveAddress plainLib "" plainMnemonic
      (orText utxo.path defaultDerivation) = .ok utxo.address := by
    intro utxo hutxo
    rw [List.mem_singleton.mp hutxo]
    exact ownAddress_derived
  obtain ⟨keys, hkeys, -, hsign⟩ := signingKeys_derived plainLib "" (oneCoinAdapter 56691)
    (by rw [rootKey_plain]; rfl) hcoins
  rw [signingKeys_own_plain] at hkeys
  cases hkeys
  have hnonce : ¬ order ∣ leNat (plainLib.sha512 (ownKey.kr ++ foldedTxid)) := by
    decide +kernel
  exact hsign ownKey List.mem_cons_self foldedTxid hnonce

/-- The coin is swapped with its leftover in the fee, and signed. -/
theorem signedPlain_exists : let _ : PyUnicode := asciiUnicode
    ∃ built, buildUnsignedSwap (withKeys plainLib "" (oneCoinAdapter 56691)) plainMnemonic
        [fiveAda 0] mayaVault 493446400 none ownAddress false = .ok built
      ∧ (SwapsackCardano.sign (withKeys plainLib "" (oneCoinAdapter 56691)) (keySign plainLib)
          built >>= fun raws => .ok (decide (raws.length = 1 ∧ built.inputs = [fiveAda 0]
            ∧ txid plainCodec built.tx = foldedTxid))) = .ok true := by
  intro _
  exact bind_eq_ok (by decide +kernel)

theorem sign_witnessed_plain : let _ : PyUnicode := asciiUnicode
    ∃ built raws ws, SwapsackCardano.sign (withKeys plainLib "" (oneCoinAdapter 56691))
        (keySign plainLib) built = .ok raws
      ∧ raws = [hex (serialize plainCodec built.tx ws)]
      ∧ ∃ w ∈ ws, ∃ raw, addressBytes ownAddress = .ok raw
        ∧ paymentKeyHash raw = .ok (plainLib.blake2b224 w.1)
        ∧ plainLib.verify w.1 foldedTxid w.2 = true := by
  intro _
  obtain ⟨built, hbuilt, hsign⟩ := signedPlain_exists
  obtain ⟨raws, hsign, hshape⟩ := bind_eq_ok hsign
  obtain ⟨-, hinputs, htxid⟩ := of_decide_eq_true (Except.ok.inj hshape)
  obtain ⟨ws, hraws, hverify, howned⟩ := sign_witnessed hbuilt hsign
  obtain ⟨w, hw, raw, hraw, hhash⟩ := howned (fiveAda 0) (by
    rw [hinputs]
    exact List.mem_singleton_self _)
  have hvalid : plainLib.verify w.1 (txid plainCodec built.tx) w.2 = true := hverify w hw
  rw [htxid] at hvalid
  exact ⟨built, raws, ws, hsign, hraws, w, hw, raw, hraw, hhash, hvalid⟩

end SwapsackCardanoKeys
