import Swapsack.Base64Proofs
import Swapsack.JsonTextProofs

/-! # The encrypted keystore

    A keystore file is a JSON envelope around an encrypted JSON payload.  Only
    the payload is authenticated; the fields of the envelope steer how it is
    read.

    * `entriesOf_plaintextOf` — the payload reads back as the entries;
    * `load_opened` — what an envelope whose payload opens loads as, by its
      version;
    * `load_modified` — whatever is changed around it, nothing but the saved
      entries is ever returned, without their passphrases below version 2. -/

namespace SwapsackKeystore

open ListKit ByteString PyText PyJson JsonText

/-! ## Entries -/

/-- A BIP-39 passphrase that is kept. -/
abbrev Passphrase := { s : String // s ≠ "" }

/-- `Secret(s) if s else None`. -/
def keptPassphrase (s : String) : Option Passphrase := if h : s = "" then none else some ⟨s, h⟩

structure HdKey where
  label : String
  mnemonic : String
  passphrase : Option Passphrase := none
deriving DecidableEq

structure RawKey where
  label : String
  chain : String
  secret : String
deriving DecidableEq

inductive KeyEntry where
  | hd (key : HdKey)
  | raw (key : RawKey)
deriving DecidableEq

def KeyEntry.label : KeyEntry → String
  | .hd key => key.label
  | .raw key => key.label

structure Keystore where
  entries : List KeyEntry := []
  strippedPassphraseLabels : List String := []
deriving DecidableEq

/-- The reasons of a `KeystoreError`: a file or a field that cannot be read (none
    for the file), a payload that does not open, an entry of no kind. -/
inductive KeystoreError where
  | cannotRead (cause : Option PyExc)
  | wrongPassphrase
  | unknownKind (kind : Option Json)

/-- What loading raises. -/
inductive Failure where
  | keystore (e : KeystoreError)
  | python (e : PyExc)

/-- An exception that nothing catches. -/
def uncaught {α : Type} (x : Except PyExc α) : Except Failure α := x.mapError .python

/-- `_entry_to_dict`. -/
def entryToDict : KeyEntry → Doc
  | .hd key =>
      .obj [("kind", .str "hd"), ("label", .str key.label), ("mnemonic", .str key.mnemonic),
        ("passphrase", match key.passphrase with
          | some passphrase => .str passphrase.1
          | none => .null)]
  | .raw key =>
      .obj [("kind", .str "raw"), ("label", .str key.label), ("chain", .str key.chain),
        ("secret", .str key.secret)]

/-- `data[k]`, where the wallet writes a text. -/
def textItem (data : Json) (k : String) : Except PyExc String := do
  match ← data.getItem k with
  | .str s => .ok s
  | _ => .error .typeError

/-- `Secret(pw) if pw else None`, where the wallet writes a text or null. -/
def passphraseOf : Option Json → Except PyExc (Option Passphrase)
  | none => .ok none
  | some (.str s) => .ok (keptPassphrase s)
  | some x => if x.truthy then .error .typeError else .ok none

/-- `_entry_from_dict`. -/
def entryFromDict (data : Json) : Except Failure KeyEntry := do
  let kind ← uncaught (data.getField "kind")
  if kind.elim false (Json.isText · "hd") then
    let pw ← uncaught (data.getField "passphrase")
    let label ← uncaught (textItem data "label")
    let mnemonic ← uncaught (textItem data "mnemonic")
    let passphrase ← uncaught (passphraseOf pw)
    .ok (.hd { label, mnemonic, passphrase })
  else if kind.elim false (Json.isText · "raw") then
    let label ← uncaught (textItem data "label")
    let chain ← uncaught (textItem data "chain")
    let secret ← uncaught (textItem data "secret")
    .ok (.raw { label, chain, secret })
  else .error (.keystore (.unknownKind kind))

/-! ## The cipher -/

def envelopeVersion : ℤ := 2
def scryptR : ℤ := 8
def scryptP : ℤ := 1
def keyLen : ℤ := 32

/-- The cryptography library: scrypt, which refuses some parameters, and AES-GCM
    without associated data. -/
structure Crypto where
  scrypt : (passphrase salt : Bytes) → (length n r p : Json) → Except PyExc Bytes
  encryptWith : (key nonce plaintext : Bytes) → Bytes
  decryptWith : (key nonce ciphertext : Bytes) → Option Bytes

/-- `_derive_key`. -/
def deriveKey (crypto : Crypto) (passphrase : String) (salt : Bytes) (n r p length : Json) :
    Except PyExc Bytes :=
  crypto.scrypt (encodeUtf8 passphrase) salt length n r p

/-- The keys and nonces AES-GCM takes. -/
def Fits (key nonce : Bytes) : Prop :=
  key.length ∈ [16, 24, 32] ∧ 8 ≤ nonce.length ∧ nonce.length ≤ 128

instance (key nonce : Bytes) : Decidable (Fits key nonce) :=
  inferInstanceAs (Decidable (_ ∧ _))

/-- `AESGCM(key).encrypt(nonce, plaintext, None)`. -/
def encrypt (crypto : Crypto) (key nonce plaintext : Bytes) : Except PyExc Bytes :=
  if Fits key nonce then .ok (crypto.encryptWith key nonce plaintext) else .error .valueError

/-- `AESGCM(key).decrypt(nonce, ciphertext, None)`; none is `InvalidTag`. -/
def decrypt (crypto : Crypto) (key nonce ciphertext : Bytes) : Except PyExc (Option Bytes) :=
  if Fits key nonce then .ok (crypto.decryptWith key nonce ciphertext) else .error .valueError

/-! ## Saving -/

def payloadOf (entries : List KeyEntry) : Doc :=
  .obj [("entries", .arr (entries.map entryToDict))]

def plaintextOf (entries : List KeyEntry) : Bytes := encodeUtf8 (dumps none (payloadOf entries))

/-- The envelope of a version. -/
def envelopeOf (version n : ℤ) (salt nonce ciphertext : Bytes) : Doc :=
  .obj
    [("version", .int version),
     ("kdf", .str "scrypt"),
     ("kdf_params",
       .obj [("n", .int n), ("r", .int scryptR), ("p", .int scryptP), ("length", .int keyLen)]),
     ("salt", .str (Base64.encode salt)),
     ("nonce", .str (Base64.encode nonce)),
     ("ciphertext", .str (Base64.encode ciphertext))]

/-- `Keystore.save`: the file it writes, with this salt and nonce drawn. -/
def save (crypto : Crypto) (keystore : Keystore) (passphrase : String) (n : ℤ)
    (salt nonce : Bytes) : Except PyExc String := do
  let key ← deriveKey crypto passphrase salt (.int n) (.int scryptR) (.int scryptP) (.int keyLen)
  let ciphertext ← encrypt crypto key nonce (plaintextOf keystore.entries)
  if InDigits n then
    .ok (dumps (some 2) (envelopeOf envelopeVersion n salt nonce ciphertext))
  else .error .valueError

/-! ## Loading -/

/-- `base64.b64decode(envelope[k])`. -/
def b64Field (envelope : Json) (k : String) : Except PyExc Bytes := do
  match ← envelope.getItem k with
  | .str s =>
      match Base64.decode s with
      | some b => .ok b
      | none => .error .valueError
  | _ => .error .typeError

/-- What the guarded part of loading reads. -/
structure Envelope where
  json : Json
  salt : Bytes
  nonce : Bytes
  ciphertext : Bytes
  params : Json

def readEnvelope (json : Json) : Except PyExc Envelope := do
  let salt ← b64Field json "salt"
  let nonce ← b64Field json "nonce"
  let ciphertext ← b64Field json "ciphertext"
  let params ← json.getItem "kdf_params"
  .ok { json, salt, nonce, ciphertext, params }

/-- `except (ValueError, KeyError)`, of what reading an envelope raises. -/
def unreadable : PyExc → Failure
  | .valueError => .keystore (.cannotRead (some .valueError))
  | .keyError => .keystore (.cannotRead (some .keyError))
  | e => .python e

/-- The guarded part of loading; a file that is not there is `none`. -/
def readFile (file : Option String) : Except Failure Envelope :=
  match file with
  | none => .error (.keystore (.cannotRead none))
  | some text =>
      match loads text with
      | none => .error (unreadable .valueError)
      | some json => (readEnvelope json).mapError unreadable

/-- The key an envelope's parameters derive. -/
def envelopeKey (crypto : Crypto) (passphrase : String) (envelope : Envelope) :
    Except PyExc Bytes := do
  let n ← envelope.params.getItem "n"
  let r ← envelope.params.getItem "r"
  let p ← envelope.params.getItem "p"
  let length ← envelope.params.getD "length" (.int keyLen)
  deriveKey crypto passphrase envelope.salt n r p length

/-- The entries of a payload. -/
def entriesOf (plaintext : Bytes) : Except Failure (List KeyEntry) :=
  match (decodeUtf8 plaintext).bind loads with
  | none => .error (.python .valueError)
  | some payload => do
      let entries ← uncaught (payload.getItem "entries")
      let items ← uncaught entries.items
      items.mapM entryFromDict

/-- An HD entry that keeps a passphrase. -/
def KeyEntry.hasPassphrase : KeyEntry → Bool
  | .hd key => key.passphrase.isSome
  | .raw _ => false

/-- `dataclasses.replace(e, passphrase=None)` of an HD entry. -/
def KeyEntry.strip : KeyEntry → KeyEntry
  | .hd key => .hd { key with passphrase := none }
  | .raw key => .raw key

/-- What the migration from version 1 makes of the entries. -/
def migrate (entries : List KeyEntry) : Keystore where
  entries := entries.map fun e => if e.hasPassphrase then e.strip else e
  strippedPassphraseLabels := (entries.filter KeyEntry.hasPassphrase).map KeyEntry.label

section Load

variable [PyUnicode]

/-- `int(envelope.get("version", 1))`. -/
def versionOf (envelope : Json) : Except PyExc ℤ := do
  let version ← envelope.getD "version" (.int 1)
  version.toIntWithin

/-- `Keystore.load`. -/
def load (crypto : Crypto) (file : Option String) (passphrase : String) :
    Except Failure Keystore := do
  let envelope ← readFile file
  let key ← uncaught (envelopeKey crypto passphrase envelope)
  let opened ← uncaught (decrypt crypto key envelope.nonce envelope.ciphertext)
  match opened with
  | none => .error (.keystore .wrongPassphrase)
  | some plaintext => do
      let entries ← entriesOf plaintext
      let version ← uncaught (versionOf envelope.json)
      if version < 2 then .ok (migrate entries) else .ok { entries }

end Load

/-! ## The payload reads back -/

theorem keptPassphrase_val (passphrase : Passphrase) :
    keptPassphrase passphrase.1 = some passphrase := dif_neg passphrase.2

/-- An entry reads back. -/
theorem entryFromDict_entryToDict (e : KeyEntry) : entryFromDict (entryToDict e).json = .ok e := by
  cases e with
  | raw key => rfl
  | hd key =>
      obtain ⟨label, mnemonic, passphrase⟩ := key
      cases passphrase with
      | none => rfl
      | some passphrase =>
          have hkept := keptPassphrase_val passphrase
          show (Except.ok (KeyEntry.hd
            { label, mnemonic, passphrase := keptPassphrase passphrase.1 }) : Except Failure _) = _
          rw [hkept]

theorem entryToDict_regular (e : KeyEntry) : (entryToDict e).Regular := by
  cases e with
  | raw key =>
      have hkeys : ["kind", "label", "chain", "secret"].Nodup := by decide
      exact ⟨hkeys, trivial, trivial, trivial, trivial, trivial⟩
  | hd key =>
      have hkeys : ["kind", "label", "mnemonic", "passphrase"].Nodup := by decide
      obtain ⟨label, mnemonic, passphrase⟩ := key
      cases passphrase with
      | none => exact ⟨hkeys, trivial, trivial, trivial, trivial, trivial⟩
      | some passphrase => exact ⟨hkeys, trivial, trivial, trivial, trivial, trivial⟩

theorem regularItems_map (entries : List KeyEntry) :
    RegularItems (entries.map entryToDict) := by
  induction entries with
  | nil => trivial
  | cons e l ih => exact ⟨entryToDict_regular e, ih⟩

theorem mapM_entryFromDict (entries : List KeyEntry) :
    (jsonItems (entries.map entryToDict)).mapM entryFromDict = .ok entries := by
  induction entries with
  | nil => rfl
  | cons e l ih =>
      rw [List.map_cons, jsonItems, List.mapM_cons, entryFromDict_entryToDict, ih]
      rfl

/-- **The payload reads back** as the entries. -/
theorem entriesOf_plaintextOf (entries : List KeyEntry) :
    entriesOf (plaintextOf entries) = .ok entries := by
  have hregular : (payloadOf entries).Regular :=
    ⟨List.nodup_singleton _, regularItems_map entries, trivial⟩
  have hloads : (decodeUtf8 (plaintextOf entries)).bind loads = some (payloadOf entries).json := by
    rw [plaintextOf, decodeUtf8_encodeUtf8, Option.bind_some, loads_dumps none hregular]
  rw [entriesOf, hloads]
  exact mapM_entryFromDict entries

/-! ## The envelope reads back -/

theorem envelopeOf_regular {version n : ℤ} (hversion : InDigits version) (hn : InDigits n)
    (salt nonce ciphertext : Bytes) : (envelopeOf version n salt nonce ciphertext).Regular := by
  have hkeys : ["version", "kdf", "kdf_params", "salt", "nonce", "ciphertext"].Nodup := by decide
  have hparams : ["n", "r", "p", "length"].Nodup := by decide
  have hr : InDigits scryptR := by decide +kernel
  have hp : InDigits scryptP := by decide +kernel
  have hlength : InDigits keyLen := by decide +kernel
  exact ⟨hkeys, hversion, trivial, ⟨hparams, hn, hr, hp, hlength, trivial⟩, trivial, trivial,
    trivial, trivial⟩

/-- A text field that holds an encoding. -/
theorem b64Field_encode {json : Json} {k : String} {b : Bytes}
    (h : json.getItem k = .ok (.str (Base64.encode b))) : b64Field json k = .ok b := by
  unfold b64Field
  rw [h, ok_bind]
  simp only [Base64.decode_encode]

/-- The envelope of a version reads back. -/
theorem readFile_envelopeOf {version n : ℤ} (hversion : InDigits version) (hn : InDigits n)
    (salt nonce ciphertext : Bytes) :
    readFile (some (dumps (some 2) (envelopeOf version n salt nonce ciphertext)))
      = .ok
        { json := (envelopeOf version n salt nonce ciphertext).json
          salt, nonce, ciphertext
          params := .obj [("n", .int n), ("r", .int scryptR), ("p", .int scryptP),
            ("length", .int keyLen)] } := by
  have hloads := loads_dumps (some 2) (envelopeOf_regular hversion hn salt nonce ciphertext)
  rw [readFile]
  simp only [hloads]
  rw [readEnvelope, b64Field_encode (b := salt) rfl, b64Field_encode (b := nonce) rfl,
    b64Field_encode (b := ciphertext) rfl]
  rfl

/-! ## What loading returns -/

section Load

variable [PyUnicode] {crypto : Crypto} {passphrase : String}

omit [PyUnicode] in
theorem uncaught_eq_ok {α : Type} {x : Except PyExc α} {a : α} (h : uncaught x = .ok a) :
    x = .ok a := by
  cases x with
  | error e => cases h
  | ok b =>
      cases h
      rfl

/-- A load that returns read, derived, opened and converted everything. -/
theorem load_ok {file : Option String} {loaded : Keystore}
    (h : load crypto file passphrase = .ok loaded) :
    ∃ envelope key plaintext entries version, readFile file = .ok envelope
      ∧ envelopeKey crypto passphrase envelope = .ok key
      ∧ decrypt crypto key envelope.nonce envelope.ciphertext = .ok (some plaintext)
      ∧ entriesOf plaintext = .ok entries ∧ versionOf envelope.json = .ok version
      ∧ loaded = if version < 2 then migrate entries else { entries } := by
  obtain ⟨envelope, hfile, h⟩ := bind_eq_ok h
  obtain ⟨key, hkey, h⟩ := bind_eq_ok h
  obtain ⟨opened, hopened, h⟩ := bind_eq_ok h
  cases opened with
  | none => cases h
  | some plaintext =>
      obtain ⟨entries, hentries, h⟩ := bind_eq_ok h
      obtain ⟨version, hversion, h⟩ := bind_eq_ok h
      refine ⟨envelope, key, plaintext, entries, version, hfile, uncaught_eq_ok hkey,
        uncaught_eq_ok hopened, hentries, uncaught_eq_ok hversion, ?_⟩
      by_cases hold : version < 2
      · rw [if_pos hold] at h ⊢
        exact (Except.ok.inj h).symm
      · rw [if_neg hold] at h ⊢
        exact (Except.ok.inj h).symm

/-- What an envelope whose payload opens loads as. -/
theorem load_opened {file : Option String} {envelope : Envelope} {key plaintext : Bytes}
    {entries : List KeyEntry} {version : ℤ} (hfile : readFile file = .ok envelope)
    (hkey : envelopeKey crypto passphrase envelope = .ok key)
    (hopened : decrypt crypto key envelope.nonce envelope.ciphertext = .ok (some plaintext))
    (hentries : entriesOf plaintext = .ok entries)
    (hversion : versionOf envelope.json = .ok version) :
    load crypto file passphrase = .ok (if version < 2 then migrate entries else { entries }) := by
  unfold load
  rw [hfile, ok_bind, hkey]
  show (uncaught (decrypt crypto key envelope.nonce envelope.ciphertext) >>= _) = _
  rw [hopened]
  show (entriesOf plaintext >>= _) = _
  rw [hentries, ok_bind, hversion]
  show (if version < 2 then Except.ok (migrate entries) else .ok { entries }) = _
  by_cases hold : version < 2
  · rw [if_pos hold, if_pos hold]
  · rw [if_neg hold, if_neg hold]

/-- One whose file cannot be read raises that. -/
theorem load_unreadable {file : Option String} {e : Failure} (hfile : readFile file = .error e) :
    load crypto file passphrase = .error e := by
  unfold load
  rw [hfile]
  rfl

/-- One whose payload does not open is a wrong passphrase. -/
theorem load_refused {file : Option String} {envelope : Envelope} {key : Bytes}
    (hfile : readFile file = .ok envelope)
    (hkey : envelopeKey crypto passphrase envelope = .ok key)
    (hopened : decrypt crypto key envelope.nonce envelope.ciphertext = .ok none) :
    load crypto file passphrase = .error (.keystore .wrongPassphrase) := by
  unfold load
  rw [hfile, ok_bind, hkey]
  show (uncaught (decrypt crypto key envelope.nonce envelope.ciphertext) >>= _) = _
  rw [hopened]
  rfl

omit [PyUnicode] in
theorem readFile_text {text : String} {json : Json} (h : loads text = some json) :
    readFile (some text) = (readEnvelope json).mapError unreadable := by
  rw [readFile]
  simp only [h]

/-! ## An ideal cipher -/

omit [PyUnicode]

/-- Of all keys, nonces and ciphertexts, only the one sealing opens, to what was
    sealed. -/
structure Ideal (crypto : Crypto) (key nonce plaintext : Bytes) : Prop where
  opens : crypto.decryptWith key nonce (crypto.encryptWith key nonce plaintext) = some plaintext
  authentic : ∀ key' nonce' ciphertext plaintext',
    crypto.decryptWith key' nonce' ciphertext = some plaintext' →
    key' = key ∧ nonce' = nonce ∧ ciphertext = crypto.encryptWith key nonce plaintext

/-- Whatever opens is what was sealed. -/
theorem Ideal.plaintext_eq {key nonce plaintext : Bytes} (h : Ideal crypto key nonce plaintext)
    {key' nonce' ciphertext plaintext' : Bytes}
    (hopened : decrypt crypto key' nonce' ciphertext = .ok (some plaintext')) :
    plaintext' = plaintext := by
  rw [decrypt] at hopened
  by_cases hfits : Fits key' nonce'
  · rw [if_pos hfits] at hopened
    have hopens := Except.ok.inj hopened
    obtain ⟨rfl, rfl, rfl⟩ := h.authentic _ _ _ _ hopens
    rw [h.opens] at hopens
    exact (Option.some.inj hopens).symm
  · rw [if_neg hfits] at hopened
    cases hopened

/-- A modified envelope in a form that can be used: its texts are texts, the KDF
    and the cipher take the parameters, and its version is a number. -/
structure Usable [PyUnicode] (crypto : Crypto) (passphrase : String)
    (fields : List (String × Json)) : Prop where
  texts : ∀ k ∈ ["salt", "nonce", "ciphertext"], ∀ v, getKey fields k = some v → ∃ s, v = .str s
  key : ∀ envelope, readEnvelope (.obj fields) = .ok envelope →
    ∃ key, envelopeKey crypto passphrase envelope = .ok key ∧ Fits key envelope.nonce
  version : ∃ version, versionOf (.obj fields) = .ok version

/-- Reading a text field fails only as an unreadable keystore. -/
theorem b64Field_error {fields : List (String × Json)} {k : String} {e : PyExc}
    (htext : ∀ v, getKey fields k = some v → ∃ s, v = .str s)
    (h : b64Field (.obj fields) k = .error e) : e = .keyError ∨ e = .valueError := by
  unfold b64Field Json.getItem item at h
  cases hv : getKey fields k with
  | none =>
      simp only [hv] at h
      cases h
      exact Or.inl rfl
  | some v =>
      obtain ⟨s, rfl⟩ := htext v hv
      simp only [hv, orKeyError, ok_bind] at h
      cases hs : Base64.decode s with
      | none =>
          simp only [hs] at h
          cases h
          exact Or.inr rfl
      | some b =>
          simp only [hs] at h
          cases h

/-- So does reading the envelope. -/
theorem readEnvelope_error {fields : List (String × Json)} {e : PyExc}
    (htexts : ∀ k ∈ ["salt", "nonce", "ciphertext"], ∀ v, getKey fields k = some v →
      ∃ s, v = .str s)
    (h : readEnvelope (.obj fields) = .error e) : e = .keyError ∨ e = .valueError := by
  rcases bind_eq_error h with h | ⟨salt, -, h⟩
  · exact b64Field_error (htexts "salt" (by decide)) h
  rcases bind_eq_error h with h | ⟨nonce, -, h⟩
  · exact b64Field_error (htexts "nonce" (by decide)) h
  rcases bind_eq_error h with h | ⟨ciphertext, -, h⟩
  · exact b64Field_error (htexts "ciphertext" (by decide)) h
  rcases bind_eq_error h with h | ⟨params, -, h⟩
  · unfold Json.getItem item at h
    cases hv : getKey fields "kdf_params" with
    | none =>
        simp only [hv] at h
        cases h
        exact Or.inl rfl
    | some v =>
        simp only [hv] at h
        cases h
  · cases h

theorem readEnvelope_json {json : Json} {envelope : Envelope}
    (h : readEnvelope json = .ok envelope) : envelope.json = json := by
  obtain ⟨salt, -, h⟩ := bind_eq_ok h
  obtain ⟨nonce, -, h⟩ := bind_eq_ok h
  obtain ⟨ciphertext, -, h⟩ := bind_eq_ok h
  obtain ⟨params, -, h⟩ := bind_eq_ok h
  cases h
  rfl

/-- An envelope of a version around a payload that was sealed loads, by that
    version. -/
theorem load_envelopeOf [PyUnicode] {entries : List KeyEntry} {n : ℤ} {salt nonce key : Bytes}
    (hkey : deriveKey crypto passphrase salt (.int n) (.int scryptR) (.int scryptP) (.int keyLen)
      = .ok key)
    (hfits : Fits key nonce)
    (hopens : crypto.decryptWith key nonce (crypto.encryptWith key nonce (plaintextOf entries))
      = some (plaintextOf entries))
    (hn : InDigits n) {version : ℤ} (hversion : InDigits version) :
    load crypto (some (dumps (some 2) (envelopeOf version n salt nonce
        (crypto.encryptWith key nonce (plaintextOf entries))))) passphrase
      = .ok (if version < 2 then migrate entries else { entries }) := by
  refine load_opened (readFile_envelopeOf hversion hn salt nonce _) hkey ?_
    (entriesOf_plaintextOf entries) rfl
  rw [decrypt, if_pos hfits, hopens]

/-- A file that is read was read as an envelope. -/
theorem readEnvelope_of_readFile {text : String} {json : Json} {envelope : Envelope}
    (htext : loads text = some json) (hfile : readFile (some text) = .ok envelope) :
    readEnvelope json = .ok envelope := by
  rw [readFile_text htext] at hfile
  cases hr : readEnvelope json with
  | error e =>
      rw [hr] at hfile
      cases hfile
  | ok envelope' =>
      rw [hr] at hfile
      cases hfile
      rfl

/-- Nothing but what was sealed is ever returned. -/
theorem load_sealed [PyUnicode] {key nonce : Bytes} {entries : List KeyEntry} {text : String}
    {fields : List (String × Json)} {loaded : Keystore}
    (hideal : Ideal crypto key nonce (plaintextOf entries))
    (htext : loads text = some (.obj fields))
    (hload : load crypto (some text) passphrase = .ok loaded) :
    ∃ version, versionOf (.obj fields) = .ok version
      ∧ (2 ≤ version → loaded = { entries := entries })
      ∧ (version < 2 → loaded = migrate entries) := by
  obtain ⟨envelope, key', plaintext, found, version, hfile, -, hopened, hentries, hversion, rfl⟩ :=
    load_ok hload
  rw [hideal.plaintext_eq hopened, entriesOf_plaintextOf] at hentries
  cases hentries
  rw [readEnvelope_json (readEnvelope_of_readFile htext hfile)] at hversion
  exact ⟨version, hversion, fun h => if_neg (by omega), fun h => if_pos h⟩

/-- An envelope in a form that can be used is loaded or a `KeystoreError`. -/
theorem load_usable [PyUnicode] {key nonce : Bytes} {entries : List KeyEntry} {text : String}
    {fields : List (String × Json)} (hideal : Ideal crypto key nonce (plaintextOf entries))
    (htext : loads text = some (.obj fields)) (husable : Usable crypto passphrase fields) :
    (∃ loaded, load crypto (some text) passphrase = .ok loaded)
      ∨ ∃ e, load crypto (some text) passphrase = .error (.keystore e) := by
  have hfile := readFile_text htext
  cases hread : readEnvelope (.obj fields) with
  | error e =>
      rw [hread] at hfile
      refine Or.inr ?_
      rcases readEnvelope_error husable.texts hread with rfl | rfl
      · exact ⟨_, load_unreadable hfile⟩
      · exact ⟨_, load_unreadable hfile⟩
  | ok envelope =>
      rw [hread] at hfile
      obtain ⟨key', hkey', hfits'⟩ := husable.key envelope hread
      obtain ⟨version, hversion⟩ := husable.version
      rw [← readEnvelope_json hread] at hversion
      have hopened : decrypt crypto key' envelope.nonce envelope.ciphertext
          = .ok (crypto.decryptWith key' envelope.nonce envelope.ciphertext) := if_pos hfits'
      cases hplain : crypto.decryptWith key' envelope.nonce envelope.ciphertext with
      | none =>
          rw [hplain] at hopened
          exact Or.inr ⟨_, load_refused hfile hkey' hopened⟩
      | some plaintext =>
          rw [hplain] at hopened
          rw [hideal.plaintext_eq hopened] at hopened
          exact Or.inl ⟨_, load_opened hfile hkey' hopened (entriesOf_plaintextOf _) hversion⟩

/-- **Whatever is changed around the payload**: the saved file itself loads as
    the entries; of a modified envelope nothing else is ever returned, but that
    below version 2 the passphrases are dropped and their labels reported; and
    in a usable form it returns or is a `KeystoreError`. -/
theorem load_modified [PyUnicode] {keystore : Keystore} {n : ℤ} {salt nonce key : Bytes}
    {file : String}
    (hkey : deriveKey crypto passphrase salt (.int n) (.int scryptR) (.int scryptP) (.int keyLen)
      = .ok key)
    (hsave : save crypto keystore passphrase n salt nonce = .ok file)
    (hideal : Ideal crypto key nonce (plaintextOf keystore.entries)) :
    load crypto (some file) passphrase = .ok { entries := keystore.entries }
    ∧ ∀ text fields, loads text = some (.obj fields) →
      (∀ loaded, load crypto (some text) passphrase = .ok loaded →
        ∃ version, versionOf (.obj fields) = .ok version
          ∧ (2 ≤ version → loaded = { entries := keystore.entries })
          ∧ (version < 2 → loaded = migrate keystore.entries))
      ∧ (Usable crypto passphrase fields →
        (∃ loaded, load crypto (some text) passphrase = .ok loaded)
          ∨ ∃ e, load crypto (some text) passphrase = .error (.keystore e)) := by
  have hfits : Fits key nonce := by
    rw [save, hkey, ok_bind, encrypt] at hsave
    by_contra hfits
    rw [if_neg hfits] at hsave
    cases hsave
  refine ⟨?_, fun text fields htext => ⟨fun loaded hload => ?_, fun husable => ?_⟩⟩
  · have hversion : InDigits envelopeVersion := by decide +kernel
    rw [save, hkey, ok_bind, encrypt, if_pos hfits, ok_bind] at hsave
    by_cases hn : InDigits n
    · rw [if_pos hn] at hsave
      cases hsave
      exact load_envelopeOf hkey hfits hideal.opens hn hversion
    · rw [if_neg hn] at hsave
      cases hsave
  · exact load_sealed hideal htext hload
  · exact load_usable hideal htext husable

end Load

/-! ## A seed with a passphrase -/

/-- One HD entry, with the passphrase `x`. -/
def savedKeystore : Keystore where
  entries := [.hd { label := "a", mnemonic := "zoo", passphrase := keptPassphrase "x" }]

def savedSalt : Bytes := (List.range 16).map UInt8.ofNat
def savedNonce : Bytes := (List.range 12).map UInt8.ofNat

/-- What scrypt derives from the passphrase `pw` with 2^15 rounds. -/
def savedKey : Bytes :=
  beBytes 32 0x7765d6c0d0cd8b60298d1ada5481c928bfc0280e153df6365663c50d9143fb0f

/-- What AES-256-GCM makes of the payload. -/
def savedCiphertext : Bytes :=
  beBytes 36 0xf56058f6c41261de5d211d6223a9ee44746f1413182cd280b4ff3e7bde3382946ffca5e1
    ++ beBytes 36 0x54d21d217f2b7f6c42e953c67b8f41bed515fb6e688e17527e704488fd3493df8cfe2d62
    ++ beBytes 25 0xd4a7b4329b5cdc2d252218bc38b36551a28b9225349d61d639

/-- The library on these inputs. -/
def savedCrypto : Crypto where
  scrypt passphrase salt length n r p :=
    if passphrase = encodeUtf8 "pw" ∧ salt = savedSalt ∧ length.asInt = some 32
        ∧ n.asInt = some 32768 ∧ r.asInt = some 8 ∧ p.asInt = some 1 then .ok savedKey
    else .error .valueError
  encryptWith key nonce plaintext :=
    if key = savedKey ∧ nonce = savedNonce ∧ plaintext = plaintextOf savedKeystore.entries then
      savedCiphertext
    else []
  decryptWith key nonce ciphertext :=
    if key = savedKey ∧ nonce = savedNonce ∧ ciphertext = savedCiphertext then
      some (plaintextOf savedKeystore.entries)
    else none

theorem savedCrypto_encryptWith :
    savedCrypto.encryptWith savedKey savedNonce (plaintextOf savedKeystore.entries)
      = savedCiphertext := by
  simp only [savedCrypto, and_self, if_true]

theorem savedCrypto_ideal :
    Ideal savedCrypto savedKey savedNonce (plaintextOf savedKeystore.entries) := by
  constructor
  · rw [savedCrypto_encryptWith]
    simp only [savedCrypto, and_self, if_true]
  · intro key' nonce' ciphertext plaintext' h
    rw [savedCrypto_encryptWith]
    by_cases hsaved : key' = savedKey ∧ nonce' = savedNonce ∧ ciphertext = savedCiphertext
    · exact hsaved
    · simp only [savedCrypto, if_neg hsaved] at h
      cases h

theorem savedCrypto_key :
    deriveKey savedCrypto "pw" savedSalt (.int 32768) (.int scryptR) (.int scryptP) (.int keyLen)
      = .ok savedKey := by
  simp only [deriveKey, savedCrypto, Json.asInt, scryptR, scryptP, keyLen, and_self, if_true]

theorem savedKey_fits : Fits savedKey savedNonce := by decide +kernel

/-- The file of these inputs. -/
theorem savedCrypto_save :
    save savedCrypto savedKeystore "pw" 32768 savedSalt savedNonce
      = .ok (dumps (some 2) (envelopeOf envelopeVersion 32768 savedSalt savedNonce
        savedCiphertext)) := by
  have hn : InDigits 32768 := by decide +kernel
  rw [save, savedCrypto_key, ok_bind, encrypt, if_pos savedKey_fits, ok_bind,
    savedCrypto_encryptWith, if_pos hn]

/-- The file as it was saved loads. -/
theorem load_modified_saved :
    let _ : PyUnicode := asciiUnicode
    ∃ file, save savedCrypto savedKeystore "pw" 32768 savedSalt savedNonce = .ok file
      ∧ load savedCrypto (some file) "pw" = .ok { entries := savedKeystore.entries } := by
  let _ : PyUnicode := asciiUnicode
  intro _
  exact ⟨_, savedCrypto_save,
    (load_modified savedCrypto_key savedCrypto_save savedCrypto_ideal).1⟩

/-- With its version changed to 1 it loads without the passphrase. -/
theorem load_downgraded :
    let _ : PyUnicode := asciiUnicode
    let text := dumps (some 2) (envelopeOf 1 32768 savedSalt savedNonce savedCiphertext)
    save savedCrypto savedKeystore "pw" 32768 savedSalt savedNonce
        = .ok (dumps (some 2) (envelopeOf 2 32768 savedSalt savedNonce savedCiphertext))
      ∧ load savedCrypto (some text) "pw"
        = .ok
          { entries := [.hd { label := "a", mnemonic := "zoo" }]
            strippedPassphraseLabels := ["a"] }
      ∧ savedKeystore.entries ≠ [.hd { label := "a", mnemonic := "zoo" }] := by
  let _ : PyUnicode := asciiUnicode
  intro _ text
  have hload := load_envelopeOf savedCrypto_key savedKey_fits savedCrypto_ideal.opens
    (show InDigits 32768 by decide +kernel) (show InDigits 1 by decide +kernel)
  rw [savedCrypto_encryptWith] at hload
  exact ⟨savedCrypto_save, hload, by decide⟩

end SwapsackKeystore
