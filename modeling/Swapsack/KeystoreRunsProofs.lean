import Mathlib.Data.List.Basic
import Swapsack.KeystoreProofs

/-! # Keystores over whole runs

    A wallet adds keys to its keystores, saves one of them to the file and loads
    a keystore from it, in any order.  What the file holds is kept beside the
    wallet, and every load is compared with it.

    * `run_invariant`, `run_related` — what every admissible step of a run keeps, or
      puts between its two states, the whole run does;
    * `addHd_run`, `addRaw_run` — what an addition does, also when it is refused;
    * `migrate_records` — what becomes of the records of a version-1 file;
    * `step_effect` — what one operation does to the keystores and the file;
    * `run_keeps` — nothing is lost over a run but the passphrases of version 1. -/

/-! ## Runs of a step function -/

namespace Runs

variable {σ ω : Type}

/-- Every operation is admissible in the state it is reached in. -/
def Admissible (step : σ → ω → σ) (ok : σ → ω → Prop) : σ → List ω → Prop
  | _, [] => True
  | s, op :: ops => ok s op ∧ Admissible step ok (step s op) ops

def run (step : σ → ω → σ) (s : σ) (ops : List ω) : σ := ops.foldl step s

variable {step : σ → ω → σ} {ok : σ → ω → Prop}

theorem run_append (s : σ) (ops after : List ω) :
    run step s (ops ++ after) = run step (run step s ops) after := List.foldl_append

/-- **A run and its continuation** are admissible one behind the other. -/
theorem admissible_append {s : σ} {ops after : List ω} :
    Admissible step ok s (ops ++ after)
      ↔ Admissible step ok s ops ∧ Admissible step ok (run step s ops) after := by
  induction ops generalizing s with
  | nil => exact ⟨fun h => ⟨trivial, h⟩, fun h => h.2⟩
  | cons op l ih =>
      show _ ∧ Admissible step ok (step s op) (l ++ after) ↔ (_ ∧ _) ∧ _
      rw [ih, and_assoc]
      rfl

/-- **An invariant of the steps** is one of the runs. -/
theorem run_invariant {I : σ → Prop} (hstep : ∀ s op, I s → ok s op → I (step s op)) {s : σ}
    {ops : List ω} (hs : I s) (hops : Admissible step ok s ops) : I (run step s ops) := by
  induction ops generalizing s with
  | nil => exact hs
  | cons op l ih => exact ih (hstep s op hs hops.1) hops.2

/-- **A relation of the steps** is one of the runs. -/
theorem run_related {I : σ → Prop} {R : σ → σ → Prop}
    (hinvariant : ∀ s op, I s → ok s op → I (step s op)) (hrefl : ∀ s, R s s)
    (htrans : ∀ {a b c}, R a b → R b c → R a c) (hstep : ∀ s op, I s → ok s op → R s (step s op))
    {s : σ} {ops : List ω} (hs : I s) (hops : Admissible step ok s ops) :
    R s (run step s ops) := by
  induction ops generalizing s with
  | nil => exact hrefl s
  | cons op l ih =>
      have hfirst := hstep s op hs hops.1
      exact htrans hfirst (ih (hinvariant s op hs hops.1) hops.2)

end Runs

namespace SwapsackKeystore

open ListKit ByteString PyText PyJson JsonText

/-! ## Additions -/

/-- `KeystoreError(f"duplicate key label {label!r}")`. -/
structure DuplicateLabel where
  label : String
deriving DecidableEq

def Keystore.labels (keystore : Keystore) : List String := keystore.entries.map KeyEntry.label

/-- A keystore with more entries behind its own. -/
def Keystore.extend (keystore : Keystore) (added : List KeyEntry) : Keystore :=
  { keystore with entries := keystore.entries ++ added }

/-- `self.entries.append(entry)`. -/
def Keystore.append (keystore : Keystore) (entry : KeyEntry) : Keystore := keystore.extend [entry]

theorem Keystore.extend_nil (keystore : Keystore) : keystore.extend [] = keystore := by
  rw [extend, List.append_nil]

theorem Keystore.extend_extend (keystore : Keystore) (added more : List KeyEntry) :
    (keystore.extend added).extend more = keystore.extend (added ++ more) := by
  rw [extend, extend, extend, List.append_assoc]

/-- A method of a keystore; what it did stays done when it raises. -/
abbrev Method := EStateM DuplicateLabel Keystore

/-- `_require_unique`. -/
def requireUnique (label : String) : Method Unit := do
  if label ∈ (← get).labels then throw ⟨label⟩

/-- `add_hd`. -/
def addHd (label mnemonic : String) (passphrase : Option String) : Method HdKey := do
  requireUnique label
  let entry : HdKey := { label, mnemonic, passphrase := passphrase.bind keptPassphrase }
  modify (·.append (.hd entry))
  return entry

/-- `add_raw`. -/
def addRaw (label chain secret : String) : Method RawKey := do
  requireUnique label
  let entry : RawKey := { label, chain, secret }
  modify (·.append (.raw entry))
  return entry

/-- The keystore behind a method. -/
def after {α : Type} (method : Method α) (keystore : Keystore) : Keystore :=
  match method.run keystore with
  | .ok _ keystore => keystore
  | .error _ keystore => keystore

/-- A keystore with an entry, if its label is new. -/
def Keystore.add (keystore : Keystore) (entry : KeyEntry) : Keystore :=
  if entry.label ∈ keystore.labels then keystore else keystore.append entry

/-- What follows the check runs when the label is new. -/
theorem requireUnique_bind {α : Type} (label : String) (rest : Unit → Method α)
    (keystore : Keystore) :
    (requireUnique label >>= rest).run keystore
      = if label ∈ keystore.labels then .error ⟨label⟩ keystore else (rest ()).run keystore := by
  show EStateM.bind (if label ∈ keystore.labels then throw ⟨label⟩ else pure () : Method Unit)
    rest keystore = _
  by_cases h : label ∈ keystore.labels
  · rw [if_pos h, if_pos h]
    rfl
  · rw [if_neg h, if_neg h]
    rfl

/-- **An HD key is added** behind the others, or refused with the entries as
    they were. -/
theorem addHd_run (label mnemonic : String) (passphrase : Option String) (keystore : Keystore) :
    (addHd label mnemonic passphrase).run keystore
      = if label ∈ keystore.labels then .error ⟨label⟩ keystore
        else .ok { label, mnemonic, passphrase := passphrase.bind keptPassphrase }
          (keystore.append
            (.hd { label, mnemonic, passphrase := passphrase.bind keptPassphrase })) := by
  rw [addHd, requireUnique_bind]
  rfl

/-- **So is a raw key.** -/
theorem addRaw_run (label chain secret : String) (keystore : Keystore) :
    (addRaw label chain secret).run keystore
      = if label ∈ keystore.labels then .error ⟨label⟩ keystore
        else .ok { label, chain, secret } (keystore.append (.raw { label, chain, secret })) := by
  rw [addRaw, requireUnique_bind]
  rfl

/-- What an addition leaves behind. -/
theorem after_addHd (label mnemonic : String) (passphrase : Option String)
    (keystore : Keystore) :
    after (addHd label mnemonic passphrase) keystore
      = keystore.add
        (.hd { label, mnemonic, passphrase := passphrase.bind keptPassphrase }) := by
  rw [after, addHd_run]
  show _ = if label ∈ keystore.labels then keystore else _
  by_cases h : label ∈ keystore.labels
  · rw [if_pos h, if_pos h]
  · rw [if_neg h, if_neg h]

theorem after_addRaw (label chain secret : String) (keystore : Keystore) :
    after (addRaw label chain secret) keystore
      = keystore.add (.raw { label, chain, secret }) := by
  rw [after, addRaw_run]
  show _ = if label ∈ keystore.labels then keystore else _
  by_cases h : label ∈ keystore.labels
  · rw [if_pos h, if_pos h]
  · rw [if_neg h, if_neg h]

/-- Labels stay distinct. -/
theorem labels_add {keystore : Keystore} (h : keystore.labels.Nodup) (entry : KeyEntry) :
    (keystore.add entry).labels.Nodup := by
  rw [Keystore.add]
  by_cases hlabel : entry.label ∈ keystore.labels
  · rw [if_pos hlabel]
    exact h
  · have hlabels : (keystore.append entry).labels = keystore.labels ++ [entry.label] :=
      List.map_append
    rw [if_neg hlabel, hlabels]
    exact h.append (List.nodup_singleton _) (by simpa using hlabel)

/-! ## The records of a version-1 file -/

/-- An entry as a version-1 wallet recorded it: a passphrase may be left out, be
    null, or be a text. -/
inductive Record where
  | hd (label mnemonic : String) (passphrase : Option (Option String))
  | raw (label chain secret : String)
deriving DecidableEq

def textOrNull : Option String → Json
  | some s => .str s
  | none => .null

/-- An object that holds a record, among whatever else it holds. -/
def Record.Holds : Record → List (String × Json) → Prop
  | .hd label mnemonic passphrase, fields =>
      getKey fields "kind" = some (.str "hd") ∧ getKey fields "label" = some (.str label)
        ∧ getKey fields "mnemonic" = some (.str mnemonic)
        ∧ getKey fields "passphrase" = passphrase.map textOrNull
  | .raw label chain secret, fields =>
      getKey fields "kind" = some (.str "raw") ∧ getKey fields "label" = some (.str label)
        ∧ getKey fields "chain" = some (.str chain) ∧ getKey fields "secret" = some (.str secret)

def Record.label : Record → String
  | .hd label _ _ => label
  | .raw label _ _ => label

/-- The passphrase a record holds; an empty one is none. -/
def Record.passphrase : Record → Option Passphrase
  | .hd _ _ passphrase => passphrase.join.bind keptPassphrase
  | .raw _ _ _ => none

/-- What is read of a record. -/
def Record.entry : Record → KeyEntry
  | .hd label mnemonic passphrase =>
      .hd { label, mnemonic, passphrase := passphrase.join.bind keptPassphrase }
  | .raw label chain secret => .raw { label, chain, secret }

/-- A record without its passphrase. -/
def Record.bare : Record → KeyEntry
  | .hd label mnemonic _ => .hd { label, mnemonic }
  | .raw label chain secret => .raw { label, chain, secret }

/-- What a version-1 file with these records loads as. -/
def migrated (records : List Record) : Keystore where
  entries := records.map Record.bare
  strippedPassphraseLabels := (records.filter (·.passphrase.isSome)).map Record.label

/-- A record reads as its entry. -/
theorem entryFromDict_record {record : Record} {fields : List (String × Json)}
    (h : record.Holds fields) : entryFromDict (.obj fields) = .ok record.entry := by
  cases record with
  | hd label mnemonic passphrase =>
      obtain ⟨hkind, hlabel, hmnemonic, hpassphrase⟩ := h
      have hkept : passphraseOf (getKey fields "passphrase")
          = .ok (passphrase.join.bind keptPassphrase) := by
        rw [hpassphrase]
        rcases passphrase with _ | _ | s
        · rfl
        · rfl
        · rfl
      simp [entryFromDict, uncaught, textItem, Json.getField, Json.getItem, item, orKeyError,
        Json.isText, hkind, hlabel, hmnemonic, hkept, Except.mapError, Record.entry, Bind.bind,
        Except.bind]
  | raw label chain secret =>
      obtain ⟨hkind, hlabel, hchain, hsecret⟩ := h
      simp [entryFromDict, uncaught, textItem, Json.getField, Json.getItem, item, orKeyError,
        Json.isText, hkind, hlabel, hchain, hsecret, Except.mapError, Record.entry, Bind.bind,
        Except.bind]

/-- An entry has a passphrase when its record does, and migrates to the record
    without it. -/
theorem entry_hasPassphrase (record : Record) :
    record.entry.hasPassphrase = record.passphrase.isSome
      ∧ (if record.entry.hasPassphrase then record.entry.strip else record.entry)
        = record.bare := by
  cases record with
  | raw label chain secret => exact ⟨rfl, rfl⟩
  | hd label mnemonic passphrase =>
      refine ⟨rfl, ?_⟩
      show (if (passphrase.join.bind keptPassphrase).isSome then KeyEntry.hd { label, mnemonic }
        else KeyEntry.hd { label, mnemonic, passphrase := passphrase.join.bind keptPassphrase }) = _
      cases passphrase.join.bind keptPassphrase with
      | none => rfl
      | some kept => rfl

/-- **The migration of the records**: each loses its passphrase and nothing else,
    and the labels of those that had one are reported in their order. -/
theorem migrate_records (records : List Record) :
    migrate (records.map Record.entry) = migrated records := by
  have hentries : (records.map Record.entry).map (fun e => if e.hasPassphrase then e.strip else e)
      = records.map Record.bare := by
    rw [List.map_map]
    exact List.map_congr_left fun record _ => (entry_hasPassphrase record).2
  have hhas : KeyEntry.hasPassphrase ∘ Record.entry = fun record => record.passphrase.isSome :=
    funext fun record => (entry_hasPassphrase record).1
  have hlabel : KeyEntry.label ∘ Record.entry = Record.label := by
    funext record
    cases record with
    | hd label mnemonic passphrase => rfl
    | raw label chain secret => rfl
  rw [migrate, hentries, List.filter_map, hhas, List.map_map, hlabel, migrated]

theorem migrated_labels (records : List Record) :
    (migrated records).labels = records.map Record.label := by
  rw [Keystore.labels, migrated, List.map_map]
  refine List.map_congr_left fun record _ => ?_
  cases record with
  | hd label mnemonic passphrase => rfl
  | raw label chain secret => rfl

/-! ## The wallet and its file -/

/-- The keystores that are open, and the text of the file, if there is one. -/
structure Wallet where
  keystores : List Keystore
  file : Option String

/-- What is asked of the wallet; a salt and a nonce are drawn for every save. -/
inductive Op where
  | addHd (i : ℕ) (label mnemonic : String) (passphrase : Option String)
  | addRaw (i : ℕ) (label chain secret : String)
  | save (i : ℕ) (passphrase : String) (n : ℤ) (salt nonce : Bytes)
  | load (passphrase : String)

/-- What the file holds: nothing, the records of a version-1 wallet, or the
    entries of the last save. -/
inductive Stored where
  | nothing
  | old (passphrase : String) (records : List Record)
  | saved (passphrase : String) (entries : List KeyEntry)

/-- A wallet, and what its file holds. -/
structure World where
  wallet : Wallet
  stored : Stored

/-- The right passphrase. -/
def Stored.OpensWith : Stored → String → Prop
  | .nothing, _ => True
  | .old passphrase _, s => s = passphrase
  | .saved passphrase _, s => s = passphrase

/-- What loading should return. -/
def Stored.loaded : Stored → Option Keystore
  | .nothing => none
  | .old _ records => some (migrated records)
  | .saved _ entries => some { entries }

section Wallet

variable [PyUnicode] (crypto : Crypto)

/-- The keystore a save is of and the text it writes, if it does not raise. -/
def Wallet.written (wallet : Wallet) (i : ℕ) (passphrase : String) (n : ℤ) (salt nonce : Bytes) :
    Option (Keystore × String) :=
  wallet.keystores[i]?.bind fun keystore =>
    (save crypto keystore passphrase n salt nonce).toOption.map fun text => (keystore, text)

/-- What an operation does; one that raises leaves the file and the other
    keystores alone. -/
def Wallet.step (wallet : Wallet) : Op → Wallet
  | .addHd i label mnemonic passphrase =>
      { wallet with
        keystores := wallet.keystores.modify i (after (addHd label mnemonic passphrase)) }
  | .addRaw i label chain secret =>
      { wallet with keystores := wallet.keystores.modify i (after (addRaw label chain secret)) }
  | .save i passphrase n salt nonce =>
      match wallet.written crypto i passphrase n salt nonce with
      | some (_, text) => { wallet with file := some text }
      | none => wallet
  | .load passphrase =>
      match load crypto wallet.file passphrase with
      | .ok keystore => { wallet with keystores := wallet.keystores ++ [keystore] }
      | .error _ => wallet

/-- What the file holds behind an operation. -/
def World.store (world : World) : Op → Stored
  | .save i passphrase n salt nonce =>
      match world.wallet.written crypto i passphrase n salt nonce with
      | some (keystore, _) => .saved passphrase keystore.entries
      | none => world.stored
  | _ => world.stored

def World.step (world : World) (op : Op) : World where
  wallet := world.wallet.step crypto op
  stored := world.store crypto op

end Wallet

/-- Every load is with the right passphrase. -/
def RightPassphrase (world : World) : Op → Prop
  | .load passphrase => world.stored.OpensWith passphrase
  | _ => True

/-! ## The file is what it should be -/

section File

variable [PyUnicode] {crypto : Crypto}

/-- A file of a version-1 wallet: it opens with the passphrase, to these records. -/
def OldFile (crypto : Crypto) (passphrase text : String) (records : List Record) : Prop :=
  ∃ envelope key plaintext payload items version, readFile (some text) = .ok envelope
    ∧ envelopeKey crypto passphrase envelope = .ok key
    ∧ decrypt crypto key envelope.nonce envelope.ciphertext = .ok (some plaintext)
    ∧ (decodeUtf8 plaintext).bind loads = some payload
    ∧ payload.getItem "entries" = .ok (.arr items)
    ∧ List.Forall₂ (fun record item => ∃ fields, item = .obj fields ∧ record.Holds fields)
        records items
    ∧ versionOf envelope.json = .ok version ∧ version < 2

omit [PyUnicode] in
theorem mapM_records {records : List Record} {items : List Json}
    (h : List.Forall₂ (fun record item => ∃ fields, item = .obj fields ∧ record.Holds fields)
      records items) :
    items.mapM entryFromDict = .ok (records.map Record.entry) := by
  induction h with
  | nil => rfl
  | cons hhead htail ih =>
      obtain ⟨fields, rfl, hholds⟩ := hhead
      rw [List.mapM_cons, entryFromDict_record hholds, ih]
      rfl

/-- A version-1 file loads as its records, migrated. -/
theorem load_old {passphrase text : String} {records : List Record}
    (h : OldFile crypto passphrase text records) :
    load crypto (some text) passphrase = .ok (migrated records) := by
  obtain ⟨envelope, key, plaintext, payload, items, version, hfile, hkey, hopened, hpayload,
    hitems, hrecords, hversion, hold⟩ := h
  have hentries : entriesOf plaintext = .ok (records.map Record.entry) := by
    rw [entriesOf, hpayload]
    show (uncaught (payload.getItem "entries") >>= _) = _
    rw [hitems]
    exact mapM_records hrecords
  rw [load_opened hfile hkey hopened hentries hversion, if_pos hold, migrate_records]

/-- A cipher that opens what it sealed. -/
def OpensSealed (crypto : Crypto) : Prop :=
  ∀ key nonce plaintext, Fits key nonce →
    crypto.decryptWith key nonce (crypto.encryptWith key nonce plaintext) = some plaintext

/-- A file that was saved loads as what was saved. -/
theorem load_saved (hcipher : OpensSealed crypto) {keystore : Keystore} {passphrase text : String}
    {n : ℤ} {salt nonce : Bytes} (h : save crypto keystore passphrase n salt nonce = .ok text) :
    load crypto (some text) passphrase = .ok { entries := keystore.entries } := by
  obtain ⟨key, hkey, h⟩ := bind_eq_ok h
  obtain ⟨ciphertext, hciphertext, h⟩ := bind_eq_ok h
  rw [encrypt] at hciphertext
  -- a key that does not fit raises before anything is written
  by_cases hfits : Fits key nonce
  · have hversion : InDigits envelopeVersion := by decide +kernel
    rw [if_pos hfits] at hciphertext
    cases hciphertext
    by_cases hn : InDigits n
    · rw [if_pos hn] at h
      cases h
      exact load_envelopeOf hkey hfits (hcipher key nonce _ hfits) hn hversion
    · rw [if_neg hn] at h
      cases h
  · rw [if_neg hfits] at hciphertext
    cases hciphertext

omit [PyUnicode] in
theorem written_eq {wallet : Wallet} {i : ℕ} {passphrase text : String} {n : ℤ}
    {salt nonce : Bytes} {keystore : Keystore}
    (h : wallet.written crypto i passphrase n salt nonce = some (keystore, text)) :
    wallet.keystores[i]? = some keystore
      ∧ save crypto keystore passphrase n salt nonce = .ok text := by
  rw [Wallet.written] at h
  obtain ⟨keystore', hkeystore, h⟩ := Option.bind_eq_some_iff.mp h
  obtain ⟨text', htext, h⟩ := Option.map_eq_some_iff.mp h
  cases h
  refine ⟨hkeystore, ?_⟩
  cases hsave : save crypto keystore passphrase n salt nonce with
  | error e =>
      rw [hsave] at htext
      cases htext
  | ok saved =>
      rw [hsave] at htext
      cases htext
      rfl

/-! ## Operations -/

/-- **What an operation does** to the keystores and the file: an addition appends
    the very entry or changes nothing, a save changes no keystore, and a load
    opens one more keystore. -/
def Effect (crypto : Crypto) (world world' : World) : Op → Prop
  | .addHd i label mnemonic passphrase =>
      world'.wallet.file = world.wallet.file ∧ world'.stored = world.stored
        ∧ world'.wallet.keystores = world.wallet.keystores.modify i
          (·.add (.hd { label, mnemonic, passphrase := passphrase.bind keptPassphrase }))
  | .addRaw i label chain secret =>
      world'.wallet.file = world.wallet.file ∧ world'.stored = world.stored
        ∧ world'.wallet.keystores = world.wallet.keystores.modify i
          (·.add (.raw { label, chain, secret }))
  | .save i passphrase n salt nonce =>
      world'.wallet.keystores = world.wallet.keystores
        ∧ (world.wallet.written crypto i passphrase n salt nonce = none → world' = world)
        ∧ ∀ keystore text,
          world.wallet.written crypto i passphrase n salt nonce = some (keystore, text) →
          world'.wallet.file = some text ∧ world'.stored = .saved passphrase keystore.entries
  | .load _ =>
      world'.wallet.file = world.wallet.file ∧ world'.stored = world.stored
        ∧ world'.wallet.keystores = world.wallet.keystores ++ world.stored.loaded.toList

/-- Labels are distinct, in every keystore and in the file, and the file loads as
    what it holds. -/
structure Kept (crypto : Crypto) (world : World) : Prop where
  labels : ∀ keystore ∈ world.wallet.keystores, keystore.labels.Nodup
  storedLabels : ∀ keystore, world.stored.loaded = some keystore → keystore.labels.Nodup
  reads : ∀ passphrase, world.stored.OpensWith passphrase →
    (load crypto world.wallet.file passphrase).toOption = world.stored.loaded

/-- A save leaves the keystores as they are, and the file unless it goes well. -/
theorem step_save (world : World) (i : ℕ) (passphrase : String) (n : ℤ) (salt nonce : Bytes) :
    Effect crypto world (world.step crypto (.save i passphrase n salt nonce))
      (.save i passphrase n salt nonce) := by
  cases hwritten : world.wallet.written crypto i passphrase n salt nonce with
  | none =>
      have hsame : world.step crypto (.save i passphrase n salt nonce) = world := by
        rw [World.step, Wallet.step, World.store]
        simp only [hwritten]
      rw [hsame]
      refine ⟨rfl, fun _ => rfl, fun keystore text h => ?_⟩
      rw [hwritten] at h
      cases h
  | some saved =>
      obtain ⟨keystore, text⟩ := saved
      have hstep : world.step crypto (.save i passphrase n salt nonce)
          = { wallet := { world.wallet with file := some text }
              stored := .saved passphrase keystore.entries } := by
        rw [World.step, Wallet.step, World.store]
        simp only [hwritten]
      rw [hstep]
      refine ⟨rfl, fun h => ?_, fun keystore' text' h => ?_⟩
      · rw [hwritten] at h
        cases h
      · rw [hwritten] at h
        cases h
        exact ⟨rfl, rfl⟩

/-- What loading returns is opened beside the other keystores. -/
theorem step_load (wallet : Wallet) (passphrase : String) :
    wallet.step crypto (.load passphrase)
      = ⟨wallet.keystores ++ (load crypto wallet.file passphrase).toOption.toList,
        wallet.file⟩ := by
  rw [Wallet.step]
  cases load crypto wallet.file passphrase with
  | error e =>
      show wallet = ⟨wallet.keystores ++ [], wallet.file⟩
      rw [List.append_nil]
  | ok keystore => rfl

/-- **One operation**, in a world that was kept. -/
theorem step_effect {world : World} (hkept : Kept crypto world) {op : Op}
    (hright : RightPassphrase world op) : Effect crypto world (world.step crypto op) op := by
  cases op with
  | addHd i label mnemonic passphrase =>
      have hadd := funext (after_addHd label mnemonic passphrase)
      refine ⟨rfl, rfl, ?_⟩
      show world.wallet.keystores.modify i (after (addHd label mnemonic passphrase)) = _
      rw [hadd]
  | addRaw i label chain secret =>
      have hadd := funext (after_addRaw label chain secret)
      refine ⟨rfl, rfl, ?_⟩
      show world.wallet.keystores.modify i (after (addRaw label chain secret)) = _
      rw [hadd]
  | save i passphrase n salt nonce => exact step_save world i passphrase n salt nonce
  | load passphrase =>
      have hwallet := @step_load _ crypto world.wallet passphrase
      rw [hkept.reads passphrase hright] at hwallet
      have hfile := congrArg Wallet.file hwallet
      have hkeystores := congrArg Wallet.keystores hwallet
      exact ⟨hfile, rfl, hkeystores⟩

/-! ## Runs -/

omit [PyUnicode] in
theorem forall_mem_modify {P : Keystore → Prop} {l : List Keystore} {f : Keystore → Keystore}
    (i : ℕ) (h : ∀ keystore ∈ l, P keystore) (hf : ∀ keystore, P keystore → P (f keystore)) :
    ∀ keystore ∈ l.modify i f, P keystore := by
  intro keystore hmem
  obtain ⟨j, hj⟩ := List.mem_iff_getElem?.mp hmem
  rw [List.getElem?_modify] at hj
  obtain ⟨keystore', hkeystore', rfl⟩ := Option.map_eq_some_iff.mp hj
  have hkept := h keystore' (List.mem_of_getElem? hkeystore')
  by_cases hij : i = j
  · rw [if_pos hij]
    exact hf keystore' hkept
  · rw [if_neg hij]
    exact hkept

/-- A world whose file and its content stayed is kept if its keystores are. -/
theorem Kept.of_file {world world' : World} (hkept : Kept crypto world)
    (hfile : world'.wallet.file = world.wallet.file) (hstored : world'.stored = world.stored)
    (hlabels : ∀ keystore ∈ world'.wallet.keystores, keystore.labels.Nodup) :
    Kept crypto world' := by
  refine ⟨hlabels, ?_, ?_⟩
  · rw [hstored]
    exact hkept.storedLabels
  · rw [hstored, hfile]
    exact hkept.reads

/-- An addition keeps the world. -/
theorem Kept.of_add {world world' : World} {i : ℕ} {entry : KeyEntry} (hkept : Kept crypto world)
    (heffect : world'.wallet.file = world.wallet.file ∧ world'.stored = world.stored
      ∧ world'.wallet.keystores = world.wallet.keystores.modify i (·.add entry)) :
    Kept crypto world' := by
  obtain ⟨hfile, hstored, hkeystores⟩ := heffect
  refine hkept.of_file hfile hstored ?_
  rw [hkeystores]
  exact forall_mem_modify i hkept.labels fun _ h => labels_add h _

/-- **Every operation keeps the world.** -/
theorem step_kept (hcipher : OpensSealed crypto) (world : World) (op : Op)
    (hkept : Kept crypto world) (hright : RightPassphrase world op) :
    Kept crypto (world.step crypto op) := by
  have heffect := step_effect hkept hright
  cases op with
  | addHd i label mnemonic passphrase => exact hkept.of_add heffect
  | addRaw i label chain secret => exact hkept.of_add heffect
  | save i passphrase n salt nonce =>
      obtain ⟨hkeystores, hnone, hsaved⟩ := heffect
      cases hwritten : world.wallet.written crypto i passphrase n salt nonce with
      | none =>
          rw [hnone hwritten]
          exact hkept
      | some saved =>
          obtain ⟨keystore, text⟩ := saved
          obtain ⟨hfile, hstored⟩ := hsaved keystore text hwritten
          obtain ⟨hget, hsave⟩ := written_eq hwritten
          refine ⟨?_, ?_, ?_⟩
          · rw [hkeystores]
            exact hkept.labels
          · rw [hstored]
            intro loaded h
            cases h
            exact hkept.labels keystore (List.mem_of_getElem? hget)
          · rw [hstored, hfile]
            intro s hs
            cases hs
            rw [load_saved hcipher hsave]
            rfl
  | load passphrase =>
      obtain ⟨hfile, hstored, hkeystores⟩ := heffect
      refine hkept.of_file hfile hstored ?_
      rw [hkeystores]
      intro keystore hmem
      rcases List.mem_append.mp hmem with h | h
      · exact hkept.labels keystore h
      · exact hkept.storedLabels keystore (Option.mem_toList.mp h)

/-- The file was saved by this wallet. -/
def Stored.IsSaved (stored : Stored) : Prop :=
  ∃ passphrase entries, stored = .saved passphrase entries

/-- Between an earlier and a later world every keystore keeps its entries in
    front, with nothing more reported, and a saved file stays one. -/
structure Grows (world world' : World) : Prop where
  keystores : ∀ (i : ℕ) (keystore : Keystore), world.wallet.keystores[i]? = some keystore →
    ∃ added, world'.wallet.keystores[i]? = some (keystore.extend added)
  saved : world.stored.IsSaved → world'.stored.IsSaved

omit [PyUnicode] in
theorem Grows.refl (world : World) : Grows world world where
  keystores := fun _ keystore h => ⟨[], by rw [keystore.extend_nil]; exact h⟩
  saved := id

omit [PyUnicode] in
theorem Grows.trans {a b c : World} (hab : Grows a b) (hbc : Grows b c) : Grows a c := by
  refine ⟨fun i keystore h => ?_, fun h => hbc.saved (hab.saved h)⟩
  obtain ⟨added, hadded⟩ := hab.keystores i keystore h
  obtain ⟨more, hmore⟩ := hbc.keystores i _ hadded
  exact ⟨added ++ more, by rw [hmore, keystore.extend_extend]⟩

omit [PyUnicode] in
/-- An addition to one keystore only adds. -/
theorem modify_grows {l : List Keystore} {i j : ℕ} {keystore : Keystore} (entry : KeyEntry)
    (h : l[j]? = some keystore) :
    ∃ added, (l.modify i (·.add entry))[j]? = some (keystore.extend added) := by
  have hsame := congrArg some keystore.extend_nil.symm
  rw [List.getElem?_modify, h]
  by_cases hij : i = j
  · show ∃ added, some (if i = j then keystore.add entry else keystore) = _
    rw [if_pos hij, Keystore.add]
    by_cases hlabel : entry.label ∈ keystore.labels
    · rw [if_pos hlabel]
      exact ⟨[], hsame⟩
    · rw [if_neg hlabel]
      exact ⟨[entry], rfl⟩
  · show ∃ added, some (if i = j then keystore.add entry else keystore) = _
    rw [if_neg hij]
    exact ⟨[], hsame⟩

omit [PyUnicode] in
/-- An addition only adds. -/
theorem Grows.of_add {world world' : World} {i : ℕ} {entry : KeyEntry}
    (heffect : world'.wallet.file = world.wallet.file ∧ world'.stored = world.stored
      ∧ world'.wallet.keystores = world.wallet.keystores.modify i (·.add entry)) :
    Grows world world' := by
  obtain ⟨-, hstored, hkeystores⟩ := heffect
  refine ⟨fun j keystore h => ?_, ?_⟩
  · rw [hkeystores]
    exact modify_grows entry h
  · rw [hstored]
    exact id

/-- **Every operation only adds.** -/
theorem step_grows (world : World) (op : Op) (hkept : Kept crypto world)
    (hright : RightPassphrase world op) : Grows world (world.step crypto op) := by
  have heffect := step_effect hkept hright
  have hrefl := Grows.refl world
  cases op with
  | addHd i label mnemonic passphrase => exact Grows.of_add heffect
  | addRaw i label chain secret => exact Grows.of_add heffect
  | save i passphrase n salt nonce =>
      obtain ⟨hkeystores, hnone, hsaved⟩ := heffect
      refine ⟨fun j keystore h => ?_, fun h => ?_⟩
      · rw [hkeystores]
        exact hrefl.keystores j keystore h
      · cases hwritten : world.wallet.written crypto i passphrase n salt nonce with
        | none =>
            rw [hnone hwritten]
            exact h
        | some saved => exact ⟨_, _, (hsaved saved.1 saved.2 hwritten).2⟩
  | load passphrase =>
      obtain ⟨-, hstored, hkeystores⟩ := heffect
      refine ⟨fun j keystore h => ?_, ?_⟩
      · have hlength := (List.getElem?_eq_some_iff.mp h).1
        rw [hkeystores, List.getElem?_append_left hlength]
        exact hrefl.keystores j keystore h
      · rw [hstored]
        exact id

/-- Where a run starts: with an empty keystore and no file, or with the file of a
    version-1 wallet whose labels are distinct. -/
inductive Start (crypto : Crypto) : World → Prop
  | empty : Start crypto ⟨⟨[{}], none⟩, .nothing⟩
  | old {passphrase text : String} {records : List Record}
      (hfile : OldFile crypto passphrase text records)
      (hlabels : (records.map Record.label).Nodup) :
      Start crypto ⟨⟨[], some text⟩, .old passphrase records⟩

theorem start_kept {world : World} (h : Start crypto world) : Kept crypto world := by
  cases h with
  | empty =>
      refine ⟨fun keystore hmem => ?_, fun keystore h => ?_, fun passphrase _ => ?_⟩
      · rw [List.mem_singleton.mp hmem]
        exact List.nodup_nil
      · cases h
      · show (load crypto none passphrase).toOption = none
        rw [load_unreadable (rfl : readFile none = .error _)]
        rfl
  | @old passphrase text records hfile hlabels =>
      refine ⟨fun keystore hmem => ?_, fun keystore h => ?_, fun s hs => ?_⟩
      · cases hmem
      · cases h
        rw [migrated_labels]
        exact hlabels
      · cases hs
        show (load crypto (some text) passphrase).toOption = _
        rw [load_old hfile]
        rfl

/-- **Nothing is lost over a run** but the passphrases of a version-1 file: at
    every point labels are distinct, the file loads as what it holds, whatever is
    done next has just its effect, and what is there stays there. -/
theorem run_keeps (hcipher : OpensSealed crypto) {start : World} (hstart : Start crypto start)
    {ops later : List Op}
    (hright : Runs.Admissible (World.step crypto) RightPassphrase start (ops ++ later)) :
    Kept crypto (Runs.run (World.step crypto) start ops)
    ∧ Grows (Runs.run (World.step crypto) start ops)
        (Runs.run (World.step crypto) start (ops ++ later))
    ∧ ∀ op, RightPassphrase (Runs.run (World.step crypto) start ops) op →
        Effect crypto (Runs.run (World.step crypto) start ops)
          (Runs.run (World.step crypto) start (ops ++ [op])) op := by
  obtain ⟨hops, hlater⟩ := Runs.admissible_append.mp hright
  -- the world is kept at every point, so what one step does is known there
  have hkept := Runs.run_invariant (step_kept hcipher) (start_kept hstart) hops
  refine ⟨hkept, ?_, fun op hop => ?_⟩
  · rw [Runs.run_append]
    exact Runs.run_related (step_kept hcipher) Grows.refl Grows.trans step_grows hkept hlater
  · rw [Runs.run_append]
    exact step_effect hkept hop

end File

/-! ## A version-1 file with a passphrase -/

/-- The entry of the file, migrated, and one that is added to it. -/
def keptEntries : List KeyEntry :=
  [.hd { label := "a", mnemonic := "zoo" }, .raw { label := "b", chain := "btc", secret := "cM" }]

def nextSalt : Bytes := (List.range' 16 16).map UInt8.ofNat
def nextNonce : Bytes := (List.range' 16 12).map UInt8.ofNat

/-- What scrypt derives from the passphrase `pw` with that salt and 2^15 rounds. -/
def nextKey : Bytes :=
  beBytes 32 0x369b19f7f197825d3b58398053c435a216dda417546ef418ab3f696ef2d0f895

/-- What AES-256-GCM makes of both entries. -/
def nextCiphertext : Bytes :=
  beBytes 36 0x10bbd6da00ecccc8511691363eab545647619db6818a7c29ca86ba38ee7ddeb2f5b6e212
    ++ beBytes 36 0x9b228197494cd26e0571a4adfb15fa98080ebcaf42638bbbaffa387470ef5fbb3b08e44e
    ++ beBytes 36 0x1177a10996c0f7e89182cd838c2cabb8a7db09aa05f618d8f9d4accb9ea1ad2c64849326
    ++ beBytes 36 0x544edb93ad65671effb22c4d969023557488119eea468d8382f96b206f052009b3019543
    ++ beBytes 17 0x07e9bfcafb917312f190882a2451c373f6

/-- What is sealed in the run: key, nonce, plaintext and ciphertext. -/
def sealings : List ((Bytes × Bytes × Bytes) × Bytes) :=
  [((savedKey, savedNonce, plaintextOf savedKeystore.entries), savedCiphertext),
   ((nextKey, nextNonce, plaintextOf keptEntries), nextCiphertext)]

/-- The library on the inputs of the run, and any cipher elsewhere. -/
def oldCrypto : Crypto where
  scrypt passphrase salt length n r p :=
    if salt = nextSalt then
      (savedCrypto.scrypt passphrase savedSalt length n r p).map fun _ => nextKey
    else savedCrypto.scrypt passphrase salt length n r p
  encryptWith key nonce plaintext :=
    (getKey sealings (key, nonce, plaintext)).getD (0 :: plaintext)
  decryptWith key nonce ciphertext :=
    if ciphertext.head? = some 0 then some ciphertext.tail
    else
      (sealings.find? fun x => x.1.1 == key && x.1.2.1 == nonce && x.2 == ciphertext).map
        fun x => x.1.2.2

theorem sealings_open :
    ∀ x ∈ sealings, oldCrypto.decryptWith x.1.1 x.1.2.1 x.2 = some x.1.2.2 := by
  have hhead : ∀ x ∈ sealings, x.2.head? ≠ some 0 := forall_mem_of_all (by decide +kernel)
  have hkeys : savedKey ≠ nextKey := by decide +kernel
  intro x hx
  simp only [oldCrypto]
  rw [if_neg (hhead x hx)]
  simp only [sealings, List.mem_cons, List.not_mem_nil, or_false] at hx
  rcases hx with rfl | rfl
  · simp [sealings]
  · simp [sealings, hkeys]

theorem oldCrypto_opensSealed : OpensSealed oldCrypto := by
  intro key nonce plaintext _
  cases hfound : getKey sealings (key, nonce, plaintext) with
  | none =>
      simp only [oldCrypto, hfound, Option.getD_none]
      rfl
  | some ciphertext =>
      have hopen := sealings_open _ (mem_of_getKey hfound)
      have hseal : oldCrypto.encryptWith key nonce plaintext = ciphertext := by
        simp only [oldCrypto, hfound, Option.getD_some]
      rw [hseal]
      exact hopen

def oldText : String :=
  dumps (some 2) (envelopeOf 1 32768 savedSalt savedNonce savedCiphertext)

def oldRecords : List Record := [.hd "a" "zoo" (some (some "x"))]

theorem oldText_oldFile :
    let _ : PyUnicode := asciiUnicode
    OldFile oldCrypto "pw" oldText oldRecords := by
  let _ : PyUnicode := asciiUnicode
  have hregular : (payloadOf savedKeystore.entries).Regular :=
    ⟨List.nodup_singleton _, regularItems_map _, trivial⟩
  have hpayload : (decodeUtf8 (plaintextOf savedKeystore.entries)).bind loads
      = some (payloadOf savedKeystore.entries).json := by
    rw [plaintextOf, decodeUtf8_encodeUtf8, Option.bind_some, loads_dumps none hregular]
  have hfile := readFile_envelopeOf (show InDigits 1 by decide +kernel)
    (show InDigits 32768 by decide +kernel) savedSalt savedNonce savedCiphertext
  have hsalt : savedSalt ≠ nextSalt := by decide +kernel
  have hkey : deriveKey oldCrypto "pw" savedSalt (.int 32768) (.int scryptR) (.int scryptP)
      (.int keyLen) = .ok savedKey := by
    rw [deriveKey, oldCrypto]
    dsimp only
    rw [if_neg hsalt]
    exact savedCrypto_key
  have hopens := sealings_open _ List.mem_cons_self
  refine ⟨_, savedKey, plaintextOf savedKeystore.entries, _, _, 1, hfile, hkey, ?_, hpayload,
    rfl, ?_, rfl, by decide⟩
  · rw [decrypt, if_pos savedKey_fits, hopens]
  · exact List.Forall₂.cons ⟨_, rfl, rfl, rfl, rfl, rfl⟩ List.Forall₂.nil

/-- The file both entries are saved to. -/
def nextText : String :=
  dumps (some 2) (envelopeOf envelopeVersion 32768 nextSalt nextNonce nextCiphertext)

theorem oldCrypto_save (labels : List String) :
    save oldCrypto ⟨keptEntries, labels⟩ "pw" 32768 nextSalt nextNonce = .ok nextText := by
  have hn : InDigits 32768 := by decide +kernel
  have hfits : Fits nextKey nextNonce := by decide +kernel
  have hkeys : nextKey ≠ savedKey := by decide +kernel
  have hkey : deriveKey oldCrypto "pw" nextSalt (.int 32768) (.int scryptR) (.int scryptP)
      (.int keyLen) = .ok nextKey := by
    have hsaved := savedCrypto_key
    rw [deriveKey] at hsaved
    rw [deriveKey, oldCrypto]
    dsimp only
    rw [if_pos rfl, hsaved]
    rfl
  have hseal : oldCrypto.encryptWith nextKey nextNonce (plaintextOf keptEntries)
      = nextCiphertext := by
    have hother : (savedKey, savedNonce, plaintextOf savedKeystore.entries)
        ≠ (nextKey, nextNonce, plaintextOf keptEntries) :=
      fun h => hkeys (congrArg Prod.fst h).symm
    rw [oldCrypto]
    dsimp only
    rw [sealings, getKey, if_neg hother, getKey, if_pos rfl, Option.getD_some]
  rw [save, hkey, ok_bind, encrypt, if_pos hfits, ok_bind, hseal, if_pos hn]
  rfl

/-- The file is loaded, a key is added and both are saved; a key with a label there
    is is refused, and the new file is loaded. -/
theorem run_keeps_old :
    let _ : PyUnicode := asciiUnicode
    let start : World := ⟨⟨[], some oldText⟩, .old "pw" oldRecords⟩
    let ops : List Op := [.load "pw", .addRaw 0 "b" "btc" "cM",
      .save 0 "pw" 32768 nextSalt nextNonce]
    let later : List Op := [.addHd 0 "a" "zoo" none, .load "pw"]
    Kept oldCrypto (Runs.run (World.step oldCrypto) start ops)
      ∧ Grows (Runs.run (World.step oldCrypto) start ops)
        (Runs.run (World.step oldCrypto) start (ops ++ later))
      ∧ (Runs.run (World.step oldCrypto) start (ops ++ later)).wallet
        = ⟨[⟨keptEntries, ["a"]⟩, ⟨keptEntries, []⟩], some nextText⟩ := by
  let _ : PyUnicode := asciiUnicode
  intro _ start ops later
  have hlabels : (oldRecords.map Record.label).Nodup := List.nodup_singleton _
  have hstart : Start oldCrypto start := .old oldText_oldFile hlabels
  -- the worlds of the run
  have hload : World.step oldCrypto start (.load "pw")
      = ⟨⟨[migrated oldRecords], some oldText⟩, .old "pw" oldRecords⟩ := by
    rw [World.step, step_load]
    dsimp only [start]
    rw [load_old oldText_oldFile]
    rfl
  have hadd : World.step oldCrypto ⟨⟨[migrated oldRecords], some oldText⟩, .old "pw" oldRecords⟩
      (.addRaw 0 "b" "btc" "cM")
      = ⟨⟨[⟨keptEntries, ["a"]⟩], some oldText⟩, .old "pw" oldRecords⟩ := rfl
  have hwritten : Wallet.written oldCrypto ⟨[⟨keptEntries, ["a"]⟩], some oldText⟩ 0 "pw" 32768
      nextSalt nextNonce = some (⟨keptEntries, ["a"]⟩, nextText) := by
    rw [Wallet.written]
    show (save oldCrypto ⟨keptEntries, ["a"]⟩ "pw" 32768 nextSalt nextNonce).toOption.map _ = _
    rw [oldCrypto_save]
    rfl
  have hsave : World.step oldCrypto
      ⟨⟨[⟨keptEntries, ["a"]⟩], some oldText⟩, .old "pw" oldRecords⟩
      (.save 0 "pw" 32768 nextSalt nextNonce)
      = ⟨⟨[⟨keptEntries, ["a"]⟩], some nextText⟩, .saved "pw" keptEntries⟩ := by
    rw [World.step, Wallet.step, World.store]
    simp only [hwritten]
  have hrefused : World.step oldCrypto
      ⟨⟨[⟨keptEntries, ["a"]⟩], some nextText⟩, .saved "pw" keptEntries⟩
      (.addHd 0 "a" "zoo" none)
      = ⟨⟨[⟨keptEntries, ["a"]⟩], some nextText⟩, .saved "pw" keptEntries⟩ := rfl
  have hagain : World.step oldCrypto
      ⟨⟨[⟨keptEntries, ["a"]⟩], some nextText⟩, .saved "pw" keptEntries⟩ (.load "pw")
      = ⟨⟨[⟨keptEntries, ["a"]⟩, ⟨keptEntries, []⟩], some nextText⟩, .saved "pw" keptEntries⟩ := by
    rw [World.step, step_load]
    dsimp only
    rw [load_saved oldCrypto_opensSealed (oldCrypto_save [])]
    rfl
  have hright : Runs.Admissible (World.step oldCrypto) RightPassphrase start (ops ++ later) := by
    show RightPassphrase start (.load "pw") ∧ Runs.Admissible _ _ (World.step _ start _) _
    rw [hload]
    refine ⟨rfl, trivial, ?_⟩
    rw [hadd]
    refine ⟨trivial, ?_⟩
    rw [hsave]
    refine ⟨trivial, ?_⟩
    rw [hrefused]
    exact ⟨rfl, trivial⟩
  obtain ⟨hkept, hgrows, -⟩ := run_keeps oldCrypto_opensSealed hstart hright
  refine ⟨hkept, hgrows, ?_⟩
  simp only [ops, later, Runs.run, List.cons_append, List.nil_append, List.foldl_cons,
    List.foldl_nil, hload, hadd, hsave, hrefused, hagain]

end SwapsackKeystore
