import Swapsack.CrashFsProofs
import Swapsack.KeystoreRunsProofs

/-! # The keystore's file is never torn

    A save writes a temporary file beside the keystore, syncs it, and renames it over the
    keystore.  Any call of it may raise, and the machine may stop at any of them.

    * `fillCalls_keeps` — until the rename, the keystore is left alone, and the temporary
      file is the owner's alone;
    * `atomicWrite_outcome` — how one write ends, and what is then at the keystore's name;
    * `run_complete` — over any run of writes and crashes, what is there was written whole;
    * `saves_load` — so it loads as one of the keystores that were saved. -/

namespace SwapsackKeystore

open ByteString PyText CrashFs

/-- How the calls of one write end, what the name of the temporary file draws, and how
    much of the data the buffer passes on before it is flushed. -/
structure Env where
  random : String
  buffered : ℕ
  mkstemp : Fate
  chmod : Fate
  fdopen : Fate
  write : Fate
  flush : Fate
  fsync : Fate
  close : Fate
  replace : Fate
  unlink : Fate

def ownerOnly : ℕ := 0o600

/-- The name `mkstemp` gives the temporary file. -/
def tempName (name random : String) : String := "." ++ name ++ "." ++ random ++ ".tmp"

/-- The calls that fill the temporary file. -/
def fillCalls (env : Env) (tmp : String) (ino : ℕ) (data : Bytes) : List (Call × Fate) :=
  [(.chmod tmp ownerOnly, env.chmod), (.nothing, env.fdopen),
    (.write ino (data.take env.buffered), env.write), (.write ino data, env.flush),
    (.fsync ino, env.fsync), (.nothing, env.close)]

/-- The calls under the `try`. -/
def tryCalls (env : Env) (tmp name : String) (ino : ℕ) (data : Bytes) : List (Call × Fate) :=
  fillCalls env tmp ino data ++ [(.replace tmp name, env.replace)]

/-- The `except`: the temporary file is unlinked, and what was raised is raised again. -/
def cleanUp (env : Env) (tmp : String) (tried : Ended × Fs) : Ended × Fs :=
  if tried.1 ≠ .raised then tried
  else
    let unlinked := exec [(.unlink tmp, env.unlink)] tried.2
    (if unlinked.1 = .stopped then .stopped else .raised, unlinked.2)

/-- Write `data` to a new temporary file, and rename that. -/
def atomicWrite (name : String) (data : Bytes) (env : Env) (fs : Fs) : Ended × Fs :=
  let tmp := tempName name env.random
  if (fs.dir tmp).isSome then (.raised, fs)
  else
    let opened := exec [(.create tmp ownerOnly, env.mkstemp)] fs
    if opened.1 ≠ .returned then opened
    else cleanUp env tmp (exec (tryCalls env tmp name fs.next data) opened.2)

theorem tempName_ne (name random : String) : tempName name random ≠ name := by
  intro h
  have hlen := congrArg String.length h
  rw [tempName, String.length_append, String.length_append, String.length_append,
    String.length_append] at hlen
  have hdot : ".".length = 1 := by decide
  omega

section Fill

variable {name : String} {data : Bytes} {env : Env} {fs₀ fs : Fs} {P : Option Bytes → Prop}

/-- While the temporary file is filled: the keystore is left alone, and the file is there,
    for its owner only. -/
structure Filling (name tmp : String) (fs₀ fs : Fs) : Prop where
  frame : Frame name fs₀.next fs₀ fs
  temp : fs.dir tmp = some fs₀.next
  next : fs.next = fs₀.next + 1
  mode : (fs.inodes fs₀.next).mode = ownerOnly

theorem filling_setInode {tmp : String} (h : Filling name tmp fs₀ fs) (f : Inode → Inode)
    (hmode : ∀ inode, inode.mode = ownerOnly → (f inode).mode = ownerOnly) :
    Filling name tmp fs₀ (fs.setInode fs₀.next f) where
  frame := h.frame.trans (setInode_frame (Nat.le_refl _) f)
  temp := h.temp
  next := h.next
  mode := by
    rw [Fs.setInode_self]
    exact hmode _ h.mode

theorem filling_write {tmp : String} (h : Filling name tmp fs₀ fs) (content : Bytes) :
    Filling name tmp fs₀ ((Call.write fs₀.next content).run fs) :=
  filling_setInode h (fun inode => { inode with content, synced := false }) fun _ hmode => hmode

/-- What the calls that fill a file are. -/
theorem fillCalls_cases {tmp : String} {ino : ℕ} {c : Call × Fate}
    (hc : c ∈ fillCalls env tmp ino data) : c.1 = .chmod tmp ownerOnly
      ∨ (∃ content, c.1 = .write ino content) ∨ c.1 = .fsync ino ∨ c.1 = .nothing := by
  simp only [fillCalls, List.mem_cons, List.not_mem_nil, or_false] at hc
  rcases hc with rfl | rfl | rfl | rfl | rfl | rfl
  · exact Or.inl rfl
  · exact Or.inr (Or.inr (Or.inr rfl))
  · exact Or.inr (Or.inl ⟨_, rfl⟩)
  · exact Or.inr (Or.inl ⟨_, rfl⟩)
  · exact Or.inr (Or.inr (Or.inl rfl))
  · exact Or.inr (Or.inr (Or.inr rfl))

/-- Every call keeps it, whole or in part. -/
theorem fillCalls_keeps {tmp : String} {c : Call × Fate}
    (hc : c ∈ fillCalls env tmp fs₀.next data) (h : Filling name tmp fs₀ fs) :
    Filling name tmp fs₀ (c.1.run fs) ∧ ∀ n, Filling name tmp fs₀ (c.1.partly fs n) := by
  rcases fillCalls_cases hc with hcall | ⟨content, hcall⟩ | hcall | hcall
  · have hrun : Filling name tmp fs₀ ((Call.chmod tmp ownerOnly).run fs) := by
      rw [Call.run, h.temp]
      exact filling_setInode h (fun inode => { inode with mode := ownerOnly }) fun _ _ => rfl
    rw [hcall]
    exact ⟨hrun, fun n => partly_keeps h hrun n fun _ _ heq => (by cases heq)⟩
  · rw [hcall]
    exact ⟨filling_write h content, fun n => filling_write h (content.take n)⟩
  · have hrun : Filling name tmp fs₀ ((Call.fsync fs₀.next).run fs) :=
      filling_setInode h (fun inode => { inode with synced := true }) fun _ hmode => hmode
    rw [hcall]
    exact ⟨hrun, fun n => partly_keeps h hrun n fun _ _ heq => (by cases heq)⟩
  · have hrun : Filling name tmp fs₀ (Call.nothing.run fs) := h
    rw [hcall]
    exact ⟨hrun, fun n => partly_keeps h hrun n fun _ _ heq => (by cases heq)⟩

/-- **Filled, the temporary file is complete and synced.** -/
theorem filled_content {tmp : String} (h : Filling name tmp fs₀ fs)
    (hreturned : (exec (fillCalls env tmp fs₀.next data) fs).1 = .returned) :
    ((exec (fillCalls env tmp fs₀.next data) fs).2.inodes fs₀.next).content = data
      ∧ ((exec (fillCalls env tmp fs₀.next data) fs).2.inodes fs₀.next).synced = true := by
  rw [exec_returned hreturned]
  simp only [fillCalls, List.foldl_cons, List.foldl_nil, Call.run, h.temp, Fs.setInode,
    Function.update_self, and_self]

/-! ## How a write ends -/

/-- The keystore left alone; what is new is the owner's only. -/
structure Untouched (name : String) (fs₀ fs : Fs) : Prop where
  frame : Frame name fs₀.next fs₀ fs
  next : fs₀.next ≤ fs.next
  owner : ∀ ino, fs₀.next ≤ ino → ino < fs.next → (fs.inodes ino).mode = ownerOnly

/-- The temporary file renamed over the keystore. -/
structure Renamed (name tmp : String) (data : Bytes) (fs₀ fs : Fs) : Prop where
  holds : ∀ P : Option Bytes → Prop, Holds P name fs₀.next fs₀ →
    Holds (fun c => P c ∨ c = some data) name fs.next fs
  file : fs.file name = some { content := data, mode := ownerOnly, synced := true }
  temp : fs.dir tmp = none
  next : fs.next = fs₀.next + 1
  inodes : ∀ ino < fs₀.next, fs.inodes ino = fs₀.inodes ino
  mode : (fs.inodes fs₀.next).mode = ownerOnly

theorem Filling.untouched {tmp : String} (h : Filling name tmp fs₀ fs) :
    Untouched name fs₀ fs where
  frame := h.frame
  next := by rw [h.next]; omega
  owner := by
    intro ino hge hlt
    rw [h.next] at hlt
    obtain rfl : ino = fs₀.next := by omega
    exact h.mode

/-- The rename of a complete and synced file. -/
theorem renamed_of_filled {tmp : String} (htmp : tmp ≠ name) (h : Filling name tmp fs₀ fs)
    (hcontent : (fs.inodes fs₀.next).content = data)
    (hsynced : (fs.inodes fs₀.next).synced = true) :
    Renamed name tmp data fs₀ ((Call.replace tmp name).run fs) where
  holds := by
    intro P hP
    have hfs : Holds P name fs.next fs :=
      (hP.of_frame h.frame).mono (fun _ hc => hc) (by rw [h.next]; omega)
    have hrenamed := replace_holds hfs htmp h.temp hsynced (by rw [h.next]; omega)
    rw [hcontent] at hrenamed
    exact hrenamed
  file := by
    have hdir : ((Call.replace tmp name).run fs).dir name = some fs₀.next := by
      show Function.update (Function.update fs.dir name (fs.dir tmp)) tmp none name = _
      rw [Function.update_of_ne htmp.symm, Function.update_self, h.temp]
    have hinode : ((Call.replace tmp name).run fs).inodes fs₀.next
        = { content := data, mode := ownerOnly, synced := true } := by
      show fs.inodes fs₀.next = _
      rw [← hcontent, ← h.mode, ← hsynced]
    rw [Fs.file, hdir, Option.map_some, hinode]
  temp := Function.update_self _ _ _
  next := h.next
  inodes := h.frame.inodes
  mode := h.mode

/-- Behind the calls under the `try`. -/
theorem tryCalls_ends {tmp : String} (htmp : tmp ≠ name) (h : Filling name tmp fs₀ fs) :
    ((exec (tryCalls env tmp name fs₀.next data) fs).1 = .returned →
        Renamed name tmp data fs₀ (exec (tryCalls env tmp name fs₀.next data) fs).2)
      ∧ (Filling name tmp fs₀ (exec (tryCalls env tmp name fs₀.next data) fs).2
        ∨ Renamed name tmp data fs₀ (exec (tryCalls env tmp name fs₀.next data) fs).2) := by
  have hfill : Filling name tmp fs₀ (exec (fillCalls env tmp fs₀.next data) fs).2 :=
    exec_invariant (fun c hc fs hfs => fillCalls_keeps hc hfs) h
  rw [tryCalls, exec_append]
  by_cases hreturned : (exec (fillCalls env tmp fs₀.next data) fs).1 = .returned
  · obtain ⟨hcontent, hsynced⟩ := filled_content h hreturned
    have hrenamed := renamed_of_filled htmp hfill hcontent hsynced
    rw [if_pos hreturned]
    generalize (exec (fillCalls env tmp fs₀.next data) fs).2 = filled at hfill hrenamed ⊢
    have hpartly : ∀ n, Filling name tmp fs₀ ((Call.replace tmp name).partly filled n)
        ∨ Renamed name tmp data fs₀ ((Call.replace tmp name).partly filled n) := fun n =>
      partly_keeps (I := fun fs => Filling name tmp fs₀ fs ∨ Renamed name tmp data fs₀ fs)
        (Or.inl hfill) (Or.inr hrenamed) n fun _ _ heq => (nomatch heq)
    cases hfate : env.replace with
    | returns => exact ⟨fun _ => hrenamed, Or.inr hrenamed⟩
    | raises n => exact ⟨fun hended => (nomatch hended), hpartly n⟩
    | stops n => exact ⟨fun hended => (nomatch hended), hpartly n⟩
  · rw [if_neg hreturned]
    exact ⟨fun hended => absurd hended hreturned, Or.inl hfill⟩

/-- Unlinking the temporary file changes nothing else. -/
theorem unlink_ends {tmp : String} (htmp : tmp ≠ name)
    (h : Untouched name fs₀ fs ∨ Renamed name tmp data fs₀ fs) :
    Untouched name fs₀ ((Call.unlink tmp).run fs)
      ∨ Renamed name tmp data fs₀ ((Call.unlink tmp).run fs) := by
  have hframe : ∀ bound, Frame name bound fs ((Call.unlink tmp).run fs) := fun bound =>
    run_frame (.unlink tmp) htmp
  rcases h with h | h
  · exact Or.inl ⟨h.frame.trans (hframe _), h.next, h.owner⟩
  · refine Or.inr ⟨fun P hP => (h.holds P hP).of_frame (hframe _), ?_, Function.update_self _ _ _,
      h.next, h.inodes, h.mode⟩
    rw [Fs.file, (hframe 0).dir]
    exact h.file

/-- A new temporary file. -/
theorem create_filling {tmp : String} (htmp : tmp ≠ name) :
    Filling name tmp fs ((Call.create tmp ownerOnly).run fs) where
  frame := run_frame (.create tmp ownerOnly) ⟨htmp, Nat.le_refl _⟩
  temp := Function.update_self _ _ _
  next := rfl
  mode := by
    show (Function.update fs.inodes fs.next _ fs.next).mode = ownerOnly
    rw [Function.update_self]

theorem untouched_refl : Untouched name fs fs where
  frame := Frame.refl name fs.next fs
  next := Nat.le_refl _
  owner := fun _ hge hlt => absurd hlt (Nat.not_lt_of_le hge)

/-- How one write ends: it returns only when the rename is done, and however it ends the
    keystore is left alone or renamed over. -/
structure Outcome (name tmp : String) (data : Bytes) (env : Env) (fs : Fs)
    (result : Ended × Fs) : Prop where
  returned : result.1 = .returned → Renamed name tmp data fs result.2
  whole : Untouched name fs result.2 ∨ Renamed name tmp data fs result.2
  cleaned : fs.dir tmp = none → env.mkstemp = .returns → env.unlink = .returns →
    result.1 ≠ .stopped → result.2.dir tmp = none

/-- The clean-up keeps how the calls under the `try` ended. -/
theorem cleanUp_outcome {tmp : String} (htmp : tmp ≠ name) {tried : Ended × Fs}
    (hreturned : tried.1 = .returned → Renamed name tmp data fs tried.2)
    (hwhole : Untouched name fs tried.2 ∨ Renamed name tmp data fs tried.2) :
    Outcome name tmp data env fs (cleanUp env tmp tried) := by
  have hunlinked := unlink_ends htmp hwhole
  obtain ⟨ended, fs'⟩ := tried
  dsimp only at hreturned hwhole hunlinked
  cases ended with
  | returned => exact ⟨hreturned, hwhole, fun _ _ _ _ => (hreturned rfl).temp⟩
  | stopped => exact ⟨hreturned, hwhole, fun _ _ _ h => absurd rfl h⟩
  | raised =>
      have hpartly : ∀ n, Untouched name fs ((Call.unlink tmp).partly fs' n)
          ∨ Renamed name tmp data fs ((Call.unlink tmp).partly fs' n) := fun n =>
        partly_keeps (I := fun fs' => Untouched name fs fs' ∨ Renamed name tmp data fs fs')
          hwhole hunlinked n fun _ _ heq => (nomatch heq)
      show Outcome name tmp data env fs (if _ = Ended.stopped then _ else _, _)
      cases hunlink : env.unlink with
      | returns =>
          exact ⟨fun h => (nomatch h), hunlinked, fun _ _ _ _ => Function.update_self _ _ _⟩
      | raises n => exact ⟨fun h => (nomatch h), hpartly n, fun _ _ h => (nomatch hunlink ▸ h)⟩
      | stops n => exact ⟨fun h => (nomatch h), hpartly n, fun _ _ h => (nomatch hunlink ▸ h)⟩

/-- **One write**, however each of its calls ends. -/
theorem atomicWrite_outcome (name : String) (data : Bytes) (env : Env) (fs : Fs) :
    Outcome name (tempName name env.random) data env fs (atomicWrite name data env fs) := by
  have htmp := tempName_ne name env.random
  rw [atomicWrite]
  dsimp only
  generalize tempName name env.random = tmp at htmp ⊢
  by_cases hexists : (fs.dir tmp).isSome = true
  · rw [if_pos hexists]
    refine ⟨fun h => (nomatch h), Or.inl untouched_refl, fun hfree => ?_⟩
    rw [hfree] at hexists
    exact nomatch hexists
  · rw [if_neg hexists]
    have hcreate : Filling name tmp fs ((Call.create tmp ownerOnly).run fs) := create_filling htmp
    have hleft : ∀ n, Untouched name fs ((Call.create tmp ownerOnly).partly fs n) := fun n =>
      partly_keeps untouched_refl hcreate.untouched n fun _ _ heq => (nomatch heq)
    cases hmkstemp : env.mkstemp with
    | raises n =>
        exact ⟨fun h => (nomatch h), Or.inl (hleft n), fun _ h => (nomatch hmkstemp ▸ h)⟩
    | stops n =>
        exact ⟨fun h => (nomatch h), Or.inl (hleft n), fun _ h => (nomatch hmkstemp ▸ h)⟩
    | returns =>
        obtain ⟨hreturned, hends⟩ := tryCalls_ends htmp hcreate
        exact cleanUp_outcome htmp hreturned (hends.imp_left Filling.untouched)

end Fill

/-! ## Runs -/

/-- A write, or the machine going down and up again. -/
inductive Event where
  | write (data : Bytes) (env : Env)
  | crash (pick : String → ℕ) (garbage : ℕ → Bytes)

def Event.run (name : String) (fs : Fs) : Event → Fs
  | .write data env => (atomicWrite name data env fs).2
  | .crash pick garbage => fs.crash pick garbage

def Event.writes (data : Bytes) : Event → Prop
  | .write written _ => written = data
  | .crash _ _ => False

section Runs

variable {name : String} {fs : Fs} {P : Option Bytes → Prop}

/-- What is new is the owner's only, and what is old has the mode it had. -/
structure Private (fs fs' : Fs) : Prop where
  next : fs.next ≤ fs'.next
  owner : ∀ ino, fs.next ≤ ino → ino < fs'.next → (fs'.inodes ino).mode = ownerOnly
  old : ∀ ino < fs.next, (fs'.inodes ino).mode = (fs.inodes ino).mode

theorem Private.refl (fs : Fs) : Private fs fs :=
  ⟨Nat.le_refl _, fun _ hge hlt => absurd hlt (Nat.not_lt_of_le hge), fun _ _ => rfl⟩

theorem Private.trans {a b c : Fs} (hab : Private a b) (hbc : Private b c) : Private a c where
  next := hab.next.trans hbc.next
  owner := by
    intro ino hge hlt
    by_cases hb : ino < b.next
    · rw [hbc.old ino hb]
      exact hab.owner ino hge hb
    · exact hbc.owner ino (by omega) hlt
  old := fun ino hlt =>
    (hbc.old ino (Nat.lt_of_lt_of_le hlt hab.next)).trans (hab.old ino hlt)

theorem Renamed.owned {tmp : String} {data : Bytes} {fs' : Fs}
    (h : Renamed name tmp data fs fs') : Private fs fs' where
  next := by rw [h.next]; omega
  owner := by
    intro ino hge hlt
    rw [h.next] at hlt
    obtain rfl : ino = fs.next := by omega
    exact h.mode
  old := fun ino hlt => by rw [h.inodes ino hlt]

/-- What one event adds to what may be at the name. -/
theorem event_complete (h : Holds P name fs.next fs) (event : Event) :
    Holds (fun c => P c ∨ ∃ data, event.writes data ∧ c = some data) name
        (event.run name fs).next (event.run name fs)
      ∧ Private fs (event.run name fs) := by
  cases event with
  | crash pick garbage =>
      refine ⟨(crash_holds h pick garbage).mono (fun c hc => Or.inl hc) (Nat.le_refl _),
        Nat.le_refl _, fun ino hge hlt => absurd hlt (Nat.not_lt_of_le hge), fun ino _ => ?_⟩
      show (if _ then _ else _ : Inode).mode = _
      split_ifs <;> rfl
  | write data env =>
      rcases (atomicWrite_outcome name data env fs).whole with huntouched | hrenamed
      · exact ⟨(h.of_frame huntouched.frame).mono (fun c hc => Or.inl hc) huntouched.next,
          huntouched.next, huntouched.owner,
          fun ino hlt => by rw [Event.run, huntouched.frame.inodes ino hlt]⟩
      · refine ⟨(hrenamed.holds P h).mono (fun c hc => ?_) (Nat.le_refl _), hrenamed.owned⟩
        exact hc.imp_right fun hc => ⟨data, rfl, hc⟩

/-- **Never torn**: over any run of writes and crashes, what is at the name is what was
    there, or what one of the writes was given, whole; and no file that was created is
    open to others. -/
theorem run_complete (h : Holds P name fs.next fs) (events : List Event) :
    Holds (fun c => P c ∨ ∃ event ∈ events, ∃ data, event.writes data ∧ c = some data) name
        (Runs.run (Event.run name) fs events).next (Runs.run (Event.run name) fs events)
      ∧ Private fs (Runs.run (Event.run name) fs events) := by
  induction events generalizing fs P with
  | nil => exact ⟨h.mono (fun c hc => Or.inl hc) (Nat.le_refl _), Private.refl fs⟩
  | cons event events ih =>
      obtain ⟨hevent, hprivate⟩ := event_complete h event
      obtain ⟨hrun, hprivate'⟩ := ih hevent
      refine ⟨hrun.mono ?_ (Nat.le_refl _), hprivate.trans hprivate'⟩
      rintro c ((hc | ⟨data, hwrites, hc⟩) | ⟨later, hlater, hc⟩)
      · exact Or.inl hc
      · exact Or.inr ⟨event, List.mem_cons_self, data, hwrites, hc⟩
      · exact Or.inr ⟨later, List.mem_cons_of_mem event hlater, hc⟩

end Runs

/-! ## Keystores -/

section Saves

variable [PyUnicode] (crypto : Crypto)

/-- A save, with what it draws, or the machine going down and up again. -/
inductive SaveEvent where
  | save (keystore : Keystore) (passphrase : String) (n : ℤ) (salt nonce : Bytes) (env : Env)
  | crash (pick : String → ℕ) (garbage : ℕ → Bytes)

/-- What it does to the directory; a save that cannot be sealed writes nothing. -/
def eventOf : SaveEvent → Option Event
  | .save keystore passphrase n salt nonce env =>
      match save crypto keystore passphrase n salt nonce with
      | .error _ => none
      | .ok text => some (.write (encodeUtf8 text) env)
  | .crash pick garbage => some (.crash pick garbage)

/-- The keystore is the one that was saved, under its passphrase. -/
def SaveEvent.Loads (content : Bytes) : SaveEvent → Prop
  | .save keystore passphrase _ _ _ _ => ∃ text, decodeUtf8 content = some text
      ∧ load crypto (some text) passphrase = .ok { entries := keystore.entries }
  | .crash _ _ => False

variable {crypto}

theorem event_loads (hcipher : OpensSealed crypto) {saved : SaveEvent} {event : Event}
    {data : Bytes} (hevent : eventOf crypto saved = some event) (hdata : event.writes data) :
    saved.Loads crypto data := by
  cases saved with
  | crash pick garbage =>
      cases hevent
      exact hdata.elim
  | save keystore passphrase n salt nonce env =>
      rw [eventOf] at hevent
      split at hevent
      · cases hevent
      · rename_i text hsave
        cases hevent
        obtain rfl : encodeUtf8 text = data := hdata
        exact ⟨text, decodeUtf8_encodeUtf8 text, load_saved hcipher hsave⟩

/-- **A keystore that was saved can be loaded**: over any run of saves, whichever of their
    calls raise and whenever the machine stops, the file is the one there was before, or it
    loads as a keystore that was saved, and no file that was created is open to others.  A
    save that returns has saved its own, and one that does not return leaves its temporary
    file behind only if creating or unlinking it was cut off. -/
theorem saves_load (hcipher : OpensSealed crypto) {name : String} {fs : Fs}
    {before : Option Bytes} (h : Holds (fun c => c = before) name fs.next fs)
    (saves : List SaveEvent) :
    let fs' := Runs.run (Event.run name) fs (saves.filterMap (eventOf crypto))
    (fs'.read name = before
        ∨ ∃ content, fs'.read name = some content ∧ ∃ saved ∈ saves, saved.Loads crypto content)
      ∧ Private fs fs'
      ∧ ∀ keystore passphrase n salt nonce env text,
        save crypto keystore passphrase n salt nonce = .ok text →
        ((atomicWrite name (encodeUtf8 text) env fs').1 = .returned →
          ∃ content, (atomicWrite name (encodeUtf8 text) env fs').2.read name = some content
            ∧ (SaveEvent.save keystore passphrase n salt nonce env).Loads crypto content)
        ∧ (fs'.dir (tempName name env.random) = none → env.mkstemp = .returns →
          env.unlink = .returns → (atomicWrite name (encodeUtf8 text) env fs').1 ≠ .stopped →
          (atomicWrite name (encodeUtf8 text) env fs').2.dir (tempName name env.random) = none) := by
  intro fs'
  obtain ⟨hcomplete, hprivate⟩ := run_complete h (saves.filterMap (eventOf crypto))
  refine ⟨?_, hprivate, ?_⟩
  · rcases hcomplete.read with hread | ⟨event, hevent, data, hdata, hread⟩
    · exact Or.inl hread
    · obtain ⟨saved, hsaved, hevent⟩ := List.mem_filterMap.mp hevent
      exact Or.inr ⟨data, hread, saved, hsaved, event_loads hcipher hevent hdata⟩
  · intro keystore passphrase n salt nonce env text hsave
    have houtcome := atomicWrite_outcome name (encodeUtf8 text) env fs'
    refine ⟨fun hreturned => ?_, houtcome.cleaned⟩
    refine ⟨encodeUtf8 text, ?_, text, decodeUtf8_encodeUtf8 text, load_saved hcipher hsave⟩
    rw [Fs.read, (houtcome.returned hreturned).file]
    rfl

end Saves

/-! ## A save that is cut off -/

/-- An empty directory. -/
def emptyFs : Fs where
  inodes _ := { content := [], mode := 0, synced := true }
  next := 0
  dir _ := none
  past := []

/-- Every call returns, but the machine stops behind the rename. -/
def cutOff : Env where
  random := "x"
  buffered := 0
  mkstemp := .returns
  chmod := .returns
  fdopen := .returns
  write := .returns
  flush := .returns
  fsync := .returns
  close := .returns
  replace := .stops 1
  unlink := .returns

/-- The machine comes up again with the directory as it was before the rename, or behind
    it. -/
theorem saves_load_cutOff : let _ : PyUnicode := asciiUnicode
    ∀ pick garbage,
      let saves : List SaveEvent :=
        [.save savedKeystore "pw" 32768 savedSalt savedNonce cutOff, .crash pick garbage]
      let fs' := Runs.run (Event.run "keystore.json") emptyFs
        (saves.filterMap (eventOf oldCrypto))
      fs'.read "keystore.json" = none
        ∨ ∃ content, fs'.read "keystore.json" = some content
          ∧ ∃ saved ∈ saves, saved.Loads oldCrypto content := by
  intro _ pick garbage saves
  have hempty : Holds (fun c => c = none) "keystore.json" emptyFs.next emptyFs := by
    intro entry hentry
    rw [List.mem_singleton.mp hentry]
    rfl
  exact (saves_load oldCrypto_opensSealed hempty saves).1

end SwapsackKeystore
