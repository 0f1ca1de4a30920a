import Mathlib.Data.List.Basic
import Mathlib.Logic.Function.Basic
import Swapsack.ByteStringProofs

/-! # A directory that may crash

    One directory of files, as its processes see it and as the disk may have it.  Every
    call may raise, with part of its effect or all of it, and the machine may stop there.
    A crash gives each name any of the entries it had, and each file that was not synced
    any content at all.

    * `Holds` — what may be at a name, now and behind a crash;
    * `run_frame` — writing to other files leaves a name alone;
    * `replace_holds` — putting a synced file there adds its content, and nothing else;
    * `crash_holds` — a crash adds nothing. -/

namespace CrashFs

open ByteString

/-- A file: its content, its mode, and whether that is on the disk. -/
structure Inode where
  content : Bytes
  mode : ℕ
  synced : Bool
deriving DecidableEq

/-- The names, as they are now. -/
abbrev Dir := String → Option ℕ

/-- The files, the directory, and the directories the disk may still have. -/
structure Fs where
  inodes : ℕ → Inode
  next : ℕ
  dir : Dir
  past : List Dir

/-- What a process finds at a name. -/
def Fs.file (fs : Fs) (name : String) : Option Inode := (fs.dir name).map fs.inodes

/-- What a process reads at a name. -/
def Fs.read (fs : Fs) (name : String) : Option Bytes := (fs.file name).map Inode.content

/-- The entries a name may turn out to have. -/
def Fs.entries (fs : Fs) (name : String) : List (Option ℕ) :=
  fs.dir name :: fs.past.map fun dir => dir name

/-! ## Calls -/

/-- The calls that change a file system. -/
inductive Call where
  | create (name : String) (mode : ℕ)
  | chmod (name : String) (mode : ℕ)
  | write (ino : ℕ) (content : Bytes)
  | fsync (ino : ℕ)
  | replace (source target : String)
  | unlink (name : String)
  | nothing

/-- A change of one file. -/
def Fs.setInode (fs : Fs) (ino : ℕ) (f : Inode → Inode) : Fs :=
  { fs with inodes := Function.update fs.inodes ino (f (fs.inodes ino)) }

/-- That file is changed. -/
theorem Fs.setInode_self (fs : Fs) (ino : ℕ) (f : Inode → Inode) :
    (fs.setInode ino f).inodes ino = f (fs.inodes ino) := Function.update_self _ _ _

/-- A change of the names; the names of before may come back after a crash. -/
def Fs.setDir (fs : Fs) (dir : Dir) : Fs := { fs with dir, past := fs.dir :: fs.past }

/-- The effect of a call. -/
def Call.run (fs : Fs) : Call → Fs
  | .create name mode =>
      let fs' := fs.setDir (Function.update fs.dir name (some fs.next))
      { fs' with
        inodes := Function.update fs.inodes fs.next { content := [], mode, synced := false }
        next := fs.next + 1 }
  | .chmod name mode =>
      match fs.dir name with
      | none => fs
      | some ino => fs.setInode ino fun inode => { inode with mode }
  | .write ino content => fs.setInode ino fun inode => { inode with content, synced := false }
  | .fsync ino => fs.setInode ino fun inode => { inode with synced := true }
  | .replace source target =>
      fs.setDir (Function.update (Function.update fs.dir target (fs.dir source)) source none)
  | .unlink name => fs.setDir (Function.update fs.dir name none)
  | .nothing => fs

/-- The effect of a call that did not return: a write may have written `n` bytes, every
    other call has its effect or, for 0, none. -/
def Call.partly (fs : Fs) (n : ℕ) (call : Call) : Fs :=
  match call with
  | .write ino content => (Call.write ino (content.take n)).run fs
  | call => if n = 0 then fs else call.run fs

/-- How a call ends: it returns, it raises, or the machine stops there. -/
inductive Fate where
  | returns
  | raises (n : ℕ)
  | stops (n : ℕ)

/-- How a sequence of calls ends. -/
inductive Ended where
  | returned
  | raised
  | stopped
deriving DecidableEq

/-- One call after another, up to the first that does not return. -/
def exec : List (Call × Fate) → Fs → Ended × Fs
  | [], fs => (.returned, fs)
  | (call, .returns) :: calls, fs => exec calls (call.run fs)
  | (call, .raises n) :: _, fs => (.raised, call.partly fs n)
  | (call, .stops n) :: _, fs => (.stopped, call.partly fs n)

/-- What is found when the machine is up again: `pick` says which of its entries a name
    has, `garbage` what a file holds that was not synced. -/
def Fs.crash (fs : Fs) (pick : String → ℕ) (garbage : ℕ → Bytes) : Fs where
  inodes ino :=
    if (fs.inodes ino).synced then fs.inodes ino
    else { fs.inodes ino with content := garbage ino, synced := true }
  next := fs.next
  dir name := (fs.entries name).getD (pick name) (fs.dir name)
  past := []

/-! ## What may be at a name -/

/-- Nothing, or a synced file older than `bound`; and what that is satisfies `P`. -/
def Fs.Durable (fs : Fs) (P : Option Bytes → Prop) (bound : ℕ) : Option ℕ → Prop
  | none => P none
  | some ino => ino < bound ∧ (fs.inodes ino).synced = true ∧ P (some (fs.inodes ino).content)

/-- Now and behind a crash, what the name has is durable. -/
def Holds (P : Option Bytes → Prop) (name : String) (bound : ℕ) (fs : Fs) : Prop :=
  ∀ entry ∈ fs.entries name, fs.Durable P bound entry

variable {P Q : Option Bytes → Prop} {name : String} {bound : ℕ} {fs : Fs}

/-- What may be at a name is there now. -/
theorem Holds.read (h : Holds P name bound fs) : P (fs.read name) := by
  have hnow := h (fs.dir name) List.mem_cons_self
  rw [Fs.read, Fs.file]
  cases hdir : fs.dir name with
  | none =>
      rw [hdir] at hnow
      exact hnow
  | some ino =>
      rw [hdir] at hnow
      exact hnow.2.2

/-- What holds of a file may be said less sharply. -/
theorem Holds.mono (h : Holds P name bound fs) (himp : ∀ c, P c → Q c) {bound' : ℕ}
    (hle : bound ≤ bound') : Holds Q name bound' fs := by
  intro entry hentry
  have hheld := h entry hentry
  cases entry with
  | none => exact himp _ hheld
  | some ino => exact ⟨hheld.1.trans_le hle, hheld.2.1, himp _ hheld.2.2⟩

/-- **A crash adds nothing** to what may be at a name. -/
theorem crash_holds (h : Holds P name bound fs) (pick : String → ℕ) (garbage : ℕ → Bytes) :
    Holds P name bound (fs.crash pick garbage) := by
  intro entry hentry
  have hdir : (fs.crash pick garbage).dir name
      = (fs.entries name).getD (pick name) (fs.dir name) := rfl
  have hmem : entry ∈ fs.entries name := by
    rcases List.mem_cons.mp hentry with rfl | hentry
    · rw [hdir, List.getD_eq_getElem?_getD]
      cases hget : (fs.entries name)[pick name]? with
      | none => exact List.mem_cons_self
      | some e => exact List.mem_of_getElem? hget
    · exact nomatch hentry
  have hheld := h entry hmem
  cases entry with
  | none => exact hheld
  | some ino =>
      have hinode : (fs.crash pick garbage).inodes ino = fs.inodes ino := if_pos hheld.2.1
      rw [Fs.Durable, hinode]
      exact hheld

/-! ## What a call leaves alone -/

/-- The name has the entries it had, and files older than `bound` are as they were. -/
structure Frame (name : String) (bound : ℕ) (fs fs' : Fs) : Prop where
  dir : fs'.dir name = fs.dir name
  entries : ∀ entry ∈ fs'.entries name, entry ∈ fs.entries name
  inodes : ∀ ino < bound, fs'.inodes ino = fs.inodes ino

/-- Nothing changes if nothing is done, -/
theorem Frame.refl (name : String) (bound : ℕ) (fs : Fs) : Frame name bound fs fs :=
  ⟨rfl, fun _ h => h, fun _ _ => rfl⟩

/-- and what leaves a name alone twice leaves it alone. -/
theorem Frame.trans {a b c : Fs} (hab : Frame name bound a b) (hbc : Frame name bound b c) :
    Frame name bound a c :=
  ⟨hbc.dir.trans hab.dir, fun entry h => hab.entries entry (hbc.entries entry h),
    fun ino h => (hbc.inodes ino h).trans (hab.inodes ino h)⟩

/-- What is left alone holds what it held. -/
theorem Holds.of_frame {fs' : Fs} (h : Holds P name bound fs) (hframe : Frame name bound fs fs') :
    Holds P name bound fs' := by
  intro entry hentry
  have hheld := h entry (hframe.entries entry hentry)
  cases entry with
  | none => exact hheld
  | some ino =>
      rw [Fs.Durable, hframe.inodes ino hheld.1]
      exact hheld

/-- A change of a new file leaves a name alone, -/
theorem setInode_frame {ino : ℕ} (hino : bound ≤ ino) (f : Inode → Inode) :
    Frame name bound fs (fs.setInode ino f) where
  dir := rfl
  entries := fun _ h => h
  inodes := fun i hi => Function.update_of_ne (by omega) _ _

/-- and so does a change of other names. -/
theorem setDir_frame {dir : Dir} (hdir : dir name = fs.dir name) :
    Frame name bound fs (fs.setDir dir) where
  dir := hdir
  entries := by
    intro entry hentry
    rcases List.mem_cons.mp hentry with rfl | hentry
    · rw [show (fs.setDir dir).dir name = fs.dir name from hdir]
      exact List.mem_cons_self
    · exact hentry
  inodes := fun _ _ => rfl

/-- The calls that leave a name alone: they write to younger files, and change other
    entries. -/
def Call.Spares (name : String) (bound : ℕ) (fs : Fs) : Call → Prop
  | .create other _ => other ≠ name ∧ bound ≤ fs.next
  | .chmod other _ => ∀ ino, fs.dir other = some ino → bound ≤ ino
  | .write ino _ => bound ≤ ino
  | .fsync ino => bound ≤ ino
  | .replace source target => source ≠ name ∧ target ≠ name
  | .unlink other => other ≠ name
  | .nothing => True

/-- **A call that spares a name** leaves it alone. -/
theorem run_frame (call : Call) (hcall : call.Spares name bound fs) :
    Frame name bound fs (call.run fs) := by
  cases call with
  | create other mode =>
      have hdir : Frame name bound fs (fs.setDir (Function.update fs.dir other (some fs.next))) :=
        setDir_frame (Function.update_of_ne hcall.1.symm _ _)
      exact hdir.trans ⟨rfl, fun _ h => h, fun i hi =>
        Function.update_of_ne (Nat.ne_of_lt (Nat.lt_of_lt_of_le hi hcall.2)) _ _⟩
  | chmod other mode =>
      rw [Call.run]
      cases hdir : fs.dir other with
      | none => exact Frame.refl name bound fs
      | some ino => exact setInode_frame (hcall ino hdir) _
  | write ino content =>
      exact setInode_frame hcall fun inode => { inode with content, synced := false }
  | fsync ino => exact setInode_frame hcall fun inode => { inode with synced := true }
  | replace source target =>
      refine setDir_frame ?_
      rw [Function.update_of_ne hcall.1.symm, Function.update_of_ne hcall.2.symm]
  | unlink other => exact setDir_frame (Function.update_of_ne (Ne.symm hcall) _ _)
  | nothing => exact Frame.refl name bound fs

/-- What holds before a call and behind it holds in between, if it does behind a shorter
    write. -/
theorem partly_keeps {I : Fs → Prop} {call : Call} (hfs : I fs) (hrun : I (call.run fs)) (n : ℕ)
    (hwrite : ∀ ino content, call = .write ino content →
      I ((Call.write ino (content.take n)).run fs)) : I (call.partly fs n) := by
  cases call with
  | write ino content => exact hwrite ino content rfl
  | _ =>
      show I (if n = 0 then fs else Call.run fs _)
      split_ifs
      · exact hfs
      · exact hrun

/-- **Putting a synced file at a name** adds its content to what may be there. -/
theorem replace_holds (h : Holds P name bound fs) {source : String} {ino : ℕ}
    (hne : source ≠ name) (hsource : fs.dir source = some ino)
    (hsynced : (fs.inodes ino).synced = true) (hino : ino < bound) :
    Holds (fun c => P c ∨ c = some (fs.inodes ino).content) name bound
      ((Call.replace source name).run fs) := by
  intro entry hentry
  rcases List.mem_cons.mp hentry with rfl | hentry
  · have hdir : ((Call.replace source name).run fs).dir name = some ino := by
      show Function.update (Function.update fs.dir name (fs.dir source)) source none name = _
      rw [Function.update_of_ne hne.symm, Function.update_self, hsource]
    rw [hdir]
    exact ⟨hino, hsynced, Or.inr rfl⟩
  · have hheld := h entry hentry
    cases entry with
    | none => exact Or.inl hheld
    | some i => exact ⟨hheld.1, hheld.2.1, Or.inl hheld.2.2⟩

/-! ## One call after another -/

/-- What every call keeps, whole or in part, the calls keep together. -/
theorem exec_invariant {I : Fs → Prop} {calls : List (Call × Fate)}
    (hcalls : ∀ c ∈ calls, ∀ fs, I fs → I (c.1.run fs) ∧ ∀ n, I (c.1.partly fs n)) (hfs : I fs) :
    I (exec calls fs).2 := by
  induction calls generalizing fs with
  | nil => exact hfs
  | cons c calls ih =>
      obtain ⟨call, fate⟩ := c
      obtain ⟨hrun, hpartly⟩ := hcalls (call, fate) List.mem_cons_self fs hfs
      cases fate with
      | returns => exact ih (fun c hc => hcalls c (List.mem_cons_of_mem _ hc)) hrun
      | raises n => exact hpartly n
      | stops n => exact hpartly n

/-- Calls that all return have had all their effects. -/
theorem exec_returned {calls : List (Call × Fate)} (h : (exec calls fs).1 = .returned) :
    (exec calls fs).2 = calls.foldl (fun fs c => c.1.run fs) fs := by
  induction calls generalizing fs with
  | nil => rfl
  | cons c calls ih =>
      obtain ⟨call, fate⟩ := c
      cases fate with
      | returns => exact ih h
      | raises n => exact nomatch h
      | stops n => exact nomatch h

/-- Calls that do not all return end where the first part of them does, or in the rest. -/
theorem exec_append (calls rest : List (Call × Fate)) (fs : Fs) :
    exec (calls ++ rest) fs
      = if (exec calls fs).1 = .returned then exec rest (exec calls fs).2 else exec calls fs := by
  induction calls generalizing fs with
  | nil => rfl
  | cons c calls ih =>
      obtain ⟨call, fate⟩ := c
      cases fate with
      | returns => exact ih (call.run fs)
      | raises n => rfl
      | stops n => rfl

end CrashFs
