import Swapsack.Bech32RoundTripProofs
import Swapsack.CardanoProofs
import Swapsack.Ed25519Proofs
import Swapsack.PyValueProofs

/-! # Cardano keys

    An Icarus root, BIP32-Ed25519 children, and signatures with the scalar itself.
    Nothing is reduced on the way down: a child's scalar is its parent's and eight
    times 28 bytes of a digest, and the clamp at the root leaves room for that.

    * `child_shape` — what one child has of its parent;
    * `WellFormed` — the shape and the room left after a number of steps;
    * `derive_sound` — a path of proper indices never runs out of room, and the key it
      ends in has a public key;
    * `sign_outcome` — such a key signs, and what it signs verifies;
    * `soft_refines` — a soft path moves the public key as the public half alone would. -/

namespace SwapsackCardanoKeys

open ListKit ByteString PyText PyJson SwapsackBase
open SwapsackCardano (ExtendedKey)
open Ed25519 (order)

/-- From here on an index is hardened. -/
def hardened : ℤ := 0x80000000

/-- The rounds of stretching. -/
def icarusIterations : ℕ := 4096

def baseAddressMainnet : UInt8 := 0x01

def addressHrp : String := "addr"

/-- What goes wrong with a key: what Python raises, an index that does not fit, a signature
    that does not verify. -/
inductive KeyError where
  | raised (e : PyError)
  | overflowError
  | badSignature
deriving DecidableEq

/-- libsodium and the digests the keys are built on. -/
structure KeyLib extends Ed25519.Scheme where
  hmacSha512 : Bytes → Bytes → Bytes
  hmacSha512_length : ∀ key data, (hmacSha512 key data).length = 64
  pbkdf2 : Bytes → Bytes → ℕ → ℕ → Bytes
  pbkdf2_length : ∀ password salt iterations n, (pbkdf2 password salt iterations n).length = n
  toEntropy : String → Option Bytes
  blake2b224 : Bytes → Bytes
  blake2b224_length : ∀ b, (blake2b224 b).length = 28

/-! ## Scalars -/

/-- Low bytes first: what stands behind counts above what stands before. -/
theorem leNat_append (a b : Bytes) : leNat (a ++ b) = leNat a + 256 ^ a.length * leNat b := by
  induction a with
  | nil => rw [List.nil_append, leNat, List.length_nil, pow_zero, Nat.zero_add, Nat.one_mul]
  | cons x a ih =>
      rw [List.cons_append, leNat, leNat, ih, List.length_cons, pow_succ]
      ring

/-- Zeros are worth nothing. -/
theorem leNat_replicate_zero (n : ℕ) : leNat (List.replicate n 0) = 0 := by
  induction n with
  | zero => rfl
  | succ n ih =>
      rw [List.replicate_succ, leNat, ih]
      rfl

variable (lib : KeyLib)

/-- `scalar.ljust(64, b"\0")`, modulo the order. -/
def reduceScalar (scalar : Bytes) : Bytes :=
  lib.reduce (scalar ++ List.replicate (64 - scalar.length) 0)

/-- The padding is worth nothing. -/
theorem reduceScalar_eq {scalar : Bytes} (h : scalar.length ≤ 64) :
    reduceScalar lib scalar = leBytes 32 (leNat scalar % order) := by
  have hlen : (scalar ++ List.replicate (64 - scalar.length) 0).length = 64 := by
    rw [List.length_append, List.length_replicate]
    omega
  rw [reduceScalar, lib.reduce_eq _ hlen, leNat_append, leNat_replicate_zero, Nat.mul_zero,
    Nat.add_zero]

/-- `n` times the base point, as libsodium returns it. -/
def scalarmultBase (n : Bytes) : Except KeyError Bytes :=
  match lib.scalarmultBase n with
  | none => .error (.raised (.runtimeError "Unexpected library error"))
  | some p => .ok p

/-- `scalar` times the base point, unclamped. -/
def point (scalar : Bytes) : Except KeyError Bytes :=
  scalarmultBase lib (reduceScalar lib scalar)

/-- The public key is the scalar times the base point. -/
def publicKey (key : ExtendedKey) : Except KeyError Bytes := point lib key.kl

/-! ## Children -/

/-- `index.to_bytes(4, "little")`. -/
def indexBytes (index : ℤ) : Except KeyError Bytes :=
  if 0 ≤ index ∧ index < 2 ^ 32 then .ok (leBytes 4 index.toNat) else .error .overflowError

/-- The two digests of a child: hardened from the private key, soft from the public one. -/
def childDigests (key : ExtendedKey) (index : ℤ) (i : Bytes) :
    Except KeyError (Bytes × Bytes) :=
  if hardened ≤ index then
    let data := key.kl ++ key.kr ++ i
    .ok (lib.hmacSha512 key.chainCode (0x00 :: data), lib.hmacSha512 key.chainCode (0x01 :: data))
  else do
    let pub ← publicKey lib key
    let data := pub ++ i
    .ok (lib.hmacSha512 key.chainCode (0x02 :: data), lib.hmacSha512 key.chainCode (0x03 :: data))

/-- A BIP32-Ed25519 child, without reduction. -/
def child (key : ExtendedKey) (index : ℤ) : Except KeyError ExtendedKey := do
  let i ← indexBytes index
  let (z, c) ← childDigests lib key index i
  let kl := 8 * leNat (z.take 28) + leNat key.kl
  if 2 ^ 256 ≤ kl then
    .error (.raised (.valueError "BIP32-Ed25519 derivation overflowed kL"))
  else
    let kr := (leNat (z.drop 32) + leNat key.kr) % 2 ^ 256
    .ok { kl := leBytes 32 kl, kr := leBytes 32 kr, chainCode := c.drop 32 }

/-- Sign with the scalar itself, the nonce taken from the other half of the key, and
    verify. -/
def sign (key : ExtendedKey) (message : Bytes) : Except KeyError Bytes := do
  let pub ← publicKey lib key
  let r := reduceScalar lib (lib.sha512 (key.kr ++ message))
  let bigR ← scalarmultBase lib r
  let h := reduceScalar lib (lib.sha512 (bigR ++ pub ++ message))
  let s := lib.scalarAdd r (lib.scalarMul h (reduceScalar lib key.kl))
  let signature := bigR ++ s
  if lib.verify pub message signature then .ok signature else .error .badSignature

/-! ## The root -/

/-- The bits a root's scalar has cleared and set. -/
def clamp (data : Bytes) : Bytes :=
  ((data.modify 0 (· &&& 0b11111000)).modify 31 (· &&& 0b00011111)).modify 31 (· ||| 0b01000000)

/-- The Icarus root: the passphrase is the password, the entropy the salt. -/
def rootKey (passphrase mnemonic : String) : Except KeyError ExtendedKey :=
  match lib.toEntropy mnemonic with
  | none => .error (.raised .library)
  | some entropy =>
      let data := clamp (lib.pbkdf2 (encodeUtf8 passphrase) entropy icarusIterations 96)
      .ok { kl := data.take 32, kr := slice data 32 32, chainCode := data.drop 64 }

/-! ## Paths -/

section Paths

variable [PyUnicode]

/-- `path.split("/")`. -/
def splitPath (path : String) : List String := (path.toList.splitOn '/').map String.ofList

/-- One part of a path; a quote or an `h` hardens it. -/
def parsePart (part : String) : Except KeyError ℤ :=
  let isHardened : Bool := part.toList.getLast? == some '\'' || part.toList.getLast? == some 'h'
  let digits := if isHardened then String.ofList part.toList.dropLast else part
  match intOfText digits with
  | none =>
      .error (.raised (.valueError
        s!"invalid literal for int() with base 10: {PyUnicode.repr digits}"))
  | some index => .ok (if isHardened then index + hardened else index)

/-- A path starts at `m` and goes on in indices. -/
def parsePath (path : String) : Except KeyError (List ℤ) :=
  let parts := splitPath path
  if parts.head? ≠ some "m" then
    .error (.raised (.valueError
      s!"derivation path must start at 'm': {PyUnicode.repr path}"))
  else parts.tail.mapM parsePart

/-- The children along a list of indices. -/
def deriveIndices (root : ExtendedKey) (indices : List ℤ) : Except KeyError ExtendedKey :=
  indices.foldlM (child lib) root

/-- The key at a path. -/
def derive (root : ExtendedKey) (path : String) : Except KeyError ExtendedKey := do
  let indices ← parsePath path
  deriveIndices lib root indices

end Paths

/-- The address of two public keys: its header and their hashes. -/
def baseAddress (paymentPub stakePub : Bytes) : Except KeyError String :=
  let payload := [baseAddressMainnet] ++ lib.blake2b224 paymentPub ++ lib.blake2b224 stakePub
  (SwapsackBech32.bech32Encode addressHrp payload).mapError KeyError.raised

/-! ## The shape of a key -/

/-- A key some number of steps below a root: its widths, and the room its scalar has
    taken. -/
structure WellFormed (steps : ℕ) (key : ExtendedKey) : Prop where
  kl_length : key.kl.length = 32
  kr_length : key.kr.length = 32
  chainCode_length : key.chainCode.length = 32
  eight_dvd : 8 ∣ leNat key.kl
  lower : 2 ^ 254 ≤ leNat key.kl
  upper : leNat key.kl < 2 ^ 254 + 2 ^ 253 + steps * 2 ^ 227

/-- As many steps as never use up the room. -/
def roomySteps : ℕ := 2 ^ 26

section Shape

variable {lib} {steps : ℕ} {key : ExtendedKey}

/-- With room left the top bit is not set. -/
theorem WellFormed.upper_roomy (h : WellFormed steps key) (hsteps : steps ≤ roomySteps) :
    leNat key.kl < 2 ^ 255 := by
  have hupper := h.upper
  rw [roomySteps] at hsteps
  omega

/-- A multiple of eight with room left is no multiple of the order. -/
theorem WellFormed.not_order_dvd (h : WellFormed steps key) (hsteps : steps ≤ roomySteps) :
    ¬ order ∣ leNat key.kl := by
  intro hdvd
  have hcoprime : Nat.Coprime 8 order := by decide
  obtain ⟨m, hm⟩ := hcoprime.mul_dvd_of_dvd_of_dvd h.eight_dvd hdvd
  have hlower := h.lower
  have hupper := h.upper_roomy hsteps
  have horder : 2 ^ 255 ≤ 8 * order := by decide
  cases m with
  | zero => omega
  | succ m =>
      have hle : 8 * order ≤ 8 * order * (m + 1) := Nat.le_mul_of_pos_right _ (Nat.succ_pos m)
      omega

variable (lib) in
/-- So such a key has a public key. -/
theorem publicKey_eq (hlen : key.kl.length = 32) (h : ¬ order ∣ leNat key.kl) :
    publicKey lib key = .ok (lib.encode (leNat key.kl • lib.base)) := by
  rw [publicKey, point, reduceScalar_eq lib (hlen.trans_le (by decide)), scalarmultBase,
    Ed25519.scalarmultBase_mod, if_neg h]

end Shape

/-! ## One child -/

section OneChild

variable {lib} {steps : ℕ} {key : ExtendedKey} {index : ℤ}

/-- An index of 32 bits has its four bytes. -/
theorem indexBytes_ok (h : 0 ≤ index ∧ index < 2 ^ 32) :
    indexBytes index = .ok (leBytes 4 index.toNat) := if_pos h

/-- The digests of a child, whichever way it is derived. -/
theorem childDigests_ok {pub : Bytes} (hpub : publicKey lib key = .ok pub) (index : ℤ)
    (i : Bytes) : ∃ z c, childDigests lib key index i = .ok (z, c)
      ∧ z.length = 64 ∧ c.length = 64 := by
  rw [childDigests]
  by_cases hhard : hardened ≤ index
  · rw [if_pos hhard]
    exact ⟨_, _, rfl, lib.hmacSha512_length _ _, lib.hmacSha512_length _ _⟩
  · rw [if_neg hhard, hpub]
    exact ⟨_, _, rfl, lib.hmacSha512_length _ _, lib.hmacSha512_length _ _⟩

variable (lib) in
/-- **A child takes at most 2^227 of the room** its parent's scalar has left. -/
theorem child_shape (h : WellFormed steps key) (hsteps : steps < roomySteps)
    (hindex : 0 ≤ index ∧ index < 2 ^ 32) :
    ∃ k z, child lib key index = .ok k ∧ WellFormed (steps + 1) k
      ∧ (∃ c, childDigests lib key index (leBytes 4 index.toNat) = .ok (z, c)
        ∧ k.chainCode = c.drop 32)
      ∧ leNat k.kl = 8 * leNat (z.take 28) + leNat key.kl := by
  have hpub := publicKey_eq lib h.kl_length (h.not_order_dvd (Nat.le_of_lt hsteps))
  obtain ⟨z, c, hdigests, hz, hc⟩ := childDigests_ok hpub index (leBytes 4 index.toNat)
  have hzl : leNat (z.take 28) < 2 ^ 224 := by
    have hlt := leNat_lt (z.take 28)
    have hpow : 256 ^ min 28 64 = 2 ^ 224 := by decide
    rwa [List.length_take, hz, hpow] at hlt
  have hlower := h.lower
  have hupper := h.upper
  rw [roomySteps] at hsteps
  -- what is left of the room keeps the sum within its 32 bytes
  have hfits : 8 * leNat (z.take 28) + leNat key.kl < 2 ^ 256 := by omega
  have hwidth : 256 ^ 32 = 2 ^ 256 := by decide
  have hkl : leNat (leBytes 32 (8 * leNat (z.take 28) + leNat key.kl))
      = 8 * leNat (z.take 28) + leNat key.kl := leNat_leBytes (by rwa [hwidth])
  refine ⟨{ kl := leBytes 32 (8 * leNat (z.take 28) + leNat key.kl)
            kr := leBytes 32 ((leNat (z.drop 32) + leNat key.kr) % 2 ^ 256)
            chainCode := c.drop 32 }, z, ?_, ?_, ⟨c, hdigests, rfl⟩, hkl⟩
  · rw [child, indexBytes_ok hindex, ok_bind, hdigests, ok_bind]
    exact if_neg (Nat.not_le_of_lt hfits)
  · constructor
    · exact leBytes_length _ _
    · exact leBytes_length _ _
    · rw [List.length_drop, hc]
    · rw [hkl]
      exact Nat.dvd_add (Nat.dvd_mul_right _ _) h.eight_dvd
    · rw [hkl]
      omega
    · rw [hkl]
      push_cast
      omega

/-- An index that is no 32-bit number has no child. -/
theorem child_overflow (key : ExtendedKey) (h : ¬ (0 ≤ index ∧ index < 2 ^ 32)) :
    child lib key index = .error .overflowError := by
  rw [child, indexBytes, if_neg h]
  rfl

end OneChild

/-! ## A path -/

/-- An index that fits the four bytes it is hashed as. -/
def ProperIndex (index : ℤ) : Prop := 0 ≤ index ∧ index < 2 ^ 32

instance (index : ℤ) : Decidable (ProperIndex index) :=
  inferInstanceAs (Decidable (0 ≤ index ∧ index < 2 ^ 32))

section Path

variable {lib} {steps : ℕ} {key : ExtendedKey} {indices : List ℤ}

variable (lib) in
/-- Down a path, the shape is kept, or some index was none. -/
theorem deriveIndices_cases (h : WellFormed steps key)
    (hsteps : steps + indices.length ≤ roomySteps) :
    (∀ index ∈ indices, ProperIndex index)
        ∧ (∃ k, deriveIndices lib key indices = .ok k
          ∧ WellFormed (steps + indices.length) k)
      ∨ (¬ ∀ index ∈ indices, ProperIndex index)
        ∧ deriveIndices lib key indices = .error .overflowError := by
  induction indices generalizing steps key with
  | nil => exact Or.inl ⟨fun _ hi => (nomatch hi), key, rfl, h⟩
  | cons index indices ih =>
      rw [List.length_cons] at hsteps
      rw [deriveIndices, List.foldlM_cons]
      by_cases hindex : ProperIndex index
      · obtain ⟨k, -, hk, hshape, -, -⟩ := child_shape lib h (by omega) hindex
        rw [hk, ok_bind]
        rcases ih hshape (by omega) with ⟨hproper, k', hk', hshape'⟩ | ⟨himproper, herror⟩
        · refine Or.inl ⟨fun i hi => ?_, k', hk', ?_⟩
          · rcases List.mem_cons.mp hi with rfl | hi
            · exact hindex
            · exact hproper i hi
          · rwa [List.length_cons, Nat.add_comm indices.length, ← Nat.add_assoc]
        · exact Or.inr ⟨fun hall => himproper fun i hi =>
            hall i (List.mem_cons_of_mem index hi), herror⟩
      · refine Or.inr ⟨fun hall => hindex (hall index List.mem_cons_self), ?_⟩
        rw [child_overflow key hindex]
        rfl

end Path

/-! ## The root's shape -/

section Root

variable {lib}

/-- A change behind a prefix leaves the prefix. -/
theorem modify_append {α : Type} (f : α → α) (l : List α) (x : α) (r : List α) :
    (l ++ x :: r).modify l.length f = l ++ f x :: r :=
  List.modifyTailIdx_add (List.modifyHead f) 0 l (x :: r)

/-- The mask of the first byte leaves a multiple of eight. -/
theorem eight_dvd_mask (x : UInt8) : 8 ∣ (x &&& 0b11111000).toNat := by
  have h : ∀ n < 256, 8 ∣ n &&& 248 := by decide +kernel
  exact h x.toNat x.toNat_lt

/-- That of the last one sets the second bit and clears the first and the third. -/
theorem high_bits (x : UInt8) : 64 ≤ (x &&& 0b00011111 ||| 0b01000000).toNat
    ∧ (x &&& 0b00011111 ||| 0b01000000).toNat < 96 := by
  have h : ∀ n < 256, 64 ≤ n &&& 31 ||| 64 ∧ n &&& 31 ||| 64 < 96 := by decide +kernel
  exact h x.toNat x.toNat_lt

/-- The clamp changes the first byte and the thirty-second. -/
theorem clamp_eq (x : UInt8) (mid : Bytes) (y : UInt8) (rest : Bytes) (hmid : mid.length = 30) :
    clamp (x :: (mid ++ y :: rest))
      = (x &&& 0b11111000) :: (mid ++ (y &&& 0b00011111 ||| 0b01000000) :: rest) := by
  have hlength : ((x &&& 0b11111000) :: mid).length = 31 := by rw [List.length_cons, hmid]
  rw [clamp, List.modify_zero_cons, ← List.cons_append, ← hlength, modify_append, modify_append]
  rfl

/-- The 96 bytes that are stretched, split at the two that the clamp changes. -/
theorem split_stretched {data : Bytes} (hlength : data.length = 96) :
    ∃ x mid y rest, data = x :: (mid ++ y :: rest) ∧ mid.length = 30 ∧ rest.length = 64 := by
  match data, hlength with
  | x :: tail, hlength =>
    rw [List.length_cons] at hlength
    refine ⟨x, tail.take 30, tail[30], tail.drop 31, ?_, ?_, ?_⟩
    · rw [← List.drop_eq_getElem_cons, List.take_append_drop]
    · rw [List.length_take]
      omega
    · rw [List.length_drop]
      omega

/-- The scalar of a root, by its first byte and its last. -/
theorem leNat_scalar (x : UInt8) {mid : Bytes} (y : UInt8) (hmid : mid.length = 30) :
    leNat (x :: (mid ++ [y])) = x.toNat + 256 * (leNat mid + 2 ^ 240 * y.toNat) := by
  have hpow : 256 ^ 30 = 2 ^ 240 := by decide
  rw [leNat, leNat_append, hmid, hpow]
  rfl

/-- Clamped bytes are a key with all its room left. -/
theorem clamped_wellFormed {x y : UInt8} {mid rest : Bytes} (hmid : mid.length = 30)
    (hrest : rest.length = 64) :
    WellFormed 0
      { kl := (clamp (x :: (mid ++ y :: rest))).take 32
        kr := slice (clamp (x :: (mid ++ y :: rest))) 32 32
        chainCode := (clamp (x :: (mid ++ y :: rest))).drop 64 } := by
  rw [clamp_eq x mid y rest hmid]
  obtain ⟨hlow, hhigh⟩ := high_bits y
  have hmask := eight_dvd_mask x
  generalize x &&& 0b11111000 = x at hmask ⊢
  generalize y &&& 0b00011111 ||| 0b01000000 = y at hlow hhigh ⊢
  have htake : (x :: (mid ++ y :: rest)).take 32 = x :: (mid ++ [y]) := by
    rw [List.take_succ_cons, List.take_append, hmid, List.take_of_length_le (by omega)]
    rfl
  have hvalue := htake ▸ leNat_scalar x y hmid
  have hmidlt : leNat mid < 2 ^ 240 := by
    have hlt := leNat_lt mid
    have hpow : 256 ^ 30 = 2 ^ 240 := by decide
    rwa [hmid, hpow] at hlt
  have hx := x.toNat_lt
  constructor
  · rw [htake, List.length_cons, List.length_append, hmid]
    rfl
  · rw [slice, List.length_take, List.length_drop, List.length_cons, List.length_append,
      List.length_cons, hmid, hrest]
    rfl
  · rw [List.length_drop, List.length_cons, List.length_append, List.length_cons, hmid, hrest]
  · rw [hvalue]
    exact Nat.dvd_add hmask (by omega)
  -- of the top three bits only the second is set
  · rw [hvalue]
    omega
  · rw [hvalue]
    omega

/-- **A root has all its room left.** -/
theorem rootKey_wellFormed {passphrase mnemonic : String} {root : ExtendedKey}
    (h : rootKey lib passphrase mnemonic = .ok root) : WellFormed 0 root := by
  rw [rootKey] at h
  cases hentropy : lib.toEntropy mnemonic with
  | none =>
      rw [hentropy] at h
      cases h
  | some entropy =>
      rw [hentropy] at h
      obtain ⟨x, mid, y, rest, hdata, hmid, hrest⟩ := split_stretched
        (lib.pbkdf2_length (encodeUtf8 passphrase) entropy icarusIterations 96)
      cases h
      rw [hdata]
      exact clamped_wellFormed hmid hrest

variable [PyUnicode] {passphrase mnemonic path : String} {root : ExtendedKey}
  {indices : List ℤ}

/-- **A path never runs out of room**: below a root, a path succeeds exactly when each
    of its indices is a 32-bit number, and every key on the way is well formed, with a
    public key of its own. -/
theorem derive_sound (hroot : rootKey lib passphrase mnemonic = .ok root)
    (hpath : parsePath path = .ok indices) (hlen : indices.length ≤ roomySteps) :
    ((∃ k, derive lib root path = .ok k) ↔ ∀ index ∈ indices, ProperIndex index)
      ∧ (∀ e, derive lib root path = .error e → e = .overflowError)
      ∧ ∀ k, derive lib root path = .ok k → WellFormed indices.length k
        ∧ publicKey lib k = .ok (lib.encode (leNat k.kl • lib.base)) := by
  have hderive : derive lib root path = deriveIndices lib root indices := by
    rw [derive, hpath, ok_bind]
  have hcases := deriveIndices_cases lib (rootKey_wellFormed hroot)
    (show 0 + indices.length ≤ roomySteps by omega)
  rw [Nat.zero_add] at hcases
  rw [hderive]
  rcases hcases with ⟨hproper, k, hk, hshape⟩ | ⟨himproper, herror⟩
  · rw [hk]
    refine ⟨⟨fun _ => hproper, fun _ => ⟨k, rfl⟩⟩, fun e he => (nomatch he),
      fun k' hk' => ?_⟩
    cases hk'
    exact ⟨hshape, publicKey_eq lib hshape.kl_length (hshape.not_order_dvd hlen)⟩
  · rw [herror]
    refine ⟨⟨fun ⟨k, hk⟩ => (nomatch hk), fun hproper => absurd hproper himproper⟩,
      fun e he => ?_, fun k hk => (nomatch hk)⟩
    cases he
    rfl

end Root

/-! ## The public half

    What a soft path does to a key can be followed without the private key. -/

section PublicHalf

variable {lib} {steps : ℕ} {key : ExtendedKey} {indices : List ℤ}

/-- What may be known of a key by who cannot sign with it. -/
structure PublicHalf (lib : KeyLib) where
  point : lib.Point
  chainCode : Bytes

/-- The public half of a key. -/
def publicHalf (lib : KeyLib) (key : ExtendedKey) : PublicHalf lib :=
  { point := leNat key.kl • lib.base, chainCode := key.chainCode }

/-- The soft child of a public half. -/
def PublicHalf.child (p : PublicHalf lib) (index : ℤ) : PublicHalf lib :=
  let data := lib.encode p.point ++ leBytes 4 index.toNat
  let z := lib.hmacSha512 p.chainCode (0x02 :: data)
  let c := lib.hmacSha512 p.chainCode (0x03 :: data)
  { point := p.point + (8 * leNat (z.take 28)) • lib.base, chainCode := c.drop 32 }

variable (lib) in
/-- A soft step moves the public half as its own child does. -/
theorem child_publicHalf (h : WellFormed steps key) (hsteps : steps < roomySteps)
    {index : ℤ} (hsoft : 0 ≤ index ∧ index < hardened) :
    ∃ k, child lib key index = .ok k ∧ WellFormed (steps + 1) k
      ∧ publicHalf lib k = (publicHalf lib key).child index := by
  have hhard : hardened = 2147483648 := rfl
  have hproper : 0 ≤ index ∧ index < 2 ^ 32 := ⟨hsoft.1, by omega⟩
  obtain ⟨k, z, hk, hshape, ⟨c, hdigests, hcode⟩, hkl⟩ :=
    child_shape lib h hsteps hproper
  refine ⟨k, hk, hshape, ?_⟩
  rw [childDigests, if_neg (by omega),
    publicKey_eq lib h.kl_length (h.not_order_dvd (Nat.le_of_lt hsteps)), ok_bind] at hdigests
  cases hdigests
  rw [publicHalf, hkl, hcode, Nat.add_comm, add_nsmul]
  rfl

variable (lib) in
/-- **A soft path needs no private key**: the public half of the key it ends in is what
    the public half it starts from moves to, step by step. -/
theorem soft_refines (h : WellFormed steps key) (hsteps : steps + indices.length ≤ roomySteps)
    (hsoft : ∀ index ∈ indices, 0 ≤ index ∧ index < hardened) :
    ∃ k, deriveIndices lib key indices = .ok k
      ∧ publicHalf lib k = indices.foldl PublicHalf.child (publicHalf lib key)
      ∧ publicKey lib k
        = .ok (lib.encode (indices.foldl PublicHalf.child (publicHalf lib key)).point) := by
  induction indices generalizing steps key with
  | nil => exact ⟨key, rfl, rfl, publicKey_eq lib h.kl_length (h.not_order_dvd hsteps)⟩
  | cons index indices ih =>
      rw [List.length_cons] at hsteps
      obtain ⟨k, hk, hshape, hhalf⟩ := child_publicHalf lib h (by omega)
        (hsoft index List.mem_cons_self)
      obtain ⟨k', hk', hhalf', hpub⟩ := ih hshape (by omega)
        fun i hi => hsoft i (List.mem_cons_of_mem index hi)
      rw [hhalf] at hhalf' hpub
      refine ⟨k', ?_, hhalf', hpub⟩
      rw [deriveIndices, List.foldlM_cons, hk, ok_bind]
      exact hk'

end PublicHalf

/-! ## Signing -/

section Sign

variable {lib} {key : ExtendedKey}

/-- The signer of the library, under the key's own words. -/
theorem sign_eq (hlen : key.kl.length = 32) (hkl : ¬ order ∣ leNat key.kl) (message : Bytes) :
    sign lib key message
      = match lib.toScheme.sign (lib.encode (leNat key.kl • lib.base))
          (leBytes 32 (leNat key.kl % order))
          (leBytes 32 (leNat (lib.sha512 (key.kr ++ message)) % order)) message with
        | .neutral => .error (.raised (.runtimeError "Unexpected library error"))
        | .badSignature => .error .badSignature
        | .signed signature => .ok signature := by
  have hdigest : ∀ b, reduceScalar lib (lib.sha512 b) = lib.reduce (lib.sha512 b) := by
    intro b
    rw [reduceScalar, lib.sha512_length, Nat.sub_self, List.replicate_zero, List.append_nil]
  rw [sign, publicKey_eq lib hlen hkl, ok_bind, Ed25519.Scheme.sign]
  simp only [hdigest, reduceScalar_eq lib (hlen.trans_le (by decide : 32 ≤ 64)),
    lib.reduce_eq _ (lib.sha512_length (key.kr ++ message)), scalarmultBase]
  cases lib.scalarmultBase (leBytes 32 (leNat (lib.sha512 (key.kr ++ message)) % order)) with
  | none => rfl
  | some bigR =>
      dsimp only [ok_bind]
      split_ifs <;> rfl

variable (lib) in
/-- **A key signs**, and what it signs verifies under its public key; only a nonce that
    is a multiple of the order stops it. -/
theorem sign_outcome (hlen : key.kl.length = 32) (hkl : ¬ order ∣ leNat key.kl)
    (message : Bytes) :
    (order ∣ leNat (lib.sha512 (key.kr ++ message))
        ∧ sign lib key message = .error (.raised (.runtimeError "Unexpected library error")))
      ∨ ∃ signature, sign lib key message = .ok signature ∧ signature.length = 64
        ∧ lib.verify (lib.encode (leNat key.kl • lib.base)) message signature = true := by
  rw [sign_eq hlen hkl]
  rcases Ed25519.Scheme.sign_cases lib.toScheme hkl
      (leNat (lib.sha512 (key.kr ++ message))) message with
    ⟨hnonce, hsign⟩ | ⟨-, signature, hsign, hlength, hverify⟩
  · rw [hsign]
    exact Or.inl ⟨hnonce, rfl⟩
  · rw [hsign]
    exact Or.inr ⟨signature, rfl, hlength, hverify⟩

end Sign

/-! ## The wallet of the all-zero entropy

    Its keys down to `ownKey` and the stake key beside it, as they are derived with the
    digests recorded here. -/

/-- The mnemonic of sixteen zero bytes. -/
def plainMnemonic : String := "abandon abandon abandon abandon abandon abandon abandon abandon abandon abandon abandon about"

/-- The key of `m/1852'`, and so on down to the account and below it. -/
def purposeKey : ExtendedKey where
  kl := beBytes 32 0x204857e62ce4f829ea706c7051bc60d496e76ee060099072374daf36680e6f53
  kr := beBytes 32 0x90ef93b348cd8ff27ef944d1261fcee6cd6e7ec8e5d4e3c5ef27a8f46ef7e85e
  chainCode := beBytes 32 0x921939c14c043f27a1a4ac06410e86d94554f1e0727d49b322d66e9682d7bb28

/-- The key of `m/1852'/1815'`. -/
def coinKey : ExtendedKey where
  kl := beBytes 32 0x709a7e488d3a5de4101f8f17d680b9eb10c085df3043dc937affb630690e6f53
  kr := beBytes 32 0x8c4b89d0d5f405b24e2058360c64c677d9d33906200128a393298208f42a3bce
  chainCode := beBytes 32 0x32c78b7437a895f53d2d19fe3490d2a26eb74ce281cb262078bd330f9c319a84

/-- The account. -/
def accountKey : ExtendedKey where
  kl := beBytes 32 0xc026fb6c43215bf0b2e2132ad4852d6e2b47bb09eae796ea9571f9e06f0e6f53
  kr := beBytes 32 0x817147a33facaf204927be405e3dbcd2e31abe734b354d5e1bc7317d3ada5b68
  chainCode := beBytes 32 0xb0e2df16538508046649d0e6d5b32969555a23f2f1ebf2db2819359b0d88bd16

/-- Below it, the keys of the two roles. -/
def externalKey : ExtendedKey where
  kl := beBytes 32 0xb862e343b962ab9673a1f7b908ca2c83f67ee50ff2d80c0a7d135ead740e6f53
  kr := beBytes 32 0x80347328083e616d86c639a90efb17934b805d9754aee91a861e73ebce8750bb
  chainCode := beBytes 32 0x62c9c14254ad5f100402c9ea15621bb3c429d43eb7a57fbe4f305248ebbca408

def stakeRoleKey : ExtendedKey where
  kl := beBytes 32 0xc845dd6de9f41d84ec28f74e614fc266bbdca4664b5c1d9de4729da3740e6f53
  kr := beBytes 32 0x3332ce11274b13c70c7282f1fbf80490203b0d1ee0c4551c4d1032c2006fd8c7
  chainCode := beBytes 32 0xd97497ca1f813c814530eeb2fbcc866b618e2cd9456023f4ff287dfb316186ab

/-- The stake key of `ownAddress`. -/
def stakeKey : ExtendedKey where
  kl := beBytes 32 0x2047891e88934a422e3ff6eea4caaaecda795724cd2bfacf91569896750e6f53
  kr := beBytes 32 0x4a704748705e28a7bd69d009638add767f79c63eb9c839c8ffe0eff0b6e16772
  chainCode := beBytes 32 0x30b05b69780015fcee3b00fe0629c58c491db17481241fab0beb92569e34bf16

/-- The public keys that are hashed on the way, and the stake key's with its hash. -/
def accountPublicKey : Bytes :=
  beBytes 32 0xbeb7e770b3d0f1932b0a2f3a63285bf9ef7d3e461d55446d6a3911d8f0ee55c0

def externalPublicKey : Bytes :=
  beBytes 32 0xc97915042eb56e74b657cca776729a46a7963a9cd1d9871048e73c3efa38a93a

def stakeRolePublicKey : Bytes :=
  beBytes 32 0x7b43891b27c7d5245279eaace8e8d3db3383f9be56a2bcb5899629d3f9cf2d01

def stakePublicKey : Bytes :=
  beBytes 32 0x012f5dc3115b8a07981e6e50f5a671e2c6fbb26c3ffde1cd1dcaf40a7fe8f160

def stakeKeyHash : Bytes :=
  beBytes 28 0xe557890352095f1cf6fd2b7d1a28e3c3cb029f48cf34ff890a28d176

/-- The nonce of `ownKey` for the transaction `foldedTxid`, as it is hashed. -/
def foldedNonce : Bytes :=
  beBytes 32 0x1bf29c0e17181c1e12f8a27d952dec43ca12b84843f26497ecc5de8d3f91b14a
    ++ beBytes 32 0x625f414e54b6ca3b2910b2fcf7ffb75574d58405a45c39c46153d3110c7e96c2

/-- The nonce times the base point. -/
def foldedCommitment : Bytes :=
  beBytes 32 0xad7d3a9929238ed8b6b72a3f9aa8ec4932c4feef0f9983d30dcae6971e529d89

/-- The challenge of that signature, as it is hashed. -/
def foldedChallenge : Bytes :=
  beBytes 32 0x3c6dcb1d710bb9b7a80a4917bf597877d5da7164369502cc2bfa57fb54704786
    ++ beBytes 32 0x0efa66bf3a537fca02cb57a04e91fe16f5809f9a7c6c16352039b0d98853d218

/-- The 96 bytes stretched from the entropy, not yet clamped. -/
def stretched : Bytes :=
  beBytes 32 0x61ce7dbec3616e9fc17e0c32578b3f380337b1b61a1f3cb9651aee30670e6fb3
    ++ beBytes 32 0x970419a23a2e4e4082d12bf78faa8645dfc882cee2ae7179e2b07fe88098abb2
    ++ beBytes 32 0x072310084784c7308182dbbdb1449b2706586f1ff5cbf13d15e9b6e78c15f067

/-- The digests of a hardened child, and what each is of. -/
def hardenedStep (parent : ExtendedKey) (index : ℕ) (z c : Bytes) :
    List ((Bytes × Bytes) × Bytes) :=
  let data := parent.kl ++ parent.kr ++ leBytes 4 index
  [((parent.chainCode, 0x00 :: data), z), ((parent.chainCode, 0x01 :: data), c)]

/-- Those of a soft child. -/
def softStep (parent : ExtendedKey) (pub : Bytes) (index : ℕ) (z c : Bytes) :
    List ((Bytes × Bytes) × Bytes) :=
  let data := pub ++ leBytes 4 index
  [((parent.chainCode, 0x02 :: data), z), ((parent.chainCode, 0x03 :: data), c)]

/-- The steps to `ownKey` and to the stake key. -/
def recordedSteps : List ((Bytes × Bytes) × Bytes) :=
  hardenedStep SwapsackCardano.rootKey 2147485500
      (beBytes 32 0x382ffb244d50511145fecb471f26847312b637c5487d2a375a26b82011789c7c
        ++ beBytes 32 0xf9ea7a110e9f41b2fc2719da967447a1eea5fbf90226724c0d77280cee5e3dac)
      (beBytes 32 0x62ddfa9f3d0eb5ad8084da13c7c97a543d02dcdce14a3f504002f600a5e74714
        ++ beBytes 32 0x921939c14c043f27a1a4ac06410e86d94554f1e0727d49b322d66e9682d7bb28)
    ++ hardenedStep purposeKey 2147485463
      (beBytes 32 0x4aea440ccc8a4cd7c455e4949018eb420fdbe2ff3987296448f6401f37c735c5
        ++ beBytes 32 0xfc5bf51c8d2776bfcf261365e544f8900b65bb3d3a2c44dda301da138533526f)
      (beBytes 32 0x6633e327670c1ed8da876bc4fac9e52117864a746dc145c16d759748f8543852
        ++ beBytes 32 0x32c78b7437a895f53d2d19fe3490d2a26eb74ce281cb262078bd330f9c319a84)
    ++ hardenedStep coinKey 2147483648
      (beBytes 32 0x8a918fc4d6bc7f41749850c29f804e50e3b046259754d76a434e08d62aa8520a
        ++ beBytes 32 0xf525bed269b7a96efa06660a52d9f55a0a47846d2b3425bb879daf7446af209a)
      (beBytes 32 0xc68fb0d45fe9b6929f523eea710a0c734a1b14e4149fc38ac8f64a91dce629c9
        ++ beBytes 32 0xb0e2df16538508046649d0e6d5b32969555a23f2f1ebf2db2819359b0d88bd16)
    ++ softStep accountKey accountPublicKey 0
      (beBytes 32 0x7f07ddba2e08ca14d877fc9186e89f62f946c50021beeee33c948c99932d9209
        ++ beBytes 32 0xffc22b85c891b14c3d9f7b68b0bd5bc067659f2309799cbc6a57416e94adf452)
      (beBytes 32 0xaee5cd055fa69370aa9a37e20b072144d464ed9e07a3536cd74f55b9c325dda3
        ++ beBytes 32 0x62c9c14254ad5f100402c9ea15621bb3c429d43eb7a57fbe4f305248ebbca408)
    ++ softStep accountKey accountPublicKey 2
      (beBytes 32 0xe1431cc0745a7832c7689ca4319912ffb1329d2b8cce50d629805498caa7b179
        ++ beBytes 32 0xb2c0866ee79e63a6c34ac4b09dbb48bd3c204faa948f08be31490045c6947c5f)
      (beBytes 32 0x4aa847a949cb54135f5c2e417724043ac28316be4e56186c607d709919182a04
        ++ beBytes 32 0xd97497ca1f813c814530eeb2fbcc866b618e2cd9456023f4ff287dfb316186ab)
    ++ softStep externalKey externalPublicKey 0
      (beBytes 32 0x4b5fc915cc97d4d91c7e0e825220f90bc02cf6fbf60fbf7f532398933fd793f5
        ++ beBytes 32 0x5ed2de682113bcae25ea2ca2c0096dac9080f70c2818e9ab4ce79e8451eeb596)
      (beBytes 32 0x282b601542039f926c78af9de8dcf207d3b20fc999f4767d852e6e5e7a644813
        ++ beBytes 32 0x88848e8af62a27a57e982215741c9eac17e6e45cbfd6ea65a0e0dcc03bb777b2)
    ++ softStep stakeRoleKey stakeRolePublicKey 0
      (beBytes 32 0x2b8015d6d393c537c8e2ff73680fbdf0a353b637f0995ba6755c5f1e28aa0e3a
        ++ beBytes 32 0x173e7936491315e0b0f74d186791d8e65e3eb920d903e4abb2d0bd2eb6728faa)
      (beBytes 32 0xe8c339067f8db6bd0921ca63e0bb0f92e18731aff3bd5b89c9023236d51fb110
        ++ beBytes 32 0x30b05b69780015fcee3b00fe0629c58c491db17481241fab0beb92569e34bf16)

/-- The points of the wallet, as they are spelled. -/
def recordedPoints : Ed25519.Spellings where
  points := [
    (.ofNat (leNat accountKey.kl), accountPublicKey),
    (.ofNat (leNat externalKey.kl), externalPublicKey),
    (.ofNat (leNat stakeRoleKey.kl), stakeRolePublicKey),
    (.ofNat (leNat SwapsackCardano.ownKey.kl), SwapsackCardano.ownPublicKey),
    (.ofNat (leNat stakeKey.kl), stakePublicKey),
    (.ofNat (leNat foldedNonce), foldedCommitment)]
  start := 2 ^ 254
  start_le := by decide
  length := by decide +kernel
  nodup := by decide +kernel
  apart := by decide +kernel

/-- What is recorded of a digest of `n` bytes; anything else hashes to zeros. -/
def recorded {κ : Type} [DecidableEq κ] (n : ℕ) (table : List (κ × Bytes)) (input : κ) : Bytes :=
  (getKey table input).getD (List.replicate n 0)

/-- The digest has its length. -/
theorem recorded_length {κ : Type} [DecidableEq κ] {n : ℕ} {table : List (κ × Bytes)}
    (h : ∀ e ∈ table, e.2.length = n) (input : κ) : (recorded n table input).length = n := by
  rw [recorded]
  cases hinput : getKey table input with
  | none => exact List.length_replicate
  | some digest => exact h _ (mem_of_getKey hinput)

def recordedSha512 : List (Bytes × Bytes) := [
  (SwapsackCardano.ownKey.kr ++ SwapsackCardano.foldedTxid, foldedNonce),
  (foldedCommitment ++ SwapsackCardano.ownPublicKey ++ SwapsackCardano.foldedTxid,
    foldedChallenge)]

def recordedBlake2b224 : List (Bytes × Bytes) := [
  (SwapsackCardano.ownPublicKey, SwapsackCardano.ownKeyHash), (stakePublicKey, stakeKeyHash)]

/-- The library of the wallet. -/
def plainLib : KeyLib where
  toScheme := recordedPoints.signatures (recorded 64 recordedSha512)
    (recorded_length (by decide +kernel))
  hmacSha512 key data := recorded 64 recordedSteps (key, data)
  hmacSha512_length key data := recorded_length (by decide +kernel) (key, data)
  pbkdf2 password salt iterations n :=
    recorded n (if n = 96 then [((([] : Bytes), List.replicate 16 (0 : UInt8), 4096), stretched)]
      else []) (password, salt, iterations)
  pbkdf2_length password salt iterations n := by
    refine recorded_length ?_ _
    split_ifs with hn
    · rw [hn]
      decide +kernel
    · exact fun e he => absurd he List.not_mem_nil
  toEntropy mnemonic := if mnemonic = plainMnemonic then some (List.replicate 16 0) else none
  blake2b224 := recorded 28 recordedBlake2b224
  blake2b224_length := recorded_length (by decide +kernel)

/-- **The root of the mnemonic is the one it is known by.** -/
theorem rootKey_plain : rootKey plainLib "" plainMnemonic = .ok SwapsackCardano.rootKey := by
  decide +kernel

/-- The default path, as indices. -/
def ownIndices : List ℤ := [2147485500, 2147485463, 2147483648, 0, 0]

/-- The default path is read as its indices. -/
theorem parsePath_ownPath : let _ : PyUnicode := asciiUnicode
    parsePath SwapsackCardano.ownPath = .ok ownIndices := by
  decide +kernel

/-- The key of the wallet, by its path. -/
theorem deriveIndices_own : deriveIndices plainLib SwapsackCardano.rootKey ownIndices
    = .ok SwapsackCardano.ownKey := by
  decide +kernel

theorem derive_sound_plain : let _ : PyUnicode := asciiUnicode
    (∃ k, derive plainLib SwapsackCardano.rootKey SwapsackCardano.ownPath = .ok k)
      ∧ ∀ e, derive plainLib SwapsackCardano.rootKey "m/4294967296" = .error e
        → e = .overflowError := by
  intro _
  obtain ⟨hiff, -⟩ := derive_sound rootKey_plain parsePath_ownPath (by decide)
  obtain ⟨-, herror, -⟩ := derive_sound rootKey_plain
    (by decide +kernel : parsePath "m/4294967296" = .ok [4294967296]) (by decide)
  exact ⟨hiff.mpr (by decide), herror⟩

/-- Two soft steps below the account. -/
theorem soft_refines_plain : ∃ k, deriveIndices plainLib accountKey [0, 0] = .ok k
    ∧ publicHalf plainLib k
      = ([0, 0] : List ℤ).foldl PublicHalf.child (publicHalf plainLib accountKey) := by
  have haccount : WellFormed 3 accountKey := by
    constructor <;> decide +kernel
  obtain ⟨k, hk, hhalf, -⟩ := soft_refines plainLib haccount
    (by decide : 3 + ([0, 0] : List ℤ).length ≤ roomySteps) (by decide)
  exact ⟨k, hk, hhalf⟩

end SwapsackCardanoKeys
