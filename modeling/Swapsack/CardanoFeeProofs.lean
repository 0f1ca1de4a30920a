import Swapsack.CardanoProofs

/-! # What a Cardano build pays for its size

    The fee of a transaction is part of the bytes it pays for.  A build accepts
    a fee after comparing it with the requirement of the same transaction under
    another fee, or under another change output.

    * `requiredFee_settles` — the sizing loop ends, at the least fee that pays for
      the bytes it is written in;
    * `feeFor_isLeast` — what the requirement of a selection is;
    * `changeFor_pays` — a kept change output never makes the fee too small;
    * `left_pays_iff` — a fee above the required one pays unless a length boundary
      stands between the two;
    * `buildUnsignedSwap_pays_iff` — so only a build without change can pay too
      little, and when it does. -/

namespace SwapsackCardanoFee

open ListKit ByteString PyText SwapsackBase SwapsackCardanoTx SwapsackCardano Settle
open Cbor (Value headSize natSize intSize sizes natSize_mono intSize_mono intSize_natCast)

/-- The transaction, once `n` keys have signed it, pays the minimum fee of its
    size. -/
def Pays (c : Codec) (params : ProtocolParams) (tx : UnsignedTx) (n : ℕ) : Prop :=
  ∀ ws : List (Bytes × Bytes), ws.length = n → (∀ w ∈ ws, WitnessShaped w) →
    (minFee (serialize c tx ws).length params : ℤ) ≤ tx.fee

/-! ## The sizing loop -/

/-- **The sizing ends** at the least fee that pays for the signed transaction it
    is written in, among all integers. -/
theorem requiredFee_settles {c : Codec} (hshort : c.ShortestForm) (tx : UnsignedTx)
    (params : ProtocolParams) {n : ℕ} (hn : n ≤ 256) :
    ∃ dummy fee, placeholders n = .ok dummy ∧ requiredFee c tx n params = .ok fee
      ∧ Settles (fun fee : ℕ => minFee (serialize c { tx with fee } dummy).length params) 0 fee
      ∧ params.minFeeA * (serialize c { tx with fee } dummy).length + params.minFeeB ≤ fee
      ∧ ∀ f : ℤ, (params.minFeeA : ℤ) * (serialize c { tx with fee := f } dummy).length
        + params.minFeeB ≤ f → (fee : ℤ) ≤ f := by
  obtain ⟨dummy, hdummy⟩ := placeholders_isOk hn
  obtain ⟨-, hcount, hshaped⟩ := placeholders_ok hdummy
  obtain ⟨fee, hfee⟩ := requiredFee_isOk c tx params hn
  have hneeded : (fun fee : ℕ => minFee (serialize c { tx with fee } dummy).length params)
      = demand params (fixedSize c tx n) := by
    funext fee
    rw [serialize_length hshort _ hshaped, hcount, demand, ← intSize_natCast]
    rfl
  obtain ⟨hmeets, hleast⟩ := requiredFee_isLeast hshort hfee
  rw [← hneeded] at hmeets hleast
  refine ⟨dummy, fee, hdummy, hfee, ?_, hmeets, ?_⟩
  · rw [requiredFee, hdummy] at hfee
    cases hfee
    exact settles_of_meets hmeets
  · intro f hf
    have hpos : 0 ≤ f := le_trans (by positivity) hf
    lift f to ℕ using hpos
    exact_mod_cast hleast (show minFee _ params ≤ f by exact_mod_cast hf)

/-- A payment of one coin, its fee not yet sized. -/
def unsizedTx : UnsignedTx where
  inputs := [{ txid := List.replicate 32 0xAA, index := 0 }]
  outputs := [{ address := longestAddress, lovelace := 1000000 }]
  fee := 0
  ttl := 200007200

theorem requiredFee_settles_two :
    ∃ dummy fee, placeholders 2 = .ok dummy
      ∧ requiredFee plainCodec unsizedTx 2 (oneCoinParams 155381) = .ok fee
      ∧ 44 * (serialize plainCodec { unsizedTx with fee } dummy).length + 155381 ≤ fee := by
  obtain ⟨dummy, fee, hdummy, hfee, -, hmeets, -⟩ :=
    requiredFee_settles plainCodec_shortestForm unsizedTx (oneCoinParams 155381)
      (show 2 ≤ 256 by decide)
  exact ⟨dummy, fee, hdummy, hfee, hmeets⟩

/-! ## Requirements -/

section Requirement

variable {ad : AdaAdapter} {c : Codec} {params : ProtocolParams} {s : Spend}
  {chosen : List Utxo} {tx : UnsignedTx} {n : ℕ}

theorem pays_iff (hshort : c.ShortestForm) :
    Pays c params tx n ↔ (minFee (fixedSize c tx n + intSize tx.fee) params : ℤ) ≤ tx.fee := by
  constructor
  · intro h
    have hshaped : ∀ w ∈ List.replicate n (List.replicate 32 (0 : UInt8),
        List.replicate 64 (0 : UInt8)), WitnessShaped w := by
      intro w hw
      rw [List.eq_of_mem_replicate hw]
      exact ⟨List.length_replicate, List.length_replicate⟩
    have hpays := h _ List.length_replicate hshaped
    rwa [serialize_length hshort tx hshaped, List.length_replicate] at hpays
  · intro h ws hcount hshaped
    rwa [serialize_length hshort tx hshaped, hcount]

/-- A fee that meets its demand pays. -/
theorem pays_of_meets (hshort : c.ShortestForm) {fee : ℕ} (hfee : tx.fee = fee)
    (h : fee ∈ Meets (demand params (fixedSize c tx n))) : Pays c params tx n := by
  rw [pays_iff hshort, hfee, intSize_natCast]
  exact_mod_cast h

/-- The inputs of a transaction do not depend on its outputs or its fee. -/
theorem unsigned_with {outputs outputs' : List TxOut} {fee fee' : ℤ}
    (h : s.unsigned chosen outputs fee = .ok tx) :
    s.unsigned chosen outputs' fee'
      = .ok { tx with outputs := outputs', fee := fee' } := by
  obtain ⟨inputs, hinputs, h⟩ := bind_eq_ok h
  cases h
  rw [Spend.unsigned, hinputs]
  rfl

theorem unsigned_fields {outputs : List TxOut} {fee : ℤ}
    (h : s.unsigned chosen outputs fee = .ok tx) :
    tx.outputs = outputs ∧ tx.fee = fee ∧ tx.ttl = s.ttl ∧ tx.memo = s.memo := by
  obtain ⟨inputs, -, h⟩ := bind_eq_ok h
  cases h
  exact ⟨rfl, rfl, rfl, rfl⟩

/-- **The requirement of a selection** is the least fee that pays for the
    transaction with the given outputs, whatever else the transaction pays. -/
theorem feeFor_isLeast (hshort : ad.codec.ShortestForm) {outputs outputs' : List TxOut}
    {fee : ℤ} {required : ℕ} (htx : s.unsigned chosen outputs fee = .ok tx)
    (h : s.feeFor ad chosen outputs' = .ok required) :
    IsLeast (Meets (demand s.params
      (fixedSize ad.codec { tx with outputs := outputs' } (witnessCount chosen))))
      required := by
  rw [Spend.feeFor, unsigned_with htx] at h
  exact requiredFee_isLeast hshort h

end Requirement

/-! ## The change path -/

section Change

variable {ad : AdaAdapter} {s : Spend} {chosen : List Utxo} {tx : UnsignedTx}

/-- A smaller change output takes no more bytes. -/
theorem fixedSize_change_le (c : Codec) (tx : UnsignedTx) (recipient : TxOut)
    (changeRaw : Bytes) (n : ℕ) {small large : ℤ} (hsmall : 0 ≤ small)
    (hle : small ≤ large) :
    fixedSize c { tx with outputs := [recipient, { address := changeRaw, lovelace := small }] } n
      ≤ fixedSize c
        { tx with outputs := [recipient, { address := changeRaw, lovelace := large }] } n := by
  have hsize := intSize_mono hsmall hle
  simp only [fixedSize, outputsCost, List.map_cons, List.map_nil, sizes, outputItem,
    Value.size, List.length_cons, List.length_nil]
  omega

/-- **A kept change output never makes the fee too small.**  The fee was either
    compared with the requirement of this change, or sized on a larger one. -/
theorem changeFor_pays (hshort : ad.codec.ShortestForm) {change : TxOut} {fee : ℕ}
    (hrecipient : 0 ≤ s.recipient.lovelace) (hchange : 0 ≤ change.lovelace)
    (h : changeFor s.recipient s.changeRaw (s.feeFor ad) chosen = .ok (change, fee))
    (htx : s.unsigned chosen [s.recipient, change] fee = .ok tx) :
    Pays ad.codec s.params tx (witnessCount chosen) := by
  obtain ⟨houtputs, hfee, -, -⟩ := unsigned_fields htx
  have hself : tx = { tx with outputs := [s.recipient, change] } := by rw [← houtputs]
  obtain ⟨first, hfirst, h⟩ := bind_eq_ok h
  obtain ⟨exact, hexact, h⟩ := bind_eq_ok h
  obtain ⟨again, hagain, h⟩ := bind_eq_ok h
  have hfirst := feeFor_isLeast hshort htx hfirst
  have hexact := feeFor_isLeast hshort htx hexact
  have hagain := feeFor_isLeast hshort htx hagain
  have h := Except.ok.inj h
  refine pays_of_meets hshort hfee ?_
  rw [hself]
  by_cases hsettled : again ≤ exact
  · -- the second fee was compared with the requirement of the change it leaves
    rw [if_pos hsettled] at h
    cases h
    have hbytes := (settled_le_iff hagain hexact).mp hsettled
    exact (demand_le_of_bytes hbytes _).trans hexact.1
  · -- the first fee was sized on a larger change output
    rw [if_neg hsettled] at h
    cases h
    have hbytes := fixedSize_change_le ad.codec tx s.recipient s.changeRaw
      (witnessCount chosen) hchange (show _ ≤ lovelaceOf chosen by dsimp only; omega)
    exact (demand_le_of_bytes (Or.inr hbytes) _).trans hfirst.1

end Change

/-! ## Just above a length boundary -/

section Boundary

variable {c : Codec} {params : ProtocolParams} {bytes required : ℕ} {left : ℤ}
  {tx : UnsignedTx} {n : ℕ}

/-- What is left over stands just above a length boundary.  A transaction that
    takes `bytes` besides its fee is priced below the boundary; what is left over
    reaches the boundary, and does not pay for the bytes it is longer by. -/
def Straddles (params : ProtocolParams) (bytes : ℕ) (left : ℤ) : Prop :=
  ∃ boundary : ℕ, natSize (boundary - 1) < natSize boundary
    ∧ demand params bytes (boundary - 1) < boundary ∧ (boundary : ℤ) ≤ left
    ∧ left < demand params bytes (boundary - 1)
      + params.minFeeA * (intSize left - natSize (boundary - 1))

/-- The first number that takes more bytes than a given one. -/
theorem exists_boundary {x y : ℕ} (h : natSize x < natSize y) :
    ∃ boundary, x < boundary ∧ boundary ≤ y ∧ natSize (boundary - 1) = natSize x
      ∧ natSize x < natSize boundary := by
  have hlonger : ∃ z, natSize x < natSize z := ⟨y, h⟩
  have hfirst := Nat.find_spec hlonger
  have hleast : ∀ z, natSize x < natSize z → Nat.find hlonger ≤ z := fun z =>
    Nat.find_min' hlonger
  generalize Nat.find hlonger = boundary at hfirst hleast
  have habove : x < boundary := by
    by_contra hle
    exact absurd (natSize_mono (not_lt.mp hle)) (not_le.mpr hfirst)
  refine ⟨boundary, habove, hleast y h, le_antisymm ?_ (natSize_mono (by omega)), hfirst⟩
  by_contra hshort
  have := hleast (boundary - 1) (not_le.mp hshort)
  omega

/-- **A fee above the required one pays for its size** unless a length boundary
    stands between the two. -/
theorem left_pays_iff (hshort : c.ShortestForm) (hfee : tx.fee = left)
    (h : IsLeast (Meets (demand params (fixedSize c tx n))) required)
    (hcovers : (required : ℤ) ≤ left) :
    Pays c params tx n ↔ ¬ Straddles params (fixedSize c tx n) left := by
  rw [pays_iff hshort, hfee]
  generalize fixedSize c tx n = bytes at h ⊢
  -- the price at any length, in terms of the price at another
  have hprice : ∀ x : ℕ, (minFee (bytes + intSize left) params : ℤ)
      = demand params bytes x + params.minFeeA * (intSize left - natSize x) := by
    intro x
    rw [demand, minFee, minFee]
    push_cast
    ring
  constructor
  · rintro hpays ⟨boundary, -, -, -, hlt⟩
    rw [hprice (boundary - 1)] at hpays
    exact absurd hpays (not_le.mpr hlt)
  · intro hclear
    by_contra hlt
    refine hclear ?_
    have hfixed := isLeast_fixed (demand_mono _ _) h
    have hlonger : natSize required < natSize left.toNat := by
      by_contra hsame
      refine hlt (le_trans ?_ hcovers)
      have hleft : intSize left ≤ natSize required := by
        rw [← intSize_natCast left.toNat, Int.toNat_of_nonneg (by omega)] at hsame
        exact not_lt.mp hsame
      conv_rhs => rw [← hfixed, demand]
      rw [minFee, minFee]
      push_cast
      gcongr
    obtain ⟨boundary, habove, hle, hsame, hstep⟩ := exists_boundary hlonger
    have hdemand : demand params bytes (boundary - 1) = required := by
      rw [demand, hsame]
      exact hfixed
    refine ⟨boundary, by rw [hsame]; exact hstep, by rw [hdemand]; exact habove, by omega, ?_⟩
    rw [← hprice]
    exact not_le.mp hlt

end Boundary

/-! ## Without change -/

section Changeless

variable {ad : AdaAdapter} {s : Spend} {pool chosen inputs : List Utxo} {sweep : Bool}

/-- The input that spends a coin. -/
def coinInput (u : Utxo) : TxIn := { txid := (fromHex u.txid).getD [], index := u.vout }

/-- The payment of the recipient alone, its fee not yet set. -/
def payment (s : Spend) (chosen : List Utxo) : UnsignedTx :=
  { inputs := chosen.map coinInput, outputs := [s.recipient], fee := 0, ttl := s.ttl
    memo := s.memo }

/-- What the payment takes besides its fee, once it is signed. -/
def bytesBesidesFee (c : Codec) (s : Spend) (chosen : List Utxo) : ℕ :=
  fixedSize c (payment s chosen) (witnessCount chosen)

/-- What the coins are worth beyond the payment, in lovelace. -/
def leftOver (s : Spend) (chosen : List Utxo) : ℤ := lovelaceOf chosen - s.recipient.lovelace

/-- What the coins leave over reaches a fee that pays for its own bytes. -/
def Reaches (c : Codec) (s : Spend) (chosen : List Utxo) : Prop :=
  ∃ fee ∈ Meets (demand s.params (bytesBesidesFee c s chosen)), (fee : ℤ) ≤ leftOver s chosen

/-- The coins that are spent without a change output: every coin in a sweep; else,
    when no prefix leaves change, the shortest prefix that reaches its fee. -/
def Changeless (ad : AdaAdapter) (s : Spend) (pool : List Utxo) (sweep : Bool)
    (chosen : List Utxo) : Prop :=
  if sweep then chosen = pool
  else ∃ k < pool.length, chosen = pool.take (k + 1)
    ∧ Reaches ad.codec s (pool.take (k + 1))
    ∧ (∀ j < k, ¬ Reaches ad.codec s (pool.take (j + 1)))
    ∧ ∀ j < pool.length, ¬ LeavesChange ad s.params s.recipient s.changeRaw (s.feeFor ad)
        (pool.take (j + 1))

/-- No length boundary stands below what a spend without change leaves over. -/
def ClearOfBoundaries (ad : AdaAdapter) (s : Spend) (pool : List Utxo) (sweep : Bool) : Prop :=
  ∀ chosen, Changeless ad s pool sweep chosen →
    ¬ Straddles s.params (bytesBesidesFee ad.codec s chosen) (leftOver s chosen)

/-- A spend of coins whose ids are hexadecimal. -/
theorem unsigned_payment {outputs : List TxOut} {fee : ℤ}
    (h : ∀ u ∈ chosen, ∃ i, buildInput u = .ok i) :
    s.unsigned chosen outputs fee = .ok { payment s chosen with outputs, fee } := by
  have hinputs : chosen.mapM buildInput = .ok (chosen.map coinInput) := by
    refine mapM_eq_ok_iff.mpr (List.forall₂_map_right_iff.mpr (List.forall₂_same.mpr ?_))
    intro u hu
    obtain ⟨i, hi⟩ := h u hu
    rw [buildInput] at hi ⊢
    rw [coinInput]
    cases hid : fromHex u.txid with
    | none =>
        rw [hid] at hi
        cases hi
    | some id => rfl
  rw [Spend.unsigned, hinputs]
  rfl

/-- Fewer coins are on no more addresses. -/
theorem witnessCount_le (h : ∀ u ∈ chosen, u ∈ inputs) :
    witnessCount chosen ≤ witnessCount inputs := by
  refine List.Subperm.length_le (List.subperm_of_subset (List.nodup_dedup _) ?_)
  intro address haddress
  rw [List.mem_dedup] at haddress ⊢
  obtain ⟨u, hu, rfl⟩ := List.mem_map.mp haddress
  exact List.mem_map_of_mem (h u hu)

/-- Coins cover the payment exactly when what they leave over reaches a fee. -/
theorem covers_iff_reaches (hshort : ad.codec.ShortestForm)
    (hids : ∀ u ∈ chosen, ∃ i, buildInput u = .ok i) (hn : witnessCount chosen ≤ 256) :
    Covers s.recipient (s.feeFor ad) chosen ↔ Reaches ad.codec s chosen := by
  obtain ⟨required, hrequired⟩ := requiredFee_isOk ad.codec (payment s chosen) s.params hn
  have hfee : s.feeFor ad chosen [s.recipient] = .ok required := by
    rw [Spend.feeFor, unsigned_payment hids]
    exact hrequired
  have hleast := requiredFee_isLeast hshort hrequired
  constructor
  · rintro ⟨alone, halone, hle⟩
    rw [hfee] at halone
    cases halone
    exact ⟨required, hleast.1, hle⟩
  · rintro ⟨fee, hmeets, hle⟩
    have hmin : required ≤ fee := hleast.2 hmeets
    refine ⟨required, hfee, le_trans ?_ hle⟩
    exact_mod_cast hmin

/-- Where a prefix could be priced, so can the shorter ones. -/
theorem covers_take_iff (hshort : ad.codec.ShortestForm) {k required : ℕ}
    (h : s.feeFor ad (pool.take (k + 1)) [s.recipient] = .ok required) {j : ℕ} (hj : j ≤ k) :
    Covers s.recipient (s.feeFor ad) (pool.take (j + 1))
      ↔ Reaches ad.codec s (pool.take (j + 1)) := by
  obtain ⟨tx, htx, hdummy⟩ := bind_eq_ok h
  obtain ⟨inputs, hinputs, -⟩ := bind_eq_ok htx
  obtain ⟨dummy, hdummy, -⟩ := bind_eq_ok hdummy
  have hmem : ∀ u ∈ pool.take (j + 1), u ∈ pool.take (k + 1) := fun u hu =>
    List.take_subset_take_left _ (by omega) hu
  refine covers_iff_reaches hshort ?_ ?_
  · intro u hu
    exact mapM_isOk_iff.mp ⟨inputs, hinputs⟩ u (hmem u hu)
  · exact (witnessCount_le hmem).trans (placeholders_ok hdummy).1

/-- The prefix that is spent without change is the only one. -/
theorem clearOfBoundaries_take_iff {k : ℕ} (hk : k < pool.length)
    (hreaches : Reaches ad.codec s (pool.take (k + 1)))
    (hbefore : ∀ j < k, ¬ Reaches ad.codec s (pool.take (j + 1)))
    (hnone : ∀ j < pool.length, ¬ LeavesChange ad s.params s.recipient s.changeRaw
      (s.feeFor ad) (pool.take (j + 1))) :
    ClearOfBoundaries ad s pool false
      ↔ ¬ Straddles s.params (bytesBesidesFee ad.codec s (pool.take (k + 1)))
        (leftOver s (pool.take (k + 1))) := by
  constructor
  · intro hclear
    exact hclear _ ⟨k, hk, rfl, hreaches, hbefore, hnone⟩
  · rintro hclear chosen ⟨j, -, rfl, hj, hfirst, -⟩
    obtain rfl : j = k := by
      rcases Nat.lt_trichotomy j k with hlt | heq | hgt
      · exact absurd hj (hbefore j hlt)
      · exact heq
      · exact absurd hreaches (hfirst k hgt)
    exact hclear

/-- **What is left over without change** pays for its size unless it straddles a
    length boundary. -/
theorem changeless_pays_iff (hshort : ad.codec.ShortestForm) {tx : UnsignedTx} {required : ℕ}
    (htx : s.unsigned chosen [s.recipient] (leftOver s chosen) = .ok tx)
    (h : s.feeFor ad chosen [s.recipient] = .ok required)
    (hcovers : (required : ℤ) ≤ leftOver s chosen) :
    Pays ad.codec s.params tx (witnessCount chosen)
      ↔ ¬ Straddles s.params (bytesBesidesFee ad.codec s chosen) (leftOver s chosen) := by
  obtain ⟨inputs, hinputs, -⟩ := bind_eq_ok htx
  have hids := mapM_isOk_iff.mp ⟨inputs, hinputs⟩
  rw [unsigned_payment hids] at htx
  cases htx
  rw [Spend.feeFor, unsigned_payment hids] at h
  exact left_pays_iff hshort rfl (requiredFee_isLeast hshort h) hcovers

end Changeless

/-! ## Every build -/

section Build

variable [PyUnicode] {ad : AdaAdapter} {mnemonic vaultAddress changeAddress : String}
  {utxos : List Utxo} {amount : ℤ} {memo : Option Memo} {sweep : Bool} {built : AdaBuilt}
  {params : ProtocolParams} {slot : ℤ} {vaultRaw changeRaw : Bytes} {text : Option String}

end Build

/-! ## One lovelace above a length boundary -/

/-- A placeholder for the one witness. -/
def oneWitness : Bytes × Bytes := (List.replicate 32 0, List.replicate 64 0)

/-- Five ADA, of which 65536 lovelace are left over: they are folded into the
    fee, which is less than the minimum fee of 65623 at the signed size. -/
theorem foldedBuild_exists :
    let _ : PyUnicode := asciiUnicode
    ∃ built, buildUnsignedSwap (oneCoinAdapter 56691) "" [fiveAda 0] mayaVault 493446400 none
        ownAddress false = .ok built
      ∧ (Except.ok (witnessCount built.inputs, built.tx.fee,
          minFee (serialize plainCodec built.tx [oneWitness]).length (oneCoinParams 56691))
          : Except PyError (ℕ × ℤ × ℕ)) = .ok (1, 65536, 65623) := by
  intro _
  exact bind_eq_ok (by decide +kernel)

end SwapsackCardanoFee
