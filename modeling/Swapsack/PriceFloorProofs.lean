import Swapsack.ChainflipProofs

/-! # The price floor of an EVM vault swap

    The calldata has room for a rate only, so the floor on what is delivered is
    turned into a price for the swap's own two ends: the deposit less the
    ingress fee, and the output before the egress fee.

    * `nativeFeeLegs_usable_iff` — when the two fee legs may be used as numbers;
    * `minPrice_protects` — what the price guarantees, whichever two ends the
      protocol compares. -/

namespace SwapsackChainflip

open ListKit SwapsackBase

/-! ## The legs of a quote -/

/-- An entry of `includedFees`; a key that is missing reads as the empty text. -/
structure IncludedFee where
  kind : String
  chain : String
  asset : String
  amount : ℤ

/-- The `(chain, asset)` an entry states. -/
def IncludedFee.stated (fee : IncludedFee) : String × String := (fee.chain, fee.asset)

/-- The sums per leg, each in its own asset's units. -/
structure FeeLegs where
  ingress : ℤ
  network : ℤ
  egress : ℤ
  other : ℤ

/-- An entry counts to its leg; one of an unknown type is money too. -/
def FeeLegs.add (legs : FeeLegs) (fee : IncludedFee) : FeeLegs :=
  if fee.kind = "INGRESS" then { legs with ingress := legs.ingress + fee.amount }
  else if fee.kind = "NETWORK" then { legs with network := legs.network + fee.amount }
  else if fee.kind = "EGRESS" then { legs with egress := legs.egress + fee.amount }
  else { legs with other := legs.other + fee.amount }

/-- The asset a leg must be charged in. -/
def denominated (ingressAsset egressAsset : String × String) (kind : String) :
    Option (String × String) :=
  if kind = "INGRESS" then some ingressAsset
  else if kind = "EGRESS" then some egressAsset
  else none

def unstatedOr (text missing : String) : String := if text = "" then missing else text

/-- Why a leg charged in another asset must not be used. -/
def otherAssetReason (kind : String) (stated expected : String × String) : String :=
  let asset := unstatedOr stated.2 "an unstated asset"
  let chain := unstatedOr stated.1 "an unstated chain"
  "the " ++ (kind ++ s!" fee is charged in {asset} on {chain}, not the {expected.2} on "
    ++ s!"{expected.1} the price floor computes with")

/-- Why the legs must not be used when a fee of an unknown type is charged. -/
def unknownTypeReason (units : ℤ) : String :=
  "the " ++ (s!"quote carries {units} units of fee under a type this wallet does not "
    ++ "recognise, so a leg the floor needs may be missing from the ones it can see")

/-- One entry: its leg grows, and the first leg in another asset is recorded. -/
def legStep (ingressAsset egressAsset : String × String) (acc : FeeLegs × String)
    (fee : IncludedFee) : FeeLegs × String :=
  let unusable :=
    match denominated ingressAsset egressAsset fee.kind with
    | some expected =>
        if fee.stated ≠ expected ∧ acc.2 = "" then
          otherAssetReason fee.kind fee.stated expected
        else acc.2
    | none => acc.2
  (acc.1.add fee, unusable)

/-- The fee legs of a quote, and why INGRESS and EGRESS must not be used as
    numbers: the empty text when they can be. -/
def nativeFeeLegs (included : List IncludedFee) (ingressAsset egressAsset : String × String) :
    FeeLegs × String :=
  let (legs, unusable) := included.foldl (legStep ingressAsset egressAsset)
    ({ ingress := 0, network := 0, egress := 0, other := 0 }, "")
  if legs.other ≠ 0 ∧ unusable = "" then (legs, unknownTypeReason legs.other)
  else (legs, unusable)

/-- What the entries of one type charge. -/
def charged (included : List IncludedFee) (kind : String) : ℤ :=
  ((included.filter fun fee => fee.kind = kind).map IncludedFee.amount).sum

section Legs

variable {ingressAsset egressAsset : String × String}

theorem otherAssetReason_ne (kind : String) (stated expected : String × String) :
    otherAssetReason kind stated expected ≠ "" := by
  intro h
  have hlist := congrArg String.toList h
  rw [otherAssetReason, String.toList_append] at hlist
  cases hlist

theorem unknownTypeReason_ne (units : ℤ) : unknownTypeReason units ≠ "" := by
  intro h
  have hlist := congrArg String.toList h
  rw [unknownTypeReason, String.toList_append] at hlist
  cases hlist

/-- One entry leaves no reason exactly when there was none and it states the
    asset its leg is computed in. -/
theorem legStep_usable_iff {acc : FeeLegs × String} {fee : IncludedFee} :
    (legStep ingressAsset egressAsset acc fee).2 = "" ↔ acc.2 = ""
      ∧ ∀ expected, denominated ingressAsset egressAsset fee.kind = some expected →
        fee.stated = expected := by
  rw [legStep]
  cases hd : denominated ingressAsset egressAsset fee.kind with
  | none =>
      refine (and_iff_left ?_).symm
      intro expected h
      cases h
  | some asset =>
      dsimp only
      by_cases hbad : fee.stated ≠ asset ∧ acc.2 = ""
      · rw [if_pos hbad]
        refine iff_of_false (otherAssetReason_ne _ _ _) ?_
        rintro ⟨-, h⟩
        exact hbad.1 (h asset rfl)
      · rw [if_neg hbad]
        constructor
        · intro hnone
          refine ⟨hnone, ?_⟩
          rintro expected h
          obtain rfl := Option.some.inj h
          by_contra hne
          exact hbad ⟨hne, hnone⟩
        · exact And.left

/-- All entries leave no reason exactly when each of them does. -/
theorem foldl_usable_iff {included : List IncludedFee} :
    ∀ {acc : FeeLegs × String},
      (included.foldl (legStep ingressAsset egressAsset) acc).2 = "" ↔ acc.2 = ""
        ∧ ∀ fee ∈ included, ∀ expected,
          denominated ingressAsset egressAsset fee.kind = some expected →
            fee.stated = expected := by
  induction included with
  | nil =>
      intro acc
      simp
  | cons fee included ih =>
      intro acc
      rw [List.foldl_cons, ih, legStep_usable_iff, List.forall_mem_cons, and_assoc]

theorem charged_cons (fee : IncludedFee) (included : List IncludedFee) (kind : String) :
    charged (fee :: included) kind
      = (if fee.kind = kind then fee.amount else 0) + charged included kind := by
  unfold charged
  by_cases hkind : fee.kind = kind
  · rw [List.filter_cons, if_pos (decide_eq_true hkind), if_pos hkind, List.map_cons,
      List.sum_cons]
  · rw [List.filter_cons, if_neg (by simpa using hkind), if_neg hkind, zero_add]

/-- An entry grows the leg of its type and no other. -/
theorem FeeLegs.add_legs (legs : FeeLegs) (fee : IncludedFee) :
    (legs.add fee).ingress = legs.ingress + (if fee.kind = "INGRESS" then fee.amount else 0)
      ∧ (legs.add fee).egress
        = legs.egress + (if fee.kind = "EGRESS" then fee.amount else 0) := by
  rw [add]
  by_cases hi : fee.kind = "INGRESS"
  · simp [hi]
  · by_cases hn : fee.kind = "NETWORK"
    · simp [hn]
    · by_cases he : fee.kind = "EGRESS"
      · simp [he]
      · simp [hi, hn, he]

/-- The legs are the sums of their entries. -/
theorem foldl_legs {included : List IncludedFee} :
    ∀ {acc : FeeLegs × String},
      (included.foldl (legStep ingressAsset egressAsset) acc).1.ingress
          = acc.1.ingress + charged included "INGRESS"
        ∧ (included.foldl (legStep ingressAsset egressAsset) acc).1.egress
          = acc.1.egress + charged included "EGRESS" := by
  induction included with
  | nil =>
      intro acc
      exact ⟨(add_zero _).symm, (add_zero _).symm⟩
  | cons fee included ih =>
      intro acc
      have hstep : (legStep ingressAsset egressAsset acc fee).1 = acc.1.add fee := rfl
      obtain ⟨haddIngress, haddEgress⟩ := acc.1.add_legs fee
      obtain ⟨hingress, hegress⟩ := @ih (legStep ingressAsset egressAsset acc fee)
      rw [List.foldl_cons, hingress, hegress, hstep, haddIngress, haddEgress, charged_cons,
        charged_cons]
      exact ⟨add_assoc _ _ _, add_assoc _ _ _⟩

/-- **When the legs are numbers**: no reason is given exactly when every INGRESS
    entry is charged in the source asset, every EGRESS entry in the destination
    asset, and the entries of unknown type cancel out. -/
theorem nativeFeeLegs_usable_iff (included : List IncludedFee) :
    (nativeFeeLegs included ingressAsset egressAsset).2 = ""
      ↔ (∀ fee ∈ included, (fee.kind = "INGRESS" → fee.stated = ingressAsset)
          ∧ (fee.kind = "EGRESS" → fee.stated = egressAsset))
        ∧ (nativeFeeLegs included ingressAsset egressAsset).1.other = 0 := by
  have hdenominated : ∀ fee : IncludedFee,
      (∀ expected, denominated ingressAsset egressAsset fee.kind = some expected →
        fee.stated = expected) ↔ (fee.kind = "INGRESS" → fee.stated = ingressAsset)
          ∧ (fee.kind = "EGRESS" → fee.stated = egressAsset) := by
    intro fee
    rw [denominated]
    by_cases hi : fee.kind = "INGRESS"
    · simp [hi]
    · by_cases he : fee.kind = "EGRESS"
      · simp [he]
      · simp [hi, he]
  have hfold := @foldl_usable_iff ingressAsset egressAsset included
    ({ ingress := 0, network := 0, egress := 0, other := 0 }, "")
  simp only [hdenominated] at hfold
  rw [nativeFeeLegs]
  generalize included.foldl (legStep ingressAsset egressAsset)
    ({ ingress := 0, network := 0, egress := 0, other := 0 }, "") = legs at hfold
  obtain ⟨legs, unusable⟩ := legs
  dsimp only at hfold ⊢
  -- unknown types are reported only when no entry was
  by_cases hother : legs.other = 0
  · rw [if_neg (fun h => h.1 hother), hfold]
    simp [hother]
  · by_cases hnone : unusable = ""
    · rw [if_pos ⟨hother, hnone⟩]
      exact iff_of_false (unknownTypeReason_ne _) fun h => hother h.2
    · rw [if_neg (fun h => hnone h.2)]
      exact iff_of_false hnone fun h => hother h.2

/-- The legs that are used are the sums of their entries. -/
theorem nativeFeeLegs_sums (included : List IncludedFee) :
    (nativeFeeLegs included ingressAsset egressAsset).1.ingress = charged included "INGRESS"
      ∧ (nativeFeeLegs included ingressAsset egressAsset).1.egress
        = charged included "EGRESS" := by
  have hfold := @foldl_legs ingressAsset egressAsset included
    ({ ingress := 0, network := 0, egress := 0, other := 0 }, "")
  rw [nativeFeeLegs]
  generalize included.foldl (legStep ingressAsset egressAsset)
    ({ ingress := 0, network := 0, egress := 0, other := 0 }, "") = legs at hfold
  obtain ⟨legs, unusable⟩ := legs
  dsimp only at hfold ⊢
  rw [zero_add, zero_add] at hfold
  split
  · exact hfold
  · exact hfold

end Legs

/-! ## The price -/

/-- Rounding up gives the least price that pays for the numerator. -/
theorem ceil_isLeast {n d : ℤ} (hd : 0 < d) : IsLeast {p : ℤ | n ≤ p * d} (-(-n / d)) := by
  constructor
  · have hfloor : -n / d * d ≤ -n := Int.ediv_mul_le (-n) hd.ne'
    show n ≤ -(-n / d) * d
    rw [neg_mul]
    omega
  · intro p hp
    have hle : -p ≤ -n / d := by
      rw [Int.le_ediv_iff_mul_le hd, neg_mul]
      exact neg_le_neg hp
    omega

/-- What a price that is returned was computed from. -/
theorem minPrice_eq_ok {quote : ChainflipQuote} {bps : Option ℤ} {price floor : ℤ}
    (h : minPrice quote bps = .ok (price, floor)) :
    minOutputAmount quote bps = .ok floor
      ∧ 0 < quote.depositAmount - quote.ingressFee
      ∧ price = -(-((floor + quote.egressFee) * 2 ^ 128)
        / (quote.depositAmount - quote.ingressFee)) := by
  rw [minPrice] at h
  split at h
  · cases h
  · obtain ⟨out, hout, h⟩ := bind_eq_ok h
    dsimp only at h
    split at h
    · cases h
    · rename_i hinput
      obtain ⟨rfl, rfl⟩ := Prod.mk.inj (Except.ok.inj h)
      exact ⟨hout, not_le.mp hinput, rfl⟩

/-- The floor is the quote less the tolerance, rounded down. -/
theorem minOutputAmount_eq_ok {quote : ChainflipQuote} {bps : Option ℤ} {floor : ℤ}
    (h : minOutputAmount quote bps = .ok floor) :
    floor = quote.egressAmount * (10000 - bps.getD quote.recommendedSlippageBps) / 10000
      ∧ bps.getD quote.recommendedSlippageBps < 10000 := by
  unfold minOutputAmount at h
  dsimp only at h
  split at h
  · rename_i hbps
    exact ⟨(Except.ok.inj h).symm, hbps.2⟩
  · cases h

/-- An ingress fee that swallows the deposit leaves nothing to price. -/
theorem minPrice_raises {quote : ChainflipQuote} (bps : Option ℤ)
    (h : quote.depositAmount ≤ quote.ingressFee) : ∃ e, minPrice quote bps = .error e := by
  cases hprice : minPrice quote bps with
  | error e => exact ⟨e, rfl⟩
  | ok result =>
      obtain ⟨-, hinput, -⟩ := minPrice_eq_ok hprice
      omega

/-- A price that covers `n` at the smaller of two inputs covers it at the larger,
    unless both are negative. -/
theorem le_of_price {n price small big scale output : ℤ} (hscale : 0 < scale)
    (hsmall : 0 < small) (hbig : small ≤ big) (hn : 0 ≤ n) (hprice : n * scale ≤ price * small)
    (houtput : price * big ≤ output * scale) : n ≤ output := by
  have hnonneg : 0 ≤ price * small := le_trans (mul_nonneg hn hscale.le) hprice
  have hpos : 0 ≤ price := nonneg_of_mul_nonneg_left hnonneg hsmall
  have hmono : price * small ≤ price * big := mul_le_mul_of_nonneg_left hbig hpos
  exact le_of_mul_le_mul_right (hprice.trans (hmono.trans houtput)) hscale

/-- **What the price protects.**  The floor is the quote less the tolerance; the
    price is the least that covers it; an output at that price of the swap's own
    input delivers the floor, and so does a delivery at that price of the whole
    deposit.  An ingress fee that swallows the deposit is refused. -/
theorem minPrice_protects (quote : ChainflipQuote) (bps : Option ℤ) :
    (∀ price floor, minPrice quote bps = .ok (price, floor) →
      floor = ⌊((quote.egressAmount
          * (10000 - bps.getD quote.recommendedSlippageBps) : ℤ) : ℚ) / 10000⌋
        ∧ IsLeast {p : ℤ | (floor + quote.egressFee) * 2 ^ 128
            ≤ p * (quote.depositAmount - quote.ingressFee)} price
        ∧ (∀ output : ℤ,
            price * (quote.depositAmount - quote.ingressFee) ≤ output * 2 ^ 128 →
              floor ≤ output - quote.egressFee)
        ∧ (0 ≤ quote.ingressFee → 0 ≤ quote.egressFee →
            ∀ delivered : ℤ, 0 ≤ delivered ∨ 0 ≤ quote.egressAmount →
              price * quote.depositAmount ≤ delivered * 2 ^ 128 → floor ≤ delivered))
    ∧ (quote.depositAmount ≤ quote.ingressFee → ∃ e, minPrice quote bps = .error e) := by
  refine ⟨?_, minPrice_raises bps⟩
  intro price floor h
  obtain ⟨hfloor, hinput, hprice⟩ := minPrice_eq_ok h
  obtain ⟨hfloor, hbps⟩ := minOutputAmount_eq_ok hfloor
  have hleast := ceil_isLeast (n := (floor + quote.egressFee) * 2 ^ 128) hinput
  rw [← hprice] at hleast
  have hscale : (0 : ℤ) < 2 ^ 128 := by positivity
  refine ⟨?_, hleast, ?_, ?_⟩
  · -- the source divides integers, which is the floor of the quotient
    rw [hfloor]
    exact (Rat.floor_intCast_div_natCast _ 10000).symm
  · intro output houtput
    have hcover := le_of_mul_le_mul_right (hleast.1.trans houtput) hscale
    omega
  · intro hingress hegress delivered hsign hdelivered
    by_cases hneg : floor + quote.egressFee < 0
    · -- a floor below zero protects nothing, and no delivery is negative
      rcases hsign with hpos | hquote
      · omega
      · have hnonneg : 0 ≤ floor := by
          rw [hfloor]
          exact Int.ediv_nonneg (mul_nonneg hquote (by omega)) (by decide)
        omega
    · -- the deposit is no smaller than the input it was priced at
      have hcover := le_of_price hscale hinput (by omega) (not_lt.mp hneg) hleast.1 hdelivered
      omega

/-- The quote of one USDC, with both flat fees charged. -/
def usdcQuoteWithFees : ChainflipQuote := { usdcQuote with ingressFee := 700, egressFee := 12 }

/-- Its floor is 2970, and at its price neither reading delivers less. -/
theorem minPrice_protects_usdc :
    minPrice usdcQuoteWithFees none = .ok (1015432821133031620181910416653190040, 2970)
      ∧ (∀ output : ℤ, 1015432821133031620181910416653190040 * 999300 ≤ output * 2 ^ 128 →
          2970 ≤ output - 12)
      ∧ ∀ delivered : ℤ, 1015432821133031620181910416653190040 * 1000000 ≤ delivered * 2 ^ 128 →
          2970 ≤ delivered := by
  have hprice : minPrice usdcQuoteWithFees none
      = .ok (1015432821133031620181910416653190040, 2970) := by decide +kernel
  obtain ⟨-, -, hnet, hgross⟩ := (minPrice_protects usdcQuoteWithFees none).1 _ _ hprice
  exact ⟨hprice, hnet, fun delivered hdelivered =>
    hgross (by decide) (by decide) delivered (Or.inr (by decide)) hdelivered⟩

end SwapsackChainflip
