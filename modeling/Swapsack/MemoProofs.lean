import Swapsack.VerifyProofs

/-! # Swap memos

    A quote's memo has fields separated by colons,
    `=:ASSET:DEST[:LIM[/interval/quantity][:AFFILIATE[:BPS]]]`, and the DEST
    field alone decides who is paid.  The gates ask whether the destination
    occurs anywhere in the memo.  A destination has no colon, so what occurs in
    the memo occurs inside one of its fields:

    * `isIn_render` — occurrence is per field;
    * `memoPaysDestination_iff` — what the text search accepts;
    * `destinationCheck_iff` — when an accepted memo pays the destination. -/

namespace SwapsackMemo

open ListKit ByteString PyText Wire SwapsackBase SwapsackCosmosTx SwapsackVerify

/-- A text without a colon: the content of a memo field. -/
abbrev Field := { s : String // ':' ∉ s.toList }

/-- What may follow the destination. -/
structure MemoTail where
  lim : Field
  /-- the streaming interval and quantity -/
  streaming : Option (Field × Field) := none
  /-- an affiliate and its basis points -/
  affiliate : Option (Field × Option Field) := none

/-- A swap memo, as THORChain and Maya read one. -/
structure SwapMemo where
  asset : Field
  dest : Field
  tail : Option MemoTail := none

/-- The LIM field, with its streaming suffix. -/
def MemoTail.limText (t : MemoTail) : List Char :=
  match t.streaming with
  | none => t.lim.1.toList
  | some (interval, quantity) =>
      t.lim.1.toList ++ '/' :: interval.1.toList ++ '/' :: quantity.1.toList

def MemoTail.fields (t : MemoTail) : List (List Char) :=
  t.limText ::
    match t.affiliate with
    | none => []
    | some (affiliate, none) => [affiliate.1.toList]
    | some (affiliate, some bps) => [affiliate.1.toList, bps.1.toList]

/-- The fields of a memo, in order. -/
def SwapMemo.fields (m : SwapMemo) : List (List Char) :=
  ['='] :: m.asset.1.toList :: m.dest.1.toList ::
    match m.tail with
    | none => []
    | some tail => tail.fields

/-- The memo as it is quoted. -/
def SwapMemo.render (m : SwapMemo) : String :=
  String.ofList ([':'].intercalate m.fields)

/-- A destination occurs in a memo exactly when it occurs in one of its fields. -/
theorem isIn_render {destination : String} (hcolon : ':' ∉ destination.toList)
    (m : SwapMemo) :
    isIn destination m.render = true
      ↔ ∃ field ∈ m.fields, destination.toList <:+: field := by
  rw [isIn_iff, SwapMemo.render, String.toList_ofList]
  exact infix_intercalate hcolon (List.cons_ne_nil _ _)

section Destination

variable [PyUnicode]

/-- The destination is an EVM address, matched in any case. -/
def IsHexAddress (destination : String) : Prop :=
  startsWith (PyUnicode.lower destination) "0x" = true

/-- The memo's DEST field is the destination. -/
def PaysField (destination : String) (m : SwapMemo) : Prop :=
  m.dest.1 = destination
    ∨ IsHexAddress destination
      ∧ PyUnicode.lower m.dest.1 = PyUnicode.lower destination

/-- The destination occurs in some field, or, for an EVM address, its lower-case
    form occurs between two colons of the lower-cased memo. -/
def OccursInField (destination : String) (m : SwapMemo) : Prop :=
  (∃ field ∈ m.fields, destination.toList <:+: field)
    ∨ IsHexAddress destination
      ∧ ∃ piece ∈ (PyUnicode.lower m.render).toList.splitOn ':',
          (PyUnicode.lower destination).toList <:+: piece

/-- **What the text search accepts**: any field that contains the destination. -/
theorem memoPaysDestination_iff {destination : String} (hne : destination ≠ "")
    (hcolon : ':' ∉ destination.toList) (m : SwapMemo) :
    memoPaysDestination destination (.text m.render) = true
      ↔ OccursInField destination m := by
  unfold memoPaysDestination OccursInField IsHexAddress
  rw [if_neg hne]
  dsimp only
  rw [← isIn_render hcolon]
  by_cases hin : isIn destination m.render = true
  · rw [if_pos hin]
    exact ⟨fun _ => Or.inl hin, fun _ => rfl⟩
  · rw [if_neg hin]
    by_cases hhex : startsWith (PyUnicode.lower destination) "0x" = true
    · rw [if_pos hhex, isIn_iff,
        infix_iff_mem_splitOn (PyUnicode.lower_colon _ hcolon)]
      constructor
      · intro h
        exact Or.inr ⟨hhex, h⟩
      · rintro (h | ⟨-, h⟩)
        · exact absurd h hin
        · exact h
    · rw [if_neg hhex]
      constructor
      · intro h
        exact nomatch h
      · rintro (h | ⟨h, -⟩)
        · exact absurd h hin
        · exact absurd h hhex

/-! ## The four gates -/

/-- Every gate that looks for the destination accepts only memos whose DEST
    field is the destination. -/
structure GatesCheckDest (destination : String) (m : SwapMemo) : Prop where
  btc : ∀ outputs fee (plan : SwapPlan) owned now maxFee memoMaxBytes,
    plan.destination = destination → plan.memo = .text m.render →
    Problem.memoDestination plan.memo plan.destination
      ∉ verifyBtcSwap outputs fee plan owned now maxFee memoMaxBytes →
    PaysField destination m
  eth : ∀ toAddress value data chainId gas maxFeePerGas (plan : EthSwapPlan) now
      maxFeeWei,
    plan.destination = destination → plan.memo = m.render →
    Problem.memoDestination (.text plan.memo) plan.destination
      ∉ verifyEthSwap toAddress value data chainId gas maxFeePerGas plan now maxFeeWei →
    PaysField destination m
  tron : ∀ contractType toAddress amountSun memo (plan : TronSwapPlan) now,
    plan.destination = destination → plan.memo = m.render →
    Problem.memoDestination (.text plan.memo) plan.destination
      ∉ verifyTronSwap contractType toAddress amountSun memo plan now →
    PaysField destination m
  cosmos : ∀ decoded (plan : CosmosDepositPlan) now,
    plan.destination = destination → plan.memo = m.render →
    Problem.memoDestination (.text plan.memo) plan.destination
      ∉ verifyCosmosDeposit decoded plan now →
    PaysField destination m

/-- A gate that does not complain found the destination in the memo. -/
theorem gatesCheckDest_of_pays {destination : String} {m : SwapMemo}
    (h : memoPaysDestination destination (.text m.render) = true →
      PaysField destination m) : GatesCheckDest destination m := by
  constructor
  · rintro outputs fee plan owned now maxFee memoMaxBytes rfl hmemo hgate
    rw [hmemo] at hgate
    by_contra hnot
    have hfails := mt h hnot
    simp [verifyBtcSwap, hmemo, hfails] at hgate
  · rintro toAddress value data chainId gas maxFeePerGas plan now maxFeeWei rfl hmemo
      hgate
    rw [hmemo] at hgate
    by_contra hnot
    have hfails := mt h hnot
    simp [verifyEthSwap, hmemo, hfails] at hgate
  · rintro contractType toAddress amountSun memo plan now rfl hmemo hgate
    rw [hmemo] at hgate
    by_contra hnot
    have hfails := mt h hnot
    simp [verifyTronSwap, hmemo, hfails] at hgate
  · rintro decoded plan now rfl hmemo hgate
    rw [hmemo] at hgate
    by_contra hnot
    have hfails := mt h hnot
    simp [verifyCosmosDeposit, hmemo, hfails] at hgate

end Destination

/-- **When the destination check can be trusted.**  An accepted memo pays the
    destination, at every gate, exactly for the memos that pay it or mention it
    in no field at all. -/
theorem destinationCheck_iff (U : PyUnicode) (destination : String)
    (hne : destination ≠ "") (hcolon : ':' ∉ destination.toList) (m : SwapMemo) :
    ((memoPaysDestination destination (.text m.render) = true →
        PaysField destination m)
      ∧ GatesCheckDest destination m)
      ↔ PaysField destination m ∨ ¬ OccursInField destination m := by
  have hiff := memoPaysDestination_iff hne hcolon m
  constructor
  · rintro ⟨hpays, -⟩
    by_cases hin : OccursInField destination m
    · exact Or.inl (hpays (hiff.mpr hin))
    · exact Or.inr hin
  · intro h
    have hpays : memoPaysDestination destination (.text m.render) = true →
        PaysField destination m := by
      intro haccept
      rcases h with hfield | hnot
      · exact hfield
      · exact absurd (hiff.mp haccept) hnot
    exact ⟨hpays, gatesCheckDest_of_pays hpays⟩

/-! ## Honest and dishonest memos -/

/-- A memo that pays the wallet, with an affiliate. -/
def honestMemo : SwapMemo :=
  { asset := ⟨"BTC.BTC", by decide⟩, dest := ⟨"bc1qme", by decide⟩
    tail := some
      { lim := ⟨"0", by decide⟩
        affiliate := some (⟨"fee", by decide⟩, some ⟨"10", by decide⟩) } }

/-- A memo that pays somebody else and names the wallet as its affiliate. -/
def dishonestMemo : SwapMemo :=
  { asset := ⟨"BTC.BTC", by decide⟩, dest := ⟨"bc1qthief", by decide⟩
    tail := some
      { lim := ⟨"0", by decide⟩
        affiliate := some (⟨"bc1qme", by decide⟩, some ⟨"0", by decide⟩) } }

theorem destinationCheck_iff_honestMemo :
    (@memoPaysDestination asciiUnicode "bc1qme" (.text honestMemo.render) = true →
        @PaysField asciiUnicode "bc1qme" honestMemo)
      ∧ @GatesCheckDest asciiUnicode "bc1qme" honestMemo :=
  (destinationCheck_iff asciiUnicode "bc1qme" (by decide) (by decide)
    honestMemo).mpr (Or.inl (Or.inl rfl))

/-- The check accepts a memo that pays somebody else. -/
theorem destinationCheck_accepts_affiliate :
    ¬ ∀ [PyUnicode] (destination : String) (m : SwapMemo), destination ≠ "" →
        ':' ∉ destination.toList →
        (memoPaysDestination destination (.text m.render) = true →
            PaysField destination m)
          ∧ GatesCheckDest destination m := by
  intro h
  obtain ⟨hpays, -⟩ := @h asciiUnicode "bc1qme" dishonestMemo (by decide) (by decide)
  have haccept : @memoPaysDestination asciiUnicode "bc1qme"
      (.text dishonestMemo.render) = true := by decide
  rcases hpays haccept with hdest | ⟨hhex, -⟩
  · exact absurd hdest (by decide)
  · have hplain : startsWith (asciiUnicode.lower "bc1qme") "0x" = false := by decide
    have hhex' : startsWith (asciiUnicode.lower "bc1qme") "0x" = true := hhex
    rw [hplain] at hhex'
    exact nomatch hhex'

end SwapsackMemo
