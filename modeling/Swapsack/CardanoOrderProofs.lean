import Swapsack.CardanoTxProofs

/-! # The order in a transaction

    Inputs and witnesses are sets: they are written in one order, whatever order
    they are given in, so neither the bytes nor the fee depend on it.

    * `serialize_perm` — the bytes of a transaction do not depend on the order of
      its inputs and witnesses;
    * `requiredFee_perm` — nor does its fee. -/

namespace SwapsackCardanoTx

open ListKit ByteString SwapsackBase

/-! ## Pairs in the order of their keys -/

section Lex

variable {α : Type} (key : α → Bytes) {le : α → α → Prop}

/-- By a key of bytes, and where the keys are equal by what else is compared. -/
def LexLe (le : α → α → Prop) (a b : α) : Prop :=
  key a < key b ∨ key a = key b ∧ le a b

/-- The order by a key first is total where the other is, -/
theorem lexLe_total (hle : ∀ a b, le a b ∨ le b a) (a b : α) :
    LexLe key le a b ∨ LexLe key le b a := by
  by_cases hab : key a < key b
  · exact Or.inl (Or.inl hab)
  · by_cases hba : key b < key a
    · exact Or.inr (Or.inl hba)
    · have hkeys : key a = key b := List.le_antisymm hba hab
      rcases hle a b with h | h
      · exact Or.inl (Or.inr ⟨hkeys, h⟩)
      · exact Or.inr (Or.inr ⟨hkeys.symm, h⟩)

/-- transitive where it is, -/
theorem lexLe_trans (hle : ∀ a b c, le a b → le b c → le a c) {a b c : α}
    (h : LexLe key le a b) (h' : LexLe key le b c) : LexLe key le a c := by
  rcases h with hlt | ⟨hkeys, hrest⟩
  · rcases h' with hlt' | ⟨hkeys', -⟩
    · exact Or.inl (List.lt_trans hlt hlt')
    · exact Or.inl (hkeys' ▸ hlt)
  · rcases h' with hlt' | ⟨hkeys', hrest'⟩
    · exact Or.inl (hkeys.symm ▸ hlt')
    · exact Or.inr ⟨hkeys.trans hkeys', hle a b c hrest hrest'⟩

/-- and antisymmetric where it is among those of one key. -/
theorem lexLe_antisymm (hle : ∀ a b, key a = key b → le a b → le b a → a = b) {a b : α}
    (h : LexLe key le a b) (h' : LexLe key le b a) : a = b := by
  rcases h with hlt | ⟨hkeys, hrest⟩
  · rcases h' with hlt' | ⟨hkeys', -⟩
    · exact absurd (List.lt_trans hlt hlt') (List.lt_irrefl _)
    · exact absurd (hkeys' ▸ hlt) (List.lt_irrefl _)
  · rcases h' with hlt' | ⟨-, hrest'⟩
    · exact absurd (hkeys.symm ▸ hlt') (List.lt_irrefl _)
    · exact hle a b hkeys hrest hrest'

end Lex

instance : Std.Total inputLe :=
  ⟨lexLe_total TxIn.txid fun a b => le_total a.index b.index⟩

instance : IsTrans TxIn inputLe := ⟨by
  intro a b c
  exact lexLe_trans TxIn.txid fun (a b c : TxIn) (h : a.index ≤ b.index) => le_trans h⟩

instance : Std.Antisymm inputLe := ⟨by
  intro a b
  refine @lexLe_antisymm TxIn TxIn.txid (fun a b => a.index ≤ b.index) ?_ a b
  intro a b hkeys hab hba
  cases a
  cases b
  cases hkeys
  cases le_antisymm hab hba
  rfl⟩

instance : Std.Total witnessLe :=
  ⟨lexLe_total Prod.fst fun a b => List.le_total a.2 b.2⟩

instance : IsTrans (Bytes × Bytes) witnessLe := ⟨by
  intro a b c
  exact lexLe_trans Prod.fst fun (a b c : Bytes × Bytes) (h : a.2 ≤ b.2) => List.le_trans h⟩

instance : Std.Antisymm witnessLe := ⟨by
  intro a b
  refine @lexLe_antisymm (Bytes × Bytes) Prod.fst (fun a b => a.2 ≤ b.2) ?_ a b
  intro a b hkeys hab hba
  exact Prod.ext hkeys (List.le_antisymm hab hba)⟩

/-- Sorting forgets the order it was given. -/
theorem insertionSort_congr {α : Type} {r : α → α → Prop} [DecidableRel r] [Std.Total r]
    [IsTrans α r] [Std.Antisymm r] {l l' : List α} (h : l.Perm l') :
    l.insertionSort r = l'.insertionSort r := by
  refine List.Perm.eq_of_pairwise (fun a b _ _ => Std.Antisymm.antisymm a b)
    (List.pairwise_insertionSort r l) (List.pairwise_insertionSort r l') ?_
  exact (List.perm_insertionSort r l).trans (h.trans (List.perm_insertionSort r l').symm)

/-! ## What is written -/

variable (c : Codec)

/-- **The bytes do not depend on the order** of the inputs or of the witnesses. -/
theorem serialize_perm {tx : UnsignedTx} {inputs : List TxIn} {ws ws' : List (Bytes × Bytes)}
    (hinputs : tx.inputs.Perm inputs) (hws : ws.Perm ws') :
    serialize c tx ws = serialize c { tx with inputs } ws' := by
  rw [serialize, serialize, encodeBody, encodeBody, bodyItem, bodyItem, witnessSetItem,
    witnessSetItem, insertionSort_congr hinputs, insertionSort_congr hws]

/-- **Nor does the fee.** -/
theorem requiredFee_perm {tx : UnsignedTx} {inputs : List TxIn} {n : ℕ}
    {params : ProtocolParams} (hinputs : tx.inputs.Perm inputs) :
    requiredFee c tx n params = requiredFee c { tx with inputs } n params := by
  have hbytes : ∀ (fee : ℤ) (ws : List (Bytes × Bytes)),
      serialize c { tx with fee } ws = serialize c { { tx with inputs } with fee } ws := by
    intro fee ws
    exact @serialize_perm c { tx with fee } inputs ws ws hinputs (List.Perm.refl ws)
  simp only [requiredFee, hbytes]

end SwapsackCardanoTx
