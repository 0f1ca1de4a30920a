import Mathlib.Algebra.Order.Group.Unbundled.Int
import Mathlib.Algebra.Order.Ring.Int
import Swapsack.ByteStringProofs

/-! # The neutral transaction model

    The shapes every chain adapter and every safety gate share: what an
    explorer reports about a broadcast transaction (`TxEntry`, `TxSummary`),
    what the wallet can spend (`Utxo`), and what a gate reads back from an
    unsigned transaction (`TxOutput`).  Amounts are in the chain's base units.

    * `rescale_back_le` — an amount converted into other units and back is never
      more than it was;
    * `rescale_back` — and is all of it, when the first units are whole numbers of
      the second. -/

/-! ## Amounts in other units -/

namespace Rescaling

variable {p q x : ℤ}

/-- An amount of units of which `p` make a coin, in units of which `q` do. -/
def rescale (p q x : ℤ) : ℤ := x * q / p

theorem rescale_mul_le (hp : 0 < p) : rescale p q x * p ≤ x * q :=
  Int.ediv_mul_le _ hp.ne'

/-- **There and back is no gain.** -/
theorem rescale_back_le (hp : 0 < p) (hq : 0 < q) : rescale q p (rescale p q x) ≤ x := by
  have hfloor : rescale p q x * p ≤ x * q := rescale_mul_le hp
  calc rescale q p (rescale p q x) ≤ x * q / q := Int.ediv_le_ediv hq hfloor
    _ = x := Int.mul_ediv_cancel x hq.ne'

/-- Whole units of the other kind lose nothing. -/
theorem rescale_mul (h : p ∣ q) : rescale p q x * p = x * q :=
  Int.ediv_mul_cancel (h.mul_left x)

/-- **There and back is no loss**, where the first units are whole numbers of the
    second. -/
theorem rescale_back (hq : q ≠ 0) (h : p ∣ q) : rescale q p (rescale p q x) = x := by
  rw [rescale, rescale_mul h]
  exact Int.mul_ediv_cancel x hq

end Rescaling

/-! ## Transactions -/

namespace SwapsackBase

open ByteString

/-- What a Python call can raise, with the message where the wallet composes
    one.  `library` stands for an exception raised inside a chain library. -/
inductive PyError where
  | valueError (text : String)
  | runtimeError (text : String)
  | insufficientFunds (text : String)
  | zcashTxError (text : String)
  | unicodeError
  | keyError
  | indexError
  | typeError
  | attributeError
  | structError
  | overflowError
  | library
deriving DecidableEq

/-- A memo: text on THORChain/Maya, bytes for a Chainflip vault swap. -/
inductive Memo where
  | text (s : String)
  | binary (b : Bytes)
deriving DecidableEq

/-- An nSequence at or above this does not signal BIP125 replace-by-fee. -/
def rbfSequenceMax : ℤ := 0xFFFFFFFE

/-- One input or output of a broadcast transaction, as an explorer reports it. -/
structure TxEntry where
  value : ℤ
  address : Option String := none
  opReturn : Bool := false
  -- inputs only: the outpoint being spent and the sequence it was spent with
  txid : Option String := none
  vout : Option ℤ := none
  sequence : Option ℤ := none
  -- outputs only: the decoded payload, when there is one that could be read
  opReturnData : Option Bytes := none
  spentBy : Option String := none
deriving DecidableEq

/-- What a broadcast transaction did; inputs and outputs stand in order. -/
structure TxSummary where
  txid : String
  confirmed : Bool
  blockHeight : Option ℤ
  fee : ℤ
  vsize : ℕ
  inputs : List TxEntry
  outputs : List TxEntry
  blockTime : Option ℤ := none
deriving DecidableEq

def TxSummary.totalIn (tx : TxSummary) : ℤ := (tx.inputs.map TxEntry.value).sum

def TxSummary.totalOut (tx : TxSummary) : ℤ := (tx.outputs.map TxEntry.value).sum

/-- BIP125 applies: some input's reported sequence is below the boundary. -/
def TxSummary.signalsRbf (tx : TxSummary) : Bool :=
  tx.inputs.any fun i =>
    match i.sequence with
    | some s => decide (s < rbfSequenceMax)
    | none => false

/-- A spendable output.  `ancestorDeficit` is what its unconfirmed parent is
    short of the target fee rate. -/
structure Utxo where
  txid : String
  vout : ℤ
  value : ℤ
  address : String
  path : Option String := none
  confirmed : Bool := true
  ancestorDeficit : ℕ := 0
deriving DecidableEq

/-- One output of an unsigned transaction, as the gates read it. -/
structure TxOutput where
  address : Option String
  value : ℤ
  opReturnData : Option Bytes := none
deriving DecidableEq

end SwapsackBase
