import Mathlib.Algebra.BigOperators.Group.List.Basic
import Swapsack.ByteStringProofs

/-! # Bitcoin transactions on the wire

    The serialization of a signed transaction and its virtual size.  Witness
    bytes count a quarter of the others; a transaction without any is
    serialized without the witness marker.

    * `stripped_length` — the size of everything but the witnesses;
    * `vsize_eq` — the virtual size: the stripped size, and a quarter of the
      marker and the witnesses, rounded up. -/

namespace BitcoinWire

open ByteString

/-- An input: the outpoint it spends, its script, and its serialized witness. -/
structure Input where
  txid : Bytes
  index : ℕ
  scriptSig : Bytes
  sequence : ℕ
  witness : Bytes
deriving DecidableEq

/-- An output: satoshis and a script. -/
structure Output where
  value : ℕ
  script : Bytes
deriving DecidableEq

/-- A transaction, with the witness of each input beside it. -/
structure Tx where
  version : ℕ
  inputs : List Input
  outputs : List Output
  lockTime : ℕ
deriving DecidableEq

/-- A count or a length, in its shortest form. -/
def compactSize (n : ℕ) : Bytes :=
  if n < 0xFD then [UInt8.ofNat n]
  else if n < 2 ^ 16 then 0xFD :: leBytes 2 n
  else if n < 2 ^ 32 then 0xFE :: leBytes 4 n
  else 0xFF :: leBytes 8 n

/-- An input without its witness. -/
def serializeInput (i : Input) : Bytes :=
  i.txid ++ leBytes 4 i.index ++ compactSize i.scriptSig.length ++ i.scriptSig
    ++ leBytes 4 i.sequence

/-- An output: eight bytes of value and the script, counted. -/
def serializeOutput (o : Output) : Bytes :=
  leBytes 8 o.value ++ compactSize o.script.length ++ o.script

/-- The inputs and outputs with their counts: what both serializations share. -/
def body (tx : Tx) : Bytes :=
  compactSize tx.inputs.length ++ tx.inputs.flatMap serializeInput
    ++ compactSize tx.outputs.length ++ tx.outputs.flatMap serializeOutput

/-- The serialization without witnesses. -/
def stripped (tx : Tx) : Bytes :=
  leBytes 4 tx.version ++ body tx ++ leBytes 4 tx.lockTime

/-- The witnesses, in the order of the inputs. -/
def witnesses (tx : Tx) : Bytes := tx.inputs.flatMap Input.witness

/-- The serialization that is relayed: marker and flag announce the witnesses. -/
def serialize (tx : Tx) : Bytes :=
  if witnesses tx = [] then stripped tx
  else leBytes 4 tx.version ++ [0x00, 0x01] ++ body tx ++ witnesses tx
    ++ leBytes 4 tx.lockTime

/-- The bytes without witnesses count four times, the others once. -/
def weight (tx : Tx) : ℕ := 3 * (stripped tx).length + (serialize tx).length

/-- The virtual size: a quarter of the weight, rounded up. -/
def vsize (tx : Tx) : ℕ := (weight tx + 3) / 4

/-! ## Sizes -/

/-- A small count takes one byte. -/
theorem compactSize_length {n : ℕ} (h : n < 253) : (compactSize n).length = 1 := by
  rw [compactSize, if_pos h]
  rfl

/-- An output with a small script takes nine bytes more than the script. -/
theorem serializeOutput_length {o : Output} (h : o.script.length < 253) :
    (serializeOutput o).length = 9 + o.script.length := by
  rw [serializeOutput, List.length_append, List.length_append, leBytes_length,
    compactSize_length h]

/-- Without witnesses, a transaction is as long as its parts and ten bytes. -/
theorem stripped_length {tx : Tx} (hin : tx.inputs.length < 253)
    (hout : tx.outputs.length < 253) :
    (stripped tx).length
      = 10 + (tx.inputs.map fun i => (serializeInput i).length).sum
        + (tx.outputs.map fun o => (serializeOutput o).length).sum := by
  rw [stripped, body]
  simp only [List.length_append, leBytes_length, List.length_flatMap]
  rw [compactSize_length hin, compactSize_length hout]
  omega

theorem witnesses_length (tx : Tx) :
    (witnesses tx).length = (tx.inputs.map fun i => i.witness.length).sum := by
  rw [witnesses, List.length_flatMap]

/-- **The virtual size**: witnesses cost a quarter, and their marker two bytes. -/
theorem vsize_eq (tx : Tx) :
    vsize tx = (stripped tx).length
      + if (witnesses tx).length = 0 then 0 else ((witnesses tx).length + 2 + 3) / 4 := by
  by_cases hnone : witnesses tx = []
  · rw [vsize, weight, serialize, if_pos hnone, hnone, List.length_nil, if_pos rfl]
    omega
  · have hlen : (witnesses tx).length ≠ 0 :=
      fun h => hnone (List.length_eq_zero_iff.mp h)
    have htotal : (serialize tx).length
        = (stripped tx).length + 2 + (witnesses tx).length := by
      rw [serialize, if_neg hnone, stripped]
      simp only [List.length_append, leBytes_length, List.length_cons, List.length_nil]
      omega
    rw [vsize, weight, htotal, if_neg hlen]
    omega

end BitcoinWire
