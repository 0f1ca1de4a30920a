import Swapsack.ZcashProofs
import Swapsack.ZcashSighashProofs

/-! # The ZIP-317 fee of a Zcash build

    The coins are chosen against a count of inputs and outputs; the network
    prices the bytes of the two transparent fields.  This file compares the two
    on the bytes the wallet serializes.

    * `buildUnsignedSwap_readBack` — the outputs and the fee a gate reads;
    * `serializeOut_memo_length` — the size of an OP_RETURN output against the
      size it is priced at;
    * `conventionalFee_le` — a transaction of `n` P2PKH inputs and priced
      outputs has a conventional fee of at most `zip317Fee`;
    * `buildUnsignedSwap_fee_floor` — so no build pays less than the
      conventional fee of its signed transaction. -/

namespace SwapsackZip317

open ListKit ByteString PyText SwapsackBase SwapsackCoins SwapsackSelection
open SwapsackZcashTx SwapsackZcash SwapsackZcashSighash
open SwapsackUtxo (chooseInputs chooseInputs_cases chooseInputs_spec)

/-! ## The network's fee -/

/-- The sizes of the `tx_in` and `tx_out` fields of a serialization. -/
def transparentSizes (tx : TxV4) : Except PyError (ℕ × ℕ) := do
  let inputs ← tx.inputs.mapM serializeIn
  let outputs ← tx.outputs.mapM serializeOut
  .ok (inputs.flatten.length, outputs.flatten.length)

/-- The ZIP-317 conventional fee of a transparent transaction. -/
def conventionalFee (tx : TxV4) : Except PyError ℕ := do
  let (inBytes, outBytes) ← transparentSizes tx
  .ok (zip317MarginalFee * max (max zip317GraceActions ⌈(inBytes : ℚ) / 150⌉₊)
    ⌈(outBytes : ℚ) / 34⌉₊)

/-- The largest size of a signed P2PKH input. -/
def p2pkhInputBytes : ℕ := 148

/-- `ZecAdapter.sweep_send_amount`: the ZIP-317 fee, whatever the fee rate. -/
def sweepSendAmount (total : ℤ) (nInputs memoLen : ℕ) : Except PyError (ℤ × ℤ) :=
  sweepAmountZip317 total nInputs memoLen dustZec

/-! ## Sizes -/

theorem length_flatten_le {l : List Bytes} {k : ℕ} (h : ∀ b ∈ l, b.length ≤ k) :
    l.flatten.length ≤ l.length * k := by
  rw [List.length_flatten]
  have hsum := List.sum_le_card_nsmul (l.map List.length) k (by
    intro n hn
    obtain ⟨b, hb, rfl⟩ := List.mem_map.mp hn
    exact h b hb)
  rwa [List.length_map, Nat.nsmul_eq_mul] at hsum

/-- An output with a script of fewer than 253 bytes takes nine more. -/
theorem serializeOut_length {o : TxOut} {bs : Bytes} (hscript : o.script.length < 0xFD)
    (h : serializeOut o = .ok bs) : bs.length = 9 + o.script.length := by
  obtain ⟨value, hvalue, h⟩ := bind_eq_ok h
  obtain ⟨slen, hslen, h⟩ := bind_eq_ok h
  rw [varint, if_pos hscript] at hslen
  cases hslen
  cases h
  have hlen := packLE_length hvalue
  simp only [List.length_append, List.length_cons, List.length_nil]
  omega

section Outputs

variable [PyUnicode] {ad : ZecAdapter} {memo : Option Memo}

/-- A payment to an address takes at most the 34 bytes it is priced at. -/
theorem serializeOut_buildOutput_length (hb58 : ad.base58.Inverse) {value : ℤ}
    {address : String} {o : TxOut} {bs : Bytes} (ho : buildOutput ad value address = .ok o)
    (h : serializeOut o = .ok bs) : bs.length ≤ 34 := by
  obtain ⟨script, hscript, ho⟩ := bind_eq_ok ho
  cases ho
  obtain ⟨hash160, hhash, hshape⟩ := addressToScript_ok ad.base58 hb58 hscript
  have hlen : script.length ≤ 25 := by
    rcases hshape with ⟨rfl, -⟩ | ⟨rfl, -⟩
    · simp [p2pkhScript, hhash]
    · simp [p2shScript, hhash]
  have hbytes := serializeOut_length (show script.length < 0xFD by omega) h
  dsimp only at hbytes
  omega

omit [PyUnicode] in
/-- The OP_RETURN output of a memo takes at most what it is priced at, the byte
    of an OP_PUSHDATA1 included. -/
theorem serializeOut_memo_length {script bs : Bytes}
    (hscript : encodeOpReturn (memoBytes memo) = .ok script)
    (h : serializeOut { value := 0, script } = .ok bs) :
    bs.length ≤ opReturnVb (memoBytes memo).length + 1 := by
  have hfits := encodeOpReturn_length_le hscript
  have hlen : script.length ≤ 3 + (memoBytes memo).length := by
    rcases encodeOpReturn_cases hscript with ⟨-, rfl⟩ | ⟨-, -, rfl⟩
    · rw [List.length_cons, List.length_cons]
      omega
    · rw [List.length_cons, List.length_cons, List.length_cons]
      omega
  have hmax : opReturnMaxBytes = 80 := rfl
  have hbytes := serializeOut_length (show script.length < 0xFD by omega) h
  dsimp only at hbytes
  rw [opReturnVb]
  omega

/-- What the outputs of a build take together, a memo not being empty. -/
theorem outputBytes_le (hb58 : ad.base58.Inverse) {amount change : ℤ}
    {vaultAddress changeAddress : String} {vault : TxOut} {memoOuts changeOuts : List TxOut}
    {bss : List Bytes} (hmemoLen : ∀ m, memo = some m → 0 < (memoBytes memo).length)
    (hvault : buildOutput ad amount vaultAddress = .ok vault)
    (hmemo : memoOutputs memo = .ok memoOuts)
    (hchange : changeOutputs ad change changeAddress = .ok changeOuts)
    (h : (vault :: memoOuts ++ changeOuts).mapM serializeOut = .ok bss) :
    bss.flatten.length ≤ (if 0 < change then 2 else 1) * 34
      + if (memoBytes memo).length ≠ 0 then opReturnVb (memoBytes memo).length + 1
        else 0 := by
  rw [List.cons_append, List.mapM_cons, List.mapM_append] at h
  obtain ⟨first, hfirst, h⟩ := bind_eq_ok h
  obtain ⟨others, hothers, h⟩ := bind_eq_ok h
  obtain ⟨memos, hmemos, hothers⟩ := bind_eq_ok hothers
  obtain ⟨changes, hchanges, hothers⟩ := bind_eq_ok hothers
  cases hothers
  cases h
  have hvaultBytes := serializeOut_buildOutput_length hb58 hvault hfirst
  have hmemoBytes : memos.flatten.length
      ≤ if (memoBytes memo).length ≠ 0 then opReturnVb (memoBytes memo).length + 1
        else 0 := by
    rcases memoOutputs_ok hmemo with ⟨-, rfl⟩ | ⟨script, hsome, hscript, rfl⟩
    · cases hmemos
      exact Nat.zero_le _
    · obtain ⟨m, hm⟩ := Option.isSome_iff_exists.mp hsome
      obtain ⟨bs, hbs, rfl⟩ := mapM_singleton_ok hmemos
      rw [if_pos (hmemoLen m hm).ne', List.flatten_singleton]
      exact serializeOut_memo_length hscript hbs
  have hchangeBytes : changes.flatten.length ≤ if 0 < change then 34 else 0 := by
    rw [changeOutputs] at hchange
    split_ifs at hchange ⊢
    · obtain ⟨o, ho, hchange⟩ := bind_eq_ok hchange
      cases hchange
      obtain ⟨bs, hbs, rfl⟩ := mapM_singleton_ok hchanges
      rw [List.flatten_singleton]
      exact serializeOut_buildOutput_length hb58 ho hbs
    · cases hchange
      cases hchanges
      exact le_refl 0
  rw [List.flatten_cons, List.flatten_append, List.length_append, List.length_append]
  by_cases hpos : 0 < change
  · rw [if_pos hpos] at hchangeBytes ⊢
    omega
  · rw [if_neg hpos] at hchangeBytes ⊢
    omega

end Outputs

/-- **Bytes against counts.**  The fee of a count of inputs and outputs covers
    the conventional fee of the bytes they take. -/
theorem conventionalFee_le {tx : TxV4} {inBytes outBytes fee n k memoLen : ℕ}
    (hsizes : transparentSizes tx = .ok (inBytes, outBytes))
    (hin : inBytes ≤ n * p2pkhInputBytes)
    (hout : outBytes ≤ k * 34 + if memoLen ≠ 0 then opReturnVb memoLen + 1 else 0)
    (hfee : conventionalFee tx = .ok fee) : fee ≤ zip317Fee n k memoLen := by
  rw [conventionalFee, hsizes, ok_bind] at hfee
  cases hfee
  have hinputs : inBytes ≤ n * 150 :=
    hin.trans (Nat.mul_le_mul_left n (by decide))
  have houtputs : outBytes
      ≤ if memoLen ≠ 0 then k * 34 + (opReturnVb memoLen + 1) else k * 34 := by
    split_ifs at hout ⊢ <;> omega
  unfold zip317Fee
  dsimp only
  gcongr

/-! ## What a build pays -/

section Build

variable [PyUnicode] {ad : ZecAdapter} {mnemonic vaultAddress changeAddress : String}
  {utxos : List Utxo} {amount : ℤ} {memo : Option Memo} {sweep : Bool} {built : ZecBuilt}

/-- A build as it is read back from its bytes: the vault in canonical form, the
    memo, the change in canonical form, and a fee that balances. -/
structure ReadBack (ad : ZecAdapter) (vaultAddress : String) (amount : ℤ)
    (memo : Option Memo) (changeAddress : String) (built : ZecBuilt) : Prop where
  parsed : ∃ raw, serializeV4 built.tx = .ok raw ∧ parseV4 raw = .ok built.tx
    ∧ built.tx.outputs.mapM (extractOutput ad) = .ok built.outputs
  outputs_eq : ∃ payee change changeShown,
    canonicalAddress ad.base58 vaultAddress = .ok payee ∧ 0 ≤ change
    ∧ (0 < change → canonicalAddress ad.base58 changeAddress = .ok changeShown)
    ∧ built.outputs = SwapsackUtxo.builtOutputs payee amount memo change changeShown
  fee_eq : built.fee = (built.spent.map Prod.snd).sum
    - (built.outputs.map TxOutput.value).sum

omit [PyUnicode] in
theorem builtOutputs_sum {payee changeShown : String} {change : ℤ} (h : 0 ≤ change) :
    ((SwapsackUtxo.builtOutputs payee amount memo change changeShown).map
      TxOutput.value).sum = amount + change := by
  unfold SwapsackUtxo.builtOutputs
  split_ifs with hmemo hpos
  · simp
  · simp; omega
  · simp
  · simp; omega

theorem buildUnsignedSwap_readBack (hb58 : ad.base58.Inverse)
    (htxids : TxidsWellFormed utxos)
    (h : buildUnsignedSwap ad mnemonic utxos vaultAddress amount memo changeAddress
      sweep = .ok built) :
    ReadBack ad vaultAddress amount memo changeAddress built := by
  obtain ⟨chosen, change, vault, memoOuts, changeOuts, raw, parsed, hchosen, hvault,
    hmemo, hchange, hinputs, houts, hspent, hraw, hparsed, hextract⟩ :=
    buildUnsignedSwap_steps h
  obtain ⟨hbalance, hpos, -⟩ := chooseInputs_spec selectCoinsZip317_balance hchosen
  obtain ⟨payee, hpayee, hshown⟩ := extractOutput_buildOutput hb58 hvault
  obtain ⟨-, hmemoShown⟩ := extractOutputs_memo ad hmemo
  have hids := buildInputs_txid
    (fun u hu => htxids u (chooseInputs_mem hchosen u hu)) hinputs
  have hround : parsed = built.tx :=
    Except.ok.inj (hparsed.symm.trans (parseV4_serializeV4 hids hraw))
  rw [hround] at hparsed hextract
  -- the change is shown in canonical form, as any address is
  obtain ⟨changeShown, hcanonical, hchangeShown⟩ : ∃ changeShown,
      (0 < change → canonicalAddress ad.base58 changeAddress = .ok changeShown)
      ∧ changeOuts.mapM (extractOutput ad) = .ok (if 0 < change then
          [{ address := some changeShown, value := change }] else []) := by
    rw [changeOutputs] at hchange
    split_ifs at hchange ⊢ with hsome
    · obtain ⟨o, ho, hchange⟩ := bind_eq_ok hchange
      cases hchange
      obtain ⟨shown, hcanonical, hextract⟩ := extractOutput_buildOutput hb58 ho
      exact ⟨shown, fun _ => hcanonical, by rw [List.mapM_cons, hextract]; rfl⟩
    · cases hchange
      exact ⟨changeAddress, fun hlt => absurd hlt hsome, rfl⟩
  have houtputs : built.outputs
      = SwapsackUtxo.builtOutputs payee amount memo change changeShown := by
    have hmap := hextract
    rw [houts, List.cons_append, List.mapM_cons, hshown, List.mapM_append, hmemoShown,
      hchangeShown] at hmap
    exact (Except.ok.inj hmap).symm
  refine ⟨⟨raw, hraw, hparsed, hextract⟩,
    ⟨payee, change, changeShown, hpayee, hpos, hcanonical, houtputs⟩, ?_⟩
  rw [houtputs, builtOutputs_sum hpos, spentOutputs_value hspent, hbalance]
  omega

omit [PyUnicode] in
/-- What a build reserves covers the count of what it spends and pays: the
    selection prices it, and so does a sweep of the amount the wallet quotes. -/
theorem chooseInputs_fee {chosen : List Utxo} {fee change : ℤ}
    (hprice : sweep = false ∨ ∃ reserved, sweepSendAmount (sumValues utxos) utxos.length
      (memoBytes memo).length = .ok (amount, reserved))
    (h : chooseInputs (selectCoinsZip317 utxos amount (memoBytes memo).length dustZec)
      utxos amount sweep = .ok (chosen, fee, change)) :
    (zip317Fee chosen.length (if 0 < change then 2 else 1) (memoBytes memo).length : ℤ)
      ≤ fee := by
  rcases chooseInputs_cases h with ⟨hsweep, rfl, rfl, -, rfl⟩ | ⟨-, sel, hsel, rfl, rfl, rfl⟩
  · rcases hprice with hselect | ⟨reserved, hsend⟩
    · rw [hsweep] at hselect
      cases hselect
    · rw [sweepSendAmount, sweepAmountZip317] at hsend
      split at hsend
      · cases hsend
      · obtain ⟨hamount, -⟩ := Prod.mk.inj (Except.ok.inj hsend)
        rw [if_neg (lt_irrefl 0)]
        omega
  · have hcovers := (selectCoinsZip317_sound hsel).fee_covers
    rw [actionFee] at hcovers
    omega

/-- **No build pays less than the conventional fee** of its transaction, signed
    by inputs of at most the P2PKH size. -/
theorem buildUnsignedSwap_fee_floor (hb58 : ad.base58.Inverse)
    (hmemoLen : ∀ m, memo = some m → 0 < (memoBytes memo).length)
    (hprice : sweep = false ∨ ∃ reserved, sweepSendAmount (sumValues utxos) utxos.length
      (memoBytes memo).length = .ok (amount, reserved))
    (h : buildUnsignedSwap ad mnemonic utxos vaultAddress amount memo changeAddress
      sweep = .ok built)
    {signed : TxV4} {raw : Bytes} (herase : eraseSigs signed = eraseSigs built.tx)
    (hraw : serializeV4 signed = .ok raw)
    (hsmall : ∀ i ∈ signed.inputs, ∀ bs, serializeIn i = .ok bs →
      bs.length ≤ p2pkhInputBytes) :
    ∃ fee, conventionalFee signed = .ok fee ∧ (fee : ℤ) ≤ built.fee := by
  obtain ⟨chosen, change, vault, memoOuts, changeOuts, -, -, hchosen, hvault, hmemo,
    hchange, hinputs, houts, -, -, -, -⟩ := buildUnsignedSwap_steps h
  obtain ⟨nIn, -, hraw⟩ := bind_eq_ok hraw
  obtain ⟨ins, hins, hraw⟩ := bind_eq_ok hraw
  obtain ⟨nOut, -, hraw⟩ := bind_eq_ok hraw
  obtain ⟨os, hos, -⟩ := bind_eq_ok hraw
  have hsizes : transparentSizes signed = .ok (ins.flatten.length, os.flatten.length) := by
    rw [transparentSizes, hins, hos]
    rfl
  -- one input of the signed transaction for each chosen coin
  have hcount : ins.length = chosen.length := by
    have herased : (signed.inputs.map eraseSig).length
        = (built.tx.inputs.map eraseSig).length :=
      congrArg (fun tx : TxV4 => tx.inputs.length) herase
    rw [List.length_map, List.length_map] at herased
    rw [← (mapM_ok_forall₂ hins).length_eq, herased, ← (mapM_ok_forall₂ hinputs).length_eq]
  have hin : ins.flatten.length ≤ chosen.length * p2pkhInputBytes := by
    rw [← hcount]
    refine length_flatten_le fun bs hbs => ?_
    obtain ⟨i, hi, hib⟩ := mapM_ok_mem hins hbs
    exact hsmall i hi bs hib
  have hout : os.flatten.length ≤ (if 0 < change then 2 else 1) * 34
      + if (memoBytes memo).length ≠ 0 then opReturnVb (memoBytes memo).length + 1
        else 0 := by
    have hsame : signed.outputs = vault :: memoOuts ++ changeOuts := by
      have houtputs := congrArg TxV4.outputs herase
      exact houtputs.trans houts
    rw [hsame] at hos
    exact outputBytes_le hb58 hmemoLen hvault hmemo hchange hos
  refine ⟨_, by rw [conventionalFee, hsizes]; rfl, ?_⟩
  refine le_trans ?_ (chooseInputs_fee hprice hchosen)
  exact_mod_cast conventionalFee_le hsizes hin hout (by rw [conventionalFee, hsizes]; rfl)

end Build

/-! ## A build, read back and priced -/

/-- **What a Zcash build returns.**  The outputs parsed from its bytes are the
    canonical vault, the memo and the change; the fee is what was spent and not
    paid; and on a selection, or a sweep of the amount the wallet quotes, it is
    at least the ZIP-317 fee of the transaction that is signed. -/
theorem buildUnsignedSwap_zip317 [PyUnicode] {ad : ZecAdapter}
    {mnemonic vaultAddress changeAddress : String} {utxos : List Utxo} {amount : ℤ}
    {memo : Option Memo} {sweep : Bool} {built : ZecBuilt} (hb58 : ad.base58.Inverse)
    (htxids : TxidsWellFormed utxos)
    (hmemoLen : ∀ m, memo = some m → 0 < (memoBytes memo).length)
    (h : buildUnsignedSwap ad mnemonic utxos vaultAddress amount memo changeAddress
      sweep = .ok built) :
    ReadBack ad vaultAddress amount memo changeAddress built
      ∧ ((sweep = false ∨ ∃ reserved, sweepSendAmount (sumValues utxos) utxos.length
            (memoBytes memo).length = .ok (amount, reserved)) →
          ∀ (κ : Type) (ec : Coincurve κ) (blake2b256 : Blake2b) (signed : TxV4)
            (raw : Bytes),
          signTransparent ec blake2b256 built.tx built.spent built.privkeys
            built.branchId = .ok signed →
          serializeV4 signed = .ok raw →
          (∀ i ∈ signed.inputs, ∀ bs, serializeIn i = .ok bs →
            bs.length ≤ p2pkhInputBytes) →
          ∃ fee, conventionalFee signed = .ok fee ∧ (fee : ℤ) ≤ built.fee) := by
  refine ⟨buildUnsignedSwap_readBack hb58 htxids h, ?_⟩
  intro hprice κ ec blake2b256 signed raw hsigned hraw hsmall
  exact buildUnsignedSwap_fee_floor hb58 hmemoLen hprice h
    (signTransparent_eraseSigs hsigned) hraw hsmall

/-- The address of the wallet's key. -/
def payT1 : String := "t1Uy2cPMA3p5WDggEA1b32PwaaB2nfDssvp"

def payPayload : Bytes := prefixT1 ++ slice payCode 3 20

/-- base58check on the vault and on the wallet's address. -/
def payBase58 : Base58 where
  encodeCheck payload :=
    if payload = vaultPayload then vaultT1
    else if payload = payPayload then payT1
    else ""
  decodeCheck a :=
    if a = vaultT1 then some vaultPayload
    else if a = payT1 then some payPayload
    else none

theorem payBase58_inverse : payBase58.Inverse := by
  intro a payload h
  dsimp only [payBase58] at h ⊢
  split_ifs at h with hvault hpay
  · cases h
    rw [if_pos rfl, hvault]
  · cases h
    rw [if_neg (by decide), if_pos rfl, hpay]

def payZec : ZecAdapter where
  base58 := payBase58
  latestHeight := .ok 2500000
  branchId := .ok 0xC8E71055
  deriveKey _ _ := .ok (List.replicate 32 0x01)

def payCoins : List Utxo :=
  [{ txid := "4a5e1e4baab89f3a32518a88c31bc87f618f76673e2cc77ab2127b7afdeda33b"
     vout := 0, value := 100000, address := payT1 }]

theorem payCoins_wellFormed : TxidsWellFormed payCoins := by
  intro u hu id hid
  -- the same transaction id as the other coin
  rw [List.mem_singleton.mp hu] at hid
  exact zecCoins_wellFormed _ (List.mem_singleton.mpr rfl) id hid

/-- The coin swept into the vault's TEX form at the quoted amount, signed and
    priced. -/
theorem buildUnsignedSwap_zip317_sweep :
    let _ : PyUnicode := asciiUnicode
    ∃ built, buildUnsignedSwap payZec "" payCoins vaultTex 85000 (some (.text payMemo))
        payT1 true = .ok built
      ∧ ReadBack payZec vaultTex 85000 (some (.text payMemo)) payT1 built
      ∧ ∃ fee, conventionalFee paySigned = .ok fee ∧ (fee : ℤ) ≤ built.fee := by
  intro _
  obtain ⟨built, hbuilt, hsigned⟩ : ∃ built,
      buildUnsignedSwap payZec "" payCoins vaultTex 85000 (some (.text payMemo)) payT1
        true = .ok built
      ∧ signTransparent payCurve payBlake built.tx built.spent built.privkeys
        built.branchId = .ok paySigned :=
    bind_eq_ok (by decide +kernel)
  have hmemoLen : ∀ m, some (Memo.text payMemo) = some m →
      0 < (memoBytes (some (Memo.text payMemo))).length := fun _ _ => by decide +kernel
  have hprice : sweepSendAmount (sumValues payCoins) payCoins.length
      (memoBytes (some (Memo.text payMemo))).length = .ok (85000, 15000) := by
    decide +kernel
  obtain ⟨raw, hraw⟩ : ∃ raw, serializeV4 paySigned = .ok raw :=
    exists_of_isOk (by decide +kernel)
  have hsmall : ∀ i ∈ paySigned.inputs, ∀ bs, serializeIn i = .ok bs →
      bs.length ≤ p2pkhInputBytes := by
    intro i hi bs hbs
    have hlen : (serializeIn i).map List.length = .ok 147 := by
      rw [List.mem_singleton.mp hi]
      decide +kernel
    rw [hbs] at hlen
    rw [Except.ok.inj hlen]
    decide
  obtain ⟨hread, hfloor⟩ := buildUnsignedSwap_zip317 payBase58_inverse payCoins_wellFormed
    hmemoLen hbuilt
  exact ⟨built, hbuilt, hread, hfloor (Or.inr ⟨15000, hprice⟩) Bytes payCurve payBlake
    paySigned raw hsigned hraw hsmall⟩

end SwapsackZip317
