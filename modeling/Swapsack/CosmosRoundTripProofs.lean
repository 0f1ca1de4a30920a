import Swapsack.CosmosTxProofs

/-! # Cosmos bodies, read back

    A field at its default is omitted, and the decoders take the omission back
    where they expect one.  So whatever is not empty where it must not be is
    decoded to what it was built from, under any memo.

    * `decodeMsgSendBody_eq` — a `MsgSend` of non-empty texts is decoded;
    * `decodeCoin_eq`, `decodeMsgDepositBody_eq` — so is a `MsgDeposit` of
      `CHAIN.SYMBOL` coins, one coin after the other;
    * `decode_txBody` — both, and the integers they are counted with. -/

namespace SwapsackCosmosTx

open ListKit ByteString PyText Wire SwapsackBase

section Fields

variable {fields : Fields} {n : ℕ} {s : String}

/-- A text that was written is read. -/
theorem firstText_eq (hv : fields.values n = (stringField n s).values n) (hne : s ≠ "") :
    firstText fields n = .ok s := by
  have hvalues : fields.values n = [.bytes (encodeUtf8 s)] := by
    rw [hv, stringField, if_neg hne, Fields.values_cons, if_pos rfl]
    rfl
  rw [firstText, first, hvalues]
  show decodeText (.bytes (encodeUtf8 s)) = .ok s
  rw [decodeText, decodeUtf8_encodeUtf8]

end Fields

/-- **A `MsgSend` is decoded** to what it was built from. -/
theorem decodeMsgSendBody_eq {fromAddr toAddr denom amount : String} (memo : String)
    (hfrom : fromAddr ≠ "") (hto : toAddr ≠ "") (hdenom : denom ≠ "") (hamount : amount ≠ "") :
    decodeMsgSendBody (txBody [(msgSendTypeUrl, msgSend fromAddr toAddr denom amount)] memo)
      = .ok { typeUrl := msgSendTypeUrl, fromAddr, toAddr, denom, amount, memo } := by
  have hurl : msgSendTypeUrl ≠ "" := by decide
  rw [decodeMsgSendBody, readFields_of_encodes (encodes_txBody _ _), ok_bind,
    firstTextOr_eq (s := memo) (by simp), ok_bind,
    firstMessage_eq (b := any msgSendTypeUrl (msgSend fromAddr toAddr denom amount))
      (by simp [values_stringField_of_ne]),
    readFields_of_encodes (encodes_any _ _), ok_bind,
    firstText_eq (s := msgSendTypeUrl) (by simp) hurl, ok_bind,
    firstMessage_eq (b := msgSend fromAddr toAddr denom amount)
      (by simp [values_stringField_of_ne]),
    readFields_of_encodes (encodes_msgSend _ _ _ _), ok_bind,
    firstMessage_eq (b := coin denom amount) (by simp [values_stringField_of_ne]),
    readFields_of_encodes (encodes_coin _ _), ok_bind,
    firstText_eq (s := fromAddr) (by simp [values_stringField_of_ne]) hfrom, ok_bind,
    firstText_eq (s := toAddr) (by simp [values_stringField_of_ne]) hto, ok_bind,
    firstText_eq (s := denom) (by simp [values_stringField_of_ne]) hdenom, ok_bind,
    firstText_eq (s := amount) (by simp [values_stringField_of_ne]) hamount, ok_bind]

/-! ## Deposits -/

/-- An asset `CHAIN.SYMBOL`: a chain without a dot, and a symbol. -/
def IsAsset (asset : String) : Prop :=
  ∃ chain symbol : String, asset = chain ++ "." ++ symbol ∧ chain ≠ "" ∧ '.' ∉ chain.toList
    ∧ symbol ≠ ""

/-- The chain and the symbol are what stands around the first dot. -/
theorem asset_parts {chain symbol : String} (hdot : '.' ∉ chain.toList) :
    assetChain (chain ++ "." ++ symbol) = chain
      ∧ assetSymbol (chain ++ "." ++ symbol) = symbol := by
  have hlist : (chain ++ "." ++ symbol).toList = chain.toList ++ '.' :: symbol.toList := by
    simp
  rw [assetChain, assetSymbol, hlist, partition_append hdot]
  exact ⟨String.ofList_toList, String.ofList_toList⟩

/-- **A coin is decoded** to its asset and its amount. -/
theorem decodeCoin_eq {c : String × String} (hasset : IsAsset c.1) (hamount : c.2 ≠ "") :
    decodeCoin (.bytes (depositCoin c)) = .ok c := by
  obtain ⟨chain, symbol, hname, hchain, hdot, hsymbol⟩ := hasset
  obtain ⟨hpartChain, hpartSymbol⟩ := @asset_parts chain symbol hdot
  rw [← hname] at hpartChain hpartSymbol
  rw [decodeCoin, readMessage_bytes, readFields_of_encodes (encodes_depositCoin c), ok_bind,
    firstMessage_eq (b := assetMsg c.1) (by simp [values_stringField_of_ne]),
    readFields_of_encodes (encodes_assetMsg c.1), ok_bind,
    firstText_eq (s := assetChain c.1) (by simp [values_stringField_of_ne])
      (by rw [hpartChain]; exact hchain), ok_bind,
    firstText_eq (s := assetSymbol c.1) (by simp [values_stringField_of_ne])
      (by rw [hpartSymbol]; exact hsymbol), ok_bind,
    firstText_eq (s := c.2) (by simp) hamount, ok_bind,
    assetChain_symbol (by rw [hpartSymbol]; exact hsymbol)]

/-- **A `MsgDeposit` is decoded**, its coins in order. -/
theorem decodeMsgDepositBody_eq {coins : List (String × String)} (memo : String)
    (signer : Bytes) (outerMemo : String)
    (hcoins : ∀ c ∈ coins, IsAsset c.1 ∧ c.2 ≠ "") :
    decodeMsgDepositBody (txBody [(msgDepositTypeUrl, msgDeposit coins memo signer)] outerMemo)
      = .ok { typeUrl := msgDepositTypeUrl, coins, memo, signer := .bytes signer, outerMemo } := by
  have hurl : msgDepositTypeUrl ≠ "" := by decide
  have hread : (coins.map fun c => Value.bytes (depositCoin c)).mapM decodeCoin = .ok coins := by
    induction coins with
    | nil => rfl
    | cons c coins ih =>
        obtain ⟨hasset, hamount⟩ := hcoins c List.mem_cons_self
        have hrest := ih fun d hd => hcoins d (List.mem_cons_of_mem c hd)
        rw [List.map_cons, List.mapM_cons, decodeCoin_eq hasset hamount, hrest]
        rfl
  have hvalues : Fields.values (coins.flatMap (fun c => [(1, .bytes (depositCoin c))])
      ++ stringField 2 memo ++ [(3, .bytes signer)]) 1
        = coins.map fun c => Value.bytes (depositCoin c) := by
    simp [values_flatMap, values_stringField_of_ne]
  have hsigner : Fields.values (coins.flatMap (fun c => [(1, .bytes (depositCoin c))])
      ++ stringField 2 memo ++ [(3, .bytes signer)]) 3 = [.bytes signer] := by
    simp [values_flatMap_of_ne, values_stringField_of_ne]
  rw [decodeMsgDepositBody, readFields_of_encodes (encodes_txBody _ _), ok_bind,
    firstTextOr_eq (s := outerMemo) (by simp), ok_bind,
    firstMessage_eq (b := any msgDepositTypeUrl (msgDeposit coins memo signer))
      (by simp [values_stringField_of_ne]),
    readFields_of_encodes (encodes_any _ _), ok_bind,
    firstText_eq (s := msgDepositTypeUrl) (by simp) hurl, ok_bind,
    firstMessage_eq (b := msgDeposit coins memo signer) (by simp [values_stringField_of_ne]),
    readFields_of_encodes (encodes_msgDeposit _ _ _), ok_bind, hvalues, hread, ok_bind,
    firstTextOr_eq (s := memo) (by simp [values_flatMap_of_ne]), ok_bind, hsigner]

/-- **The decoders are the inverse of the builders**: for a send of non-empty
    texts, for a deposit of `CHAIN.SYMBOL` coins with amounts, under any memos and
    for any signer; and every integer is read back, up to what follows it. -/
theorem decode_txBody :
    (∀ fromAddr toAddr denom amount memo : String,
      fromAddr ≠ "" → toAddr ≠ "" → denom ≠ "" → amount ≠ "" →
        decodeMsgSendBody (txBody [(msgSendTypeUrl, msgSend fromAddr toAddr denom amount)] memo)
          = .ok { typeUrl := msgSendTypeUrl, fromAddr, toAddr, denom, amount, memo })
    ∧ (∀ (coins : List (String × String)) (memo : String) (signer : Bytes) (outerMemo : String),
      (∀ c ∈ coins, IsAsset c.1 ∧ c.2 ≠ "") →
        decodeMsgDepositBody
            (txBody [(msgDepositTypeUrl, msgDeposit coins memo signer)] outerMemo)
          = .ok { typeUrl := msgDepositTypeUrl, coins, memo, signer := .bytes signer
                  outerMemo })
    ∧ ∀ (n : ℕ) (suffix : Bytes),
      readVarint PyError.indexError (varint n ++ suffix) = .ok (n, suffix) := by
  refine ⟨?_, ?_, ?_⟩
  · intro fromAddr toAddr denom amount memo hfrom hto hdenom hamount
    exact decodeMsgSendBody_eq memo hfrom hto hdenom hamount
  · intro coins memo signer outerMemo hcoins
    exact decodeMsgDepositBody_eq memo signer outerMemo hcoins
  · intro n suffix
    exact readVarint_varint PyError.indexError n suffix

/-- A swap of two coins, one of them a token, is decoded. -/
theorem decode_txBody_swap :
    decodeMsgDepositBody (txBody [(msgDepositTypeUrl,
        msgDeposit [("MAYA.CACAO", "100"), ("ETH.USDT-0XDAC", "7")] "=:b" [1, 2])] "")
      = .ok { typeUrl := msgDepositTypeUrl
              coins := [("MAYA.CACAO", "100"), ("ETH.USDT-0XDAC", "7")]
              memo := "=:b", signer := .bytes [1, 2], outerMemo := "" } := by
  refine decode_txBody.2.1 _ _ _ _ ?_
  intro c hc
  rcases List.mem_cons.mp hc with rfl | hc
  · exact ⟨⟨"MAYA", "CACAO", by decide, by decide, by decide, by decide⟩, by decide⟩
  · rw [List.mem_singleton.mp hc]
    exact ⟨⟨"ETH", "USDT-0XDAC", by decide, by decide, by decide, by decide⟩, by decide⟩

end SwapsackCosmosTx
