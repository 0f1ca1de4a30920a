import Swapsack.AbiProofs
import Swapsack.EvmVaultProofs

/-! # Which Vault calls are read

    A Vault call has one canonical encoding.  The decoder reads every canonical
    call; of the others it refuses an offset into the head, a length past the
    end and dirty padding, but not every layout the encoder would not write.

    * `decodeEvmVaultCall_encode` — canonical calls are read as what they say;
    * `canonical_of_laidOut` — a call that is laid out like one is one;
    * `decodeEvmVaultCall_canonical_iff` — of the calls that are read, exactly
      those are canonical. -/

namespace SwapsackEvmVault

open ListKit ByteString PyText HexText SwapsackBase SwapsackVerify
open Abi (Arg tail tails tailLength words wordAt headWords encodeArgs padding)

/-! ## Canonical calls -/

/-- The arguments of a call, in the order of its signature; `token` is the
    address and the amount of an `xSwapToken` call. -/
def vaultArgs (chainId : ℕ) (destination : Bytes) (assetId : ℕ) (token : Option (ℕ × ℕ))
    (parameters : Bytes) : List Arg :=
  match token with
  | none => [.word chainId, .bytes destination, .word assetId, .bytes parameters]
  | some (address, amount) =>
      [.word chainId, .bytes destination, .word assetId, .word address, .word amount,
        .bytes parameters]

/-- A call of the Vault contract, with its values in the ranges of their types.
    The offsets and lengths of its bytes are words too. -/
structure VaultCall where
  destinationChainId : ℕ
  destination : Bytes
  destinationAssetId : ℕ
  token : Option (ℕ × ℕ)
  parameters : Bytes
  chain_lt : destinationChainId < 2 ^ 32
  asset_lt : destinationAssetId < 2 ^ 32
  token_lt : ∀ t ∈ token, t.1 < 2 ^ 160 ∧ t.2 < 2 ^ 256
  fits : Abi.Fits (vaultArgs destinationChainId destination destinationAssetId token parameters)

/-- The arguments of a call, in the order of its signature. -/
def VaultCall.args (call : VaultCall) : List Arg :=
  vaultArgs call.destinationChainId call.destination call.destinationAssetId call.token
    call.parameters

/-- The selectors of the two calls. -/
def nativeSelectorBytes : Bytes := [0xdd, 0x68, 0x73, 0x45]
def tokenSelectorBytes : Bytes := [0x04, 0xfc, 0x7d, 0xa0]

/-- The four bytes that name the function. -/
def VaultCall.selector (call : VaultCall) : Bytes :=
  match call.token with
  | none => nativeSelectorBytes
  | some _ => tokenSelectorBytes

/-- The canonical calldata. -/
def VaultCall.encode (call : VaultCall) : Bytes := call.selector ++ encodeArgs call.args

/-- What a reader of the call is told. -/
def VaultCall.decoded (call : VaultCall) : DecodedEvmVaultCall where
  destinationChainId := call.destinationChainId
  destination := call.destination
  destinationAssetId := call.destinationAssetId
  sourceToken := (call.token.map fun t => tokenText t.1).getD ""
  sourceAmount := (call.token.map Prod.snd).getD 0
  parameters := call.parameters

/-! ## Dynamic bytes -/

/-- A tail is read wherever it stands behind the head. -/
theorem abiBytes_tail {pre data post : Bytes} {headWords : ℕ}
    (hhead : headWords * 32 ≤ pre.length) (haligned : pre.length % 32 = 0)
    (hlen : data.length < 256 ^ 32) :
    abiBytes (pre ++ (tail data ++ post)) pre.length headWords = some data := by
  obtain ⟨hlength, hdata, hzeros⟩ := Abi.slice_tail pre data post
  have htotal : (pre ++ (tail data ++ post)).length
      = pre.length + (tailLength data.length + post.length) := by
    rw [List.length_append, List.length_append, Abi.length_tail]
  have hword : abiWord (pre ++ (tail data ++ post)) (pre.length / 32) = data.length := by
    have hindex : pre.length / 32 * 32 = pre.length := by omega
    rw [abiWord, hindex, hlength, beNat_beBytes hlen]
  rw [tailLength] at htotal
  rw [abiBytes]
  dsimp only
  rw [hword, htotal, if_neg (by omega), if_neg (by omega), if_neg, hdata]
  rintro (hshort | hdirty)
  · rw [padding] at hshort
    omega
  · rw [← padding, hzeros, List.any_eq_true] at hdirty
    obtain ⟨b, hb, hne⟩ := hdirty
    rw [List.eq_of_mem_replicate hb] at hne
    cases hne

/-- What is read stands there as a tail. -/
theorem tail_of_abiBytes {raw data : Bytes} {offset headWords : ℕ}
    (h : abiBytes raw offset headWords = some data) :
    slice raw offset (tailLength data.length) = tail data
      ∧ offset + tailLength data.length ≤ raw.length
      ∧ abiWord raw (offset / 32) = data.length := by
  rw [abiBytes] at h
  dsimp only at h
  split at h
  · cases h
  · rename_i hplace
    split at h
    · cases h
    · rename_i hstop
      split at h
      · cases h
      · rename_i hpadding
        have hdata := Option.some.inj h
        have hlen : data.length = abiWord raw (offset / 32) := by
          rw [← hdata]
          exact slice_length (by omega)
        rw [← hlen] at hdata hpadding
        have hword : slice raw offset 32 = beBytes 32 data.length := by
          have hindex : offset / 32 * 32 = offset := by omega
          have hwidth : (slice raw offset 32).length = 32 := slice_length (by omega)
          have hbytes := beBytes_beNat (slice raw offset 32)
          rw [hwidth] at hbytes
          rw [hlen, abiWord, hindex, hbytes]
        have hclean : slice raw (offset + 32 + data.length) (padding data.length)
            = List.replicate (padding data.length) 0 := by
          refine List.eq_replicate_iff.mpr ⟨slice_length ?_, ?_⟩
          · rw [padding]
            omega
          · intro b hb
            by_contra hne
            refine hpadding (Or.inr (List.any_eq_true.mpr ⟨b, hb, ?_⟩))
            exact decide_eq_true hne
        refine ⟨Abi.tail_of_slices hword hdata hclean, ?_, hlen.symm⟩
        rw [tailLength, padding]
        omega

/-! ## Blocks with two tails -/

/-- A head and two tails in order behind it, as the encoder writes them for a
    call whose head is `ws`. -/
def block (ws : List ℕ) (destination parameters : Bytes) : Bytes :=
  words ws ++ (tail destination ++ tail parameters)

section Block

variable {ws : List ℕ} {destination parameters : Bytes}

/-- A word of the head is read where it stands. -/
theorem block_word {i n : ℕ} (hfits : ∀ w ∈ ws, w < 256 ^ 32) (hi : ws[i]? = some n) :
    abiWord (block ws destination parameters) i = n :=
  Abi.wordAt_words _ hi (hfits n (List.mem_of_getElem? hi))

/-- The head and the two tails make the block. -/
theorem length_block : (block ws destination parameters).length
    = ws.length * 32 + tailLength destination.length + tailLength parameters.length := by
  rw [block, List.length_append, List.length_append, Abi.length_words, Abi.length_tail,
    Abi.length_tail]
  omega

/-- The first tail is read at its offset, -/
theorem block_destination (hlen : destination.length < 256 ^ 32) :
    abiBytes (block ws destination parameters) (ws.length * 32) ws.length
      = some destination := by
  have hwords : (words ws).length = ws.length * 32 := by
    rw [Abi.length_words, Nat.mul_comm]
  have hread := @abiBytes_tail (words ws) destination (tail parameters) ws.length
    hwords.ge (by rw [hwords]; omega) hlen
  rw [hwords] at hread
  exact hread

/-- and the second behind it. -/
theorem block_parameters (hlen : parameters.length < 256 ^ 32) :
    abiBytes (block ws destination parameters)
      (ws.length * 32 + tailLength destination.length) ws.length = some parameters := by
  have hmod := Abi.tailLength_mod destination.length
  have hbefore : (words ws ++ tail destination).length
      = ws.length * 32 + tailLength destination.length := by
    rw [List.length_append, Abi.length_words, Abi.length_tail, Nat.mul_comm]
  have hread := @abiBytes_tail (words ws ++ tail destination) parameters [] ws.length
    (by rw [hbefore]; omega) (by rw [hbefore]; omega) hlen
  rw [hbefore, List.append_nil, List.append_assoc] at hread
  exact hread

/-- A block is read: its words, and its tails behind the offsets in its head. -/
theorem decodeEvmVaultArgs_block {chain asset amount paramsWord : ℕ} {token : Option (ℕ × ℕ)}
    {text : String} (hfits : ∀ w ∈ ws, w < 256 ^ 32)
    (hdlen : destination.length < 256 ^ 32) (hplen : parameters.length < 256 ^ 32)
    (hchain : ws[0]? = some chain) (hd : ws[1]? = some (ws.length * 32))
    (hasset : ws[2]? = some asset)
    (hp : ws[paramsWord]? = some (ws.length * 32 + tailLength destination.length))
    (htoken : callToken (block ws destination parameters) token = some (text, amount)) :
    decodeEvmVaultArgs (block ws destination parameters) ws.length token paramsWord = some {
      destinationChainId := chain
      destination := destination
      destinationAssetId := asset
      sourceToken := text
      sourceAmount := amount
      parameters := parameters } := by
  rw [decodeEvmVaultArgs]
  rw [if_neg (by rw [length_block]; omega), block_word hfits hchain, block_word hfits hd,
    block_word hfits hasset, block_word hfits hp, block_destination hdlen,
    block_parameters hplen, htoken]

end Block

/-! ## How the arguments are laid out -/

/-- The arguments stand where the encoder puts them: small numbers in the first
    and the third word, the destination right behind the head, the parameters
    right behind the destination, and nothing behind the parameters. -/
structure LaidOut (args : Bytes) (headWords paramsWord : ℕ) : Prop where
  chain_lt : abiWord args 0 < 2 ^ 32
  asset_lt : abiWord args 2 < 2 ^ 32
  destination_at : abiWord args 1 = headWords * 32
  parameters_at : abiWord args paramsWord
    = headWords * 32 + tailLength (abiWord args headWords)
  whole : args.length = abiWord args paramsWord
    + tailLength (abiWord args (abiWord args paramsWord / 32))

/-- A block is laid out so. -/
theorem laidOut_block {ws : List ℕ} {destination parameters : Bytes}
    {chain asset paramsWord : ℕ} (hfits : ∀ w ∈ ws, w < 256 ^ 32)
    (hdlen : destination.length < 256 ^ 32) (hplen : parameters.length < 256 ^ 32)
    (hchain : ws[0]? = some chain) (hd : ws[1]? = some (ws.length * 32))
    (hasset : ws[2]? = some asset)
    (hp : ws[paramsWord]? = some (ws.length * 32 + tailLength destination.length))
    (hchainLt : chain < 2 ^ 32) (hassetLt : asset < 2 ^ 32) :
    LaidOut (block ws destination parameters) ws.length paramsWord := by
  have hfirst := (tail_of_abiBytes (@block_destination ws destination parameters hdlen)).2.2
  have hsecond := (tail_of_abiBytes (@block_parameters ws destination parameters hplen)).2.2
  rw [Nat.mul_div_cancel _ (by decide)] at hfirst
  refine ⟨?_, ?_, block_word hfits hd, ?_, ?_⟩
  · rw [block_word hfits hchain]
    exact hchainLt
  · rw [block_word hfits hasset]
    exact hassetLt
  · rw [block_word hfits hp, hfirst]
  · rw [block_word hfits hp, hsecond, length_block]

/-- What a successful read of the arguments read. -/
theorem decodeEvmVaultArgs_eq_some {args : Bytes} {headWords paramsWord : ℕ}
    {token : Option (ℕ × ℕ)} {call : DecodedEvmVaultCall}
    (h : decodeEvmVaultArgs args headWords token paramsWord = some call) :
    headWords * 32 ≤ args.length
      ∧ abiBytes args (abiWord args 1) headWords = some call.destination
      ∧ abiBytes args (abiWord args paramsWord) headWords = some call.parameters
      ∧ callToken args token = some (call.sourceToken, call.sourceAmount)
      ∧ call.destinationChainId = abiWord args 0 ∧ call.destinationAssetId = abiWord args 2 := by
  rw [decodeEvmVaultArgs] at h
  split at h
  · cases h
  · rename_i hlen
    cases hd : abiBytes args (abiWord args 1) headWords with
    | none =>
        rw [hd] at h
        cases h
    | some destination =>
        cases hp : abiBytes args (abiWord args paramsWord) headWords with
        | none =>
            rw [hd, hp] at h
            cases h
        | some parameters =>
            cases ht : callToken args token with
            | none =>
                rw [hd, hp, ht] at h
                cases h
            | some t =>
                rw [hd, hp, ht] at h
                cases h
                exact ⟨not_lt.mp hlen, rfl, rfl, rfl, rfl, rfl⟩

/-- **Arguments that are laid out so are a block**, and its head says where the
    tails are. -/
theorem eq_block {args : Bytes} {headWords paramsWord : ℕ} {token : Option (ℕ × ℕ)}
    {call : DecodedEvmVaultCall}
    (h : decodeEvmVaultArgs args headWords token paramsWord = some call)
    (hlaid : LaidOut args headWords paramsWord) :
    args = block ((List.range headWords).map (abiWord args)) call.destination call.parameters
      ∧ abiWord args paramsWord = headWords * 32 + tailLength call.destination.length
      ∧ call.destination.length < 256 ^ 32 ∧ call.parameters.length < 256 ^ 32 := by
  obtain ⟨hlen, hd, hp, -⟩ := decodeEvmVaultArgs_eq_some h
  rw [hlaid.destination_at] at hd
  obtain ⟨hdtail, -, hdlen⟩ := tail_of_abiBytes hd
  obtain ⟨hptail, -, hplen⟩ := tail_of_abiBytes hp
  rw [Nat.mul_div_cancel _ (by decide)] at hdlen
  have hat := hlaid.parameters_at
  have hwhole := hlaid.whole
  rw [hdlen] at hat
  rw [hplen] at hwhole
  rw [hat] at hptail hwhole
  have hhead := @Abi.words_wordAt args headWords (by omega)
  have htails : args.drop (headWords * 32) = tail call.destination ++ tail call.parameters := by
    have hdrop : args.drop (headWords * 32) = slice args (headWords * 32)
        (tailLength call.destination.length + tailLength call.parameters.length) := by
      rw [slice, List.take_of_length_le]
      rw [List.length_drop]
      omega
    rw [hdrop, slice_add, hdtail, hptail]
  refine ⟨?_, hat, ?_, ?_⟩
  · show args = words ((List.range headWords).map (wordAt args)) ++ _
    rw [hhead, ← htails, Nat.mul_comm, List.take_append_drop]
  · rw [← hdlen]
    exact Abi.wordAt_lt
  · rw [← hplen]
    exact Abi.wordAt_lt

/-! ## The two functions -/

/-- The words of the head. -/
def VaultCall.head (call : VaultCall) : List ℕ := headWords (32 * call.args.length) call.args

/-- The word that holds the offset of the parameters. -/
def VaultCall.paramsWord (call : VaultCall) : ℕ := if call.token.isSome then 5 else 3

/-- The words that hold the token and the amount. -/
def VaultCall.tokenWords (call : VaultCall) : Option (ℕ × ℕ) := call.token.map fun _ => (3, 4)

/-- A call is its selector and its block. -/
theorem VaultCall.encode_eq (call : VaultCall) :
    call.encode = call.selector ++ block call.head call.destination call.parameters := by
  have htails : tails call.args = tail call.destination ++ tail call.parameters := by
    obtain ⟨chain, destination, asset, token, parameters, -, -, -, -⟩ := call
    cases token with
    | none => exact congrArg (tail destination ++ ·) (List.append_nil (tail parameters))
    | some t => exact congrArg (tail destination ++ ·) (List.append_nil (tail parameters))
  rw [encode, encodeArgs, htails]
  rfl

/-- The words of the head, spelled out. -/
def vaultHead (chainId destinationLength assetId : ℕ) : Option (ℕ × ℕ) → List ℕ
  | none => [chainId, 128, assetId, 128 + tailLength destinationLength]
  | some (address, amount) =>
      [chainId, 192, assetId, address, amount, 192 + tailLength destinationLength]

/-- The head of the arguments, offsets included. -/
theorem headWords_vaultArgs (chainId : ℕ) (destination : Bytes) (assetId : ℕ)
    (token : Option (ℕ × ℕ)) (parameters : Bytes) :
    headWords (32 * (vaultArgs chainId destination assetId token parameters).length)
        (vaultArgs chainId destination assetId token parameters)
      = vaultHead chainId destination.length assetId token := by
  cases token with
  | none => simp [vaultArgs, headWords, vaultHead]
  | some t => simp [vaultArgs, headWords, vaultHead]

/-- Two of the arguments are byte strings. -/
theorem mem_vaultArgs {data destination parameters : Bytes} {chainId assetId : ℕ}
    {token : Option (ℕ × ℕ)} :
    Arg.bytes data ∈ vaultArgs chainId destination assetId token parameters
      ↔ data = destination ∨ data = parameters := by
  cases token with
  | none => simp [vaultArgs]
  | some t => simp [vaultArgs]

/-- The head of a call, by its fields. -/
theorem VaultCall.head_eq (call : VaultCall) :
    call.head = vaultHead call.destinationChainId call.destination.length
      call.destinationAssetId call.token :=
  headWords_vaultArgs _ _ _ _ _

/-- Where each field stands in the head. -/
theorem VaultCall.head_getElem (call : VaultCall) :
    call.head[0]? = some call.destinationChainId
      ∧ call.head[1]? = some (call.head.length * 32)
      ∧ call.head[2]? = some call.destinationAssetId
      ∧ call.head[call.paramsWord]?
        = some (call.head.length * 32 + tailLength call.destination.length) := by
  rw [call.head_eq, paramsWord]
  cases call.token with
  | none => exact ⟨rfl, rfl, rfl, rfl⟩
  | some t => exact ⟨rfl, rfl, rfl, rfl⟩

/-- The lengths of both strings fit a word. -/
theorem VaultCall.lengths_lt (call : VaultCall) :
    call.destination.length < 256 ^ 32 ∧ call.parameters.length < 256 ^ 32 :=
  ⟨call.fits.2 _ (mem_vaultArgs.mpr (Or.inl rfl)), call.fits.2 _ (mem_vaultArgs.mpr (Or.inr rfl))⟩

/-- The token and the amount are read back from the head. -/
theorem VaultCall.callToken_block (call : VaultCall) :
    callToken (block call.head call.destination call.parameters) call.tokenWords
      = some (call.decoded.sourceToken, call.decoded.sourceAmount) := by
  have hfits : ∀ w ∈ call.head, w < 256 ^ 32 := call.fits.1
  have hhead := call.head_eq
  cases htoken : call.token with
  | none =>
      rw [tokenWords, decoded, htoken]
      rfl
  | some t =>
      obtain ⟨address, amount⟩ := t
      have haddress := (call.token_lt (address, amount) (by rw [htoken]; rfl)).1
      rw [htoken] at hhead
      have h3 : call.head[3]? = some address := by
        rw [hhead]
        rfl
      have h4 : call.head[4]? = some amount := by
        rw [hhead]
        rfl
      rw [tokenWords, decoded, htoken, Option.map_some, callToken]
      rw [block_word hfits h3, block_word hfits h4, if_neg (not_le.mpr haddress)]
      rfl

/-- The selector of the native call is recognised, -/
theorem decodeEvmVaultCall_native (args : Bytes) :
    decodeEvmVaultCall (nativeSelectorBytes ++ args)
      = decodeEvmVaultArgs args xswapNativeWords none 3 := by
  have hselector : hex nativeSelectorBytes = xswapNativeSelector := by decide +kernel
  have hlen : ¬ (nativeSelectorBytes ++ args).length < 4 := by
    rw [List.length_append]
    exact not_lt.mpr (Nat.le_add_right 4 args.length)
  rw [decodeEvmVaultCall]
  rw [if_neg hlen]
  exact if_pos hselector

/-- and so is that of the token call. -/
theorem decodeEvmVaultCall_token (args : Bytes) :
    decodeEvmVaultCall (tokenSelectorBytes ++ args)
      = decodeEvmVaultArgs args xswapTokenWords (some (3, 4)) 5 := by
  have hother : hex tokenSelectorBytes ≠ xswapNativeSelector := by decide +kernel
  have hselector : hex tokenSelectorBytes = xswapTokenSelector := by decide +kernel
  have hlen : ¬ (tokenSelectorBytes ++ args).length < 4 := by
    rw [List.length_append]
    exact not_lt.mpr (Nat.le_add_right 4 args.length)
  rw [decodeEvmVaultCall]
  rw [if_neg hlen]
  exact (if_neg hother).trans (if_pos hselector)

/-- The two functions are told apart by their selectors. -/
theorem decodeEvmVaultCall_eq_some {calldata : Bytes} {call : DecodedEvmVaultCall}
    (h : decodeEvmVaultCall calldata = some call) :
    (∃ args, calldata = nativeSelectorBytes ++ args
      ∧ decodeEvmVaultArgs args xswapNativeWords none 3 = some call)
    ∨ ∃ args, calldata = tokenSelectorBytes ++ args
      ∧ decodeEvmVaultArgs args xswapTokenWords (some (3, 4)) 5 = some call := by
  have hnative : hex nativeSelectorBytes = xswapNativeSelector := by decide +kernel
  have htoken : hex tokenSelectorBytes = xswapTokenSelector := by decide +kernel
  rw [decodeEvmVaultCall] at h
  dsimp only at h
  split at h
  · cases h
  · split at h
    · rename_i hselector
      refine Or.inl ⟨calldata.drop 4, ?_, h⟩
      rw [← hex_injective (hselector.trans hnative.symm), List.take_append_drop]
    · split at h
      · rename_i hselector
        refine Or.inr ⟨calldata.drop 4, ?_, h⟩
        rw [← hex_injective (hselector.trans htoken.symm), List.take_append_drop]
      · cases h

/-! ## Canonical calls -/

/-- Behind its own selector a call is decoded as what it is. -/
theorem VaultCall.decode_selector (call : VaultCall) (args : Bytes) :
    decodeEvmVaultCall (call.selector ++ args)
      = decodeEvmVaultArgs args call.head.length call.tokenWords call.paramsWord := by
  rw [selector, call.head_eq, tokenWords, paramsWord]
  cases call.token with
  | none => exact decodeEvmVaultCall_native args
  | some t => exact decodeEvmVaultCall_token args

/-- **Canonical calls are read as what they say.** -/
theorem decodeEvmVaultCall_encode (call : VaultCall) :
    decodeEvmVaultCall call.encode = some call.decoded := by
  obtain ⟨hchain, hd, hasset, hp⟩ := call.head_getElem
  obtain ⟨hdlen, hplen⟩ := call.lengths_lt
  rw [call.encode_eq, call.decode_selector]
  exact decodeEvmVaultArgs_block call.fits.1 hdlen hplen hchain hd hasset hp
    call.callToken_block

/-- The arguments behind the selector are laid out as the encoder lays them out. -/
def CallLaidOut (calldata : Bytes) : Prop :=
  if calldata.take 4 = nativeSelectorBytes then
    LaidOut (calldata.drop 4) xswapNativeWords 3
  else LaidOut (calldata.drop 4) xswapTokenWords 5

/-- The layout asked of a native call is that of its words, -/
theorem callLaidOut_native (args : Bytes) :
    CallLaidOut (nativeSelectorBytes ++ args) ↔ LaidOut args xswapNativeWords 3 := by
  rw [CallLaidOut]
  exact iff_of_eq (if_pos rfl)

/-- and so is that of a token call. -/
theorem callLaidOut_token (args : Bytes) :
    CallLaidOut (tokenSelectorBytes ++ args) ↔ LaidOut args xswapTokenWords 5 := by
  have hother : (tokenSelectorBytes ++ args).take 4 ≠ nativeSelectorBytes :=
    fun h => absurd (show tokenSelectorBytes = nativeSelectorBytes from h) (by decide)
  rw [CallLaidOut]
  exact iff_of_eq (if_neg hother)

/-- The layout asked of a call is the one of its head. -/
theorem VaultCall.laidOut_selector (call : VaultCall) (args : Bytes) :
    CallLaidOut (call.selector ++ args) ↔ LaidOut args call.head.length call.paramsWord := by
  rw [selector, call.head_eq, paramsWord]
  cases call.token with
  | none => exact callLaidOut_native args
  | some t => exact callLaidOut_token args

/-- **What is encoded is laid out canonically.** -/
theorem callLaidOut_encode (call : VaultCall) : CallLaidOut call.encode := by
  obtain ⟨hchain, hd, hasset, hp⟩ := call.head_getElem
  obtain ⟨hdlen, hplen⟩ := call.lengths_lt
  rw [call.encode_eq, call.laidOut_selector]
  exact laidOut_block call.fits.1 hdlen hplen hchain hd hasset hp call.chain_lt call.asset_lt

/-- A block whose head was read, word by word, is a canonical call's. -/
theorem fits_of_read {args destination parameters : Bytes} {chainId assetId k : ℕ}
    {token : Option (ℕ × ℕ)}
    (hhead : vaultHead chainId destination.length assetId token
      = (List.range k).map (abiWord args))
    (hdlen : destination.length < 256 ^ 32) (hplen : parameters.length < 256 ^ 32) :
    Abi.Fits (vaultArgs chainId destination assetId token parameters) := by
  constructor
  · intro n hn
    rw [headWords_vaultArgs, hhead] at hn
    obtain ⟨i, -, rfl⟩ := List.mem_map.mp hn
    exact Abi.wordAt_lt
  · intro data hdata
    rcases mem_vaultArgs.mp hdata with rfl | rfl
    · exact hdlen
    · exact hplen

/-- Arguments that are read and laid out canonically are those of a canonical call
    with the token that their head spells. -/
theorem canonical_of_laidOut {args : Bytes} {headWords paramsWord : ℕ}
    {token value : Option (ℕ × ℕ)} {call : DecodedEvmVaultCall}
    (h : decodeEvmVaultArgs args headWords token paramsWord = some call)
    (hlaid : LaidOut args headWords paramsWord)
    (hhead : vaultHead (abiWord args 0) call.destination.length (abiWord args 2) value
      = (List.range headWords).map (abiWord args))
    (hvalue : ∀ t ∈ value, t.1 < 2 ^ 160 ∧ t.2 < 2 ^ 256)
    (hsource : ((value.map fun t => tokenText t.1).getD "", (value.map Prod.snd).getD 0)
      = (call.sourceToken, call.sourceAmount)) :
    ∃ c : VaultCall, c.token = value ∧ c.encode = c.selector ++ args ∧ c.decoded = call := by
  obtain ⟨hblock, -, hdlen, hplen⟩ := eq_block h hlaid
  obtain ⟨-, -, -, -, hchain, hasset⟩ := decodeEvmVaultArgs_eq_some h
  rw [← hchain, ← hasset] at hhead
  let c : VaultCall := {
    destinationChainId := call.destinationChainId
    destination := call.destination
    destinationAssetId := call.destinationAssetId
    token := value
    parameters := call.parameters
    chain_lt := by
      rw [hchain]
      exact hlaid.chain_lt
    asset_lt := by
      rw [hasset]
      exact hlaid.asset_lt
    token_lt := hvalue
    fits := fits_of_read hhead hdlen hplen }
  refine ⟨c, rfl, ?_, ?_⟩
  · rw [c.encode_eq, c.head_eq, hblock]
    exact congrArg (c.selector ++ block · call.destination call.parameters) hhead
  · obtain ⟨htext, hamount⟩ := Prod.mk.inj hsource
    obtain ⟨_, _, _, text, amount, _⟩ := call
    obtain rfl := htext
    obtain rfl := hamount
    rfl

/-- A native call that is read and laid out canonically is canonical. -/
theorem native_canonical {args : Bytes} {call : DecodedEvmVaultCall}
    (h : decodeEvmVaultArgs args xswapNativeWords none 3 = some call)
    (hlaid : LaidOut args xswapNativeWords 3) :
    ∃ c : VaultCall, c.encode = nativeSelectorBytes ++ args ∧ c.decoded = call := by
  obtain ⟨-, hat, -, -⟩ := eq_block h hlaid
  obtain ⟨-, -, -, htoken, -, -⟩ := decodeEvmVaultArgs_eq_some h
  have hhead : vaultHead (abiWord args 0) call.destination.length (abiWord args 2) none
      = (List.range xswapNativeWords).map (abiWord args) := by
    show _ = [abiWord args 0, abiWord args 1, abiWord args 2, abiWord args 3]
    rw [hlaid.destination_at, hat]
    rfl
  obtain ⟨c, hc, hencode, hdecoded⟩ :=
    canonical_of_laidOut h hlaid hhead (fun t ht => nomatch ht) (Option.some.inj htoken)
  rw [VaultCall.selector, hc] at hencode
  exact ⟨c, hencode, hdecoded⟩

/-- So is a token call. -/
theorem token_canonical {args : Bytes} {call : DecodedEvmVaultCall}
    (h : decodeEvmVaultArgs args xswapTokenWords (some (3, 4)) 5 = some call)
    (hlaid : LaidOut args xswapTokenWords 5) :
    ∃ c : VaultCall, c.encode = tokenSelectorBytes ++ args ∧ c.decoded = call := by
  obtain ⟨-, hat, -, -⟩ := eq_block h hlaid
  obtain ⟨-, -, -, htoken, -, -⟩ := decodeEvmVaultArgs_eq_some h
  have hhead : vaultHead (abiWord args 0) call.destination.length (abiWord args 2)
      (some (abiWord args 3, abiWord args 4))
        = (List.range xswapTokenWords).map (abiWord args) := by
    show _ = [abiWord args 0, abiWord args 1, abiWord args 2, abiWord args 3, abiWord args 4,
      abiWord args 5]
    rw [hlaid.destination_at, hat]
    rfl
  by_cases haddress : 2 ^ 160 ≤ abiWord args 3
  · have hnone : callToken args (some (3, 4)) = none := if_pos haddress
    rw [hnone] at htoken
    cases htoken
  · have hsome : callToken args (some (3, 4)) = some (tokenText (abiWord args 3), abiWord args 4) :=
      if_neg haddress
    rw [hsome] at htoken
    have hvalue : ∀ t ∈ some (abiWord args 3, abiWord args 4), t.1 < 2 ^ 160 ∧ t.2 < 2 ^ 256 := by
      intro t ht
      cases ht
      exact ⟨not_le.mp haddress, Abi.wordAt_lt⟩
    obtain ⟨c, hc, hencode, hdecoded⟩ :=
      canonical_of_laidOut h hlaid hhead hvalue (Option.some.inj htoken)
    rw [VaultCall.selector, hc] at hencode
    exact ⟨c, hencode, hdecoded⟩

/-- **Which calls are canonical**: every canonical call is read as what it says,
    and of the calls that are read exactly those are canonical that are laid out
    as the encoder lays them out. -/
theorem decodeEvmVaultCall_canonical_iff (calldata : Bytes) :
    (∀ c : VaultCall, c.encode = calldata → decodeEvmVaultCall calldata = some c.decoded)
    ∧ ∀ call : DecodedEvmVaultCall, decodeEvmVaultCall calldata = some call →
        ((∃ c : VaultCall, c.encode = calldata ∧ c.decoded = call) ↔ CallLaidOut calldata) := by
  constructor
  · rintro c rfl
    exact decodeEvmVaultCall_encode c
  · intro call h
    constructor
    · rintro ⟨c, rfl, -⟩
      exact callLaidOut_encode c
    intro hlaid
    rcases decodeEvmVaultCall_eq_some h with ⟨args, rfl, hread⟩ | ⟨args, rfl, hread⟩
    · exact native_canonical hread ((callLaidOut_native args).mp hlaid)
    · exact token_canonical hread ((callLaidOut_token args).mp hlaid)

/-- The call that moves one USDC is canonical. -/
theorem decodeEvmVaultCall_canonical_usdc :
    ∃ c : VaultCall, c.encode = usdcCalldata ∧ c.token.isSome = true := by
  have hlaid : CallLaidOut usdcCalldata := by
    rw [CallLaidOut]
    rw [if_neg (by decide +kernel)]
    exact ⟨by decide +kernel, by decide +kernel, by decide +kernel, by decide +kernel,
      by decide +kernel⟩
  obtain ⟨c, hencode, hdecoded⟩ :=
    ((decodeEvmVaultCall_canonical_iff usdcCalldata).2 _ usdcCall_decoded).mpr hlaid
  refine ⟨c, hencode, ?_⟩
  cases htoken : c.token with
  | none =>
      have hamount := congrArg DecodedEvmVaultCall.sourceAmount hdecoded
      rw [VaultCall.decoded, htoken] at hamount
      cases hamount
  | some t => rfl

/-- A native call whose destination and parameters are one tail. -/
def sharedTail : Bytes :=
  nativeSelectorBytes ++ words [1, 128, 5, 128, 0]

/-- Both offsets may point at one tail: the call is read, and no call has this
    encoding. -/
theorem decodeEvmVaultCall_sharedTail :
    decodeEvmVaultCall sharedTail = some {
      destinationChainId := 1
      destination := []
      destinationAssetId := 5
      sourceToken := ""
      sourceAmount := 0
      parameters := [] }
    ∧ ¬ ∃ c : VaultCall, c.encode = sharedTail := by
  refine ⟨by decide +kernel, ?_⟩
  rintro ⟨c, hc⟩
  have hlaid := (callLaidOut_native _).mp (hc ▸ callLaidOut_encode c)
  exact absurd hlaid.parameters_at (by decide +kernel)

end SwapsackEvmVault
