import Swapsack.Bech32Proofs
import Swapsack.UriTextProofs

/-! # Destination addresses

    What the wallet accepts as a destination: a payment URI is taken apart, the
    address inside is held against the shape of its chain, and then against its
    own checksum.  keccak and base58check come from libraries.

    * `validateDestinationAddress_eth` — what is accepted as an ETH destination;
    * `parsePaymentUri_text` — the address an `ethereum:` URI is paid at is its
      target, whatever else the URI says;
    * `respected_iff` — so the payee a URI designates is paid exactly when
      that is the target, and its chain is Ethereum's. -/

namespace SwapsackAddresses

open ListKit ByteString PyText UriText SwapsackBase SwapsackBech32

/-! ## Shapes -/

def isBase58 (c : Char) : Bool :=
  "123456789ABCDEFGHJKLMNPQRSTUVWXYZabcdefghijkmnopqrstuvwxyz".toList.contains c

def isBase32 (c : Char) : Bool := ('a' ≤ c && c ≤ 'z') || ('0' ≤ c && c ≤ '9')

def isHexDigit (c : Char) : Bool := (hexValue c).isSome

/-- One alternative of a shape rule: a literal prefix, one character of `lead`
    unless that is empty, and `least` to `most` characters of a class. -/
structure Form where
  literal : String := ""
  lead : String := ""
  body : Char → Bool
  least : ℕ
  most : ℕ

def Form.bodyMatches (f : Form) (s : List Char) : Bool :=
  f.least ≤ s.length && s.length ≤ f.most && s.all f.body

def Form.leadMatches (f : Form) (s : List Char) : Bool :=
  if f.lead = "" then f.bodyMatches s
  else
    match s with
    | [] => false
    | c :: s => f.lead.toList.contains c && f.bodyMatches s

def Form.accepts (f : Form) (s : List Char) : Bool :=
  f.literal.toList.isPrefixOf s && f.leadMatches (s.drop f.literal.length)

/-- A rule matches when an alternative does; `$` overlooks a final newline. -/
def ruleMatches (forms : List Form) (s : List Char) : Bool :=
  let s := if s.getLast? = some '\n' then s.dropLast else s
  forms.any fun f => f.accepts s

/-- Legacy base58 addresses. -/
def legacy (lead : String) : Form := { lead, body := isBase58, least := 24, most := 34 }

def evm : Form := { literal := "0x", body := isHexDigit, least := 40, most := 40 }

/-- Accounts of the Cosmos-SDK chains. -/
def account (literal : String) : Form := { literal, body := isBase32, least := 37, most := 58 }

def cashaddr (literal : String) : Form :=
  { literal, lead := "qp", body := isBase32, least := 40, most := 60 }

/-- The acceptance rules, keyed by the chain's prefix. -/
def rules : List (String × List Form) :=
  [("BTC", [{ literal := "bc1", body := isBase32, least := 11, most := 71 }, legacy "13"]),
   ("LTC", [{ literal := "ltc1", body := isBase32, least := 11, most := 71 }, legacy "LM3"]),
   ("DOGE", [legacy "DA9"]),
   ("BCH", [cashaddr "bitcoincash:", cashaddr "",
     { literal := "bitcoincash:", lead := "13", body := isBase58, least := 24, most := 34 },
     legacy "13"]),
   ("DASH", [legacy "X7"]),
   ("ZEC", [{ literal := "t", lead := "13", body := isBase58, least := 32, most := 34 }]),
   ("ETH", [evm]),
   ("ARB", [evm]),
   ("AVAX", [evm]),
   ("BSC", [evm]),
   ("TRON", [{ literal := "T", body := isBase58, least := 33, most := 33 }]),
   ("MAYA", [account "maya1"]),
   ("THOR", [account "thor1"]),
   ("GAIA", [account "cosmos1"]),
   ("XRP", [{ literal := "r", body := isBase58, least := 24, most := 34 }]),
   ("ADA", [{ literal := "addr1", body := isBase32, least := 50, most := 110 }])]

/-! ## Payment URIs -/

/-- The schemes of payment URIs and the chains they name. -/
def uriSchemes : List (String × String) :=
  [("bitcoin", "BTC"), ("litecoin", "LTC"), ("dogecoin", "DOGE"), ("dash", "DASH"),
   ("zcash", "ZEC"), ("bitcoincash", "BCH"), ("ethereum", "ETH"), ("tron", "TRON")]

/-- The scheme that doubles as the canonical prefix of its addresses. -/
def keepScheme : List String := ["bitcoincash"]

section Uri

variable [PyUnicode]

/-- Split a payment URI into the address and its query parameters; a text
    without a known scheme is returned as it is. -/
def parsePaymentUri (text : String) : String × List (String × String) :=
  let text := strip text.toList
  let (scheme, found, rest) := partition ':' text
  let scheme := PyUnicode.lower (String.ofList scheme)
  if !found || (getKey uriSchemes scheme).isNone then (String.ofList text, [])
  else
    let (body, _, query) := partition '?' rest
    let body := (partition '/' (partition '@' body).1).1
    let address := String.ofList (strip (unquote body))
    let address := if keepScheme.contains scheme then scheme ++ ":" ++ address else address
    (address, dictOf (parseQsl query))

/-- The chain a payment URI names. -/
def uriChain (text : String) : Option String :=
  getKey uriSchemes
    (PyUnicode.lower (String.ofList (partition ':' (strip text.toList)).1))

end Uri

/-! ## Checksums -/

/-- The orders in which the base58 alphabet is used. -/
inductive Alphabet where
  | bitcoin
  | xrp
deriving DecidableEq

/-- What the checks take from libraries: keccak-256, and whether a text is
    base58check under an alphabet. -/
structure ChecksumLib where
  keccak256 : Bytes → Bytes
  b58checkOk : Alphabet → String → Bool

def segwitHrp : List (String × String) := [("BTC", "bc"), ("LTC", "ltc")]

def plainBech32Hrp : List (String × String) :=
  [("MAYA", "maya"), ("THOR", "thor"), ("GAIA", "cosmos"), ("ADA", "addr")]

def evmChains : List String := ["ETH", "ARB", "AVAX", "BSC"]

def base58checkAlphabet : List (String × Alphabet) :=
  [("BTC", .bitcoin), ("LTC", .bitcoin), ("DOGE", .bitcoin), ("BCH", .bitcoin),
   ("DASH", .bitcoin), ("ZEC", .bitcoin), ("TRON", .bitcoin), ("XRP", .xrp)]

def cashaddrGenerators : List ℕ :=
  [0x98F2BC8E61, 0x79B76D99E2, 0xF33E5FB3C4, 0xAE2EABE2A8, 0x1E4F43E470]

/-- One round of the cashaddr checksum. -/
def cashaddrStep (checksum value : ℕ) : ℕ :=
  let top := checksum >>> 35
  cashaddrGenerators.zipIdx.foldl
    (fun checksum gen => if (top >>> gen.2) &&& 1 ≠ 0 then checksum ^^^ gen.1 else checksum)
    (((checksum &&& 0x07FFFFFFFF) <<< 5) ^^^ value)

/-- `address.rpartition(":")`, as prefix and body. -/
def rpartitionColon (s : List Char) : List Char × List Char :=
  match partition ':' s.reverse with
  | (body, true, pre) => (pre.reverse, body.reverse)
  | _ => ([], s)

/-- A cashaddr checksum, with or without the written prefix. -/
def cashaddrOk (address : String) : Bool :=
  let (pre, body) := rpartitionColon address.toList
  let pre := if pre = [] then "bitcoincash".toList else pre
  match body.mapM charset.idxOf? with
  | none => false
  | some values =>
      let prefixed := pre.map (fun (c : Char) => c.toNat &&& 0x1F) ++ [0]
      ((prefixed ++ values).foldl cashaddrStep 1) ^^^ 1 == 0

/-- The EIP-55 casing of a hexadecimal address; `none` where that is not
    hexadecimal. -/
def toChecksumAddress (lib : ChecksumLib) (address : List Char) : Option (List Char) :=
  let digits := match address with
    | '0' :: 'x' :: digits => digits
    | '0' :: 'X' :: digits => digits
    | digits => digits
  (fromHexChars digits).map fun raw =>
    let lower := (hex raw).toList
    let digest := (hex (lib.keccak256 (encodeUtf8 (hex raw)))).toList
    let cased := (lower.zip digest).map fun p =>
      if p.1.isAlpha && 8 ≤ (hexValue p.2).getD 0 then p.1.toUpper else p.1
    '0' :: 'x' :: cased

/-- The EIP-55 casing, if the address claims one at all.  Its shape has been
    checked: the body is ASCII. -/
def eip55Ok (lib : ChecksumLib) (address : String) : Bool :=
  let body := address.toList.drop 2
  if body = body.map Char.toLower ∨ body = body.map Char.toUpper then true
  else toChecksumAddress lib address.toList == some address.toList

section Validate

variable [PyUnicode] (lib : ChecksumLib)

/-- The problem of an address that fails its own checksum. -/
def checksumProblem (chain address : String) : Option String :=
  let shown := PyUnicode.repr address
  let verdict := fun (ok : Bool) =>
    if ok then none
    else some (s!"{shown} has a bad checksum — a valid {chain} address would not, "
      ++ "so this is a typo or a truncated paste")
  match (getKey segwitHrp chain).filter fun hrp => startsWith address (hrp ++ "1") with
  | some hrp => verdict (segwitOk address hrp)
  | none =>
      match getKey plainBech32Hrp chain with
      | some hrp =>
          match bech32Decode address with
          | .error _ => verdict false
          | .ok (decodedHrp, _) => verdict (decodedHrp == hrp.toList)
      | none =>
          if chain = "BCH" ∧ !(startsWith address "1" || startsWith address "3") then
            verdict (cashaddrOk address)
          else if evmChains.contains chain then verdict (eip55Ok lib address)
          else
            match getKey base58checkAlphabet chain with
            | none => none
            | some alphabet => verdict (lib.b58checkOk alphabet address)

/-- The problem with `address` as a destination on `chain`, if there is one. -/
def validateDestinationAddress (chain address : String) : Option String :=
  if address = "" then some "destination address is empty"
  else
    let named := uriChain address
    if named.isSome && named != some chain then
      let scheme := PyUnicode.repr (String.ofList (partition ':' address.toList).1)
      let named := strOf named
      some s!"{scheme} URI is a {named} address, but this is a {chain} spend"
    else
      let (address, _) := parsePaymentUri address
      if address = "" then some "destination address is empty"
      else
        match getKey rules chain with
        | none => none
        | some rule =>
            if !ruleMatches rule address.toList then
              let shown := PyUnicode.repr address
              some s!"{shown} does not look like a valid {chain} address"
            else checksumProblem lib chain address

/-- What `send` resolves its recipient to: an address that validates, unless the
    URI asks for an amount that `--amount` contradicts (`amountDiffers`). -/
def sendRecipient (chain address asset amount : String)
    (amountDiffers : String → Bool) : Except String String :=
  match validateDestinationAddress lib chain address with
  | some problem => .error s!"recipient: {problem}"
  | none =>
      let (recipient, params) := parsePaymentUri address
      match getKey params "amount" with
      | none => .ok recipient
      | some uriAmount =>
          if amountDiffers uriAmount then
            .error (s!"recipient: the payment URI asks for {uriAmount} {asset}, "
              ++ s!"but --amount is {amount}")
          else .ok recipient

end Validate

/-! ## ETH destinations -/

/-- `0x`, forty hexadecimal digits, and the casing of EIP-55 if there is any. -/
def isEthAddress (lib : ChecksumLib) (address : List Char) : Bool :=
  evm.accepts address && eip55Ok lib (String.ofList address)

/-- The account a text names: the forty digits after `0x`, in either case.
    Whitespace around it is not part of it. -/
def accountOf (text : List Char) : Option (List ℕ) :=
  match strip text with
  | '0' :: 'x' :: digits => if digits.length = 40 then digits.mapM hexValue else none
  | _ => none

/-- What the shape rule of ETH asks for. -/
theorem evm_accepts_iff {s : List Char} :
    evm.accepts s = true
      ↔ ∃ digits, s = '0' :: 'x' :: digits ∧ digits.length = 40
        ∧ ∀ c ∈ digits, isHexDigit c = true := by
  have hforms : evm.accepts s = (['0', 'x'].isPrefixOf s && evm.bodyMatches (s.drop 2)) := rfl
  rw [hforms, Bool.and_eq_true, List.isPrefixOf_iff_prefix, Form.bodyMatches, Bool.and_eq_true,
    Bool.and_eq_true, List.all_eq_true, decide_eq_true_iff, decide_eq_true_iff]
  constructor
  · rintro ⟨⟨digits, rfl⟩, ⟨hleast, hmost⟩, hall⟩
    exact ⟨digits, rfl, Nat.le_antisymm hmost hleast, hall⟩
  · rintro ⟨digits, rfl, hlen, hall⟩
    exact ⟨⟨digits, rfl⟩, ⟨hlen.ge, hlen.le⟩, hall⟩

/-- An address of the right shape names an account. -/
theorem accountOf_isSome {s : List Char} (hstrip : strip s = s)
    (h : evm.accepts s = true) : ∃ account, accountOf s = some account := by
  obtain ⟨digits, rfl, hlen, hall⟩ := evm_accepts_iff.mp h
  have hmapM : ∀ ds : List Char, (∀ c ∈ ds, isHexDigit c = true) →
      ∃ values, ds.mapM hexValue = some values := by
    intro ds
    induction ds with
    | nil => exact fun _ => ⟨[], rfl⟩
    | cons c ds ih =>
        intro hds
        obtain ⟨v, hv⟩ := Option.isSome_iff_exists.mp (hds c List.mem_cons_self)
        obtain ⟨vs, hvs⟩ := ih fun d hd => hds d (List.mem_cons_of_mem _ hd)
        exact ⟨v :: vs, by rw [List.mapM_cons, hv, hvs]; rfl⟩
  obtain ⟨values, hvalues⟩ := hmapM digits hall
  refine ⟨values, ?_⟩
  rw [accountOf, hstrip]
  show (if digits.length = 40 then digits.mapM hexValue else none) = some values
  rw [if_pos hlen, hvalues]

theorem accountOf_strip (s : List Char) : accountOf (strip s) = accountOf s := by
  rw [accountOf, accountOf, strip_strip]

/-! ## The URIs of EIP-681 -/

/-- A character that stands for itself in a URI: no whitespace. -/
def isUriChar (c : Char) : Bool := !isSpace c

/-- `ethereum:<target>[@chain_id][/function][?params]`, each component as it is
    written, percent-encoding included. -/
structure Eip681 where
  target : List Char
  chainId : Option (List Char)
  function : Option (List Char)
  params : List (List Char × List Char)
  target_chars : ∀ c ∈ target, isUriChar c = true ∧ c ≠ '@' ∧ c ≠ '/' ∧ c ≠ '?'
  chainId_digits : ∀ id, chainId = some id → id ≠ [] ∧ ∀ c ∈ id, c.isDigit = true
  function_chars : ∀ f, function = some f → ∀ c ∈ f, isUriChar c = true ∧ c ≠ '?'
  params_chars : ∀ p ∈ params,
    (∀ c ∈ p.1, isUriChar c = true ∧ c ≠ '&' ∧ c ≠ '=')
      ∧ ∀ c ∈ p.2, isUriChar c = true ∧ c ≠ '&'

namespace Eip681

variable (uri : Eip681)

/-- The parameters as they are written. -/
def query : Option (List Char) :=
  if uri.params = [] then none
  else some (List.intercalate ['&'] (uri.params.map fun p => p.1 ++ '=' :: p.2))

def body : List Char :=
  uri.target ++ suffix '@' uri.chainId ++ suffix '/' uri.function

/-- The scheme `ethereum`. -/
def scheme : List Char := ['e', 't', 'h', 'e', 'r', 'e', 'u', 'm']

def chars : List Char := scheme ++ ':' :: (uri.body ++ suffix '?' uri.query)

def text : String := String.ofList uri.chars

/-- The function named is the transfer of an ERC-20 token. -/
def IsTransfer : Prop := uri.function.map unquote = some "transfer".toList

instance : Decidable uri.IsTransfer :=
  inferInstanceAs (Decidable (uri.function.map unquote = some "transfer".toList))

/-- The value of a parameter. -/
def param (name : String) : Option (List Char) :=
  (uri.params.find? fun p => unquote p.1 = name.toList).map fun p => unquote p.2

/-- The account the URI designates as payee: the target when no function is
    named, the `address` parameter of a token transfer. -/
def payee : Option (List ℕ) :=
  match uri.function with
  | none => accountOf (unquote uri.target)
  | some _ => (uri.param "address").bind accountOf

/-- The number a chain id spells. -/
def chainNumber (id : List Char) : ℕ := id.foldl (fun n c => 10 * n + (c.toNat - 48)) 0

/-! ## What the parser makes of them -/

theorem isDigit_plain {c : Char} (h : c.isDigit = true) :
    isSpace c = false ∧ c ≠ '?' := by
  have hrange : 48 ≤ c.toNat ∧ c.toNat ≤ 57 := by
    rw [Char.isDigit, Bool.and_eq_true, decide_eq_true_iff, decide_eq_true_iff] at h
    exact ⟨h.1, h.2⟩
  obtain ⟨hlo, hhi⟩ := hrange
  constructor
  · rw [isSpace]
    simp only [Bool.or_eq_false_iff, Bool.and_eq_false_iff, decide_eq_false_iff_not,
      beq_eq_false_iff_ne]
    omega
  · rintro rfl
    exact absurd hhi (by decide)

/-- What holds of every character of the components holds of the suffix. -/
theorem mem_suffix {sep c : Char} {s : Option (List Char)} (h : c ∈ suffix sep s) :
    c = sep ∨ ∃ t, s = some t ∧ c ∈ t := by
  cases s with
  | none => exact nomatch h
  | some t =>
      rcases List.mem_cons.mp h with rfl | h
      · exact Or.inl rfl
      · exact Or.inr ⟨t, rfl, h⟩

theorem isUriChar_plain {c : Char} (h : isUriChar c = true) : isSpace c = false := by
  rwa [isUriChar, Bool.not_eq_true'] at h

/-- The body holds no whitespace and no question mark. -/
theorem body_chars : ∀ c ∈ uri.body, isSpace c = false ∧ c ≠ '?' := by
  intro c hc
  rw [body, List.mem_append, List.mem_append] at hc
  rcases hc with (hc | hc) | hc
  · obtain ⟨hchar, -, -, hne⟩ := uri.target_chars c hc
    exact ⟨isUriChar_plain hchar, hne⟩
  · rcases mem_suffix hc with rfl | ⟨id, hid, hc⟩
    · decide
    · exact isDigit_plain ((uri.chainId_digits id hid).2 c hc)
  · rcases mem_suffix hc with rfl | ⟨f, hf, hc⟩
    · decide
    · obtain ⟨hchar, hne⟩ := uri.function_chars f hf c hc
      exact ⟨isUriChar_plain hchar, hne⟩

/-- A URI holds no whitespace. -/
theorem chars_plain : ∀ c ∈ uri.chars, isSpace c = false := by
  intro c hc
  rw [chars, List.mem_append, List.mem_cons, List.mem_append] at hc
  rcases hc with hc | rfl | hc | hc
  · have hscheme : ∀ c ∈ scheme, isSpace c = false := forall_mem_of_all (by decide)
    exact hscheme c hc
  · decide
  · exact (uri.body_chars c hc).1
  · rcases mem_suffix hc with rfl | ⟨query, hquery, hc⟩
    · decide
    · rw [Eip681.query] at hquery
      split at hquery
      · exact nomatch hquery
      · rename_i hparams
        cases hquery
        by_cases hamp : c = '&'
        · rw [hamp]
          decide
        · -- the character stands inside one of the parameters
          have hsep : '&' ∉ [c] := fun h => hamp (List.mem_singleton.mp h).symm
          have hne : uri.params.map (fun p => p.1 ++ '=' :: p.2) ≠ [] := by
            rwa [ne_eq, List.map_eq_nil_iff]
          obtain ⟨seg, hseg, hmem⟩ :=
            (infix_intercalate hsep hne).mp ((List.singleton_infix_iff c _).mpr hc)
          obtain ⟨p, hp, rfl⟩ := List.mem_map.mp hseg
          obtain ⟨hname, hvalue⟩ := uri.params_chars p hp
          rcases List.mem_append.mp ((List.singleton_infix_iff c _).mp hmem) with h | h
          · exact isUriChar_plain (hname c h).1
          · rcases List.mem_cons.mp h with rfl | h
            · decide
            · exact isUriChar_plain (hvalue c h).1

section Parse

variable [PyUnicode]

omit [PyUnicode] in
/-- The text as the parser splits it: the scheme and the rest. -/
theorem text_partition :
    partition ':' (strip uri.text.toList)
      = (scheme, true, uri.body ++ suffix '?' uri.query) := by
  have hstrip : strip uri.chars = uri.chars :=
    strip_eq_self (fun c hc => uri.chars_plain c (List.mem_of_mem_head? hc))
      (fun c hc => uri.chars_plain c (List.mem_of_getLast? hc))
  rw [text, String.toList_ofList, hstrip, chars]
  exact partition_append (by decide) _

theorem scheme_lower :
    PyUnicode.lower (String.ofList scheme) = "ethereum" :=
  PyUnicode.lower_ascii _ (forall_mem_of_all (by decide))

/-- The chain an `ethereum:` URI names. -/
theorem uriChain_text : uriChain uri.text = some "ETH" := by
  rw [uriChain, text_partition, scheme_lower]
  rfl

/-- **The address an `ethereum:` URI is paid at is its target**, whatever chain
    and function it names. -/
theorem parsePaymentUri_text :
    (parsePaymentUri uri.text).1 = String.ofList (strip (unquote uri.target)) := by
  have hbody : (partition '?' (uri.body ++ suffix '?' uri.query)).1 = uri.body :=
    partition_suffix (fun h => (uri.body_chars _ h).2 rfl) uri.query
  have htarget : (partition '/' (partition '@' uri.body).1).1 = uri.target :=
    cut_target (by decide) (fun h => (uri.target_chars _ h).2.1 rfl)
      (fun h => (uri.target_chars _ h).2.2.1 rfl) uri.chainId uri.function
  rw [parsePaymentUri, text_partition]
  dsimp only
  rw [scheme_lower, hbody, htarget]
  rfl

/-- **What is accepted as an ETH destination**: a URI whose target is an ETH
    address.  The chain, the function and the parameters are not looked at. -/
theorem validateDestinationAddress_eth (lib : ChecksumLib) :
    validateDestinationAddress lib "ETH" uri.text = none
      ↔ isEthAddress lib (strip (unquote uri.target)) = true := by
  have htext : uri.text ≠ "" := by
    intro h
    have hchars : uri.chars = [] := String.ofList_eq_empty_iff.mp h
    exact absurd (List.append_eq_nil_iff.mp hchars).1 (by decide)
  have hpaid := uri.parsePaymentUri_text
  rw [validateDestinationAddress, if_neg htext]
  dsimp only
  rw [uri.uriChain_text, if_neg (by decide)]
  generalize parsePaymentUri uri.text = parsed at hpaid ⊢
  obtain ⟨paid, params⟩ := parsed
  dsimp only at hpaid ⊢
  rw [hpaid]
  -- what was stripped ends in no newline, so `$` overlooks nothing
  generalize hs : strip (unquote uri.target) = s
  have hlast : s.getLast? ≠ some '\n' := by
    intro h
    rw [← hs] at h
    exact absurd (strip_getLast? h) (by decide)
  have hrule : ruleMatches [evm] s = evm.accepts s := by
    rw [ruleMatches, if_neg hlast, List.any_cons, List.any_nil, Bool.or_false]
  by_cases hempty : String.ofList s = ""
  · rw [if_pos hempty, String.ofList_eq_empty_iff.mp hempty]
    exact ⟨fun h => (nomatch h), fun h => (nomatch h)⟩
  · rw [if_neg hempty]
    show (if !ruleMatches [evm] (String.ofList s).toList then _
      else checksumProblem lib "ETH" (String.ofList s)) = none ↔ _
    rw [String.toList_ofList, hrule, isEthAddress]
    cases evm.accepts s with
    | false => exact ⟨fun h => (nomatch h), fun h => (nomatch h)⟩
    | true =>
        show (if eip55Ok lib (String.ofList s) then none else some _) = none
          ↔ eip55Ok lib (String.ofList s) = true
        cases eip55Ok lib (String.ofList s) with
        | false => exact ⟨fun h => (nomatch h), fun h => (nomatch h)⟩
        | true => exact ⟨fun _ => rfl, fun _ => rfl⟩

end Parse

/-! ## Who is paid -/

/-- The URI is respected: once it is accepted as an ETH destination, the address
    to be paid is the payee it designates, and its chain is Ethereum's. -/
def Respected [PyUnicode] (lib : ChecksumLib) : Prop :=
  validateDestinationAddress lib "ETH" uri.text = none →
    (uri.function = none ∨ uri.IsTransfer → ∃ account, uri.payee = some account
        ∧ accountOf (parsePaymentUri uri.text).1.toList = some account)
      ∧ ∀ id, uri.chainId = some id → chainNumber id = 1

/-- The target is the payee, on Ethereum: a token transfer names the account of
    the target itself, and the chain id, if there is one, is 1. -/
def PaysTarget : Prop :=
  (uri.IsTransfer →
      (uri.param "address").bind accountOf = accountOf (unquote uri.target))
    ∧ ∀ id, uri.chainId = some id → chainNumber id = 1

/-- **A payment URI is respected exactly when it pays its target.**  The suffixes
    are cut off, not read: of the URIs whose target is an ETH address, those are
    respected whose transfer pays the token contract itself and whose chain is
    Ethereum. -/
theorem respected_iff [PyUnicode] (lib : ChecksumLib) :
    uri.Respected lib
      ↔ (isEthAddress lib (strip (unquote uri.target)) = true → uri.PaysTarget) := by
  rw [Respected, validateDestinationAddress_eth, parsePaymentUri_text,
    String.toList_ofList, accountOf_strip]
  refine imp_congr_right fun heth => ?_
  obtain ⟨account, haccount⟩ : ∃ account, accountOf (unquote uri.target) = some account := by
    rw [← accountOf_strip]
    rw [isEthAddress, Bool.and_eq_true] at heth
    exact accountOf_isSome (strip_strip _) heth.1
  rw [PaysTarget, haccount]
  -- the chain is asked for on both sides; the payee differs only in a transfer
  refine and_congr_left fun _ => ?_
  constructor
  · intro hpayee htransfer
    obtain ⟨a, hpaid, ha⟩ := hpayee (Or.inr htransfer)
    rw [ha, ← hpaid, payee]
    cases hf : uri.function with
    | none =>
        rw [IsTransfer, hf] at htransfer
        exact nomatch htransfer
    | some f => rfl
  · intro hparam hcase
    refine ⟨account, ?_, rfl⟩
    rw [payee]
    cases hf : uri.function with
    | none => exact haccount
    | some f =>
        refine hparam ?_
        rcases hcase with hnone | htransfer
        · rw [hf] at hnone
          exact nomatch hnone
        · exact htransfer

end Eip681

/-! ## A token transfer, and a payment on another chain -/

/-- keccak and base58check are not asked: the addresses have no upper-case
    letter. -/
def noChecksums : ChecksumLib where
  keccak256 _ := []
  b58checkOk _ _ := false

def tokenContract : String := "0xdac17f958d2ee523a2206206994597c13d831ec7"
def tokenPayee : String := "0x9858effd232b4033e47d90003d41ec34ecaeda94"

/-- A request for one USDT to `tokenPayee`. -/
def tokenTransfer : Eip681 where
  target := tokenContract.toList
  chainId := none
  function := some "transfer".toList
  params := [("address".toList, tokenPayee.toList), ("uint256".toList, "1000000".toList)]
  target_chars := forall_mem_of_all (by decide)
  chainId_digits := by
    intro id h
    exact nomatch h
  function_chars := by
    intro f h
    cases h
    exact forall_mem_of_all (by decide)
  params_chars := by
    intro p hp
    rw [List.mem_cons, List.mem_singleton] at hp
    rcases hp with rfl | rfl
    · exact ⟨forall_mem_of_all (by decide), forall_mem_of_all (by decide)⟩
    · exact ⟨forall_mem_of_all (by decide), forall_mem_of_all (by decide)⟩

/-- A request for ether on another EVM chain. -/
def otherChain : Eip681 where
  target := tokenPayee.toList
  chainId := some "137".toList
  function := none
  params := []
  target_chars := forall_mem_of_all (by decide)
  chainId_digits := by
    intro id h
    cases h
    exact ⟨List.cons_ne_nil _ _, forall_mem_of_all (by decide)⟩
  function_chars := by
    intro f h
    exact nomatch h
  params_chars := by
    intro p hp
    exact nomatch hp

/-- A token transfer is accepted and `send` goes on to pay the token contract;
    a payment on another chain is accepted as one on Ethereum. -/
theorem respected_fails :
    ¬ (∀ [PyUnicode] (lib : ChecksumLib) (uri : Eip681), uri.Respected lib)
      ∧ @sendRecipient asciiUnicode noChecksums "ETH" tokenTransfer.text "ETH" "0.1"
          (fun _ => false) = .ok tokenContract
      ∧ ¬ @Eip681.Respected otherChain asciiUnicode noChecksums := by
  have haccepted : @validateDestinationAddress asciiUnicode noChecksums "ETH"
      tokenTransfer.text = none :=
    (@Eip681.validateDestinationAddress_eth tokenTransfer asciiUnicode noChecksums).mpr
      (by decide +kernel)
  have hother : @validateDestinationAddress asciiUnicode noChecksums "ETH"
      otherChain.text = none :=
    (@Eip681.validateDestinationAddress_eth otherChain asciiUnicode noChecksums).mpr
      (by decide +kernel)
  have htransfer : tokenTransfer.IsTransfer := by decide +kernel
  have hne : tokenTransfer.payee
      ≠ accountOf (@parsePaymentUri asciiUnicode tokenTransfer.text).1.toList := by
    decide +kernel
  refine ⟨?_, by decide +kernel, ?_⟩
  · intro h
    have hpayee := (@h asciiUnicode noChecksums tokenTransfer haccepted).1
      (Or.inr htransfer)
    exact hpayee.elim fun account hboth => hne (hboth.1.trans hboth.2.symm)
  · intro h
    have hchain := (h hother).2
    exact absurd (hchain "137".toList rfl) (by decide)

end SwapsackAddresses
