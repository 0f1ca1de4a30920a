import Swapsack.HexTextProofs
import Swapsack.PyJsonProofs

/-! # JSON text as Python writes and reads it

    `json.dumps` and `json.loads`.  Writing escapes everything outside printable
    ASCII; reading skips whitespace between tokens and takes the last of two
    equal keys.  A value that is written has no float, whose spelling is not
    modelled.  A text that is read may spell any float, `Infinity` and `NaN`
    among them; no `String` holds half a surrogate pair, and one that stands
    alone is read as U+FFFD.  How deep a value may nest is not modelled.

    * `readChars_quote` — a quoted text reads back, whatever is behind it;
    * `readNumber_toString` — so does an integer;
    * `loads_dumps` — what is written reads back, on one line or indented. -/

namespace JsonText

open ListKit ByteString HexText PyJson BinaryFloat

/-! ## Values that are written -/

/-- A value without floats. -/
inductive Doc where
  | null
  | bool (b : Bool)
  | int (n : ℤ)
  | str (s : String)
  | arr (items : List Doc)
  | obj (fields : List (String × Doc))

mutual
/-- The value itself. -/
def Doc.json : Doc → Json
  | .null => .null
  | .bool b => .bool b
  | .int n => .int n
  | .str s => .str s
  | .arr items => .arr (jsonItems items)
  | .obj fields => .obj (jsonFields fields)

/-- The values of some documents. -/
def jsonItems : List Doc → List Json
  | [] => []
  | x :: l => x.json :: jsonItems l

def jsonFields : List (String × Doc) → List (String × Json)
  | [] => []
  | (k, x) :: l => (k, x.json) :: jsonFields l
end

/-- An integer that is converted into a text and back. -/
def InDigits (n : ℤ) : Prop := (Nat.toDigits 10 n.natAbs).length ≤ maxStrDigits

instance (n : ℤ) : Decidable (InDigits n) := inferInstanceAs (Decidable (_ ≤ _))

mutual
/-- Every integer can be written, and the keys of every object are distinct. -/
def Doc.Regular : Doc → Prop
  | .int n => InDigits n
  | .arr items => RegularItems items
  | .obj fields => (fields.map Prod.fst).Nodup ∧ RegularFields fields
  | _ => True

/-- Each of the documents is regular. -/
def RegularItems : List Doc → Prop
  | [] => True
  | x :: l => x.Regular ∧ RegularItems l

def RegularFields : List (String × Doc) → Prop
  | [] => True
  | (_, x) :: l => x.Regular ∧ RegularFields l
end

/-! ## Writing -/

/-- The escapes of one letter. -/
def shortEscapes : List (Char × Char) :=
  [('"', '"'), ('\\', '\\'), ('\n', 'n'), ('\r', 'r'), ('\t', 't'), ('\x08', 'b'), ('\x0c', 'f')]

/-- Four hexadecimal digits. -/
def hex4 (n : ℕ) : List Char :=
  [hexDigit (n / 4096 % 16), hexDigit (n / 256 % 16), hexDigit (n / 16 % 16), hexDigit (n % 16)]

/-- The escape of a code unit. -/
def unicodeEscape (n : ℕ) : List Char := '\\' :: 'u' :: hex4 n

/-- A character between quotes; beyond the basic plane it is a surrogate pair. -/
def escape (c : Char) : List Char :=
  match getKey shortEscapes c with
  | some e => ['\\', e]
  | none =>
      if 32 ≤ c.toNat ∧ c.toNat ≤ 126 then [c]
      else if c.toNat < 0x10000 then unicodeEscape c.toNat
      else
        unicodeEscape (0xd800 + (c.toNat - 0x10000) / 1024)
          ++ unicodeEscape (0xdc00 + (c.toNat - 0x10000) % 1024)

/-- A string, in quotes and escaped. -/
def quote (s : String) : List Char := '"' :: (s.toList.flatMap escape ++ ['"'])

section Writing

variable (indent : Option ℕ)

/-- What stands behind an opening bracket at a depth, and before a closing one. -/
def lineBreak (depth : ℕ) : List Char :=
  match indent with
  | none => []
  | some n => '\n' :: List.replicate (n * depth) ' '

/-- What stands between two items. -/
def separator (depth : ℕ) : List Char :=
  match indent with
  | none => [',', ' ']
  | some _ => ',' :: lineBreak indent depth

mutual
/-- The text of a value at a depth. -/
def write : ℕ → Doc → List Char
  | _, .null => "null".toList
  | _, .bool true => "true".toList
  | _, .bool false => "false".toList
  | _, .int n => (toString n).toList
  | _, .str s => quote s
  | _, .arr [] => "[]".toList
  | d, .arr (x :: l) =>
      '[' :: (lineBreak indent (d + 1) ++ (write (d + 1) x ++ writeItems (d + 1) l)
        ++ lineBreak indent d ++ [']'])
  | _, .obj [] => "{}".toList
  | d, .obj ((k, x) :: l) =>
      '{' :: (lineBreak indent (d + 1)
        ++ (quote k ++ ':' :: ' ' :: (write (d + 1) x ++ writeFields (d + 1) l))
        ++ lineBreak indent d ++ ['}'])

/-- The items behind the first. -/
def writeItems : ℕ → List Doc → List Char
  | _, [] => []
  | d, x :: l => separator indent d ++ (write d x ++ writeItems d l)

/-- The fields behind the first. -/
def writeFields : ℕ → List (String × Doc) → List Char
  | _, [] => []
  | d, (k, x) :: l =>
      separator indent d ++ (quote k ++ ':' :: ' ' :: (write d x ++ writeFields d l))
end

/-- `json.dumps(x, indent=indent)`. -/
def dumps (x : Doc) : String := String.ofList (write indent 0 x)

end Writing

/-! ## Reading texts -/

/-- The four blanks of JSON. -/
def isJsonSpace (c : Char) : Bool := c == ' ' || c == '\t' || c == '\n' || c == '\r'

/-- What follows the whitespace at the front. -/
def skip (s : List Char) : List Char := s.dropWhile isJsonSpace

/-- The reader of four digits. -/
def readHex4 : List Char → Option (ℕ × List Char)
  | a :: b :: c :: d :: s => do
      let a ← hexValue a
      let b ← hexValue b
      let c ← hexValue c
      let d ← hexValue d
      some (((a * 16 + b) * 16 + c) * 16 + d, s)
  | _ => none

/-- The low half of a surrogate pair whose high half was `n`. -/
def readLow (n : ℕ) : List Char → Option (Char × List Char)
  | '\\' :: 'u' :: s => do
      let (m, s) ← readHex4 s
      if 0xdc00 ≤ m ∧ m < 0xe000 then
        some (Char.ofNat (0x10000 + (n - 0xd800) * 1024 + (m - 0xdc00)), s)
      else none
  | _ => none

/-- What stands for half a surrogate pair. -/
def loneSurrogate : Char := '\uFFFD'

/-- The character behind `\u`. -/
def readUnicode (s : List Char) : Option (Char × List Char) := do
  let (n, s) ← readHex4 s
  if 0xd800 ≤ n ∧ n < 0xdc00 then some ((readLow n s).getD (loneSurrogate, s))
  else if 0xdc00 ≤ n ∧ n < 0xe000 then some (loneSurrogate, s)
  else some (Char.ofNat n, s)

/-- What the letters behind a backslash stand for. -/
def letterEscapes : List (Char × Char) :=
  [('"', '"'), ('\\', '\\'), ('/', '/'), ('b', '\x08'), ('f', '\x0c'), ('n', '\n'), ('r', '\r'),
    ('t', '\t')]

/-- The character behind a backslash. -/
def readEscape : List Char → Option (Char × List Char)
  | [] => none
  | e :: s =>
      if e = 'u' then readUnicode s else (getKey letterEscapes e).map fun c => (c, s)

/-- The characters up to the closing quote, and what is behind it. -/
def readChars : ℕ → List Char → Option (List Char × List Char)
  | 0, _ => none
  | _ + 1, [] => none
  | fuel + 1, c :: s =>
      if c = '"' then some ([], s)
      else if c = '\\' then do
        let (c, s) ← readEscape s
        let (cs, s) ← readChars fuel s
        some (c :: cs, s)
      else if c.toNat < 32 then none
      else do
        let (cs, s) ← readChars fuel s
        some (c :: cs, s)

/-- A text behind its opening quote. -/
def readText (s : List Char) : Option (String × List Char) :=
  (readChars (s.length + 1) s).map fun p => (String.ofList p.1, p.2)

/-- Four digits are read back. -/
theorem readHex4_hex4 {n : ℕ} (h : n < 65536) (s : List Char) :
    readHex4 (hex4 n ++ s) = some (n, s) := by
  have hn : ((n / 4096 % 16 * 16 + n / 256 % 16) * 16 + n / 16 % 16) * 16 + n % 16 = n := by
    omega
  show readHex4 (_ :: _ :: _ :: _ :: s) = _
  rw [readHex4, hexValue_hexDigit (Nat.mod_lt _ (by decide)),
    hexValue_hexDigit (Nat.mod_lt _ (by decide)), hexValue_hexDigit (Nat.mod_lt _ (by decide)),
    hexValue_hexDigit (Nat.mod_lt _ (by decide))]
  simp only [Option.bind_eq_bind, Option.bind_some, hn]

/-- A character of the basic plane. -/
theorem readUnicode_plain {c : Char} (h : c.toNat < 0x10000) (s : List Char) :
    readUnicode (hex4 c.toNat ++ s) = some (c, s) := by
  have hvalid : c.toNat < 0xd800 ∨ 0xdfff < c.toNat ∧ c.toNat < 0x110000 := c.valid
  unfold readUnicode
  rw [readHex4_hex4 h]
  simp only [Option.bind_eq_bind, Option.bind_some]
  rw [if_neg (by omega), if_neg (by omega), Char.ofNat_toNat]

/-- A surrogate pair. -/
theorem readUnicode_pair {hi lo : ℕ} (hhi : 0xd800 ≤ hi ∧ hi < 0xdc00)
    (hlo : 0xdc00 ≤ lo ∧ lo < 0xe000) (s : List Char) :
    readUnicode (hex4 hi ++ (unicodeEscape lo ++ s))
      = some (Char.ofNat (0x10000 + (hi - 0xd800) * 1024 + (lo - 0xdc00)), s) := by
  unfold readUnicode
  rw [readHex4_hex4 (by omega)]
  simp only [Option.bind_eq_bind, Option.bind_some]
  rw [if_pos hhi]
  show some ((readLow _ ('\\' :: 'u' :: (hex4 _ ++ s))).getD _) = _
  rw [readLow, readHex4_hex4 (by omega)]
  simp only [Option.bind_eq_bind, Option.bind_some]
  rw [if_pos hlo, Option.getD_some]

/-- The halves of a character beyond the basic plane. -/
theorem surrogates_join {n : ℕ} (h : 0x10000 ≤ n) :
    0x10000 + (0xd800 + (n - 0x10000) / 1024 - 0xd800) * 1024
      + (0xdc00 + (n - 0x10000) % 1024 - 0xdc00) = n := by
  omega

/-- An escaped character is read as itself. -/
theorem readChars_escape (c : Char) (fuel : ℕ) (s : List Char) :
    readChars (fuel + 1) (escape c ++ s)
      = (readChars fuel s).map fun p => (c :: p.1, p.2) := by
  have hbind : ∀ x : Option (List Char × List Char),
      (do let (cs, s) ← x; some (c :: cs, s)) = x.map fun p => (c :: p.1, p.2) := by
    intro x
    cases x <;> rfl
  have hback : ∀ t, readEscape t = some (c, s) →
      readChars (fuel + 1) ('\\' :: t) = (readChars fuel s).map fun p => (c :: p.1, p.2) := by
    intro t ht
    rw [readChars, if_neg (by decide), if_pos rfl, ht]
    exact hbind _
  unfold escape
  cases hshort : getKey shortEscapes c with
  | some e =>
      have hletters : ∀ p ∈ shortEscapes, p.2 ≠ 'u' ∧ getKey letterEscapes p.2 = some p.1 :=
        forall_mem_of_all (by decide)
      obtain ⟨hu, hletter⟩ := hletters _ (mem_of_getKey hshort)
      refine hback _ ?_
      show readEscape (e :: s) = _
      rw [readEscape, if_neg hu, hletter]
      rfl
  | none =>
      dsimp only
      have hquote : c ≠ '"' := by
        rintro rfl
        cases hshort
      have hslash : c ≠ '\\' := by
        rintro rfl
        cases hshort
      by_cases hprint : 32 ≤ c.toNat ∧ c.toNat ≤ 126
      · rw [if_pos hprint]
        show readChars (fuel + 1) (c :: s) = _
        rw [readChars, if_neg hquote, if_neg hslash, if_neg (by omega)]
        exact hbind _
      rw [if_neg hprint]
      by_cases hplane : c.toNat < 0x10000
      · rw [if_pos hplane]
        exact hback _ (readUnicode_plain hplane s)
      · rw [if_neg hplane, List.append_assoc]
        have hvalid : c.toNat < 0xd800 ∨ 0xdfff < c.toNat ∧ c.toNat < 0x110000 := c.valid
        refine hback _ ((readUnicode_pair ?_ ?_ s).trans ?_)
        · omega
        · omega
        · rw [surrogates_join (not_lt.mp hplane), Char.ofNat_toNat]

/-- **A quoted text** reads back, whatever is behind it. -/
theorem readChars_quote (cs s : List Char) {fuel : ℕ} (h : cs.length < fuel) :
    readChars fuel (cs.flatMap escape ++ '"' :: s) = some (cs, s) := by
  induction cs generalizing fuel with
  | nil =>
      obtain ⟨fuel, rfl⟩ : ∃ k, fuel = k + 1 := ⟨fuel - 1, by rw [List.length_nil] at h; omega⟩
      rw [List.flatMap_nil, List.nil_append, readChars, if_pos rfl]
  | cons c cs ih =>
      obtain ⟨fuel, rfl⟩ : ∃ k, fuel = k + 1 := ⟨fuel - 1, by omega⟩
      rw [List.length_cons] at h
      rw [List.flatMap_cons, List.append_assoc, readChars_escape, ih (by omega)]
      rfl

/-- Every character is written as something. -/
theorem escape_ne_nil (c : Char) : escape c ≠ [] := by
  unfold escape
  split
  · exact List.cons_ne_nil _ _
  split
  · exact List.cons_ne_nil _ _
  split
  · exact List.cons_ne_nil _ _
  · exact List.cons_ne_nil _ _

/-- Escaping makes no text shorter. -/
theorem length_le_flatMap_escape (cs : List Char) : cs.length ≤ (cs.flatMap escape).length := by
  induction cs with
  | nil => exact Nat.le_refl 0
  | cons c cs ih =>
      have hpos : 0 < (escape c).length := List.length_pos_of_ne_nil (escape_ne_nil c)
      rw [List.flatMap_cons, List.length_append, List.length_cons]
      omega

/-- **A string is read back**, up to its own quote. -/
theorem readText_quote (t : String) (s : List Char) :
    readText (t.toList.flatMap escape ++ '"' :: s) = some (t, s) := by
  have hlen := length_le_flatMap_escape t.toList
  rw [readText, readChars_quote _ _ (by rw [List.length_append]; omega), Option.map_some,
    String.ofList_toList]

/-! ## Reading numbers -/

/-- The digits before a fraction; a zero stands alone. -/
def readWhole : List Char → Option (List Char × List Char)
  | [] => none
  | c :: s =>
      if c = '0' then some (['0'], s)
      else if c.isDigit then some (c :: s.takeWhile Char.isDigit, s.dropWhile Char.isDigit)
      else none

/-- A fraction has a digit behind its point, or there is none. -/
def readFraction : List Char → List Char × List Char
  | [] => ([], [])
  | c :: s =>
      if c = '.' ∧ s.takeWhile Char.isDigit ≠ [] then
        (s.takeWhile Char.isDigit, s.dropWhile Char.isDigit)
      else ([], c :: s)

/-- The sign of an exponent, which may be left out. -/
def readSign : List Char → ℤ × List Char
  | [] => (1, [])
  | c :: s => if c = '-' then (-1, s) else if c = '+' then (1, s) else (1, c :: s)

/-- An exponent has a digit, or there is none. -/
def readPower : List Char → Option ℤ × List Char
  | [] => (none, [])
  | c :: s =>
      let (sign, digits) := readSign s
      if (c = 'e' ∨ c = 'E') ∧ digits.takeWhile Char.isDigit ≠ [] then
        (some (sign * Nat.ofDigitChars 10 (digits.takeWhile Char.isDigit) 0),
          digits.dropWhile Char.isDigit)
      else (none, c :: s)

/-- A number behind its sign: an integer unless there is a fraction or a power.
    None is an integer of too many digits. -/
def readUnsigned (sign : ℤ) (s : List Char) : Option (Json × List Char) := do
  let (whole, s) ← readWhole s
  let (fraction, s) := readFraction s
  let (power, s) := readPower s
  if fraction = [] ∧ power = none then
    if whole.length ≤ maxStrDigits then some (.int (sign * Nat.ofDigitChars 10 whole 0), s)
    else none
  else
    some (.float (Double.ofRat (sign * Nat.ofDigitChars 10 (whole ++ fraction) 0
      * 10 ^ (power.getD 0 - fraction.length))), s)

/-- A number may have a minus in front, and no plus. -/
def readNumber : List Char → Option (Json × List Char)
  | [] => none
  | c :: s => if c = '-' then readUnsigned (-1) s else readUnsigned 1 (c :: s)

/-- No number goes on here. -/
def Ends (s : List Char) : Prop :=
  ∀ c, s.head? = some c → c.isDigit = false ∧ c ≠ '.' ∧ c ≠ 'e' ∧ c ≠ 'E'

/-- A positive numeral does not begin with a zero. -/
theorem toDigits_head {n : ℕ} (h : 0 < n) :
    ∃ c ds, Nat.toDigits 10 n = c :: ds ∧ c ≠ '0' := by
  induction n using Nat.strong_induction_on with
  | _ n ih =>
      by_cases hn : n < 10
      · refine ⟨n.digitChar, [], Nat.toDigits_of_lt_base hn, ?_⟩
        interval_cases n <;> decide
      · obtain ⟨c, ds, hds, hc⟩ := ih (n / 10) (by omega) (by omega)
        rw [Nat.toDigits_of_base_le (by decide) (by omega), hds]
        exact ⟨c, _, rfl, hc⟩

/-- The digits end where something else begins. -/
theorem takeWhile_digits {ds s : List Char} (hds : ∀ c ∈ ds, c.isDigit = true) (hs : Ends s) :
    (ds ++ s).takeWhile Char.isDigit = ds ∧ (ds ++ s).dropWhile Char.isDigit = s := by
  induction ds with
  | nil =>
      cases s with
      | nil => exact ⟨rfl, rfl⟩
      | cons c s =>
          have hc := (hs c rfl).1
          simp [hc]
  | cons d ds ih =>
      obtain ⟨htake, hdrop⟩ := ih fun c hc => hds c (List.mem_cons_of_mem _ hc)
      have hd := hds d List.mem_cons_self
      simp [hd, htake, hdrop]

/-- The digits of a number are read to their end, -/
theorem readWhole_toDigits (n : ℕ) {s : List Char} (hs : Ends s) :
    readWhole (Nat.toDigits 10 n ++ s) = some (Nat.toDigits 10 n, s) := by
  have hdigits : ∀ c ∈ Nat.toDigits 10 n, c.isDigit = true := fun c hc =>
    Nat.isDigit_of_mem_toDigits (by decide) (by decide) hc
  rcases Nat.eq_zero_or_pos n with rfl | hpos
  · rfl
  · obtain ⟨c, ds, hds, hc⟩ := toDigits_head hpos
    rw [hds] at hdigits ⊢
    obtain ⟨htake, hdrop⟩ :=
      takeWhile_digits (fun d hd => hdigits d (List.mem_cons_of_mem _ hd)) hs
    rw [List.cons_append, readWhole, if_neg hc, if_pos (hdigits c List.mem_cons_self), htake,
      hdrop]

/-- and are that number. -/
theorem readUnsigned_toDigits (sign : ℤ) {n : ℕ} {s : List Char}
    (hn : (Nat.toDigits 10 n).length ≤ maxStrDigits) (hs : Ends s) :
    readUnsigned sign (Nat.toDigits 10 n ++ s) = some (.int (sign * n), s) := by
  have hfraction : readFraction s = ([], s) := by
    cases s with
    | nil => rfl
    | cons c s => rw [readFraction, if_neg fun h => (hs c rfl).2.1 h.1]
  have hpower : readPower s = (none, s) := by
    cases s with
    | nil => rfl
    | cons c s =>
        rw [readPower]
        exact if_neg fun h => h.1.elim (hs c rfl).2.2.1 (hs c rfl).2.2.2
  have hvalue : Nat.ofDigitChars 10 (Nat.toDigits 10 n) 0 = n :=
    Nat.ofDigitChars_toDigits (by decide) (by decide)
  unfold readUnsigned
  rw [readWhole_toDigits n hs]
  simp only [Option.bind_eq_bind, Option.bind_some, hfraction, hpower, hvalue, and_self, if_true,
    if_pos hn]

/-- **An integer** reads back where no number goes on. -/
theorem readNumber_toString {n : ℤ} {s : List Char} (hn : InDigits n) (hs : Ends s) :
    readNumber ((toString n).toList ++ s) = some (.int n, s) := by
  cases n with
  | ofNat m =>
      have htext : (toString (Int.ofNat m)).toList = Nat.toDigits 10 m := Nat.toList_repr
      have hread := readUnsigned_toDigits 1 (n := m) hn hs
      rw [htext]
      cases hd : Nat.toDigits 10 m with
      | nil => exact absurd hd Nat.toDigits_ne_nil
      | cons c ds =>
          have hc : c.isDigit = true :=
            Nat.isDigit_of_mem_toDigits (by decide) (by decide) (hd ▸ List.mem_cons_self)
          have hsign : c ≠ '-' := by
            rintro rfl
            exact absurd hc (by decide)
          rw [hd] at hread
          rw [List.cons_append, readNumber, if_neg hsign, ← List.cons_append, hread, one_mul]
          rfl
  | negSucc m =>
      have htext : (toString (Int.negSucc m)).toList = '-' :: Nat.toDigits 10 (m + 1) := by
        show ("-" ++ (m + 1).repr).toList = _
        rw [String.toList_append, Nat.toList_repr]
        rfl
      have hread := readUnsigned_toDigits (-1) (n := m + 1) hn hs
      rw [htext, List.cons_append, readNumber, if_pos rfl, hread, neg_one_mul]
      rfl

/-! ## Reading values -/

/-- The words that are values. -/
def literals : List (String × Json) :=
  [("null", .null), ("true", .bool true), ("false", .bool false), ("NaN", .float .nan),
    ("Infinity", .float (.infinity false)), ("-Infinity", .float (.infinity true))]

/-- The literals, and numbers. -/
def readLiteral (s : List Char) : Option (Json × List Char) :=
  match literals.find? fun w => w.1.toList.isPrefixOf s with
  | some (word, x) => some (x, s.drop word.length)
  | none => readNumber s

/-- The fields as a dict keeps them: the last of two equal keys. -/
def dict (fields : List (String × Json)) : List (String × Json) :=
  fields.foldl (fun d p => setKey d p.1 p.2) []

/-- Behind an item: whether the bracket closes here, and what is behind it or
    behind the comma. -/
def readNext (close : Char) (s : List Char) : Option (Bool × List Char) :=
  match skip s with
  | [] => none
  | c :: s =>
      if c = close then some (true, s)
      else if c = ',' then some (false, skip s)
      else none

mutual
/-- One value, and what is behind it. -/
def readValue : ℕ → List Char → Option (Json × List Char)
  | 0, _ => none
  | _ + 1, [] => none
  | fuel + 1, c :: s =>
      if c = '"' then (readText s).map fun p => (.str p.1, p.2)
      else if c = '[' then
        if (skip s).head? = some ']' then some (.arr [], (skip s).tail)
        else (readItems fuel (skip s)).map fun p => (.arr p.1, p.2)
      else if c = '{' then
        if (skip s).head? = some '}' then some (.obj [], (skip s).tail)
        else (readFields fuel (skip s)).map fun p => (.obj (dict p.1), p.2)
      else readLiteral (c :: s)

/-- Items up to the closing bracket. -/
def readItems : ℕ → List Char → Option (List Json × List Char)
  | 0, _ => none
  | fuel + 1, s => do
      let (x, s) ← readValue fuel s
      let (closed, s) ← readNext ']' s
      if closed then some ([x], s)
      else do
        let (l, s) ← readItems fuel s
        some (x :: l, s)

/-- Fields up to the closing brace. -/
def readFields : ℕ → List Char → Option (List (String × Json) × List Char)
  | 0, _ => none
  | _ + 1, [] => none
  | fuel + 1, c :: s =>
      if c ≠ '"' then none
      else do
        let (k, s) ← readText s
        if (skip s).head? ≠ some ':' then none
        else do
          let (x, s) ← readValue fuel (skip (skip s).tail)
          let (closed, s) ← readNext '}' s
          if closed then some ([(k, x)], s)
          else do
            let (l, s) ← readFields fuel s
            some ((k, x) :: l, s)
end

/-- `json.loads(s)`; none is a `ValueError`. -/
def loads (s : String) : Option Json :=
  match readValue (s.length + 1) (skip s.toList) with
  | some (x, rest) => if skip rest = [] then some x else none
  | none => none

/-! ## Reading back -/

/-- What is no blank is not skipped. -/
theorem skip_of_head {c : Char} {s : List Char} (h : isJsonSpace c = false) :
    skip (c :: s) = c :: s := by
  rw [skip, List.dropWhile_cons, if_neg (by rw [h]; decide)]

/-- Blanks are. -/
theorem skip_append {ws s : List Char} (h : ∀ c ∈ ws, isJsonSpace c = true) :
    skip (ws ++ s) = skip s := by
  induction ws with
  | nil => rfl
  | cons c ws ih =>
      rw [List.cons_append, skip, List.dropWhile_cons, if_pos (h c List.mem_cons_self)]
      exact ih fun d hd => h d (List.mem_cons_of_mem _ hd)

/-- A line break is whitespace. -/
theorem lineBreak_space (indent : Option ℕ) (depth : ℕ) :
    ∀ c ∈ lineBreak indent depth, isJsonSpace c = true := by
  cases indent with
  | none => exact fun c hc => absurd hc List.not_mem_nil
  | some n =>
      intro c hc
      rcases List.mem_cons.mp hc with rfl | hc
      · rfl
      · rw [List.eq_of_mem_replicate hc]
        rfl

/-- A separator is a comma and whitespace. -/
theorem separator_eq (indent : Option ℕ) (depth : ℕ) :
    ∃ ws, separator indent depth = ',' :: ws ∧ ∀ c ∈ ws, isJsonSpace c = true := by
  cases indent with
  | none =>
      refine ⟨[' '], rfl, ?_⟩
      intro c hc
      rw [List.mem_singleton.mp hc]
      rfl
  | some n => exact ⟨_, rfl, lineBreak_space _ _⟩

/-- An integer's text begins with a digit, or with a minus and a digit. -/
theorem toString_head (n : ℤ) :
    ∃ c t, (toString n).toList = c :: t
      ∧ (c.isDigit = true ∨ c = '-' ∧ ∃ d t', t = d :: t' ∧ d.isDigit = true) := by
  have hdigits : ∀ m : ℕ, ∃ c t, Nat.toDigits 10 m = c :: t ∧ c.isDigit = true := by
    intro m
    cases hd : Nat.toDigits 10 m with
    | nil => exact absurd hd Nat.toDigits_ne_nil
    | cons c ds =>
        exact ⟨c, ds, rfl,
          Nat.isDigit_of_mem_toDigits (by decide) (by decide) (hd ▸ List.mem_cons_self)⟩
  cases n with
  | ofNat m =>
      obtain ⟨c, t, htext, hc⟩ := hdigits m
      exact ⟨c, t, Nat.toList_repr.trans htext, Or.inl hc⟩
  | negSucc m =>
      obtain ⟨c, t, htext, hc⟩ := hdigits (m + 1)
      refine ⟨'-', c :: t, ?_, Or.inr ⟨rfl, c, t, rfl, hc⟩⟩
      show ("-" ++ (m + 1).repr).toList = _
      rw [String.toList_append, Nat.toList_repr, htext]
      rfl

/-- A numeral starts with nothing else. -/
theorem numeral_ne {c : Char} (h : c.isDigit = true ∨ c = '-') {d : Char}
    (hdigit : d.isDigit = false) (hminus : d ≠ '-') : c ≠ d := by
  rintro rfl
  rcases h with h | h
  · rw [h] at hdigit
    cases hdigit
  · exact hminus h

/-- No number starts with a blank or closes a list. -/
theorem numeral_head {c : Char} (h : c.isDigit = true ∨ c = '-') :
    isJsonSpace c = false ∧ c ≠ ']' := by
  have hne : ∀ d : Char, d.isDigit = false → d ≠ '-' → c ≠ d := fun _ => numeral_ne h
  have hspace := hne ' ' (by decide) (by decide)
  have htab := hne '\t' (by decide) (by decide)
  have hline := hne '\n' (by decide) (by decide)
  have hreturn := hne '\r' (by decide) (by decide)
  refine ⟨?_, hne ']' (by decide) (by decide)⟩
  simp [isJsonSpace, hspace, htab, hline, hreturn]

/-- What a text of a value begins with: neither whitespace nor a closing bracket. -/
theorem write_head (indent : Option ℕ) (d : ℕ) (x : Doc) :
    ∃ c t, write indent d x = c :: t ∧ isJsonSpace c = false ∧ c ≠ ']' := by
  cases x with
  | null => exact ⟨'n', _, rfl, rfl, by decide⟩
  | bool b =>
      cases b with
      | false => exact ⟨'f', _, rfl, rfl, by decide⟩
      | true => exact ⟨'t', _, rfl, rfl, by decide⟩
  | str s => exact ⟨'"', _, rfl, rfl, by decide⟩
  | arr items =>
      cases items with
      | nil => exact ⟨'[', _, rfl, rfl, by decide⟩
      | cons x l => exact ⟨'[', _, rfl, rfl, by decide⟩
  | obj fields =>
      cases fields with
      | nil => exact ⟨'{', _, rfl, rfl, by decide⟩
      | cons p l => exact ⟨'{', _, rfl, rfl, by decide⟩
  | int n =>
      obtain ⟨c, t, htext, hc⟩ := toString_head n
      exact ⟨c, t, htext, numeral_head (hc.imp_right And.left)⟩

/-- No number goes on behind whitespace, a comma or a closing bracket. -/
theorem ends_cons {c : Char} {s : List Char}
    (h : isJsonSpace c = true ∨ c ∈ [',', ']', '}']) : Ends (c :: s) := by
  have hspace : isJsonSpace c = true → c ∈ [' ', '\t', '\n', '\r'] := by
    intro h
    simpa [isJsonSpace, or_assoc] using h
  have hall : ∀ c ∈ [' ', '\t', '\n', '\r', ',', ']', '}'],
      c.isDigit = false ∧ c ≠ '.' ∧ c ≠ 'e' ∧ c ≠ 'E' := forall_mem_of_all (by decide)
  intro d hd
  cases hd
  refine hall c ?_
  rcases h with h | h
  · exact List.mem_append_left [',', ']', '}'] (hspace h)
  · exact List.mem_append_right [' ', '\t', '\n', '\r'] h

/-- A number ends at a blank, too. -/
theorem ends_space {ws s : List Char} (h : ∀ c ∈ ws, isJsonSpace c = true) (hs : Ends s) :
    Ends (ws ++ s) := by
  cases ws with
  | nil => exact hs
  | cons c ws => exact ends_cons (Or.inl (h c List.mem_cons_self))

/-- A list ends at its bracket, blanks before it or not, -/
theorem readNext_close (close : Char) {ws : List Char} (h : ∀ c ∈ ws, isJsonSpace c = true)
    (hclose : isJsonSpace close = false) (s : List Char) :
    readNext close (ws ++ close :: s) = some (true, s) := by
  rw [readNext, skip_append h, skip_of_head hclose]
  exact if_pos rfl

/-- and goes on behind a comma. -/
theorem readNext_separator {close : Char} (hclose : close ≠ ',') (indent : Option ℕ) (d : ℕ)
    (s : List Char) : readNext close (separator indent d ++ s) = some (false, skip s) := by
  obtain ⟨ws, hws, hspace⟩ := separator_eq indent d
  rw [hws, List.cons_append, readNext, skip_of_head (by decide)]
  dsimp only
  rw [if_neg hclose.symm, if_pos rfl, skip_append hspace]

/-- The keys stay as they are. -/
theorem jsonFields_keys (fields : List (String × Doc)) :
    (jsonFields fields).map Prod.fst = fields.map Prod.fst := by
  induction fields with
  | nil => rfl
  | cons p l ih =>
      obtain ⟨k, x⟩ := p
      rw [jsonFields, List.map_cons, List.map_cons, ih]

/-- A new key is appended. -/
theorem setKey_of_not_mem {d : List (String × Json)} {k : String} (v : Json)
    (h : k ∉ d.map Prod.fst) : setKey d k v = d ++ [(k, v)] := by
  induction d with
  | nil => rfl
  | cons p d ih =>
      obtain ⟨k', v'⟩ := p
      rw [List.map_cons, List.mem_cons, not_or] at h
      rw [setKey, if_neg (Ne.symm h.1), ih h.2]
      rfl

/-- Distinct keys are kept as they are. -/
theorem dict_of_nodup {fields : List (String × Json)} (h : (fields.map Prod.fst).Nodup) :
    dict fields = fields := by
  have hfold : ∀ (l d : List (String × Json)), ((d ++ l).map Prod.fst).Nodup →
      l.foldl (fun d p => setKey d p.1 p.2) d = d ++ l := by
    intro l
    induction l with
    | nil => exact fun d _ => (List.append_nil d).symm
    | cons p l ih =>
        intro d hd
        have hnew : p.1 ∉ d.map Prod.fst := by
          rw [List.map_append, List.map_cons] at hd
          exact fun hp => (List.disjoint_of_nodup_append hd) hp List.mem_cons_self
        rw [List.foldl_cons, setKey_of_not_mem _ hnew, ih]
        · rw [List.append_assoc, List.singleton_append]
        · rwa [List.append_assoc, List.singleton_append]
  exact hfold fields [] h

section Values

variable (indent : Option ℕ)

/-- With so much fuel every shorter value reads back. -/
def ValuesRead (fuel : ℕ) : Prop :=
  ∀ x d s, Doc.Regular x → Ends s → (write indent d x).length < fuel →
    readValue fuel (write indent d x ++ s) = some (x.json, s)

/-- Items are read back, with the fuel that is left. -/
def ItemsRead (fuel : ℕ) : Prop :=
  ∀ x l d ws s, RegularItems (x :: l) → (∀ c ∈ ws, isJsonSpace c = true) →
    (write indent d x ++ writeItems indent d l).length + 1 < fuel →
    readItems fuel (write indent d x ++ (writeItems indent d l ++ (ws ++ ']' :: s)))
      = some (jsonItems (x :: l), s)

/-- And so are fields. -/
def FieldsRead (fuel : ℕ) : Prop :=
  ∀ k x l d ws s, RegularFields ((k, x) :: l) → (∀ c ∈ ws, isJsonSpace c = true) →
    (quote k ++ ':' :: ' ' :: (write indent d x ++ writeFields indent d l)).length + 1 < fuel →
    readFields fuel (quote k ++ ':' :: ' ' :: (write indent d x
        ++ (writeFields indent d l ++ (ws ++ '}' :: s))))
      = some (jsonFields ((k, x) :: l), s)

variable {indent} {fuel : ℕ}

/-- What is written starts with no blank. -/
theorem skip_write (x : Doc) (d : ℕ) (s : List Char) :
    skip (write indent d x ++ s) = write indent d x ++ s := by
  obtain ⟨c, t, htext, hspace, -⟩ := write_head indent d x
  rw [htext, List.cons_append, skip_of_head hspace]

/-- Items are read if values and fewer items are. -/
theorem itemsRead_succ (hvalues : ValuesRead indent fuel) (hitems : ItemsRead indent fuel) :
    ItemsRead indent (fuel + 1) := by
  intro x l d ws s hregular hws hlen
  rw [List.length_append] at hlen
  have hclose : Ends (ws ++ ']' :: s) := ends_space hws (ends_cons (Or.inr (by decide)))
  cases l with
  | nil =>
      have hvalue := hvalues x d (ws ++ ']' :: s) hregular.1 hclose (by omega)
      have hnext := readNext_close ']' hws (by decide) s
      unfold readItems
      simp only [writeItems, List.nil_append, hvalue, Option.bind_eq_bind, Option.bind_some,
        hnext, if_true]
      rfl
  | cons y l =>
      obtain ⟨sep, hsep, -⟩ := separator_eq indent d
      rw [writeItems, List.length_append, List.length_append, hsep, List.length_cons] at hlen
      have hends : Ends (separator indent d ++ (write indent d y ++ (writeItems indent d l
          ++ (ws ++ ']' :: s)))) := by
        rw [hsep]
        exact ends_cons (Or.inr (by decide))
      have hvalue := hvalues x d _ hregular.1 hends (by omega)
      have hrest := hitems y l d ws s hregular.2 hws (by rw [List.length_append]; omega)
      unfold readItems
      simp only [writeItems, List.append_assoc, hvalue, Option.bind_eq_bind, Option.bind_some,
        readNext_separator (show ']' ≠ ',' by decide), skip_write, hrest]
      rfl

/-- And so are fields. -/
theorem fieldsRead_succ (hvalues : ValuesRead indent fuel) (hfields : FieldsRead indent fuel) :
    FieldsRead indent (fuel + 1) := by
  intro k x l d ws s hregular hws hlen
  rw [List.length_append, List.length_cons, List.length_cons, List.length_append] at hlen
  have hclose : Ends (ws ++ '}' :: s) := ends_space hws (ends_cons (Or.inr (by decide)))
  have hcolon : ∀ t, skip (':' :: ' ' :: t) = ':' :: ' ' :: t := fun t => skip_of_head (by decide)
  have hafter : ∀ t, skip (' ' :: (write indent d x ++ t)) = write indent d x ++ t := fun t =>
    skip_write x d t
  have hquote : ∀ t, quote k ++ t = '"' :: (k.toList.flatMap escape ++ '"' :: t) := by
    intro t
    rw [quote, List.cons_append, List.append_assoc, List.singleton_append]
  rw [hquote]
  unfold readFields
  simp only [readText_quote, Option.bind_eq_bind, Option.bind_some, hcolon, List.head?_cons,
    List.tail_cons, hafter, ne_eq, not_true_eq_false, if_false]
  cases l with
  | nil =>
      have hvalue := hvalues x d (ws ++ '}' :: s) hregular.1 hclose (by omega)
      have hnext := readNext_close '}' hws (by decide) s
      simp only [writeFields, List.nil_append, hvalue, Option.bind_some, hnext, if_true]
      rfl
  | cons p l =>
      obtain ⟨k', y⟩ := p
      obtain ⟨sep, hsep, -⟩ := separator_eq indent d
      rw [writeFields, List.length_append, List.length_append, hsep, List.length_cons,
        List.length_cons, List.length_cons, List.length_append] at hlen
      have hends : ∀ t, Ends (separator indent d ++ t) := by
        intro t
        rw [hsep]
        exact ends_cons (Or.inr (by decide))
      have hvalue := fun t => hvalues x d _ hregular.1 (hends t) (by omega)
      have hrest := hfields k' y l d ws s hregular.2 hws (by
        rw [List.length_append, List.length_cons, List.length_cons, List.length_append]
        omega)
      have hskip : ∀ t, skip (quote k' ++ t) = quote k' ++ t := fun t => skip_of_head (by decide)
      simp only [writeFields, List.append_assoc, List.cons_append, hvalue, Option.bind_some,
        readNext_separator (show '}' ≠ ',' by decide), hskip, hrest]
      rfl

theorem isPrefixOf_cons_of_ne {c d : Char} (h : c ≠ d) (w s : List Char) :
    List.isPrefixOf (d :: w) (c :: s) = false := by
  show ((d == c) && w.isPrefixOf s) = false
  rw [beq_eq_false_iff_ne.mpr h.symm, Bool.false_and]

/-- No word begins with a digit, and none with a minus and a digit. -/
theorem find_literal {c : Char} {t : List Char}
    (h : c.isDigit = true ∨ c = '-' ∧ ∃ d t', t = d :: t' ∧ d.isDigit = true) :
    (literals.find? fun w => w.1.toList.isPrefixOf (c :: t)) = none := by
  have hstart : ∀ (d : Char) (w : List Char), d.isDigit = false → d ≠ '-' →
      (d :: w).isPrefixOf (c :: t) ≠ true := by
    intro d w hdigit hminus hword
    have hne : c ≠ d := numeral_ne (h.imp_right And.left) hdigit hminus
    rw [isPrefixOf_cons_of_ne hne] at hword
    cases hword
  rw [List.find?_eq_none]
  intro w hw
  rw [literals] at hw
  simp only [List.mem_cons, List.not_mem_nil, or_false] at hw
  rcases hw with rfl | rfl | rfl | rfl | rfl | rfl
  · exact hstart 'n' _ rfl (by decide)
  · exact hstart 't' _ rfl (by decide)
  · exact hstart 'f' _ rfl (by decide)
  · exact hstart 'N' _ rfl (by decide)
  · exact hstart 'I' _ rfl (by decide)
  · -- the minus of a numeral is followed by a digit
    show ('-' :: 'I' :: "nfinity".toList).isPrefixOf (c :: t) ≠ true
    intro hword
    rcases h with hdigit | ⟨rfl, d, t', rfl, hdigit⟩
    · have hne : c ≠ '-' := by
        rintro rfl
        exact absurd hdigit (by decide)
      rw [isPrefixOf_cons_of_ne hne] at hword
      cases hword
    · have hne : d ≠ 'I' := by
        rintro rfl
        exact absurd hdigit (by decide)
      have hrest : ('I' :: "nfinity".toList).isPrefixOf (d :: t') = true := hword
      rw [isPrefixOf_cons_of_ne hne] at hrest
      cases hrest

/-- A number starts none of the other values. -/
theorem readValue_toString (fuel : ℕ) {n : ℤ} {s : List Char} (hn : InDigits n)
    (hends : Ends s) :
    readValue (fuel + 1) ((toString n).toList ++ s) = some (.int n, s) := by
  obtain ⟨c, t, htext, hc⟩ := toString_head n
  have hhead : c.isDigit = true ∨ c = '-' := hc.imp_right And.left
  have hnumber := readNumber_toString hn hends
  have hnone : (literals.find? fun w => w.1.toList.isPrefixOf (c :: (t ++ s))) = none := by
    refine find_literal (hc.imp_right ?_)
    rintro ⟨rfl, d, t', rfl, hd⟩
    exact ⟨rfl, d, t' ++ s, rfl, hd⟩
  have hliteral : readLiteral (c :: (t ++ s)) = readNumber (c :: (t ++ s)) := by
    rw [readLiteral, hnone]
  rw [htext, List.cons_append] at hnumber ⊢
  rw [readValue, if_neg (numeral_ne hhead (by decide) (by decide)),
    if_neg (numeral_ne hhead (by decide) (by decide)),
    if_neg (numeral_ne hhead (by decide) (by decide)), hliteral, hnumber]

/-- A value is read if what is in it is. -/
theorem valuesRead_succ (hitems : ItemsRead indent fuel) (hfields : FieldsRead indent fuel) :
    ValuesRead indent (fuel + 1) := by
  intro x d s hregular hends hlen
  cases x with
  | null => rfl
  | bool b =>
      cases b with
      | false => rfl
      | true => rfl
  | str t =>
      have hquote : quote t ++ s = '"' :: (t.toList.flatMap escape ++ '"' :: s) := by
        rw [quote, List.cons_append, List.append_assoc, List.singleton_append]
      rw [write, hquote, readValue, if_pos rfl, readText_quote]
      rfl
  | int n =>
      rw [write]
      exact readValue_toString fuel hregular hends
  | arr items =>
      cases items with
      | nil => rfl
      | cons x l =>
          rw [write, List.length_cons, List.length_append, List.length_append, List.length_append,
            List.length_append, List.length_singleton] at hlen
          have hbreak := lineBreak_space indent (d + 1)
          have hread := hitems x l (d + 1) (lineBreak indent d) s hregular
            (lineBreak_space indent d) (by rw [List.length_append]; omega)
          obtain ⟨c, t, htext, -, hclose⟩ := write_head indent (d + 1) x
          have hhead : ∀ t', (write indent (d + 1) x ++ t').head? ≠ some ']' := by
            intro t' h
            rw [htext] at h
            cases h
            exact hclose rfl
          rw [write, List.cons_append, readValue, if_neg (by decide), if_pos rfl]
          simp only [List.append_assoc, List.singleton_append, skip_append hbreak, skip_write]
          rw [if_neg (hhead _), hread]
          rfl
  | obj fields =>
      cases fields with
      | nil => rfl
      | cons p l =>
          obtain ⟨k, x⟩ := p
          rw [write, List.length_cons, List.length_append, List.length_append, List.length_append,
            List.length_append, List.length_cons, List.length_cons, List.length_append,
            List.length_singleton] at hlen
          have hbreak := lineBreak_space indent (d + 1)
          have hread := hfields k x l (d + 1) (lineBreak indent d) s hregular.2
            (lineBreak_space indent d) (by
              rw [List.length_append, List.length_cons, List.length_cons, List.length_append]
              omega)
          have hskip : ∀ t, skip (quote k ++ t) = quote k ++ t := fun t =>
            skip_of_head (by decide)
          have hhead : ∀ t, (quote k ++ t).head? ≠ some '}' := by
            intro t h
            cases h
          have hkeys : ((jsonFields ((k, x) :: l)).map Prod.fst).Nodup := by
            rw [jsonFields_keys]
            exact hregular.1
          rw [write, List.cons_append, readValue, if_neg (by decide), if_neg (by decide),
            if_pos rfl]
          simp only [List.append_assoc, List.cons_append, List.nil_append, skip_append hbreak,
            hskip]
          rw [if_neg (hhead _), hread, Option.map_some, dict_of_nodup hkeys]
          rfl

/-- **Every value** that is written reads back, whatever does not go on with a
    number behind it. -/
theorem read_write (indent : Option ℕ) (fuel : ℕ) :
    ValuesRead indent fuel ∧ ItemsRead indent fuel ∧ FieldsRead indent fuel := by
  induction fuel with
  | zero =>
      exact ⟨fun _ _ _ _ _ h => absurd h (Nat.not_lt_zero _),
        fun _ _ _ _ _ _ _ h => absurd h (Nat.not_lt_zero _),
        fun _ _ _ _ _ _ _ _ h => absurd h (Nat.not_lt_zero _)⟩
  | succ fuel ih =>
      obtain ⟨hvalues, hitems, hfields⟩ := ih
      exact ⟨valuesRead_succ hitems hfields, itemsRead_succ hvalues hitems,
        fieldsRead_succ hvalues hfields⟩

/-- **`json.loads(json.dumps(x))` is `x`**, indented or not. -/
theorem loads_dumps (indent : Option ℕ) {x : Doc} (h : x.Regular) :
    loads (dumps indent x) = some x.json := by
  have hends : Ends [] := fun c hc => (by cases hc)
  have hread := (read_write indent ((write indent 0 x).length + 1)).1 x 0 [] h hends
    (Nat.lt_succ_self _)
  have hskip : skip (write indent 0 x ++ []) = write indent 0 x ++ [] := skip_write x 0 []
  rw [List.append_nil] at hread hskip
  rw [loads, dumps, String.toList_ofList, String.length_ofList, hskip, hread]
  rfl

end Values

end JsonText
