import Swapsack.PyTextProofs

/-! # JSON values as a Python program reads them

    The values `json.loads` returns, and what the usual reads of them do or
    raise: `d[k]` and `d.get(k)`, truth in `x or d`, `int(x)`, comparisons with
    a text.  A float is a binary64 datum, and may be infinite or no number.

    * `same_int`, `same_str` — `x == y` of integers and of texts;
    * `intText_toString` — `int(str(n))` is `n`;
    * `getItem_ok` — what a read that does not raise found. -/

namespace PyJson

/-- What a read of a value can raise. -/
inductive PyExc where
  | typeError
  | keyError
  | valueError
  | attributeError
  | invalidOperation
  | overflowError
  | indexError
deriving DecidableEq

end PyJson

/-! ## Floats -/

namespace BinaryFloat.Double

open PyJson

/-- `x * 100`. -/
def hundredfold : Double → Double
  | finite q => ofRat (q * 100)
  | x => x

/-- `int(x)`: cut off towards zero. -/
def toInt : Double → Except PyExc ℤ
  | finite q => .ok (if 0 ≤ q then ⌊q⌋ else ⌈q⌉)
  | infinity _ => .error .overflowError
  | nan => .error .valueError

/-- `round(x)`. -/
def round : Double → Except PyExc ℤ
  | finite q => .ok (roundHalfEven q)
  | infinity _ => .error .overflowError
  | nan => .error .valueError

/-- A conversion that must not overflow. -/
def inRange : Double → Except PyExc Double
  | infinity _ => .error .overflowError
  | x => .ok x

/-- `0 < x`. -/
def isPositive : Double → Bool
  | finite q => decide (0 < q)
  | infinity negative => !negative
  | nan => false

/-- `x == y`, of the floats or of the integers they stand for. -/
def equals : Double → Double → Bool
  | finite p, finite q => p == q
  | infinity m, infinity n => m == n
  | _, _ => false

end BinaryFloat.Double

namespace PyJson

open ListKit PyText BinaryFloat

/-- A JSON value; the fields of an object have distinct keys. -/
inductive Json where
  | null
  | bool (b : Bool)
  | int (n : ℤ)
  | float (x : Double)
  | str (s : String)
  | arr (items : List Json)
  | obj (fields : List (String × Json))

/-- The fields of an object. -/
abbrev Fields := List (String × Json)

/-- What a key holds, if it is there. -/
def orKeyError {α : Type} : Option α → Except PyExc α
  | some a => .ok a
  | none => .error .keyError

/-- `d[k]` of an object. -/
def item (fields : Fields) (k : String) : Except PyExc Json := orKeyError (getKey fields k)

namespace Json

/-! ## Reads -/

/-- `d.get(k)`; only an object has the method. -/
def getField (d : Json) (k : String) : Except PyExc (Option Json) :=
  match d with
  | obj fields => .ok (getKey fields k)
  | _ => .error .attributeError

/-- `d[k]` for a text `k`. -/
def getItem (d : Json) (k : String) : Except PyExc Json :=
  match d with
  | obj fields => item fields k
  | _ => .error .typeError

/-- `k in d` for a text `k`. -/
def contains (d : Json) (k : String) : Except PyExc Bool :=
  match d with
  | obj fields => .ok (getKey fields k).isSome
  | arr items => .ok (items.any fun | str s => s == k | _ => false)
  | str s => .ok (isIn k s)
  | _ => .error .typeError

/-- Iterating over a value: the items of a list, the keys of an object, the
    characters of a text. -/
def items (d : Json) : Except PyExc (List Json) :=
  match d with
  | arr items => .ok items
  | obj fields => .ok (fields.map fun p => str p.1)
  | str s => .ok (s.toList.map fun c => str (String.ofList [c]))
  | _ => .error .typeError

/-- The truth of a value, as `if x` and `x or d` see it. -/
def truthy : Json → Bool
  | null => false
  | bool b => b
  | int n => n != 0
  | float x => !x.isZero
  | str s => s != ""
  | arr items => !items.isEmpty
  | obj fields => !fields.isEmpty

/-- `x or d`, where an absent `x` was read as a default that gives way to `d`. -/
def orElse (x : Option Json) (d : Json) : Json :=
  match x with
  | some v => if v.truthy then v else d
  | none => d

/-- `x == "…"`. -/
def isText (x : Json) (s : String) : Bool :=
  match x with
  | str t => t == s
  | _ => false

/-- `d.get(k, default)`. -/
def getD (d : Json) (k : String) (default : Json) : Except PyExc Json :=
  (d.getField k).map fun x => x.getD default

/-- `x[0]`. -/
def first : Json → Except PyExc Json
  | arr [] => .error .indexError
  | arr (x :: _) => .ok x
  | str s =>
      match s.toList with
      | [] => .error .indexError
      | c :: _ => .ok (str (String.ofList [c]))
  | obj _ => .error .keyError
  | _ => .error .typeError

/-- Whether a value can be in a set. -/
def hashable : Json → Bool
  | arr _ => false
  | obj _ => false
  | _ => true

/-- `0 < x`; a truth value counts as 0 or 1. -/
def isPositive : Json → Except PyExc Bool
  | int n => .ok (decide (0 < n))
  | float x => .ok x.isPositive
  | bool b => .ok b
  | _ => .error .typeError

/-- `isinstance(x, int)`: truth values are integers. -/
def asInt : Json → Option ℤ
  | int n => some n
  | bool b => some (if b then 1 else 0)
  | _ => none

/-! ## Equality -/

/-- The number a value stands for, if it is one; an integer is itself. -/
def number? : Json → Option Double
  | int n => some (.finite n)
  | float x => some x
  | bool b => some (.finite (if b then 1 else 0))
  | _ => none

/-- `x == y` where one side is a number. -/
def sameNumber (x : Double) (y : Json) : Bool := y.number?.any x.equals

mutual
/-- `x == y`: numbers by value, lists item by item, objects key by key. -/
def same : Json → Json → Bool
  | null, null => true
  | str s, str t => s == t
  | arr l, arr r => sameItems l r
  | obj l, obj r => l.length == r.length && sameFields l r
  | int n, y => sameNumber (.finite n) y
  | float x, y => sameNumber x y
  | bool b, y => sameNumber (.finite (if b then 1 else 0)) y
  | _, _ => false

def sameItems : List Json → List Json → Bool
  | [], [] => true
  | x :: l, y :: r => same x y && sameItems l r
  | _, _ => false

/-- Every field of the first is in the second. -/
def sameFields : List (String × Json) → List (String × Json) → Bool
  | [], _ => true
  | (k, x) :: l, r =>
      (match getKey r k with
       | some y => same x y
       | none => false) && sameFields l r
end

theorem same_int (m n : ℤ) : (int m).same (int n) = decide (m = n) := by
  rw [same, sameNumber, number?, Option.any_some, Double.equals]
  by_cases h : m = n
  · simp [h]
  · simp [h]

theorem same_str (s t : String) : (str s).same (str t) = (s == t) := by
  rw [same]

end Json

/-! ## Integers -/

section Integers

variable [PyUnicode]

/-- Decimal digits after `value`, with single underscores between them. -/
def readDigits (value : ℕ) : List Char → Option ℕ
  | [] => some value
  | '_' :: c :: s =>
      match PyUnicode.decimal c with
      | some d => readDigits (10 * value + d) s
      | none => none
  | c :: s =>
      match PyUnicode.decimal c with
      | some d => readDigits (10 * value + d) s
      | none => none

/-- A decimal number without a sign. -/
def readNat : List Char → Option ℕ
  | [] => none
  | c :: s => (PyUnicode.decimal c).bind fun d => readDigits d s

/-- `int(s)` of a text. -/
def intText (s : String) : Option ℤ :=
  match strip s.toList with
  | '-' :: digits => (readNat digits).map fun n => -(n : ℤ)
  | '+' :: digits => (readNat digits).map Int.ofNat
  | digits => (readNat digits).map Int.ofNat

/-- What a text is read as, if it can be. -/
def orValueError {α : Type} : Option α → Except PyExc α
  | some a => .ok a
  | none => .error .valueError

/-- `int(x)`, where a text is read by `read`. -/
def Json.toIntBy (read : String → Option ℤ) : Json → Except PyExc ℤ
  | .int n => .ok n
  | .bool b => .ok (if b then 1 else 0)
  | .float x => x.toInt
  | .str s => orValueError (read s)
  | _ => .error .typeError

/-- `int(x)`, of a text of any length. -/
def Json.toInt : Json → Except PyExc ℤ := Json.toIntBy intText

/-- The most digits a text and an integer are converted into each other with. -/
def maxStrDigits : ℕ := 4300

/-- `int(s)` of a text, within the limit on its digits. -/
def intOfText (s : String) : Option ℤ :=
  if maxStrDigits < (s.toList.filter fun c => (PyUnicode.decimal c).isSome).length then none
  else intText s

/-- `int(x)`, within the limit on the digits of a text. -/
def Json.toIntWithin : Json → Except PyExc ℤ := Json.toIntBy intOfText

/-! ## Decimals -/

/-- What `Decimal` of a text can be. -/
inductive PyDecimal where
  | number (q : ℚ)
  | infinity
  | nan (signalling : Bool)

/-- The digits at the front of a text, and what follows them. -/
def spanDigits : List Char → List ℕ × List Char
  | [] => ([], [])
  | c :: s =>
      match PyUnicode.decimal c with
      | some d => (d :: (spanDigits s).1, (spanDigits s).2)
      | none => ([], c :: s)

/-- The exponent of a decimal text; none is 0. -/
def readExponent : List Char → Option ℤ
  | [] => some 0
  | e :: s =>
      if e = 'e' ∨ e = 'E' then
        match s with
        | '-' :: digits => (readNat digits).map fun n => -(n : ℤ)
        | '+' :: digits => (readNat digits).map Int.ofNat
        | digits => (readNat digits).map Int.ofNat
      else none

/-- A decimal text without its sign. -/
def readDecimal (s : List Char) : Option PyDecimal :=
  let (whole, rest) := spanDigits s
  let (fraction, rest) :=
    match rest with
    | '.' :: rest => spanDigits rest
    | rest => ([], rest)
  if whole ++ fraction = [] then
    let word := (PyUnicode.lower (String.ofList s)).toList
    if word = "inf".toList ∨ word = "infinity".toList then some .infinity
    else if "nan".toList.isPrefixOf word ∧ (spanDigits (word.drop 3)).2 = [] then
      some (.nan false)
    else if "snan".toList.isPrefixOf word ∧ (spanDigits (word.drop 4)).2 = [] then
      some (.nan true)
    else none
  else
    (readExponent rest).map fun e : ℤ =>
      let digits : ℕ := (whole ++ fraction).foldl (fun n d => 10 * n + d) 0
      .number (digits * 10 ^ (e - fraction.length))

/-- `Decimal(s)` of a text; underscores are dropped. -/
def decimalText (s : String) : Option PyDecimal :=
  match (strip s.toList).filter (· != '_') with
  | '-' :: s =>
      (readDecimal s).map fun
        | .number q => .number (-q)
        | other => other
  | '+' :: s => readDecimal s
  | s => readDecimal s

/-- `Decimal(str(x))`: a float is written with as few digits as read back. -/
def Json.toDecimal : Json → Option PyDecimal
  | .int n => some (.number n)
  | .float (.finite q) => some (.number (shortest q))
  | .float (.infinity _) => some .infinity
  | .float .nan => some (.nan false)
  | .str s => decimalText s
  | _ => none

/-! ## Reading numerals back -/

/-- A digit reads as its value. -/
theorem decimal_digit {c : Char} (h : c.isDigit = true) :
    PyUnicode.decimal c = some (c.toNat - 48) := by
  have hlt : c.toNat < 128 := by
    rw [Char.isDigit, Bool.and_eq_true, decide_eq_true_iff, decide_eq_true_iff] at h
    have hle : c.toNat ≤ 57 := h.2
    omega
  rw [PyUnicode.decimal_ascii c hlt, if_pos h]

theorem readDigits_cons {c : Char} (value : ℕ) (s : List Char) (h : c.isDigit = true) :
    readDigits value (c :: s) = readDigits (10 * value + (c.toNat - 48)) s := by
  have hne : c ≠ '_' := by
    rintro rfl
    exact absurd h (by decide)
  rw [readDigits]
  · rw [decimal_digit h]
  · intro d s' hc
    exact absurd hc hne

/-- Digits read as the number they spell. -/
theorem readDigits_digits {s : List Char} (h : ∀ c ∈ s, c.isDigit = true) (value : ℕ) :
    readDigits value s = some (Nat.ofDigitChars 10 s value) := by
  induction s generalizing value with
  | nil => rfl
  | cons c s ih =>
      rw [readDigits_cons value s (h c List.mem_cons_self),
        ih (fun d hd => h d (List.mem_cons_of_mem _ hd)), Nat.ofDigitChars_cons]
      rfl

theorem readNat_repr (n : ℕ) : readNat (Nat.toDigits 10 n) = some n := by
  have hdigits : ∀ c ∈ Nat.toDigits 10 n, c.isDigit = true := fun c hc =>
    Nat.isDigit_of_mem_toDigits (by decide) (by decide) hc
  have hvalue : Nat.ofDigitChars 10 (Nat.toDigits 10 n) 0 = n :=
    Nat.ofDigitChars_toDigits (by decide) (by decide)
  cases hd : Nat.toDigits 10 n with
  | nil => exact absurd hd Nat.toDigits_ne_nil
  | cons c s =>
      rw [hd] at hdigits hvalue
      rw [readNat, decimal_digit (hdigits c List.mem_cons_self), Option.bind_some,
        readDigits_digits fun d h => hdigits d (List.mem_cons_of_mem _ h)]
      rw [Nat.ofDigitChars_cons, Nat.mul_zero, Nat.zero_add] at hvalue
      exact congrArg some hvalue

omit [PyUnicode] in
theorem isDigit_space {c : Char} (h : c.isDigit = true) : isSpace c = false := by
  rw [Char.isDigit, Bool.and_eq_true, decide_eq_true_iff, decide_eq_true_iff] at h
  have hlo : 48 ≤ c.toNat := h.1
  have hhi : c.toNat ≤ 57 := h.2
  rw [isSpace]
  simp only [Bool.or_eq_false_iff, Bool.and_eq_false_iff, decide_eq_false_iff_not,
    beq_eq_false_iff_ne]
  omega

omit [PyUnicode] in
/-- A decimal numeral has nothing to strip. -/
theorem strip_numeral {s : List Char} (h : ∀ c ∈ s, c.isDigit = true ∨ c = '-') :
    strip s = s := by
  have hspace : ∀ c ∈ s, isSpace c = false := by
    intro c hc
    rcases h c hc with hdigit | rfl
    · exact isDigit_space hdigit
    · decide
  exact strip_eq_self (fun c hc => hspace c (List.mem_of_mem_head? hc))
    (fun c hc => hspace c (List.mem_of_getLast? hc))

/-- **`int(str(n))` is `n`.** -/
theorem intText_toString (n : ℤ) : intText (toString n) = some n := by
  have hdigits : ∀ m : ℕ, ∀ c ∈ Nat.toDigits 10 m, c.isDigit = true := fun m c hc =>
    Nat.isDigit_of_mem_toDigits (by decide) (by decide) hc
  rw [intText]
  cases n with
  | ofNat m =>
      have htext : (toString (Int.ofNat m)).toList = Nat.toDigits 10 m := Nat.toList_repr
      rw [htext, strip_numeral fun c hc => Or.inl (hdigits m c hc)]
      split
      · rename_i digits heq
        have hin : '-' ∈ Nat.toDigits 10 m := heq ▸ List.mem_cons_self
        exact absurd (hdigits m '-' hin) (by decide)
      · rename_i digits heq
        have hin : '+' ∈ Nat.toDigits 10 m := heq ▸ List.mem_cons_self
        exact absurd (hdigits m '+' hin) (by decide)
      · rw [readNat_repr]
        rfl
  | negSucc m =>
      have htext : (toString (Int.negSucc m)).toList = '-' :: Nat.toDigits 10 (m + 1) := by
        show ("-" ++ (m + 1).repr).toList = _
        rw [String.toList_append, Nat.toList_repr]
        rfl
      have hnumeral : ∀ c ∈ '-' :: Nat.toDigits 10 (m + 1), c.isDigit = true ∨ c = '-' := by
        intro c hc
        rcases List.mem_cons.mp hc with rfl | hin
        · exact Or.inr rfl
        · exact Or.inl (hdigits _ c hin)
      rw [htext, strip_numeral hnumeral]
      show (readNat (Nat.toDigits 10 (m + 1))).map (fun k => -(k : ℤ)) = _
      rw [readNat_repr]
      rfl

@[simp] theorem Json.toInt_toString (n : ℤ) : (Json.str (toString n)).toInt = .ok n := by
  rw [toInt, toIntBy, intText_toString]
  rfl

end Integers

/-! ## What was read -/

theorem getItem_ok {d v : Json} {k : String} (h : d.getItem k = .ok v) :
    ∃ fields, d = .obj fields ∧ getKey fields k = some v := by
  unfold Json.getItem at h
  split at h
  · rename_i fields
    rw [item] at h
    cases hw : getKey fields k with
    | none =>
        rw [hw] at h
        cases h
    | some w =>
        rw [hw] at h
        cases h
        exact ⟨fields, rfl, hw⟩
  · cases h

theorem isText_iff {x : Json} {s : String} : x.isText s = true ↔ x = .str s := by
  cases x <;> simp [Json.isText]

end PyJson
