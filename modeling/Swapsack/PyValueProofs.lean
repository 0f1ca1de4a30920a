import Swapsack.CatchingProofs
import Swapsack.PyJsonProofs

/-! # Conversions of JSON values

    `int(x)`, `float(x)` and `round(x)` of what `json.loads` returned, under a
    statement that catches some of what they raise.

    * `intRead`, `floatRead` — what becomes of `int(x)` and `float(x)`, by the
      kind of `x`;
    * `readOf_toInt`, `readOf_toFloat` — that this is so, under a statement that
      catches `KeyError`, `TypeError` and `ValueError`. -/

namespace PyJson

open ListKit PyText Catching BinaryFloat

/-- `d.get(k) or 0`. -/
def orZero (x : Option Json) : Json := Json.orElse x (.int 0)

/-! ## Conversions -/

section Conversions

variable [PyUnicode]

/-- A numeral without its underscores, each of which stands between two digits;
    whether a digit came before. -/
def dropUnderscores : Bool → List Char → Option (List Char)
  | _, [] => some []
  | afterDigit, '_' :: c :: s =>
      if afterDigit && (PyUnicode.decimal c).isSome then
        (dropUnderscores true s).map fun s => c :: s
      else none
  | _, c :: s =>
      if c = '_' then none
      else (dropUnderscores (PyUnicode.decimal c).isSome s).map fun s => c :: s

/-- A float's text without its sign. -/
def readFloat (s : List Char) : Option Double := do
  let s ← dropUnderscores false s
  match ← readDecimal s with
  | .number q => some (Double.ofRat q)
  | .infinity => some (.infinity false)
  | .nan _ => if PyUnicode.lower (String.ofList s) = "nan" then some .nan else none

/-- `float(s)` of a text. -/
def floatText (s : String) : Option Double :=
  match strip s.toList with
  | '-' :: s => (readFloat s).map Double.neg
  | '+' :: s => readFloat s
  | s => readFloat s

/-- `float(x)`. -/
def Json.toFloat : Json → Except PyExc Double
  | .int n => (Double.ofRat n).inRange
  | .bool b => .ok (.finite (if b then 1 else 0))
  | .float x => .ok x
  | .str s => orValueError (floatText s)
  | _ => .error .typeError

/-! ## What becomes of them -/

/-- `except (KeyError, TypeError, ValueError)`. -/
def malformedExc : PyExc → Bool
  | .keyError | .typeError | .valueError => true
  | _ => false

/-- `int(x)`: only an infinity escapes. -/
def intRead : Json → Read
  | .int _ | .bool _ | .float (.finite _) => .fine
  | .float (.infinity _) => .escapes
  | .str s => if (intOfText s).isSome then .fine else .caught
  | _ => .caught

/-- `float(x)`: only an integer beyond every float escapes. -/
def floatRead : Json → Read
  | .int n => if overflowLimit ≤ |(n : ℚ)| then .escapes else .fine
  | .bool _ | .float _ => .fine
  | .str s => if (floatText s).isSome then .fine else .caught
  | _ => .caught

/-- `round(x * 100)`: what is or becomes infinite escapes. -/
def hundredfoldRead : Double → Read
  | .finite q => if overflowLimit ≤ |q * 100| then .escapes else .fine
  | .infinity _ => .escapes
  | .nan => .caught

/-- A key that only has to be there. -/
def presentRead {α : Type} : Option α → Read
  | some _ => .fine
  | none => .caught

/-- `d[k]`, of which something is read. -/
def itemRead (read : Json → Read) : Option Json → Read
  | some v => read v
  | none => .caught

omit [PyUnicode] in
theorem readOf_orKeyError {α : Type} (x : Option α) :
    readOf malformedExc (orKeyError x) = presentRead x := by
  cases x with
  | none => rfl
  | some a => rfl

omit [PyUnicode] in
theorem orKeyError_ok {α : Type} {x : Option α} {a : α} (h : orKeyError x = .ok a) :
    x = some a := by
  cases x with
  | none => cases h
  | some b =>
      cases h
      rfl

theorem readOf_toInt (v : Json) : readOf malformedExc v.toIntWithin = intRead v := by
  cases v with
  | null => rfl
  | bool b => rfl
  | int n => rfl
  | arr items => rfl
  | obj fields => rfl
  | float x =>
      cases x with
      | finite q => rfl
      | infinity negative => rfl
      | nan => rfl
  | str s =>
      rw [Json.toIntWithin, Json.toIntBy, intRead]
      cases intOfText s with
      | none => rfl
      | some n => rfl

theorem readOf_toFloat (v : Json) : readOf malformedExc v.toFloat = floatRead v := by
  cases v with
  | null => rfl
  | bool b => rfl
  | float x => rfl
  | arr items => rfl
  | obj fields => rfl
  | int n =>
      rw [Json.toFloat, floatRead, Double.ofRat]
      by_cases hbig : overflowLimit ≤ |(n : ℚ)|
      · rw [if_pos hbig, if_pos hbig]
        rfl
      · rw [if_neg hbig, if_neg hbig]
        rfl
  | str s =>
      rw [Json.toFloat, floatRead]
      cases floatText s with
      | none => rfl
      | some x => rfl

omit [PyUnicode] in
theorem readOf_hundredfold (x : Double) :
    readOf malformedExc x.hundredfold.round = hundredfoldRead x := by
  cases x with
  | infinity negative => rfl
  | nan => rfl
  | finite q =>
      rw [Double.hundredfold, hundredfoldRead, Double.ofRat]
      by_cases hbig : overflowLimit ≤ |q * 100|
      · rw [if_pos hbig, if_pos hbig]
        rfl
      · rw [if_neg hbig, if_neg hbig]
        rfl

omit [PyUnicode] in
/-- A key is looked up, and what it holds is read. -/
theorem readOf_item {α : Type} (fields : Fields) (k : String) {f : Json → Except PyExc α}
    {read : Json → Read} (h : ∀ v, readOf malformedExc (f v) = read v) :
    readOf malformedExc (item fields k >>= f) = itemRead read (getKey fields k) := by
  rw [item]
  cases getKey fields k with
  | none => rfl
  | some v => exact h v

end Conversions

end PyJson
