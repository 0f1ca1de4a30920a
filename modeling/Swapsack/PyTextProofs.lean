import Swapsack.BinaryFloatProofs
import Swapsack.ListKitProofs

/-! # Python text

    The string operations a translated Python program uses, on Lean strings
    seen as lists of Unicode scalar values: substring test, prefix test,
    `partition`, `strip`, `str()` of an optional value and two-decimal
    formatting.  `str.lower` and `repr` depend on the interpreter's Unicode
    tables, so they come as a class with the facts about them that are used. -/

namespace PyText

open BinaryFloat ListKit

/-- `needle in hay`. -/
def isIn (needle hay : String) : Bool := decide (needle.toList <:+: hay.toList)

/-- `s.startswith(pre)`. -/
def startsWith (s pre : String) : Bool := pre.toList.isPrefixOf s.toList

theorem isIn_iff {needle hay : String} :
    isIn needle hay = true ↔ needle.toList <:+: hay.toList := by
  rw [isIn]
  rw [decide_eq_true_iff]

/-- The interpreter's `str.lower`, `repr` and decimal digits.  On ASCII `lower`
    maps letter by letter; no character but the colon itself lower-cases to a
    text with a colon, and none but the Kelvin sign leaves ASCII for it.  `repr`
    only occurs in messages. -/
class PyUnicode where
  lower : String → String
  repr : String → String
  decimal : Char → Option ℕ
  lower_ascii : ∀ s : String, (∀ c ∈ s.toList, c.toNat < 128) →
    lower s = String.ofList (s.toList.map Char.toLower)
  lower_colon : ∀ s : String, ':' ∉ s.toList → ':' ∉ (lower s).toList
  lower_from_ascii : ∀ s : String,
    (∀ c ∈ (lower s).toList, c.toNat < 128 ∧ c ≠ 'k') → ∀ c ∈ s.toList, c.toNat < 128
  decimal_ascii : ∀ c : Char, c.toNat < 128 →
    decimal c = if c.isDigit then some (c.toNat - 48) else none

/-- No ASCII letter lower-cases to a colon. -/
theorem toLower_eq_colon {c : Char} (h : c.toLower = ':') : c = ':' := by
  unfold Char.toLower at h
  split at h
  · rename_i hupper
    have hval : (c.val + ('a'.val - 'A'.val)).toNat = ':'.val.toNat :=
      congrArg (fun d : Char => d.val.toNat) h
    have hlow : 'A'.val.toNat ≤ c.val.toNat := hupper.1
    rw [UInt32.toNat_add] at hval
    have hstep : ('a'.val - 'A'.val).toNat = 32 := rfl
    have hcolon : ':'.val.toNat = 58 := rfl
    have hA : 'A'.val.toNat = 65 := rfl
    have hZ : c.val.toNat ≤ 90 := hupper.2
    omega
  · exact h

/-- An ASCII letter lower-cases to an ASCII letter. -/
theorem toLower_ascii {c : Char} (h : c.toNat < 128) : c.toLower.toNat < 128 := by
  have hc : c = Char.ofNat c.toNat := (Char.ofNat_toNat c).symm
  have hall : ∀ k < 128, (Char.ofNat k).toLower.toNat < 128 := by decide
  rw [hc]
  exact hall _ h

/-- Only an ASCII letter lower-cases to ASCII, letter by letter. -/
theorem ascii_of_toLower {c : Char} (h : c.toLower.toNat < 128) : c.toNat < 128 := by
  by_cases hupper : c.val ≥ 'A'.val ∧ c.val ≤ 'Z'.val
  · have hle : c.toNat ≤ 90 := hupper.2
    omega
  · unfold Char.toLower at h
    rwa [dif_neg hupper] at h

/-- Only the digit itself lower-cases to zero. -/
theorem toLower_eq_zero {c : Char} (h : c.toLower = '0') : c = '0' := by
  have hascii : c.toNat < 128 := ascii_of_toLower (by rw [h]; decide)
  have hall : ∀ k < 128, (Char.ofNat k).toLower = '0' → Char.ofNat k = '0' := by decide
  have hc : c = Char.ofNat c.toNat := (Char.ofNat_toNat c).symm
  rw [hc] at h ⊢
  exact hall _ hascii h

/-- Lower-casing a letter twice is lower-casing it once. -/
theorem toLower_toLower (c : Char) : c.toLower.toLower = c.toLower := by
  by_cases hupper : c.val ≥ 'A'.val ∧ c.val ≤ 'Z'.val
  · have hc : c = Char.ofNat c.toNat := (Char.ofNat_toNat c).symm
    have hle : c.toNat ≤ 90 := hupper.2
    have hall : ∀ k < 91, (Char.ofNat k).toLower.toLower = (Char.ofNat k).toLower := by
      decide
    rw [hc]
    exact hall _ (by omega)
  · have hsame : c.toLower = c := by
      unfold Char.toLower
      rw [dif_neg hupper]
    rw [hsame, hsame]

/-- Lower-casing of ASCII, letter by letter: `lower` on texts whose other
    characters have no case. -/
@[reducible] def asciiUnicode : PyUnicode where
  lower s := String.ofList (s.toList.map Char.toLower)
  repr s := "'" ++ s ++ "'"
  lower_ascii _ _ := rfl
  lower_colon s h := by
    rw [String.toList_ofList, List.mem_map]
    rintro ⟨c, hc, hlower⟩
    exact h (toLower_eq_colon hlower ▸ hc)
  decimal c := if c.isDigit then some (c.toNat - 48) else none
  lower_from_ascii s h c hc := by
    rw [String.toList_ofList] at h
    exact ascii_of_toLower (h c.toLower (List.mem_map_of_mem hc)).1
  decimal_ascii _ _ := rfl

/-- The characters `str.strip` removes. -/
def isSpace (c : Char) : Bool :=
  let n := c.toNat
  (9 ≤ n && n ≤ 13) || (28 ≤ n && n ≤ 32) || n == 0x85 || n == 0xA0
    || n == 0x1680 || (0x2000 ≤ n && n ≤ 0x200A) || n == 0x2028 || n == 0x2029
    || n == 0x202F || n == 0x205F || n == 0x3000

/-- `s.strip()`. -/
def strip (s : List Char) : List Char :=
  ((s.dropWhile isSpace).reverse.dropWhile isSpace).reverse

/-- `s.partition(sep)` for a one-character separator: what stands before the
    first separator, whether there is one, and what stands after it. -/
def partition (sep : Char) : List Char → List Char × Bool × List Char
  | [] => ([], false, [])
  | c :: s =>
      if c = sep then ([], true, s)
      else
        let (head, found, rest) := partition sep s
        (c :: head, found, rest)

/-- Before its first separator a text has none. -/
theorem partition_append {sep : Char} {head : List Char} (h : sep ∉ head)
    (rest : List Char) :
    partition sep (head ++ sep :: rest) = (head, true, rest) := by
  induction head with
  | nil => simp [partition]
  | cons c head ih =>
      obtain ⟨hne, hhead⟩ := not_or.mp (mt List.mem_cons.mpr h)
      rw [List.cons_append, partition, if_neg (Ne.symm hne), ih hhead]

/-- Without a separator the whole text stands before it. -/
theorem partition_of_notMem {sep : Char} {s : List Char} (h : sep ∉ s) :
    partition sep s = (s, false, []) := by
  induction s with
  | nil => rfl
  | cons c s ih =>
      obtain ⟨hne, hs⟩ := not_or.mp (mt List.mem_cons.mpr h)
      rw [partition, if_neg (Ne.symm hne), ih hs]

/-- What follows a separator puts the text back together. -/
theorem partition_join {sep : Char} {s : List Char} (h : (partition sep s).2.2 ≠ []) :
    (partition sep s).1 ++ sep :: (partition sep s).2.2 = s := by
  induction s with
  | nil => exact absurd rfl h
  | cons c s ih =>
      rw [partition] at h ⊢
      by_cases hc : c = sep
      · rw [if_pos hc, hc]
        rfl
      · rw [if_neg hc] at h ⊢
        exact congrArg (c :: ·) (ih h)

/-- The cut before the first separator passes over what has none. -/
theorem partition_fst_append {sep : Char} {head : List Char} (h : sep ∉ head)
    (s : List Char) : (partition sep (head ++ s)).1 = head ++ (partition sep s).1 := by
  induction head with
  | nil => rfl
  | cons c head ih =>
      obtain ⟨hne, hhead⟩ := not_or.mp (mt List.mem_cons.mpr h)
      rw [List.cons_append, partition, if_neg (Ne.symm hne)]
      exact congrArg (c :: ·) (ih hhead)

/-- Dropping whitespace stops at the first character that is none. -/
theorem dropSpace_of_head {c : Char} {s : List Char} (h : isSpace c = false) :
    (c :: s).dropWhile isSpace = c :: s := by
  rw [List.dropWhile_cons_of_neg]
  rw [h]
  exact Bool.false_ne_true

/-- What is stripped ends in no whitespace. -/
theorem strip_getLast? {s : List Char} {c : Char} (h : (strip s).getLast? = some c) :
    isSpace c = false := by
  rw [strip, List.getLast?_reverse] at h
  have hhead := List.head?_dropWhile_not isSpace (s.dropWhile isSpace).reverse
  rw [h] at hhead
  exact hhead

/-- A text that neither starts nor ends in whitespace is its own `strip`. -/
theorem strip_eq_self {s : List Char} (hfirst : ∀ c, s.head? = some c → isSpace c = false)
    (hlast : ∀ c, s.getLast? = some c → isSpace c = false) : strip s = s := by
  have drop : ∀ l : List Char, (∀ c, l.head? = some c → isSpace c = false) →
      l.dropWhile isSpace = l := by
    intro l hl
    cases l with
    | nil => rfl
    | cons c l => exact dropSpace_of_head (hl c rfl)
  rw [strip, drop s hfirst, drop s.reverse, List.reverse_reverse]
  intro c hc
  rw [List.head?_reverse] at hc
  exact hlast c hc

/-- What is stripped starts with no whitespace. -/
theorem strip_head? {s : List Char} {c : Char} (h : (strip s).head? = some c) :
    isSpace c = false := by
  -- the trailing cut leaves the head of what the leading cut left
  have hprefix : strip s <+: s.dropWhile isSpace := by
    have hsuffix := List.dropWhile_suffix (l := (s.dropWhile isSpace).reverse) isSpace
    have hreverse := List.reverse_prefix.mpr hsuffix
    rwa [List.reverse_reverse] at hreverse
  obtain ⟨rest, hrest⟩ := hprefix
  have hhead := List.head?_dropWhile_not isSpace s
  rw [← hrest, List.head?_append, h] at hhead
  exact hhead

theorem strip_strip (s : List Char) : strip (strip s) = strip s :=
  strip_eq_self (fun _ h => strip_head? h) (fun _ h => strip_getLast? h)

/-- `s or d`: an absent or empty text gives way to `d`. -/
def orText (s : Option String) (d : String) : String :=
  match s with
  | none => d
  | some s => if s = "" then d else s

/-- `str()` of an optional text. -/
def strOf : Option String → String
  | none => "None"
  | some s => s

/-- `str()` of an optional integer. -/
def strOfInt : Option ℤ → String
  | none => "None"
  | some n => toString n

/-- The format `.2f`. -/
def format2 (q : ℚ) : String :=
  let hundredths := roundHalfEven (q * 100)
  let n := hundredths.natAbs
  let cents := n % 100
  let sign := if hundredths < 0 then "-" else ""
  let pad := if cents < 10 then "0" else ""
  s!"{sign}{n / 100}.{pad}{cents}"

/-- The number that the format `.2f` prints. -/
def printed2 (q : ℚ) : ℚ := roundHalfEven (q * 100) / 100

/-- The number printed is printed the same. -/
theorem format2_printed2 (q : ℚ) : format2 (printed2 q) = format2 q := by
  have hsame : roundHalfEven (printed2 q * 100) = roundHalfEven (q * 100) := by
    rw [printed2, div_mul_cancel₀ _ (by norm_num), roundHalfEven_intCast]
  rw [format2, format2, hsame]

end PyText
