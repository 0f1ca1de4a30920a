import Mathlib.Tactic.IntervalCases
import Swapsack.ByteStringProofs
import Swapsack.PyTextProofs

/-! # Hexadecimal text in any case

    A hexadecimal text compared without regard to case still names one byte
    string.

    * `fromHex_hex` — `bytes.fromhex` undoes `bytes.hex`;
    * `fromHexChars_ascii` — whatever `bytes.fromhex` accepts is ASCII;
    * `fromHex_of_lower` — a text that reads as bytes and lower-cases to the
      spelling of `b` reads as `b`. -/

namespace HexText

open ByteString PyText

/-- `s.removeprefix(pre)`. -/
def removePrefix (s pre : String) : String :=
  if startsWith s pre then String.ofList (s.toList.drop pre.toList.length) else s

theorem removePrefix_append (pre s : String) : removePrefix (pre ++ s) pre = s := by
  have hprefix : startsWith (pre ++ s) pre = true := by
    rw [startsWith, List.isPrefixOf_iff_prefix, String.toList_append]
    exact List.prefix_append _ _
  rw [removePrefix, if_pos hprefix, String.toList_append, List.drop_left,
    String.ofList_toList]

/-! ## One digit -/

theorem hexValue_hexDigit {n : ℕ} (h : n < 16) : hexValue (hexDigit n) = some n := by
  interval_cases n <;> rfl

theorem isHexSpace_hexDigit {n : ℕ} (h : n < 16) : isHexSpace (hexDigit n) = false := by
  interval_cases n <;> rfl

/-- A character that lower-cases to a digit has the digit's value. -/
theorem hexValue_of_toLower {c : Char} {n : ℕ} (hn : n < 16) (h : c.toLower = hexDigit n) :
    hexValue c = some n ∧ isHexSpace c = false := by
  unfold Char.toLower at h
  split at h
  · rename_i hupper
    have hlo : 65 ≤ c.toNat := hupper.1
    have hhi : c.toNat ≤ 90 := hupper.2
    have hshift : c.toNat + 32 = (hexDigit n).toNat := by
      rw [← h]
      show c.val.toNat + 32 = (c.val + ('a'.val - 'A'.val)).toNat
      have hstep : ('a'.val - 'A'.val).toNat = 32 := rfl
      have hval : c.val.toNat ≤ 90 := hhi
      rw [UInt32.toNat_add, hstep]
      omega
    have hc : c = Char.ofNat c.toNat := (Char.ofNat_toNat c).symm
    generalize c.toNat = k at hlo hhi hshift hc
    subst hc
    clear h hupper
    revert hshift
    -- only `A` to `F` lower-case to a digit
    interval_cases n <;> interval_cases k <;> decide
  · rw [h]
    exact ⟨hexValue_hexDigit hn, isHexSpace_hexDigit hn⟩

/-- A hexadecimal digit is ASCII. -/
theorem hexValue_ascii {c : Char} {n : ℕ} (h : hexValue c = some n) : c.toNat < 128 := by
  rw [hexValue] at h
  split at h
  · rename_i hdigit
    have hle : c.toNat ≤ '9'.toNat := hdigit.2
    exact lt_of_le_of_lt hle (by decide)
  · split at h
    · rename_i hlower
      have hle : c.toNat ≤ 'f'.toNat := hlower.2
      exact lt_of_le_of_lt hle (by decide)
    · split at h
      · rename_i hupper
        have hle : c.toNat ≤ 'F'.toNat := hupper.2
        exact lt_of_le_of_lt hle (by decide)
      · cases h

theorem isHexSpace_ascii {c : Char} (h : isHexSpace c = true) : c.toNat < 128 := by
  rw [isHexSpace, Bool.or_eq_true, Bool.and_eq_true, beq_iff_eq, decide_eq_true_eq,
    decide_eq_true_eq] at h
  rcases h with rfl | ⟨-, hle⟩
  · decide
  · have hle' : c.toNat ≤ '\r'.toNat := hle
    exact lt_of_le_of_lt hle' (by decide)

/-! ## A run of digits -/

/-- The digits of one byte. -/
theorem hexChars_cons (x : UInt8) (b : Bytes) :
    (hex (x :: b)).toList
      = hexDigit (x.toNat / 16) :: hexDigit (x.toNat % 16) :: (hex b).toList := by
  rw [hex, hex, String.toList_ofList, String.toList_ofList, List.flatMap_cons]
  rfl

/-- A text that lower-cases to the spelling of a byte string reads as it. -/
theorem fromHexChars_of_toLower {s : List Char} {b : Bytes}
    (h : s.map Char.toLower = (hex b).toList) : fromHexChars s = some b := by
  induction b generalizing s with
  | nil =>
      have hnil : s = [] := by
        rw [hex, List.flatMap_nil, String.toList_ofList, List.map_eq_nil_iff] at h
        exact h
      rw [hnil]
      rfl
  | cons x b ih =>
      rw [hexChars_cons] at h
      cases s with
      | nil => cases h
      | cons c s =>
          cases s with
          | nil =>
              rw [List.map_singleton, List.cons.injEq] at h
              cases h.2
          | cons d s =>
              rw [List.map_cons, List.map_cons, List.cons.injEq, List.cons.injEq] at h
              obtain ⟨hc, hd, hrest⟩ := h
              have hx : x.toNat < 256 := x.toNat_lt
              obtain ⟨hhi, hspace⟩ := hexValue_of_toLower (by omega) hc
              obtain ⟨hlo, -⟩ := hexValue_of_toLower (by omega) hd
              have hbyte : 16 * (x.toNat / 16) + x.toNat % 16 = x.toNat := by omega
              rw [fromHexChars, hspace, if_neg Bool.false_ne_true, hhi, hlo, ih hrest]
              dsimp only [Option.map_some]
              rw [hbyte, UInt8.ofNat_toNat]

theorem hexDigit_toLower {n : ℕ} (h : n < 16) : (hexDigit n).toLower = hexDigit n := by
  interval_cases n <;> rfl

/-- A spelling is in lower case. -/
theorem hex_map_toLower (b : Bytes) : (hex b).toList.map Char.toLower = (hex b).toList := by
  induction b with
  | nil => rfl
  | cons x b ih =>
      have hx : x.toNat < 256 := x.toNat_lt
      rw [hexChars_cons, List.map_cons, List.map_cons, ih, hexDigit_toLower (by omega),
        hexDigit_toLower (by omega)]

/-- `bytes.fromhex` undoes `bytes.hex`. -/
theorem fromHex_hex (b : Bytes) : fromHex (hex b) = some b :=
  fromHexChars_of_toLower (hex_map_toLower b)

/-- Byte strings are told apart by their spelling. -/
theorem hex_injective {a b : Bytes} (h : hex a = hex b) : a = b := by
  have ha := fromHex_hex a
  rw [h, fromHex_hex] at ha
  exact (Option.some.inj ha).symm

/-- Whatever reads as bytes is ASCII. -/
theorem fromHexChars_ascii {s : List Char} {b : Bytes} (h : fromHexChars s = some b) :
    ∀ c ∈ s, c.toNat < 128 := by
  induction s using fromHexChars.induct generalizing b with
  | case1 => exact fun c hc => nomatch hc
  | case2 c hspace =>
      intro d hd
      rw [List.mem_singleton] at hd
      rw [hd]
      exact isHexSpace_ascii hspace
  | case3 c hspace =>
      rw [fromHexChars, if_neg hspace] at h
      cases h
  | case4 c d rest hspace ih =>
      rw [fromHexChars, if_pos hspace] at h
      intro e he
      rcases List.mem_cons.mp he with rfl | he
      · exact isHexSpace_ascii hspace
      · exact ih h e he
  | case5 c d rest hspace hi lo hlo hhi ih =>
      rw [fromHexChars, if_neg hspace, hhi, hlo] at h
      obtain ⟨tail, htail, -⟩ := Option.map_eq_some_iff.mp h
      intro e he
      rcases List.mem_cons.mp he with rfl | he
      · exact hexValue_ascii hhi
      · rcases List.mem_cons.mp he with rfl | he
        · exact hexValue_ascii hlo
        · exact ih htail e he
  | case6 c d rest hspace hnone =>
      rw [fromHexChars, if_neg hspace] at h
      split at h
      · rename_i hi lo hhi hlo
        exact (hnone hi lo hhi hlo).elim
      · cases h

/-! ## Ignoring case -/

/-- No digit lower-cases to an `x`. -/
theorem hexValue_of_toLower_x {c : Char} (h : c.toLower = 'x') : hexValue c = none := by
  cases hvalue : hexValue c with
  | none => rfl
  | some n =>
      have hascii := hexValue_ascii hvalue
      have hc : c = Char.ofNat c.toNat := (Char.ofNat_toNat c).symm
      have hall : ∀ k < 128, (Char.ofNat k).toLower = 'x' → hexValue (Char.ofNat k) = none := by
        decide
      rw [hc] at h hvalue
      rw [hall _ hascii h] at hvalue
      cases hvalue

/-- What starts with a text is the text and the rest. -/
theorem removePrefix_cases (s pre : String) :
    s.toList = pre.toList ++ (removePrefix s pre).toList ∨ removePrefix s pre = s := by
  rw [removePrefix]
  by_cases h : startsWith s pre = true
  · left
    obtain ⟨rest, hrest⟩ := List.isPrefixOf_iff_prefix.mp h
    rw [if_pos h, String.toList_ofList, ← hrest, List.drop_left]
  · right
    rw [if_neg h]

/-- **Case does not hide another byte string**: a text that reads as bytes after
    its `0x` and lower-cases to `0x` and the spelling of `b` reads as `b`. -/
theorem fromHex_of_lower [PyUnicode] {s : String} {a b : Bytes}
    (hread : fromHex (removePrefix s "0x") = some a)
    (hlower : PyUnicode.lower s = "0x" ++ hex b) : a = b := by
  have hascii := fromHexChars_ascii hread
  have hmap : ∀ (hs : ∀ c ∈ s.toList, c.toNat < 128),
      s.toList.map Char.toLower = '0' :: 'x' :: (hex b).toList := by
    intro hs
    have hchars := congrArg String.toList hlower
    rw [PyUnicode.lower_ascii s hs, String.toList_ofList, String.toList_append] at hchars
    exact hchars
  rcases removePrefix_cases s "0x" with hcut | hwhole
  · have hs : ∀ c ∈ s.toList, c.toNat < 128 := by
      intro c hc
      rw [hcut, List.mem_append] at hc
      rcases hc with hc | hc
      · revert c
        exact ListKit.forall_mem_of_all (by decide)
      · exact hascii c hc
    have hdigits := hmap hs
    rw [hcut, List.map_append] at hdigits
    have hrest : (removePrefix s "0x").toList.map Char.toLower = (hex b).toList := by
      exact (List.cons.inj (List.cons.inj hdigits).2).2
    rw [fromHex, fromHexChars_of_toLower hrest] at hread
    exact (Option.some.inj hread).symm
  · -- without the prefix its `x` would have to be read as a digit
    rw [hwhole] at hascii hread
    have hdigits := hmap hascii
    cases hchars : s.toList with
    | nil => rw [hchars] at hdigits; cases hdigits
    | cons c cs =>
        cases cs with
        | nil =>
            rw [hchars, List.map_singleton, List.cons.injEq] at hdigits
            cases hdigits.2
        | cons d cs =>
            rw [hchars, List.map_cons, List.map_cons, List.cons.injEq, List.cons.injEq]
              at hdigits
            obtain ⟨hzero, hspace⟩ := hexValue_of_toLower (by decide : 0 < 16) hdigits.1
            have hx := hexValue_of_toLower_x hdigits.2.1
            rw [fromHex, hchars, fromHexChars, hspace, if_neg Bool.false_ne_true, hzero,
              hx] at hread
            cases hread

end HexText
