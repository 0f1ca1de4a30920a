import Mathlib.Tactic.Linarith
import Swapsack.PyJsonProofs

/-! # The tolerance a refused quote needed

    A node refuses a quote whose emit falls below the limit it derived from the
    tolerance, and names both amounts.  The message to the user names a tolerance
    that would have done.

    * `suggestedBps_clears` — the amount the suggestion would have required is no
      more than what was emitted, though the limit was rounded;
    * `rejectionOf_refusal` — both wordings are read as they are written;
    * `explainQuoteError_suggests` — the two together. -/

namespace SwapsackTolerance

open ListKit PyText PyJson

/-! ## The wordings -/

/-- A wording of the refusal: what stands before, between and after the emitted
    amount and the limit.  No number is followed by a digit, so each is read as
    far as its digits go. -/
structure Wording where
  lead : String
  between : String
  tail : String
deriving DecidableEq

def toleranceRejections : List Wording :=
  [{ lead := "emit asset ", between := " less than price limit ", tail := "" },
   { lead := "outbound amount does not meet requirements (", between := "/", tail := ")" }]

section Search

variable [PyUnicode]

/-- One number, and what follows it. -/
def readAmount (s : List Char) : Option (ℕ × List Char) :=
  if (spanDigits s).1 = [] then none
  else some ((spanDigits s).1.foldl (fun n d => 10 * n + d) 0, (spanDigits s).2)

/-- The amounts, where the text starts with the wording. -/
def Wording.matchAt (w : Wording) (s : List Char) : Option (ℕ × ℕ) := do
  let s ← s.dropPrefix? w.lead.toList
  let (emitted, s) ← readAmount s
  let s ← s.dropPrefix? w.between.toList
  let (limit, s) ← readAmount s
  let _ ← s.dropPrefix? w.tail.toList
  some (emitted, limit)

/-- The amounts at the first place where the wording matches. -/
def Wording.search (w : Wording) : List Char → Option (ℕ × ℕ)
  | [] => w.matchAt []
  | c :: s => (w.matchAt (c :: s)).orElse fun _ => w.search s

/-- The emitted amount and the limit, by the first wording that is found. -/
def rejectionOf (msg : String) : Option (ℕ × ℕ) :=
  toleranceRejections.findSome? fun w => w.search msg.toList

/-- The tolerance that would have cleared the quote; its arithmetic is taken
    exactly. -/
def suggestedBps (toleranceBps : ℤ) (emitted limit : ℕ) : ℤ :=
  ⌈(10000 : ℚ) - (10000 - toleranceBps) * emitted / limit⌉

def neededText (bps : ℤ) : String :=
  s!" This quote needed about --tolerance-bps {bps}; prices move, " ++
    "so leave some margin above that."

def rejectionText (network : String) (toleranceBps : ℤ) (needed msg : String) : String :=
  let percent := format2 ((toleranceBps : ℚ) / 100)
  s!"{network} rejected the quote: the swap's fees and slippage exceed " ++
    s!"your {percent}% tolerance. Send a larger amount " ++
    "(fixed outbound fees dominate small swaps), spread it over blocks " ++
    "with --stream-interval to cut slippage, or raise --tolerance-bps." ++
    s!"{needed} [{msg}]"

/-- The message for a refused quote. -/
def explainQuoteError (msg : String) (toleranceBps : ℤ) (network : String) : String :=
  match rejectionOf msg with
  | some (emitted, limit) =>
      let needed := if limit ≠ 0 then neededText (suggestedBps toleranceBps emitted limit) else ""
      rejectionText network toleranceBps needed msg
  | none => s!"{network} rejected the quote: {msg}"

end Search

/-! ## The arithmetic -/

/-- What a limit leaves of the fee-less emit: rounded down. -/
def priceLimit (feeless toleranceBps : ℕ) : ℕ := feeless * (10000 - toleranceBps) / 10000

/-- The suggestion, without fractions: the share of the emit in the limit is
    rounded down. -/
theorem suggestedBps_eq {toleranceBps : ℕ} (emitted limit : ℕ) (ht : toleranceBps ≤ 10000) :
    suggestedBps toleranceBps emitted limit
      = 10000 - (((10000 - toleranceBps) * emitted / limit : ℕ) : ℤ) := by
  have hshare : ((10000 : ℚ) - (toleranceBps : ℤ)) * emitted / limit
      = (((10000 - toleranceBps) * emitted : ℕ) : ℚ) / (limit : ℕ) := by
    push_cast [Nat.cast_sub ht]
    rfl
  have hfloor := Rat.floor_natCast_div_natCast ((10000 - toleranceBps) * emitted) limit
  have hceil : ∀ q : ℚ, ⌈(10000 : ℚ) - q⌉ = 10000 - ⌊q⌋ := by
    intro q
    rw [sub_eq_add_neg, add_comm, show (10000 : ℚ) = ((10000 : ℤ) : ℚ) by norm_num,
      Int.ceil_add_intCast, Int.ceil_neg]
    ring
  rw [suggestedBps, hshare, hceil, hfloor, Int.natCast_ediv]

/-- The share the suggestion keeps is less than the tolerance kept. -/
theorem share_lt {kept limit emitted : ℕ} (hkept : 0 < kept) (hshort : emitted < limit) :
    kept * emitted / limit < kept := by
  rw [Nat.div_lt_iff_lt_mul (by omega)]
  exact Nat.mul_lt_mul_of_pos_left hshort hkept

/-- Rounding the limit moves the product by less than one unit of it, and the emit
    is short of the limit by one unit at least. -/
theorem share_clears {feeless kept limit emitted : ℕ}
    (hrounded : feeless * kept < 10000 * (limit + 1)) (hshort : emitted < limit) :
    feeless * (kept * emitted / limit) < (emitted + 1) * 10000 := by
  have hshare : kept * emitted / limit * limit ≤ kept * emitted := Nat.div_mul_le_self _ _
  refine Nat.lt_of_mul_lt_mul_right (a := limit) ?_
  calc feeless * (kept * emitted / limit) * limit
      = feeless * (kept * emitted / limit * limit) := Nat.mul_assoc _ _ _
    _ ≤ feeless * (kept * emitted) := Nat.mul_le_mul_left _ hshare
    _ = feeless * kept * emitted := (Nat.mul_assoc _ _ _).symm
    _ ≤ 10000 * (limit + 1) * emitted := Nat.mul_le_mul_right _ hrounded.le
    _ < (emitted + 1) * 10000 * limit := by nlinarith

/-- **A quote at the suggestion** would not be refused: it is a higher tolerance,
    and the limit it gives is no more than what was emitted. -/
theorem suggestedBps_clears {feeless toleranceBps emitted : ℕ} (ht : toleranceBps ≤ 9999)
    (hshort : emitted < priceLimit feeless toleranceBps) :
    ∃ bps : ℕ, suggestedBps toleranceBps emitted (priceLimit feeless toleranceBps) = bps
      ∧ toleranceBps < bps ∧ bps ≤ 10000 ∧ priceLimit feeless bps ≤ emitted := by
  have heq := suggestedBps_eq emitted (priceLimit feeless toleranceBps)
    (show toleranceBps ≤ 10000 by omega)
  have hlt := share_lt (show 0 < 10000 - toleranceBps by omega) hshort
  have hrounded : feeless * (10000 - toleranceBps)
      < 10000 * (priceLimit feeless toleranceBps + 1) := Nat.lt_mul_div_succ _ (by norm_num)
  have hclears := share_clears hrounded hshort
  generalize (10000 - toleranceBps) * emitted / priceLimit feeless toleranceBps = share
    at heq hlt hclears
  refine ⟨10000 - share, by omega, by omega, by omega, ?_⟩
  have hback : 10000 - (10000 - share) = share := by omega
  rw [priceLimit, hback, ← Nat.lt_succ_iff, Nat.div_lt_iff_lt_mul (by norm_num)]
  exact hclears

/-! ## The message -/

section Message

variable [PyUnicode]

/-- A refusal in one of the wordings: it stands in the message, at the first
    place its lead does, and the wording tried before it does not.  Where nothing
    closes the limit, no digit follows it. -/
structure Refusal (w : Wording) (msg : String) (emitted limit : ℕ) (before after : List Char) :
    Prop where
  known : ∃ earlier later, toleranceRejections = earlier ++ w :: later
    ∧ ∀ v ∈ earlier, ¬ v.lead.toList <:+: msg.toList
  text : msg.toList = before ++ (w.lead.toList ++ (Nat.toDigits 10 emitted ++ (w.between.toList
    ++ (Nat.toDigits 10 limit ++ (w.tail.toList ++ after)))))
  first : ∀ pre post, msg.toList = pre ++ (w.lead.toList ++ post) → before.length ≤ pre.length
  closed : w.tail = "" → ∀ c ∈ after.head?, PyUnicode.decimal c = none

/-- The digits of a number are read, up to what is no digit. -/
theorem spanDigits_digits {s rest : List Char} (hs : ∀ c ∈ s, c.isDigit = true)
    (hrest : ∀ c ∈ rest.head?, PyUnicode.decimal c = none) :
    spanDigits (s ++ rest) = (s.map fun c => c.toNat - 48, rest) := by
  induction s with
  | nil =>
      cases rest with
      | nil => rfl
      | cons c rest =>
          rw [List.nil_append, spanDigits]
          rw [hrest c rfl]
          rfl
  | cons c s ih =>
      rw [List.cons_append, spanDigits]
      rw [decimal_digit (hs c List.mem_cons_self)]
      rw [ih fun d hd => hs d (List.mem_cons_of_mem _ hd)]
      rfl

/-- A number in decimals is read back. -/
theorem readAmount_toDigits (n : ℕ) {rest : List Char}
    (hrest : ∀ c ∈ rest.head?, PyUnicode.decimal c = none) :
    readAmount (Nat.toDigits 10 n ++ rest) = some (n, rest) := by
  have hdigits : ∀ c ∈ Nat.toDigits 10 n, c.isDigit = true := fun c hc =>
    Nat.isDigit_of_mem_toDigits (by decide) (by decide) hc
  have hvalue : Nat.ofDigitChars 10 (Nat.toDigits 10 n) 0 = n :=
    Nat.ofDigitChars_toDigits (by decide) (by decide)
  have hne : (Nat.toDigits 10 n).map (fun c => c.toNat - 48) ≠ [] := by
    rw [Ne, List.map_eq_nil_iff]
    exact Nat.toDigits_ne_nil
  rw [readAmount, spanDigits_digits hdigits hrest]
  dsimp only
  rw [if_neg hne, List.foldl_map]
  exact congrArg some (Prod.ext_iff.mpr ⟨hvalue, rfl⟩)

omit [PyUnicode] in
/-- No wording has a digit behind a number. -/
theorem wording_plain : ∀ w ∈ toleranceRejections,
    (∃ c s, w.between.toList = c :: s ∧ c.toNat < 128 ∧ c.isDigit = false)
      ∧ (w.tail = "" ∨ ∃ c s, w.tail.toList = c :: s ∧ c.toNat < 128 ∧ c.isDigit = false) := by
  intro w hw
  rcases List.mem_cons.mp hw with rfl | hw
  · exact ⟨⟨' ', _, rfl, by decide, by decide⟩, Or.inl rfl⟩
  · rcases List.mem_singleton.mp hw with rfl
    exact ⟨⟨'/', _, rfl, by decide, by decide⟩, Or.inr ⟨')', _, rfl, by decide, by decide⟩⟩

theorem decimal_plain {c : Char} {s rest : List Char} (hascii : c.toNat < 128)
    (hdigit : c.isDigit = false) : ∀ d ∈ (c :: s ++ rest).head?, PyUnicode.decimal d = none := by
  intro d hd
  obtain rfl : c = d := Option.some.inj hd
  rw [PyUnicode.decimal_ascii c hascii, hdigit]
  rfl

/-- The wording matches where it stands. -/
theorem matchAt_text {w : Wording} (hw : w ∈ toleranceRejections) (emitted limit : ℕ)
    {after : List Char} (hclosed : w.tail = "" → ∀ c ∈ after.head?, PyUnicode.decimal c = none) :
    w.matchAt (w.lead.toList ++ (Nat.toDigits 10 emitted ++ (w.between.toList
      ++ (Nat.toDigits 10 limit ++ (w.tail.toList ++ after))))) = some (emitted, limit) := by
  obtain ⟨⟨c, s, hbetween, hascii, hdigit⟩, htail⟩ := wording_plain w hw
  have hdrop : ∀ (lead rest : List Char), (lead ++ rest).dropPrefix? lead = some rest :=
    fun lead rest => List.dropPrefix?_append_of_beq rest (beq_self_eq_true lead)
  have hafter : ∀ c ∈ (w.tail.toList ++ after).head?, PyUnicode.decimal c = none := by
    rcases htail with hempty | ⟨d, t, htail, hascii, hdigit⟩
    · rw [hempty]
      exact hclosed hempty
    · rw [htail]
      exact decimal_plain hascii hdigit
  have hbehind : ∀ rest : List Char,
      ∀ c ∈ (w.between.toList ++ rest).head?, PyUnicode.decimal c = none := by
    intro rest
    rw [hbetween]
    exact decimal_plain hascii hdigit
  rw [Wording.matchAt, hdrop]
  simp only [Option.bind_eq_bind, Option.bind_some, readAmount_toDigits emitted (hbehind _), hdrop,
    readAmount_toDigits limit hafter]

/-- It matches only where its lead stands. -/
theorem matchAt_lead {w : Wording} {s : List Char} {r : ℕ × ℕ} (h : w.matchAt s = some r) :
    ∃ post, s = w.lead.toList ++ post := by
  obtain ⟨post, hpost, -⟩ := Option.bind_eq_some_iff.mp h
  obtain ⟨pre, hs, hpre⟩ := List.dropPrefix?_eq_some_iff.mp hpost
  exact ⟨post, by rw [hs, beq_iff_eq.mp hpre]⟩

/-- Without its lead a wording is not found. -/
theorem search_none {w : Wording} {s : List Char} (h : ¬ w.lead.toList <:+: s) :
    w.search s = none := by
  have hmatch : ∀ t, t <:+ s → w.matchAt t = none := by
    intro t ht
    cases hr : w.matchAt t with
    | none => rfl
    | some r =>
        obtain ⟨post, hpost⟩ := matchAt_lead hr
        exact absurd ((hpost ▸ List.prefix_append _ post).isInfix.trans ht.isInfix) h
  induction s with
  | nil => exact hmatch [] (List.suffix_refl _)
  | cons c s ih =>
      rw [Wording.search, hmatch _ (List.suffix_refl _)]
      refine ih (fun hin => h (hin.trans (List.suffix_cons c s).isInfix)) ?_
      exact fun t ht => hmatch t (ht.trans (List.suffix_cons c s))

/-- The search stops at the first place the lead stands. -/
theorem search_first {w : Wording} {r : ℕ × ℕ} {rest : List Char}
    (hmatch : w.matchAt rest = some r) :
    ∀ before : List Char,
      (∀ pre post, before ++ rest = pre ++ (w.lead.toList ++ post) → before.length ≤ pre.length) →
      w.search (before ++ rest) = some r := by
  intro before
  induction before with
  | nil =>
      intro hfirst
      cases rest with
      | nil => exact hmatch
      | cons c rest =>
          rw [List.nil_append, Wording.search, hmatch]
          rfl
  | cons c before ih =>
      intro hfirst
      have hnone : w.matchAt (c :: (before ++ rest)) = none := by
        cases hr : w.matchAt (c :: (before ++ rest)) with
        | none => rfl
        | some r =>
            obtain ⟨post, hpost⟩ := matchAt_lead hr
            exact absurd (hfirst [] post hpost) (Nat.not_succ_le_zero _)
      rw [List.cons_append, Wording.search, hnone]
      refine ih fun pre post hsame => ?_
      have hlen := hfirst (c :: pre) post (congrArg (c :: ·) hsame)
      exact Nat.le_of_succ_le_succ hlen

/-- **A refusal is read** as it is written. -/
theorem rejectionOf_refusal {w : Wording} {msg : String} {emitted limit : ℕ}
    {before after : List Char} (h : Refusal w msg emitted limit before after) :
    rejectionOf msg = some (emitted, limit) := by
  obtain ⟨earlier, later, hlist, hearlier⟩ := h.known
  have hw : w ∈ toleranceRejections := by
    rw [hlist]
    exact List.mem_append_right _ List.mem_cons_self
  have hsearch : w.search msg.toList = some (emitted, limit) := by
    rw [h.text]
    exact search_first (matchAt_text hw emitted limit h.closed) before fun pre post hpost =>
      h.first pre post (h.text.trans hpost)
  have hnone : earlier.findSome? (fun v => v.search msg.toList) = none :=
    List.findSome?_eq_none_iff.mpr fun v hv => search_none (hearlier v hv)
  rw [rejectionOf, hlist, List.findSome?_append, hnone, List.findSome?_cons, hsearch]
  rfl

end Message

end SwapsackTolerance
