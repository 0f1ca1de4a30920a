import Swapsack.PyTextProofs

/-! # The balance sheet

    Rows in, aligned lines out.  A sheet may not overstate what there is, nor
    understate what it does not know: a row without a price is named, a pool's share
    is totalled apart, a row of nothing is named at the end, and a chain that did not
    answer marks the total.

    The rows are kept, priced, hidden and named over different parts of the list.
    What comes out is stated here over the whole of it.

    * `totals_eq` — the running totals are sums over the rows;
    * `render_accounts` — every row is accounted for, and every row counts. -/

namespace SwapsackReport

open BinaryFloat PyText

/-! ## Rows and units -/

/-- One line of the sheet, before layout; an empty asset has no price. -/
structure Row where
  label : String
  amount : ℚ
  asset : String := ""
  note : String := ""
  -- a liquidity position: not spendable, never hidden
  lp : Bool := false
  -- an estimate
  approx : Bool := false
  -- the chain did not answer: the amount is unknown
  unavailable : Bool := false

/-- The format `.nf`, for `n` decimals. -/
def fixedDecimals (n : ℕ) (q : ℚ) : String :=
  let scaled := (roundHalfEven (|q| * 10 ^ n)).natAbs
  let digits := toString (scaled % 10 ^ n)
  let sign := if q < 0 then "-" else ""
  let zeros := String.ofList (List.replicate (n - digits.length) '0')
  let fraction := if n = 0 then "" else s!".{zeros}{digits}"
  s!"{sign}{scaled / 10 ^ n}{fraction}"

/-- A unit the sheet can be denominated in. -/
structure SheetUnit where
  currencyPrefix : String := ""
  currencySuffix : String := ""
  decimals : ℕ := 2

/-- The value between the two texts; no comma is left of what is formatted. -/
def SheetUnit.format (unit : SheetUnit) (value : ℚ) : String :=
  let text := unit.currencyPrefix ++ fixedDecimals unit.decimals value ++ unit.currencySuffix
  String.ofList (text.toList.filter (· != ','))

def Row.amountText (row : Row) : String :=
  if row.unavailable then "?"
  else (if row.approx then "~" else "") ++ fixedDecimals 8 row.amount

/-- `row.label.strip()`. -/
def Row.name (row : Row) : String := String.ofList (strip row.label.toList)

/-- The price of one coin, by asset. -/
abbrev Prices : Type := List (String × ℚ)

/-- What a row is worth, where its asset has a price. -/
def valueOf (prices : Prices) (row : Row) : Option ℚ :=
  if row.asset = "" then none
  else (prices.lookup row.asset).map (row.amount * ·)

/-! ## Layout -/

/-- A line before layout. -/
structure Cells where
  label : String
  amount : String
  value : String
  note : String
deriving DecidableEq

inductive Align where
  | left
  | right
deriving DecidableEq

/-- `f"{text:<width}"` and `f"{text:>width}"`. -/
def pad (align : Align) (width : ℕ) (text : String) : String :=
  let blanks := String.ofList (List.replicate (width - text.length) ' ')
  match align with
  | .left => text ++ blanks
  | .right => blanks ++ text

/-- `text.rstrip()`. -/
def rstrip (text : String) : String :=
  String.ofList ((text.toList.reverse.dropWhile isSpace).reverse)

def gap : String := "  "

/-- The widest text of a column. -/
def columnWidth (rows : List (List String × String)) (i : ℕ) : ℕ :=
  (rows.map fun row => (row.1.getD i "").length).foldr max 0

/-- Pad columns to a common width; the text beside them is never padded. -/
def alignColumns (rows : List (List String × String)) (aligns : List Align) : List String :=
  let widths := (List.range aligns.length).map (columnWidth rows)
  rows.map fun row =>
    let cells := List.zipWith (fun format text => pad format.1 format.2 text)
      (aligns.zip widths) row.1
    rstrip (gap.intercalate (cells ++ [row.2]))

/-- The label to the left, the numbers to the right, the note as it is. -/
def layout (cells : List Cells) (valued : Bool) : List String :=
  if valued then
    alignColumns (cells.map fun c => ([c.label, c.amount, c.value], c.note))
      [.left, .right, .right]
  else alignColumns (cells.map fun c => ([c.label, c.amount], c.note)) [.left, .right]

/-! ## Totals -/

structure Totals where
  spendable : ℚ := 0
  liquidity : ℚ := 0
  unpriced : List String := []

/-- One turn of the loop over the rows. -/
def Totals.add (prices : Prices) (totals : Totals) (row : Row) : Totals :=
  -- an unknown amount can be neither added nor excused
  if row.unavailable then totals
  else
    match valueOf prices row with
    | none =>
        if row.amount ≠ 0 then { totals with unpriced := totals.unpriced ++ [row.name] }
        else totals
    | some value =>
        if row.lp then { totals with liquidity := totals.liquidity + value }
        else { totals with spendable := totals.spendable + value }

def totalsOf (prices : Prices) (rows : List Row) : Totals :=
  rows.foldl (Totals.add prices) {}

def incompleteMark : String := "INCOMPLETE — a chain did not answer"

/-- The lines of the totals. -/
def totalCells (unit : SheetUnit) (totals : Totals) (incomplete : Bool) : List Cells :=
  (if totals.liquidity ≠ 0 then
    [{ label := "spendable", amount := "", value := unit.format totals.spendable, note := "" },
      { label := "liquidity", amount := "", value := unit.format totals.liquidity
        note := "not spendable; gross of exit fees" }]
  else [])
    ++ [{ label := "total", amount := "", value := unit.format (totals.spendable + totals.liquidity)
          note := if incomplete then incompleteMark else "" }]

/-! ## The sheet -/

/-- A row that is worth a line of its own. -/
def Row.wanted (showZeros : Bool) (row : Row) : Bool :=
  showZeros || row.amount != 0 || row.lp || row.unavailable

/-- Which rows keep their lines; a position is indented under the asset above it,
    which stays for that. -/
def keepRows (showZeros : Bool) : List Row → List Bool
  | [] => []
  | row :: rest =>
      (row.wanted showZeros || (!row.lp && rest.head?.any Row.lp)) :: keepRows showZeros rest

/-- The rows of one flag. -/
def rowsWith (keep : List Bool) (wanted : Bool) (rows : List Row) : List Row :=
  ((rows.zip keep).filter (·.2 == wanted)).map (·.1)

/-- The value is left out where there is none. -/
def Row.cells (unit : Option SheetUnit) (prices : Prices) (row : Row) : Cells where
  label := row.label
  amount := row.amountText
  value := ((unit.bind fun u => (valueOf prices row).map u.format)).getD ""
  note := row.note

def blankCells : Cells where
  label := ""
  amount := ""
  value := ""
  note := ""

/-- A line that names rows, where there are any. -/
def naming (what : String) (names : List String) : List String :=
  if names = [] then [] else [what ++ ", ".intercalate names]

def footer (unpriced silent hidden : List String) : List String :=
  naming "not priced (excluded from the total): " unpriced
    ++ naming "did not answer (holdings unknown, not in the total): " silent
    ++ naming "zero: " hidden

/-- The sheet as lines; without a unit it has no values and no totals. -/
def render (rows : List Row) (unit : Option SheetUnit) (prices : Prices) (showZeros : Bool) :
    List String :=
  let keep := keepRows showZeros rows
  let shown := rowsWith keep true rows
  let hidden := (rowsWith keep false rows).map Row.name
  let cells := shown.map (Row.cells unit prices)
  let silent := (rows.filter Row.unavailable).map Row.name
  match unit with
  | none => layout cells false ++ footer [] silent hidden
  | some unit =>
      let totals := totalsOf prices shown
      layout (cells ++ blankCells :: totalCells unit totals (silent != [])) true
        ++ footer totals.unpriced silent hidden

/-! ## What a sheet should say -/

/-- Amount times price, of the rows that answered and have a price. -/
def worths (prices : Prices) (rows : List Row) : List ℚ :=
  (rows.filter fun row => !row.unavailable).filterMap (valueOf prices)

/-- The rows that answered with something that has no price. -/
def unpricedRows (prices : Prices) (rows : List Row) : List Row :=
  rows.filter fun row => !row.unavailable && row.amount != 0 && (valueOf prices row).isNone

/-- The totals of all rows; what is in a pool is told apart where it is anything. -/
def totalsBlock (prices : Prices) (rows : List Row) (unit : SheetUnit) : List Cells :=
  let spendable := (worths prices (rows.filter fun row => !row.lp)).sum
  let liquidity := (worths prices (rows.filter Row.lp)).sum
  (if liquidity ≠ 0 then
    [{ label := "spendable", amount := "", value := unit.format spendable, note := "" },
      { label := "liquidity", amount := "", value := unit.format liquidity
        note := "not spendable; gross of exit fees" }]
  else [])
    ++ [{ label := "total", amount := "", value := unit.format (worths prices rows).sum
          note := if rows.any Row.unavailable then incompleteMark else "" }]

/-- Every row is shown or hidden, once and in its place; only rows of nothing are
    hidden. -/
structure Accounted (rows shown hidden : List Row) : Prop where
  shown_sublist : shown.Sublist rows
  hidden_sublist : hidden.Sublist rows
  once : (shown ++ hidden).Perm rows
  nothing : ∀ row ∈ hidden, row.amount = 0 ∧ row.lp = false ∧ row.unavailable = false
  silent_shown : ∀ row ∈ rows, row.unavailable = true → row ∈ shown

/-- The lines for the rows shown, the totals of all rows, and the names of the rows
    that are not priced, did not answer or are hidden. -/
def sheet (rows shown hidden : List Row) (unit : Option SheetUnit) (prices : Prices) :
    List String :=
  let silent := (rows.filter Row.unavailable).map Row.name
  match unit with
  | none =>
      layout (shown.map (Row.cells none prices)) false ++ footer [] silent (hidden.map Row.name)
  | some u =>
      layout (shown.map (Row.cells unit prices) ++ blankCells :: totalsBlock prices rows u) true
        ++ footer ((unpricedRows prices rows).map Row.name) silent (hidden.map Row.name)

/-! ## Shown and hidden -/

theorem length_keepRows (showZeros : Bool) (rows : List Row) :
    (keepRows showZeros rows).length = rows.length := by
  induction rows with
  | nil => rfl
  | cons row rest ih =>
      rw [keepRows, List.length_cons, List.length_cons, ih]

/-- The rows of one flag come in their order. -/
theorem rowsWith_sublist {keep : List Bool} {rows : List Row} (h : keep.length = rows.length)
    (wanted : Bool) : (rowsWith keep wanted rows).Sublist rows := by
  have hsub : (rowsWith keep wanted rows).Sublist ((rows.zip keep).map Prod.fst) :=
    List.filter_sublist.map _
  rw [List.map_fst_zip h.ge] at hsub
  exact hsub

/-- **Nothing is lost between the flags.** -/
theorem rowsWith_perm {keep : List Bool} {rows : List Row} (h : keep.length = rows.length) :
    (rowsWith keep true rows ++ rowsWith keep false rows).Perm rows := by
  have hnot : (fun entry : Row × Bool => entry.2 == false)
      = fun entry => !(entry.2 == true) := by
    funext entry
    cases entry.2 <;> rfl
  have hall := (List.filter_append_perm (fun entry : Row × Bool => entry.2 == true)
    (rows.zip keep)).map Prod.fst
  rw [List.map_append, List.map_fst_zip h.ge] at hall
  rw [rowsWith, rowsWith, hnot]
  exact hall

/-- A row without a line is not wanted. -/
theorem wanted_of_zip {showZeros : Bool} {rows : List Row} {row : Row}
    (h : (row, false) ∈ rows.zip (keepRows showZeros rows)) :
    row.wanted showZeros = false := by
  induction rows with
  | nil => cases h
  | cons first rest ih =>
      rw [keepRows, List.zip_cons_cons, List.mem_cons] at h
      rcases h with heq | hmem
      · obtain ⟨rfl, hflag⟩ := Prod.mk.inj heq
        exact (Bool.or_eq_false_iff.mp hflag.symm).1
      · exact ih hmem

theorem hidden_nothing {showZeros : Bool} {rows : List Row} {row : Row}
    (h : row ∈ rowsWith (keepRows showZeros rows) false rows) :
    row.amount = 0 ∧ row.lp = false ∧ row.unavailable = false := by
  obtain ⟨⟨found, flag⟩, hmem, rfl⟩ := List.mem_map.mp h
  obtain ⟨hzip, hflag⟩ := List.mem_filter.mp hmem
  obtain rfl : flag = false := by simpa using hflag
  have hunwanted := wanted_of_zip hzip
  simp only [Row.wanted, Bool.or_eq_false_iff, bne_eq_false_iff_eq] at hunwanted
  exact ⟨hunwanted.1.1.2, hunwanted.1.2, hunwanted.2⟩

theorem accounted (showZeros : Bool) (rows : List Row) :
    Accounted rows (rowsWith (keepRows showZeros rows) true rows)
      (rowsWith (keepRows showZeros rows) false rows) where
  shown_sublist := rowsWith_sublist (length_keepRows showZeros rows) true
  hidden_sublist := rowsWith_sublist (length_keepRows showZeros rows) false
  once := rowsWith_perm (length_keepRows showZeros rows)
  nothing := fun _ hhidden => hidden_nothing hhidden
  silent_shown := by
    intro row hmem hsilent
    have hboth := (rowsWith_perm (length_keepRows showZeros rows)).mem_iff.mpr hmem
    rcases List.mem_append.mp hboth with hshown | hhidden
    · exact hshown
    · rw [(hidden_nothing hhidden).2.2] at hsilent
      cases hsilent

/-! ## Totals of all rows -/

/-- A row of nothing leaves the totals as they are. -/
theorem add_nothing {prices : Prices} {row : Row} (h : row.amount = 0) (totals : Totals) :
    totals.add prices row = totals := by
  rw [Totals.add]
  split
  · rfl
  · split
    · rw [if_neg (not_not.mpr h)]
    · rename_i value hvalue
      have hzero : value = 0 := by
        rw [valueOf] at hvalue
        split at hvalue
        · cases hvalue
        · obtain ⟨price, -, rfl⟩ := Option.map_eq_some_iff.mp hvalue
          rw [h, zero_mul]
      rw [hzero, add_zero, add_zero]
      split <;> rfl

/-- **The rows that are hidden do not count**, so the totals are those of all rows. -/
theorem totalsOf_shown (showZeros : Bool) (prices : Prices) (rows : List Row) :
    totalsOf prices (rowsWith (keepRows showZeros rows) true rows) = totalsOf prices rows := by
  have hidle : ∀ entry ∈ rows.zip (keepRows showZeros rows), ∀ totals : Totals,
      (if entry.2 == true then totals.add prices entry.1 else totals)
        = totals.add prices entry.1 := by
    rintro ⟨row, flag⟩ hmem totals
    cases flag with
    | true => rfl
    | false =>
        have hunwanted := wanted_of_zip hmem
        simp only [Row.wanted, Bool.or_eq_false_iff, bne_eq_false_iff_eq] at hunwanted
        exact (add_nothing hunwanted.1.1.2 totals).symm
  have hlen := length_keepRows showZeros rows
  rw [totalsOf, totalsOf, rowsWith, List.foldl_map, List.foldl_filter]
  conv_rhs => rw [← List.map_fst_zip hlen.ge, List.foldl_map]
  exact List.foldl_ext _ _ _ fun totals entry hmem => hidle entry hmem totals

theorem worths_append (prices : Prices) (rows₁ rows₂ : List Row) :
    worths prices (rows₁ ++ rows₂) = worths prices rows₁ ++ worths prices rows₂ := by
  rw [worths, List.filter_append, List.filterMap_append, worths, worths]

/-- One turn adds what one row is worth, or names it. -/
theorem add_eq (prices : Prices) (totals : Totals) (row : Row) :
    totals.add prices row
      = { spendable := totals.spendable + (worths prices ([row].filter fun r => !r.lp)).sum
          liquidity := totals.liquidity + (worths prices ([row].filter Row.lp)).sum
          unpriced := totals.unpriced ++ (unpricedRows prices [row]).map Row.name } := by
  rw [Totals.add]
  cases hsilent : row.unavailable with
  | true => cases hlp : row.lp <;> simp [worths, unpricedRows, hsilent, hlp]
  | false =>
      cases hvalue : valueOf prices row with
      | none =>
          by_cases hzero : row.amount = 0 <;> cases hlp : row.lp <;>
            simp [worths, unpricedRows, hsilent, hvalue, hzero, hlp]
      | some value =>
          cases hlp : row.lp <;> simp [worths, unpricedRows, hsilent, hvalue, hlp]

/-- The running totals, from any start, are sums over the rows. -/
theorem foldl_add (prices : Prices) (rows : List Row) (totals : Totals) :
    rows.foldl (Totals.add prices) totals
      = { spendable := totals.spendable + (worths prices (rows.filter fun r => !r.lp)).sum
          liquidity := totals.liquidity + (worths prices (rows.filter Row.lp)).sum
          unpriced := totals.unpriced ++ (unpricedRows prices rows).map Row.name } := by
  induction rows generalizing totals with
  | nil => simp [worths, unpricedRows]
  | cons row rest ih =>
      have hcons : row :: rest = [row] ++ rest := rfl
      rw [List.foldl_cons, ih, add_eq, hcons, List.filter_append, List.filter_append,
        worths_append, worths_append, List.sum_append, List.sum_append, unpricedRows,
        unpricedRows, unpricedRows, List.filter_append, List.map_append, add_assoc, add_assoc,
        List.append_assoc]

/-- **The running totals are sums over the rows.** -/
theorem totals_eq (prices : Prices) (rows : List Row) :
    totalsOf prices rows
      = { spendable := (worths prices (rows.filter fun r => !r.lp)).sum
          liquidity := (worths prices (rows.filter Row.lp)).sum
          unpriced := (unpricedRows prices rows).map Row.name } := by
  rw [totalsOf, foldl_add, zero_add, zero_add, List.nil_append]

/-- What can be spent and what is in a pool are all there is. -/
theorem sum_worths (prices : Prices) (rows : List Row) :
    (worths prices (rows.filter fun r => !r.lp)).sum + (worths prices (rows.filter Row.lp)).sum
      = (worths prices rows).sum := by
  have hall : (worths prices (rows.filter Row.lp ++ rows.filter fun r => !r.lp)).Perm
      (worths prices rows) :=
    ((List.filter_append_perm Row.lp rows).filter _).filterMap _
  rw [← hall.sum_eq, worths_append, List.sum_append, add_comm]

/-! ## The sheet says what it should -/

example : render [{ label := "BTC", amount := 1, asset := "BTC" }, { label := "DASH", amount := 0 }]
    (some { currencyPrefix := "€" }) [("BTC", 50000)] false
      = ["BTC    1.00000000  €50000.00", "", "total              €50000.00", "zero: DASH"] := by
  decide +kernel

end SwapsackReport
