import ArithmeticGame.Proofs.Pool.Lifecycle
import ArithmeticGame.Proofs.Screen.Grid
import ArithmeticGame.Proofs.Session.Run
/-!
# Reading the pool off the screen

The grid and the key below it tell the same about a pool: the key has a count for each state, and
that many numbers of the grid are in its style. From the cells of the grid alone the numbers and
their states are found again.
-/
namespace ArithmeticGame

def Style.availability? (style : Style) : Option Availability :=
  [.available, .used, .removed].find? fun state => Style.ofNumber state = style

theorem Style.availability?_ofNumber (state : Availability) :
    (Style.ofNumber state).availability? = some state := by
  cases state <;> decide

namespace Screen

/-- The number in some cells, as its digits and its style tell. -/
def readNumber? (cells : List Cell) : Option PoolNumber := do
  let first ← cells.head?
  let state ← first.style.availability?
  some ⟨Nat.ofDigitChars 10 ((cells.map Cell.char).dropWhile (· == ' ')) 0, state⟩

/-- The numbers in cells of which each number takes four. -/
def readFours : List Cell → List PoolNumber
  | a :: b :: c :: d :: cells => (readNumber? [a, b, c, d]).toList ++ readFours cells
  | _ => []

theorem readFours_append {piece : List Cell} (h : piece.length = 4) (cells : List Cell) :
    readFours (piece ++ cells) = (readNumber? piece).toList ++ readFours cells :=
  match piece, h with
  | [_, _, _, _], _ => rfl

def isNumeric (row : List Cell) : Bool := row.all fun cell => cell.char == ' ' || cell.char.isDigit

/-- The numbers in the rows of digits that start on the sixth row of a screen. -/
def readPool (screen : Screen) : List PoolNumber :=
  ((screen.rows.drop 5).takeWhile isNumeric).flatMap fun row =>
    readFours (row.filter fun cell => cell.style ≠ .plain)

def countStyle (screen : Screen) (row rows : Nat) (style : Style) : Nat :=
  ((screen.rows.drop row).take rows).flatten.countP fun cell => cell.style = style

end Screen

namespace View

/-! ## Cells of the grid -/

variable {numbers : List PoolNumber} {width : Nat}

theorem readNumber?_numberCells {number : PoolNumber} (h : number.value ≤ 9999) :
    Screen.readNumber? (numberCells number) = some number := by
  have hlength := length_numberCells h
  obtain ⟨first, hfirst⟩ : ∃ first, (numberCells number).head? = some first := by
    rw [← Option.isSome_iff_exists, List.isSome_head?]
    rintro hnil
    rw [hnil] at hlength
    cases hlength
  have hstyle := style_of_mem_numberCells (List.mem_of_mem_head? hfirst)
  simp [Screen.readNumber?, hfirst, hstyle, Style.availability?_ofNumber, chars_numberCells,
    dropWhile_numberText, Nat.ofDigitChars_ten_toDigits]

theorem readFours_flatMap (hvalue : ∀ number ∈ numbers, number.value ≤ 9999) :
    Screen.readFours (numbers.flatMap numberCells) = numbers := by
  induction numbers with
  | nil => rfl
  | cons number numbers ih =>
    have hnumber := hvalue number List.mem_cons_self
    rw [List.flatMap_cons, Screen.readFours_append (length_numberCells hnumber),
      readNumber?_numberCells hnumber, ih fun x hx => hvalue x (List.mem_cons_of_mem _ hx)]
    rfl

theorem filter_gridCells (width : Nat) (numbers : List PoolNumber) :
    ((gridCells width numbers).filter fun cell => cell.style ≠ .plain) =
      numbers.flatMap numberCells := by
  have hkept : ∀ cell ∈ numbers.flatMap numberCells, cell.style ≠ .plain := by
    intro cell hcell
    obtain ⟨number, -, hmem⟩ := List.mem_flatMap.1 hcell
    rw [style_of_mem_numberCells hmem]
    exact Style.ofNumber_ne_plain _
  have hblank : (Cell.blank.style ≠ .plain) = False := by simp [Cell.blank]
  rw [gridCells, List.filter_append, List.filter_append, List.filter_replicate,
    List.filter_replicate, List.filter_eq_self.2 (by simpa using hkept)]
  simp [hblank]

theorem isNumeric_gridCells (width : Nat) (numbers : List PoolNumber) :
    Screen.isNumeric (gridCells width numbers) = true := by
  rw [Screen.isNumeric, List.all_eq_true]
  intro cell hcell
  simp only [gridCells, List.mem_append, List.mem_replicate, List.mem_flatMap] at hcell
  rcases hcell with (⟨-, rfl⟩ | ⟨number, -, hmem⟩) | ⟨-, rfl⟩
  · rfl
  · have hchar : cell.char ∈ numberText number.value := by
      rw [← chars_numberCells]
      exact List.mem_map_of_mem hmem
    rw [numberText, List.leftpad, List.mem_append] at hchar
    rcases hchar with hpad | hdigit
    · rw [List.eq_of_mem_replicate hpad]
      rfl
    · rw [Nat.isDigit_of_mem_toDigits (by decide) (by decide) hdigit, Bool.or_true]
  · rfl

theorem styles_numberCells {number : PoolNumber} (h : number.value ≤ 9999) :
    (numberCells number).map Cell.style = List.replicate 4 (.ofNumber number.state) := by
  rw [List.eq_replicate_iff, List.length_map, length_numberCells h]
  refine ⟨rfl, fun style hstyle => ?_⟩
  obtain ⟨cell, hcell, rfl⟩ := List.mem_map.1 hstyle
  exact style_of_mem_numberCells hcell

theorem countP_numberCells {number : PoolNumber} (h : number.value ≤ 9999) (state : Availability) :
    ((numberCells number).countP fun cell => cell.style = .ofNumber state) =
      if number.state = state then 4 else 0 := by
  rw [← length_numberCells h]
  split
  · next hstate =>
    rw [List.countP_eq_length]
    intro cell hcell
    rw [style_of_mem_numberCells hcell, hstate, decide_eq_true rfl]
  · next hstate =>
    rw [List.countP_eq_zero]
    intro cell hcell
    rwa [style_of_mem_numberCells hcell, decide_eq_true_iff, Style.ofNumber_eq_iff]

theorem countP_flatMap_numberCells (hvalue : ∀ number ∈ numbers, number.value ≤ 9999)
    (state : Availability) :
    ((numbers.flatMap numberCells).countP fun cell => cell.style = .ofNumber state) =
      4 * numbers.countP fun number => number.state = state := by
  induction numbers with
  | nil => rfl
  | cons number numbers ih =>
    rw [List.flatMap_cons, List.countP_append, countP_numberCells (hvalue _ List.mem_cons_self),
      ih fun x hx => hvalue x (List.mem_cons_of_mem _ hx), List.countP_cons]
    simp only [decide_eq_true_eq]
    split <;> omega

theorem countP_gridCells (width : Nat) (hvalue : ∀ number ∈ numbers, number.value ≤ 9999)
    (state : Availability) :
    ((gridCells width numbers).countP fun cell => cell.style = .ofNumber state) =
      4 * numbers.countP fun number => number.state = state := by
  have hblank : ¬ Cell.blank.style = .ofNumber state := (Style.ofNumber_ne_plain state).symm
  rw [gridCells, List.countP_append, List.countP_append, countP_flatMap_numberCells hvalue]
  simp [List.countP_replicate, hblank]

/-! ## The key -/

def keyText (pool : Pool) : List Char :=
  ("Available " ++ toString (pool.count .available) ++ "   Used " ++ toString (pool.count .used) ++
    "   Removed " ++ toString (pool.count .removed)).toList

theorem text_keyLine (pool : Pool) : (keyLine pool).flatMap Span.text = keyText pool := by
  simp [keyLine, keyText, Span.gap, Span.ofString, Availability.name]

theorem chars_flatMap_cells (spans : List Span) :
    (spans.flatMap Span.cells).map Cell.char = spans.flatMap Span.text := by
  simp [List.map_flatMap, Span.cells, Function.comp_def]

theorem length_keyText {pool : Pool} (hsize : pool.size ≤ 9999) : (keyText pool).length ≤ 41 := by
  have hdigits : ∀ state, (toString (pool.count state)).toList.length ≤ 4 := by
    intro state
    rw [Nat.toString_eq_ofList_toDigits, String.toList_ofList,
      Nat.length_toDigits_le_iff (by decide) (by decide)]
    have hcount := pool.count_le_size state
    omega
  have havailable := hdigits .available
  have hused := hdigits .used
  have hremoved := hdigits .removed
  simp only [keyText, String.toList_append, List.length_append]
  have h₁ : "Available ".toList.length = 10 := by decide +kernel
  have h₂ : "   Used ".toList.length = 8 := by decide +kernel
  have h₃ : "   Removed ".toList.length = 11 := by decide +kernel
  omega

theorem fill_keyPlace {pool : Pool} (hsize : pool.size ≤ 9999) (hwidth : 51 ≤ width) :
    ∃ before after, (keyPlace width pool).fill width = List.replicate before .blank ++
      (keyLine pool).flatMap Span.cells ++ List.replicate after .blank := by
  have hlength : ((keyLine pool).flatMap Span.cells).length ≤ 41 := by
    rw [← List.length_map Cell.char, chars_flatMap_cells, text_keyLine]
    exact length_keyText hsize
  have hroom : (keyPlace width pool).left + (keyPlace width pool).room ≤ width := by
    simp only [keyPlace, place]
    omega
  obtain ⟨before, after, -, -, hfill⟩ := (keyPlace width pool).fill_of_fits hroom
    (Nat.le_trans hlength (by simp only [keyPlace, place]; omega))
  exact ⟨before, after, hfill⟩

/-- The row after the grid begins with a letter, by which the end of the grid is known. -/
theorem isNumeric_keyPlace {pool : Pool} (hsize : pool.size ≤ 9999) (hwidth : 51 ≤ width) :
    Screen.isNumeric ((keyPlace width pool).fill width) = false := by
  obtain ⟨before, after, hfill⟩ := fill_keyPlace hsize hwidth
  have hletter : 'A' ∈ ((keyLine pool).flatMap Span.cells).map Cell.char := by
    rw [chars_flatMap_cells, text_keyLine, keyText]
    simp
  obtain ⟨cell, hcell, hchar⟩ := List.mem_map.1 hletter
  rw [hfill, Screen.isNumeric, List.all_eq_false]
  refine ⟨cell, by simp [hcell], ?_⟩
  rw [hchar]
  decide

/-! ## The screen -/

/-- A screen shows a pool: each number once, in its place and in the style of its state, with blanks
around them, and below them how many there are in each state. -/
structure ShowsPool (screen : Screen) (width : Nat) (pool : Pool) : Prop where
  number : ∀ value state, pool.state? value = some state →
    screen.stretch (numberRow value) (numberColumn width pool.size value) 4 =
      (numberText value).map fun c => ⟨c, .ofNumber state⟩
  once : ∀ value other, 1 ≤ other → other ≤ pool.size →
    ((screen.stretch (numberRow other) (numberColumn width pool.size other) 4).map Cell.char =
      numberText value ↔ other = value)
  apart : ∀ value other, 1 ≤ value → value < other → numberRow value = numberRow other →
    numberColumn width pool.size value + 4 ≤ numberColumn width pool.size other
  blank : ∀ i column, i < (pool.size + 9) / 10 → column < width →
    (∀ value, 1 ≤ value → value ≤ pool.size → numberRow value = 5 + i →
      numberColumn width pool.size value ≤ column →
      numberColumn width pool.size value + 4 ≤ column) →
    screen.stretch (5 + i) column 1 = [.blank]
  key : ∃ before after, screen.rows[5 + (pool.size + 9) / 10]? =
    some (List.replicate before .blank ++ (keyLine pool).flatMap Span.cells ++
      List.replicate after .blank)
  keyText : (keyLine pool).flatMap Span.text = keyText pool
  total : pool.count .available + pool.count .used + pool.count .removed = pool.size
  counts : ∀ state, ((List.range' 1 pool.size).countP fun value =>
      (screen.stretch (numberRow value) (numberColumn width pool.size value) 4).map Cell.style =
        List.replicate 4 (.ofNumber state)) = pool.count state
  cells : ∀ state, screen.countStyle 5 ((pool.size + 9) / 10) (.ofNumber state) =
    4 * pool.count state
  reads : screen.readPool = pool.numbers

section OnScreen

variable {dialogue : Dialogue} {height : Nat}
  (hround : InRound dialogue) (hsize : dialogue.session.pool.size ≤ 9999) (hwidth : 51 ≤ width)
  (hheight : (dialogue.session.pool.size + 9) / 10 + 11 ≤ height)

include hround hheight

theorem row_key : (dialogue.screen width height).rows[5 + (dialogue.session.pool.size + 9) / 10]? =
    some ((keyPlace width dialogue.session.pool).fill width) := by
  have hline := lineOn?_key dialogue width height
  rw [length_grid] at hline
  exact rows_screen hround (by omega) hline

include hsize hwidth

theorem take_rows : ((dialogue.screen width height).rows.drop 5).take
    ((dialogue.session.pool.size + 9) / 10) =
      (grid dialogue.session.pool).map (gridCells width) := by
  apply List.ext_getElem?
  intro i
  by_cases hi : i < (dialogue.session.pool.size + 9) / 10
  · obtain ⟨numbers, hnumbers⟩ := exists_grid_row hi
    rw [List.getElem?_take_of_lt hi, List.getElem?_drop,
      rows_grid hround hsize hwidth hheight hnumbers, List.getElem?_map, hnumbers,
      Option.map_some]
  · rw [List.getElem?_eq_none, List.getElem?_eq_none]
    · rw [List.length_map, length_grid]
      omega
    · rw [List.length_take]
      omega

theorem drop_rows : ∃ below, (dialogue.screen width height).rows.drop 5 =
    (grid dialogue.session.pool).map (gridCells width) ++
      (keyPlace width dialogue.session.pool).fill width :: below := by
  obtain ⟨hlt, hkey⟩ := List.getElem?_eq_some_iff.1 (row_key hround hheight)
  rw [← List.take_append_drop ((dialogue.session.pool.size + 9) / 10)
      ((dialogue.screen width height).rows.drop 5),
    take_rows hround hsize hwidth hheight, List.drop_drop, List.drop_eq_getElem_cons hlt, hkey]
  exact ⟨_, rfl⟩

theorem readPool_screen :
    (dialogue.screen width height).readPool = dialogue.session.pool.numbers := by
  obtain ⟨below, hrows⟩ := drop_rows hround hsize hwidth hheight
  have hnumeric : ∀ row ∈ (grid dialogue.session.pool).map (gridCells width),
      Screen.isNumeric row = true := by
    intro row hrow
    obtain ⟨numbers, -, rfl⟩ := List.mem_map.1 hrow
    exact isNumeric_gridCells width numbers
  have hread : ∀ numbers ∈ grid dialogue.session.pool,
      Screen.readFours ((gridCells width numbers).filter fun cell => cell.style ≠ .plain) =
        numbers := by
    intro numbers hmem
    obtain ⟨i, hi⟩ := List.mem_iff_getElem?.1 hmem
    rw [filter_gridCells, readFours_flatMap (value_le_of_grid hsize hi)]
  rw [Screen.readPool, hrows, List.takeWhile_append_of_pos hnumeric, List.takeWhile_cons_of_neg
    (by rw [isNumeric_keyPlace hsize hwidth]; decide), List.append_nil, List.flatMap_map,
    ← flatten_grid, List.flatMap_def, List.map_congr_left hread, List.map_id']

theorem countP_shown (state : Availability) :
    ((List.range' 1 dialogue.session.pool.size).countP fun value =>
      ((dialogue.screen width height).stretch (numberRow value)
        (numberColumn width dialogue.session.pool.size value) 4).map Cell.style =
        List.replicate 4 (.ofNumber state)) = dialogue.session.pool.count state := by
  rw [Pool.size, ← dialogue.session.pool.values_eq, List.countP_map, Pool.count]
  apply List.countP_congr
  intro number hmem
  have hvalue := Nat.le_trans (value_le_size hmem) hsize
  simp only [Function.comp_apply, decide_eq_true_eq]
  rw [← Pool.size, stretch_number hround hsize hwidth hheight hmem, styles_numberCells hvalue]
  simp [Style.ofNumber_eq_iff]

theorem countStyle_screen (state : Availability) :
    (dialogue.screen width height).countStyle 5 ((dialogue.session.pool.size + 9) / 10)
      (.ofNumber state) = 4 * dialogue.session.pool.count state := by
  have hcount : ∀ numbers ∈ grid dialogue.session.pool,
      ((gridCells width numbers).countP fun cell => cell.style = .ofNumber state) =
        4 * numbers.countP fun number => number.state = state := by
    intro numbers hmem
    obtain ⟨i, hi⟩ := List.mem_iff_getElem?.1 hmem
    exact countP_gridCells width (value_le_of_grid hsize hi) state
  rw [Screen.countStyle, take_rows hround hsize hwidth hheight, List.countP_flatten, List.map_map,
    Pool.count, ← flatten_grid, List.countP_flatten]
  generalize grid dialogue.session.pool = rows at hcount ⊢
  induction rows with
  | nil => rfl
  | cons row rows ih =>
    simp only [List.map_cons, List.sum_cons, Function.comp_apply, Nat.mul_add]
    rw [hcount row List.mem_cons_self, ih fun x hx => hcount x (List.mem_cons_of_mem _ hx)]

end OnScreen

/-- On a screen with room for it a round shows its pool, and shows it whole. -/
theorem shows_pool {dialogue : Dialogue} {width height : Nat} (hround : InRound dialogue)
    (hsize : dialogue.session.pool.size ≤ 9999) (hwidth : 51 ≤ width)
    (hheight : (dialogue.session.pool.size + 9) / 10 + 11 ≤ height) :
    ShowsPool (dialogue.screen width height) width dialogue.session.pool := by
  have hcells : ∀ {number}, number ∈ dialogue.session.pool.numbers →
      (dialogue.screen width height).stretch (numberRow number.value)
        (numberColumn width dialogue.session.pool.size number.value) 4 = numberCells number :=
    fun hmem => stretch_number hround hsize hwidth hheight hmem
  constructor
  case number =>
    intro value state hstate
    obtain ⟨number, hmem, rfl, rfl⟩ := Pool.state?_eq_some.1 hstate
    exact hcells hmem
  case once =>
    intro value other hother hle
    obtain ⟨state, hstate⟩ := Option.isSome_iff_exists.1
      ((Pool.state?_isSome dialogue.session.pool other).2 ⟨hother, hle⟩)
    obtain ⟨number, hmem, rfl, -⟩ := Pool.state?_eq_some.1 hstate
    rw [hcells hmem, chars_numberCells]
    exact numberText_injective.eq_iff
  case apart =>
    intro value other hvalue hlt hrow
    simp only [numberRow] at hrow
    rw [numberColumn, numberColumn, show (other - 1) / 10 = (value - 1) / 10 by omega]
    omega
  case blank =>
    exact fun _ _ hi hcolumn hfree => stretch_blank hround hsize hwidth hheight hi hcolumn hfree
  case key =>
    obtain ⟨before, after, hfill⟩ := fill_keyPlace hsize hwidth
    exact ⟨before, after, by rw [row_key hround hheight, hfill]⟩
  case keyText => exact text_keyLine _
  case total => exact Pool.count_add _
  case counts => exact countP_shown hround hsize hwidth hheight
  case cells => exact countStyle_screen hround hsize hwidth hheight
  case reads => exact readPool_screen hround hsize hwidth hheight

/-- A pool of twelve after a removal in the second round, its last row a short one. -/
theorem shows_pool_secondRound :
    let rules := { Session.twoRounds.rules with poolSize := 12 }
    let dialogue := Dialogue.ofSession ((Session.ofRules rules (.listed [3, 20]) (.ofSeed 7)).run
      [.start, .submit ['1', '+', '2'], .advance, .removeNumber])
    InRound dialogue ∧ dialogue.session.pool.size ≤ 9999 ∧ 51 ≤ 52 ∧
      (dialogue.session.pool.size + 9) / 10 + 11 ≤ 13 ∧
      dialogue.session.pool.count .used = 2 ∧ dialogue.session.pool.count .removed = 1 ∧
      ShowsPool (dialogue.screen 52 13) 52 dialogue.session.pool := by
  intro rules dialogue
  have hround : InRound dialogue := .inl (by decide +kernel)
  have hsize : dialogue.session.pool.size ≤ 9999 := by decide +kernel
  have hwidth : 51 ≤ 52 := by decide
  have hheight : (dialogue.session.pool.size + 9) / 10 + 11 ≤ 13 := by decide +kernel
  exact ⟨hround, hsize, hwidth, hheight, by decide +kernel, by decide +kernel,
    shows_pool hround hsize hwidth hheight⟩

end View
end ArithmeticGame
