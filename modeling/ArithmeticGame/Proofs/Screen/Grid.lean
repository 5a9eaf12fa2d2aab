import ArithmeticGame.Proofs.Pool.States
import ArithmeticGame.Proofs.Screen.Lines
import Mathlib.Data.List.TakeWhile
/-!
# The grid of a round

A row of the grid holds ten numbers of the pool, the last row what is left of them. Each number has
four columns of the row, and the row is in the middle of its room, so that where a number stands
depends on how many share its row.
-/
namespace ArithmeticGame

theorem Style.ofNumber_eq_iff {state other : Availability} :
    Style.ofNumber state = Style.ofNumber other ↔ state = other := by
  cases state <;> cases other <;> decide

theorem Style.ofNumber_ne_plain (state : Availability) : Style.ofNumber state ≠ .plain := by
  cases state <;> decide

theorem take_drop_flatMap {α β : Type} {f : α → List β} {k : Nat} {items : List α}
    (hf : ∀ x ∈ items, (f x).length = k) {j : Nat} {item : α} (hj : items[j]? = some item)
    (rest : List β) : ((items.flatMap f ++ rest).drop (k * j)).take k = f item := by
  induction items generalizing j with
  | nil => cases hj
  | cons first items ih =>
    have hfirst : (f first).length = k := hf first List.mem_cons_self
    rw [List.flatMap_cons, List.append_assoc]
    cases j with
    | zero =>
      obtain rfl : first = item := by simpa using hj
      rw [Nat.mul_zero, List.drop_zero, List.take_append_of_le_length hfirst.ge,
        List.take_of_length_le hfirst.le]
    | succ j =>
      rw [Nat.mul_succ, Nat.add_comm, ← List.drop_drop, List.drop_append_of_le_length hfirst.ge,
        List.drop_of_length_le hfirst.le, List.nil_append]
      exact ih (fun x hx => hf x (List.mem_cons_of_mem _ hx)) (by simpa using hj)

theorem length_flatMap_of_forall {α β : Type} {f : α → List β} {k : Nat} {items : List α}
    (hf : ∀ x ∈ items, (f x).length = k) : (items.flatMap f).length = k * items.length := by
  induction items with
  | nil => rfl
  | cons first items ih =>
    rw [List.flatMap_cons, List.length_append, hf first List.mem_cons_self,
      ih fun x hx => hf x (List.mem_cons_of_mem _ hx), List.length_cons, Nat.mul_succ, Nat.add_comm]

theorem flatten_chunks {α : Type} (items : List α) (k count : Nat) :
    ((List.range count).map fun i => (items.drop (i * k)).take k).flatten =
      items.take (count * k) := by
  induction count with
  | zero => simp
  | succ count ih =>
    rw [List.range_succ, List.map_append, List.flatten_append, ih, Nat.succ_mul, List.take_add]
    simp

def Screen.stretch (screen : Screen) (row column length : Nat) : List Cell :=
  ((screen.rows[row]?.getD []).drop column).take length

namespace View

/-! ## One number -/

def numberText (value : Nat) : List Char := (Nat.toDigits 10 value).leftpad 4 ' '

def numberCells (number : PoolNumber) : List Cell :=
  (numberText number.value).map fun c => ⟨c, .ofNumber number.state⟩

theorem length_numberText {value : Nat} (h : value ≤ 9999) : (numberText value).length = 4 := by
  have hdigits : (Nat.toDigits 10 value).length ≤ 4 :=
    (Nat.length_toDigits_le_iff (by decide) (by decide)).2 (by omega)
  rw [numberText, List.length_leftpad]
  omega

theorem length_numberCells {number : PoolNumber} (h : number.value ≤ 9999) :
    (numberCells number).length = 4 := by
  rw [numberCells, List.length_map, length_numberText h]

theorem chars_numberCells (number : PoolNumber) :
    (numberCells number).map Cell.char = numberText number.value := by
  simp [numberCells, Function.comp_def]

theorem style_of_mem_numberCells {number : PoolNumber} {cell : Cell}
    (h : cell ∈ numberCells number) : cell.style = .ofNumber number.state := by
  obtain ⟨c, -, rfl⟩ := List.mem_map.1 h
  rfl

theorem dropWhile_numberText (value : Nat) :
    (numberText value).dropWhile (· == ' ') = Nat.toDigits 10 value := by
  have hpad : ∀ c ∈ List.replicate (4 - (Nat.toDigits 10 value).length) ' ', (c == ' ') = true := by
    intro c hc
    rw [List.eq_of_mem_replicate hc]
    rfl
  rw [numberText, List.leftpad, List.dropWhile_append_of_pos hpad, List.dropWhile_eq_self_iff]
  intro hlength hblank
  have hdigit := Nat.isDigit_of_mem_toDigits (by decide) (by decide) (List.getElem_mem hlength)
  rw [eq_of_beq hblank] at hdigit
  cases hdigit

theorem numberText_injective : Function.Injective numberText := by
  intro value other h
  have hdigits : Nat.toDigits 10 value = Nat.toDigits 10 other := by
    rw [← dropWhile_numberText, h, dropWhile_numberText]
  calc
    value = Nat.ofDigitChars 10 (Nat.toDigits 10 value) 0 := Nat.ofDigitChars_ten_toDigits.symm
    _ = Nat.ofDigitChars 10 (Nat.toDigits 10 other) 0 := by rw [hdigits]
    _ = other := Nat.ofDigitChars_ten_toDigits

/-! ## Rows of numbers -/

variable {pool : Pool} {numbers : List PoolNumber} {i : Nat}

theorem grid_getElem? (h : (grid pool)[i]? = some numbers) :
    numbers = (pool.numbers.drop (10 * i)).take 10 := by
  obtain ⟨row, hrow, rfl⟩ := Option.map_eq_some_iff.1 ((List.getElem?_map ..).symm.trans h)
  obtain ⟨hlt, rfl⟩ := List.getElem?_eq_some_iff.1 hrow
  simp [rowLength, Nat.mul_comm]

theorem exists_grid_row (h : i < (pool.size + 9) / 10) :
    ∃ numbers, (grid pool)[i]? = some numbers :=
  ⟨_, List.getElem?_eq_getElem (by rwa [length_grid])⟩

theorem mem_of_grid (h : (grid pool)[i]? = some numbers) :
    ∀ number ∈ numbers, number ∈ pool.numbers := by
  intro number hmem
  rw [grid_getElem? h] at hmem
  exact List.mem_of_mem_drop (List.mem_of_mem_take hmem)

theorem flatten_grid (pool : Pool) : (grid pool).flatten = pool.numbers := by
  refine (flatten_chunks pool.numbers rowLength _).trans (List.take_of_length_le ?_)
  simp only [rowLength]
  omega

theorem value_le_size {number : PoolNumber} (h : number ∈ pool.numbers) :
    number.value ≤ pool.size := by
  obtain ⟨place, hplace⟩ := List.mem_iff_getElem?.1 h
  obtain ⟨hlt, -⟩ := List.getElem?_eq_some_iff.1 hplace
  rw [pool.value_of_getElem? hplace]
  exact hlt

/-! ## Where they stand -/

def rowCount (size i : Nat) : Nat := min 10 (size - 10 * i)

theorem length_of_grid (h : (grid pool)[i]? = some numbers) :
    numbers.length = rowCount pool.size i := by
  rw [grid_getElem? h, List.length_take, List.length_drop, rowCount, Pool.size]

theorem rowCount_le (size i : Nat) : rowCount size i ≤ 10 := Nat.min_le_left ..

/-- The column in which so many numbers begin that are in one row. -/
def rowStart (width count : Nat) : Nat := 5 + (width - 10) / 2 - 4 * count / 2

def numberRow (value : Nat) : Nat := 5 + (value - 1) / 10

def numberColumn (width size value : Nat) : Nat :=
  rowStart width (rowCount size ((value - 1) / 10)) + 4 * ((value - 1) % 10)

def gridCells (width : Nat) (numbers : List PoolNumber) : List Cell :=
  List.replicate (rowStart width numbers.length) .blank ++ numbers.flatMap numberCells ++
    List.replicate (width - rowStart width numbers.length - 4 * numbers.length) .blank

variable {width : Nat}

theorem drop_gridCells (width : Nat) (numbers : List PoolNumber) :
    (gridCells width numbers).drop (rowStart width numbers.length) =
      numbers.flatMap numberCells ++
        List.replicate (width - rowStart width numbers.length - 4 * numbers.length) .blank := by
  rw [gridCells, List.append_assoc]
  exact List.drop_left' List.length_replicate

theorem fill_gridLine (row : Nat) (hvalue : ∀ number ∈ numbers, number.value ≤ 9999)
    (hlength : numbers.length ≤ 10) (hw : 51 ≤ width) :
    (gridLine width row numbers).fill width = gridCells width numbers := by
  have hspans : (gridLine width row numbers).spans.flatMap Span.cells =
      numbers.flatMap numberCells := List.flatMap_map ..
  have hcells : (numbers.flatMap numberCells).length = 4 * numbers.length :=
    length_flatMap_of_forall fun number hmem => length_numberCells (hvalue number hmem)
  have hfits : (gridLine width row numbers).cells = numbers.flatMap numberCells := by
    rw [← hspans]
    apply PlacedLine.cells_of_fits
    rw [hspans, hcells]
    simp only [gridLine, place]
    omega
  rw [PlacedLine.fill_eq, PlacedLine.start, hfits, hcells]
  · rfl
  · simp only [gridLine, place]
    omega

/-- A row of numbers begins far enough to the left that all of them are on the screen. -/
theorem rowStart_add_le {count : Nat} (hw : 51 ≤ width) (hcount : count ≤ 10) :
    rowStart width count + 4 * count ≤ width := by
  rw [rowStart]
  omega

section OnScreen

variable {dialogue : Dialogue} {height : Nat}
  (hround : InRound dialogue) (hsize : dialogue.session.pool.size ≤ 9999) (hwidth : 51 ≤ width)
  (hheight : (dialogue.session.pool.size + 9) / 10 + 11 ≤ height)

include hsize

theorem value_le_of_grid (hi : (grid dialogue.session.pool)[i]? = some numbers) :
    ∀ number ∈ numbers, number.value ≤ 9999 := fun number hmem =>
  Nat.le_trans (value_le_size (mem_of_grid hi number hmem)) hsize

include hround hwidth hheight

theorem rows_grid (hi : (grid dialogue.session.pool)[i]? = some numbers) :
    (dialogue.screen width height).rows[5 + i]? = some (gridCells width numbers) := by
  have hlt : i < (dialogue.session.pool.size + 9) / 10 := by
    rw [← length_grid]
    exact (List.getElem?_eq_some_iff.1 hi).1
  have hlength : numbers.length ≤ 10 := by
    rw [length_of_grid hi]
    exact rowCount_le ..
  rw [rows_screen hround (by omega) (lineOn?_grid hi),
    fill_gridLine (5 + i) (value_le_of_grid hsize hi) hlength hwidth]

theorem stretch_number {number : PoolNumber} (hmem : number ∈ dialogue.session.pool.numbers) :
    (dialogue.screen width height).stretch (numberRow number.value)
      (numberColumn width dialogue.session.pool.size number.value) 4 = numberCells number := by
  obtain ⟨place, hplace⟩ := List.mem_iff_getElem?.1 hmem
  have hlt : place < dialogue.session.pool.size := (List.getElem?_eq_some_iff.1 hplace).1
  obtain ⟨numbers, hnumbers⟩ : ∃ numbers,
      (grid dialogue.session.pool)[place / 10]? = some numbers := exists_grid_row (by omega)
  have hcell : numbers[place % 10]? = some number := by
    rw [grid_getElem? hnumbers, List.getElem?_take_of_lt (by omega), List.getElem?_drop, ← hplace]
    congr 1
    omega
  rw [dialogue.session.pool.value_of_getElem? hplace, numberRow, numberColumn, Nat.add_sub_cancel,
    Screen.stretch, rows_grid hround hsize hwidth hheight hnumbers, Option.getD_some,
    ← length_of_grid hnumbers, ← List.drop_drop, drop_gridCells]
  exact take_drop_flatMap
    (fun x hx => length_numberCells (value_le_of_grid hsize hnumbers x hx)) hcell _

/-- A cell in the rows of the grid is in the columns of a number, or it is blank. -/
theorem stretch_blank (hi : i < (dialogue.session.pool.size + 9) / 10) {column : Nat}
    (hcolumn : column < width)
    (hfree : ∀ value, 1 ≤ value → value ≤ dialogue.session.pool.size → numberRow value = 5 + i →
      numberColumn width dialogue.session.pool.size value ≤ column →
      numberColumn width dialogue.session.pool.size value + 4 ≤ column) :
    (dialogue.screen width height).stretch (5 + i) column 1 = [.blank] := by
  obtain ⟨numbers, hnumbers⟩ := exists_grid_row hi
  have hlength := length_of_grid hnumbers
  have hcount : rowCount dialogue.session.pool.size i =
      min 10 (dialogue.session.pool.size - 10 * i) := rfl
  have hpieces : (numbers.flatMap numberCells).length = 4 * numbers.length :=
    length_flatMap_of_forall fun number hmem =>
      length_numberCells (value_le_of_grid hsize hnumbers number hmem)
  have hend : rowStart width numbers.length + 4 * numbers.length ≤ width :=
    rowStart_add_le hwidth (by omega)
  have houtside : rowStart width numbers.length ≤ column →
      rowStart width numbers.length + 4 * numbers.length ≤ column := by
    intro hstart
    by_contra hcontra
    -- the value of the number whose columns these are, counted from the start of its row
    have hvalue := hfree (10 * i + (column - rowStart width numbers.length) / 4 + 1)
    have hdiv : (10 * i + (column - rowStart width numbers.length) / 4) / 10 = i := by omega
    rw [numberRow, numberColumn, Nat.add_sub_cancel, hdiv, ← hlength] at hvalue
    omega
  have hcell : (gridCells width numbers)[column]? = some .blank := by
    rw [gridCells, List.append_assoc, List.getElem?_append, List.getElem?_append]
    simp only [List.length_replicate, hpieces, List.getElem?_replicate]
    split
    · rfl
    · rw [if_neg (by omega), if_pos (by omega)]
  obtain ⟨hlt, hblank⟩ := List.getElem?_eq_some_iff.1 hcell
  rw [Screen.stretch, rows_grid hround hsize hwidth hheight hnumbers, Option.getD_some,
    List.drop_eq_getElem_cons hlt, hblank]
  rfl

end OnScreen

end View
end ArithmeticGame
