import ArithmeticGame.Screen.View
/-!
# The lines of a screen

A line stands on its row with nothing but blanks around it, in the middle of its room. Before and
after a game the lines follow each other in the middle of the height. The lines of a round are told
apart by their rows: the grid starts on the sixth row of the screen, the key follows it at once, and
the input after another row.
-/
namespace ArithmeticGame

namespace PlacedLine

variable (line : PlacedLine)

theorem length_cells_le : line.cells.length ≤ line.room := List.length_take_le _ _

theorem left_le_start : line.left ≤ line.start := by
  have hlength := line.length_cells_le
  unfold start
  omega

theorem start_add_length_le : line.start + line.cells.length ≤ line.left + line.room := by
  have hlength := line.length_cells_le
  unfold start
  omega

theorem fill_eq {width : Nat} (hroom : line.left + line.room ≤ width) :
    line.fill width = List.replicate line.start .blank ++ line.cells ++
      List.replicate (width - line.start - line.cells.length) .blank := by
  have hend := line.start_add_length_le
  apply List.take_of_length_le
  simp only [List.length_append, List.length_replicate]
  omega

theorem cells_of_fits (h : (line.spans.flatMap Span.cells).length ≤ line.room) :
    line.cells = line.spans.flatMap Span.cells :=
  List.take_of_length_le h

theorem fill_of_fits {width : Nat} (hroom : line.left + line.room ≤ width)
    (hfits : (line.spans.flatMap Span.cells).length ≤ line.room) :
    ∃ before after, line.left ≤ before ∧ width - (line.left + line.room) ≤ after ∧
      line.fill width = List.replicate before .blank ++ line.spans.flatMap Span.cells ++
        List.replicate after .blank := by
  have hend := line.start_add_length_le
  refine ⟨line.start, width - line.start - line.cells.length, line.left_le_start, by omega, ?_⟩
  rw [line.fill_eq hroom, line.cells_of_fits hfits]

end PlacedLine

def lineOn? (lines : List PlacedLine) (row : Nat) : Option PlacedLine :=
  lines.find? fun line => line.row == row

theorem rows_ofLines {width height row : Nat} {lines : List PlacedLine} {line : PlacedLine}
    (hrow : row < height) (hline : lineOn? lines row = some line) :
    (Screen.ofLines width height lines).rows[row]? = some (line.fill width) := by
  rw [lineOn?] at hline
  simp [Screen.ofLines, hrow, hline]

theorem lineOn?_zipIdx {α : Type} {place : α × Nat → PlacedLine}
    (hplace : ∀ x, (place x).row = x.2) (items : List α) (first i : Nat) :
    lineOn? ((items.zipIdx first).map place) (first + i) =
      items[i]?.map fun item => place (item, first + i) := by
  induction items generalizing first i with
  | nil => rfl
  | cons item items ih =>
    cases i with
    | zero => simp [lineOn?, hplace]
    | succ i =>
      have hne : (first == first + (i + 1)) = false := by simp
      have hrest := ih (first + 1) i
      rw [Nat.add_right_comm] at hrest
      simpa [lineOn?, hplace, hne, Nat.add_assoc] using hrest

/-- A text in one style has a row of the screen, with nothing but blanks around it. -/
def Screen.Shows (screen : Screen) (span : Span) : Prop :=
  ∃ row before after : Nat, screen.rows[row]? = some (List.replicate before Cell.blank ++
    span.text.map (fun c => ⟨c, span.style⟩) ++ List.replicate after Cell.blank)

theorem shows_centred {width height i : Nat} {lines : List (List Span)} {span : Span}
    (hline : lines[i]? = some [span]) (hheight : (height - lines.length) / 2 + i < height)
    (hwidth : span.text.length ≤ width) :
    (Screen.ofLines width height (PlacedLine.centred width height lines)).Shows span := by
  let line : PlacedLine := ⟨(height - lines.length) / 2 + i, 0, width, [span]⟩
  have hon : lineOn? (PlacedLine.centred width height lines) line.row = some line := by
    rw [PlacedLine.centred, lineOn?_zipIdx fun _ => rfl, hline]
    rfl
  have hcells : line.spans.flatMap Span.cells = span.text.map fun c => ⟨c, span.style⟩ := by
    simp [line, Span.cells]
  have hroom : line.left + line.room ≤ width := Nat.le_of_eq (Nat.zero_add width)
  have hfits : (line.spans.flatMap Span.cells).length ≤ line.room := by
    rwa [hcells, List.length_map]
  obtain ⟨before, after, -, -, hfill⟩ := line.fill_of_fits hroom hfits
  rw [hcells] at hfill
  exact ⟨line.row, before, after, (rows_ofLines hheight hon).trans (congrArg some hfill)⟩

/-- What the player was told last, in the style of its outcome. -/
def Dialogue.line? (dialogue : Dialogue) : Option Span :=
  dialogue.notice.map fun notice => .ofString notice.text (.ofOutcome dialogue.outcome)

namespace View

variable {dialogue : Dialogue} {width height : Nat}

/-! ## After a game -/

theorem overLines_of_line? {line : Span} (hl : dialogue.line? = some line) :
    (overLines dialogue).length = 7 ∧ (overLines dialogue)[4]? = some [line] := by
  obtain ⟨notice, hn, rfl⟩ := Option.map_eq_some_iff.1 hl
  simp [overLines, noticeLine, hn]

theorem shows_line {line : Span} (hp : dialogue.session.phase = .finished)
    (hl : dialogue.line? = some line) (hheight : 5 ≤ height)
    (hwidth : line.text.length ≤ width) : (dialogue.screen width height).Shows line := by
  obtain ⟨hlength, hline⟩ := overLines_of_line? hl
  have hrow : (height - (overLines dialogue).length) / 2 + 4 < height := by
    rw [hlength]
    omega
  rw [Dialogue.screen, hp]
  exact shows_centred hline hrow hwidth

/-! ## Lines of a round -/

theorem length_grid (pool : Pool) : (grid pool).length = (pool.size + 9) / 10 := by
  simp [grid, rowLength, Pool.size]

def place (width row : Nat) (spans : List Span) : PlacedLine where
  row := row
  left := 5
  room := width - 10
  spans := spans

def gridLine (width row : Nat) (numbers : List PoolNumber) : PlacedLine :=
  place width row (numbers.map fun number => numberSpan number.state number.value)

def keyPlace (width : Nat) (pool : Pool) : PlacedLine :=
  place width (5 + (grid pool).length) (keyLine pool)

def inputPlace (width : Nat) (session : Session) : PlacedLine :=
  place width (5 + (grid session.pool).length + 2) (inputLine (width - 10) session.input)

/-- The status and the target stand above the grid. -/
def linesAbove (width : Nat) (session : Session) : List PlacedLine :=
  place width 1 (statusLine session) ::
    (session.target?.map fun target => place width 3 (targetLine target)).toList

/-- The notice and the legend stand below the input. -/
def linesBelow (dialogue : Dialogue) (width height : Nat) : List PlacedLine :=
  (dialogue.notice.map fun notice => place width
    (5 + (grid dialogue.session.pool).length + 3) (noticeLine dialogue notice)).toList ++
  [place width (height - 2) (legendLine dialogue.session.phase)]

theorem roundLines_eq (dialogue : Dialogue) (width height : Nat) :
    roundLines dialogue width height =
      linesAbove width dialogue.session ++
      ((grid dialogue.session.pool).zipIdx 5).map (fun x => gridLine width x.2 x.1) ++
      keyPlace width dialogue.session.pool :: inputPlace width dialogue.session ::
        linesBelow dialogue width height := by
  simp [roundLines, linesAbove, linesBelow, keyPlace, inputPlace, gridLine, place]

theorem lineOn?_append (lines others : List PlacedLine) (row : Nat) :
    lineOn? (lines ++ others) row = (lineOn? lines row).or (lineOn? others row) :=
  List.find?_append

theorem lineOn?_roundLines (dialogue : Dialogue) (width height i : Nat) :
    lineOn? (roundLines dialogue width height) (5 + i) =
      ((grid dialogue.session.pool)[i]?.map (gridLine width (5 + i))).or
        (lineOn? (keyPlace width dialogue.session.pool :: inputPlace width dialogue.session ::
          linesBelow dialogue width height) (5 + i)) := by
  have habove : lineOn? (linesAbove width dialogue.session) (5 + i) = none := by
    have hstatus : ¬1 = 5 + i := by omega
    have htarget : ¬3 = 5 + i := by omega
    simp [lineOn?, linesAbove, place, hstatus, htarget]
  rw [roundLines_eq, lineOn?_append, lineOn?_append, habove, Option.none_or,
    lineOn?_zipIdx fun _ => rfl]

theorem lineOn?_grid {i : Nat} {numbers : List PoolNumber}
    (h : (grid dialogue.session.pool)[i]? = some numbers) :
    lineOn? (roundLines dialogue width height) (5 + i) = some (gridLine width (5 + i) numbers) := by
  rw [lineOn?_roundLines, h]
  rfl

theorem lineOn?_key (dialogue : Dialogue) (width height : Nat) :
    lineOn? (roundLines dialogue width height) (5 + (grid dialogue.session.pool).length) =
      some (keyPlace width dialogue.session.pool) := by
  rw [lineOn?_roundLines]
  simp [lineOn?, keyPlace, place]

theorem lineOn?_input (dialogue : Dialogue) (width height : Nat) :
    lineOn? (roundLines dialogue width height) (5 + ((grid dialogue.session.pool).length + 2)) =
      some (inputPlace width dialogue.session) := by
  rw [lineOn?_roundLines]
  simp [lineOn?, keyPlace, inputPlace, place, Nat.add_assoc]

/-! ## Screens of a round -/

/-- The phases in which a round is on the screen. -/
def InRound (dialogue : Dialogue) : Prop :=
  dialogue.session.phase = .playing ∨ dialogue.session.phase = .solved

theorem screen_of_inRound (h : InRound dialogue) (width height : Nat) :
    dialogue.screen width height = .ofLines width height (roundLines dialogue width height) := by
  rcases h with h | h <;> rw [Dialogue.screen, h]

theorem rows_screen {row : Nat} {line : PlacedLine} (h : InRound dialogue) (hrow : row < height)
    (hline : lineOn? (roundLines dialogue width height) row = some line) :
    (dialogue.screen width height).rows[row]? = some (line.fill width) := by
  rw [screen_of_inRound h]
  exact rows_ofLines hrow hline

end View
end ArithmeticGame
