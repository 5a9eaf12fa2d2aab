import ArithmeticGame.Dialogue.Basic
import ArithmeticGame.Screen.Basic
import ArithmeticGame.Text.Width
/-!
# What the player sees

The screen of each phase: the rules before a game, the round with the pool as a grid during one, and
the score after it.
-/
namespace ArithmeticGame

namespace Style

def strong : Style := { bold := true }

def hint : Style := { italic := true }

/-- The style of a pool number in the grid. -/
def ofNumber : Availability → Style
  | .available => strong
  | .used => { colour := some .green, crossedOut := true }
  | .removed => { colour := some .darkGray, crossedOut := true }

/-- The style of a notice, by the outcome that it belongs to. -/
def ofOutcome : Option Outcome → Style
  | some .hit => { strong with colour := some .green }
  | some (.miss _) => { strong with colour := some .red }
  | some .refused => { colour := some .yellow }
  | some (.removed _) => { colour := some .magenta }
  | some .done | some .nothing | none => hint

end Style

namespace View

def plainLine (text : String) : List Span := [.ofString text .plain]

def titleLine (text : String) : List Span :=
  [.ofString text { Style.strong with colour := some .cyan }]

def hintLine (text : String) : List Span := [.ofString text .hint]

def noticeLine (dialogue : Dialogue) (notice : Notice) : List Span :=
  [.ofString notice.text (.ofOutcome dialogue.outcome)]

def setupLines (dialogue : Dialogue) : List (List Span) :=
  let rules := dialogue.session.rules
  [titleLine "reckon",
   [],
   plainLine (toString dialogue.session.targets.length ++ " rounds · " ++
     toString rules.timeBudget.toNat ++ "s on the clock · wrong answers cost " ++
     toString rules.penalty.toNat ++ "s"),
   plainLine "Combine pool numbers with + - * / and parentheses to hit each target.",
   plainLine "Every number can be used once per game.",
   [],
   hintLine "(enter) start / (esc)ape"]

def overLines (dialogue : Dialogue) : List (List Span) :=
  let summary := dialogue.session.summary
  [titleLine "game over",
   [],
   [.ofString (toString summary.score ++ " points") { Style.strong with colour := some .yellow }],
   plainLine (toString summary.correct ++ " correct   " ++ toString summary.played ++ "/" ++
     toString summary.rounds ++ " rounds   " ++ Clock.text summary.seconds ++ " left")] ++
  (dialogue.notice.map (noticeLine dialogue)).toList ++
  [[], hintLine "(r)estart / (esc)ape"]

def rowLength : Nat := 10

/-- The pool numbers with their states, ten to a row. -/
def grid (pool : Pool) : List (List PoolNumber) :=
  let numbers := pool.numbers
  (List.range ((numbers.length + rowLength - 1) / rowLength)).map fun row =>
    (numbers.drop (row * rowLength)).take rowLength

/-- A pool number in four columns of the grid. -/
def numberSpan (state : Availability) (value : Nat) : Span :=
  let digits := Nat.toDigits 10 value
  ⟨List.replicate (4 - digits.length) ' ' ++ digits, .ofNumber state⟩

def statusLine (session : Session) : List Span :=
  let index := if session.target?.isSome then session.round + 1 else 0
  [.ofString ("round " ++ toString index ++ "/" ++ toString session.targets.length) .strong,
   .gap,
   .ofString (Clock.text session.seconds)
     (if session.clockRuns then .strong else { Style.strong with dim := true }),
   .gap,
   .ofString (toString session.correct ++ " correct") .strong]

def targetLine (target : Int64) : List Span := titleLine ("target  " ++ toString target.toInt)

/-- How many numbers are in each state, in the colours of the grid. -/
def keyLine (pool : Pool) : List Span :=
  let label (state : Availability) : Span :=
    .ofString (state.name ++ " " ++ toString (pool.count state))
      { Style.ofNumber state with crossedOut := false }
  [label .available, .gap, label .used, .gap, label .removed]

/-- The end of the input that fits between the prompt and the cursor. -/
def inputLine (room : Nat) (input : List Char) : List Span :=
  [.ofString "> " { Style.strong with dim := true },
   ⟨Text.fittingEnd (room - 3) input, .strong⟩,
   .ofString "_" { dim := true, slowBlink := true }]

def legendLine : Phase → List Span
  | .solved => hintLine "(enter) next round / (esc) end game"
  | _ => hintLine "(enter) submit / (?) remove a number for time / (del) clear / (esc) end game"

/-- The lines of a round, in a margin of five columns and one row. -/
def roundLines (dialogue : Dialogue) (width height : Nat) : List PlacedLine :=
  let session := dialogue.session
  let room := width - 10
  let place (row : Nat) (spans : List Span) : PlacedLine := { row, left := 5, room, spans }
  let grid := grid session.pool
  let below := 5 + grid.length
  [place 1 (statusLine session)] ++
  (session.target?.map fun target => place 3 (targetLine target)).toList ++
  (grid.zipIdx 5).map (fun (numbers, row) =>
    place row (numbers.map fun number => numberSpan number.state number.value)) ++
  [place below (keyLine session.pool), place (below + 2) (inputLine room session.input)] ++
  (dialogue.notice.map fun notice => place (below + 3) (noticeLine dialogue notice)).toList ++
  [place (height - 2) (legendLine session.phase)]

end View

def Dialogue.screen (dialogue : Dialogue) (width height : Nat) : Screen :=
  .ofLines width height <| match dialogue.session.phase with
    | .setup => PlacedLine.centred width height (View.setupLines dialogue)
    | .finished => PlacedLine.centred width height (View.overLines dialogue)
    | .playing | .solved => View.roundLines dialogue width height

end ArithmeticGame
