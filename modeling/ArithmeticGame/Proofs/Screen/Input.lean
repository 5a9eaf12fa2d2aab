import ArithmeticGame.Proofs.Dialogue.Typing
import ArithmeticGame.Proofs.Screen.Lines
import ArithmeticGame.Proofs.Text.Width
/-!
# The input on the screen

What the player is composing stands between a prompt and a cursor, which are left room for. Of an
input that is too wide the end is shown, so that the player always sees what was typed last.
-/
namespace ArithmeticGame

theorem toNat_lt_of_isTypable {c : Char} (h : isTypable c = true) : c.toNat < 0xAD ∧ c ≠ '\n' := by
  rcases isTypable_iff.1 h with hdigit | hmem
  · have hle : c.toNat ≤ 57 := (Char.isDigit_iff_toNat.1 hdigit).2
    refine ⟨by omega, ?_⟩
    rintro rfl
    cases hdigit
  · simp only [List.mem_cons, List.not_mem_nil, or_false] at hmem
    rcases hmem with rfl | rfl | rfl | rfl | rfl | rfl | rfl <;> decide

namespace View

variable {dialogue : Dialogue} {width height : Nat}

def columns (spans : List Span) : Nat := (spans.map fun span => Text.width span.text).sum

theorem columns_inputLine_le {room : Nat} (h : 3 ≤ room) (input : List Char) :
    columns (inputLine room input) ≤ room := by
  have hshown := (Text.fittingEnd_spec (room - 3) input).2.1
  have hprompt : Text.width "> ".toList = 2 := by decide +kernel
  have hcursor : Text.width "_".toList = 1 := by decide +kernel
  simp only [columns, inputLine, Span.ofString, List.map_cons, List.map_nil, List.sum_cons,
    List.sum_nil, hprompt, hcursor]
  omega

/-- What is typed takes a column for each character, so that there is room for all of the line. -/
theorem length_inputLine_le {room : Nat} (ht : dialogue.Typed) (h : 3 ≤ room) :
    ((inputLine room dialogue.session.input).flatMap Span.cells).length ≤ room := by
  obtain ⟨hsuffix, hle, -⟩ := Text.fittingEnd_spec (room - 3) dialogue.session.input
  have hnarrow : ∀ c ∈ Text.fittingEnd (room - 3) dialogue.session.input,
      c.toNat < 0xAD ∧ c ≠ '\n' := fun c hc => toNat_lt_of_isTypable (ht c (hsuffix.subset hc))
  rw [Text.width_eq_length hnarrow] at hle
  have hprompt : "> ".toList.length = 2 := by decide +kernel
  have hcursor : "_".toList.length = 1 := by decide +kernel
  simp only [inputLine, Span.ofString, Span.cells, List.flatMap_cons, List.flatMap_nil,
    List.length_append, List.length_map, List.length_nil, hprompt, hcursor]
  omega

/-- Of a text the longest end that fits is shown, where the columns of its characters add up, and
the input of a round fits between its prompt and its cursor in this way. No key types a character that
takes other than one column, so the whole line is on the screen, inside the margins. -/
theorem shows_end_of_input :
    (∀ (room : Nat) (text : List Char),
      let shown := Text.fittingEnd room text
      shown <:+ text ∧ Text.width shown ≤ room ∧
        (Text.Additive text → ∀ tail, tail <:+ text → shown.length < tail.length →
          room < Text.width tail)) ∧
    (∀ (dialogue : Dialogue) (width height : Nat), InRound dialogue → 13 ≤ width →
      let line := inputPlace width dialogue.session
      line.spans.map Span.text =
          ["> ".toList, Text.fittingEnd (width - 10 - 3) dialogue.session.input, "_".toList] ∧
        columns line.spans ≤ width - 10 ∧
        ((dialogue.session.pool.size + 9) / 10 + 11 ≤ height →
          (dialogue.screen width height).rows[7 + (dialogue.session.pool.size + 9) / 10]? =
            some (line.fill width) ∧
          (dialogue.Typed → ∃ before after, 5 ≤ before ∧ 5 ≤ after ∧
            line.fill width = List.replicate before .blank ++ line.spans.flatMap Span.cells ++
              List.replicate after .blank))) ∧
    ∀ rules source generator events,
      ((Dialogue.ofSession (.ofRules rules source generator)).takeAll events).Typed := by
  refine ⟨fun room text => ?_, fun dialogue width height hround hw => ?_,
    fun rules source generator events => ?_⟩
  · obtain ⟨hsuffix, hle, -⟩ := Text.fittingEnd_spec room text
    exact ⟨hsuffix, hle, fun h tail htail hlength => Text.lt_width_of_longer h htail hlength⟩
  · intro line
    refine ⟨rfl, columns_inputLine_le (by omega) _, fun hheight => ⟨?_, fun ht => ?_⟩⟩
    · have hline := lineOn?_input dialogue width height
      rw [length_grid] at hline
      rw [show 7 + (dialogue.session.pool.size + 9) / 10 =
        5 + ((dialogue.session.pool.size + 9) / 10 + 2) by omega]
      exact rows_screen hround (by omega) hline
    · have hroom : line.left + line.room ≤ width := by
        simp only [line, inputPlace, place]
        omega
      obtain ⟨before, after, hbefore, hafter, hfill⟩ :=
        line.fill_of_fits hroom (length_inputLine_le ht (by omega))
      refine ⟨before, after, hbefore, ?_, hfill⟩
      simp only [line, inputPlace, place] at hafter
      omega
  · exact Dialogue.typed_takeAll (by simp [Dialogue.Typed, Dialogue.ofSession, Session.ofRules])
      events

/-- A wide character that would take one column too many, and an input of which three characters are
shown. -/
theorem shows_end_of_input_narrow :
    let text := ['1', '2', '漢', '字', 'e', '\u0301']
    let tail := ['漢', '字', 'e', '\u0301']
    let dialogue := (Dialogue.ofSession .twoRounds).takeAll
      (.key (.press .enter) :: Dialogue.typing ['1', '2', '+', '(', '3', '*', '4'])
    Text.Additive text ∧ tail <:+ text ∧ (Text.fittingEnd 4 text).length < tail.length ∧
      4 < Text.width tail ∧
    InRound dialogue ∧ 13 ≤ 16 ∧ columns (inputPlace 16 dialogue.session).spans ≤ 6 ∧
      (dialogue.session.pool.size + 9) / 10 + 11 ≤ 12 ∧ dialogue.Typed ∧
      ∃ before after, 5 ≤ before ∧ 5 ≤ after ∧
        (inputPlace 16 dialogue.session).fill 16 = List.replicate before .blank ++
          (inputPlace 16 dialogue.session).spans.flatMap Span.cells ++
          List.replicate after .blank := by
  intro text tail dialogue
  have hadditive : Text.Additive text := by
    apply Text.additive_of_isLone
    intro c hc
    simp only [text, List.mem_cons, List.not_mem_nil, or_false] at hc
    rcases hc with rfl | rfl | rfl | rfl | rfl | rfl <;> decide +kernel
  have htail : tail <:+ text := ⟨['1', '2'], rfl⟩
  have hlength : (Text.fittingEnd 4 text).length < tail.length := by decide +kernel
  have hround : InRound dialogue := .inl (by decide +kernel)
  have hw : 13 ≤ 16 := by decide
  have hheight : (dialogue.session.pool.size + 9) / 10 + 11 ≤ 12 := by decide +kernel
  obtain ⟨hends, hlines, htyped⟩ := shows_end_of_input
  have ht : dialogue.Typed := htyped _ _ _ _
  obtain ⟨-, hcolumns, hrows⟩ := hlines dialogue 16 12 hround hw
  exact ⟨hadditive, htail, hlength, (hends 4 text).2.2 hadditive tail htail hlength, hround, hw,
    hcolumns, hheight, ht, (hrows hheight).2 ht⟩

end View
end ArithmeticGame
