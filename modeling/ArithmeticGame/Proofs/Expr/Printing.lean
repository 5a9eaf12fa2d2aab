import ArithmeticGame.Proofs.Expr.Lexemes
/-!
# Printed tokens

Texts have just those tokens that have no two numbers side by side and no misplaced operator. Such
tokens are read back from their print, wherever blanks are put into it.
-/
namespace ArithmeticGame

namespace Lexeme

variable {marks : List (Char × Nat)} {lexemes : List Lexeme} {tokens : List Token}

theorem map_isNumber_of_spells (h : List.Forall₂ Spells lexemes tokens) :
    tokens.map Token.isNumber = lexemes.map isRun := by
  induction h with
  | nil => rfl
  | cons ht _ ih =>
    rw [List.map_cons, List.map_cons, ih]
    cases ht <;> rfl

theorem Cuts.parted (h : Cuts marks lexemes) (hs : List.Forall₂ Spells lexemes tokens) :
    Token.Parted tokens := by
  have hruns : (lexemes.map isRun).IsChain fun l m => ¬ (l = true ∧ m = true) :=
    List.isChain_map isRun |>.mpr h.apart
  rw [← map_isNumber_of_spells hs] at hruns
  exact List.isChain_map Token.isNumber |>.mp hruns

end Lexeme

namespace Token

variable {text : List Char} {tokens : List Token}

theorem filter_flatMap_text (tokens : List Token) :
    (tokens.flatMap Token.text).filter (fun c => !Text.isBlank c) = tokens.flatMap Token.text := by
  refine List.filter_eq_self.mpr fun c hc => ?_
  obtain ⟨t, -, hc⟩ := List.mem_flatMap.mp hc
  rw [isBlank_of_mem_text hc]
  rfl

theorem parted_and_led_of_ofText (h : ofText text = .ok tokens) : Parted tokens ∧ Led tokens := by
  obtain ⟨hs, hl⟩ := ((ofText_eq_iff text).1 tokens).mp h
  exact ⟨(Lexeme.cuts_ofText text).parted hs, hl⟩

/-- Texts have just the tokens that are parted and led. These are read from any text that is their
print once its blanks are dropped, and so the tokens of a text are read from their own print. -/
theorem reads_back_print :
    (∀ tokens, (∃ text, ofText text = .ok tokens) ↔ Parted tokens ∧ Led tokens) ∧
    (∀ tokens text, Parted tokens → Led tokens →
      text.filter (fun c => !Text.isBlank c) = tokens.flatMap Token.text →
        ofText text = .ok tokens) ∧
    ∀ text tokens, ofText text = .ok tokens → ofText (tokens.flatMap Token.text) = .ok tokens := by
  have hread (tokens : List Token) (text : List Char) (hp : Parted tokens) (hl : Led tokens)
      (ht : text.filter (fun c => !Text.isBlank c) = tokens.flatMap Token.text) :
      ofText text = .ok tokens :=
    ofText_of_filter text tokens ht hp (firstUnary?_of_led hl)
  refine ⟨fun tokens => ⟨?_, ?_⟩, hread, ?_⟩
  · rintro ⟨text, h⟩
    exact parted_and_led_of_ofText h
  · rintro ⟨hp, hl⟩
    exact ⟨_, hread tokens _ hp hl (filter_flatMap_text tokens)⟩
  · intro text tokens h
    obtain ⟨hp, hl⟩ := parted_and_led_of_ofText h
    exact hread tokens _ hp hl (filter_flatMap_text tokens)

/-- The greatest word with blanks in it, subtracted from empty parentheses. -/
theorem reads_back_print_greatest :
    let tokens : List Token :=
      [.number 12, .opening, .closing, .operator .sub, .number 18446744073709551615]
    let text := "1 2( ) - 184467 44073709551615".toList
    Parted tokens ∧ Led tokens ∧
      text.filter (fun c => !Text.isBlank c) = tokens.flatMap Token.text ∧
      ofText text = .ok tokens ∧ ofText (tokens.flatMap Token.text) = .ok tokens := by
  intro tokens text
  have hp : Parted tokens := by decide
  have hl : Led tokens := by decide
  have ht : text.filter (fun c => !Text.isBlank c) = tokens.flatMap Token.text := by decide
  have hread := reads_back_print.2.1 tokens text hp hl ht
  exact ⟨hp, hl, ht, hread, reads_back_print.2.2 text tokens hread⟩

end Token
end ArithmeticGame
