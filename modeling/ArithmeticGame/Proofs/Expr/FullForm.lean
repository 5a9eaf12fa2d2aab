import ArithmeticGame.Proofs.Expr.Order
import ArithmeticGame.Proofs.Expr.RoundTrip
import ArithmeticGame.Proofs.Pool.Rules
/-!
# The full form

Every text with a value has a full form, whether or not its tokens are a sentence of the grammar.
The full form has the value and the numbers of the text, so that the pool judges both alike, and it
is its own full form.
-/
namespace ArithmeticGame

theorem Tree.ofTokens_parenthesized (t : Tree) :
    Postfix.ofTokens t.parenthesized.tokens = .ok t.postorder := by
  rw [t.parenthesized.orders_tokens.ofTokens, t.tree_parenthesized]

namespace Expr

theorem exists_tree_of_value {text : List Char} {v : Float} (hv : value text = .ok v) :
    ∃ tokens, ∃ t : Tree, Token.ofText text = .ok tokens ∧
      Postfix.ofTokens tokens = .ok t.postorder ∧ Postfix.value t.postorder = .ok v := by
  obtain ⟨tokens, order, ht, ho, hvalue⟩ := exists_order_of_value hv
  obtain ⟨t, rfl, -⟩ := Tree.exists_postorder_of_run _ _ hvalue
  exact ⟨tokens, t, ht, ho, hvalue⟩

variable {text : List Char} {tokens : List Token} {t : Tree}

theorem fullForm?_of_ofTokens (ht : Token.ofText text = .ok tokens)
    (ho : Postfix.ofTokens tokens = .ok t.postorder) : fullForm? text = .ok t.infixText := by
  have hform := Postfix.infixText_postorder t
  simp only [fullForm?, ht, ho, hform, bind, Except.bind]

theorem fullForm_of_fullForm? {form : List Char} (h : fullForm? text = .ok form) :
    fullForm text = form := by
  rw [fullForm, h]

theorem value_infixText (t : Tree) : value t.infixText = Postfix.value t.postorder :=
  value_of_ofTokens t.ofText_infixText t.parenthesized.tokens_ne_nil t.ofTokens_parenthesized

theorem numbers_parenthesized (ho : Postfix.ofTokens tokens = .ok t.postorder) :
    Token.numbers t.parenthesized.tokens = Token.numbers tokens := by
  have hform := (Postfix.numbers_operators_ofTokens t.ofTokens_parenthesized).1
  have htext := (Postfix.numbers_operators_ofTokens ho).1
  rw [← hform, htext]

theorem acceptText_eq_of_numbers {form : List Char} {tokens' : List Token}
    (ht : Token.ofText text = .ok tokens) (ht' : Token.ofText form = .ok tokens')
    (hn : Token.numbers tokens' = Token.numbers tokens) (p : Pool) :
    p.acceptText form = p.acceptText text := by
  rw [Pool.acceptText_of_ofText ht, Pool.acceptText_of_ofText ht', hn]

/-- A text with a value has a full form with the same value and the same numbers. It keeps the same
rules of every pool, and its full form is itself. -/
theorem fullForm_keeps {v : Float} (hv : value text = .ok v) :
    ∃ form, fullForm? text = .ok form ∧ fullForm text = form ∧ value form = .ok v ∧
      (∃ tokens tokens', Token.ofText text = .ok tokens ∧ Token.ofText form = .ok tokens' ∧
        Token.numbers tokens' = Token.numbers tokens) ∧
      (∀ p : Pool, p.acceptText form = p.acceptText text) ∧
      fullForm? form = .ok form ∧ fullForm form = form := by
  obtain ⟨tokens, t, ht, ho, hvalue⟩ := exists_tree_of_value hv
  have hform := fullForm?_of_ofTokens ht ho
  have hself := fullForm?_of_ofTokens t.ofText_infixText t.ofTokens_parenthesized
  have hnumbers := numbers_parenthesized ho
  have htokens := t.ofText_infixText
  refine ⟨t.infixText, hform, fullForm_of_fullForm? hform, ?_, ?_, ?_, hself,
    fullForm_of_fullForm? hself⟩
  · rw [value_infixText, hvalue]
  · exact ⟨tokens, _, ht, htokens, hnumbers⟩
  · exact acceptText_eq_of_numbers ht htokens hnumbers

/-- A juxtaposition, whose operator comes last. -/
theorem fullForm_keeps_juxtaposed :
    let text := "2(3)+".toList
    let form := "(2 + 3)".toList
    value text = .ok 5.0 ∧ fullForm? text = .ok form ∧ value form = .ok 5.0 ∧
      (∀ p : Pool, p.acceptText form = p.acceptText text) ∧ fullForm form = form := by
  intro text form
  have hv : value text = .ok 5.0 := by decide +kernel
  have hform : fullForm? text = .ok form := rfl
  obtain ⟨form', hform', -, hvalue, -, hpool, -, hself⟩ := fullForm_keeps hv
  obtain rfl : form = form' := Except.ok.inj (hform.symm.trans hform')
  exact ⟨hv, hform, hvalue, hpool, hself⟩

end Expr
end ArithmeticGame
