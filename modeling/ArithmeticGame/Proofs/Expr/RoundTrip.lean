import ArithmeticGame.Proofs.Expr.Grammar
import ArithmeticGame.Proofs.Expr.Scan
/-!
# Infix texts read back

The infix text of a postfix sequence has parentheses around every operation. It is read as a
derivation whose tree is the one the sequence came from, so nothing is lost on the way.
-/
namespace ArithmeticGame

namespace Tree

def parenthesized : Tree → Derivation .factor
  | leaf number => .number number
  | node .add left right =>
    .group (.sum .add Operator.additive_add (.ofTerm (.ofFactor left.parenthesized))
      (.ofFactor right.parenthesized))
  | node .sub left right =>
    .group (.sum .sub Operator.additive_sub (.ofTerm (.ofFactor left.parenthesized))
      (.ofFactor right.parenthesized))
  | node .mul left right =>
    .group (.ofTerm (.product .mul Operator.multiplicative_mul (.ofFactor left.parenthesized)
      right.parenthesized))
  | node .div left right =>
    .group (.ofTerm (.product .div Operator.multiplicative_div (.ofFactor left.parenthesized)
      right.parenthesized))

def infixText : Tree → List Char
  | leaf number => (Token.number number).text
  | node op left right =>
    '(' :: left.infixText ++ ' ' :: op.symbol :: ' ' :: right.infixText ++ [')']

theorem tokens_parenthesized_node (op : Operator) (left right : Tree) :
    (node op left right).parenthesized.tokens =
      .opening :: left.parenthesized.tokens ++ .operator op :: right.parenthesized.tokens ++
        [.closing] := by
  cases op <;> simp [parenthesized, Derivation.tokens]

theorem tree_parenthesized (t : Tree) : t.parenthesized.tree = t := by
  induction t with
  | leaf number => rfl
  | node op left right ihl ihr =>
    cases op <;> simp only [parenthesized, Derivation.tree, ihl, ihr]

theorem parted_parenthesized (t : Tree) : Token.Parted t.parenthesized.tokens := by
  induction t with
  | leaf number => exact List.isChain_singleton _
  | node op left right ihl ihr =>
    rw [tokens_parenthesized_node, List.append_assoc]
    have hright := Token.Parted.around (t := .closing) rfl ihr List.isChain_nil
    have hoperation := Token.Parted.around (t := .operator op) rfl ihl hright
    simpa using Token.Parted.around (t := .opening) rfl List.isChain_nil hoperation

theorem filter_infixText (t : Tree) :
    t.infixText.filter (fun c => !Text.isBlank c) =
      t.parenthesized.tokens.flatMap Token.text := by
  induction t with
  | leaf number =>
    have hd : ∀ c ∈ (Token.number number).text, (!Text.isBlank c) = true := by
      intro c hc
      rw [Token.isBlank_of_mem_text hc]
      rfl
    simpa [infixText, parenthesized, Derivation.tokens] using hd
  | node op left right ihl ihr =>
    have hop : Text.isBlank op.symbol = false := by cases op <;> decide
    have hopening : Text.isBlank '(' = false := by decide
    have hclosing : Text.isBlank ')' = false := by decide
    have hspace : Text.isBlank ' ' = true := by decide
    rw [tokens_parenthesized_node]
    simp [infixText, ihl, ihr, hop, hopening, hclosing, hspace, Token.text]

theorem ofText_infixText (t : Tree) :
    Token.ofText t.infixText = .ok t.parenthesized.tokens :=
  Token.ofText_of_filter _ _ t.filter_infixText t.parted_parenthesized
    t.parenthesized.firstUnary?_tokens

end Tree

namespace Postfix

theorem infixText_postorder (t : Tree) : infixText t.postorder = .ok t.infixText := by
  rw [infixText, Tree.run_postorder]
  induction t with
  | leaf number => rfl
  | node op left right ihl ihr =>
    rw [Tree.evaluate, ihl, ihr]
    rfl

theorem exists_postorder_of_infixText {tokens : List Token} {text : List Char}
    (h : infixText tokens = .ok text) :
    ∃ t : Tree, tokens = t.postorder ∧ text = t.infixText := by
  obtain ⟨t, rfl, -⟩ := Tree.exists_postorder_of_run _ _ h
  rw [infixText_postorder, Except.ok.injEq] at h
  exact ⟨t, rfl, h.symm⟩

/-- The infix text of a postfix sequence is read, its tokens are put back into the sequence, and it
has the value of the sequence or the same fault. -/
theorem infixText_reads_back {tokens : List Token} {text : List Char}
    (h : infixText tokens = .ok text) :
    ∃ read : List Token, Token.ofText text = .ok read ∧ ofTokens read = .ok tokens ∧
      Expr.value text = value tokens := by
  obtain ⟨t, rfl, rfl⟩ := exists_postorder_of_infixText h
  have horder : ofTokens t.parenthesized.tokens = .ok t.postorder := by
    rw [t.parenthesized.orders_tokens.ofTokens, t.tree_parenthesized]
  exact ⟨t.parenthesized.tokens, t.ofText_infixText, horder,
    Expr.value_of_ofTokens t.ofText_infixText t.parenthesized.tokens_ne_nil horder⟩

/-- The greatest word in a sequence without a value. -/
theorem infixText_reads_back_quotient :
    let tokens : List Token :=
      [.number 18446744073709551615, .number 5, .number 5, .operator .sub, .operator .div]
    let text := "(18446744073709551615 / (5 - 5))".toList
    infixText tokens = .ok text ∧
      ∃ read : List Token, Token.ofText text = .ok read ∧ ofTokens read = .ok tokens ∧
        Expr.value text = value tokens := by
  intro tokens text
  have h : infixText tokens = .ok text := rfl
  exact ⟨h, infixText_reads_back h⟩

end Postfix
end ArithmeticGame
