import ArithmeticGame.Proofs.Binary64.Arithmetic
import ArithmeticGame.Proofs.Expr.Order
/-!
# Expressions in exact integers

Sums, differences and products of numbers have a value in exact integers besides the one in floating
point. Unless a subtree goes beyond `2 ^ 53` the two are the same.
-/
namespace ArithmeticGame

namespace Token

theorem mem_operators {op : Operator} {tokens : List Token} :
    op ∈ operators tokens ↔ operator op ∈ tokens := by
  induction tokens with
  | nil => simp [operators]
  | cons t tokens ih => cases t <;> simp [operators, ih]

end Token

namespace Operator

/-- What an operator makes of integers. Quotients are in general none, and have no part in this. -/
def exact : Operator → Int → Int → Int
  | add, a, b => a + b
  | sub, a, b => a - b
  | mul, a, b => a * b
  | div, _, _ => 0

theorem toInt?_apply {op : Operator} (hop : op ≠ .div) {x y : Float} {a b : Int}
    (hx : Binary64.toInt? x = some a) (hy : Binary64.toInt? y = some b)
    (hn : (op.exact a b).natAbs ≤ 2 ^ 53) :
    Binary64.toInt? (op.apply x y) = some (op.exact a b) := by
  cases op with
  | add => exact Binary64.toInt?_add hx hy hn
  | sub => exact Binary64.toInt?_sub hx hy hn
  | mul => exact Binary64.toInt?_mul hx hy hn
  | div => exact absurd rfl hop

end Operator

namespace Tree

/-- The value of a tree without divisions in exact integers. -/
def exact : Tree → Int
  | leaf number => number.toNat
  | node op left right => op.exact left.exact right.exact

theorem toInt?_value {t : Tree} (hdiv : .div ∉ Token.operators t.postorder)
    (hsmall : ∀ u ∈ t.subtrees, u.exact.natAbs ≤ 2 ^ 53) :
    t.AllFinite ∧ Binary64.toInt? t.value = some t.exact := by
  induction t with
  | leaf number =>
    have hnumber : number.toNat ≤ 2 ^ 53 := hsmall (leaf number) (by simp [subtrees])
    exact ⟨allFinite_leaf number, Binary64.toInt?_toFloat hnumber⟩
  | node op left right ihl ihr =>
    simp only [postorder, Token.operators_append, Token.operators, List.mem_append,
      List.mem_singleton, not_or] at hdiv
    simp only [subtrees, List.mem_append, List.mem_singleton] at hsmall
    obtain ⟨hl, hleft⟩ := ihl hdiv.1.1 (fun u hu => hsmall u (.inl (.inl hu)))
    obtain ⟨hr, hright⟩ := ihr hdiv.1.2 (fun u hu => hsmall u (.inl (.inr hu)))
    have hvalue := Operator.toInt?_apply (Ne.symm hdiv.2) hleft hright (hsmall _ (.inr rfl))
    exact ⟨(allFinite_node ..).2 ⟨hl, hr, Binary64.isFinite_of_toInt? hvalue⟩, hvalue⟩

end Tree

theorem Derivation.exists_value {d : Derivation .expression} {text : List Char}
    (ht : Token.ofText text = .ok d.tokens) (hdiv : .operator .div ∉ d.tokens)
    (hsmall : ∀ t ∈ d.tree.subtrees, t.exact.natAbs ≤ 2 ^ 53) :
    ∃ v, Expr.value text = .ok v ∧ Binary64.toInt? v = some d.tree.exact := by
  have horder := d.orders_tokens.ofTokens
  have hoperators := (Postfix.numbers_operators_ofTokens horder).2
  have hdiv' : .div ∉ Token.operators d.tree.postorder := by
    rwa [hoperators.mem_iff, Token.mem_operators]
  obtain ⟨hfinite, hvalue⟩ := Tree.toInt?_value hdiv' hsmall
  refine ⟨d.tree.value, ?_, hvalue⟩
  rw [Expr.value_of_ofTokens ht d.tokens_ne_nil horder, d.tree.value_postorder, if_pos hfinite]

end ArithmeticGame
