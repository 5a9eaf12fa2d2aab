import ArithmeticGame.Expr.Postfix
import ArithmeticGame.Proofs.Binary64.Exact
import ArithmeticGame.Proofs.Result
/-!
# Expression trees

Numbers joined by operators, without parentheses. A stack machine that runs the post-order of a tree
leaves the value of the tree on its stack, and runs through no sequence that is not a post-order.
-/
namespace ArithmeticGame

inductive Tree where
  | leaf (number : UInt64)
  | node (op : Operator) (left right : Tree)
deriving DecidableEq

namespace Tree

def postorder : Tree → List Token
  | leaf number => [.number number]
  | node op left right => left.postorder ++ right.postorder ++ [.operator op]

/-- The trees that a tree is made of, itself included. -/
def subtrees : Tree → List Tree
  | leaf number => [leaf number]
  | node op left right => left.subtrees ++ right.subtrees ++ [node op left right]

theorem mem_subtrees_self (t : Tree) : t ∈ t.subtrees := by
  cases t <;> simp [subtrees]

/-- What a stack machine makes of a tree, the left operand coming first. -/
def evaluate {α : Type} (number : UInt64 → α)
    (combine : Operator → α → α → Except ExprFault α) : Tree → Except ExprFault α
  | leaf n => .ok (number n)
  | node op left right => do
    combine op (← left.evaluate number combine) (← right.evaluate number combine)

variable {α : Type} (number : UInt64 → α) (combine : Operator → α → α → Except ExprFault α)

private theorem run_number (n : UInt64) (stack : List α) (rest : List Token) :
    Postfix.run number combine stack (.number n :: rest) =
      Postfix.run number combine (number n :: stack) rest := by
  rw [Postfix.run]

theorem run_postorder_append (t : Tree) (stack : List α) (rest : List Token) :
    Postfix.run number combine stack (t.postorder ++ rest) =
      t.evaluate number combine >>= fun x => Postfix.run number combine (x :: stack) rest := by
  induction t generalizing stack rest with
  | leaf n => exact run_number number combine n stack rest
  | node op left right ihl ihr =>
    simp only [postorder, List.append_assoc, List.singleton_append, evaluate, bind_assoc, ihl, ihr]
    rfl

theorem run_postorder (t : Tree) :
    Postfix.run number combine [] t.postorder = t.evaluate number combine := by
  have h := run_postorder_append number combine t [] []
  rw [List.append_nil] at h
  rw [h]
  cases t.evaluate number combine <;> rfl

/-- The post-orders of trees on a stack, the topmost tree last. -/
def forest : List Tree → List Token
  | [] => []
  | t :: ts => forest ts ++ t.postorder

/-- A stack that holds what trees come to, and tokens that a run from it gets through, are together
the post-order of one tree. -/
theorem exists_postorder_of_run_forest (ts : List Tree) (stack : List α) (tokens : List Token)
    (x : α) (hs : List.Forall₂ (fun t y => t.evaluate number combine = .ok y) ts stack)
    (h : Postfix.run number combine stack tokens = .ok x) :
    ∃ t : Tree, forest ts ++ tokens = t.postorder ∧ t.evaluate number combine = .ok x := by
  induction tokens generalizing ts stack with
  | nil =>
    cases hs with
    | nil => simp [Postfix.run] at h
    | @cons t y ts stack ht hs =>
      cases hs with
      | nil =>
        simp only [Postfix.run, Except.ok.injEq] at h
        exact ⟨t, by simp [forest], h ▸ ht⟩
      | cons _ _ => simp [Postfix.run] at h
  | cons token tokens ih =>
    cases token with
    | number n =>
      rw [run_number] at h
      obtain ⟨t, ht, hx⟩ := ih (leaf n :: ts) (number n :: stack) (.cons rfl hs) h
      exact ⟨t, by simpa [forest, postorder] using ht, hx⟩
    | operator op =>
      rcases hs with _ | @⟨right, b, _, _, hr, _ | @⟨left, a, ts, stack, hl, hs⟩⟩
      · simp [Postfix.run] at h
      · simp [Postfix.run] at h
      · rw [Postfix.run] at h
        obtain ⟨y, hy, h⟩ := exists_of_bind_eq_ok h
        have he : (node op left right).evaluate number combine = .ok y := by
          simp [evaluate, hl, hr, hy, bind, Except.bind]
        obtain ⟨t, ht, hx⟩ := ih (node op left right :: ts) (y :: stack) (.cons he hs) h
        exact ⟨t, by simpa [forest, postorder] using ht, hx⟩
    | opening => simp [Postfix.run] at h
    | closing => simp [Postfix.run] at h

theorem exists_postorder_of_run {tokens : List Token} {x : α}
    (h : Postfix.run number combine [] tokens = .ok x) :
    ∃ t : Tree, tokens = t.postorder ∧ t.evaluate number combine = .ok x :=
  exists_postorder_of_run_forest number combine [] [] tokens x .nil h

/-- The value of a tree, whether the values of its subtrees are finite or not. -/
def value : Tree → Float
  | leaf number => number.toFloat
  | node op left right => op.apply left.value right.value

/-- All subtrees have finite values. -/
def AllFinite (t : Tree) : Prop := ∀ s ∈ t.subtrees, s.value.isFinite = true

instance (t : Tree) : Decidable t.AllFinite :=
  inferInstanceAs (Decidable (∀ s ∈ t.subtrees, s.value.isFinite = true))

theorem allFinite_leaf (number : UInt64) : (leaf number).AllFinite := by
  intro s hs
  rw [List.mem_singleton.mp hs]
  exact Binary64.isFinite_toFloat number

theorem allFinite_node (op : Operator) (left right : Tree) :
    (node op left right).AllFinite ↔
      left.AllFinite ∧ right.AllFinite ∧ (op.apply left.value right.value).isFinite = true := by
  simp only [AllFinite, subtrees, List.mem_append, List.mem_singleton]
  constructor
  · intro h
    exact ⟨fun s hs => h s (.inl (.inl hs)), fun s hs => h s (.inl (.inr hs)),
      h (node op left right) (.inr rfl)⟩
  · rintro ⟨hl, hr, hn⟩ s ((hs | hs) | rfl)
    · exact hl s hs
    · exact hr s hs
    · exact hn

theorem value_postorder (t : Tree) :
    Postfix.value t.postorder = if t.AllFinite then .ok t.value else .error .notFinite := by
  rw [Postfix.value, run_postorder]
  induction t with
  | leaf number => rw [if_pos (allFinite_leaf number), evaluate, value]
  | node op left right ihl ihr =>
    rw [evaluate, ihl, ihr, value]
    simp only [allFinite_node]
    by_cases hl : left.AllFinite
    · by_cases hr : right.AllFinite
      · simp only [hl, hr, if_true, true_and, bind, Except.bind]
      · simp only [hl, hr, if_true, if_false, false_and, and_false, bind, Except.bind]
    · simp only [hl, if_false, false_and, bind, Except.bind]

end Tree
end ArithmeticGame
