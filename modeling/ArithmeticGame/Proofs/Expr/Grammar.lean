import ArithmeticGame.Expr.Value
import ArithmeticGame.Proofs.Expr.Tree
/-!
# The infix grammar

Derivation trees of `E → T | E (+|-) T`, `T → F | T (*|/) F`, `F → number | ( E )`. The tokens of a
derivation are brought into the post-order of its tree, and its tree gives the value of their text.
-/
namespace ArithmeticGame

namespace Operator

def Additive (op : Operator) : Prop := op = .add ∨ op = .sub

def Multiplicative (op : Operator) : Prop := op = .mul ∨ op = .div

theorem additive_add : Additive .add := .inl rfl

theorem additive_sub : Additive .sub := .inr rfl

theorem multiplicative_mul : Multiplicative .mul := .inl rfl

theorem multiplicative_div : Multiplicative .div := .inr rfl

theorem Additive.precedence_eq {op : Operator} (h : op.Additive) : op.precedence = 1 := by
  rcases h with rfl | rfl <;> rfl

theorem Multiplicative.precedence_eq {op : Operator} (h : op.Multiplicative) :
    op.precedence = 2 := by
  rcases h with rfl | rfl <;> rfl

end Operator

/-- The nonterminals, the weakest binding first. -/
inductive Level where
  | expression
  | term
  | factor

inductive Derivation : Level → Type where
  | ofTerm (t : Derivation .term) : Derivation .expression
  | sum (op : Operator) (additive : op.Additive)
      (e : Derivation .expression) (t : Derivation .term) : Derivation .expression
  | ofFactor (f : Derivation .factor) : Derivation .term
  | product (op : Operator) (multiplicative : op.Multiplicative)
      (t : Derivation .term) (f : Derivation .factor) : Derivation .term
  | number (value : UInt64) : Derivation .factor
  | group (e : Derivation .expression) : Derivation .factor

namespace Derivation

def tokens {l : Level} : Derivation l → List Token
  | ofTerm t => t.tokens
  | sum op _ e t => e.tokens ++ .operator op :: t.tokens
  | ofFactor f => f.tokens
  | product op _ t f => t.tokens ++ .operator op :: f.tokens
  | number value => [.number value]
  | group e => .opening :: e.tokens ++ [.closing]

/-- The derivation with its parentheses erased. -/
def tree {l : Level} : Derivation l → Tree
  | ofTerm t => t.tree
  | sum op _ e t => .node op e.tree t.tree
  | ofFactor f => f.tree
  | product op _ t f => .node op t.tree f.tree
  | number value => .leaf value
  | group e => e.tree

theorem tokens_ne_nil {l : Level} (d : Derivation l) : d.tokens ≠ [] := by
  induction d with
  | ofTerm t ih => exact ih
  | ofFactor f ih => exact ih
  | number value => simp [tokens]
  | _ => simp [tokens]

/-- The unary check passes over a derivation and goes on after the end of an operand, whatever token
stood in front. -/
theorem firstUnary?_tokens_append {l : Level} (d : Derivation l) :
    ∃ last : Token, Token.endsOperand (some last) = true ∧ ∀ before rest,
      Token.firstUnary? before (d.tokens ++ rest) = Token.firstUnary? (some last) rest := by
  induction d with
  | ofTerm t ih => exact ih
  | ofFactor f ih => exact ih
  | number value => exact ⟨.number value, rfl, fun _ _ => rfl⟩
  | group e ih =>
    obtain ⟨last, -, h⟩ := ih
    refine ⟨.closing, rfl, fun before rest => ?_⟩
    simp only [tokens, List.cons_append, List.append_assoc, Token.firstUnary?, h, List.nil_append]
  | sum op _ left right ihl ihr | product op _ left right ihl ihr =>
    obtain ⟨middle, hm, hl⟩ := ihl
    obtain ⟨last, ho, hr⟩ := ihr
    refine ⟨last, ho, fun before rest => ?_⟩
    simp only [tokens, List.cons_append, List.append_assoc, hl, Token.firstUnary?, hm, if_true, hr]

theorem firstUnary?_tokens {l : Level} (d : Derivation l) :
    Token.firstUnary? none d.tokens = none := by
  obtain ⟨last, -, h⟩ := d.firstUnary?_tokens_append
  simpa [Token.firstUnary?] using h none []

end Derivation

namespace Shunting

/-- The output after operators, the first of them first, were sent to it. -/
def flush : List Operator → List Token → List Token
  | [], output => output
  | op :: ops, output => flush ops (.operator op :: output)

/-- No operator on top of those waiting has the precedence or more. -/
def Admits (precedence : Nat) : List Waiting → Prop
  | .operator top :: _ => top.precedence < precedence
  | _ => True

theorem Admits.mono {p q : Nat} (h : p ≤ q) {waiting : List Waiting} (hw : Admits p waiting) :
    Admits q waiting := by
  match waiting, hw with
  | [], _ => trivial
  | .opening :: _, _ => trivial
  | .operator top :: _, hw => exact Nat.lt_of_lt_of_le hw h

theorem flush_append (ops ops' : List Operator) (output : List Token) :
    flush (ops ++ ops') output = flush ops' (flush ops output) := by
  induction ops generalizing output with
  | nil => rfl
  | cons op ops ih => exact ih (.operator op :: output)

/-- An operator sends off the operators above it that bind at least as tightly, and no more. -/
theorem release_pending (op : Operator) (ops : List Operator) (output : List Token)
    (waiting : List Waiting) (h : ∀ o ∈ ops, op.precedence ≤ o.precedence)
    (hw : Admits op.precedence waiting) :
    release op output (ops.map .operator ++ waiting) = ⟨flush ops output, waiting⟩ := by
  induction ops generalizing output with
  | nil =>
    match waiting, hw with
    | [], _ => rfl
    | .opening :: _, _ => rfl
    | .operator top :: _, hw =>
      change top.precedence < op.precedence at hw
      simp only [List.map_nil, List.nil_append, release, hw, if_true, flush]
  | cons o ops ih =>
    have ho : ¬ o.precedence < op.precedence := Nat.not_lt.mpr (h o (by simp))
    simp only [List.map_cons, List.cons_append, release, ho, if_false]
    exact ih _ (fun o' ho' => h o' (by simp [ho']))

theorem close_pending (ops : List Operator) (output : List Token) (waiting : List Waiting) :
    close output (ops.map .operator ++ .opening :: waiting) = .ok ⟨flush ops output, waiting⟩ := by
  induction ops generalizing output with
  | nil => rfl
  | cons op ops ih => exact ih (.operator op :: output)

theorem finish_pending (ops : List Operator) (output : List Token) :
    finish output (ops.map .operator) = .ok (flush ops output).reverse := by
  induction ops generalizing output with
  | nil => rfl
  | cons op ops ih => exact ih (.operator op :: output)

/-- On top of whatever binds more weakly than `precedence`, the tokens leave operators waiting that
bind at least so tightly, and once these are sent off the output has grown by `order`. -/
def Orders (precedence : Nat) (tokens order : List Token) : Prop :=
  ∀ (output : List Token) (waiting : List Waiting), Admits precedence waiting →
    ∃ (output' : List Token) (ops : List Operator),
      tokens.foldlM push ⟨output, waiting⟩ = .ok ⟨output', ops.map .operator ++ waiting⟩ ∧
      flush ops output' = order.reverse ++ output ∧ ∀ op ∈ ops, precedence ≤ op.precedence

theorem Orders.mono {p q : Nat} (h : p ≤ q) {tokens order : List Token}
    (ho : Orders q tokens order) : Orders p tokens order := by
  intro output waiting hw
  obtain ⟨output', ops, hr, hf, hp⟩ := ho output waiting (hw.mono h)
  exact ⟨output', ops, hr, hf, fun op hm => h.trans (hp op hm)⟩

theorem orders_number (p : Nat) (value : UInt64) : Orders p [.number value] [.number value] :=
  fun output _ _ => ⟨.number value :: output, [], rfl, rfl, by simp⟩

theorem Orders.group {p : Nat} (q : Nat) {tokens order : List Token} (ho : Orders p tokens order) :
    Orders q (.opening :: tokens ++ [.closing]) order := by
  intro output waiting _
  obtain ⟨output', ops, hr, hf, -⟩ := ho output (.opening :: waiting) trivial
  refine ⟨flush ops output', [], ?_, hf, by simp⟩
  simp only [List.cons_append, List.foldlM_cons, List.foldlM_append, push, bind, Except.bind, hr,
    close_pending]
  rfl

/-- An operator keeps its left operand together and lets its right one bind more tightly. -/
theorem Orders.operation (op : Operator) {left right order order' : List Token}
    (hl : Orders op.precedence left order) (hr : Orders (op.precedence + 1) right order') :
    Orders op.precedence (left ++ .operator op :: right) (order ++ order' ++ [.operator op]) := by
  intro output waiting hw
  obtain ⟨out, ops, hleft, hf, hp⟩ := hl output waiting hw
  obtain ⟨out', ops', hright, hf', hp'⟩ :=
    hr (flush ops out) (.operator op :: waiting) (Nat.lt_succ_self op.precedence)
  have hrelease := release_pending op ops out waiting hp hw
  refine ⟨out', ops' ++ [op], ?_, ?_, ?_⟩
  · simp only [List.foldlM_append, List.foldlM_cons, hleft, bind, Except.bind, push, hrelease,
      hright, List.map_append, List.append_assoc]
    rfl
  · rw [flush_append, hf', hf]
    simp [flush]
  · intro o ho
    rcases List.mem_append.mp ho with ho | ho
    · exact Nat.le_of_succ_le (hp' o ho)
    · rw [List.mem_singleton.mp ho]

theorem Orders.ofTokens {p : Nat} {tokens order : List Token} (h : Orders p tokens order) :
    Postfix.ofTokens tokens = .ok order := by
  obtain ⟨output, ops, hr, hf, -⟩ := h [] [] trivial
  rw [List.append_nil] at hr hf
  rw [Postfix.ofTokens, hr]
  change finish output (ops.map .operator) = _
  rw [finish_pending, hf, List.reverse_reverse]

end Shunting

def Level.precedence : Level → Nat
  | expression => 1
  | term => 2
  | factor => 3

namespace Derivation

theorem orders_tokens {l : Level} (d : Derivation l) :
    Shunting.Orders l.precedence d.tokens d.tree.postorder := by
  induction d with
  | ofTerm t ih => exact ih.mono (by decide)
  | ofFactor f ih => exact ih.mono (by decide)
  | number value => exact Shunting.orders_number 3 value
  | group e ih => exact ih.group 3
  | sum op additive e t ihe iht =>
    have hop : op.precedence = Level.expression.precedence := additive.precedence_eq
    have ht : Shunting.Orders (op.precedence + 1) t.tokens t.tree.postorder := by
      rw [hop]
      exact iht
    rw [← hop] at ihe ⊢
    exact ihe.operation op ht
  | product op multiplicative t f iht ihf =>
    have hop : op.precedence = Level.term.precedence := multiplicative.precedence_eq
    have hf : Shunting.Orders (op.precedence + 1) f.tokens f.tree.postorder := by
      rw [hop]
      exact ihf
    rw [← hop] at iht ⊢
    exact iht.operation op hf

end Derivation

theorem Expr.value_of_ofText {text : List Char} {tokens : List Token}
    (ht : Token.ofText text = .ok tokens) (hne : tokens ≠ []) :
    Expr.value text = Postfix.ofTokens tokens >>= Postfix.value := by
  have hempty : tokens.isEmpty = false := by simpa using hne
  simp only [Expr.value, ht, hempty, bind, Except.bind, Bool.false_eq_true, if_false]

theorem Expr.value_of_ofTokens {text : List Char} {tokens order : List Token}
    (ht : Token.ofText text = .ok tokens) (hne : tokens ≠ [])
    (ho : Postfix.ofTokens tokens = .ok order) : Expr.value text = Postfix.value order := by
  rw [Expr.value_of_ofText ht hne, ho]
  rfl

theorem Expr.exists_order_of_value {text : List Char} {v : Float} (hv : Expr.value text = .ok v) :
    ∃ tokens order, Token.ofText text = .ok tokens ∧ Postfix.ofTokens tokens = .ok order ∧
      Postfix.value order = .ok v := by
  obtain ⟨tokens, ht, htokens⟩ := exists_of_bind_eq_ok hv
  split at htokens
  · cases htokens
  · obtain ⟨order, ho, horder⟩ := exists_of_bind_eq_ok htokens
    exact ⟨tokens, order, ht, ho, horder⟩

/-- The tokens of a derivation pass the unary check, their postfix order is the post-order of its
tree, and a text with these tokens has the value of the tree, or a fault if a value on the way is
not finite. -/
theorem Derivation.reads_as_tree (d : Derivation .expression) :
    Token.firstUnary? none d.tokens = none ∧
    Postfix.ofTokens d.tokens = .ok d.tree.postorder ∧
    ∀ text : List Char, Token.ofText text = .ok d.tokens →
      ((∀ s ∈ d.tree.subtrees, s.value.isFinite = true) → Expr.value text = .ok d.tree.value) ∧
      ((∃ s ∈ d.tree.subtrees, s.value.isFinite = false) →
        Expr.value text = .error .notFinite) := by
  have horder := d.orders_tokens.ofTokens
  refine ⟨d.firstUnary?_tokens, horder, fun text ht => ?_⟩
  have hvalue := (Expr.value_of_ofTokens ht d.tokens_ne_nil horder).trans d.tree.value_postorder
  constructor
  · intro hf
    rw [hvalue]
    exact if_pos hf
  · rintro ⟨s, hs, hf⟩
    have hn : ¬ d.tree.AllFinite := fun h => by simp [h s hs] at hf
    rw [hvalue, if_neg hn]

/-- The derivation of `8 / (5 - n)`. -/
def Derivation.quotient (n : UInt64) : Derivation .expression :=
  .ofTerm (.product .div Operator.multiplicative_div (.ofFactor (.number 8))
    (.group (.sum .sub Operator.additive_sub (.ofTerm (.ofFactor (.number 5)))
      (.ofFactor (.number n)))))

theorem Derivation.reads_as_tree_quotient :
    Token.ofText "8/(5-3)".toList = .ok (quotient 3).tokens ∧
      Expr.value "8/(5-3)".toList = .ok 4.0 ∧
      Token.ofText "8/(5 - 5)".toList = .ok (quotient 5).tokens ∧
      Expr.value "8/(5 - 5)".toList = .error .notFinite := by
  have ht : Token.ofText "8/(5-3)".toList = .ok (quotient 3).tokens := rfl
  have ht' : Token.ofText "8/(5 - 5)".toList = .ok (quotient 5).tokens := rfl
  have hf : ∀ s ∈ (quotient 3).tree.subtrees, s.value.isFinite = true := by decide +kernel
  have hf' : ∃ s ∈ (quotient 5).tree.subtrees, s.value.isFinite = false := by decide +kernel
  have hv : (quotient 3).tree.value = 4.0 := by decide +kernel
  exact ⟨ht, hv ▸ ((Derivation.reads_as_tree (quotient 3)).2.2 _ ht).1 hf, ht',
    ((Derivation.reads_as_tree (quotient 5)).2.2 _ ht').2 hf'⟩

end ArithmeticGame
