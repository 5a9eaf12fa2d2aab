import ArithmeticGame.Proofs.Expr.Order
/-!
# Which texts have a value

No part of the evaluation looks at the grammar. A text whose operands are set apart still has a
value only if it is a sentence with finite values: an operator without a right operand leaves a
number too few for the stack machine, wherever in the text it stands, and so do parentheses with
nothing in them.
-/
namespace ArithmeticGame

namespace Token

def beginsOperand : Token → Bool
  | number _ | opening => true
  | _ => false

/-- An operand directly after an operand. -/
def Juxtaposed (t u : Token) : Prop := endsOperand (some t) = true ∧ u.beginsOperand = true

instance (t u : Token) : Decidable (Juxtaposed t u) :=
  inferInstanceAs (Decidable (endsOperand (some t) = true ∧ u.beginsOperand = true))

/-- No operands stand side by side. -/
def Separated (tokens : List Token) : Prop := tokens.IsChain fun t u => ¬ Juxtaposed t u

instance (tokens : List Token) : Decidable (Separated tokens) :=
  inferInstanceAs (Decidable (tokens.IsChain fun t u => ¬ Juxtaposed t u))

/-- An operator stands at the end or directly before a closing parenthesis. -/
def Dangling (tokens : List Token) : Prop :=
  ∃ before op after, tokens = before ++ .operator op :: after ∧
    (after = [] ∨ ∃ rest, after = .closing :: rest)

theorem exists_juxtaposed_of_not_separated {tokens : List Token} (h : ¬ Separated tokens) :
    ∃ before t u after, tokens = before ++ t :: u :: after ∧ Juxtaposed t u := by
  rw [Separated, List.isChain_iff_forall_rel_of_append_cons_cons] at h
  push Not at h
  obtain ⟨t, u, before, after, htokens, htu⟩ := h
  exact ⟨before, t, u, after, htokens, htu⟩

theorem Separated.tail {before : Option Token} {t : Token} {tokens : List Token}
    (h : Separated (before.toList ++ t :: tokens)) : Separated ((some t).toList ++ tokens) := by
  cases before with
  | none => exact h
  | some b => exact (List.isChain_cons_cons.mp h).2

theorem Separated.not_endsOperand {before : Option Token} {t : Token} {tokens : List Token}
    (h : Separated (before.toList ++ t :: tokens)) (ht : t.beginsOperand = true) :
    endsOperand before = false := by
  cases before with
  | none => rfl
  | some b =>
    have hb : ¬ Juxtaposed b t := (List.isChain_cons_cons.mp h).1
    simpa [Juxtaposed, ht] using hb

theorem firstUnary?_tail {before : Option Token} {t : Token} {tokens : List Token}
    (h : firstUnary? before (t :: tokens) = none) : firstUnary? (some t) tokens = none := by
  cases t with
  | operator op =>
    rw [firstUnary?] at h
    split at h
    · exact h
    · cases h
  | _ => exact h

theorem endsOperand_of_firstUnary? {before : Option Token} {op : Operator} {tokens : List Token}
    (h : firstUnary? before (operator op :: tokens) = none) : endsOperand before = true := by
  by_contra hb
  simp [firstUnary?, hb] at h

/-- Operands that are set apart have at most one number more than there are operators, and none
more after the end of an operand. -/
theorem numbers_le_operators {before : Option Token} {tokens : List Token}
    (hu : firstUnary? before tokens = none) (hs : Separated (before.toList ++ tokens)) :
    (numbers tokens).length ≤
      (operators tokens).length + (if endsOperand before then 0 else 1) := by
  induction tokens generalizing before with
  | nil => simp [numbers]
  | cons t tokens ih =>
    have hrest := ih (firstUnary?_tail hu) hs.tail
    -- a number may stand only where no operand ends, and only an operator makes another such place
    cases t with
    | number value =>
      simp only [endsOperand_number, if_true] at hrest
      simp only [numbers, operators, hs.not_endsOperand rfl, List.length_cons, Bool.false_eq_true,
        if_false]
      omega
    | operator op =>
      simp only [endsOperand_operator, Bool.false_eq_true, if_false] at hrest
      simp only [numbers, operators, endsOperand_of_firstUnary? hu, List.length_cons, if_true]
      omega
    | opening =>
      simp only [endsOperand_opening, Bool.false_eq_true, if_false] at hrest
      simpa only [numbers, operators, hs.not_endsOperand rfl, Bool.false_eq_true, if_false]
        using hrest
    | closing =>
      simp only [endsOperand_closing, if_true] at hrest
      simp only [numbers, operators]
      omega

theorem firstUnary?_left {before : Option Token} {front rest : List Token}
    (h : firstUnary? before (front ++ rest) = none) : firstUnary? before front = none := by
  induction front generalizing before with
  | nil => rfl
  | cons t front ih =>
    have hfront := ih (firstUnary?_tail h)
    cases t with
    | operator op =>
      rw [firstUnary?, if_pos (endsOperand_of_firstUnary? h)]
      exact hfront
    | _ => exact hfront

theorem firstUnary?_right {before : Option Token} {front rest : List Token} {t : Token}
    (h : firstUnary? before (front ++ t :: rest) = none) : firstUnary? (some t) rest = none := by
  induction front generalizing before with
  | nil => exact firstUnary?_tail h
  | cons u front ih => exact ih (firstUnary?_tail h)

/-- An operator without a right operand leaves a number too few, and a parenthesis that is closed
after it cannot make up for that later. -/
theorem not_dangling {tokens : List Token} (hu : firstUnary? none tokens = none)
    (hs : Separated tokens) (hcount : (numbers tokens).length = (operators tokens).length + 1) :
    ¬ Dangling tokens := by
  rintro ⟨before, op, after, rfl, hafter⟩
  have hfront : firstUnary? none before = none := firstUnary?_left hu
  have hbefore := numbers_le_operators hfront hs.left_of_append
  have hle : (numbers after).length ≤ (operators after).length := by
    rcases hafter with rfl | ⟨rest, rfl⟩
    · simp [numbers]
    · have hrest := firstUnary?_tail (firstUnary?_right hu)
      have hclosing : Separated (.closing :: rest) := (List.IsChain.right_of_append hs).tail
      simpa [numbers, operators] using numbers_le_operators hrest hclosing
  simp only [numbers_append, operators_append, numbers, operators, List.length_append,
    List.length_cons] at hcount
  simp only [endsOperand_none, Bool.false_eq_true, if_false] at hbefore
  omega

end Token

namespace Derivation

theorem exists_extend (e : Derivation .expression) (op : Operator) (f : Derivation .factor) :
    ∃ e' : Derivation .expression, e'.tokens = e.tokens ++ .operator op :: f.tokens := by
  have hop : op.Additive ∨ op.Multiplicative := by
    cases op <;> simp [Operator.Additive, Operator.Multiplicative]
  rcases hop with hop | hop
  · exact ⟨.sum op hop e (.ofFactor f), rfl⟩
  · -- the last term takes the operand
    cases e with
    | ofTerm t => exact ⟨.ofTerm (.product op hop t f), rfl⟩
    | sum op' hop' e t => exact ⟨.sum op' hop' e (.product op hop t f), by simp [tokens]⟩

end Derivation

/-- What stands before an operand at one level of parentheses. -/
abbrev Lead := Option (Derivation .expression × Operator)

namespace Lead

def tokens : Lead → List Token
  | none => []
  | some (e, op) => e.tokens ++ [.operator op]

theorem exists_fill (l : Lead) (f : Derivation .factor) :
    ∃ e : Derivation .expression, e.tokens = l.tokens ++ f.tokens := by
  match l with
  | none => exact ⟨.ofTerm (.ofFactor f), rfl⟩
  | some (e, op) =>
    obtain ⟨e', he'⟩ := e.exists_extend op f
    exact ⟨e', by simp [he', tokens]⟩

/-- The tokens up to the innermost open parenthesis, the innermost level first. -/
def opened : List Lead → List Token
  | [] => []
  | l :: outer => opened outer ++ l.tokens ++ [.opening]

end Lead

open Token in
/-- Tokens that are set apart and close all parentheses complete what came before them to a
sentence, if they have one number more than operators where an operand is due, and equally many
after an operand. -/
theorem exists_sentence (before : Option Token) (outer : List Lead) (rest : List Token)
    (hu : firstUnary? before rest = none) (hs : Separated (before.toList ++ rest))
    (hc : Closes outer.length rest) :
    (∀ l : Lead, endsOperand before = false →
      (numbers rest).length = (operators rest).length + 1 →
      ∃ d : Derivation .expression, d.tokens = Lead.opened outer ++ l.tokens ++ rest) ∧
    (∀ e : Derivation .expression, endsOperand before = true →
      (numbers rest).length = (operators rest).length →
      ∃ d : Derivation .expression, d.tokens = Lead.opened outer ++ e.tokens ++ rest) := by
  induction rest generalizing before outer with
  | nil =>
    constructor
    · intro l _ hcount
      cases hcount
    · intro e _ _
      obtain rfl : outer = [] := List.eq_nil_of_length_eq_zero hc
      exact ⟨e, by simp [Lead.opened]⟩
  | cons t rest ih =>
    have hu' := firstUnary?_tail hu
    have hs' := hs.tail
    cases t with
    | number value =>
      have hb := hs.not_endsOperand rfl
      constructor
      · intro l _ hcount
        obtain ⟨e, he⟩ := l.exists_fill (.number value)
        have hcount' : (numbers rest).length = (operators rest).length := by
          simpa [numbers, operators] using hcount
        obtain ⟨d, hd⟩ := (ih _ outer hu' hs' hc).2 e rfl hcount'
        exact ⟨d, by simp [hd, he, Derivation.tokens]⟩
      · intro _ hb'
        simp [hb] at hb'
    | operator op =>
      have hb := endsOperand_of_firstUnary? hu
      constructor
      · intro _ hb'
        simp [hb] at hb'
      · intro e _ hcount
        obtain ⟨d, hd⟩ := (ih _ outer hu' hs' hc).1 (some (e, op)) rfl hcount
        exact ⟨d, by simp [hd, Lead.tokens]⟩
    | opening =>
      have hb := hs.not_endsOperand rfl
      constructor
      · intro l _ hcount
        obtain ⟨d, hd⟩ := (ih _ (l :: outer) hu' hs' hc).1 none rfl hcount
        exact ⟨d, by simp [hd, Lead.opened, Lead.tokens]⟩
      · intro _ hb'
        simp [hb] at hb'
    | closing =>
      constructor
      · -- nothing later can make up for the operand that is missing here
        intro l _ hcount
        have hle := numbers_le_operators hu' hs'
        simp only [numbers, operators] at hcount
        simp only [endsOperand_closing, if_true] at hle
        omega
      · intro e _ hcount
        cases outer with
        | nil => cases hc
        | cons l outer =>
          -- the group is the operand that the level around it was waiting for
          obtain ⟨e', he'⟩ := l.exists_fill (.group e)
          obtain ⟨d, hd⟩ := (ih _ outer hu' hs' hc).2 e' rfl hcount
          exact ⟨d, by simp [hd, he', Lead.opened, Derivation.tokens]⟩

theorem Tree.length_numbers_postorder (t : Tree) :
    (Token.numbers t.postorder).length = (Token.operators t.postorder).length + 1 := by
  induction t with
  | leaf number => rfl
  | node op left right ihl ihr =>
    simp only [postorder, Token.numbers_append, Token.operators_append, List.length_append, ihl,
      ihr, Token.numbers, Token.operators, List.length_nil, List.length_singleton]
    omega

namespace Token

theorem firstUnary?_of_ofText {text : List Char} {tokens : List Token}
    (h : ofText text = .ok tokens) : firstUnary? none tokens = none := by
  obtain ⟨scanned, -, hchecked⟩ := exists_of_bind_eq_ok h
  cases hu : firstUnary? none scanned with
  | some op =>
    rw [hu] at hchecked
    cases hchecked
  | none =>
    rw [hu] at hchecked
    exact Except.ok.inj hchecked ▸ hu

end Token

/-- The derivation of `2 * (3 + 4)`. -/
def Derivation.doubleSum : Derivation .expression :=
  .ofTerm (.product .mul Operator.multiplicative_mul (.ofFactor (.number 2))
    (.group (.sum .add Operator.additive_add (.ofTerm (.ofFactor (.number 3)))
      (.ofFactor (.number 4)))))

namespace Expr

theorem closes_of_value {text : List Char} {tokens : List Token} {v : Float}
    (ht : Token.ofText text = .ok tokens) (hv : value text = .ok v) :
    Token.Closes 0 tokens ∧
      (Token.numbers tokens).length = (Token.operators tokens).length + 1 := by
  obtain ⟨tokens', order, ht', ho, horder⟩ := exists_order_of_value hv
  obtain rfl : tokens = tokens' := Except.ok.inj (ht.symm.trans ht')
  obtain ⟨hnumbers, hoperators⟩ := Postfix.numbers_operators_ofTokens ho
  obtain ⟨t, rfl, -⟩ := Tree.exists_postorder_of_run _ _ horder
  refine ⟨Postfix.closes_of_ofTokens ho, ?_⟩
  rw [← hnumbers, ← hoperators.length_eq]
  exact t.length_numbers_postorder

/-- A text whose operands are set apart has a value if and only if it is a sentence with finite
values, so no operator in it lacks its right operand. Whatever text has a value, its parentheses are
in balance, and if it is not a sentence, operands stand side by side in it: empty parentheses alone
do not give it one. -/
theorem value_eq_ok_iff_sentence {text : List Char} {tokens : List Token}
    (ht : Token.ofText text = .ok tokens) :
    (Token.Separated tokens →
      (∀ v, value text = .ok v ↔
        ∃ d : Derivation .expression, d.tokens = tokens ∧ d.tree.AllFinite ∧ d.tree.value = v) ∧
      (Token.Dangling tokens → ∀ v, value text ≠ .ok v)) ∧
    (¬ Token.Balanced tokens → ∀ v, value text ≠ .ok v) ∧
    (∀ v, value text = .ok v → (∃ d : Derivation .expression, d.tokens = tokens) ∨
      ∃ before t u after, tokens = before ++ t :: u :: after ∧ Token.Juxtaposed t u) := by
  have hu := Token.firstUnary?_of_ofText ht
  have hvalue (d : Derivation .expression) (hd : d.tokens = tokens) :
      value text = if d.tree.AllFinite then .ok d.tree.value else .error .notFinite := by
    subst hd
    exact (value_of_ofTokens ht d.tokens_ne_nil d.orders_tokens.ofTokens).trans
      d.tree.value_postorder
  have hsentence (hs : Token.Separated tokens) (v : Float) (hv : value text = .ok v) :
      ∃ d : Derivation .expression, d.tokens = tokens := by
    obtain ⟨hcloses, hcount⟩ := closes_of_value ht hv
    exact (exists_sentence none [] tokens hu hs hcloses).1 none rfl hcount
  refine ⟨fun hs => ⟨fun v => ⟨fun hv => ?_, ?_⟩, fun hdangling v hv => ?_⟩,
    fun hunbalanced v hv => ?_, fun v hv => ?_⟩
  · obtain ⟨d, hd⟩ := hsentence hs v hv
    rw [hvalue d hd] at hv
    split at hv
    · next hfinite => exact ⟨d, hd, hfinite, Except.ok.inj hv⟩
    · cases hv
  · rintro ⟨d, hd, hfinite, rfl⟩
    rw [hvalue d hd, if_pos hfinite]
  · exact Token.not_dangling hu hs (closes_of_value ht hv).2 hdangling
  · exact hunbalanced (closes_of_value ht hv).1.balanced
  · by_cases hs : Token.Separated tokens
    · exact .inl (hsentence hs v hv)
    · exact .inr (Token.exists_juxtaposed_of_not_separated hs)

/-- A sentence, one whose last operand is missing, and a text with operands side by side, where the
operator after them takes an operand from outside of the parentheses. -/
theorem value_eq_ok_iff_sentence_doubleSum :
    Token.ofText "2*(3+4)".toList = .ok Derivation.doubleSum.tokens ∧
      value "2*(3+4)".toList = .ok 14.0 ∧
      (∃ tokens, Token.ofText "2*(3+)".toList = .ok tokens ∧ Token.Separated tokens ∧
        Token.Dangling tokens ∧ ∀ v, value "2*(3+)".toList ≠ .ok v) ∧
      ∃ tokens, Token.ofText "2(3+)".toList = .ok tokens ∧ ¬ Token.Separated tokens ∧
        value "2(3+)".toList = .ok 5.0 := by
  have ht : Token.ofText "2*(3+4)".toList = .ok Derivation.doubleSum.tokens := rfl
  have hs : Token.Separated Derivation.doubleSum.tokens := by decide
  have hfinite : Derivation.doubleSum.tree.AllFinite := by decide +kernel
  have hv : Derivation.doubleSum.tree.value = 14.0 := by decide +kernel
  obtain ⟨tokens, ht', hs', hdangling⟩ : ∃ tokens, Token.ofText "2*(3+)".toList = .ok tokens ∧
      Token.Separated tokens ∧ Token.Dangling tokens :=
    ⟨[.number 2, .operator .mul, .opening, .number 3, .operator .add, .closing], rfl, by decide,
      [.number 2, .operator .mul, .opening, .number 3], .add, [.closing], rfl, .inr ⟨[], rfl⟩⟩
  have hfive : Postfix.value [.number 2, .number 3, .operator .add] = .ok 5.0 := rfl
  exact ⟨ht, (((value_eq_ok_iff_sentence ht).1 hs).1 14.0).2 ⟨.doubleSum, rfl, hfinite, hv⟩,
    ⟨tokens, ht', hs', hdangling, ((value_eq_ok_iff_sentence ht').1 hs').2 hdangling⟩,
    [.number 2, .opening, .number 3, .operator .add, .closing], rfl, by decide, hfive⟩

end Expr
end ArithmeticGame
