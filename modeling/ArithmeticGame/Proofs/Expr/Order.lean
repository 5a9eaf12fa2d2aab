import ArithmeticGame.Proofs.Expr.Grammar
/-!
# What the postfix order keeps

Whatever tokens come in, the postfix order has their numbers in the order in which they came and
their operators in some order, and it exists only if their parentheses are in balance.
-/
namespace ArithmeticGame

namespace Token

def operators : List Token → List Operator
  | [] => []
  | operator op :: ts => op :: operators ts
  | _ :: ts => operators ts

@[simp] theorem numbers_append (ts us : List Token) :
    numbers (ts ++ us) = numbers ts ++ numbers us := by
  induction ts with
  | nil => rfl
  | cons t ts ih => cases t <;> simp [numbers, ih]

@[simp] theorem operators_append (ts us : List Token) :
    operators (ts ++ us) = operators ts ++ operators us := by
  induction ts with
  | nil => rfl
  | cons t ts ih => cases t <;> simp [operators, ih]

@[simp] theorem operators_reverse (ts : List Token) :
    operators ts.reverse = (operators ts).reverse := by
  induction ts with
  | nil => rfl
  | cons t ts ih => cases t <;> simp [operators, ih]

@[simp] theorem numbers_map_operator (ops : List Operator) : numbers (ops.map operator) = [] := by
  induction ops with
  | nil => rfl
  | cons op ops ih => exact ih

@[simp] theorem operators_map_operator (ops : List Operator) :
    operators (ops.map operator) = ops := by
  induction ops with
  | nil => rfl
  | cons op ops ih => exact congrArg (op :: ·) ih

def Bare (tokens : List Token) : Prop := opening ∉ tokens ∧ closing ∉ tokens

theorem Bare.reverse {tokens : List Token} (h : Bare tokens) : Bare tokens.reverse := by
  simpa [Bare] using h

/-- The tokens close what they open and `depth` parentheses opened before them. -/
def Closes : Nat → List Token → Prop
  | depth, [] => depth = 0
  | depth, opening :: ts => Closes (depth + 1) ts
  | 0, closing :: _ => False
  | depth + 1, closing :: ts => Closes depth ts
  | depth, _ :: ts => Closes depth ts

/-- No prefix has more closing parentheses than opening ones, and all in all they are equally
many. -/
def Balanced (tokens : List Token) : Prop :=
  (∀ before after, tokens = before ++ after → before.count closing ≤ before.count opening) ∧
    tokens.count closing = tokens.count opening

theorem Closes.count_le {depth : Nat} {tokens : List Token} (h : Closes depth tokens) :
    (∀ before after, tokens = before ++ after →
      before.count closing ≤ depth + before.count opening) ∧
    tokens.count closing = depth + tokens.count opening := by
  induction tokens generalizing depth with
  | nil =>
    obtain rfl : depth = 0 := h
    simp
  | cons t ts ih =>
    -- what is left once `t` is read closes another number of parentheses
    obtain ⟨rest, hrest, hdepth⟩ : ∃ rest, Closes rest ts ∧
        rest + [t].count closing = depth + [t].count opening := by
      cases t with
      | number value | operator op => exact ⟨depth, h, by simp⟩
      | opening => exact ⟨depth + 1, h, by simp⟩
      | closing =>
        cases depth with
        | zero => cases h
        | succ depth => exact ⟨depth, h, by simp⟩
    obtain ⟨hbefore, htotal⟩ := ih hrest
    have hcons : ∀ us : List Token, (t :: us).count closing = [t].count closing + us.count closing ∧
        (t :: us).count opening = [t].count opening + us.count opening := by
      intro us
      simp only [← List.count_append, List.singleton_append, and_self]
    constructor
    · intro before after heq
      cases before with
      | nil => simp
      | cons u before =>
        obtain ⟨rfl, htail⟩ := List.cons.inj heq
        have := hbefore before after htail
        have := hcons before
        omega
    · have := hcons ts
      omega

/-- Tokens whose prefixes stay within what is open close it all if they close as much as is
opened. -/
theorem closes_of_count_le {depth : Nat} {tokens : List Token}
    (hbefore : ∀ before after, tokens = before ++ after →
      before.count closing ≤ depth + before.count opening)
    (htotal : tokens.count closing = depth + tokens.count opening) : Closes depth tokens := by
  induction tokens generalizing depth with
  | nil => simpa [Closes, eq_comm] using htotal
  | cons t ts ih =>
    have hrest : ∀ before after, ts = before ++ after →
        (t :: before).count closing ≤ depth + (t :: before).count opening := by
      intro before after heq
      exact hbefore (t :: before) after (congrArg (t :: ·) heq)
    cases t with
    | number value | operator op =>
      exact ih (by simpa using hrest) (by simpa using htotal)
    | opening =>
      simp only [List.count_cons_self, List.count_cons_of_ne, ne_eq, reduceCtorEq,
        not_false_eq_true] at hrest htotal
      have hrest' : ∀ before after, ts = before ++ after →
          before.count closing ≤ depth + 1 + before.count opening := by
        intro before after heq
        have hle := hrest before after heq
        omega
      exact ih hrest' (by omega)
    | closing =>
      cases depth with
      | zero =>
        have hle := hrest [] ts rfl
        simp at hle
      | succ depth =>
        simp only [List.count_cons_self, List.count_cons_of_ne, ne_eq, reduceCtorEq,
          not_false_eq_true] at hrest htotal
        have hrest' : ∀ before after, ts = before ++ after →
            before.count closing ≤ depth + before.count opening := by
          intro before after heq
          have hle := hrest before after heq
          omega
        exact ih hrest' (by omega)

theorem Closes.balanced {tokens : List Token} (h : Closes 0 tokens) : Balanced tokens := by
  simpa [Balanced] using h.count_le

theorem Balanced.closes {tokens : List Token} (h : Balanced tokens) : Closes 0 tokens :=
  closes_of_count_le (by simpa using h.1) (by simpa using h.2)

end Token

namespace Waiting

def operators : List Waiting → List Operator
  | [] => []
  | operator op :: waiting => op :: operators waiting
  | opening :: waiting => operators waiting

@[simp] theorem count_opening_map_operator (ops : List Operator) :
    (ops.map operator).count opening = 0 := by
  simp [List.count_eq_zero]

@[simp] theorem operators_map_append (ops : List Operator) (waiting : List Waiting) :
    operators (ops.map operator ++ waiting) = ops ++ operators waiting := by
  induction ops with
  | nil => rfl
  | cons op ops ih => exact congrArg (op :: ·) ih

end Waiting

namespace Shunting

theorem flush_eq (ops : List Operator) (output : List Token) :
    flush ops output = (ops.map Token.operator).reverse ++ output := by
  induction ops generalizing output with
  | nil => rfl
  | cons op ops ih => simp [flush, ih]

theorem exists_release (op : Operator) (output : List Token) (waiting : List Waiting) :
    ∃ ops rest, waiting = ops.map .operator ++ rest ∧
      release op output waiting = ⟨flush ops output, rest⟩ := by
  induction waiting generalizing output with
  | nil => exact ⟨[], [], rfl, rfl⟩
  | cons top waiting ih =>
    cases top with
    | opening => exact ⟨[], _, rfl, rfl⟩
    | operator top =>
      rw [release]
      split
      · exact ⟨[], _, rfl, rfl⟩
      · obtain ⟨ops, rest, rfl, hrelease⟩ := ih (.operator top :: output)
        exact ⟨top :: ops, rest, rfl, hrelease⟩

theorem exists_close {output : List Token} {waiting : List Waiting} {s : Shunting}
    (h : close output waiting = .ok s) :
    ∃ ops rest, waiting = ops.map .operator ++ .opening :: rest ∧
      s = ⟨flush ops output, rest⟩ := by
  induction waiting generalizing output with
  | nil => cases h
  | cons top waiting ih =>
    cases top with
    | opening => exact ⟨[], waiting, rfl, (Except.ok.inj h).symm⟩
    | operator top =>
      obtain ⟨ops, rest, rfl, hs⟩ := ih h
      exact ⟨top :: ops, rest, rfl, hs⟩

theorem exists_finish {output order : List Token} {waiting : List Waiting}
    (h : finish output waiting = .ok order) :
    ∃ ops, waiting = ops.map .operator ∧ order = (flush ops output).reverse := by
  induction waiting generalizing output with
  | nil => exact ⟨[], rfl, (Except.ok.inj h).symm⟩
  | cons top waiting ih =>
    cases top with
    | opening => cases h
    | operator top =>
      obtain ⟨ops, rfl, horder⟩ := ih h
      exact ⟨top :: ops, rfl, horder⟩

@[simp] theorem numbers_reverse_flush (ops : List Operator) (output : List Token) :
    Token.numbers (flush ops output).reverse = Token.numbers output.reverse := by
  simp [flush_eq]

theorem operators_flush_append (ops : List Operator) (output : List Token)
    (rest : List Operator) :
    (Token.operators (flush ops output) ++ rest).Perm
      (Token.operators output ++ (ops ++ rest)) := by
  rw [flush_eq, ← List.map_reverse, Token.operators_append, Token.operators_map_operator,
    List.append_assoc]
  exact (ops.reverse_perm.append_right _).trans (List.perm_append_comm_assoc ..)

theorem run_induction {motive : Shunting → Prop}
    (hstep : ∀ {s next : Shunting} {t : Token}, motive s → s.push t = .ok next → motive next)
    {s last : Shunting} {tokens : List Token} (hs : motive s)
    (hrun : tokens.foldlM Shunting.push s = .ok last) : motive last := by
  induction tokens generalizing s with
  | nil =>
    cases hrun
    exact hs
  | cons t tokens ih =>
    rw [List.foldlM_cons] at hrun
    obtain ⟨next, hpush, hrest⟩ := exists_of_bind_eq_ok hrun
    exact ih (hstep hs hpush) hrest

theorem bare_flush (ops : List Operator) {output : List Token} (h : Token.Bare output) :
    Token.Bare (flush ops output) := by
  rw [flush_eq]
  simpa [Token.Bare] using h

theorem push_bare {s next : Shunting} {t : Token} (h : Token.Bare s.output)
    (hs : s.push t = .ok next) : Token.Bare next.output := by
  cases t with
  | number value =>
    cases hs
    simpa [Token.Bare] using h
  | operator op =>
    obtain ⟨ops, rest, -, hrelease⟩ := exists_release op s.output s.waiting
    simp only [Shunting.push, hrelease, Except.ok.injEq] at hs
    subst hs
    exact bare_flush ops h
  | opening =>
    cases hs
    exact h
  | closing =>
    obtain ⟨ops, rest, -, rfl⟩ := exists_close hs
    exact bare_flush ops h

/-- The numbers and the operators of the tokens read so far are in the state. -/
structure Keeps (s : Shunting) (tokens : List Token) : Prop where
  numbers : Token.numbers s.output.reverse = Token.numbers tokens
  operators : (Token.operators s.output ++ Waiting.operators s.waiting).Perm
    (Token.operators tokens)

theorem Keeps.push {s s' : Shunting} {tokens : List Token} {t : Token} (h : s.Keeps tokens)
    (hs : s.push t = .ok s') : s'.Keeps (tokens ++ [t]) := by
  obtain ⟨output, waiting⟩ := s
  obtain ⟨hnumbers, hoperators⟩ := h
  simp only at hnumbers hoperators
  cases t with
  | number value =>
    cases hs
    exact ⟨by simp [hnumbers], by simpa [Token.operators] using hoperators⟩
  | operator op =>
    obtain ⟨ops, rest, rfl, hrelease⟩ := exists_release op output waiting
    simp only [Shunting.push, hrelease, Except.ok.injEq] at hs
    subst hs
    rw [Waiting.operators_map_append] at hoperators
    refine ⟨by simp [hnumbers, Token.numbers], ?_⟩
    calc
      List.Perm (Token.operators (flush ops output) ++ op :: Waiting.operators rest)
          (op :: (Token.operators (flush ops output) ++ Waiting.operators rest)) :=
        List.perm_middle
      List.Perm _ (op :: Token.operators tokens) :=
        ((operators_flush_append ops output _).trans hoperators).cons op
      List.Perm _ (Token.operators (tokens ++ [.operator op])) := by
        rw [Token.operators_append]
        exact (List.perm_append_singleton ..).symm
  | opening =>
    cases hs
    exact ⟨by simp [hnumbers, Token.numbers],
      by simpa [Token.operators, Waiting.operators] using hoperators⟩
  | closing =>
    obtain ⟨ops, rest, rfl, rfl⟩ := exists_close hs
    rw [Waiting.operators_map_append, Waiting.operators] at hoperators
    refine ⟨by simp [hnumbers, Token.numbers], ?_⟩
    simpa [Token.operators] using (operators_flush_append ops output _).trans hoperators

theorem Keeps.run {s s' : Shunting} {before tokens : List Token} (h : s.Keeps before)
    (hs : tokens.foldlM Shunting.push s = .ok s') : s'.Keeps (before ++ tokens) := by
  induction tokens generalizing s before with
  | nil =>
    cases hs
    simpa using h
  | cons t tokens ih =>
    rw [List.foldlM_cons] at hs
    obtain ⟨next, hpush, hrest⟩ := exists_of_bind_eq_ok hs
    simpa using ih (h.push hpush) hrest

end Shunting

namespace Postfix

theorem exists_run_of_ofTokens {tokens order : List Token} (h : ofTokens tokens = .ok order) :
    ∃ s : Shunting, tokens.foldlM Shunting.push ⟨[], []⟩ = .ok s ∧
      Shunting.finish s.output s.waiting = .ok order :=
  exists_of_bind_eq_ok h

theorem numbers_operators_ofTokens {tokens order : List Token} (h : ofTokens tokens = .ok order) :
    Token.numbers order = Token.numbers tokens ∧
      (Token.operators order).Perm (Token.operators tokens) := by
  obtain ⟨s, hrun, hfinish⟩ := exists_run_of_ofTokens h
  have hstart : Shunting.Keeps ⟨[], []⟩ [] := ⟨rfl, .nil⟩
  obtain ⟨hnumbers, hoperators⟩ := hstart.run hrun
  obtain ⟨ops, hwaiting, rfl⟩ := Shunting.exists_finish hfinish
  constructor
  · simpa using hnumbers
  · have hends : Waiting.operators (ops.map .operator) = ops := by
      simpa [Waiting.operators] using Waiting.operators_map_append ops []
    rw [hwaiting, hends] at hoperators
    calc
      List.Perm (Token.operators (Shunting.flush ops s.output).reverse)
          (Token.operators (Shunting.flush ops s.output)) := by
        rw [Token.operators_reverse]
        exact List.reverse_perm _
      List.Perm _ (Token.operators s.output ++ ops) := by
        simpa using Shunting.operators_flush_append ops s.output []
      List.Perm _ (Token.operators tokens) := hoperators

end Postfix

/-! ## Parentheses -/

namespace Shunting

theorem exists_pending (waiting : List Waiting) :
    (∃ ops : List Operator, waiting = ops.map .operator) ∨
      ∃ (ops : List Operator) (rest : List Waiting),
        waiting = ops.map .operator ++ .opening :: rest := by
  induction waiting with
  | nil => exact .inl ⟨[], rfl⟩
  | cons top waiting ih =>
    cases top with
    | opening => exact .inr ⟨[], waiting, rfl⟩
    | operator op =>
      rcases ih with ⟨ops, rfl⟩ | ⟨ops, rest, rfl⟩
      · exact .inl ⟨op :: ops, rfl⟩
      · exact .inr ⟨op :: ops, rest, rfl⟩

theorem close_eq_error (ops : List Operator) (output : List Token) :
    close output (ops.map .operator) = .error .unbalanced := by
  induction ops generalizing output with
  | nil => rfl
  | cons op ops ih => exact ih (.operator op :: output)

theorem finish_eq_error (ops : List Operator) (output : List Token) (rest : List Waiting) :
    finish output (ops.map .operator ++ .opening :: rest) = .error .unbalanced := by
  induction ops generalizing output with
  | nil => rfl
  | cons op ops ih => exact ih (.operator op :: output)

/-- A step leaves as many parentheses waiting as the tokens after it have to close, unless the
token closes one that was never opened. -/
theorem push_cases (s : Shunting) (t : Token) :
    (∃ next, s.push t = .ok next ∧ ∀ ts, Token.Closes (s.waiting.count .opening) (t :: ts) ↔
      Token.Closes (next.waiting.count .opening) ts) ∨
    (s.push t = .error .unbalanced ∧
      ∀ ts, ¬ Token.Closes (s.waiting.count .opening) (t :: ts)) := by
  obtain ⟨output, waiting⟩ := s
  cases t with
  | number value => exact .inl ⟨_, rfl, fun ts => Iff.rfl⟩
  | operator op =>
    obtain ⟨ops, rest, rfl, hrelease⟩ := exists_release op output waiting
    refine .inl ⟨_, rfl, fun ts => ?_⟩
    simp [hrelease, Token.Closes]
  | opening =>
    refine .inl ⟨_, rfl, fun ts => ?_⟩
    simp [Token.Closes]
  | closing =>
    rcases exists_pending waiting with ⟨ops, rfl⟩ | ⟨ops, rest, rfl⟩
    · refine .inr ⟨close_eq_error ops output, fun ts => ?_⟩
      simp [Token.Closes]
    · refine .inl ⟨_, close_pending ops output rest, fun ts => ?_⟩
      simp [Token.Closes]

/-- The order of what was read so far and of the tokens still to be read. -/
def order (s : Shunting) (tokens : List Token) : Except ExprFault (List Token) :=
  tokens.foldlM push s >>= fun last => finish last.output last.waiting

theorem order_cons (s : Shunting) (t : Token) (tokens : List Token) :
    s.order (t :: tokens) = s.push t >>= fun next => next.order tokens := by
  rw [order, List.foldlM_cons, bind_assoc]
  rfl

theorem order_cases (s : Shunting) (tokens : List Token) :
    (Token.Closes (s.waiting.count .opening) tokens ∧ ∃ order, s.order tokens = .ok order) ∨
    (¬ Token.Closes (s.waiting.count .opening) tokens ∧
      s.order tokens = .error .unbalanced) := by
  induction tokens generalizing s with
  | nil =>
    obtain ⟨output, waiting⟩ := s
    rcases exists_pending waiting with ⟨ops, rfl⟩ | ⟨ops, rest, rfl⟩
    · exact .inl ⟨Waiting.count_opening_map_operator ops, _, finish_pending ops output⟩
    · refine .inr ⟨?_, finish_eq_error ops output rest⟩
      simp [Token.Closes]
  | cons t tokens ih =>
    rw [order_cons]
    rcases s.push_cases t with ⟨next, hpush, hcloses⟩ | ⟨hpush, hcloses⟩
    · rw [hpush, hcloses]
      exact ih next
    · rw [hpush]
      exact .inr ⟨hcloses tokens, rfl⟩

end Shunting

namespace Postfix

theorem ofTokens_cases (tokens : List Token) :
    (Token.Closes 0 tokens ∧ ∃ order, ofTokens tokens = .ok order) ∨
    (¬ Token.Closes 0 tokens ∧ ofTokens tokens = .error .unbalanced) :=
  Shunting.order_cases ⟨[], []⟩ tokens

theorem closes_of_ofTokens {tokens order : List Token} (h : ofTokens tokens = .ok order) :
    Token.Closes 0 tokens := by
  rcases ofTokens_cases tokens with ⟨hcloses, -⟩ | ⟨-, herror⟩
  · exact hcloses
  · cases h.symm.trans herror

theorem bare_ofTokens {tokens order : List Token} (h : ofTokens tokens = .ok order) :
    Token.Bare order := by
  obtain ⟨s, hrun, hfinish⟩ := exists_run_of_ofTokens h
  have hstart : Token.Bare (⟨[], []⟩ : Shunting).output := by simp [Token.Bare]
  have hbare : Token.Bare s.output := Shunting.run_induction Shunting.push_bare hstart hrun
  obtain ⟨ops, -, rfl⟩ := Shunting.exists_finish hfinish
  exact (Shunting.bare_flush ops hbare).reverse

/-- Tokens have a postfix order if and only if their parentheses are in balance, whatever else may
be wrong with them. The order drops the parentheses and nothing else: numbers stay in place, and
operators only move. -/
theorem orders_iff_balanced (tokens : List Token) :
    ((∃ order, ofTokens tokens = .ok order) ↔ Token.Balanced tokens) ∧
    (¬ Token.Balanced tokens → ofTokens tokens = .error .unbalanced) ∧
    ∀ order, ofTokens tokens = .ok order →
      (.opening ∉ order ∧ .closing ∉ order) ∧ Token.numbers order = Token.numbers tokens ∧
        (Token.operators order).Perm (Token.operators tokens) := by
  refine ⟨⟨?_, fun hbalanced => ?_⟩, fun hunbalanced => ?_, fun order horder => ?_⟩
  · intro ⟨order, horder⟩
    exact (closes_of_ofTokens horder).balanced
  · rcases ofTokens_cases tokens with ⟨-, horder⟩ | ⟨hcloses, -⟩
    · exact horder
    · exact absurd hbalanced.closes hcloses
  · rcases ofTokens_cases tokens with ⟨hcloses, -⟩ | ⟨-, herror⟩
    · exact absurd hcloses.balanced hunbalanced
    · exact herror
  · exact ⟨bare_ofTokens horder, numbers_operators_ofTokens horder⟩

/-- `2(3-)*` is no sentence, and yet its parentheses are in balance; those of `)1(` are equally many
and not in balance. -/
theorem orders_iff_balanced_crossed :
    let irregular : List Token :=
      [.number 2, .opening, .number 3, .operator .sub, .closing, .operator .mul]
    let order : List Token := [.number 2, .number 3, .operator .sub, .operator .mul]
    let crossed : List Token := [.closing, .number 1, .opening]
    Token.Balanced irregular ∧ ofTokens irregular = .ok order ∧ .opening ∉ order ∧
      ¬ Token.Balanced crossed ∧ ofTokens crossed = .error .unbalanced := by
  intro irregular order crossed
  have horder : ofTokens irregular = .ok order := rfl
  have hcrossed : ¬ Token.Balanced crossed := by
    intro h
    have hle := h.1 [.closing] [.number 1, .opening] rfl
    simp at hle
  exact ⟨(orders_iff_balanced irregular).1.mp ⟨order, horder⟩, horder,
    ((orders_iff_balanced irregular).2.2 order horder).1.1, hcrossed,
    (orders_iff_balanced crossed).2.1 hcrossed⟩

end Postfix
end ArithmeticGame
