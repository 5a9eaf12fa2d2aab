import ArithmeticGame.Proofs.Expr.Order
/-!
# Groups in parentheses

A group in parentheses is brought into postfix order as if it stood alone, whatever waits around it.
Among the operators that wait between two parentheses, each binds more tightly than those that came
before it, so there are no more of them than there are precedences.
-/
namespace ArithmeticGame

theorem Operator.precedence_le_two (op : Operator) : op.precedence ≤ 2 := by
  cases op <;> decide

theorem Operator.length_le_two {ops : List Operator}
    (h : ops.Pairwise fun inner outer => outer.precedence < inner.precedence) :
    ops.length ≤ 2 := by
  have hnodup : (ops.map precedence).Nodup := List.pairwise_map.2 (h.imp fun hlt => hlt.ne')
  have hsubset : ops.map precedence ⊆ [1, 2] := by
    intro p hp
    obtain ⟨op, -, rfl⟩ := List.mem_map.1 hp
    cases op <;> decide
  simpa using hnodup.length_le_of_subset hsubset

namespace Shunting

/-! ## Reading on top of something else -/

/-- A state with an older one below it: that has given its output earlier, and what waits in it
waits further out. -/
def atop (s base : Shunting) : Shunting := ⟨s.output ++ base.output, s.waiting ++ base.waiting⟩

variable {base : Shunting}

theorem flush_append_output (ops : List Operator) (output older : List Token) :
    flush ops (output ++ older) = flush ops output ++ older := by
  rw [flush_eq, flush_eq, List.append_assoc]

/-- A base without an operator on top loses nothing of what waits in it. -/
theorem release_atop (hb : Admits 0 base.waiting) (op : Operator) (output : List Token)
    (waiting : List Waiting) : release op (output ++ base.output) (waiting ++ base.waiting) =
      (release op output waiting).atop base := by
  induction waiting generalizing output with
  | nil => exact release_pending op [] _ _ (by simp) (hb.mono (Nat.zero_le _))
  | cons top waiting ih =>
    cases top with
    | opening => rfl
    | operator top =>
      simp only [List.cons_append, release]
      split
      · rfl
      · exact ih (.operator top :: output)

theorem push_atop (hb : Admits 0 base.waiting) {s next : Shunting} {t : Token}
    (hs : s.push t = .ok next) : (s.atop base).push t = .ok (next.atop base) := by
  cases t with
  | number value =>
    cases hs
    rfl
  | operator op =>
    cases hs
    simp only [push, atop, release_atop hb, List.cons_append]
  | opening =>
    cases hs
    rfl
  | closing =>
    obtain ⟨ops, rest, hwaiting, rfl⟩ := exists_close hs
    simp only [push, atop, hwaiting, List.append_assoc, List.cons_append, close_pending,
      flush_append_output]

theorem run_atop (hb : Admits 0 base.waiting) {s last : Shunting} {tokens : List Token}
    (hs : tokens.foldlM push s = .ok last) :
    tokens.foldlM push (s.atop base) = .ok (last.atop base) := by
  induction tokens generalizing s with
  | nil =>
    cases hs
    rfl
  | cons t tokens ih =>
    rw [List.foldlM_cons] at hs ⊢
    obtain ⟨next, hpush, hrest⟩ := exists_of_bind_eq_ok hs
    rw [push_atop hb hpush]
    exact ih hrest

/-- Tokens with a postfix order get it on top of everything that has no operator on top itself. -/
theorem orders_of_ofTokens {tokens order : List Token} (h : Postfix.ofTokens tokens = .ok order) :
    Orders 0 tokens order := by
  intro output waiting hw
  have hb : Admits 0 (⟨output, waiting⟩ : Shunting).waiting := hw
  obtain ⟨s, hrun, hfinish⟩ := Postfix.exists_run_of_ofTokens h
  obtain ⟨ops, hops, rfl⟩ := exists_finish hfinish
  refine ⟨s.output ++ output, ops, ?_, ?_, fun op _ => Nat.zero_le _⟩
  · rw [← hops]
    exact run_atop hb hrun
  · rw [flush_append_output, List.reverse_reverse]

theorem admits_three (waiting : List Waiting) : Admits 3 waiting := by
  match waiting with
  | [] => trivial
  | .opening :: _ => trivial
  | .operator top :: _ => exact Nat.lt_succ_of_le top.precedence_le_two

theorem run_group {tokens order : List Token} (h : Postfix.ofTokens tokens = .ok order)
    (s : Shunting) : (Token.opening :: tokens ++ [Token.closing]).foldlM push s =
      .ok { s with output := order.reverse ++ s.output } := by
  obtain ⟨output, ops, hrun, hflush, hops⟩ :=
    (orders_of_ofTokens h).group 3 s.output s.waiting (admits_three s.waiting)
  -- no operator binds so tightly that it could still wait after the group
  obtain rfl : ops = [] := by
    refine List.eq_nil_iff_forall_not_mem.2 fun op hop => ?_
    exact absurd (hops op hop) (Nat.not_le.2 (Nat.lt_succ_of_le op.precedence_le_two))
  rw [← hflush]
  exact hrun

/-! ## What waits between parentheses -/

/-- Of two neighbours that wait, the inner one binds more tightly if both are operators. -/
def Outranks : Waiting → Waiting → Prop
  | .operator inner, .operator outer => outer.precedence < inner.precedence
  | _, _ => True

def Tightens (waiting : List Waiting) : Prop := waiting.IsChain Outranks

theorem tightens_cons {op : Operator} {waiting : List Waiting} (ha : Admits op.precedence waiting)
    (hw : Tightens waiting) : Tightens (.operator op :: waiting) := by
  match waiting, ha with
  | [], _ => exact .singleton _
  | .opening :: _, _ => exact .cons_cons trivial hw
  | .operator _ :: _, ha => exact .cons_cons ha hw

theorem admits_release (op : Operator) (output : List Token) (waiting : List Waiting) :
    Admits op.precedence (release op output waiting).waiting := by
  induction waiting generalizing output with
  | nil => trivial
  | cons top waiting ih =>
    cases top with
    | opening => trivial
    | operator top =>
      rw [release]
      split
      · next hlt => exact hlt
      · exact ih (.operator top :: output)

theorem push_tightens {s next : Shunting} {t : Token} (h : Tightens s.waiting)
    (hs : s.push t = .ok next) : Tightens next.waiting := by
  cases t with
  | number value =>
    cases hs
    exact h
  | operator op =>
    cases hs
    refine tightens_cons (admits_release ..) ?_
    -- what is left below the operator is a part of what waited before
    obtain ⟨ops, rest, hwaiting, hrelease⟩ := exists_release op s.output s.waiting
    rw [hrelease]
    exact (hwaiting ▸ h : Tightens _).right_of_append
  | opening =>
    cases hs
    exact List.isChain_cons.2 ⟨fun _ _ => trivial, h⟩
  | closing =>
    obtain ⟨ops, rest, hwaiting, rfl⟩ := exists_close hs
    exact (hwaiting ▸ h : Tightens _).right_of_append.tail

theorem Tightens.pairwise {ops : List Operator} (h : Tightens (ops.map .operator)) :
    ops.Pairwise fun inner outer => outer.precedence < inner.precedence := by
  have hchain : (ops.map Operator.precedence).IsChain (· > ·) :=
    (List.isChain_map Operator.precedence).2 ((List.isChain_map Waiting.operator).1 h)
  exact List.pairwise_map.1 hchain.pairwise

/-- Whatever was read before it, a group with a postfix order adds this order to the output and
nothing to what waits. Whatever is read, neighbouring operators that wait have the greater
precedence further in, so there are two of them at most from one parenthesis to the next. -/
theorem groups_stand_alone :
    (∀ (s : Shunting) (tokens order : List Token), Postfix.ofTokens tokens = .ok order →
      (Token.opening :: tokens ++ [Token.closing]).foldlM push s =
        .ok { s with output := order.reverse ++ s.output }) ∧
    ∀ (tokens : List Token) (s : Shunting), tokens.foldlM push ⟨[], []⟩ = .ok s →
      ∀ (above below : List Waiting) (ops : List Operator),
        s.waiting = above ++ ops.map .operator ++ below →
          (ops.Pairwise fun inner outer => outer.precedence < inner.precedence) ∧
            ops.length ≤ 2 := by
  constructor
  · intro s tokens order horder
    exact run_group horder s
  · intro tokens s hrun above below ops hwaiting
    have hstart : Tightens (⟨[], []⟩ : Shunting).waiting := .nil
    have htight : Tightens s.waiting := run_induction push_tightens hstart hrun
    rw [hwaiting] at htight
    have hpairwise := Tightens.pairwise htight.left_of_append.right_of_append
    exact ⟨hpairwise, Operator.length_le_two hpairwise⟩

/-- The group of `8-5*(3-(4+5)*)`, which lacks an operand and yet has a postfix order. Two operators
wait outside of it, and two more before it is closed. -/
theorem groups_stand_alone_unfinished :
    let outside : List Token := [.number 8, .operator .sub, .number 5, .operator .mul]
    let group : List Token := [.number 3, .operator .sub, .opening, .number 4, .operator .add,
      .number 5, .closing, .operator .mul]
    let order : List Token := [.number 3, .number 4, .number 5, .operator .add, .operator .mul,
      .operator .sub]
    let s : Shunting := ⟨[.number 5, .number 8], [.operator .mul, .operator .sub]⟩
    let s' : Shunting := ⟨[.operator .add, .number 5, .number 4, .number 3, .number 5, .number 8],
      [.operator .mul, .operator .sub, .opening, .operator .mul, .operator .sub]⟩
    let inner : List Operator := [.mul, .sub]
    outside.foldlM push ⟨[], []⟩ = .ok s ∧ Postfix.ofTokens group = .ok order ∧
      (Token.opening :: group ++ [Token.closing]).foldlM push s =
        .ok { s with output := order.reverse ++ s.output } ∧
      (outside ++ .opening :: group).foldlM push ⟨[], []⟩ = .ok s' ∧
      s'.waiting = [] ++ inner.map .operator ++ .opening :: s.waiting ∧
      (inner.Pairwise fun inner outer => outer.precedence < inner.precedence) ∧
      inner.length ≤ 2 := by
  intro outside group order s s' inner
  have horder : Postfix.ofTokens group = .ok order := rfl
  have hrun : (outside ++ .opening :: group).foldlM push ⟨[], []⟩ = .ok s' := rfl
  have hwaiting : s'.waiting = [] ++ inner.map .operator ++ .opening :: s.waiting := rfl
  exact ⟨rfl, horder, groups_stand_alone.1 s group order horder, hrun, hwaiting,
    groups_stand_alone.2 _ s' hrun [] _ inner hwaiting⟩

end Shunting
end ArithmeticGame
