import ArithmeticGame.Proofs.Expr.RoundTrip
/-!
# Runs over any sequence

Every sequence of tokens begins with the post-orders of a forest, and a stack machine holds just
these trees until it meets a token that it cannot take. So a run gets to its end if the forest is
one tree and nothing comes after it, and what it reports otherwise can be read off the forest.
-/
namespace ArithmeticGame

def Operator.compute (op : Operator) (a b : Float) : Except ExprFault Float :=
  let result := op.apply a b
  if result.isFinite then .ok result else .error .notFinite

theorem Postfix.value_eq_run (tokens : List Token) :
    value tokens = run UInt64.toFloat Operator.compute [] tokens := rfl

namespace Tree

/-- A machine with the trees on its stack is at the end, or cannot take the next token. -/
def Stops (ts : List Tree) : List Token → Prop
  | [] => True
  | .number _ :: _ => False
  | .operator _ :: _ => ts.length < 2
  | .opening :: _ => True
  | .closing :: _ => True

theorem exists_forest_append (ts : List Tree) (tokens : List Token) :
    ∃ us rest, forest ts ++ tokens = forest us ++ rest ∧ Stops us rest := by
  induction tokens generalizing ts with
  | nil => exact ⟨ts, [], rfl, trivial⟩
  | cons t tokens ih =>
    cases t with
    | number n =>
      obtain ⟨us, rest, heq, hstops⟩ := ih (leaf n :: ts)
      exact ⟨us, rest, by simpa [forest, postorder] using heq, hstops⟩
    | operator op =>
      cases ts with
      | nil => exact ⟨[], _, rfl, Nat.zero_lt_two⟩
      | cons right ts =>
        cases ts with
        | nil => exact ⟨[right], _, rfl, Nat.one_lt_two⟩
        | cons left ts =>
          obtain ⟨us, rest, heq, hstops⟩ := ih (node op left right :: ts)
          exact ⟨us, rest, by simpa [forest, postorder] using heq, hstops⟩
    | opening | closing => exact ⟨ts, _, rfl, trivial⟩

theorem exists_forest (tokens : List Token) :
    ∃ ts rest, tokens = forest ts ++ rest ∧ Stops ts rest :=
  exists_forest_append [] tokens

theorem forest_append (ts us : List Tree) : forest (ts ++ us) = forest us ++ forest ts := by
  induction ts with
  | nil => simp [forest]
  | cons t ts ih => simp [forest, ih]

section machine

variable {α : Type} (number : UInt64 → α) (combine : Operator → α → α → Except ExprFault α)

def evaluateAll : List Tree → Except ExprFault (List α)
  | [] => .ok []
  | t :: ts => do
    let xs ← evaluateAll ts
    let x ← t.evaluate number combine
    .ok (x :: xs)

theorem run_forest_append (ts : List Tree) (rest : List Token) :
    Postfix.run number combine [] (forest ts ++ rest) =
      evaluateAll number combine ts >>= fun stack => Postfix.run number combine stack rest := by
  induction ts generalizing rest with
  | nil => rfl
  | cons t ts ih =>
    simp only [forest, List.append_assoc, ih, run_postorder_append, evaluateAll, bind_assoc]
    rfl

theorem evaluateAll_cases (ts : List Tree) :
    (∃ stack, evaluateAll number combine ts = .ok stack ∧ stack.length = ts.length ∧
      ∀ t ∈ ts, ∃ x, t.evaluate number combine = .ok x) ∨
    ∃ fault, evaluateAll number combine ts = .error fault ∧
      ∃ t ∈ ts, t.evaluate number combine = .error fault := by
  induction ts with
  | nil => exact .inl ⟨[], rfl, rfl, by simp⟩
  | cons t ts ih =>
    rcases ih with ⟨stack, hstack, hlength, hall⟩ | ⟨fault, hfault, u, hu, herror⟩
    · cases hx : t.evaluate number combine with
      | ok x =>
        refine .inl ⟨x :: stack, ?_, by simp [hlength], ?_⟩
        · simp only [evaluateAll, hstack, hx, bind, Except.bind]
        · simpa [hx] using hall
      | error fault =>
        refine .inr ⟨fault, ?_, t, by simp, hx⟩
        simp only [evaluateAll, hstack, hx, bind, Except.bind]
    · refine .inr ⟨fault, ?_, u, by simp [hu], herror⟩
      simp only [evaluateAll, hfault, bind, Except.bind]

theorem run_of_stops {ts : List Tree} {rest : List Token} (hstops : Stops ts rest)
    (hne : ∀ t, ts = [t] → rest ≠ []) {stack : List α} (hlength : stack.length = ts.length) :
    Postfix.run number combine stack rest = .error .malformed := by
  cases rest with
  | nil =>
    match stack with
    | [] => rfl
    | [x] =>
      obtain ⟨t, rfl⟩ := List.length_eq_one_iff.mp hlength.symm
      exact absurd rfl (hne t rfl)
    | _ :: _ :: _ => rfl
  | cons token rest =>
    cases token with
    | number n => cases hstops
    | operator op =>
      change ts.length < 2 at hstops
      match stack with
      | [] => rfl
      | [x] => rfl
      | _ :: _ :: _ =>
        simp only [List.length_cons] at hlength
        omega
    | opening | closing => simp [Postfix.run]

/-- A run gets to the end of a post-order, or has a fault from a tree, or stops where the sequence
is malformed. -/
theorem run_cases (tokens : List Token) :
    (∃ t x, postorder t = tokens ∧ t.evaluate number combine = .ok x) ∨
    (∃ ts rest, tokens = forest ts ++ rest ∧
      ∃ t ∈ ts, ∃ fault, t.evaluate number combine = .error fault) ∨
    Postfix.run number combine [] tokens = .error .malformed := by
  obtain ⟨ts, rest, rfl, hstops⟩ := exists_forest tokens
  rcases evaluateAll_cases number combine ts with
    ⟨stack, hstack, hlength, hall⟩ | ⟨fault, -, t, ht, herror⟩
  · by_cases hone : ∃ t, ts = [t] ∧ rest = []
    · obtain ⟨t, rfl, rfl⟩ := hone
      obtain ⟨x, hx⟩ := hall t (by simp)
      exact .inl ⟨t, x, by simp [forest], hx⟩
    · have hne : ∀ t, ts = [t] → rest ≠ [] := fun t ht hrest => hone ⟨t, ht, hrest⟩
      right
      right
      rw [run_forest_append, hstack]
      exact run_of_stops number combine hstops hne hlength
  · exact .inr (.inl ⟨ts, rest, rfl, t, ht, fault, herror⟩)

end machine

theorem postorder_injective : Function.Injective postorder := by
  intro t u h
  have hself (t : Tree) : t.evaluate leaf (fun op l r => .ok (node op l r)) = .ok t := by
    induction t with
    | leaf n => rfl
    | node op left right ihl ihr =>
      rw [evaluate, ihl, ihr]
      rfl
  have hrun := congrArg (Postfix.run leaf (fun op l r => .ok (node op l r)) []) h
  rw [run_postorder, run_postorder, hself, hself] at hrun
  exact Except.ok.inj hrun

theorem evaluate_compute (t : Tree) : t.evaluate UInt64.toFloat Operator.compute =
    if t.AllFinite then .ok t.value else .error .notFinite := by
  rw [← run_postorder]
  exact t.value_postorder

theorem allFinite_of_evaluate {t : Tree} {x : Float}
    (h : t.evaluate UInt64.toFloat Operator.compute = .ok x) : t.AllFinite := by
  by_contra hnot
  rw [evaluate_compute, if_neg hnot] at h
  cases h

theorem evaluate_eq_error_iff {t : Tree} {fault : ExprFault} :
    t.evaluate UInt64.toFloat Operator.compute = .error fault ↔
      ¬ t.AllFinite ∧ fault = .notFinite := by
  rw [evaluate_compute]
  split
  · next hall => simp [hall]
  · next hnot => simp [hnot, eq_comm]

theorem AllFinite.isFinite_value {t : Tree} (h : t.AllFinite) : t.value.isFinite = true :=
  h t t.mem_subtrees_self

end Tree

namespace Postfix

/-- An operator has two operands and gives a value that is not finite. All that stands before it is
in its place: no parenthesis, and no operator that lacks an operand. -/
def Exceeds (tokens : List Token) : Prop :=
  ∃ (ts : List Tree) (left right : Tree) (op : Operator) (after : List Token),
    tokens = Tree.forest (right :: left :: ts) ++ .operator op :: after ∧
      (op.apply left.value right.value).isFinite = false

/-- The first operation in a tree whose value is not finite stands behind a forest of its own. -/
theorem exceeds_of_not_allFinite {t : Tree} (h : ¬ t.AllFinite) (ts : List Tree)
    (rest : List Token) : Exceeds (Tree.forest ts ++ t.postorder ++ rest) := by
  induction t generalizing ts rest with
  | leaf n => exact absurd (Tree.allFinite_leaf n) h
  | node op left right ihl ihr =>
    by_cases hl : left.AllFinite
    · by_cases hr : right.AllFinite
      · refine ⟨ts, left, right, op, rest, by simp [Tree.forest, Tree.postorder], ?_⟩
        rw [Tree.allFinite_node] at h
        simpa [hl, hr] using h
      · have hright := ihr hr (left :: ts) (.operator op :: rest)
        simpa [Tree.forest, Tree.postorder] using hright
    · have hleft := ihl hl ts (right.postorder ++ .operator op :: rest)
      simpa [Tree.postorder] using hleft

theorem exceeds_of_mem {ts : List Tree} {t : Tree} (ht : t ∈ ts) (h : ¬ t.AllFinite)
    (rest : List Token) : Exceeds (Tree.forest ts ++ rest) := by
  obtain ⟨front, back, rfl⟩ := List.append_of_mem ht
  have hexceeds := exceeds_of_not_allFinite h back (Tree.forest front ++ rest)
  simpa [Tree.forest_append, Tree.forest] using hexceeds

theorem infixText_cases (tokens : List Token) :
    (∃ t : Tree, t.postorder = tokens) ∨ infixText tokens = .error .malformed := by
  rcases Tree.run_cases _ _ tokens with ⟨t, -, ht, -⟩ | ⟨_, _, -, t, -, fault, herror⟩ | hmalformed
  · exact .inl ⟨t, ht⟩
  · -- joining texts never fails
    have htext := infixText_postorder t
    rw [infixText, Tree.run_postorder, herror] at htext
    cases htext
  · exact .inr hmalformed

theorem value_of_exceeds {tokens : List Token} (h : Exceeds tokens) :
    value tokens = .error .notFinite := by
  obtain ⟨ts, left, right, op, after, rfl, hvalue⟩ := h
  have hforest : Tree.forest (right :: left :: ts) ++ .operator op :: after =
      Tree.forest (.node op left right :: ts) ++ after := by
    simp [Tree.forest, Tree.postorder]
  have hnode : ¬ (Tree.node op left right).AllFinite := by
    simp [Tree.allFinite_node, hvalue]
  rw [hforest, value_eq_run, Tree.run_forest_append]
  rcases Tree.evaluateAll_cases UInt64.toFloat Operator.compute (.node op left right :: ts) with
    ⟨_, -, -, hall⟩ | ⟨fault, hfault, t, -, herror⟩
  · obtain ⟨x, hx⟩ := hall (.node op left right) (by simp)
    exact absurd (Tree.allFinite_of_evaluate hx) hnode
  · rw [hfault, (Tree.evaluate_eq_error_iff.mp herror).2]
    rfl

theorem value_cases (tokens : List Token) :
    (∃ t : Tree, t.postorder = tokens ∧ t.AllFinite) ∨ Exceeds tokens ∨
      value tokens = .error .malformed := by
  rcases Tree.run_cases UInt64.toFloat Operator.compute tokens with
    ⟨t, x, ht, hx⟩ | ⟨ts, rest, rfl, t, ht, fault, herror⟩ | hmalformed
  · exact .inl ⟨t, ht, Tree.allFinite_of_evaluate hx⟩
  · exact .inr (.inl (exceeds_of_mem ht (Tree.evaluate_eq_error_iff.mp herror).1 rest))
  · exact .inr (.inr hmalformed)

theorem value_eq_ok_iff {tokens : List Token} {v : Float} :
    value tokens = .ok v ↔ ∃ t : Tree, t.postorder = tokens ∧ t.AllFinite ∧ t.value = v := by
  constructor
  · intro hv
    obtain ⟨t, rfl, -⟩ := Tree.exists_postorder_of_run _ _ hv
    rw [Tree.value_postorder] at hv
    split at hv
    · next hall => exact ⟨t, rfl, hall, Except.ok.inj hv⟩
    · cases hv
  · intro ⟨t, ht, hall, hv⟩
    rw [← ht, Tree.value_postorder, if_pos hall, hv]

/-- An infix text and a value both come from a tree, which the sequence determines. A sequence that
is no post-order is malformed; so it is for its value too, unless an operation in it comes to
something that is not finite before anything is out of place. -/
theorem runs_through_trees (tokens : List Token) :
    (∀ t u : Tree, t.postorder = tokens → u.postorder = tokens → t = u) ∧
    (∀ text, infixText tokens = .ok text ↔
      ∃ t : Tree, t.postorder = tokens ∧ t.infixText = text) ∧
    ((¬ ∃ t : Tree, t.postorder = tokens) → infixText tokens = .error .malformed) ∧
    (∀ v, value tokens = .ok v ↔
      ∃ t : Tree, t.postorder = tokens ∧ t.AllFinite ∧ t.value = v) ∧
    (value tokens = .error .notFinite ↔ Exceeds tokens) ∧
    ((¬ ∃ t : Tree, t.postorder = tokens ∧ t.AllFinite) → ¬ Exceeds tokens →
      value tokens = .error .malformed) ∧
    ∀ v, value tokens = .ok v → v.isFinite = true := by
  refine ⟨fun t u ht hu => ?_, fun text => ⟨fun htext => ?_, ?_⟩, fun hnone => ?_,
    fun v => value_eq_ok_iff, ⟨fun hvalue => ?_, value_of_exceeds⟩, fun hnone hnot => ?_,
    fun v hv => ?_⟩
  · exact Tree.postorder_injective (ht.trans hu.symm)
  · obtain ⟨t, ht, htext⟩ := exists_postorder_of_infixText htext
    exact ⟨t, ht.symm, htext.symm⟩
  · intro ⟨t, ht, htext⟩
    rw [← ht, ← htext, infixText_postorder]
  · exact (infixText_cases tokens).resolve_left hnone
  · rcases value_cases tokens with ⟨t, ht, hall⟩ | hexceeds | hmalformed
    · cases hvalue.symm.trans (value_eq_ok_iff.mpr ⟨t, ht, hall, rfl⟩)
    · exact hexceeds
    · cases hvalue.symm.trans hmalformed
  · exact ((value_cases tokens).resolve_left hnone).resolve_left hnot
  · obtain ⟨t, -, hall, rfl⟩ := value_eq_ok_iff.mp hv
    exact hall.isFinite_value

/-- Nothing that comes after the first fault matters: neither a parenthesis after a quotient by zero,
nor such a quotient after an operator that lacks an operand. -/
theorem runs_through_trees_first :
    let sum : List Token := [.number 2, .number 3, .operator .add]
    let quotient : List Token := [.number 1, .number 0, .operator .div, .closing]
    let short : List Token := [.number 1, .operator .add, .number 1, .number 0, .operator .div]
    infixText sum = .ok "(2 + 3)".toList ∧ (∃ t : Tree, t.postorder = sum) ∧
      value sum = .ok 5.0 ∧ (5.0 : Float).isFinite = true ∧
      Exceeds quotient ∧ value quotient = .error .notFinite ∧
      ¬ Exceeds short ∧ value short = .error .malformed ∧
      (¬ ∃ t : Tree, t.postorder = short) ∧ infixText short = .error .malformed := by
  intro sum quotient short
  have hsum : value sum = .ok 5.0 := by decide +kernel
  have htext : infixText sum = .ok "(2 + 3)".toList := rfl
  obtain ⟨t, ht, -⟩ := ((runs_through_trees sum).2.1 _).mp htext
  have hquotient : Exceeds quotient :=
    ⟨[], .leaf 1, .leaf 0, .div, [.closing], rfl, by decide +kernel⟩
  have hshort : value short = .error .malformed := rfl
  have hexceeds : ¬ Exceeds short := by
    intro h
    cases hshort.symm.trans ((runs_through_trees short).2.2.2.2.1.mpr h)
  have hnone : ¬ ∃ t : Tree, t.postorder = short := by
    intro ⟨t, ht⟩
    cases ((runs_through_trees short).2.1 t.infixText).mpr ⟨t, ht, rfl⟩
  have hfinite : ¬ ∃ t : Tree, t.postorder = short ∧ t.AllFinite := by
    intro ⟨t, ht, _⟩
    exact hnone ⟨t, ht⟩
  exact ⟨htext, ⟨t, ht⟩, hsum, (runs_through_trees sum).2.2.2.2.2.2 _ hsum, hquotient,
    (runs_through_trees quotient).2.2.2.2.1.mpr hquotient, hexceeds,
    (runs_through_trees short).2.2.2.2.2.1 hfinite hexceeds, hnone,
    (runs_through_trees short).2.2.1 hnone⟩

end Postfix
end ArithmeticGame
