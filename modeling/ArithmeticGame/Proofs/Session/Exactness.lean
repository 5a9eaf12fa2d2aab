import ArithmeticGame.Proofs.Expr.Integers
import ArithmeticGame.Proofs.Session.Verdict
/-!
# Answers in exact integers

An answer is held against its target in floating point, with a tolerance. An answer without
divisions that stays within `2 ^ 53` is judged as if that were done in exact integers.
-/
namespace ArithmeticGame.Session

variable {s : Session} {text : List Char} {n : Int}

theorem hits_iff {a : Answer} (hv : Binary64.toInt? a.value = some n) (hn : n.natAbs ≤ 2 ^ 53)
    (htarget : a.target.toInt.natAbs ≤ 2 ^ 53) : a.hits = true ↔ n = a.target.toInt := by
  rw [Answer.hits, decide_eq_true_iff]
  exact Binary64.abs_sub_le_billionth_iff hv (Binary64.toInt?_ofInt64 htarget) hn htarget

theorem outcome_submit {a : Answer} (hc : s.check text = .ok a) :
    (s.submit text).2.outcome = if a.hits then .hit else .miss a.value := by
  rw [submit, hc]
  simp only
  split <;> rfl

/-- A sentence without divisions, none of whose subtrees goes beyond `2 ^ 53`, has the exact integer
as its value, and as an answer by the rules of the pool it is right just if that is the target. -/
theorem judges_exactly {d : Derivation .expression} (ht : Token.ofText text = .ok d.tokens)
    (hdiv : .operator .div ∉ d.tokens)
    (hsmall : ∀ t ∈ d.tree.subtrees, t.exact.natAbs ≤ 2 ^ 53) :
    ∃ v, Expr.value text = .ok v ∧ Binary64.toInt? v = some d.tree.exact ∧
      ∀ (s : Session) (target : Int64), s.phase = .playing → s.target? = some target →
        target.toInt.natAbs ≤ 2 ^ 53 → s.pool.size < 2 ^ 53 →
        s.pool.Admits (Token.numbers d.tokens) →
        (s.submit text).2.outcome = if d.tree.exact = target.toInt then .hit else .miss v := by
  obtain ⟨v, hv, hexact⟩ := d.exists_value ht hdiv hsmall
  refine ⟨v, hv, hexact, ?_⟩
  intro s target hp htarget hbound hsize hadmits
  have hrules := (Pool.acceptText_eq_ok_iff hsize).2 ⟨d.tokens, ht, hadmits, rfl⟩
  have hc := check_eq_ok hp htarget hrules hv
  rw [outcome_submit hc]
  exact if_congr (hits_iff hexact (hsmall _ d.tree.mem_subtrees_self) hbound) rfl rfl

/-- The answers `4 * 5` and `6 - 3 * 5` to the target 20, the numbers three to six being
available. -/
theorem judges_exactly_secondRound :
    let right : Derivation .expression := .ofTerm (.product .mul Operator.multiplicative_mul
      (.ofFactor (.number 4)) (.number 5))
    let wrong : Derivation .expression := .sum .sub Operator.additive_sub
      (.ofTerm (.ofFactor (.number 6)))
      (.product .mul Operator.multiplicative_mul (.ofFactor (.number 3)) (.number 5))
    secondRound.phase = .playing ∧ secondRound.target? = some 20 ∧
      (20 : Int64).toInt.natAbs ≤ 2 ^ 53 ∧ secondRound.pool.size < 2 ^ 53 ∧
      (Token.ofText ['4', '*', '5'] = .ok right.tokens ∧ .operator .div ∉ right.tokens ∧
        (∀ t ∈ right.tree.subtrees, t.exact.natAbs ≤ 2 ^ 53) ∧
        secondRound.pool.Admits (Token.numbers right.tokens) ∧
        (secondRound.submit ['4', '*', '5']).2.outcome = .hit) ∧
      Token.ofText ['6', '-', '3', '*', '5'] = .ok wrong.tokens ∧
        .operator .div ∉ wrong.tokens ∧
        (∀ t ∈ wrong.tree.subtrees, t.exact.natAbs ≤ 2 ^ 53) ∧
        secondRound.pool.Admits (Token.numbers wrong.tokens) ∧
        ∃ v, Expr.value ['6', '-', '3', '*', '5'] = .ok v ∧ Binary64.toInt? v = some (-9) ∧
          (secondRound.submit ['6', '-', '3', '*', '5']).2.outcome = .miss v := by
  intro right wrong
  have hp : secondRound.phase = .playing := by decide +kernel
  have htarget : secondRound.target? = some 20 := by decide +kernel
  have hbound : (20 : Int64).toInt.natAbs ≤ 2 ^ 53 := by decide +kernel
  have hsize : secondRound.pool.size < 2 ^ 53 := by decide +kernel
  have ht : Token.ofText ['4', '*', '5'] = .ok right.tokens := rfl
  have hdiv : .operator .div ∉ right.tokens := by decide +kernel
  have hsmall : ∀ t ∈ right.tree.subtrees, t.exact.natAbs ≤ 2 ^ 53 := by decide +kernel
  have hrules : secondRound.pool.acceptText ['4', '*', '5'] = .ok [4, 5] := by decide +kernel
  have hadmits := Pool.admits_of_acceptText hsize ht hrules
  have ht' : Token.ofText ['6', '-', '3', '*', '5'] = .ok wrong.tokens := rfl
  have hdiv' : .operator .div ∉ wrong.tokens := by decide +kernel
  have hsmall' : ∀ t ∈ wrong.tree.subtrees, t.exact.natAbs ≤ 2 ^ 53 := by decide +kernel
  have hrules' : secondRound.pool.acceptText ['6', '-', '3', '*', '5'] = .ok [6, 3, 5] := by
    decide +kernel
  have hadmits' := Pool.admits_of_acceptText hsize ht' hrules'
  obtain ⟨_, _, _, hhit⟩ := judges_exactly ht hdiv hsmall
  obtain ⟨v, hv, hexact, hmiss⟩ := judges_exactly ht' hdiv' hsmall'
  have hright : right.tree.exact = (20 : Int64).toInt := by decide +kernel
  have hwrong : wrong.tree.exact ≠ (20 : Int64).toInt := by decide +kernel
  refine ⟨hp, htarget, hbound, hsize, ⟨ht, hdiv, hsmall, hadmits, ?_⟩, ht', hdiv', hsmall',
    hadmits', v, hv, hexact, ?_⟩
  · rw [hhit secondRound 20 hp htarget hbound hsize hadmits, if_pos hright]
  · rw [hmiss secondRound 20 hp htarget hbound hsize hadmits', if_neg hwrong]

end ArithmeticGame.Session
