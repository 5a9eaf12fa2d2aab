import ArithmeticGame.Proofs.Expr.Forest
import ArithmeticGame.Proofs.Expr.FullForm
import ArithmeticGame.Proofs.Expr.ValueText
import ArithmeticGame.Proofs.Session.Phases
import ArithmeticGame.Screen.View
/-!
# What is read of the end of a game

Six things end a game, and for each of them there is one line that the player reads. The words and
the style of these lines are written out here from the session alone; the report of an operation
that ends a game has just the line that is written for it.
-/
namespace ArithmeticGame

/-- The operations that end a game, each with its outcome and the line that the player reads. -/
inductive Session.Ends (s : Session) : Operation → Outcome → Span → Prop
  | noRounds (hp : s.phase = .setup) (ht : s.targets = []) :
      Ends s .start .done ⟨"No rounds to play".toList, { italic := true }⟩
  | timeUp (hp : s.phase = .playing) (hs : s.seconds ≤ 1) :
      Ends s .tick .done ⟨"Time's up!".toList, { italic := true }⟩
  | missed {o : Operation} {text value : List Char} {tokens : List Token} {t : Tree}
      {target : Int64} (hp : s.phase = .playing) (ha : s.answer? o = some text)
      (htarget : s.target? = some target) (htokens : Token.ofText text = .ok tokens)
      (ht : Postfix.ofTokens tokens = .ok t.postorder) (hvalue : Expr.Writes t.value value)
      (hmiss : ¬ (t.value - Binary64.ofInt64 target).abs ≤ 1e-9)
      (hs : s.seconds ≤ s.rules.penalty) :
      Ends s o (.miss t.value)
        ⟨t.infixText ++ " = ".toList ++ value ++ ", not ".toList ++
          (toString target.toInt).toList ++ " (-".toList ++
          (toString s.rules.penalty.toNat).toList ++ "s)".toList,
          { bold := true, colour := some .red }⟩
  | removed {value : Nat} (hp : s.phase = .playing)
      (hvalue : s.pool.state? value = some .available)
      (hs : (s.seconds.toNat : Int) + s.rules.removalBonus.toInt ≤ 0) :
      Ends s .removeNumber (.removed value)
        ⟨"Removed ".toList ++ (toString value).toList ++
          (if s.rules.removalBonus.toInt < 0 then " (-" else " (+").toList ++
          (toString s.rules.removalBonus.toInt.natAbs).toList ++ "s)".toList,
          { colour := some .magenta }⟩
  | cleared (hp : s.phase = .solved) (hr : s.targets.length ≤ s.round + 1) :
      Ends s .advance .done ⟨"All rounds cleared!".toList, { italic := true }⟩
  | abandoned (hp : s.phase = .playing ∨ s.phase = .solved) :
      Ends s .abandon .done ⟨"Game ended".toList, { italic := true }⟩

theorem Notice.signed_eq (n : Int) :
    signed n = (if n < 0 then "-" else "+") ++ toString n.natAbs := by
  cases n with
  | ofNat n => rfl
  | negSucc n =>
    have htext : toString (Int.negSucc n) = "-" ++ toString (n + 1) := rfl
    rw [signed, if_pos (Int.negSucc_lt_zero n), if_pos (Int.negSucc_lt_zero n), htext]
    rfl

def Report.line? (r : Report) : Option Span :=
  r.notice.map fun notice => .ofString notice.text (.ofOutcome (some r.outcome))

namespace Session

variable {s s' : Session} {o : Operation} {report : Option Report}

theorem exists_tree_of_check {text : List Char} {a : Answer} (h : s.check text = .ok a) :
    ∃ tokens, ∃ t : Tree, Token.ofText text = .ok tokens ∧
      Postfix.ofTokens tokens = .ok t.postorder ∧ t.value = a.value ∧
      Expr.fullForm text = t.infixText ∧ Expr.Writes t.value (Expr.valueText a.value).toList := by
  obtain ⟨tokens, t, htokens, ht, hrun⟩ := Expr.exists_tree_of_value (check_ok h).2.2.2
  obtain ⟨u, hu, hall, hvalue⟩ := Postfix.value_eq_ok_iff.1 hrun
  obtain rfl : u = t := Tree.postorder_injective hu
  have hform := Expr.fullForm_of_fullForm? (Expr.fullForm?_of_ofTokens htokens ht)
  refine ⟨tokens, u, htokens, ht, hvalue, hform, ?_⟩
  rw [← hvalue]
  exact Expr.writes_valueText hall.isFinite_value

theorem ends_of_miss {text : List Char} {a : Answer} (ha : s.answer? o = some text)
    (hc : s.check text = .ok a) (hh : ¬ a.hits) (hs : s.seconds ≤ s.rules.penalty) :
    s.Ends o (.miss a.value) (.ofString
      (Notice.missed (Expr.fullForm text) a.value a.target s.rules.penalty).text
      (.ofOutcome (some (.miss a.value)))) := by
  obtain ⟨hp, htarget, -, -⟩ := check_ok hc
  obtain ⟨tokens, t, htokens, ht, hvalue, hform, hwrites⟩ := exists_tree_of_check hc
  have hmiss : ¬ (t.value - Binary64.ofInt64 a.target).abs ≤ 1e-9 := by
    rw [hvalue]
    simpa [Answer.hits] using hh
  have hends := Ends.missed hp ha htarget htokens ht hwrites hmiss hs
  simpa [Span.ofString, Notice.text, hform, hvalue, Style.ofOutcome, Style.strong] using hends

theorem ends_of_removal {value : Nat} (hp : s.phase = .playing)
    (hvalue : s.pool.state? value = some .available)
    (hs : (s.seconds.toNat : Int) + s.rules.removalBonus.toInt ≤ 0) :
    s.Ends .removeNumber (.removed value) (.ofString
      (Notice.removed value s.rules.removalBonus).text (.ofOutcome (some (.removed value)))) := by
  have hends := Ends.removed hp hvalue hs
  have htext : (Notice.removed value s.rules.removalBonus).text.toList =
      "Removed ".toList ++ (toString value).toList ++
        (if s.rules.removalBonus.toInt < 0 then " (-" else " (+").toList ++
        (toString s.rules.removalBonus.toInt.natAbs).toList ++ "s)".toList := by
    simp only [Notice.text, Notice.signed_eq, String.toList_append]
    split <;> simp
  rwa [Span.ofString, htext]

/-- A game ends in no other way, and its last report has the line for it. -/
theorem Step.ends (h : Step s o s' report) (hp : s.phase ≠ .finished)
    (hp' : s'.phase = .finished) :
    ∃ r line, report = some r ∧ r.line? = some line ∧ s.Ends o r.outcome line := by
  cases h with
  | ignored | untouched | refused | unremoved | exhausted | edited | ticked => exact absurd hp' hp
  | begun | solved | advanced | restarted => cases hp'
  | noRounds hp ht => exact ⟨_, _, rfl, rfl, .noRounds hp ht⟩
  | missed ha hc hh =>
    rw [phase_afterMiss] at hp'
    split at hp'
    · next hs => exact ⟨_, _, rfl, rfl, ends_of_miss ha hc hh hs⟩
    · exact absurd hp' hp
  | timeUp hp hs => exact ⟨_, _, rfl, rfl, .timeUp hp (Clock.spend_eq_zero.1 hs)⟩
  | removed hp hd =>
    rw [phase_afterRemoval] at hp'
    split at hp'
    · next hs => exact ⟨_, _, rfl, rfl, ends_of_removal hp (Pool.discard_ok hd).1 hs⟩
    · rw [hp] at hp'
      cases hp'
  | cleared hp hr => exact ⟨_, _, rfl, rfl, .cleared hp hr⟩
  | abandoned hp => exact ⟨_, _, rfl, rfl, .abandoned hp⟩

end Session
end ArithmeticGame
