import ArithmeticGame.Proofs.Session.Step
/-!
# Runs of a session

The reports along a run, and the stretch of a run that belongs to one game. What every step keeps,
a run keeps.
-/
namespace ArithmeticGame.Session

/-- The sessions that a game begins with. -/
inductive Begins : Session → Prop
  | built (rules : Rules) (source : TargetSource) (generator : Generator) :
      Begins (ofRules rules source generator)
  | restarted {s : Session} (h : s.phase = .finished) : Begins s.restart.1

theorem Begins.exists_ofRules {s : Session} (h : s.Begins) :
    ∃ rules source generator, s = ofRules rules source generator := by
  cases h with
  | built rules source generator => exact ⟨rules, source, generator, rfl⟩
  | @restarted s h =>
    rw [restart_of_finished h]
    exact ⟨s.rules, s.source, s.generator, rfl⟩

def reports (s : Session) : List Operation → List Report
  | [] => []
  | o :: operations => (s.apply o).2.toList ++ (s.apply o).1.reports operations

def Restarts (s : Session) (o : Operation) : Prop := o = .restart ∧ s.phase = .finished

instance (s : Session) (o : Operation) : Decidable (s.Restarts o) :=
  inferInstanceAs (Decidable (o = .restart ∧ s.phase = .finished))

/-- None of the operations sets up a new game when its turn comes. -/
def SameGame (s : Session) : List Operation → Prop
  | [] => True
  | o :: operations => ¬ s.Restarts o ∧ (s.apply o).1.SameGame operations

instance SameGame.decidable (s : Session) : (operations : List Operation) →
    Decidable (s.SameGame operations)
  | [] => .isTrue trivial
  | o :: operations =>
    have := SameGame.decidable (s.apply o).1 operations
    inferInstanceAs (Decidable (¬ s.Restarts o ∧ (s.apply o).1.SameGame operations))

theorem run_append (s : Session) (operations more : List Operation) :
    s.run (operations ++ more) = (s.run operations).run more := List.foldl_append

theorem reports_append (s : Session) (operations more : List Operation) :
    s.reports (operations ++ more) = s.reports operations ++ (s.run operations).reports more := by
  induction operations generalizing s with
  | nil => rfl
  | cons o operations ih =>
    simp only [List.cons_append, reports, ih, List.append_assoc, run, List.foldl_cons]

theorem sameGame_append (s : Session) (operations more : List Operation) :
    s.SameGame (operations ++ more) ↔
      s.SameGame operations ∧ (s.run operations).SameGame more := by
  induction operations generalizing s with
  | nil => simp [SameGame, run]
  | cons o operations ih =>
    simp only [List.cons_append, SameGame, ih, run, List.foldl_cons, and_assoc]

variable {s s' : Session} {o : Operation} {report : Option Report}

theorem Step.rules_eq (h : Step s o s' report) : s'.rules = s.rules := by
  cases h <;> simp [afterHit, afterMiss, afterRemoval, finishIfOut_eq, finish, ofRules]

theorem Step.report_state {r : Report} (h : Step s o s' (some r)) :
    r.phase = s'.phase ∧ r.seconds = s'.seconds ∧ r.correct = s'.correct := by
  cases h <;> exact ⟨rfl, rfl, rfl⟩

theorem run_induction {motive : Session → Prop}
    (hstep : ∀ {s o s' report}, Step s o s' report → motive s → motive s')
    (hs : motive s) (operations : List Operation) : motive (s.run operations) := by
  induction operations generalizing s with
  | nil => exact hs
  | cons o operations ih => exact ih (hstep (s.step_apply o) hs)

theorem SameGame.induction {motive : Session → List Report → Prop}
    (hstep : ∀ {s o s' report reports}, Step s o s' report → ¬ s.Restarts o →
      motive s reports → motive s' (reports ++ report.toList))
    {operations : List Operation} (h : s.SameGame operations) {before : List Report}
    (hs : motive s before) : motive (s.run operations) (before ++ s.reports operations) := by
  induction operations generalizing s before with
  | nil => simpa [reports, run] using hs
  | cons o operations ih =>
    have hnext := hstep (s.step_apply o) h.1 hs
    simpa [reports, run] using ih h.2 hnext

theorem run_rules (s : Session) (operations : List Operation) :
    (s.run operations).rules = s.rules :=
  run_induction (fun h hs => h.rules_eq.trans hs) (rfl : s.rules = s.rules) operations

/-- A game of two rounds over six numbers. -/
def twoRounds : Session :=
  ofRules
    { timeBudget := 60, penalty := 5, removalBonus := -3, rounds := 2, poolSize := 6
      awardTable := .default }
    (.listed [3, 20]) (.ofSeed 7)

/-- A run of it with a wrong answer, two right ones and a removal, to the end. -/
def twoRoundsPlayed : List Operation :=
  [.start, .submit ['6'], .submit ['1', '+', '2'], .restart, .advance, .removeNumber,
    .push '4', .push '*', .push '5', .submitTyped, .advance]

/-- The second round of it, one and two being used. -/
def secondRound : Session := twoRounds.run [.start, .submit ['1', '+', '2'], .advance]

end ArithmeticGame.Session
