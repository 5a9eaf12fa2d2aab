import ArithmeticGame.Proofs.Pool.States
import ArithmeticGame.Proofs.Session.Run
/-!
# A new game after the end of one

A restart keeps the rules, the source of the targets and the generator, and forgets all else: from
then on the session cannot be told from a new one. In between, only a removal moves the generator.
-/
namespace ArithmeticGame.Session

def Removes (s : Session) (o : Operation) : Prop :=
  o = .removeNumber ∧ ∃ report ∈ (s.apply o).2, ∃ value, report.outcome = .removed value

variable {s s' : Session} {o : Operation} {report : Option Report}

theorem Step.source_eq (h : Step s o s' report) : s'.source = s.source := by
  cases h <;> simp [afterHit, afterMiss, afterRemoval, finishIfOut_eq, finish, ofRules]

theorem run_source (s : Session) (operations : List Operation) :
    (s.run operations).source = s.source :=
  run_induction (fun h hs => h.source_eq.trans hs) (rfl : s.source = s.source) operations

/-! ## The generator -/

theorem Step.removed_of_generator_ne (h : Step s o s' report) (hr : ¬ s.Restarts o)
    (hne : s'.generator ≠ s.generator) :
    o = .removeNumber ∧ ∃ r ∈ report, ∃ value, r.outcome = .removed value := by
  cases h with
  | ignored | untouched | refused | unremoved | exhausted | noRounds | begun | edited | solved
  | ticked | timeUp | advanced | cleared | abandoned => exact absurd rfl hne
  | missed =>
    rw [afterMiss, finishIfOut_eq] at hne
    exact absurd rfl hne
  | removed => exact ⟨rfl, _, rfl, _, rfl⟩
  | restarted hp => exact absurd ⟨rfl, hp⟩ hr

theorem Step.taken_lt_of_removed {r : Report} {value : Nat} (h : Step s o s' (some r))
    (hr : r.outcome = .removed value) : s.generator.taken < s'.generator.taken := by
  cases h with
  | removed hp hd =>
    rw [afterRemoval, finishIfOut_eq]
    exact Pool.taken_lt_discard hd
  | _ => cases hr

theorem generator_ne_iff (hr : ¬ s.Restarts o) :
    (s.apply o).1.generator ≠ s.generator ↔ s.Removes o := by
  have hstep := s.step_apply o
  constructor
  · exact hstep.removed_of_generator_ne hr
  · rintro ⟨-, r, hreport, value, hvalue⟩ heq
    rw [Option.mem_def.1 hreport] at hstep
    have hlt := hstep.taken_lt_of_removed hvalue
    rw [heq] at hlt
    exact Nat.lt_irrefl _ hlt

/-! ## The new game -/

theorem restart_run (rules : Rules) (source : TargetSource) (generator : Generator)
    {operations : List Operation}
    (hp : ((ofRules rules source generator).run operations).phase = .finished) :
    ((ofRules rules source generator).run operations).restart.1 =
      ofRules rules source ((ofRules rules source generator).run operations).generator := by
  rw [restart_of_finished hp, run_rules, run_source]
  rfl

/-- After the end of a game a restart gives the session that is built from the first rules, the
first source and the generator where it stands, and whatever is done then goes as in that session.
Apart from restarts the generator moves just where a number is removed. -/
theorem restart_forgets (rules : Rules) (source : TargetSource) (generator : Generator)
    (operations : List Operation) :
    let first := ofRules rules source generator
    let s := first.run operations
    let new := ofRules rules source s.generator
    (s.phase = .finished →
      s.restart.1 = new ∧
      ∀ more,
        first.run (operations ++ .restart :: more) = new.run more ∧
        first.reports (operations ++ .restart :: more) =
          first.reports operations ++ s.restart.2 :: new.reports more) ∧
    ∀ o, ¬ s.Restarts o → ((s.apply o).1.generator ≠ s.generator ↔ s.Removes o) := by
  intro first s new
  refine ⟨fun hp => ?_, fun o hr => generator_ne_iff hr⟩
  have hnew : s.restart.1 = new := restart_run rules source generator hp
  have happly : s.apply .restart = (new, some s.restart.2) := by rw [← hnew]; rfl
  refine ⟨hnew, fun more => ⟨?_, ?_⟩⟩
  · calc
      first.run (operations ++ .restart :: more)
        = s.run (.restart :: more) := run_append ..
      _ = (s.apply .restart).1.run more := rfl
      _ = new.run more := by rw [happly]
  · calc
      first.reports (operations ++ .restart :: more)
        = first.reports operations ++ s.reports (.restart :: more) := reports_append ..
      _ = first.reports operations ++ s.restart.2 :: new.reports more := by
        rw [reports, happly, Option.toList_some, List.singleton_append]

/-- A game on two targets drawn from a range, which a removal ends. -/
theorem restart_forgets_drawnTargets :
    let rules := { twoRounds.rules with timeBudget := 3 }
    let source := TargetSource.between 1 9
    let first := ofRules rules source (.ofSeed 7)
    ∃ playing s, playing = first.run [.start] ∧ s = first.run [.start, .removeNumber] ∧
      s.phase = .finished ∧ s.restart.1 = ofRules rules source s.generator ∧
      first.run [.start, .removeNumber, .restart, .start, .tick] =
        (ofRules rules source s.generator).run [.start, .tick] ∧
      ¬ playing.Restarts .removeNumber ∧ playing.Removes .removeNumber ∧
      (playing.apply .removeNumber).1.generator ≠ playing.generator := by
  intro rules source first
  have hp : (first.run [.start, .removeNumber]).phase = .finished := by decide +kernel
  have hr : ¬ (first.run [.start]).Restarts .removeNumber := by simp [Restarts]
  have houtcome : ((first.run [.start]).apply .removeNumber).2.map Report.outcome =
      some (.removed 4) := by
    decide +kernel
  obtain ⟨r, hreport, hvalue⟩ := Option.map_eq_some_iff.1 houtcome
  have hremoves : (first.run [.start]).Removes .removeNumber := ⟨rfl, r, hreport, 4, hvalue⟩
  obtain ⟨hnew, hmore⟩ :=
    (restart_forgets rules source (.ofSeed 7) [.start, .removeNumber]).1 hp
  have hmoves := (restart_forgets rules source (.ofSeed 7) [.start]).2 .removeNumber hr
  exact ⟨_, _, rfl, rfl, hp, hnew, (hmore [.start, .tick]).1, hr, hremoves, hmoves.2 hremoves⟩

end ArithmeticGame.Session
