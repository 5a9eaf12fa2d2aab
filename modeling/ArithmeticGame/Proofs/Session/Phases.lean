import ArithmeticGame.Proofs.Session.Run
/-!
# Phases

Which operation takes a session from which phase to which other, and under what condition on the
session before. An operation that a phase does not heed changes nothing at all; the targets and the
rules outlast every change of phase within a game.
-/
namespace ArithmeticGame

/-- What can have an effect in a phase. While a round is played that is everything. -/
def Phase.Heeds : Phase → Operation → Prop
  | .setup, o => o = .start
  | .playing, _ => True
  | .solved, o => o = .advance ∨ o = .abandon
  | .finished, o => o = .restart

namespace Session

/-- The changes of phase, each with the operation that makes it. -/
inductive Turns (s : Session) : Operation → Phase → Phase → Prop
  | begun (ht : s.targets ≠ []) : Turns s .start .setup .playing
  | noRounds (ht : s.targets = []) : Turns s .start .setup .finished
  | solved {o : Operation} {text : List Char} {report : Report} (ha : s.answer? o = some text)
      (hr : (s.apply o).2 = some report) (hit : report.outcome = .hit) :
      Turns s o .playing .solved
  | missed {o : Operation} {text : List Char} {report : Report} {value : Float}
      (ha : s.answer? o = some text) (hr : (s.apply o).2 = some report)
      (miss : report.outcome = .miss value) (hs : s.seconds ≤ s.rules.penalty) :
      Turns s o .playing .finished
  | timeUp (hs : s.seconds ≤ 1) : Turns s .tick .playing .finished
  | removed {report : Report} {value : Nat} (hr : (s.apply .removeNumber).2 = some report)
      (removal : report.outcome = .removed value)
      (hs : (s.seconds.toNat : Int) + s.rules.removalBonus.toInt ≤ 0) :
      Turns s .removeNumber .playing .finished
  | abandoned {p : Phase} (hp : p = .playing ∨ p = .solved) : Turns s .abandon p .finished
  | advanced (hr : s.round + 1 < s.targets.length) : Turns s .advance .solved .playing
  | cleared (hr : s.targets.length ≤ s.round + 1) : Turns s .advance .solved .finished
  | restarted : Turns s .restart .finished .setup

variable {s s' : Session} {o : Operation} {report : Option Report}

/-! ## Changes of phase -/

theorem phase_afterMiss (s : Session) :
    s.afterMiss.phase = if s.seconds ≤ s.rules.penalty then .finished else s.phase := by
  simp only [afterMiss, finishIfOut_eq, Clock.spend_eq_zero]

theorem phase_afterRemoval (s : Session) (pool : Pool) (generator : Generator) :
    (s.afterRemoval pool generator).phase =
      if (s.seconds.toNat : Int) + s.rules.removalBonus.toInt ≤ 0 then .finished else s.phase := by
  simp only [afterRemoval, finishIfOut_eq, Clock.credit_eq_zero]

theorem Step.phase_of_hit {r : Report} (h : Step s o s' (some r)) (hr : r.outcome = .hit) :
    s'.phase = .solved := by
  cases h with
  | solved => rfl
  | _ => cases hr

theorem Step.phase_of_miss {r : Report} {value : Float} (h : Step s o s' (some r))
    (hr : r.outcome = .miss value) :
    s'.phase = if s.seconds ≤ s.rules.penalty then .finished else s.phase := by
  cases h with
  | missed => exact s.phase_afterMiss
  | _ => cases hr

theorem Step.phase_of_removed {r : Report} {value : Nat} (h : Step s o s' (some r))
    (hr : r.outcome = .removed value) :
    s'.phase = if (s.seconds.toNat : Int) + s.rules.removalBonus.toInt ≤ 0 then .finished
      else s.phase := by
  cases h with
  | removed => exact s.phase_afterRemoval ..
  | _ => cases hr

/-- There are no other changes of phase. -/
theorem Step.turns (h : Step s o s' report) (hr : (s.apply o).2 = report)
    (hne : s'.phase ≠ s.phase) : s.Turns o s.phase s'.phase := by
  cases h with
  | ignored | untouched | refused | unremoved | exhausted | edited | ticked => exact absurd rfl hne
  | noRounds hp ht =>
    rw [hp]
    exact .noRounds ht
  | begun hp ht =>
    rw [hp]
    exact .begun ht
  | solved ha hc =>
    rw [(check_ok hc).1]
    exact .solved ha hr rfl
  | missed ha hc =>
    rw [phase_afterMiss] at hne ⊢
    split at hne
    · next hs =>
      rw [if_pos hs, (check_ok hc).1]
      exact .missed ha hr rfl hs
    · exact absurd rfl hne
  | timeUp hp hs =>
    rw [hp]
    exact .timeUp (Clock.spend_eq_zero.1 hs)
  | removed hp =>
    rw [phase_afterRemoval] at hne ⊢
    split at hne
    · next hs =>
      rw [if_pos hs, hp]
      exact .removed hr rfl hs
    · exact absurd rfl hne
  | advanced hp hround =>
    rw [hp]
    exact .advanced hround
  | cleared hp hround =>
    rw [hp]
    exact .cleared hround
  | abandoned hp => exact .abandoned hp
  | restarted hp =>
    rw [hp]
    exact .restarted

/-- All of them take place. -/
theorem Turns.phase_apply {p next : Phase} (h : s.Turns o p next) (hp : s.phase = p) :
    (s.apply o).1.phase = next ∧ next ≠ p := by
  have hstep := s.step_apply o
  cases h with
  | begun ht => simp [apply, start, hp, ht]
  | noRounds ht => simp [apply, start, hp, ht]
  | solved ha hr hit =>
    rw [hr] at hstep
    exact ⟨hstep.phase_of_hit hit, by decide⟩
  | missed ha hr miss hs =>
    rw [hr] at hstep
    have hphase := hstep.phase_of_miss miss
    rw [if_pos hs] at hphase
    exact ⟨hphase, by decide⟩
  | timeUp hs => simp [apply, tick, hp, Clock.spend_eq_zero.2 hs, finish]
  | removed hr removal hs =>
    rw [hr] at hstep
    have hphase := hstep.phase_of_removed removal
    rw [if_pos hs] at hphase
    exact ⟨hphase, by decide⟩
  | abandoned hlive =>
    rw [← hp] at hlive ⊢
    obtain hlive | hlive := hlive
    · simp [apply, abandon, hlive, finish]
    · simp [apply, abandon, hlive, finish]
  | advanced hround => simp [apply, advance, hp, hround]
  | cleared hround => simp [apply, advance, hp, Nat.not_lt.2 hround, finish]
  | restarted =>
    simp only [apply, restart_of_finished hp]
    exact ⟨rfl, by decide⟩

theorem phase_apply_iff (s : Session) (o : Operation) (next : Phase) :
    (s.apply o).1.phase = next ∧ next ≠ s.phase ↔ s.Turns o s.phase next := by
  constructor
  · rintro ⟨rfl, hne⟩
    exact (s.step_apply o).turns rfl hne
  · exact fun h => h.phase_apply rfl

/-! ## Operations that a phase does not heed -/

theorem Step.eq_self (h : Step s o s' report) (ho : ¬ s.phase.Heeds o) : s' = s := by
  cases h with
  | ignored | untouched | refused | unremoved => rfl
  | edited _ hp | exhausted hp | noRounds hp | begun hp | ticked hp | timeUp hp | removed hp
  | advanced hp | cleared hp | restarted hp => simp [hp, Phase.Heeds] at ho
  | solved _ hc | missed _ hc =>
    have hp := (check_ok hc).1
    simp [hp, Phase.Heeds] at ho
  | abandoned hp => obtain hp | hp := hp <;> simp [hp, Phase.Heeds] at ho

theorem run_eq_self {operations : List Operation} (h : ∀ o ∈ operations, ¬ s.phase.Heeds o) :
    s.run operations = s := by
  induction operations with
  | nil => rfl
  | cons o operations ih =>
    have hstep : (s.apply o).1 = s := (s.step_apply o).eq_self (h o (by simp))
    rw [run, List.foldl_cons, hstep]
    exact ih fun other hother => h other (by simp [hother])

/-! ## What outlasts a change of phase -/

/-- Nothing is composed outside of a round. -/
def Tidy (s : Session) : Prop := s.phase ≠ .playing → s.input = []

theorem Step.tidy (h : Step s o s' report) (ht : s.Tidy) : s'.Tidy := by
  intro hp'
  cases h with
  | ignored | untouched | refused | unremoved | exhausted => exact ht hp'
  | edited _ hp | ticked hp => exact absurd hp hp'
  | noRounds hp => exact ht (by simp [hp])
  | begun | solved | timeUp | advanced | cleared | abandoned | restarted => rfl
  | missed =>
    rw [afterMiss, finishIfOut_eq]
    exact ite_self []
  | removed hp =>
    -- the game is over, or the round goes on and with it the input
    rw [afterRemoval, finishIfOut_eq] at hp' ⊢
    split at hp'
    · next hs => exact if_pos hs
    · exact absurd hp hp'

theorem Step.course (h : Step s o s' report) (hr : ¬ s.Restarts o) :
    s'.targets = s.targets ∧ s.round ≤ s'.round ∧ s'.round ≤ s.round + 1 := by
  cases h with
  | ignored | untouched | refused | unremoved | exhausted | noRounds | begun | edited | solved
  | ticked | timeUp | advanced | cleared | abandoned =>
    simp [afterHit, finish]
  | missed =>
    rw [afterMiss, finishIfOut_eq]
    simp
  | removed =>
    rw [afterRemoval, finishIfOut_eq]
    simp
  | restarted hp => exact absurd ⟨rfl, hp⟩ hr

theorem SameGame.targets_eq {operations : List Operation} (h : s.SameGame operations) :
    (s.run operations).targets = s.targets := by
  induction operations generalizing s with
  | nil => rfl
  | cons o operations ih =>
    have hstep := (s.step_apply o).course h.1
    exact (ih h.2).trans hstep.1

/-- The phase of a session changes just where the rules of the game say so, and whatever the phase
does not heed leaves the session as it is. -/
theorem phases_turn {first : Session} (hfirst : first.Begins) (operations : List Operation) :
    let s := first.run operations
    (∀ o next, (s.apply o).1.phase = next ∧ next ≠ s.phase ↔ s.Turns o s.phase next) ∧
    (∀ idle : List Operation, (∀ o ∈ idle, ¬ s.phase.Heeds o) → s.run idle = s) ∧
    (s.phase ≠ .playing → s.input = []) ∧
    (∀ o, ¬ s.Restarts o → s.round ≤ (s.apply o).1.round ∧ (s.apply o).1.round ≤ s.round + 1) ∧
    (∀ more, s.SameGame more → (s.run more).targets = s.targets) ∧
    s.rules = first.rules := by
  intro s
  obtain ⟨rules, source, generator, rfl⟩ := hfirst.exists_ofRules
  have hstart : (ofRules rules source generator).Tidy := fun _ => rfl
  have htidy : s.Tidy := run_induction Step.tidy hstart operations
  exact ⟨s.phase_apply_iff, fun idle => run_eq_self, htidy,
    fun o hr => ((s.step_apply o).course hr).2, fun more => SameGame.targets_eq, run_rules ..⟩

theorem phases_turn_twoRounds :
    let s := twoRounds.run [.start, .submit ['1', '+', '2']]
    let idle : List Operation := [.tick, .push '4', .submit ['3'], .removeNumber, .restart]
    twoRounds.Begins ∧ s.Turns .advance .solved .playing ∧ (s.apply .advance).1.phase = .playing ∧
      (∀ o ∈ idle, ¬ s.phase.Heeds o) ∧ s.run idle = s ∧ s.phase ≠ .playing ∧ s.input = [] ∧
      ¬ s.Restarts .advance ∧ (s.apply .advance).1.round ≤ s.round + 1 ∧
      s.SameGame [.advance, .abandon] ∧ (s.run [.advance, .abandon]).targets = s.targets := by
  intro s idle
  have hfirst : twoRounds.Begins := .built _ _ _
  have hp : s.phase = .solved := by decide +kernel
  have hround : s.round + 1 < s.targets.length := by decide +kernel
  have hturn : s.Turns .advance s.phase .playing := hp ▸ .advanced hround
  have hidle : ∀ o ∈ idle, ¬ s.phase.Heeds o := by simp [idle, hp, Phase.Heeds]
  have hlive : s.phase ≠ .playing := by simp [hp]
  have hr : ¬ s.Restarts .advance := by simp [Restarts]
  have hgame : s.SameGame [.advance, .abandon] := by simp [SameGame, Restarts]
  obtain ⟨hturns, hself, hinput, hcourse, htargets, -⟩ :=
    phases_turn hfirst [.start, .submit ['1', '+', '2']]
  exact ⟨hfirst, hp ▸ hturn, ((hturns .advance .playing).2 hturn).1, hidle, hself idle hidle,
    hlive, hinput hlive, hr, (hcourse .advance hr).2, hgame, htargets _ hgame⟩

end Session
end ArithmeticGame
