import ArithmeticGame.Session.Operation
/-!
# Steps of a session

What an operation can do to a session, as a relation with one case for each thing that can happen
and the guard under which it does. `step_apply` says that every operation takes one of these steps;
an invariant is kept along a run if each case keeps it.
-/
namespace ArithmeticGame

/-- What an operation makes of the input, if editing is all that it does. -/
def Operation.edit? : Operation → Option (List Char → List Char)
  | .push c => some (· ++ [c])
  | .backspace => some List.dropLast
  | .clear => some fun _ => []
  | _ => none

namespace Session

/-- The text that an operation holds against the target, if it does so. -/
def answer? (s : Session) : Operation → Option (List Char)
  | .submit text => some text
  | .submitTyped => some s.input
  | _ => none

/-- The phase leaves an operation without effect and without a message. -/
def Ignores (s : Session) : Operation → Prop
  | .start => s.phase ≠ .setup
  | .tick => s.phase ≠ .playing
  | .advance => s.phase ≠ .solved
  | .abandon => s.phase ≠ .playing ∧ s.phase ≠ .solved
  | .restart => s.phase ≠ .finished
  | _ => False

section report

variable (s : Session) (outcome : Outcome) (notice : Option Notice) (changed : List Nat)

@[simp] theorem report_session : (s.report outcome notice changed).1 = s := rfl

@[simp] theorem report_outcome : (s.report outcome notice changed).2.outcome = outcome := rfl

@[simp] theorem report_changed : (s.report outcome notice changed).2.changed = changed := rfl

@[simp] theorem unchanged_session : s.unchanged.1 = s := rfl

@[simp] theorem unchanged_report : s.unchanged.2 = (s.report .nothing none []).2 := rfl

end report

theorem check_ok {s : Session} {text : List Char} {a : Answer} (h : s.check text = .ok a) :
    s.phase = .playing ∧ s.target? = some a.target ∧ s.pool.acceptText text = .ok a.used ∧
      Expr.value text = .ok a.value := by
  unfold check at h
  split at h
  case h_5 target hp ht =>
    split at h
    · cases h
    · split at h
      · cases h
      · next used hused =>
        split at h
        · cases h
        · next value hvalue =>
          obtain rfl := Except.ok.inj h
          exact ⟨hp, ht, hused, hvalue⟩
  all_goals cases h

def afterHit (s : Session) (a : Answer) : Session :=
  { s with pool := (s.pool.use a.used).1, correct := s.correct + 1, input := [], phase := .solved }

def afterMiss (s : Session) : Session :=
  { s with seconds := Clock.spend s.seconds s.rules.penalty, input := [] }.finishIfOut

def afterRemoval (s : Session) (pool : Pool) (generator : Generator) : Session :=
  { s with pool, generator, seconds := Clock.credit s.seconds s.rules.removalBonus }.finishIfOut

theorem finishIfOut_eq (s : Session) : s.finishIfOut =
    { s with
      phase := if s.seconds = 0 then .finished else s.phase
      input := if s.seconds = 0 then [] else s.input } := by
  unfold finishIfOut
  split <;> rfl

theorem restart_of_finished {s : Session} (h : s.phase = .finished) :
    s.restart = (ofRules s.rules s.source s.generator).report .done none [] := by
  simp [restart, h, ofRules]

/-- What an operation does: the session after it, and its report. -/
inductive Step (s : Session) : Operation → Session → Option Report → Prop
  | ignored {o : Operation} (h : s.Ignores o) : Step s o s (some (s.report .nothing none []).2)
  | untouched {o : Operation} {f : List Char → List Char} (he : o.edit? = some f)
      (hp : s.phase ≠ .playing) : Step s o s none
  | refused {o : Operation} {text : List Char} {notice : Notice} (ha : s.answer? o = some text)
      (hc : s.check text = .error notice) :
      Step s o s (some (s.report .refused (some notice) []).2)
  | unremoved (hp : s.phase ≠ .playing) :
      Step s .removeNumber s (some (s.report .refused (some .removalOutsideRound) []).2)
  | exhausted {fault : PoolFault} (hp : s.phase = .playing)
      (hd : s.pool.discard s.generator = .error fault) :
      Step s .removeNumber s (some (s.report .done (some (.refused fault)) []).2)
  | noRounds (hp : s.phase = .setup) (ht : s.targets = []) :
      Step s .start { s with phase := .finished }
        (some ({ s with phase := .finished }.report .done (some .noRounds) []).2)
  | begun (hp : s.phase = .setup) (ht : s.targets ≠ []) :
      Step s .start { s with input := [], phase := .playing }
        (some ({ s with input := [], phase := .playing }.report .done none []).2)
  | edited {o : Operation} {f : List Char → List Char} (he : o.edit? = some f)
      (hp : s.phase = .playing) : Step s o { s with input := f s.input } none
  | solved {o : Operation} {text : List Char} {a : Answer} (ha : s.answer? o = some text)
      (hc : s.check text = .ok a) (hh : a.hits) :
      Step s o (s.afterHit a) (some ((s.afterHit a).report .hit
        (some (.solved (Expr.fullForm text) a.target)) (s.pool.use a.used).2).2)
  | missed {o : Operation} {text : List Char} {a : Answer} (ha : s.answer? o = some text)
      (hc : s.check text = .ok a) (hh : ¬ a.hits) :
      Step s o s.afterMiss (some (s.afterMiss.report (.miss a.value)
        (some (.missed (Expr.fullForm text) a.value a.target s.rules.penalty)) []).2)
  | ticked (hp : s.phase = .playing) (hs : Clock.spend s.seconds 1 ≠ 0) :
      Step s .tick { s with seconds := Clock.spend s.seconds 1 }
        (some ({ s with seconds := Clock.spend s.seconds 1 }.report .nothing none []).2)
  | timeUp (hp : s.phase = .playing) (hs : Clock.spend s.seconds 1 = 0) :
      Step s .tick { s with seconds := 0 }.finish
        (some ({ s with seconds := 0 }.finish.report .done (some .timeUp) []).2)
  | removed {value : Nat} {pool : Pool} {generator : Generator} (hp : s.phase = .playing)
      (hd : s.pool.discard s.generator = .ok (value, pool, generator)) :
      Step s .removeNumber (s.afterRemoval pool generator)
        (some ((s.afterRemoval pool generator).report (.removed value)
          (some (.removed value s.rules.removalBonus)) [value]).2)
  | advanced (hp : s.phase = .solved) (hr : s.round + 1 < s.targets.length) :
      Step s .advance { s with round := s.round + 1, input := [], phase := .playing }
        (some ({ s with round := s.round + 1, input := [], phase := .playing }.report .done none
          []).2)
  | cleared (hp : s.phase = .solved) (hr : s.targets.length ≤ s.round + 1) :
      Step s .advance s.finish (some (s.finish.report .done (some .allCleared) []).2)
  | abandoned (hp : s.phase = .playing ∨ s.phase = .solved) :
      Step s .abandon s.finish (some (s.finish.report .done (some .ended) []).2)
  | restarted (hp : s.phase = .finished) :
      Step s .restart (ofRules s.rules s.source s.generator)
        (some ((ofRules s.rules s.source s.generator).report .done none []).2)

theorem step_start (s : Session) : Step s .start s.start.1 (some s.start.2) := by
  by_cases hp : s.phase = .setup
  · by_cases ht : s.targets = []
    · simpa [start, hp, ht] using Step.noRounds hp ht
    · simpa [start, hp, ht] using Step.begun hp ht
  · simpa [start, hp] using Step.ignored (o := .start) hp

theorem step_edit {s : Session} {o : Operation} {f : List Char → List Char}
    (he : o.edit? = some f) {s' : Session}
    (hs : s' = if s.phase = .playing then { s with input := f s.input } else s) :
    Step s o s' none := by
  subst hs
  by_cases hp : s.phase = .playing
  · simpa [hp] using Step.edited he hp
  · simpa [hp] using Step.untouched he hp

theorem step_submit {s : Session} {o : Operation} {text : List Char}
    (ha : s.answer? o = some text) : Step s o (s.submit text).1 (some (s.submit text).2) := by
  unfold submit
  split
  · next notice hc => exact .refused ha hc
  · next a hc =>
    split
    · next hh => exact .solved ha hc hh
    · next hh => exact .missed ha hc hh

theorem step_tick (s : Session) : Step s .tick s.tick.1 (some s.tick.2) := by
  by_cases hp : s.phase = .playing
  · by_cases hs : Clock.spend s.seconds 1 = 0
    · simpa [tick, hp, hs] using Step.timeUp hp hs
    · simpa [tick, hp, hs] using Step.ticked hp hs
  · simpa [tick, hp] using Step.ignored (o := .tick) hp

theorem step_removeNumber (s : Session) :
    Step s .removeNumber s.removeNumber.1 (some s.removeNumber.2) := by
  unfold removeNumber
  split
  · next hp => exact .unremoved hp
  · next hp =>
    rw [ne_eq, Decidable.not_not] at hp
    split
    · next fault hd => exact .exhausted hp hd
    · next value pool generator hd => exact .removed hp hd

theorem step_advance (s : Session) : Step s .advance s.advance.1 (some s.advance.2) := by
  by_cases hp : s.phase = .solved
  · by_cases hr : s.round + 1 < s.targets.length
    · simpa [advance, hp, hr] using Step.advanced hp hr
    · simpa [advance, hp, hr] using Step.cleared hp (Nat.le_of_not_lt hr)
  · simpa [advance, hp] using Step.ignored (o := .advance) hp

theorem step_abandon (s : Session) : Step s .abandon s.abandon.1 (some s.abandon.2) := by
  unfold abandon
  split
  · next hp => exact .abandoned hp
  · next hp => exact .ignored (o := .abandon) (not_or.1 hp)

theorem step_restart (s : Session) : Step s .restart s.restart.1 (some s.restart.2) := by
  by_cases hp : s.phase = .finished
  · rw [restart_of_finished hp]
    exact .restarted hp
  · simpa [restart, hp] using Step.ignored (o := .restart) hp

theorem step_apply (s : Session) (o : Operation) : Step s o (s.apply o).1 (s.apply o).2 := by
  cases o with
  | start => exact step_start s
  | push c => exact step_edit (f := (· ++ [c])) rfl (by simp only [apply, push]; split <;> rfl)
  | backspace =>
    exact step_edit (f := List.dropLast) rfl (by simp only [apply, backspace]; split <;> rfl)
  | clear => exact step_edit (f := fun _ => []) rfl rfl
  | submit text => exact step_submit rfl
  | submitTyped => exact step_submit rfl
  | tick => exact step_tick s
  | removeNumber => exact step_removeNumber s
  | advance => exact step_advance s
  | abandon => exact step_abandon s
  | restart => exact step_restart s

end Session
end ArithmeticGame
