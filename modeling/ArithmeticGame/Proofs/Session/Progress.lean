import ArithmeticGame.Proofs.Pool.States
import ArithmeticGame.Proofs.Session.Run
/-!
# Rounds and right answers

How the phase, the current round and the count of right answers go together. Nothing in a session
stores the relation; every operation keeps it. Each right answer uses up at least one number of the
pool, which bounds the count.
-/
namespace ArithmeticGame.Session

theorem check_ne_noRoundInPlay {s : Session} (h : s.phase = .playing → s.target?.isSome)
    (text : List Char) : s.check text ≠ .error .noRoundInPlay := by
  unfold check
  split
  · simp
  · simp
  · simp
  · next hp ht =>
    have := h hp
    rw [ht] at this
    cases this
  · repeat' split
    all_goals simp

/-- The current round and the count of right answers in each phase. -/
def Tally (s : Session) : Prop :=
  match s.phase with
  | .setup => s.round = 0 ∧ s.correct = 0
  | .playing => s.round < s.targets.length ∧ s.correct = s.round
  | .solved => s.round < s.targets.length ∧ s.correct = s.round + 1
  | .finished =>
    (s.correct = s.round ∨ s.correct = s.round + 1) ∧ s.correct ≤ s.targets.length

/-- The pool has the size that the rules ask for, and a used number for each right answer. -/
def Backed (s : Session) : Prop :=
  s.pool.size = s.rules.poolSize ∧ s.correct ≤ s.pool.count .used

variable {s s' : Session} {o : Operation} {report : Option Report}

theorem tally_ofRules (rules : Rules) (source : TargetSource) (generator : Generator) :
    (ofRules rules source generator).Tally := ⟨rfl, rfl⟩

theorem backed_ofRules (rules : Rules) (source : TargetSource) (generator : Generator) :
    (ofRules rules source generator).Backed := ⟨Pool.size_full _, Nat.zero_le _⟩

theorem Tally.finish (hp : s.phase = .playing ∨ s.phase = .solved) (h : s.Tally) :
    s.finish.Tally := by
  simp only [Tally, Session.finish]
  obtain hp | hp := hp
  all_goals
    simp only [Tally, hp] at h
    omega

theorem Tally.finishIfOut (hp : s.phase = .playing) (h : s.Tally) : s.finishIfOut.Tally := by
  unfold Session.finishIfOut
  split
  · exact h.finish (.inl hp)
  · exact h

theorem Step.tally (h : Step s o s' report) (ht : s.Tally) : s'.Tally := by
  cases h with
  | ignored | untouched | refused | unremoved | exhausted | edited | ticked => exact ht
  | noRounds hp =>
    simp only [Tally, hp] at ht ⊢
    omega
  | begun hp htargets =>
    have := List.length_pos_iff.2 htargets
    simp only [Tally, hp] at ht ⊢
    omega
  | solved _ hc =>
    simp only [Tally, (check_ok hc).1] at ht
    simp only [Tally, afterHit]
    omega
  | missed _ hc =>
    have hp := (check_ok hc).1
    exact Tally.finishIfOut hp ht
  | removed hp => exact Tally.finishIfOut hp ht
  | advanced hp hr =>
    simp only [Tally, hp] at ht ⊢
    omega
  | timeUp hp => exact Tally.finish (.inl hp) ht
  | cleared hp => exact ht.finish (.inr hp)
  | abandoned hp => exact ht.finish hp
  | restarted => exact tally_ofRules ..

theorem Step.backed (h : Step s o s' report) (hb : s.Backed) : s'.Backed := by
  cases h with
  | ignored | untouched | refused | unremoved | exhausted | noRounds | begun | edited | ticked
  | timeUp | advanced | cleared | abandoned => exact hb
  | solved _ hc =>
    obtain ⟨-, -, haccept, -⟩ := check_ok hc
    obtain ⟨hne, hav⟩ := Pool.acceptText_ok haccept
    -- the first number is available, so at least one number becomes used
    obtain ⟨value, hv⟩ := List.exists_mem_of_ne_nil _ hne
    have hlen := List.length_pos_of_mem (Pool.mem_use.2 ⟨hv, hav value hv⟩)
    refine ⟨(Pool.size_use ..).trans hb.1, ?_⟩
    simp only [afterHit, Pool.count_used_use]
    have := hb.2
    omega
  | missed =>
    rw [afterMiss, finishIfOut_eq]
    exact hb
  | removed _ hd =>
    obtain ⟨-, hpool⟩ := Pool.discard_ok hd
    rw [afterRemoval, finishIfOut_eq]
    refine ⟨?_, (Pool.count_used_discard hd).symm ▸ hb.2⟩
    simp only [hpool, Pool.size_setState]
    exact hb.1
  | restarted => exact backed_ofRules ..

theorem Tally.target_isSome (h : s.Tally) (hp : s.phase = .playing ∨ s.phase = .solved) :
    s.target?.isSome := by
  rw [target?, isSome_getElem?]
  obtain hp | hp := hp
  all_goals
    simp only [Tally, hp] at h
    exact h.1

theorem Tally.correct_le_played (h : s.Tally) (hp : s.phase ≠ .setup) :
    s.correct ≤ s.summary.played := by
  simp only [summary, if_neg hp]
  cases hphase : s.phase with
  | setup => exact absurd hphase hp
  | playing | solved | finished =>
    simp only [Tally, hphase] at h
    omega

theorem summary_played_le (s : Session) : s.summary.played ≤ s.summary.rounds := by
  simp only [summary]
  split
  · exact Nat.zero_le _
  · exact Nat.min_le_right ..

theorem Step.correct_of_allCleared {r : Report} (h : Step s .advance s' (some r)) (ht : s.Tally)
    (hr : r.notice = some .allCleared) : s'.correct = s'.targets.length := by
  cases h with
  | cleared hp hround =>
    simp only [Tally, hp] at ht
    simp only [Session.finish]
    omega
  | refused ha | solved ha | missed ha => cases ha
  | ignored | advanced => cases hr

theorem Step.correct_of_hit {r : Report} (h : Step s o s' (some r)) (hr : r.outcome = .hit) :
    s'.correct = s.correct + 1 := by
  cases h with
  | solved => rfl
  | _ => cases hr

theorem Backed.correct_le (h : s.Backed) : s.correct ≤ s.rules.poolSize :=
  h.1 ▸ Nat.le_trans h.2 (s.pool.count_le_size .used)

/-- In every run the count of right answers goes with the phase and the round, and with the used
numbers, so that it never leaves its word. -/
theorem counts_rounds {first : Session} (hfirst : first.Begins)
    (hsize : first.rules.poolSize < UInt32.size) (operations : List Operation) :
    let s := first.run operations
    s.Tally ∧
    (s.phase ≠ .setup → s.correct ≤ s.summary.played ∧ s.summary.played ≤ s.summary.rounds) ∧
    (s.phase = .playing ∨ s.phase = .solved → s.target?.isSome) ∧
    (∀ text, s.check text ≠ .error .noRoundInPlay) ∧
    (s.advance.2.notice = some .allCleared →
      s.advance.1.correct = s.advance.1.targets.length) ∧
    s.correct ≤ s.pool.count .used ∧ s.pool.count .used ≤ first.rules.poolSize ∧
    ∀ text, (s.submit text).2.outcome = .hit →
      (s.submit text).1.correct = s.correct + 1 ∧ s.correct + 1 < UInt32.size := by
  intro s
  have hrules : s.rules = first.rules := run_rules ..
  obtain ⟨rules, source, generator, rfl⟩ := hfirst.exists_ofRules
  have htally : s.Tally := run_induction Step.tally (tally_ofRules ..) operations
  have hbacked : s.Backed := run_induction Step.backed (backed_ofRules ..) operations
  refine ⟨htally, ?_, htally.target_isSome, ?_, ?_, hbacked.2, ?_, ?_⟩
  · exact fun hp => ⟨htally.correct_le_played hp, s.summary_played_le⟩
  · exact check_ne_noRoundInPlay fun hp => htally.target_isSome (.inl hp)
  · exact s.step_advance.correct_of_allCleared htally
  · rw [← hrules, ← hbacked.1]
    exact s.pool.count_le_size .used
  · intro text hhit
    have hstep : Step s (.submit text) (s.submit text).1 (some (s.submit text).2) :=
      step_submit rfl
    have hcorrect := hstep.correct_of_hit hhit
    have hle := (hstep.backed hbacked).correct_le
    rw [hstep.rules_eq, hrules] at hle
    omega

theorem counts_rounds_twoRounds :
    let s := twoRounds.run twoRoundsPlayed.dropLast
    twoRounds.Begins ∧ twoRounds.rules.poolSize < UInt32.size ∧
    s.phase = .solved ∧ s.advance.2.notice = some .allCleared ∧
    s.Tally ∧ s.correct ≤ s.summary.played ∧ s.target?.isSome ∧
    s.advance.1.correct = s.advance.1.targets.length ∧ s.correct ≤ s.pool.count .used := by
  intro s
  have hfirst : twoRounds.Begins := .built _ _ _
  have hsize : twoRounds.rules.poolSize < UInt32.size := by decide
  have hp : s.phase = .solved := by decide +kernel
  have ha : s.advance.2.notice = some .allCleared := by decide +kernel
  obtain ⟨htally, hplayed, htarget, -, hcleared, hused, -⟩ :=
    counts_rounds hfirst hsize twoRoundsPlayed.dropLast
  have hsetup : s.phase ≠ .setup := by simp [hp]
  exact ⟨hfirst, hsize, hp, ha, htally, (hplayed hsetup).1, htarget (.inr hp), hcleared ha, hused⟩

end ArithmeticGame.Session
