import ArithmeticGame.Proofs.Session.Phases
import Mathlib.Data.List.Induction
import Mathlib.Tactic.Ring
/-!
# The clock as a balance

The clock saturates at both ends of its word, but only where the game is over. As long as it is not,
the clock shows the time budget with all bonuses added and all penalties and ticks taken away.
-/
namespace ArithmeticGame

namespace Outcome

def isMiss : Outcome → Bool
  | miss _ => true
  | _ => false

def isRemoval : Outcome → Bool
  | removed _ => true
  | _ => false

end Outcome

def misses (reports : List Report) : Nat := reports.countP fun r => r.outcome.isMiss

def removals (reports : List Report) : Nat := reports.countP fun r => r.outcome.isRemoval

namespace Session

/-- The operation is a second of the clock while it runs. -/
def Ticks (s : Session) (o : Operation) : Prop := o = .tick ∧ s.phase = .playing

instance (s : Session) (o : Operation) : Decidable (s.Ticks o) :=
  inferInstanceAs (Decidable (o = .tick ∧ s.phase = .playing))

def ticks (s : Session) : List Operation → Nat
  | [] => 0
  | o :: operations => (if s.Ticks o then 1 else 0) + (s.apply o).1.ticks operations

def gain (s : Session) (operations : List Operation) : Int :=
  removals (s.reports operations) * s.rules.removalBonus.toInt -
    misses (s.reports operations) * s.rules.penalty.toNat - s.ticks operations

def balance (s : Session) (operations : List Operation) : Int :=
  s.rules.timeBudget.toNat + s.gain operations

/-- With the time budget and all bonuses, losses left out, the clock stays within its word. -/
def FitsClock (s : Session) (operations : List Operation) : Prop :=
  s.rules.timeBudget.toNat +
    removals (s.reports operations) * max s.rules.removalBonus.toInt 0 < UInt32.size

instance (s : Session) (operations : List Operation) : Decidable (s.FitsClock operations) :=
  inferInstanceAs (Decidable ((_ : Int) < _))

/-- The operation ends the game in the middle of a round, and the player does not give up. -/
def EndsByClock (s : Session) (o : Operation) : Prop :=
  s.phase = .playing ∧ (s.apply o).1.phase = .finished ∧ o ≠ .abandon

instance (s : Session) (o : Operation) : Decidable (s.EndsByClock o) :=
  inferInstanceAs (Decidable (s.phase = .playing ∧ (s.apply o).1.phase = .finished ∧ o ≠ .abandon))

/-- A step with this report is one of those that move the clock. -/
def Counts (s : Session) (o : Operation) (report : Option Report) : Prop :=
  s.Ticks o ∨ ∃ r ∈ report, r.outcome.isMiss ∨ r.outcome.isRemoval

def worth (s : Session) (o : Operation) (report : Option Report) : Int :=
  removals report.toList * s.rules.removalBonus.toInt -
    misses report.toList * s.rules.penalty.toNat - (if s.Ticks o then 1 else 0)

variable {s s' : Session} {o : Operation} {report : Option Report}

/-! ## One step -/

/-- The step leaves the clock alone, and ends a round only if the player gives it up. -/
structure KeepsClock (s : Session) (o : Operation) (s' : Session) (report : Option Report) :
    Prop where
  not_counts : ¬ s.Counts o report
  seconds : s'.seconds = s.seconds
  abandoned : s.phase = .playing → s'.phase = .finished → o = .abandon

/-- The step moves the clock by what it is worth, and ends the game just when no seconds are
left. -/
structure MovesClock (s : Session) (o : Operation) (s' : Session) (report : Option Report) :
    Prop where
  counts : s.Counts o report
  playing : s.phase = .playing
  ne_abandon : o ≠ .abandon
  seconds : (s'.seconds.toNat : Int) =
    min (max 0 (s.seconds.toNat + s.worth o report)) (UInt32.size - 1)
  finished : s'.phase = .finished ↔ s'.seconds = 0

theorem MovesClock.one_le (h : MovesClock s o s' report) (hlive : s'.phase ≠ .finished) :
    1 ≤ s'.seconds.toNat := by
  have hne : s'.seconds.toNat ≠ 0 := fun hzero => hlive (h.finished.2 (UInt32.toNat_inj.1 hzero))
  omega

theorem not_ticks_of_ne (h : o ≠ .tick) : ¬ s.Ticks o := fun ht => h ht.1

theorem ne_tick_of_edit? {f : List Char → List Char} (h : o.edit? = some f) : o ≠ .tick := by
  rintro rfl
  cases h

theorem ne_of_answer? {text : List Char} (h : s.answer? o = some text) :
    o ≠ .tick ∧ o ≠ .abandon := by
  constructor
  all_goals
    rintro rfl
    cases h

theorem not_counts_none (ht : ¬ s.Ticks o) : ¬ s.Counts o none := by
  simpa [Counts] using ht

theorem not_counts_some {r : Report} (ht : ¬ s.Ticks o) (hm : r.outcome.isMiss = false)
    (hr : r.outcome.isRemoval = false) : ¬ s.Counts o (some r) := by
  simpa [Counts, hm, hr] using ht

theorem worth_of_not_counts (h : ¬ s.Counts o report) : s.worth o report = 0 := by
  obtain ⟨ht, hr⟩ := not_or.1 h
  cases report with
  | none => simp [worth, misses, removals, ht]
  | some r =>
    obtain ⟨hm, hr⟩ : ¬ r.outcome.isMiss ∧ ¬ r.outcome.isRemoval := by simpa using hr
    simp [worth, misses, removals, ht, hm, hr]

theorem worth_of_miss {r : Report} {value : Float} (ht : ¬ s.Ticks o)
    (h : r.outcome = .miss value) : s.worth o (some r) = -s.rules.penalty.toNat := by
  simp [worth, misses, removals, ht, h, Outcome.isMiss, Outcome.isRemoval]

theorem worth_of_removed {r : Report} {value : Nat} (ht : ¬ s.Ticks o)
    (h : r.outcome = .removed value) : s.worth o (some r) = s.rules.removalBonus.toInt := by
  simp [worth, misses, removals, ht, h, Outcome.isMiss, Outcome.isRemoval]

theorem worth_of_ticks {r : Report} (ht : s.Ticks o) (hm : r.outcome.isMiss = false)
    (hr : r.outcome.isRemoval = false) : s.worth o (some r) = -1 := by
  simp [worth, misses, removals, ht, hm, hr]

theorem KeepsClock.of_phase (hc : ¬ s.Counts o report) (hs : s'.seconds = s.seconds)
    (hp : s.phase = .playing → s'.phase ≠ .finished) : KeepsClock s o s' report :=
  ⟨hc, hs, fun h hf => absurd hf (hp h)⟩

theorem Step.keeps_or_moves (h : Step s o s' report) (hr : ¬ s.Restarts o) :
    KeepsClock s o s' report ∨ MovesClock s o s' report := by
  have hlt := s.seconds.toNat_lt
  cases h with
  | ignored h =>
    have ht : ¬ s.Ticks o := by
      rintro ⟨rfl, hp⟩
      exact h hp
    exact .inl (.of_phase (not_counts_some ht rfl rfl) rfl fun hp => by simp [hp])
  | untouched he hp =>
    have ht : ¬ s.Ticks o := not_ticks_of_ne (ne_tick_of_edit? he)
    exact .inl (.of_phase (not_counts_none ht) rfl fun h => absurd h hp)
  | edited he hp =>
    have ht : ¬ s.Ticks o := not_ticks_of_ne (ne_tick_of_edit? he)
    exact .inl (.of_phase (not_counts_none ht) rfl fun _ => by simp [hp])
  | refused ha hc =>
    have ht : ¬ s.Ticks o := not_ticks_of_ne (ne_of_answer? ha).1
    exact .inl (.of_phase (not_counts_some ht rfl rfl) rfl fun hp => by simp [hp])
  | solved ha hc hh =>
    have ht : ¬ s.Ticks o := not_ticks_of_ne (ne_of_answer? ha).1
    exact .inl (.of_phase (not_counts_some ht rfl rfl) rfl fun _ => by simp [afterHit])
  | unremoved hp | noRounds hp | begun hp | advanced hp | cleared hp =>
    refine .inl (.of_phase (not_counts_some (not_ticks_of_ne (by simp)) rfl rfl) rfl fun h => ?_)
    simp [h] at hp
  | exhausted hp =>
    have ht : ¬ s.Ticks .removeNumber := not_ticks_of_ne (by simp)
    exact .inl (.of_phase (not_counts_some ht rfl rfl) rfl fun _ => by simp [hp])
  | abandoned hp =>
    have ht : ¬ s.Ticks .abandon := not_ticks_of_ne (by simp)
    exact .inl ⟨not_counts_some ht rfl rfl, rfl, fun _ _ => rfl⟩
  | restarted hp => exact absurd ⟨rfl, hp⟩ hr
  | missed ha hc =>
    have hp := (check_ok hc).1
    obtain ⟨htick, habandon⟩ := ne_of_answer? ha
    refine .inr ⟨.inr ⟨_, rfl, .inl rfl⟩, hp, habandon, ?_, ?_⟩
    · rw [worth_of_miss (not_ticks_of_ne htick) rfl, afterMiss, finishIfOut_eq, Clock.toNat_spend]
      simp only [UInt32.size]
      omega
    · simp [afterMiss, finishIfOut_eq, hp]
  | removed hp hd =>
    have ht : ¬ s.Ticks .removeNumber := not_ticks_of_ne (by simp)
    refine .inr ⟨.inr ⟨_, rfl, .inr rfl⟩, hp, by simp, ?_, ?_⟩
    · rw [worth_of_removed ht rfl, afterRemoval, finishIfOut_eq, Clock.toNat_credit]
      simp only [UInt32.size]
      omega
    · simp [afterRemoval, finishIfOut_eq, hp]
  | ticked hp hs =>
    have ht : s.Ticks .tick := ⟨rfl, hp⟩
    refine .inr ⟨.inl ht, hp, by simp, ?_, by simp [hp, hs]⟩
    rw [worth_of_ticks ht rfl rfl, Clock.toNat_spend]
    simp only [UInt32.size, UInt32.toNat_one]
    omega
  | timeUp hp hs =>
    have ht : s.Ticks .tick := ⟨rfl, hp⟩
    have hzero := congrArg UInt32.toNat hs
    rw [Clock.toNat_spend, UInt32.toNat_one, UInt32.toNat_zero] at hzero
    refine .inr ⟨.inl ht, hp, by simp, ?_, by simp [finish]⟩
    rw [worth_of_ticks ht rfl rfl]
    simp only [finish, UInt32.size, UInt32.toNat_zero]
    omega

theorem Step.eq_of_finished (h : Step s o s' report) (hr : ¬ s.Restarts o)
    (hp : s.phase = .finished) : s' = s := by
  have hne : o ≠ .restart := fun ho => hr ⟨ho, hp⟩
  exact h.eq_self (by simpa [hp, Phase.Heeds] using hne)

theorem Step.report_seconds {r : Report} (h : Step s o s' (some r)) : r.seconds = s'.seconds :=
  h.report_state.2.1

theorem endsByClock_iff (hr : ¬ s.Restarts o) :
    s.EndsByClock o ↔ s.Counts o (s.apply o).2 ∧ (s.apply o).1.seconds = 0 := by
  rcases (s.step_apply o).keeps_or_moves hr with hk | hm
  · constructor
    · rintro ⟨hp, hf, hne⟩
      exact absurd (hk.abandoned hp hf) hne
    · rintro ⟨hc, -⟩
      exact absurd hc hk.not_counts
  · constructor
    · rintro ⟨-, hf, -⟩
      exact ⟨hm.counts, hm.finished.1 hf⟩
    · rintro ⟨-, hzero⟩
      exact ⟨hm.playing, hm.finished.2 hzero, hm.ne_abandon⟩

/-! ## Runs -/

theorem ticks_append (s : Session) (operations more : List Operation) :
    s.ticks (operations ++ more) = s.ticks operations + (s.run operations).ticks more := by
  induction operations generalizing s with
  | nil => simp [ticks, run]
  | cons o operations ih =>
    simp only [List.cons_append, ticks, ih, run, List.foldl_cons]
    omega

theorem gain_append (s : Session) (operations more : List Operation) :
    s.gain (operations ++ more) = s.gain operations + (s.run operations).gain more := by
  simp only [gain, run_rules, reports_append, ticks_append, removals, misses, List.countP_append]
  push_cast
  ring

theorem gain_singleton (s : Session) (o : Operation) :
    s.gain [o] = s.worth o (s.apply o).2 := by
  simp only [gain, worth, reports, ticks, List.append_nil, Nat.add_zero]
  split <;> rfl

theorem balance_concat (s : Session) (operations : List Operation) (o : Operation) :
    s.balance (operations ++ [o]) =
      s.balance operations + (s.run operations).worth o ((s.run operations).apply o).2 := by
  rw [balance, balance, gain_append, gain_singleton, add_assoc]

theorem balance_le (s : Session) (operations : List Operation) :
    s.balance operations ≤ s.rules.timeBudget.toNat +
      removals (s.reports operations) * max s.rules.removalBonus.toInt 0 := by
  have hbonus : (removals (s.reports operations) : Int) * s.rules.removalBonus.toInt ≤
      removals (s.reports operations) * max s.rules.removalBonus.toInt 0 :=
    Int.mul_le_mul_of_nonneg_left (le_max_left ..) (Int.natCast_nonneg _)
  have hpenalty : 0 ≤ (misses (s.reports operations) : Int) * s.rules.penalty.toNat :=
    Int.mul_nonneg (Int.natCast_nonneg _) (Int.natCast_nonneg _)
  rw [balance, gain]
  omega

theorem FitsClock.left {operations more : List Operation} (h : s.FitsClock (operations ++ more)) :
    s.FitsClock operations := by
  have hle : (removals (s.reports operations) : Int) * max s.rules.removalBonus.toInt 0 ≤
      removals (s.reports (operations ++ more)) * max s.rules.removalBonus.toInt 0 := by
    refine Int.mul_le_mul_of_nonneg_right ?_ (le_max_right ..)
    rw [reports_append, removals, removals, List.countP_append]
    omega
  exact lt_of_le_of_lt (Int.add_le_add_left hle _) h

theorem run_concat (s : Session) (operations : List Operation) (o : Operation) :
    s.run (operations ++ [o]) = ((s.run operations).apply o).1 := run_append ..

theorem run_eq_of_finished {operations : List Operation} (hp : s.phase = .finished)
    (h : s.SameGame operations) : s.run operations = s := by
  induction operations with
  | nil => rfl
  | cons o operations ih =>
    have hstep : (s.apply o).1 = s := (s.step_apply o).eq_of_finished h.1 hp
    have hrest := h.2
    rw [hstep] at hrest
    rw [run, List.foldl_cons, hstep]
    exact ih hrest

theorem SameGame.live {operations more : List Operation} (h : s.SameGame (operations ++ more))
    (hlive : (s.run (operations ++ more)).phase ≠ .finished) :
    (s.run operations).phase ≠ .finished := by
  intro hp
  rw [run_append, run_eq_of_finished hp ((sameGame_append ..).1 h).2] at hlive
  exact hlive hp

theorem Begins.seconds (h : s.Begins) : s.seconds = s.rules.timeBudget := by
  obtain ⟨rules, source, generator, rfl⟩ := h.exists_ofRules
  rfl

theorem one_le_seconds (hs : s.Begins) (hbudget : 1 ≤ s.rules.timeBudget.toNat)
    {operations : List Operation} (h : s.SameGame operations)
    (hlive : (s.run operations).phase ≠ .finished) : 1 ≤ (s.run operations).seconds.toNat := by
  induction operations using List.reverseRecOn with
  | nil => exact hs.seconds ▸ hbudget
  | append_singleton operations o ih =>
    obtain ⟨hgame, hr, -⟩ := (sameGame_append ..).1 h
    have hbefore := ih hgame (h.live hlive)
    rw [run_concat] at hlive ⊢
    rcases ((s.run operations).step_apply o).keeps_or_moves hr with hk | hm
    · rwa [hk.seconds]
    · exact hm.one_le hlive

/-- Nothing saturates before the end of the game. -/
theorem seconds_eq_balance (hs : s.Begins) {operations : List Operation}
    (h : s.SameGame operations) (hfits : s.FitsClock operations)
    (hlive : (s.run operations).phase ≠ .finished) :
    ((s.run operations).seconds.toNat : Int) = s.balance operations := by
  induction operations using List.reverseRecOn with
  | nil =>
    have hgain : s.gain [] = 0 := by simp [gain, reports, ticks, misses, removals]
    rw [balance, hgain, add_zero, ← hs.seconds]
    rfl
  | append_singleton operations o ih =>
    obtain ⟨hgame, hr, -⟩ := (sameGame_append ..).1 h
    have hbefore := ih hgame hfits.left (h.live hlive)
    have hle := s.balance_le (operations ++ [o])
    rw [run_concat] at hlive ⊢
    rw [balance_concat] at hle ⊢
    rcases ((s.run operations).step_apply o).keeps_or_moves hr with hk | hm
    · rw [hk.seconds, worth_of_not_counts hk.not_counts, hbefore, add_zero]
    · -- a balance below zero would show as zero, and the game would be over
      have hpos := hm.one_le hlive
      have hseconds := hm.seconds
      have hlt := lt_of_le_of_lt hle hfits
      rw [hbefore] at hseconds
      omega

theorem balance_concat_of_not_counts {operations : List Operation}
    (h : ¬ (s.run operations).Counts o ((s.run operations).apply o).2) :
    s.balance (operations ++ [o]) = s.balance operations := by
  rw [balance_concat, worth_of_not_counts h, add_zero]

theorem endsByClock_iff_balance (hs : s.Begins) (hbudget : 1 ≤ s.rules.timeBudget.toNat)
    {operations : List Operation} (h : s.SameGame operations) (hfits : s.FitsClock operations)
    (hlive : (s.run operations).phase ≠ .finished) (hr : ¬ (s.run operations).Restarts o) :
    (s.run operations).EndsByClock o ↔ s.balance (operations ++ [o]) ≤ 0 := by
  have hseconds := seconds_eq_balance hs h hfits hlive
  have hpos := one_le_seconds hs hbudget h hlive
  rw [endsByClock_iff hr, ← UInt32.toNat_inj, UInt32.toNat_zero]
  rcases ((s.run operations).step_apply o).keeps_or_moves hr with hk | hm
  · have hsame := balance_concat_of_not_counts hk.not_counts
    simp only [hk.not_counts, false_and, false_iff]
    omega
  · have hmoved := hm.seconds
    rw [balance_concat]
    simp only [hm.counts, true_and, UInt32.size] at hmoved ⊢
    omega

theorem seconds_apply_of_quiet {o : Operation} (hr : ¬ s.Restarts o) (ht : ¬ s.Ticks o)
    (hquiet : ∀ report ∈ (s.apply o).2, ¬ report.outcome.isMiss ∧ ¬ report.outcome.isRemoval) :
    (s.apply o).1.seconds = s.seconds := by
  have hnot : ¬ s.Counts o (s.apply o).2 := by
    rintro (htick | ⟨report, hreport, hmiss | hremoval⟩)
    · exact ht htick
    · exact (hquiet report hreport).1 hmiss
    · exact (hquiet report hreport).2 hremoval
  rcases (s.step_apply o).keeps_or_moves hr with hk | hm
  · exact hk.seconds
  · exact absurd hm.counts hnot

/-- As long as the game is not over the clock shows the balance of the run, and the game ends by the
clock at the first operation after which that is not positive. What is neither a tick nor a wrong
answer nor a removal leaves the clock of every session alone. -/
theorem clock_balances (hs : s.Begins) {operations : List Operation}
    (h : s.SameGame operations) :
    let now := s.run operations
    (s.FitsClock operations →
      (now.phase ≠ .finished → (now.seconds.toNat : Int) = s.balance operations) ∧
      (1 ≤ s.rules.timeBudget.toNat →
        (now.phase ≠ .finished → 1 ≤ now.seconds.toNat) ∧
        ∀ o, ¬ now.Restarts o →
          (now.EndsByClock o ↔
            (∀ before after, operations = before ++ after → 0 < s.balance before) ∧
              s.balance (operations ++ [o]) ≤ 0) ∧
          (now.EndsByClock o →
            (now.apply o).1.seconds = 0 ∧ ∀ report ∈ (now.apply o).2, report.seconds = 0))) ∧
    ∀ (t : Session) (o : Operation), ¬ t.Restarts o → ¬ t.Ticks o →
      (∀ report ∈ (t.apply o).2, ¬ report.outcome.isMiss ∧ ¬ report.outcome.isRemoval) →
      (t.apply o).1.seconds = t.seconds := by
  intro now
  refine ⟨fun hfits => ⟨seconds_eq_balance hs h hfits, fun hbudget =>
    ⟨one_le_seconds hs hbudget h, fun o hr => ⟨⟨fun hends => ?_, ?_⟩, fun hends => ?_⟩⟩⟩,
    fun t o => seconds_apply_of_quiet⟩
  · have hlive : now.phase ≠ .finished := by simp [hends.1]
    constructor
    · rintro before after rfl
      have hbefore := (sameGame_append ..).1 h
      rw [← seconds_eq_balance hs hbefore.1 hfits.left (h.live hlive)]
      exact Int.natCast_pos.2 (one_le_seconds hs hbudget hbefore.1 (h.live hlive))
    · exact (endsByClock_iff_balance hs hbudget h hfits hlive hr).1 hends
  · rintro ⟨hpositive, hspent⟩
    have hbefore := hpositive operations [] (List.append_nil _).symm
    rcases (now.step_apply o).keeps_or_moves hr with hk | hm
    · have hsame := balance_concat_of_not_counts hk.not_counts
      omega
    · have hlive : now.phase ≠ .finished := by simp [hm.playing]
      exact (endsByClock_iff_balance hs hbudget h hfits hlive hr).2 hspent
  · have hzero := ((endsByClock_iff hr).1 hends).2
    refine ⟨hzero, fun report hreport => ?_⟩
    have hstep := now.step_apply o
    rw [Option.mem_def.1 hreport] at hstep
    exact hstep.report_seconds.trans hzero

/-- A game of nine seconds, a wrong answer and a removal costing all of them but one. -/
def nineSeconds : Session :=
  ofRules { twoRounds.rules with timeBudget := 9 } (.listed [3, 20]) (.ofSeed 7)

theorem clock_balances_nineSeconds :
    let operations : List Operation := [.start, .submit ['6'], .removeNumber]
    let now := nineSeconds.run operations
    nineSeconds.Begins ∧ nineSeconds.SameGame operations ∧ nineSeconds.FitsClock operations ∧
      (now.seconds.toNat : Int) = nineSeconds.balance operations ∧ 1 ≤ now.seconds.toNat ∧
      now.EndsByClock .tick ∧ nineSeconds.balance (operations ++ [.tick]) ≤ 0 ∧
      (now.apply .tick).1.seconds = 0 ∧ (now.apply (.push '4')).1.seconds = now.seconds := by
  intro operations now
  have hs : nineSeconds.Begins := .built _ _ _
  have h : nineSeconds.SameGame operations := by decide +kernel
  have hfits : nineSeconds.FitsClock operations := by decide +kernel
  have hbudget : 1 ≤ nineSeconds.rules.timeBudget.toNat := by decide
  have hlive : now.phase ≠ .finished := by decide +kernel
  have hends : now.EndsByClock .tick := by decide +kernel
  obtain ⟨hplay, hquiet⟩ := clock_balances hs h
  obtain ⟨hbalance, hclock⟩ := hplay hfits
  obtain ⟨hpositive, htick⟩ := hclock hbudget
  obtain ⟨hiff, hzero⟩ := htick .tick (by simp [Restarts])
  exact ⟨hs, h, hfits, hbalance hlive, hpositive hlive, hends, (hiff.1 hends).2, (hzero hends).1,
    hquiet now (.push '4') (by simp [Restarts]) (by simp [Ticks]) (by simp [apply])⟩

end Session
end ArithmeticGame
