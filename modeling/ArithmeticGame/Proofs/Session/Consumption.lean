import ArithmeticGame.Proofs.Pool.States
import ArithmeticGame.Proofs.Session.Run
/-!
# Each number is consumed once

Within one game the reports are a ledger of the pool: a number is used or removed just when some
report says so, and none is reported twice.
-/
namespace ArithmeticGame

def Report.consumed (r : Report) : List Nat :=
  match r.outcome with
  | .hit | .removed _ => r.changed
  | _ => []

def consumed (reports : List Report) : List Nat := reports.flatMap Report.consumed

def UsedIn (reports : List Report) (value : Nat) : Prop :=
  ∃ r ∈ reports, r.outcome = .hit ∧ value ∈ r.changed

def RemovedIn (reports : List Report) (value : Nat) : Prop :=
  ∃ r ∈ reports, r.outcome = .removed value

def Report.Idle (r : Report) : Prop := r.outcome ≠ .hit ∧ ∀ value, r.outcome ≠ .removed value

theorem consumed_concat (reports : List Report) (r : Report) :
    consumed (reports ++ [r]) = consumed reports ++ r.consumed := by simp [consumed]

theorem usedIn_concat {reports : List Report} {r : Report} {value : Nat} :
    UsedIn (reports ++ [r]) value ↔
      UsedIn reports value ∨ r.outcome = .hit ∧ value ∈ r.changed := by
  simp [UsedIn, or_and_right, exists_or]

theorem removedIn_concat {reports : List Report} {r : Report} {value : Nat} :
    RemovedIn (reports ++ [r]) value ↔ RemovedIn reports value ∨ r.outcome = .removed value := by
  simp [RemovedIn, or_and_right, exists_or]

theorem Report.Idle.consumed_eq {r : Report} (h : r.Idle) : r.consumed = [] := by
  unfold Report.consumed
  split
  · next ho => exact absurd ho h.1
  · next value ho => exact absurd ho (h.2 value)
  · rfl

namespace Pool

/-- What a step within a game makes of the pool, and what its report says of that. -/
inductive Consumes (p : Pool) : Option Report → Pool → Prop
  | used {r : Report} (values : List Nat) (ho : r.outcome = .hit)
      (hc : r.changed = (p.use values).2) : Consumes p (some r) (p.use values).1
  | removed {r : Report} {value : Nat} (hv : p.state? value = some .available)
      (ho : r.outcome = .removed value) (hc : r.changed = [value]) :
      Consumes p (some r) (p.setState value .removed)
  | kept {report : Option Report} (hr : ∀ r ∈ report, r.Idle ∧ r.changed = []) :
      Consumes p report p

/-- The reports account for the states of a pool. -/
structure Ledger (size : Nat) (p : Pool) (reports : List Report) : Prop where
  size_eq : p.size = size
  nodup : (consumed reports).Nodup
  mem_consumed : ∀ value, value ∈ consumed reports ↔
    p.state? value = some .used ∨ p.state? value = some .removed
  used_iff : ∀ value, p.state? value = some .used ↔ UsedIn reports value
  removed_iff : ∀ value, p.state? value = some .removed ↔ RemovedIn reports value

variable {size : Nat} {p p' : Pool} {reports : List Report} {r : Report}

namespace Ledger

theorem full (size : Nat) : Ledger size (Pool.full size) [] := by
  have hstate : ∀ value state, (Pool.full size).state? value = some state → state = .available := by
    intro value state h
    have hrange := le_size_of_state? h
    rw [size_full] at hrange
    rw [state?_full hrange] at h
    exact (Option.some.inj h).symm
  have hused : ∀ value, (Pool.full size).state? value ≠ some .used :=
    fun value h => nomatch hstate value _ h
  have hremoved : ∀ value, (Pool.full size).state? value ≠ some .removed :=
    fun value h => nomatch hstate value _ h
  constructor
  · exact size_full size
  · simp [consumed]
  · simp [consumed, hused, hremoved]
  · simp [UsedIn, hused]
  · simp [RemovedIn, hremoved]

theorem idle (h : Ledger size p reports) (hr : r.Idle) : Ledger size p (reports ++ [r]) := by
  constructor
  · exact h.size_eq
  · simpa [consumed_concat, hr.consumed_eq] using h.nodup
  · simpa [consumed_concat, hr.consumed_eq] using h.mem_consumed
  · simpa [usedIn_concat, hr.1] using h.used_iff
  · simpa [removedIn_concat, hr.2] using h.removed_iff

theorem not_mem_consumed (h : Ledger size p reports) {value : Nat}
    (hv : p.state? value = some .available) : value ∉ consumed reports := by
  simp [h.mem_consumed, hv]

theorem use (h : Ledger size p reports) {values : List Nat} (ho : r.outcome = .hit)
    (hc : r.changed = (p.use values).2) : Ledger size (p.use values).1 (reports ++ [r]) := by
  have hr : r.consumed = (p.use values).2 := by simp [Report.consumed, ho, hc]
  constructor
  · rw [size_use, h.size_eq]
  · rw [consumed_concat, hr, List.nodup_append]
    refine ⟨h.nodup, nodup_use p values, ?_⟩
    rintro value hold _ hnew rfl
    exact h.not_mem_consumed (mem_use.1 hnew).2 hold
  · intro value
    rw [consumed_concat, hr, List.mem_append, h.mem_consumed, state?_use]
    by_cases hv : value ∈ (p.use values).2 <;> simp [hv]
  · intro value
    rw [usedIn_concat, ← h.used_iff, state?_use, hc]
    by_cases hv : value ∈ (p.use values).2 <;> simp [hv, ho]
  · intro value
    rw [removedIn_concat, ← h.removed_iff, state?_use]
    by_cases hv : value ∈ (p.use values).2
    · simp [hv, ho, (mem_use.1 hv).2]
    · simp [hv, ho]

theorem remove (h : Ledger size p reports) {value : Nat} (hv : p.state? value = some .available)
    (ho : r.outcome = .removed value) (hc : r.changed = [value]) :
    Ledger size (p.setState value .removed) (reports ++ [r]) := by
  have hr : r.consumed = [value] := by simp [Report.consumed, ho, hc]
  constructor
  · rw [size_setState, h.size_eq]
  · rw [consumed_concat, hr, List.nodup_append]
    refine ⟨h.nodup, by simp, ?_⟩
    rintro other hold _ hnew rfl
    obtain rfl : other = value := by simpa using hnew
    exact h.not_mem_consumed hv hold
  · intro other
    rw [consumed_concat, hr, List.mem_append, h.mem_consumed, state?_setState hv]
    by_cases hother : other = value <;> simp [hother]
  · intro other
    rw [usedIn_concat, ← h.used_iff, state?_setState hv]
    by_cases hother : other = value
    · simp [hother, hv, ho]
    · simp [hother, ho]
  · intro other
    rw [removedIn_concat, ← h.removed_iff, state?_setState hv, ho]
    by_cases hother : other = value
    · simp [hother]
    · simp [hother, Ne.symm hother]

theorem consumes {report : Option Report} (h : Ledger size p reports)
    (hc : p.Consumes report p') : Ledger size p' (reports ++ report.toList) := by
  cases hc with
  | used values ho hc => exact h.use ho hc
  | removed hv ho hc => exact h.remove hv ho hc
  | kept hr =>
    cases report with
    | none => simpa using h
    | some r => exact h.idle (hr r rfl).1

end Ledger
end Pool

namespace Session

open Pool (Ledger)

variable {s s' : Session} {o : Operation} {report : Option Report} {size : Nat}
  {reports : List Report}

theorem Step.consumes (h : Step s o s' report) (hr : ¬ s.Restarts o) :
    s.pool.Consumes report s'.pool := by
  cases h with
  | ignored | untouched | refused | unremoved | exhausted | noRounds | begun | edited | ticked
  | timeUp | advanced | cleared | abandoned =>
    exact .kept (by simp [Report.Idle])
  | missed =>
    rw [afterMiss, finishIfOut_eq]
    exact .kept (by simp [Report.Idle])
  | solved => exact .used _ rfl rfl
  | removed _ hd =>
    obtain ⟨hv, rfl⟩ := Pool.discard_ok hd
    rw [afterRemoval, finishIfOut_eq]
    exact .removed hv rfl rfl
  | restarted hp => exact absurd ⟨rfl, hp⟩ hr

theorem Step.ledger (h : Step s o s' report) (hr : ¬ s.Restarts o)
    (hl : Ledger size s.pool reports) : Ledger size s'.pool (reports ++ report.toList) :=
  hl.consumes (h.consumes hr)

/-- Within one game no number is consumed twice, and the state of every number is what the reports
so far say. -/
theorem consumed_once {s : Session} (hs : s.Begins) {operations : List Operation}
    (h : s.SameGame operations) :
    (consumed (s.reports operations)).Nodup ∧
    (∀ value ∈ consumed (s.reports operations), 1 ≤ value ∧ value ≤ s.rules.poolSize) ∧
    ∀ value, 1 ≤ value ∧ value ≤ s.rules.poolSize →
      ((s.run operations).pool.state? value = some .used ↔
        UsedIn (s.reports operations) value) ∧
      ((s.run operations).pool.state? value = some .removed ↔
        RemovedIn (s.reports operations) value) ∧
      ((s.run operations).pool.state? value = some .available ↔
        ¬ UsedIn (s.reports operations) value ∧ ¬ RemovedIn (s.reports operations) value) := by
  have hstart : Ledger s.rules.poolSize s.pool [] := by
    obtain ⟨rules, source, generator, rfl⟩ := hs.exists_ofRules
    exact Ledger.full rules.poolSize
  have hl : Ledger s.rules.poolSize (s.run operations).pool (s.reports operations) := by
    simpa using h.induction (motive := fun s' reports => Ledger s.rules.poolSize s'.pool reports)
      Step.ledger hstart
  refine ⟨hl.nodup, ?_, ?_⟩
  · intro value hv
    rw [← hl.size_eq]
    obtain hused | hremoved := (hl.mem_consumed value).1 hv
    · exact Pool.le_size_of_state? hused
    · exact Pool.le_size_of_state? hremoved
  · intro value hv
    refine ⟨hl.used_iff value, hl.removed_iff value, ?_⟩
    rw [← hl.used_iff, ← hl.removed_iff]
    rw [← hl.size_eq, ← Pool.state?_isSome] at hv
    obtain ⟨state, hstate⟩ := Option.isSome_iff_exists.1 hv
    rw [hstate]
    cases state <;> simp

theorem consumed_once_twoRounds :
    twoRounds.Begins ∧ twoRounds.SameGame twoRoundsPlayed ∧
    consumed (twoRounds.reports twoRoundsPlayed) = [1, 2, 3, 4, 5] ∧
    (consumed (twoRounds.reports twoRoundsPlayed)).Nodup ∧
    UsedIn (twoRounds.reports twoRoundsPlayed) 2 ∧
    RemovedIn (twoRounds.reports twoRoundsPlayed) 3 ∧
    ¬ UsedIn (twoRounds.reports twoRoundsPlayed) 6 ∧
    ¬ RemovedIn (twoRounds.reports twoRoundsPlayed) 6 := by
  have hs : twoRounds.Begins := .built _ _ _
  have hg : twoRounds.SameGame twoRoundsPlayed := by decide +kernel
  obtain ⟨hnodup, -, hstates⟩ := consumed_once hs hg
  have htwo : (twoRounds.run twoRoundsPlayed).pool.state? 2 = some .used := by decide +kernel
  have hthree : (twoRounds.run twoRoundsPlayed).pool.state? 3 = some .removed := by decide +kernel
  have hsix : (twoRounds.run twoRoundsPlayed).pool.state? 6 = some .available := by decide +kernel
  refine ⟨hs, hg, by decide +kernel, hnodup, ?_, ?_, ?_⟩
  · exact (hstates 2 (by decide)).1.1 htwo
  · exact (hstates 3 (by decide)).2.1.1 hthree
  · exact (hstates 6 (by decide)).2.2.1 hsix

end Session
end ArithmeticGame
