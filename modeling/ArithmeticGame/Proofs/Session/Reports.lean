import ArithmeticGame.Proofs.Session.Consumption
import ArithmeticGame.Proofs.Session.Progress
/-!
# What a report tells

A report shows the session as it is after the operation and names the numbers of the pool that the
operation has changed. Only the report of a restart names none of those that change.
-/
namespace ArithmeticGame

namespace Pool

/-- The values are those whose states differ between two pools, each of them once, and all were
available in the first. -/
structure Changes (p p' : Pool) (values : List Nat) : Prop where
  nodup : values.Nodup
  mem_iff : ∀ value, value ∈ values ↔ p.state? value ≠ p'.state? value
  available : ∀ value ∈ values, p.state? value = some .available

theorem changes_self (p : Pool) : p.Changes p [] := ⟨List.nodup_nil, by simp, by simp⟩

theorem changes_use (p : Pool) (values : List Nat) :
    p.Changes (p.use values).1 (p.use values).2 := by
  have havailable : ∀ value ∈ (p.use values).2, p.state? value = some .available :=
    fun value hvalue => (mem_use.1 hvalue).2
  refine ⟨p.nodup_use values, fun value => ?_, havailable⟩
  rw [state?_use]
  by_cases hvalue : value ∈ (p.use values).2
  · simp [hvalue, havailable value hvalue]
  · simp [hvalue]

theorem changes_setState {p : Pool} {value : Nat} (h : p.state? value = some .available) :
    p.Changes (p.setState value .removed) [value] := by
  refine ⟨by simp, fun other => ?_, by simpa using h⟩
  rw [state?_setState h]
  by_cases hother : other = value
  · simp [hother, h]
  · simp [hother]

theorem Consumes.changes {p p' : Pool} {r : Report} (h : p.Consumes (some r) p') :
    p.Changes p' r.changed := by
  cases h with
  | used values _ hc => exact hc ▸ p.changes_use values
  | removed hv _ hc => exact hc ▸ changes_setState hv
  | kept hr =>
    rw [(hr r rfl).2]
    exact p.changes_self

theorem Consumes.eq_of_none {p p' : Pool} (h : p.Consumes none p') : p' = p := by
  cases h
  rfl

end Pool

namespace Session

theorem Backed.restart {s : Session} (h : s.Backed) (hp : s.phase = .finished) :
    s.restart.2.changed = [] ∧ ∀ value state, s.pool.state? value = some state →
      s.restart.1.pool.state? value = some .available := by
  rw [restart_of_finished hp]
  refine ⟨rfl, fun value state hvalue => ?_⟩
  have hrange := Pool.le_size_of_state? hvalue
  rw [h.1] at hrange
  exact Pool.state?_full hrange

/-- Whatever is done to a session, the report shows the session after it, and unless a new game is
set up it names just the numbers that have changed, which were available till then. -/
theorem report_exact {first : Session} (hfirst : first.Begins) (operations : List Operation)
    (o : Operation) :
    let before := first.run operations
    let after := (before.apply o).1
    (∀ r ∈ (before.apply o).2,
      r.phase = after.phase ∧ r.seconds = after.seconds ∧ r.correct = after.correct) ∧
    (¬ before.Restarts o →
      (∀ r ∈ (before.apply o).2, before.pool.Changes after.pool r.changed) ∧
      ((before.apply o).2 = none → after.pool = before.pool)) ∧
    (before.Restarts o → ∃ r, (before.apply o).2 = some r ∧ r.changed = [] ∧
      ∀ value state, before.pool.state? value = some state →
        after.pool.state? value = some .available) := by
  intro before after
  have hstep : Step before o after (before.apply o).2 := before.step_apply o
  refine ⟨fun r hreport => ?_, fun hr => ⟨fun r hreport => ?_, fun hnone => ?_⟩, ?_⟩
  · rw [Option.mem_def.1 hreport] at hstep
    exact hstep.report_state
  · rw [Option.mem_def.1 hreport] at hstep
    exact (hstep.consumes hr).changes
  · rw [hnone] at hstep
    exact (hstep.consumes hr).eq_of_none
  · rintro ⟨rfl, hp⟩
    obtain ⟨rules, source, generator, rfl⟩ := hfirst.exists_ofRules
    have hbacked : before.Backed := run_induction Step.backed (backed_ofRules ..) operations
    exact ⟨_, rfl, hbacked.restart hp⟩

/-- The right answer `1 + 2`, and a restart after it. -/
theorem report_exact_twoRounds :
    let before := twoRounds.run [.start]
    let answer : Operation := .submit ['1', '+', '2']
    let ended := twoRounds.run [.start, answer, .abandon]
    twoRounds.Begins ∧ ¬ before.Restarts answer ∧ ended.Restarts .restart ∧
      (∃ r ∈ (before.apply answer).2, r.changed = [1, 2] ∧
        before.pool.Changes (before.apply answer).1.pool r.changed ∧
        r.phase = (before.apply answer).1.phase) ∧
      ended.pool.state? 1 = some .used ∧ (ended.apply .restart).1.pool.state? 1 = some .available ∧
      ∃ r, (ended.apply .restart).2 = some r ∧ r.changed = [] := by
  intro before answer ended
  have hfirst : twoRounds.Begins := .built _ _ _
  have hr : ¬ before.Restarts answer := by simp [Restarts, answer]
  have hrestarts : ended.Restarts .restart := by decide +kernel
  have hused : ended.pool.state? 1 = some .used := by decide +kernel
  have hchanged : (before.apply answer).2.map Report.changed = some [1, 2] := by decide +kernel
  obtain ⟨r, hreport, hlist⟩ := Option.map_eq_some_iff.1 hchanged
  obtain ⟨hstate, hexact, -⟩ := report_exact hfirst [.start] answer
  obtain ⟨-, -, hfresh⟩ := report_exact hfirst [.start, answer, .abandon] .restart
  obtain ⟨r', hreport', hempty, havailable⟩ := hfresh hrestarts
  exact ⟨hfirst, hr, hrestarts, ⟨r, hreport, hlist, (hexact hr).1 r hreport, (hstate r hreport).1⟩,
    hused, havailable 1 .used hused, r', hreport', hempty⟩

end Session
end ArithmeticGame
