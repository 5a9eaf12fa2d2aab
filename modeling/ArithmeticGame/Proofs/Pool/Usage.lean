import ArithmeticGame.Proofs.Pool.Lifecycle
import ArithmeticGame.Proofs.Result
import Mathlib.Data.List.Basic
/-!
# Using numbers

A list of values uses the numbers among them that are available, whatever else stands in it. The
pool after it depends on which values stand in the list, not on their order or on how often each of
them does, so that lists may be joined and repeated. What the rules of the pool admit is used as a
whole.
-/
namespace ArithmeticGame.Pool

/-! ## Which numbers are used -/

theorem pairwise_idxOf_cons {first : Nat} {rest changed : List Nat} (hfirst : first ∉ changed)
    (h : changed.Pairwise fun v w => rest.idxOf v < rest.idxOf w) :
    changed.Pairwise fun v w => (first :: rest).idxOf v < (first :: rest).idxOf w := by
  refine h.imp_of_mem fun hv hw hlt => ?_
  rw [List.idxOf_cons_ne _ (ne_of_mem_of_not_mem hv hfirst).symm,
    List.idxOf_cons_ne _ (ne_of_mem_of_not_mem hw hfirst).symm]
  exact Nat.succ_lt_succ hlt

theorem pairwise_idxOf_use (p : Pool) (values : List Nat) :
    (p.use values).2.Pairwise fun v w => values.idxOf v < values.idxOf w := by
  induction values generalizing p with
  | nil => exact .nil
  | cons first rest ih =>
    by_cases h : p.state? first = some .available
    · -- the number is used by now, so the rest of the list passes over it
      have hnot : first ∉ ((p.setState first .used).use rest).2 := by
        simp [mem_use, state?_setState h]
      rw [use_cons_available h, List.pairwise_cons]
      refine ⟨fun w hw => ?_, pairwise_idxOf_cons hnot (ih _)⟩
      rw [List.idxOf_cons_self, List.idxOf_cons_ne _ (ne_of_mem_of_not_mem hw hnot).symm]
      exact Nat.succ_pos _
    · have hnot : first ∉ (p.use rest).2 := fun hmem => h (mem_use.1 hmem).2
      rw [use_cons_other h]
      exact pairwise_idxOf_cons hnot (ih p)

/-! ## The pool after a use -/

theorem get?_use (p : Pool) (values : List Nat) (value : Nat) :
    (p.use values).1.get? value =
      if value ∈ (p.use values).2 then some ⟨value, .used⟩ else p.get? value := by
  rw [get?_eq_map_state?, state?_use, get?_eq_map_state? p]
  split <;> rfl

theorem use_congr (p : Pool) {values others : List Nat}
    (h : ∀ value, value ∈ values ↔ value ∈ others) : (p.use values).1 = (p.use others).1 := by
  apply eq_of_state?
  intro value
  simp only [state?_use, mem_use, h]

theorem use_append (p : Pool) (values more : List Nat) :
    p.use (values ++ more) = (((p.use values).1.use more).1,
      (p.use values).2 ++ ((p.use values).1.use more).2) := by
  induction values generalizing p with
  | nil => rfl
  | cons first rest ih =>
    rw [List.cons_append]
    by_cases h : p.state? first = some .available
    · rw [use_cons_available h, use_cons_available h, ih, List.cons_append]
    · rw [use_cons_other h, use_cons_other h, ih]

theorem use_of_not_available {p : Pool} {values : List Nat}
    (h : ∀ value ∈ values, p.state? value ≠ some .available) : p.use values = (p, []) := by
  induction values with
  | nil => rfl
  | cons first rest ih =>
    rw [use_cons_other (h first (by simp))]
    exact ih fun value hvalue => h value (by simp [hvalue])

theorem use_use (p : Pool) (values : List Nat) :
    (p.use values).1.use values = ((p.use values).1, []) := by
  apply use_of_not_available
  intro value hvalue hav
  rw [state?_use] at hav
  split at hav
  · cases hav
  · next hnot => exact hnot (mem_use.2 ⟨hvalue, hav⟩)

/-! ## Uses that are admitted -/

theorem not_mem_of_identify {p : Pool} {seen : List Nat} {x : Float} {value : Nat}
    (h : p.identify seen x = .ok value) : value ∉ seen := by
  simp only [identify] at h
  split at h
  · cases h
  · split at h
    · cases h
    · split at h
      · cases h
      · next hnot => exact Except.ok.inj h ▸ hnot

/-- Numbers that are seen stay seen, so no number is identified twice. -/
theorem nodup_identifyAll {p : Pool} {seen : List Nat} {xs : List Float} {used : List Nat}
    (h : p.identifyAll seen xs = .ok used) : used.Nodup ∧ ∀ value ∈ used, value ∉ seen := by
  induction xs generalizing seen used with
  | nil =>
    cases h
    simp
  | cons x xs ih =>
    obtain ⟨value, hvalue, hx⟩ := exists_of_bind_eq_ok h
    obtain ⟨rest, hrest, hused⟩ := exists_of_bind_eq_ok hx
    cases hused
    obtain ⟨hnodup, hseen⟩ := ih hrest
    refine ⟨List.nodup_cons.2 ⟨fun hmem => hseen value hmem (by simp), hnodup⟩, ?_⟩
    rintro other (_ | ⟨_, hother⟩)
    · exact not_mem_of_identify hvalue
    · exact fun hmem => hseen other hother (by simp [hmem])

theorem use_of_accept {p : Pool} {xs : List Float} {used : List Nat}
    (h : p.accept xs = .ok used) : (p.use used).2 = used := by
  obtain ⟨-, hvs, havailable⟩ := accept_eq_ok h
  exact use_eq_of_available (nodup_identifyAll hvs).1 havailable

/-- Whatever the values are, the available ones among them are used, once each and in the order in
which they first stand in the list, and no other entry of the pool changes. Hence the pool after it
is the same for all lists with these values, one list after the other is as good as both together,
and the same list again changes nothing. Numbers that are admitted are all used. -/
theorem uses_available_once (p : Pool) (values : List Nat) :
    ((∀ value, value ∈ (p.use values).2 ↔ value ∈ values ∧ p.state? value = some .available) ∧
      (p.use values).2.Nodup ∧
      (p.use values).2.Pairwise fun v w => values.idxOf v < values.idxOf w) ∧
    (∀ value, (p.use values).1.get? value =
      if value ∈ (p.use values).2 then some ⟨value, .used⟩ else p.get? value) ∧
    (∀ others : List Nat, (∀ value, value ∈ values ↔ value ∈ others) →
      (p.use values).1 = (p.use others).1) ∧
    (∀ more : List Nat, p.use (values ++ more) = (((p.use values).1.use more).1,
      (p.use values).2 ++ ((p.use values).1.use more).2)) ∧
    (p.use values).1.use values = ((p.use values).1, []) ∧
    ∀ (xs : List Float) (used : List Nat), p.accept xs = .ok used → (p.use used).2 = used := by
  refine ⟨⟨fun value => mem_use, p.nodup_use values, p.pairwise_idxOf_use values⟩,
    p.get?_use values, fun others h => p.use_congr h, p.use_append values, p.use_use values, ?_⟩
  intro xs used h
  exact use_of_accept h

/-- One of four numbers is removed and one used; the list has these, values beyond the pool and
repetitions. -/
theorem uses_available_once_four :
    let p := (full 4).run [.use [2], .discardAt 0]
    let values := [4, 0, 2, 4, 9, 1, 3, 4]
    (∀ value, value ∈ values ↔ value ∈ [0, 1, 2, 3, 4, 9]) ∧
      (p.use values).1 = (p.use [0, 1, 2, 3, 4, 9]).1 ∧ (p.use values).2 = [4, 3] ∧
      p.accept [4.0, 3.0] = .ok [4, 3] ∧ (p.use [4, 3]).2 = [4, 3] := by
  intro p values
  have hvalues : ∀ value, value ∈ values ↔ value ∈ [0, 1, 2, 3, 4, 9] := by
    intro value
    simp only [values, List.mem_cons, List.not_mem_nil, or_false]
    omega
  have haccept : p.accept [4.0, 3.0] = .ok [4, 3] := rfl
  have huse := uses_available_once p values
  exact ⟨hvalues, huse.2.2.1 _ hvalues, by decide, haccept, huse.2.2.2.2.2 _ _ haccept⟩

end ArithmeticGame.Pool
