import ArithmeticGame.Pool.Admission
import ArithmeticGame.Proofs.Random.Range
/-!
# States of pool numbers

A pool is known by the state of each of its numbers. Every operation is described by the states
that it leaves behind, so that nothing below this module looks at the list of numbers again.
-/
namespace ArithmeticGame.Pool

/-! ## One number -/

theorem value_of_getElem? (p : Pool) {i : Nat} {number : PoolNumber}
    (h : p.numbers[i]? = some number) : number.value = i + 1 := by
  have hvalues : (p.numbers.map PoolNumber.value)[i]? = some number.value := by simp [h]
  obtain ⟨hi, -⟩ := List.getElem?_eq_some_iff.1 h
  rw [p.values_eq, List.getElem?_range' hi, Option.some.injEq] at hvalues
  omega

/-- Places and values agree, so that what is found under a value is the number with that value. -/
theorem get?_eq_some {p : Pool} {value : Nat} {number : PoolNumber} :
    p.get? value = some number ↔ number ∈ p.numbers ∧ number.value = value := by
  constructor
  · intro h
    cases value with
    | zero => cases h
    | succ i => exact ⟨List.mem_of_getElem? h, p.value_of_getElem? h⟩
  · rintro ⟨hmem, rfl⟩
    obtain ⟨i, hi⟩ := List.mem_iff_getElem?.1 hmem
    rw [p.value_of_getElem? hi]
    exact hi

theorem get?_eq_map_state? (p : Pool) (value : Nat) :
    p.get? value = (p.state? value).map fun state => ⟨value, state⟩ := by
  cases hget : p.get? value with
  | none => simp [state?, hget]
  | some number =>
    obtain ⟨-, rfl⟩ := get?_eq_some.1 hget
    simp [state?, hget]

theorem eq_of_state? {p q : Pool} (h : ∀ value, p.state? value = q.state? value) : p = q := by
  have hnumbers : p.numbers = q.numbers := by
    apply List.ext_getElem?
    intro i
    change p.get? (i + 1) = q.get? (i + 1)
    rw [get?_eq_map_state?, get?_eq_map_state?, h]
  cases p
  cases q
  congr

theorem state?_eq_some {p : Pool} {value : Nat} {state : Availability} :
    p.state? value = some state ↔
      ∃ number ∈ p.numbers, number.value = value ∧ number.state = state := by
  simp only [state?, Option.map_eq_some_iff, get?_eq_some, and_assoc]

theorem state?_isSome (p : Pool) (value : Nat) :
    (p.state? value).isSome ↔ 1 ≤ value ∧ value ≤ p.size := by
  cases value with
  | zero => simp [state?, get?]
  | succ i =>
    simp only [state?, get?, Option.isSome_map, size, isSome_getElem?]
    omega

theorem le_size_of_state? {p : Pool} {value : Nat} {state : Availability}
    (h : p.state? value = some state) : 1 ≤ value ∧ value ≤ p.size := by
  rw [← state?_isSome, h]
  rfl

@[simp] theorem size_full (n : Nat) : (full n).size = n := by simp [full, size]

theorem state?_full {n value : Nat} (hv : 1 ≤ value ∧ value ≤ n) :
    (full n).state? value = some .available := by
  rw [state?_eq_some]
  refine ⟨⟨value, .available⟩, List.mem_map_of_mem ?_, rfl, rfl⟩
  rw [List.mem_range'_1]
  omega

theorem count_le_size (p : Pool) (state : Availability) : p.count state ≤ p.size :=
  List.countP_le_length

@[simp] theorem size_setState (p : Pool) (value : Nat) (state : Availability) :
    (p.setState value state).size = p.size := by simp [setState, size]

theorem state?_setState {p : Pool} {value : Nat} {old : Availability}
    (h : p.state? value = some old) (state : Availability) (other : Nat) :
    (p.setState value state).state? other =
      if other = value then some state else p.state? other := by
  obtain ⟨i, rfl⟩ := Nat.exists_eq_add_of_le' (le_size_of_state? h).1
  cases other with
  | zero => simp [state?, get?]
  | succ j =>
    simp only [state?, get?] at h
    obtain ⟨number, hnumber, -⟩ := Option.map_eq_some_iff.1 h
    simp only [state?, get?, setState, Nat.add_sub_cancel, List.getElem?_modify,
      Nat.add_right_cancel_iff]
    by_cases hij : i = j
    · subst hij
      simp [hnumber]
    · simp [hij, Ne.symm hij]

theorem count_setState {p : Pool} {value : Nat} {old : Availability}
    (h : p.state? value = some old) (new state : Availability) :
    (p.setState value new).count state =
      p.count state - (if old = state then 1 else 0) + (if new = state then 1 else 0) := by
  obtain ⟨i, rfl⟩ := Nat.exists_eq_add_of_le' (le_size_of_state? h).1
  have hi : i < p.numbers.length := (le_size_of_state? h).2
  have hold : p.numbers[i].state = old := by simpa [state?, get?, hi] using h
  have : Inhabited PoolNumber := ⟨p.numbers[i]⟩
  simp only [setState, count, Nat.add_sub_cancel]
  rw [List.modify_eq_set, List.countP_set hi, hold]
  simp

theorem mem_values {p : Pool} {value : Nat} {state : Availability} :
    value ∈ p.values state ↔ p.state? value = some state := by
  simp only [values, List.mem_map, List.mem_filter, decide_eq_true_eq, state?_eq_some]
  constructor
  · rintro ⟨number, ⟨hmem, hstate⟩, hvalue⟩
    exact ⟨number, hmem, hvalue, hstate⟩
  · rintro ⟨number, hmem, hvalue, hstate⟩
    exact ⟨number, ⟨hmem, hstate⟩, hvalue⟩

theorem length_values (p : Pool) (state : Availability) :
    (p.values state).length = p.count state := by
  rw [values, List.length_map, count, List.countP_eq_length_filter]

theorem count_setState_add_one {p : Pool} {value : Nat} {old new : Availability}
    (h : p.state? value = some old) (hne : new ≠ old) :
    (p.setState value new).count old + 1 = p.count old := by
  have hpos : 0 < p.count old := by
    rw [← length_values]
    exact List.length_pos_of_mem (mem_values.2 h)
  rw [count_setState h, if_pos rfl, if_neg hne]
  omega

/-! ## Using numbers -/

theorem use_cons_available {p : Pool} {value : Nat} (h : p.state? value = some .available)
    (values : List Nat) : p.use (value :: values) =
      (((p.setState value .used).use values).1,
        value :: ((p.setState value .used).use values).2) := by
  simp [use, h]

theorem use_cons_other {p : Pool} {value : Nat} (h : p.state? value ≠ some .available)
    (values : List Nat) : p.use (value :: values) = p.use values := by
  simp [use, h]

theorem mem_use {p : Pool} {values : List Nat} {value : Nat} :
    value ∈ (p.use values).2 ↔ value ∈ values ∧ p.state? value = some .available := by
  induction values generalizing p with
  | nil => simp [use]
  | cons first rest ih =>
    by_cases h : p.state? first = some .available
    · rw [use_cons_available h]
      simp only [List.mem_cons, ih, state?_setState h]
      by_cases hv : value = first
      · simp [hv, h]
      · simp [hv]
    · rw [use_cons_other h, ih, List.mem_cons]
      constructor
      · exact fun ⟨hmem, hav⟩ => ⟨.inr hmem, hav⟩
      · rintro ⟨rfl | hmem, hav⟩
        · exact absurd hav h
        · exact ⟨hmem, hav⟩

theorem nodup_use (p : Pool) (values : List Nat) : (p.use values).2.Nodup := by
  induction values generalizing p with
  | nil => simp [use]
  | cons first rest ih =>
    by_cases h : p.state? first = some .available
    · rw [use_cons_available h, List.nodup_cons]
      refine ⟨?_, ih _⟩
      -- the number is used by now, so the rest does not change it again
      simp [mem_use, state?_setState h]
    · rw [use_cons_other h]
      exact ih p

theorem use_eq_of_available {p : Pool} {values : List Nat} (hn : values.Nodup)
    (h : ∀ value ∈ values, p.state? value = some .available) : (p.use values).2 = values := by
  induction values generalizing p with
  | nil => rfl
  | cons first rest ih =>
    obtain ⟨hfirst, hrest⟩ := List.nodup_cons.1 hn
    have hav : p.state? first = some .available := h first (by simp)
    rw [use_cons_available hav]
    refine congrArg (first :: ·) (ih hrest fun value hvalue => ?_)
    rw [state?_setState hav, if_neg (ne_of_mem_of_not_mem hvalue hfirst)]
    exact h value (by simp [hvalue])

theorem state?_use (p : Pool) (values : List Nat) (value : Nat) :
    (p.use values).1.state? value =
      if value ∈ (p.use values).2 then some .used else p.state? value := by
  induction values generalizing p with
  | nil => simp [use]
  | cons first rest ih =>
    by_cases h : p.state? first = some .available
    · rw [use_cons_available h, ih, state?_setState h]
      by_cases hv : value = first <;> simp [hv]
    · rw [use_cons_other h]
      exact ih p

@[simp] theorem size_use (p : Pool) (values : List Nat) : (p.use values).1.size = p.size := by
  induction values generalizing p with
  | nil => rfl
  | cons first rest ih =>
    by_cases h : p.state? first = some .available
    · rw [use_cons_available h, ih, size_setState]
    · rw [use_cons_other h, ih]

theorem count_used_use (p : Pool) (values : List Nat) :
    (p.use values).1.count .used = p.count .used + (p.use values).2.length := by
  induction values generalizing p with
  | nil => rfl
  | cons first rest ih =>
    by_cases h : p.state? first = some .available
    · rw [use_cons_available h, ih, count_setState h]
      simp only [List.length_cons]
      simp
      omega
    · rw [use_cons_other h, ih]

/-! ## Removing a number -/

theorem discardAt_ok {p p' : Pool} {index value : Nat} (h : p.discardAt index = .ok (value, p')) :
    p.state? value = some .available ∧ p' = p.setState value .removed := by
  simp only [discardAt] at h
  split at h
  · next v hv =>
    obtain ⟨rfl, rfl⟩ : v = value ∧ p.setState v .removed = p' := by simpa using h
    exact ⟨mem_values.1 (List.mem_of_getElem? hv), rfl⟩
  · cases h

theorem discard_ok {p p' : Pool} {g g' : Generator} {value : Nat}
    (h : p.discard g = .ok (value, p', g')) :
    p.state? value = some .available ∧ p' = p.setState value .removed := by
  simp only [discard] at h
  split at h
  · cases h
  · split at h
    · next v pool hd =>
      obtain ⟨rfl, rfl, -⟩ : v = value ∧ pool = p' ∧ _ := by simpa using h
      exact discardAt_ok hd
    · cases h

theorem taken_lt_discard {p p' : Pool} {g g' : Generator} {value : Nat}
    (h : p.discard g = .ok (value, p', g')) : g.taken < g'.taken := by
  simp only [discard] at h
  split at h
  · cases h
  · split at h
    · obtain ⟨-, -, rfl⟩ : _ ∧ _ ∧ _ = g' := by simpa using h
      exact Generator.taken_lt_below ..
    · cases h

theorem values_eq_nil {p : Pool} {state : Availability} :
    p.values state = [] ↔ ∀ value, p.state? value ≠ some state := by
  simp only [List.eq_nil_iff_forall_not_mem, mem_values, ne_eq]

theorem discard_eq_error {p : Pool} {g : Generator} {fault : PoolFault} :
    p.discard g = .error fault ↔
      fault = .exhausted ∧ ∀ value, p.state? value ≠ some .available := by
  rw [← values_eq_nil]
  simp only [discard]
  split
  · next h => simp [List.isEmpty_iff.1 h, eq_comm]
  · next h =>
    have hne : p.values .available ≠ [] := by simpa using h
    -- the index that is drawn is below the number of candidates
    have hlt := Generator.below_lt
      (if (p.values .available).length < UInt32.size then WordSize.bits32 else .bits64)
      (List.length_pos_iff.2 hne) g
    simp [discardAt, List.getElem?_eq_getElem hlt, hne]

theorem count_used_discard {p p' : Pool} {g g' : Generator} {value : Nat}
    (h : p.discard g = .ok (value, p', g')) : p'.count .used = p.count .used := by
  obtain ⟨hv, rfl⟩ := discard_ok h
  rw [count_setState hv]
  simp

/-! ## Admission -/

theorem identifyAll_length {p : Pool} {seen : List Nat} {xs : List Float} {used : List Nat}
    (h : p.identifyAll seen xs = .ok used) : used.length = xs.length := by
  induction xs generalizing seen used with
  | nil =>
    obtain rfl : [] = used := by simpa [identifyAll] using h
    rfl
  | cons x xs ih =>
    simp only [identifyAll, bind, Except.bind] at h
    split at h
    · cases h
    · split at h
      · cases h
      · next rest hrest =>
        obtain rfl : _ :: rest = used := by simpa using h
        simp [ih hrest]

theorem accept_eq_ok {p : Pool} {xs : List Float} {used : List Nat} (h : p.accept xs = .ok used) :
    xs ≠ [] ∧ p.identifyAll [] xs = .ok used ∧
      ∀ value ∈ used, p.state? value = some .available := by
  simp only [accept, bind, Except.bind] at h
  split at h
  · cases h
  · next hne =>
    split at h
    · cases h
    · next vs hvs =>
      split at h
      · cases h
      · next hnone =>
        obtain rfl : vs = used := by simpa using h
        refine ⟨by simpa using hne, hvs, fun value hmem => ?_⟩
        simpa using List.find?_eq_none.1 hnone value hmem

theorem accept_ok {p : Pool} {xs : List Float} {used : List Nat} (h : p.accept xs = .ok used) :
    used ≠ [] ∧ ∀ value ∈ used, p.state? value = some .available := by
  obtain ⟨hne, hvs, havailable⟩ := accept_eq_ok h
  refine ⟨?_, havailable⟩
  rintro rfl
  exact hne (List.length_eq_zero_iff.1 (identifyAll_length hvs).symm)

theorem acceptText_ok {p : Pool} {text : List Char} {used : List Nat}
    (h : p.acceptText text = .ok used) :
    used ≠ [] ∧ ∀ value ∈ used, p.state? value = some .available := by
  simp only [acceptText] at h
  split at h
  · exact accept_ok h
  · cases h

end ArithmeticGame.Pool
