/-!
# Results and faults

What computations that may fail come to.
-/
namespace ArithmeticGame

variable {ε ε' α β : Type}

theorem exists_of_bind_eq_ok {x : Except ε α} {f : α → Except ε β} {result : β}
    (h : x >>= f = .ok result) : ∃ a, x = .ok a ∧ f a = .ok result := by
  cases x with
  | error fault => cases h
  | ok a => exact ⟨a, rfl, h⟩

theorem cases_of_bind_eq_error {x : Except ε α} {f : α → Except ε β} {fault : ε}
    (h : x >>= f = .error fault) : x = .error fault ∨ ∃ a, x = .ok a ∧ f a = .error fault := by
  cases x with
  | error other => exact .inl (congrArg Except.error (Except.error.inj h))
  | ok a => exact .inr ⟨a, rfl, h⟩

/-- Computations that differ only in what `f` forgets of their fault may be carried on. -/
theorem mapError_bind_congr {f : ε → ε'} {x y : Except ε α} (h : x.mapError f = y.mapError f)
    (k : α → Except ε β) : (x >>= k).mapError f = (y >>= k).mapError f := by
  cases x with
  | error fault =>
    cases y with
    | error other => exact congrArg Except.error (Except.error.inj h)
    | ok b => cases h
  | ok a =>
    cases y with
    | error other => cases h
    | ok b => rw [Except.ok.inj h]

/-- If one of some conditions always holds, and each is enough for its value or fault, then each is
also needed for it. -/
theorem eq_iff_of_or {x : Except ε α} {P : α → Prop} {Q : ε → Prop} (hP : ∀ a, P a → x = .ok a)
    (hQ : ∀ fault, Q fault → x = .error fault) (h : (∃ a, P a) ∨ ∃ fault, Q fault) :
    (∀ a, x = .ok a ↔ P a) ∧ ∀ fault, x = .error fault ↔ Q fault := by
  refine ⟨fun a => ⟨fun hx => ?_, hP a⟩, fun fault => ⟨fun hx => ?_, hQ fault⟩⟩
  · rcases h with ⟨b, hb⟩ | ⟨fault, hfault⟩
    · have heq : Except.ok b = Except.ok a := (hP b hb).symm.trans hx
      exact Except.ok.inj heq ▸ hb
    · cases (hQ fault hfault).symm.trans hx
  · rcases h with ⟨b, hb⟩ | ⟨other, hother⟩
    · cases (hP b hb).symm.trans hx
    · have heq : Except.error other = Except.error fault := (hQ other hother).symm.trans hx
      exact Except.error.inj heq ▸ hother

end ArithmeticGame
