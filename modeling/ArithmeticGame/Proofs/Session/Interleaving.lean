import ArithmeticGame.Proofs.Session.Phases
/-!
# Editing while the clock runs

An edit does not touch the clock, and a tick touches the input only when it ends the game, which
also ends all editing. So it makes no difference when the ticks fall among the edits.
-/
namespace ArithmeticGame

/-- The third list has the elements of the first and of the second, those of each in their order. -/
inductive Interleaves {α : Type} : List α → List α → List α → Prop
  | nil : Interleaves [] [] []
  | left {x : α} {xs ys zs : List α} (h : Interleaves xs ys zs) : Interleaves (x :: xs) ys (x :: zs)
  | right {y : α} {xs ys zs : List α} (h : Interleaves xs ys zs) :
      Interleaves xs (y :: ys) (y :: zs)

namespace Session

variable {s : Session}

theorem run_cons (s : Session) (o : Operation) (operations : List Operation) :
    s.run (o :: operations) = (s.apply o).1.run operations := rfl

def Commute (o p : Operation) : Prop :=
  ∀ s : Session, ((s.apply o).1.apply p).1 = ((s.apply p).1.apply o).1

theorem Commute.run {o : Operation} {operations : List Operation}
    (h : ∀ p ∈ operations, Commute o p) (s : Session) :
    (s.apply o).1.run operations = ((s.run operations).apply o).1 := by
  induction operations generalizing s with
  | nil => rfl
  | cons p operations ih =>
    have hp : Commute o p := h p (by simp)
    have hrest : ∀ q ∈ operations, Commute o q := fun q hq => h q (by simp [hq])
    rw [run_cons, run_cons, hp s]
    exact ih hrest (s.apply p).1

theorem run_of_interleaves {xs ys zs : List Operation} (h : Interleaves xs ys zs)
    (hcommute : ∀ x ∈ xs, ∀ y ∈ ys, Commute x y) (s : Session) :
    s.run zs = (s.run ys).run xs := by
  induction h generalizing s with
  | nil => rfl
  | @left x xs ys zs h ih =>
    have hx : ∀ y ∈ ys, Commute x y := hcommute x (by simp)
    have hxs : ∀ x' ∈ xs, ∀ y ∈ ys, Commute x' y := fun x' hx' => hcommute x' (by simp [hx'])
    rw [run_cons, ih hxs, Commute.run hx, ← run_cons]
  | @right y xs ys zs h ih =>
    have hys : ∀ x ∈ xs, ∀ y' ∈ ys, Commute x y' := by
      intro x hx y' hy'
      exact hcommute x hx y' (by simp [hy'])
    rw [run_cons, ih hys, ← run_cons]

/-! ## Edits and ticks -/

theorem apply_edit {o : Operation} {f : List Char → List Char} (he : o.edit? = some f)
    (s : Session) :
    (s.apply o).1 = if s.phase = .playing then { s with input := f s.input } else s := by
  cases o with
  | push c | backspace =>
    cases he
    simp only [apply, push, backspace]
    split <;> rfl
  | clear =>
    cases he
    rfl
  | _ => cases he

theorem apply_tick (s : Session) :
    (s.apply .tick).1 = if s.phase ≠ .playing then s
      else { s with seconds := Clock.spend s.seconds 1 }.finishIfOut := by
  simp only [apply, tick, finishIfOut]
  split
  · rfl
  · split <;> rfl

theorem commute_edit_tick {o : Operation} {f : List Char → List Char} (he : o.edit? = some f) :
    Commute o .tick := by
  intro s
  by_cases hp : s.phase = .playing
  · by_cases hs : Clock.spend s.seconds 1 = 0
    · simp [apply_edit he, apply_tick, finishIfOut, finish, hp, hs]
    · simp [apply_edit he, apply_tick, finishIfOut, hp, hs]
  · simp [apply_edit he, apply_tick, hp]

theorem run_ticks {k : Nat} (hp : s.phase = .playing) (hk : max 1 s.seconds.toNat ≤ k) :
    s.run (List.replicate k .tick) =
      { s with seconds := 0, phase := .finished, input := [] } := by
  induction k generalizing s with
  | zero => omega
  | succ k ih =>
    rw [List.replicate_succ, run_cons, apply_tick, if_neg (Decidable.not_not.2 hp)]
    by_cases hs : Clock.spend s.seconds 1 = 0
    · -- the game is over, and a game that is over does not heed ticks
      rw [hs, finishIfOut, if_pos rfl]
      refine run_eq_self ?_
      intro o ho
      rw [List.eq_of_mem_replicate ho]
      simp [finish, Phase.Heeds]
    · have hleft : 1 < s.seconds.toNat := by
        rw [Clock.spend_eq_zero, UInt32.le_iff_toNat_le] at hs
        exact Nat.lt_of_not_le hs
      have hspent : (Clock.spend s.seconds 1).toNat = s.seconds.toNat - 1 := Clock.toNat_spend ..
      rw [finishIfOut, if_neg hs]
      exact ih hp (show max 1 (Clock.spend s.seconds 1).toNat ≤ k by omega)

/-- How edits and ticks interleave makes no difference to where they lead, and once the seconds
have all gone they lead to the end of the game with nothing typed. -/
theorem interleavings_agree (s : Session) {edits one other : List Operation} {k : Nat}
    (hedits : ∀ o ∈ edits, o.edit?.isSome)
    (h : Interleaves edits (List.replicate k .tick) one)
    (h' : Interleaves edits (List.replicate k .tick) other) :
    s.run one = s.run other ∧
    (s.phase = .playing → max 1 s.seconds.toNat ≤ k →
      s.run one = { s with seconds := 0, phase := .finished, input := [] }) := by
  have hcommute : ∀ o ∈ edits, ∀ p ∈ List.replicate k Operation.tick, Commute o p := by
    intro o ho p hp
    obtain ⟨f, hf⟩ := Option.isSome_iff_exists.1 (hedits o ho)
    rw [List.eq_of_mem_replicate hp]
    exact commute_edit_tick hf
  have hone := run_of_interleaves h hcommute s
  have hother := run_of_interleaves h' hcommute s
  refine ⟨hone.trans hother.symm, ?_⟩
  intro hp hk
  rw [hone, run_ticks hp hk]
  -- the edits come after the end of the game
  refine run_eq_self ?_
  intro o ho
  have hrestart : o ≠ .restart := by
    intro heq
    rw [heq] at ho
    cases hedits .restart ho
  exact hrestart

theorem interleavings_agree_lastSeconds :
    let s := { secondRound with seconds := 2 }
    let edits : List Operation := [.push '4', .backspace, .push '5']
    let one : List Operation := [.push '4', .tick, .backspace, .tick, .push '5']
    let other : List Operation := [.tick, .push '4', .backspace, .push '5', .tick]
    (∀ o ∈ edits, o.edit?.isSome) ∧
      Interleaves edits (List.replicate 2 .tick) one ∧
      Interleaves edits (List.replicate 2 .tick) other ∧ s.run one = s.run other ∧
      s.phase = .playing ∧ max 1 s.seconds.toNat ≤ 2 ∧
      s.run one = { s with seconds := 0, phase := .finished, input := [] } := by
  intro s edits one other
  have hedits : ∀ o ∈ edits, o.edit?.isSome := by decide
  have hone : Interleaves edits (List.replicate 2 .tick) one :=
    .left (.right (.left (.right (.left .nil))))
  have hother : Interleaves edits (List.replicate 2 .tick) other :=
    .right (.left (.left (.left (.right .nil))))
  have hp : s.phase = .playing := by decide +kernel
  have hk : max 1 s.seconds.toNat ≤ 2 := by decide
  obtain ⟨heq, hover⟩ := interleavings_agree s hedits hone hother
  exact ⟨hedits, hone, hother, heq, hp, hk, hover hp hk⟩

end Session
end ArithmeticGame
