import ArithmeticGame.Proofs.Expr.Grammar
import ArithmeticGame.Proofs.Pool.Rules
import ArithmeticGame.Proofs.Session.Run
/-!
# Refused answers

An answer passes through seven stages, each of which may fail on its own account. It is refused just
when some stage fails, with the notice of the first that does, and nothing of the session changes.
-/
namespace ArithmeticGame

/-- What has to be in order before a text is held against the target. -/
inductive Stage where
  | phase
  | round
  | text
  | tokens
  | pool
  | order
  | value

def Stage.all : List Stage := [phase, round, text, tokens, pool, order, value]

theorem Stage.mem_all (stage : Stage) : stage ∈ Stage.all := by
  cases stage <;> simp [Stage.all]

namespace Session

/-- A stage fails with a notice, whatever the other stages say. -/
inductive Fails (s : Session) (text : List Char) : Stage → Notice → Prop
  | setup (h : s.phase = .setup) : Fails s text .phase .notStarted
  | solved (h : s.phase = .solved) : Fails s text .phase .advanceFirst
  | finished (h : s.phase = .finished) : Fails s text .phase .gameOver
  | round (h : s.target? = none) : Fails s text .round .noRoundInPlay
  | text (h : ∀ c ∈ text, Text.isBlank c = true) :
      Fails s text .text (.refused (.unreadable .empty))
  | tokens {fault : ExprFault} (h : Token.ofText text = .error fault) :
      Fails s text .tokens (.refused (.unreadable fault))
  | pool {tokens : List Token} {fault : PoolFault} (ht : Token.ofText text = .ok tokens)
      (h : s.pool.Breaks (Token.numbers tokens) fault) : Fails s text .pool (.refused fault)
  | order {tokens : List Token} {fault : ExprFault} (ht : Token.ofText text = .ok tokens)
      (h : Postfix.ofTokens tokens = .error fault) :
      Fails s text .order (.refused (.unreadable fault))
  | value {tokens order : List Token} {fault : ExprFault} (ht : Token.ofText text = .ok tokens)
      (ho : Postfix.ofTokens tokens = .ok order) (h : Postfix.value order = .error fault) :
      Fails s text .value (.refused (.unreadable fault))

/-- The first of the stages that fails does so with the notice. -/
def FirstFails (s : Session) (text : List Char) : List Stage → Notice → Prop
  | [], _ => False
  | stage :: stages, notice => s.Fails text stage notice ∨
      (∀ other, ¬ s.Fails text stage other) ∧ s.FirstFails text stages notice

variable {s : Session} {text : List Char}

theorem exists_firstFails {stages : List Stage} :
    (∃ notice, s.FirstFails text stages notice) ↔
      ∃ stage ∈ stages, ∃ notice, s.Fails text stage notice := by
  induction stages with
  | nil => simp [FirstFails]
  | cons stage stages ih =>
    simp only [FirstFails, List.exists_mem_cons_iff, ← ih]
    constructor
    · rintro ⟨notice, h | ⟨-, h⟩⟩
      · exact .inl ⟨notice, h⟩
      · exact .inr ⟨notice, h⟩
    · rintro (⟨notice, h⟩ | ⟨notice, h⟩)
      · exact ⟨notice, .inl h⟩
      · by_cases hf : ∃ other, s.Fails text stage other
        · obtain ⟨other, hother⟩ := hf
          exact ⟨other, .inl hother⟩
        · exact ⟨notice, .inr ⟨not_exists.1 hf, h⟩⟩

theorem Fails.unique (hsize : s.pool.size < 2 ^ 53) {stage : Stage} {notice other : Notice}
    (h : s.Fails text stage notice) (h' : s.Fails text stage other) : notice = other := by
  cases h with
  | setup hp | solved hp | finished hp =>
    cases h' with
    | setup hp' | solved hp' | finished hp' => simp_all
  | round | text =>
    cases h'
    rfl
  | tokens ht =>
    cases h' with
    | tokens ht' =>
      cases ht.symm.trans ht'
      rfl
  | pool ht hb =>
    cases h' with
    | pool ht' hb' =>
      cases ht.symm.trans ht'
      cases (Pool.accept_of_breaks hsize hb).symm.trans (Pool.accept_of_breaks hsize hb')
      rfl
  | order ht ho =>
    cases h' with
    | order ht' ho' =>
      cases ht.symm.trans ht'
      cases ho.symm.trans ho'
      rfl
  | value ht ho hv =>
    cases h' with
    | value ht' ho' hv' =>
      cases ht.symm.trans ht'
      cases ho.symm.trans ho'
      cases hv.symm.trans hv'
      rfl

theorem firstFails_of_fails (hsize : s.pool.size < 2 ^ 53) {stage : Stage} {first : Notice}
    (h : s.Fails text stage first) (stages : List Stage) (notice : Notice) :
    s.FirstFails text (stage :: stages) notice ↔ first = notice := by
  constructor
  · rintro (h' | ⟨hpass, -⟩)
    · exact h.unique hsize h'
    · exact absurd h (hpass first)
  · rintro rfl
    exact .inl h

theorem firstFails_of_passes {stage : Stage} (h : ∀ other, ¬ s.Fails text stage other)
    (stages : List Stage) (notice : Notice) :
    s.FirstFails text (stage :: stages) notice ↔ s.FirstFails text stages notice := by
  simp [FirstFails, h]

theorem not_fails_phase (h : s.phase = .playing) (notice : Notice) :
    ¬ s.Fails text .phase notice := by
  intro hf
  cases hf with
  | setup h' | solved h' | finished h' => simp [h] at h'

theorem not_fails_round {target : Int64} (h : s.target? = some target) (notice : Notice) :
    ¬ s.Fails text .round notice := by
  intro hf
  cases hf with
  | round h' => cases h.symm.trans h'

theorem not_fails_text (h : ¬ ∀ c ∈ text, Text.isBlank c = true) (notice : Notice) :
    ¬ s.Fails text .text notice := by
  intro hf
  cases hf with
  | text h' => exact h h'

theorem not_fails_tokens {tokens : List Token} (h : Token.ofText text = .ok tokens)
    (notice : Notice) : ¬ s.Fails text .tokens notice := by
  intro hf
  cases hf with
  | tokens h' => cases h.symm.trans h'

theorem not_fails_pool (hsize : s.pool.size < 2 ^ 53) {tokens : List Token}
    (ht : Token.ofText text = .ok tokens) (h : s.pool.Admits (Token.numbers tokens))
    (notice : Notice) : ¬ s.Fails text .pool notice := by
  intro hf
  cases hf with
  | pool ht' hb =>
    cases ht.symm.trans ht'
    cases (Pool.accept_of_admits hsize h).symm.trans (Pool.accept_of_breaks hsize hb)

theorem not_fails_order {tokens order : List Token} (ht : Token.ofText text = .ok tokens)
    (h : Postfix.ofTokens tokens = .ok order) (notice : Notice) :
    ¬ s.Fails text .order notice := by
  intro hf
  cases hf with
  | order ht' h' =>
    cases ht.symm.trans ht'
    cases h.symm.trans h'

theorem not_fails_value {tokens order : List Token} {value : Float}
    (ht : Token.ofText text = .ok tokens) (ho : Postfix.ofTokens tokens = .ok order)
    (h : Postfix.value order = .ok value) (notice : Notice) : ¬ s.Fails text .value notice := by
  intro hf
  cases hf with
  | value ht' ho' h' =>
    cases ht.symm.trans ht'
    cases ho.symm.trans ho'
    cases h.symm.trans h'

/-! ## The check stage by stage -/

theorem check_eq_error_of_ofText (hsize : s.pool.size < 2 ^ 53) {target : Int64}
    {tokens : List Token} (hp : s.phase = .playing) (htarget : s.target? = some target)
    (hb : ¬ ∀ c ∈ text, Text.isBlank c = true) (ht : Token.ofText text = .ok tokens)
    (notice : Notice) :
    s.check text = .error notice ↔ s.FirstFails text [.pool, .order, .value] notice := by
  have hall : text.all Text.isBlank ≠ true := by rwa [ne_eq, List.all_eq_true]
  simp only [check, hp, htarget, if_neg hall, Pool.acceptText_of_ofText ht]
  rcases s.pool.admits_or_breaks (Token.numbers tokens) with ha | ⟨fault, hbreaks⟩
  · have hne : tokens ≠ [] := by
      rintro rfl
      exact ha.ne_nil rfl
    rw [firstFails_of_passes (not_fails_pool hsize ht ha), Pool.accept_of_admits hsize ha]
    cases ho : Postfix.ofTokens tokens with
    | error fault =>
      simp [firstFails_of_fails hsize (.order ht ho), Expr.value_of_ofText ht hne, ho, bind,
        Except.bind]
    | ok order =>
      rw [firstFails_of_passes (not_fails_order ht ho), Expr.value_of_ofTokens ht hne ho]
      cases hv : Postfix.value order with
      | error fault => simp [firstFails_of_fails hsize (.value ht ho hv)]
      | ok value => simp [FirstFails, not_fails_value ht ho hv]
  · simp [firstFails_of_fails hsize (.pool ht hbreaks), Pool.accept_of_breaks hsize hbreaks]

theorem check_eq_error_iff (hsize : s.pool.size < 2 ^ 53) (notice : Notice) :
    s.check text = .error notice ↔ s.FirstFails text Stage.all notice := by
  rw [Stage.all]
  cases hp : s.phase with
  | setup => simp [firstFails_of_fails hsize (.setup hp), check, hp]
  | solved => simp [firstFails_of_fails hsize (.solved hp), check, hp]
  | finished => simp [firstFails_of_fails hsize (.finished hp), check, hp]
  | playing =>
    rw [firstFails_of_passes (not_fails_phase hp)]
    cases htarget : s.target? with
    | none => simp [firstFails_of_fails hsize (.round htarget), check, hp, htarget]
    | some target =>
      rw [firstFails_of_passes (not_fails_round htarget)]
      by_cases hblank : ∀ c ∈ text, Text.isBlank c = true
      · have hall : text.all Text.isBlank = true := List.all_eq_true.2 hblank
        simp [firstFails_of_fails hsize (.text hblank), check, hp, htarget, hall]
      · rw [firstFails_of_passes (not_fails_text hblank)]
        cases ht : Token.ofText text with
        | error fault =>
          have hall : text.all Text.isBlank ≠ true := by rwa [ne_eq, List.all_eq_true]
          simp [firstFails_of_fails hsize (.tokens ht), check, hp, htarget, hall,
            Pool.acceptText, ht]
        | ok tokens =>
          rw [firstFails_of_passes (not_fails_tokens ht)]
          exact check_eq_error_of_ofText hsize hp htarget hblank ht notice

theorem outcome_submit_eq_refused (s : Session) (text : List Char) :
    (s.submit text).2.outcome = .refused ↔ ∃ notice, s.check text = .error notice := by
  cases hc : s.check text with
  | error notice => simp [submit, hc]
  | ok a =>
    by_cases hh : a.hits = true
    · simp [submit, hc, hh, solve]
    · simp [submit, hc, hh, miss]

theorem submit_of_check_error {notice : Notice} (h : s.check text = .error notice) :
    s.submit text = s.report .refused (some notice) [] := by
  rw [submit, h]

theorem outcome_removeNumber_eq_refused (s : Session) :
    s.removeNumber.2.outcome = .refused ↔ s.phase ≠ .playing := by
  by_cases hp : s.phase = .playing
  · cases hd : s.pool.discard s.generator with
    | error fault => simp [removeNumber, hp, hd]
    | ok removed => simp [removeNumber, hp, hd]
  · simp [removeNumber, hp]

theorem outcome_removeNumber_eq_done (s : Session) :
    s.removeNumber.2.outcome = .done ↔
      s.phase = .playing ∧ ∀ value, s.pool.state? value ≠ some .available := by
  by_cases hp : s.phase = .playing
  · cases hd : s.pool.discard s.generator with
    | error fault => simpa [removeNumber, hp, hd] using (Pool.discard_eq_error.1 hd).2
    | ok removed =>
      obtain ⟨value, pool, generator⟩ := removed
      simp only [removeNumber, hp, hd, ne_eq, not_true_eq_false, if_false, report_outcome,
        reduceCtorEq, true_and, false_iff, not_forall, not_not]
      exact ⟨value, (Pool.discard_ok hd).1⟩
  · simp [removeNumber, hp]

theorem removeNumber_eq_self (h : s.removeNumber.2.outcome = .refused ∨
    s.removeNumber.2.outcome = .done) : s.removeNumber.1 = s := by
  by_cases hp : s.phase = .playing
  · cases hd : s.pool.discard s.generator with
    | error fault => simp [removeNumber, hp, hd]
    | ok removed => simp [removeNumber, hp, hd] at h
  · simp [removeNumber, hp]

/-- An answer is refused just when a stage of the check fails, with the notice of the first that
does; refused answers, and removals that are refused or find no number, leave the session as it is. -/
theorem refuses_unchanged (s : Session) (hsize : s.pool.size < 2 ^ 53) :
    (∀ text : List Char,
      ((s.submit text).2.outcome = .refused ↔ ∃ stage notice, s.Fails text stage notice) ∧
      (∀ notice, s.FirstFails text Stage.all notice → (s.submit text).2.notice = some notice) ∧
      ((s.submit text).2.outcome = .refused → (s.submit text).1 = s)) ∧
    (s.removeNumber.2.outcome = .refused ↔ s.phase ≠ .playing) ∧
    (s.removeNumber.2.outcome = .done ↔
      s.phase = .playing ∧ ∀ value, s.pool.state? value ≠ some .available) ∧
    (s.removeNumber.2.outcome = .refused ∨ s.removeNumber.2.outcome = .done →
      s.removeNumber.1 = s) := by
  refine ⟨fun text => ⟨?_, ?_, ?_⟩, s.outcome_removeNumber_eq_refused,
    s.outcome_removeNumber_eq_done, removeNumber_eq_self⟩
  · simp only [outcome_submit_eq_refused, check_eq_error_iff hsize, exists_firstFails,
      Stage.mem_all, true_and]
  · intro notice hfirst
    rw [submit_of_check_error ((check_eq_error_iff hsize notice).2 hfirst), report]
  · intro hrefused
    obtain ⟨notice, hc⟩ := (s.outcome_submit_eq_refused text).1 hrefused
    rw [submit_of_check_error hc, report_session]

/-- An answer with a used number and an open parenthesis. The pool is asked first. -/
theorem refuses_unchanged_secondRound :
    let text := ['(', '1', '+', '3']
    secondRound.pool.size < 2 ^ 53 ∧ secondRound.Fails text .pool (.refused (.taken 1)) ∧
      secondRound.Fails text .order (.refused (.unreadable .unbalanced)) ∧
      (secondRound.submit text).2.outcome = .refused ∧
      (secondRound.submit text).2.notice = some (.refused (.taken 1)) ∧
      (secondRound.submit text).1 = secondRound := by
  intro text
  have hsize : secondRound.pool.size < 2 ^ 53 := by decide +kernel
  have hp : secondRound.phase = .playing := by decide +kernel
  have htarget : secondRound.target? = some 20 := by decide +kernel
  have ht : Token.ofText text = .ok [.opening, .number 1, .operator .add, .number 3] := rfl
  have hpool : secondRound.Fails text .pool (.refused (.taken 1)) := by
    have hone : secondRound.pool.Holds 1 := by decide +kernel
    have hthree : secondRound.pool.Holds 3 := by decide +kernel
    have hspent : secondRound.pool.state? 1 ≠ some .available := by decide +kernel
    have hfits : secondRound.pool.Fits [1, 3] := ⟨by simp [hone, hthree], by decide⟩
    have hbreaks : secondRound.pool.Breaks ([] ++ 1 :: [3]) (.taken 1) :=
      .taken hfits (by simp) hspent
    exact .pool ht hbreaks
  have horder : secondRound.Fails text .order (.refused (.unreadable .unbalanced)) := .order ht rfl
  have hfirst : secondRound.FirstFails text Stage.all (.refused (.taken 1)) := by
    have hblank : ¬ ∀ c ∈ text, Text.isBlank c = true :=
      fun h => absurd (h '1' (by decide)) (by decide)
    rw [Stage.all, firstFails_of_passes (not_fails_phase hp),
      firstFails_of_passes (not_fails_round htarget), firstFails_of_passes (not_fails_text hblank),
      firstFails_of_passes (not_fails_tokens ht)]
    exact .inl hpool
  obtain ⟨hrefused, hnotice, hsame⟩ := (refuses_unchanged secondRound hsize).1 text
  have houtcome := hrefused.2 ⟨_, _, hpool⟩
  exact ⟨hsize, hpool, horder, houtcome, hnotice _ hfirst, hsame houtcome⟩

end Session
end ArithmeticGame
