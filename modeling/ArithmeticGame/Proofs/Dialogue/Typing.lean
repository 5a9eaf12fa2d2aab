import ArithmeticGame.Proofs.Dialogue.Notices
import ArithmeticGame.Proofs.Expr.Forest
import ArithmeticGame.Proofs.Expr.Lexemes
import ArithmeticGame.Proofs.Expr.Order
import ArithmeticGame.Proofs.Pool.Rules
/-!
# What can be typed

Keys put only some characters into the input, though a session would take any. Reading an expression
knows all of them, so that whatever is answered by key, no character is ever refused.
-/
namespace ArithmeticGame

theorem isTypable_iff {c : Char} :
    isTypable c = true ↔ c.isDigit = true ∨ c ∈ ['+', '-', '*', '/', '(', ')', ' '] := by
  simp [isTypable, or_assoc]

/-! ## Characters that cannot be read -/

namespace Token

variable {text : List Char} {c : Char} {position : Nat}

theorem mem_of_badCharacter (h : ofText text = .error (.badCharacter c position)) :
    c ∈ text ∧ Text.isBlank c = false ∧ c.isDigit = false ∧
      c ∉ ['+', '-', '*', '/', '(', ')'] := by
  have hcuts := Lexeme.cuts_ofText text
  cases ((ofText_eq_iff text).2 _).mp h with
  | @lexeme before after l _ hl hb hf =>
    cases hf with
    | badCharacter hc =>
      have hlexeme : Lexeme.symbol c position ∈ Lexeme.ofText text := by simp [hl]
      have hmark : (c, position) ∈ Text.marks text := by
        rw [← hcuts.marks_eq]
        exact List.mem_flatMap.mpr ⟨_, hlexeme, List.mem_cons_self⟩
      have hmem : c ∈ text.filter fun c => !Text.isBlank c := by
        rw [← Text.map_fst_marks]
        exact List.mem_map_of_mem hmark
      have hparts := List.mem_filter.mp hmem
      exact ⟨hparts.1, by simpa using hparts.2, hcuts.proper _ hlexeme, hc⟩

theorem ne_badCharacter_of_typable (h : ∀ c ∈ text, isTypable c = true) :
    ofText text ≠ .error (.badCharacter c position) := by
  intro hbad
  have hc := mem_of_badCharacter hbad
  rcases isTypable_iff.mp (h c hc.1) with hdigit | hmem
  · exact absurd hdigit (by simp [hc.2.2.1])
  · have hspace : c = ' ' := by
      have hnot := hc.2.2.2
      simp only [List.mem_cons, List.not_mem_nil, or_false] at hmem hnot
      tauto
    rw [hspace] at hc
    exact absurd hc.2.1 (by decide)

end Token

theorem Postfix.value_ne_badCharacter (order : List Token) (c : Char) (position : Nat) :
    value order ≠ .error (.badCharacter c position) := by
  intro h
  rcases value_cases order with ⟨t, ht, hall⟩ | hexceeds | hmalformed
  · cases h.symm.trans (value_eq_ok_iff.mpr ⟨t, ht, hall, rfl⟩)
  · cases h.symm.trans (value_of_exceeds hexceeds)
  · cases h.symm.trans hmalformed

/-- Only reading the tokens finds characters that are no good. -/
theorem Expr.ofText_of_badCharacter {text : List Char} {c : Char} {position : Nat}
    (h : Expr.value text = .error (.badCharacter c position)) :
    Token.ofText text = .error (.badCharacter c position) := by
  rcases cases_of_bind_eq_error h with ht | ⟨tokens, _, htokens⟩
  · exact ht
  · split at htokens
    · cases htokens
    · rcases cases_of_bind_eq_error htokens with ho | ⟨order, _, hvalue⟩
      · rcases Postfix.ofTokens_cases tokens with ⟨-, order, horder⟩ | ⟨-, hunbalanced⟩
        · cases ho.symm.trans horder
        · cases ho.symm.trans hunbalanced
      · exact absurd hvalue (Postfix.value_ne_badCharacter order c position)

namespace Pool

variable (p : Pool) (fault : ExprFault)

theorem identify_ne_unreadable (seen : List Nat) (x : Float) :
    p.identify seen x ≠ .error (.unreadable fault) := by
  unfold identify
  split
  · simp
  · split
    · simp
    · split <;> simp

theorem identifyAll_ne_unreadable (seen : List Nat) (xs : List Float) :
    p.identifyAll seen xs ≠ .error (.unreadable fault) := by
  induction xs generalizing seen with
  | nil => simp [identifyAll]
  | cons x xs ih =>
    intro h
    rcases cases_of_bind_eq_error h with hx | ⟨value, _, hrest⟩
    · exact p.identify_ne_unreadable fault seen x hx
    · rcases cases_of_bind_eq_error hrest with hxs | ⟨rest, _, hok⟩
      · exact ih (value :: seen) hxs
      · cases hok

theorem accept_ne_unreadable (xs : List Float) : p.accept xs ≠ .error (.unreadable fault) := by
  intro h
  by_cases hne : xs = []
  · simp [accept, hne] at h
  · rw [accept_of_ne_nil hne] at h
    rcases cases_of_bind_eq_error h with hall | ⟨used, _, hstate⟩
    · exact p.identifyAll_ne_unreadable fault [] xs hall
    · split at hstate <;> cases hstate

theorem ofText_of_acceptText {text : List Char}
    (h : p.acceptText text = .error (.unreadable fault)) : Token.ofText text = .error fault := by
  cases ht : Token.ofText text with
  | error unread =>
    rw [acceptText, ht] at h
    exact congrArg Except.error (PoolFault.unreadable.inj (Except.error.inj h))
  | ok tokens =>
    rw [acceptText_of_ofText ht] at h
    exact absurd h (p.accept_ne_unreadable fault _)

end Pool

namespace Session

variable {s s' : Session} {o : Operation} {report : Option Report} {c : Char} {position : Nat}

theorem ofText_of_check {text : List Char}
    (h : s.check text = .error (.refused (.unreadable (.badCharacter c position)))) :
    Token.ofText text = .error (.badCharacter c position) := by
  unfold check at h
  split at h
  case h_5 =>
    split at h
    · cases h
    · split at h
      · next haccept =>
        cases h
        exact Pool.ofText_of_acceptText _ _ haccept
      · split at h
        · next hvalue =>
          cases h
          exact Expr.ofText_of_badCharacter hvalue
        · cases h
  all_goals cases h

/-- A character is refused only when a text that has it is answered. -/
theorem Step.ofText_of_notice {r : Report} (h : Step s o s' (some r))
    (hr : r.notice = some (.refused (.unreadable (.badCharacter c position)))) :
    ∃ text, s.answer? o = some text ∧ Token.ofText text = .error (.badCharacter c position) := by
  cases h with
  | refused ha hc =>
    obtain rfl := Option.some.inj hr
    exact ⟨_, ha, ofText_of_check hc⟩
  | exhausted hp hd =>
    have hfault := (Pool.discard_eq_error.1 hd).1
    rw [hfault] at hr
    cases hr
  | _ => cases hr

theorem Step.mem_input (h : Step s o s' report) (hc : c ∈ s'.input) : c ∈ s.input ∨ o = .push c := by
  cases h with
  | ignored | untouched | refused | unremoved | exhausted | noRounds | ticked => exact .inl hc
  | @edited _ f he =>
    cases o with
    | push d =>
      obtain rfl := Option.some.inj he
      rcases List.mem_append.mp hc with hc | hc
      · exact .inl hc
      · exact .inr (congrArg Operation.push (List.mem_singleton.mp hc).symm)
    | backspace =>
      obtain rfl := Option.some.inj he
      exact .inl (List.mem_of_mem_dropLast hc)
    | clear =>
      obtain rfl := Option.some.inj he
      cases hc
    | _ => cases he
  | removed =>
    rw [afterRemoval, finishIfOut_eq] at hc
    simp only at hc
    split at hc
    · cases hc
    · exact .inl hc
  | missed => simp [afterMiss, finishIfOut_eq] at hc
  | begun | solved | timeUp | advanced | cleared | abandoned | restarted => cases hc

end Session

/-! ## Keys -/

namespace Command

variable {phase : Phase} {key : Key} {o : Operation}

theorem ofKey_cases (h : ofKey phase key = .operate o) :
    (∀ text, o ≠ .submit text) ∧ ∀ c, o = .push c → isTypable c = true := by
  have hcode := ofCode_of_ofKey h
  cases phase with
  | playing =>
    simp only [ofCode] at hcode
    split at hcode
    case h_7 =>
      split at hcode
      · next d hd =>
        cases hcode
        refine ⟨by simp, ?_⟩
        intro c hc
        rwa [← Operation.push.inj hc]
      · cases hcode
    all_goals cases hcode <;> simp
  | setup | solved | finished =>
    simp only [ofCode] at hcode
    split at hcode <;> cases hcode <;> simp

end Command

namespace Dialogue

variable {dialogue after : Dialogue} {event : Event} {told : Option Report} {o : Operation}

def Typed (dialogue : Dialogue) : Prop := ∀ c ∈ dialogue.session.input, isTypable c = true

theorem typable_of_operation? {phase : Phase} {c : Char}
    (h : operation? phase event = some (.push c)) : isTypable c = true := by
  rcases operation?_eq_some h with htick | ⟨key, _, hkey⟩
  · cases htick
  · exact (Command.ofKey_cases hkey).2 c rfl

theorem answer_eq_input {s : Session} {phase : Phase} {text : List Char}
    (h : operation? phase event = some o) (ha : s.answer? o = some text) : text = s.input := by
  cases o with
  | submit other =>
    rcases operation?_eq_some h with htick | ⟨key, _, hkey⟩
    · cases htick
    · exact absurd rfl ((Command.ofKey_cases hkey).1 other)
  | submitTyped => exact (Option.some.inj ha).symm
  | _ => cases ha

/-! ## One event -/

theorem Takes.typed (h : dialogue.Takes event after told) (hd : dialogue.Typed) : after.Typed := by
  have hstep : ∀ {o session report}, operation? dialogue.session.phase event = some o →
      dialogue.session.apply o = (session, report) → ∀ c ∈ session.input, isTypable c = true := by
    intro o session report ho happly c hc
    rcases (Session.step_of_apply happly).mem_input hc with hc | hpush
    · exact hd c hc
    · exact typable_of_operation? (hpush ▸ ho)
  cases h with
  | ignored => exact hd
  | silent ho happly => exact hstep ho happly
  | told ho happly => exact hstep ho happly

theorem Typed.ne_badCharacter (hd : dialogue.Typed)
    (ho : operation? dialogue.session.phase event = some o) {r : Report}
    (hr : (dialogue.session.apply o).2 = some r) (c : Char) (position : Nat) :
    r.notice ≠ some (.refused (.unreadable (.badCharacter c position))) := by
  intro hnotice
  have hstep := dialogue.session.step_apply o
  rw [hr] at hstep
  obtain ⟨text, ha, hbad⟩ := hstep.ofText_of_notice hnotice
  rw [answer_eq_input ho ha] at hbad
  exact Token.ne_badCharacter_of_typable hd hbad

theorem Takes.ne_badCharacter {r : Report} (h : dialogue.Takes event after (some r))
    (hd : dialogue.Typed) (c : Char) (position : Nat) :
    r.notice ≠ some (.refused (.unreadable (.badCharacter c position))) := by
  cases h with
  | told ho happly => exact hd.ne_badCharacter ho (congrArg Prod.snd happly) c position

theorem take_push {c : Char} (hp : dialogue.session.phase = .playing) (hc : isTypable c = true) :
    (dialogue.take (.key (.press (.char c)))).1.session =
      { dialogue.session with input := dialogue.session.input ++ [c] } := by
  have hmark : c ≠ '?' := by
    rintro rfl
    cases hc
  have hkey : Command.ofKey .playing (.press (.char c)) = .operate (.push c) := by
    simp [Command.ofKey, Command.ofCode, Key.press, hc]
  rw [take_eq, hp, operation?, hkey, Option.elim_some, session_operate]
  simp [Session.apply, Session.push, hp]

/-! ## Runs -/

theorem typed_takeAll (hd : dialogue.Typed) (events : List Event) :
    (dialogue.takeAll events).Typed := by
  induction events generalizing dialogue with
  | nil => exact hd
  | cons event events ih => exact ih ((takes_take dialogue event).typed hd)

theorem news_ne_badCharacter (hd : dialogue.Typed) (events : List Event) :
    ∀ r ∈ dialogue.news events, ∀ c position,
      r.notice ≠ some (.refused (.unreadable (.badCharacter c position))) := by
  induction events generalizing dialogue with
  | nil => simp [news]
  | cons event events ih =>
    intro r hr
    have htakes := takes_take dialogue event
    rcases List.mem_append.mp hr with hr | hr
    · rw [Option.mem_toList.mp hr] at htakes
      exact htakes.ne_badCharacter hd
    · exact ih (htakes.typed hd) r hr

def typing (text : List Char) : List Event := text.map fun c => .key (.press (.char c))

theorem input_takeAll_typing (hp : dialogue.session.phase = .playing) {text : List Char}
    (ht : ∀ c ∈ text, isTypable c = true) :
    (dialogue.takeAll (typing text)).session.input = dialogue.session.input ++ text := by
  induction text generalizing dialogue with
  | nil => simp [typing, takeAll]
  | cons c text ih =>
    have hnext := take_push hp (ht c List.mem_cons_self)
    have hrest := @ih (dialogue.take (.key (.press (.char c)))).1 (by rw [hnext]; exact hp)
      fun d hd => ht d (List.mem_cons_of_mem c hd)
    rw [hnext, List.append_assoc, List.singleton_append] at hrest
    exact hrest

/-- Whatever keys and ticks come, in whatever order, the input is made of digits, operators,
parentheses and spaces. A key answers with the input, and neither its report nor any that the player
is told of refuses a character. In a game with rounds every text of such characters can be typed. -/
theorem typed_is_readable (rules : Rules) (source : TargetSource) (generator : Generator)
    (events : List Event) :
    let first := ofSession (.ofRules rules source generator)
    let dialogue := first.takeAll events
    (∀ c ∈ dialogue.session.input,
      c.isDigit = true ∨ c ∈ ['+', '-', '*', '/', '(', ')', ' ']) ∧
    (∀ key o text r, Command.ofKey dialogue.session.phase key = .operate o →
      dialogue.session.answer? o = some text → (dialogue.session.apply o).2 = some r →
      text = dialogue.session.input ∧
        ∀ c position, r.notice ≠ some (.refused (.unreadable (.badCharacter c position)))) ∧
    (∀ r ∈ first.news events, ∀ c position,
      r.notice ≠ some (.refused (.unreadable (.badCharacter c position)))) ∧
    (first.session.targets ≠ [] → ∀ text : List Char,
      (∀ c ∈ text, c.isDigit = true ∨ c ∈ ['+', '-', '*', '/', '(', ')', ' ']) →
      (first.takeAll (.key (.press .enter) :: typing text)).session.input = text) := by
  intro first dialogue
  have hfirst : first.Typed := by simp [Typed, first, ofSession, Session.ofRules]
  have htyped : dialogue.Typed := typed_takeAll hfirst events
  refine ⟨fun c hc => isTypable_iff.mp (htyped c hc), ?_, news_ne_badCharacter hfirst events, ?_⟩
  · intro key o text r hkey ha hr
    have ho : operation? dialogue.session.phase (.key key) = some o := by simp [operation?, hkey]
    exact ⟨answer_eq_input ho ha, htyped.ne_badCharacter ho hr⟩
  · intro htargets text ht
    have hstart : (first.take (.key (.press .enter))).1.session =
        { first.session with input := [], phase := .playing } := by
      rw [take_eq, show operation? first.session.phase (.key (.press .enter)) = some .start from rfl,
        Option.elim_some, session_operate]
      simp [Session.apply, Session.start, htargets, show first.session.phase = .setup from rfl]
    have htyping := @input_takeAll_typing (first.take (.key (.press .enter))).1
      (by rw [hstart]) text fun c hc => isTypable_iff.mpr (ht c hc)
    rwa [hstart] at htyping

/-- An answer with an open parenthesis is refused and stays in the input, without the key that means
nothing. -/
theorem typed_is_readable_unbalanced :
    let first := ofSession (.ofRules Session.twoRounds.rules (.listed [3, 20]) (.ofSeed 7))
    let events := [.enter, .char '(', .char '$', .char '1', .char '+', .enter].map
      (Event.key ∘ .press)
    let dialogue := first.takeAll events
    dialogue.session.input = ['(', '1', '+'] ∧ '1' ∈ dialogue.session.input ∧
    Command.ofKey dialogue.session.phase (.press .enter) = .operate .submitTyped ∧
    dialogue.session.answer? .submitTyped = some ['(', '1', '+'] ∧
    (∃ r, (dialogue.session.apply .submitTyped).2 = some r ∧ r.outcome = .refused ∧
      ∀ c position, r.notice ≠ some (.refused (.unreadable (.badCharacter c position)))) ∧
    (∃ r ∈ first.news events, r.outcome = .refused ∧
      ∀ c position, r.notice ≠ some (.refused (.unreadable (.badCharacter c position)))) ∧
    first.session.targets ≠ [] ∧
    (first.takeAll (.key (.press .enter) :: typing ['2', ' ', '('])).session.input =
      ['2', ' ', '('] := by
  intro first events dialogue
  have hinput : dialogue.session.input = ['(', '1', '+'] := by decide +kernel
  have hmem : '1' ∈ dialogue.session.input := by simp [hinput]
  have hkey : Command.ofKey dialogue.session.phase (.press .enter) = .operate .submitTyped := by
    decide +kernel
  have ha : dialogue.session.answer? .submitTyped = some ['(', '1', '+'] := congrArg some hinput
  have hanswer : (dialogue.session.apply .submitTyped).2.map Report.outcome = some .refused := by
    decide +kernel
  have htold : .refused ∈ (first.news events).map Report.outcome := by decide +kernel
  have htargets : first.session.targets ≠ [] := by decide +kernel
  have hchars : ∀ c ∈ ['2', ' ', '('],
      c.isDigit = true ∨ c ∈ ['+', '-', '*', '/', '(', ')', ' '] := by simp
  have hreadable := typed_is_readable Session.twoRounds.rules (.listed [3, 20]) (.ofSeed 7) events
  have hfirst :
      ofSession (.ofRules Session.twoRounds.rules (.listed [3, 20]) (.ofSeed 7)) = first := rfl
  simp only [hfirst] at hreadable
  -- the game is not to be played again while the hypotheses are compared
  clear_value first
  obtain ⟨-, hanswers, hnews, htyping⟩ := hreadable
  obtain ⟨r, hr, hrefused⟩ := Option.map_eq_some_iff.mp hanswer
  obtain ⟨told, hmember, houtcome⟩ := List.mem_map.mp htold
  have hfine := (hanswers (.press .enter) .submitTyped _ r hkey ha hr).2
  have htext := htyping htargets _ hchars
  exact ⟨hinput, hmem, hkey, ha, ⟨r, hr, hrefused, hfine⟩,
    ⟨told, hmember, houtcome, hnews told hmember⟩, htargets, htext⟩

end Dialogue
end ArithmeticGame
