import ArithmeticGame.Proofs.Dialogue.Endings
import ArithmeticGame.Proofs.EventLoop.Deliveries
import ArithmeticGame.Proofs.Screen.Lines
import Mathlib.Data.List.Induction
/-!
# The notice on the screen

The notice and the outcome that colours it are kept beside the session, and only some reports reach
them. Whatever keys and ticks come, both stem from the last report that the player was told of, and
they suit the phase of the session.
-/
namespace ArithmeticGame

def Report.Silent (r : Report) : Prop := r.outcome = .nothing ∧ r.notice = none

instance (r : Report) : Decidable r.Silent :=
  inferInstanceAs (Decidable (r.outcome = .nothing ∧ r.notice = none))

def Phase.Suits (phase : Phase) (notice : Option Notice) (outcome : Option Outcome) : Prop :=
  outcome ≠ some .nothing ∧ (outcome = none → notice = none) ∧
  match phase with
  | .setup => notice = none
  | .playing => True
  | .solved => outcome = some .hit ∧ notice.isSome
  | .finished => notice.isSome

namespace Session

variable {s s' : Session} {o : Operation} {report : Option Report}

/-! ## Reports and phases -/

theorem step_of_apply (h : s.apply o = (s', report)) : Step s o s' report := by
  have hstep := s.step_apply o
  rwa [h] at hstep

theorem playing_of_answer? {text : List Char} (ha : s.answer? o = some text)
    (ho : o = .tick ∨ s.phase.Heeds o) : s.phase = .playing := by
  cases hp : s.phase with
  | playing => rfl
  | setup | solved | finished =>
    rw [hp] at ho
    cases o <;> simp [answer?, Phase.Heeds] at ha ho

theorem Step.phase_of_silent (h : Step s o s' report) (hr : ∀ r ∈ report, r.Silent) :
    s'.phase = s.phase := by
  cases h with
  | ignored | untouched | refused | unremoved | exhausted | edited | ticked => rfl
  | _ => exact absurd (hr _ rfl) (by simp [Report.Silent, Session.report])

theorem Step.suits_of_told {r : Report} (h : Step s o s' (some r))
    (ho : o = .tick ∨ s.phase.Heeds o) (hr : ¬ r.Silent) :
    s'.phase.Suits r.notice (some r.outcome) := by
  have hplaying : ∀ {text : List Char}, s.answer? o = some text → s.phase = .playing :=
    fun ha => playing_of_answer? ha ho
  cases h with
  | ignored | ticked => exact absurd ⟨rfl, rfl⟩ hr
  | refused ha => simp [Phase.Suits, Session.report, hplaying ha]
  | unremoved hp =>
    obtain ho | ho := ho
    · cases ho
    · cases hphase : s.phase <;> simp [hphase, Phase.Heeds] at ho hp
  | exhausted hp => simp [Phase.Suits, Session.report, hp]
  | missed ha =>
    simp only [phase_afterMiss, hplaying ha]
    split <;> simp [Phase.Suits, Session.report]
  | removed hp =>
    simp only [phase_afterRemoval, hp]
    split <;> simp [Phase.Suits, Session.report]
  | noRounds | begun | solved | timeUp | advanced | cleared | abandoned | restarted =>
    simp [Phase.Suits, Session.report, afterHit, finish, ofRules]

theorem Step.eq_of_over (h : Step s o s' report) (ho : o = .tick ∨ s.phase.Heeds o)
    (hp : s.phase = .finished) (hp' : s'.phase = .finished) :
    s' = s ∧ ∀ r ∈ report, r.Silent := by
  rw [hp] at ho
  obtain rfl | rfl := ho
  · cases h with
    | ignored => exact ⟨rfl, by simp [Report.Silent, Session.report]⟩
    | untouched he | refused he | edited he | solved he | missed he => cases he
    | ticked hlive | timeUp hlive => simp [hp] at hlive
  · cases h with
    | ignored hi => exact absurd hp hi
    | untouched he | refused he | edited he | solved he | missed he => cases he
    | restarted => cases hp'

end Session

namespace Command

theorem heeds_of_ofCode {phase : Phase} {code : KeyCode} {o : Operation}
    (h : ofCode phase code = .operate o) : phase.Heeds o := by
  cases phase with
  | playing => trivial
  | setup | solved | finished =>
    simp only [ofCode] at h
    split at h <;> cases h <;> simp [Phase.Heeds]

theorem ofCode_of_ofKey {phase : Phase} {key : Key} {o : Operation}
    (h : ofKey phase key = .operate o) : ofCode phase key.code = .operate o := by
  unfold ofKey at h
  split at h
  · cases h
  · split at h
    · cases h
    · exact h

theorem heeds_of_ofKey {phase : Phase} {key : Key} {o : Operation}
    (h : ofKey phase key = .operate o) : phase.Heeds o :=
  heeds_of_ofCode (ofCode_of_ofKey h)

end Command

namespace Dialogue

/-- The operation that an event asks for in a phase. -/
def operation? (phase : Phase) : Event → Option Operation
  | .tick => some .tick
  | .key key =>
    match Command.ofKey phase key with
    | .operate o => some o
    | .quit | .nothing => none
  | .resize | .idle => none

/-- The report of an event that the player is told of. -/
def news? (dialogue : Dialogue) (event : Event) : Option Report :=
  ((operation? dialogue.session.phase event).bind fun o => (dialogue.session.apply o).2).filter
    fun r => ¬ r.Silent

def news (dialogue : Dialogue) : List Event → List Report
  | [] => []
  | event :: events => (dialogue.news? event).toList ++ (dialogue.take event).1.news events

/-- What an event does to the game, and what the player is told of it. -/
inductive Takes (dialogue : Dialogue) (event : Event) : Dialogue → Option Report → Prop
  | ignored (ho : operation? dialogue.session.phase event = none) :
      Takes dialogue event dialogue none
  | silent {o : Operation} {session : Session} {report : Option Report}
      (ho : operation? dialogue.session.phase event = some o)
      (h : dialogue.session.apply o = (session, report)) (hr : ∀ r ∈ report, r.Silent) :
      Takes dialogue event { dialogue with session } none
  | told {o : Operation} {session : Session} {r : Report}
      (ho : operation? dialogue.session.phase event = some o)
      (h : dialogue.session.apply o = (session, some r)) (hr : ¬ r.Silent) :
      Takes dialogue event { session, notice := r.notice, outcome := some r.outcome } (some r)

variable {dialogue after : Dialogue} {event : Event} {told : Option Report}

theorem take_eq (dialogue : Dialogue) (event : Event) :
    (dialogue.take event).1 =
      (operation? dialogue.session.phase event).elim dialogue dialogue.operate := by
  cases event with
  | tick | resize | idle => rfl
  | key key =>
    simp only [take, takeKey, operation?]
    cases Command.ofKey dialogue.session.phase key <;> rfl

theorem tell_eq (dialogue : Dialogue) (r : Report) :
    dialogue.tell r =
      if r.Silent then dialogue
      else { dialogue with notice := r.notice, outcome := some r.outcome } := rfl

theorem takes_take (dialogue : Dialogue) (event : Event) :
    dialogue.Takes event (dialogue.take event).1 (dialogue.news? event) := by
  rw [take_eq, news?]
  cases ho : operation? dialogue.session.phase event with
  | none => exact .ignored ho
  | some o =>
    simp only [Option.elim_some, Option.bind_some, operate]
    obtain ⟨⟨session, report⟩, happly⟩ : ∃ result, dialogue.session.apply o = result := ⟨_, rfl⟩
    rw [happly]
    cases report with
    | none => exact .silent ho happly (by simp)
    | some r =>
      by_cases hr : r.Silent
      · simpa [tell_eq, Option.filter, hr] using Takes.silent ho happly (by simpa using hr)
      · simpa [tell_eq, Option.filter, hr] using Takes.told ho happly hr

theorem operation?_eq_some {phase : Phase} {o : Operation} (h : operation? phase event = some o) :
    o = .tick ∨ ∃ key, event = .key key ∧ Command.ofKey phase key = .operate o := by
  cases event with
  | tick => exact .inl (Option.some.inj h).symm
  | resize | idle => cases h
  | key key =>
    simp only [operation?] at h
    split at h
    · next hkey => exact .inr ⟨key, rfl, Option.some.inj h ▸ hkey⟩
    · cases h
    · cases h

/-- Keys ask only for what their phase heeds; ticks come at any time. -/
theorem heeds_of_operation? {phase : Phase} {o : Operation} (h : operation? phase event = some o) :
    o = .tick ∨ phase.Heeds o := by
  rcases operation?_eq_some h with htick | ⟨key, _, hkey⟩
  · exact .inl htick
  · exact .inr (Command.heeds_of_ofKey hkey)

/-! ## One event -/

def Suits (dialogue : Dialogue) : Prop :=
  dialogue.session.phase.Suits dialogue.notice dialogue.outcome

/-- The event ends the game with a report, and the line tells by what. -/
def EndsGame (dialogue : Dialogue) (event : Event) (r : Report) (line : Span) : Prop :=
  dialogue.session.phase ≠ .finished ∧ (dialogue.take event).1.session.phase = .finished ∧
  ∃ o, operation? dialogue.session.phase event = some o ∧
    (dialogue.session.apply o).2 = some r ∧ dialogue.session.Ends o r.outcome line

theorem Takes.suits (h : dialogue.Takes event after told) (hd : dialogue.Suits) : after.Suits := by
  cases h with
  | ignored => exact hd
  | silent ho h hr =>
    rw [Suits, (Session.step_of_apply h).phase_of_silent hr]
    exact hd
  | told ho h hr => exact (Session.step_of_apply h).suits_of_told (heeds_of_operation? ho) hr

theorem Takes.shown (h : dialogue.Takes event after told) :
    after.notice = told.elim dialogue.notice Report.notice ∧
      after.outcome = told.elim dialogue.outcome (some ∘ Report.outcome) := by
  cases h <;> exact ⟨rfl, rfl⟩

theorem Takes.eq_of_over (h : dialogue.Takes event after told)
    (hp : dialogue.session.phase = .finished) (hp' : after.session.phase = .finished) :
    after = dialogue := by
  cases h with
  | ignored => rfl
  | silent ho h =>
    obtain ⟨rfl, -⟩ := (Session.step_of_apply h).eq_of_over (heeds_of_operation? ho) hp hp'
    rfl
  | told ho h hr =>
    obtain ⟨-, hsilent⟩ := (Session.step_of_apply h).eq_of_over (heeds_of_operation? ho) hp hp'
    exact absurd (hsilent _ rfl) hr

theorem endsGame_of_take (hp : dialogue.session.phase ≠ .finished)
    (hp' : (dialogue.take event).1.session.phase = .finished) :
    ∃ r line, dialogue.EndsGame event r line ∧ (dialogue.take event).1.notice = r.notice ∧
      (dialogue.take event).1.outcome = some r.outcome ∧
      (dialogue.take event).1.line? = some line := by
  cases ho : operation? dialogue.session.phase event with
  | none =>
    rw [take_eq, ho] at hp'
    exact absurd hp' hp
  | some o =>
    obtain ⟨⟨session, report⟩, happly⟩ : ∃ result, dialogue.session.apply o = result := ⟨_, rfl⟩
    have hafter : (dialogue.take event).1 = dialogue.operate o := by rw [take_eq, ho]; rfl
    have hsession : (dialogue.take event).1.session = session := by
      rw [hafter, session_operate, happly]
    rw [hsession] at hp'
    obtain ⟨r, line, rfl, hline, hends⟩ := (Session.step_of_apply happly).ends hp hp'
    have hnotice : r.notice ≠ none := by
      intro hnone
      simp [Report.line?, hnone] at hline
    have htell : (dialogue.take event).1 =
        { session, notice := r.notice, outcome := some r.outcome } := by
      rw [hafter, operate, happly]
      simp only [tell_eq, Report.Silent, hnotice, and_false, if_false]
    refine ⟨r, line, ⟨hp, hsession ▸ hp', o, ho, ?_, hends⟩, ?_, ?_, ?_⟩
    · rw [happly]
    · rw [htell]
    · rw [htell]
    · rw [htell]
      exact hline

/-! ## Runs -/

theorem takeAll_concat (dialogue : Dialogue) (events : List Event) (event : Event) :
    dialogue.takeAll (events ++ [event]) = ((dialogue.takeAll events).take event).1 := by
  rw [takeAll, List.foldl_append]
  rfl

theorem news_concat (dialogue : Dialogue) (events : List Event) (event : Event) :
    dialogue.news (events ++ [event]) =
      dialogue.news events ++ ((dialogue.takeAll events).news? event).toList := by
  induction events generalizing dialogue with
  | nil => simp [news, takeAll]
  | cons first events ih =>
    rw [List.cons_append, news, ih, news, List.append_assoc]
    rfl

theorem suits_takeAll (hd : dialogue.Suits) (events : List Event) :
    (dialogue.takeAll events).Suits := by
  induction events using List.reverseRecOn with
  | nil => exact hd
  | append_singleton events event ih =>
    rw [takeAll_concat]
    exact (takes_take _ event).suits ih

theorem shown_takeAll (hn : dialogue.notice = none) (ho : dialogue.outcome = none)
    (events : List Event) :
    (dialogue.takeAll events).notice = (dialogue.news events).getLast?.bind Report.notice ∧
      (dialogue.takeAll events).outcome = (dialogue.news events).getLast?.map Report.outcome := by
  induction events using List.reverseRecOn with
  | nil => exact ⟨hn, ho⟩
  | append_singleton events event ih =>
    obtain ⟨hnotice, houtcome⟩ := ((dialogue.takeAll events).takes_take event).shown
    rw [takeAll_concat, news_concat, hnotice, houtcome]
    cases (dialogue.takeAll events).news? event with
    | none => simpa using ih
    | some r => simp

/-- A game that is over was ended by an event, and is as that event has left it. -/
theorem exists_endsGame (hd : dialogue.session.phase ≠ .finished) {events : List Event}
    (hp : (dialogue.takeAll events).session.phase = .finished) :
    ∃ before event after r line, events = before ++ event :: after ∧
      (dialogue.takeAll before).EndsGame event r line ∧
      dialogue.takeAll (before ++ [event]) = dialogue.takeAll events ∧
      (dialogue.takeAll events).notice = r.notice ∧
      (dialogue.takeAll events).outcome = some r.outcome ∧
      (dialogue.takeAll events).line? = some line := by
  induction events using List.reverseRecOn with
  | nil => exact absurd hp hd
  | append_singleton events event ih =>
    have hnext := takeAll_concat dialogue events event
    rw [hnext] at hp
    by_cases hlive : (dialogue.takeAll events).session.phase = .finished
    · obtain ⟨before, first, after, r, line, rfl, hends, hsame, hshown⟩ := ih hlive
      have heq : dialogue.takeAll ((before ++ first :: after) ++ [event]) =
          dialogue.takeAll (before ++ first :: after) :=
        hnext.trans ((takes_take _ event).eq_of_over hlive hp)
      refine ⟨before, first, after ++ [event], r, line, by simp, hends, ?_, ?_⟩
      · rw [hsame, heq]
      · rwa [heq]
    · obtain ⟨r, line, hends, hshown⟩ := endsGame_of_take hlive hp
      refine ⟨events, event, [], r, line, rfl, hends, rfl, ?_⟩
      rwa [hnext]

/-- Whatever events come in a new game, the notice and the outcome are those of the last report that
the player was told of. None is told before a game, and a solved round shows the notice of its
answer. The screen after a game has a line that tells what ended it, in the words and in the style
that belong to the operation that did. -/
theorem shows_last_report (rules : Rules) (source : TargetSource) (generator : Generator)
    (events : List Event) :
    let first := ofSession (.ofRules rules source generator)
    let dialogue := first.takeAll events
    let last := (first.news events).getLast?
    dialogue.notice = last.bind Report.notice ∧ dialogue.outcome = last.map Report.outcome ∧
    dialogue.outcome ≠ some .nothing ∧ (dialogue.outcome = none → dialogue.notice = none) ∧
    (dialogue.session.phase = .setup → dialogue.notice = none) ∧
    (dialogue.session.phase = .solved →
      dialogue.outcome = some .hit ∧ dialogue.notice.isSome) ∧
    (dialogue.session.phase = .finished →
      ∃ before event after r line, events = before ++ event :: after ∧
        (first.takeAll before).EndsGame event r line ∧
        first.takeAll (before ++ [event]) = dialogue ∧
        dialogue.notice = r.notice ∧ dialogue.outcome = some r.outcome ∧
        dialogue.notice.map (fun notice => notice.text.toList) = some line.text ∧
        [line] ∈ View.overLines dialogue ∧
        ∀ width height, 5 ≤ height → line.text.length ≤ width →
          (dialogue.screen width height).Shows line) := by
  intro first dialogue last
  have hfirst : first.Suits := ⟨by simp [first, ofSession], fun _ => rfl, rfl⟩
  obtain ⟨hnothing, hnone, hphase⟩ : dialogue.Suits := suits_takeAll hfirst events
  obtain ⟨hnotice, houtcome⟩ := @shown_takeAll first rfl rfl events
  refine ⟨hnotice, houtcome, hnothing, hnone, fun hp => ?_, fun hp => ?_, fun hp => ?_⟩
  · rwa [hp] at hphase
  · rwa [hp] at hphase
  · have hlive : first.session.phase ≠ .finished := by simp [first, ofSession, Session.ofRules]
    obtain ⟨before, event, after, r, line, hevents, hends, hsame, hshown, hcolour, hline⟩ :=
      exists_endsGame hlive hp
    have htext : dialogue.notice.map (fun notice => notice.text.toList) = some line.text := by
      obtain ⟨notice, hsome, rfl⟩ := Option.map_eq_some_iff.1 hline
      exact Option.map_eq_some_iff.2 ⟨notice, hsome, rfl⟩
    exact ⟨before, event, after, r, line, hevents, hends, hsame, hshown, hcolour, htext,
      List.mem_of_getElem? (View.overLines_of_line? hline).2,
      fun width height hheight hwidth => View.shows_line hp hline hheight hwidth⟩

/-- A right answer, the end of the game by the escape key and the setup of another game. -/
theorem shows_last_report_twoRounds :
    let first := ofSession (.ofRules Session.twoRounds.rules (.listed [3, 20]) (.ofSeed 7))
    let solving := [.enter, .char '1', .char '+', .char '2', .enter].map (Event.key ∘ .press)
    let ending := solving ++ [.tick, .key (.press .escape), .resize]
    let again := ending ++ [.key (.press (.char 'r'))]
    (first.takeAll []).outcome = none ∧ (first.takeAll []).notice = none ∧
    (first.takeAll solving).session.phase = .solved ∧
    (first.takeAll solving).outcome = some .hit ∧ (first.takeAll solving).notice.isSome ∧
    (first.takeAll ending).session.phase = .finished ∧
    (∃ before event after r line, ending = before ++ event :: after ∧
      (first.takeAll before).EndsGame event r line ∧ line.text = "Game ended".toList ∧
      [line] ∈ View.overLines (first.takeAll ending) ∧
      ((first.takeAll ending).screen 80 24).Shows line) ∧
    (first.takeAll again).session.phase = .setup ∧ (first.takeAll again).notice = none := by
  intro first solving ending again
  have hnew : (first.takeAll []).outcome = none := rfl
  have hsolved : (first.takeAll solving).session.phase = .solved := by decide +kernel
  have hended : (first.takeAll ending).session.phase = .finished := by decide +kernel
  have hlast : (first.takeAll ending).notice = some .ended := by decide +kernel
  have hsetup : (first.takeAll again).session.phase = .setup := by decide +kernel
  have hshows := shows_last_report Session.twoRounds.rules (.listed [3, 20]) (.ofSeed 7)
  have hfirst :
      ofSession (.ofRules Session.twoRounds.rules (.listed [3, 20]) (.ofSeed 7)) = first := rfl
  simp only [hfirst] at hshows
  -- the game is not to be played again while the hypotheses are compared
  clear_value first
  obtain ⟨-, -, -, hnone, -⟩ := hshows []
  obtain ⟨-, -, -, -, -, hanswer, -⟩ := hshows solving
  obtain ⟨-, -, -, -, -, -, hover⟩ := hshows ending
  obtain ⟨-, -, -, -, hempty, -⟩ := hshows again
  obtain ⟨houtcome, hnotice⟩ := hanswer hsolved
  obtain ⟨before, event, after, r, line, hevents, hends, -, -, -, htext, hline, hscreen⟩ :=
    hover hended
  have hwords : line.text = "Game ended".toList := by
    rw [hlast] at htext
    exact (Option.some.inj htext).symm
  have hwidth : line.text.length ≤ 80 := by
    rw [hwords]
    decide
  exact ⟨hnew, hnone hnew, hsolved, houtcome, hnotice, hended,
    ⟨before, event, after, r, line, hevents, hends, hwords, hline,
      hscreen 80 24 (by decide) hwidth⟩, hsetup, hempty hsetup⟩

end Dialogue
end ArithmeticGame
