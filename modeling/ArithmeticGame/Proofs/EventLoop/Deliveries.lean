import ArithmeticGame.EventLoop.Basic
import ArithmeticGame.Proofs.Session.Run
/-!
# What the event loop hands on

The events of a loop are those of the queue, in order, with ticks and idle waits of the inbox between
them. A tick of the inbox comes only while a round is played, and runs down its clock, so that the
ticks cannot keep the loop from its queue for ever.
-/
namespace ArithmeticGame

inductive Delivery where
  | taken (event : Event)
  /-- The wait has left the queue as it was. -/
  | generated (event : Event)
deriving DecidableEq

namespace Delivery

def event : Delivery → Event
  | taken event | generated event => event

def taken? : Delivery → Option Event
  | taken event => some event
  | generated _ => none

/-- An inbox generates ticks while a round is played, and idle waits at other times. -/
def Suits (phase : Phase) : Delivery → Prop
  | taken _ => True
  | generated event =>
    event = .tick ∧ phase = .playing ∨ event = .idle ∧ phase ≠ .playing

theorem filterMap_taken_cons (delivery : Delivery) (deliveries : List Delivery) :
    (delivery :: deliveries).filterMap taken? =
      delivery.taken?.toList ++ deliveries.filterMap taken? := by
  cases delivery <;> rfl

end Delivery

namespace Inbox

/-- What a wait gives, and where it has it from. -/
def delivery (i : Inbox) (due : Bool) : Delivery :=
  let (event, after) := i.next due
  if after.queue = i.queue then .generated event else .taken event

theorem next_cases (i : Inbox) (due : Bool) :
    (∃ event rest, i.queue = event :: rest ∧ i.delivery due = .taken event ∧
      i.next due = (event, { i with queue := rest })) ∨
    (i.ticking = true ∨ i.queue = []) ∧ i.delivery due = .generated i.generated ∧
      i.next due = (i.generated, i) := by
  obtain ⟨queue, connected, ticking⟩ := i
  cases queue with
  | nil => exact .inr ⟨.inr rfl, rfl, rfl⟩
  | cons event rest =>
    by_cases h : ticking = true ∧ due = true
    · obtain ⟨rfl, rfl⟩ := h
      exact .inr ⟨.inl rfl, by simp [delivery, next, generated], rfl⟩
    · exact .inl ⟨event, rest, rfl, by simp [delivery, next, h], by simp [next, h]⟩

end Inbox

namespace Dialogue

def takeAll (dialogue : Dialogue) (events : List Event) : Dialogue :=
  events.foldl (fun dialogue event => (dialogue.take event).1) dialogue

/-- None of the events quits when its turn comes. -/
def Proceeds (dialogue : Dialogue) : List Event → Prop
  | [] => True
  | event :: events =>
    (dialogue.take event).2 = .proceed ∧ (dialogue.take event).1.Proceeds events

/-- How many ticks may come before the clock stands. -/
def patience (dialogue : Dialogue) : Nat :=
  if dialogue.session.phase = .playing then max dialogue.session.seconds.toNat 1 else 0

variable {dialogue after : Dialogue} {event : Event}

@[simp] theorem session_tell (dialogue : Dialogue) (report : Report) :
    (dialogue.tell report).session = dialogue.session := by
  unfold tell
  split <;> rfl

theorem session_operate (dialogue : Dialogue) (operation : Operation) :
    (dialogue.operate operation).session = (dialogue.session.apply operation).1 := by
  unfold operate
  split
  · next h => rw [h, session_tell]
  · next h => rw [h]

theorem take_eq_quit (h : dialogue.take event = (after, .quit)) :
    after = dialogue ∧ ∃ key, event = .key key := by
  cases event with
  | key key =>
    simp only [take, takeKey] at h
    split at h
    · exact ⟨(congrArg Prod.fst h).symm, key, rfl⟩
    · cases h
    · cases h
  | tick | resize | idle => cases h

theorem patience_lt (dialogue : Dialogue) : dialogue.patience < UInt32.size := by
  have hlt := dialogue.session.seconds.toNat_lt
  unfold patience UInt32.size
  split <;> omega

theorem patience_takeTick_lt (hp : dialogue.session.phase = .playing) :
    dialogue.takeTick.patience < dialogue.patience := by
  have hspend := Clock.toNat_spend dialogue.session.seconds 1
  rw [UInt32.toNat_one] at hspend
  simp only [patience, takeTick, session_operate, if_pos hp]
  by_cases hs : Clock.spend dialogue.session.seconds 1 = 0
  · have hover : (dialogue.session.apply .tick).1.phase ≠ .playing := by
      simp [Session.apply, Session.tick, hp, hs, Session.finish]
    rw [if_neg hover]
    omega
  · have hne : (Clock.spend dialogue.session.seconds 1).toNat ≠ 0 :=
      fun h => hs (UInt32.toNat_inj.1 h)
    simp [Session.apply, Session.tick, hp, hs]
    omega

end Dialogue

namespace EventLoop

def deliveries (dialogue : Dialogue) (inbox : Inbox) : List Bool → List Delivery
  | [] => []
  | due :: dues =>
    let delivery := (inbox.setTicking dialogue.session.clockRuns).delivery due
    match turn dialogue inbox due with
    | ((_, .quit), _) => [delivery]
    | ((next, .proceed), inbox) => delivery :: deliveries next inbox dues

/-- What a turn does with the delivery that it makes. -/
structure Turn (dialogue : Dialogue) (inbox : Inbox) (delivery : Delivery)
    (result : Dialogue × Flow) (after : Inbox) : Prop where
  suits : delivery.Suits dialogue.session.phase
  take_eq : dialogue.take delivery.event = result
  queue_eq : inbox.queue = delivery.taken?.toList ++ after.queue
  queue_eq_nil : delivery = .generated .idle → inbox.queue = []
  connected_eq : after.connected = inbox.connected

theorem turn_turn (dialogue : Dialogue) (inbox : Inbox) (due : Bool) :
    Turn dialogue inbox ((inbox.setTicking dialogue.session.clockRuns).delivery due)
      (turn dialogue inbox due).1 (turn dialogue inbox due).2 := by
  obtain ⟨event, rest, hq, hd, hnext⟩ | ⟨hidle, hd, hnext⟩ :=
    (inbox.setTicking dialogue.session.clockRuns).next_cases due
  · simp only [turn, hd, hnext]
    exact ⟨trivial, rfl, hq, by simp, rfl⟩
  · simp only [turn, hd, hnext]
    by_cases hp : dialogue.session.phase = .playing
    · have hevent : (inbox.setTicking dialogue.session.clockRuns).generated = .tick := by
        simp [Inbox.generated, Inbox.setTicking, Session.clockRuns, hp]
      rw [hevent]
      exact ⟨.inl ⟨rfl, hp⟩, rfl, rfl, by simp, rfl⟩
    · have hevent : (inbox.setTicking dialogue.session.clockRuns).generated = .idle := by
        simp [Inbox.generated, Inbox.setTicking, Session.clockRuns, hp]
      have hq : inbox.queue = [] := by
        simpa [Inbox.setTicking, Session.clockRuns, hp] using hidle
      rw [hevent]
      exact ⟨.inr ⟨rfl, hp⟩, rfl, rfl, fun _ => hq, rfl⟩

theorem turns_cons (dialogue : Dialogue) (inbox : Inbox) (due : Bool) (dues : List Bool) :
    ∃ delivery next after,
      Turn dialogue inbox delivery (next, .quit) after ∧
        turns dialogue inbox (due :: dues) =
          some { drawn := dialogue, dialogue := next, inbox := after } ∧
        deliveries dialogue inbox (due :: dues) = [delivery] ∨
      Turn dialogue inbox delivery (next, .proceed) after ∧
        turns dialogue inbox (due :: dues) = turns next after dues ∧
        deliveries dialogue inbox (due :: dues) = delivery :: deliveries next after dues := by
  have hturn := turn_turn dialogue inbox due
  simp only [turns, deliveries]
  generalize turn dialogue inbox due = result at hturn ⊢
  obtain ⟨⟨next, flow⟩, after⟩ := result
  cases flow with
  | quit => exact ⟨_, next, after, .inl ⟨hturn, rfl, rfl⟩⟩
  | proceed => exact ⟨_, next, after, .inr ⟨hturn, rfl, rfl⟩⟩

/-! ## Whole loops -/

/-- How a loop ends: with a key of the queue that quits, behind events that do not. -/
structure Ends (dialogue : Dialogue) (inbox : Inbox) (before : List Delivery) (key : Key)
    (ending : Ending) : Prop where
  proceeds : dialogue.Proceeds (before.map Delivery.event)
  dialogue_eq : ending.dialogue = dialogue.takeAll (before.map Delivery.event)
  drawn_eq : ending.drawn = ending.dialogue
  quits : ending.dialogue.takeKey key = (ending.dialogue, .quit)
  queue_eq : inbox.queue = before.filterMap Delivery.taken? ++ .key key :: ending.inbox.queue
  connected_eq : ending.inbox.connected = inbox.connected

theorem Turn.ends_of_quit {dialogue next : Dialogue} {inbox after : Inbox} {delivery : Delivery}
    (h : Turn dialogue inbox delivery (next, .quit) after) :
    ∃ key, delivery = .taken (.key key) ∧
      Ends dialogue inbox [] key { drawn := dialogue, dialogue := next, inbox := after } := by
  obtain ⟨rfl, key, hkey⟩ := Dialogue.take_eq_quit h.take_eq
  cases delivery with
  | taken event =>
    obtain rfl : event = .key key := hkey
    exact ⟨key, rfl, trivial, rfl, rfl, h.take_eq, h.queue_eq, h.connected_eq⟩
  | generated event =>
    obtain rfl : event = .key key := hkey
    obtain ⟨hevent, -⟩ | ⟨hevent, -⟩ := h.suits <;> cases hevent

theorem Turn.ends_of_proceed {dialogue next : Dialogue} {inbox after : Inbox}
    {delivery : Delivery} {before : List Delivery} {key : Key} {ending : Ending}
    (h : Turn dialogue inbox delivery (next, .proceed) after)
    (hends : Ends next after before key ending) :
    Ends dialogue inbox (delivery :: before) key ending where
  proceeds := by simpa [Dialogue.Proceeds, h.take_eq] using hends.proceeds
  dialogue_eq := by simpa [Dialogue.takeAll, h.take_eq] using hends.dialogue_eq
  drawn_eq := hends.drawn_eq
  quits := hends.quits
  queue_eq := by
    rw [Delivery.filterMap_taken_cons, List.append_assoc, ← hends.queue_eq]
    exact h.queue_eq
  connected_eq := hends.connected_eq.trans h.connected_eq

theorem exists_ends {dialogue : Dialogue} {inbox : Inbox} {dues : List Bool} {ending : Ending}
    (h : turns dialogue inbox dues = some ending) :
    ∃ before key, deliveries dialogue inbox dues = before ++ [.taken (.key key)] ∧
      Ends dialogue inbox before key ending := by
  induction dues generalizing dialogue inbox with
  | nil => cases h
  | cons due dues ih =>
    obtain ⟨delivery, next, after, ⟨hturn, hturns, hdeliveries⟩ | ⟨hturn, hturns, hdeliveries⟩⟩ :=
      turns_cons dialogue inbox due dues
    · obtain rfl := Option.some.inj (hturns.symm.trans h)
      obtain ⟨key, rfl, hends⟩ := hturn.ends_of_quit
      exact ⟨[], key, hdeliveries, hends⟩
    · obtain ⟨before, key, hrest, hends⟩ := ih (hturns.symm.trans h)
      exact ⟨delivery :: before, key, by rw [hdeliveries, hrest]; rfl, hturn.ends_of_proceed hends⟩

theorem suits_of_deliveries {dialogue : Dialogue} {inbox : Inbox} {dues : List Bool}
    {before after : List Delivery} {delivery : Delivery}
    (h : deliveries dialogue inbox dues = before ++ delivery :: after) :
    delivery.Suits (dialogue.takeAll (before.map Delivery.event)).session.phase := by
  induction dues generalizing dialogue inbox before with
  | nil => simp [deliveries] at h
  | cons due dues ih =>
    obtain ⟨first, next, rest, ⟨hturn, -, hdeliveries⟩ | ⟨hturn, -, hdeliveries⟩⟩ :=
      turns_cons dialogue inbox due dues
    · rw [hdeliveries] at h
      cases before with
      | nil =>
        obtain rfl := (List.cons.inj h).1
        exact hturn.suits
      | cons other before => simp at h
    · rw [hdeliveries] at h
      cases before with
      | nil =>
        obtain rfl := (List.cons.inj h).1
        exact hturn.suits
      | cons other before =>
        obtain ⟨rfl, hrest⟩ := List.cons.inj h
        simpa [Dialogue.takeAll, hturn.take_eq] using ih hrest

/-- How many turns a loop can go on for, if none of its events quits. -/
def bound (dialogue : Dialogue) (inbox : Inbox) : Nat :=
  inbox.queue.length * UInt32.size + dialogue.patience

theorem Turn.bound_le {dialogue next : Dialogue} {inbox after : Inbox} {delivery : Delivery}
    (h : Turn dialogue inbox delivery (next, .proceed) after) :
    bound next after ≤ bound dialogue inbox - 1 := by
  have hqueue := h.queue_eq
  unfold bound
  -- An event of the queue outweighs any number of ticks that a clock can show.
  cases delivery with
  | taken event =>
    have hlength : inbox.queue.length = after.queue.length + 1 := by rw [hqueue]; rfl
    have hlt := next.patience_lt
    rw [hlength, Nat.add_mul, Nat.one_mul]
    omega
  | generated event =>
    have hsame : inbox.queue = after.queue := hqueue
    obtain ⟨rfl, hp⟩ | ⟨rfl, hp⟩ := h.suits
    · have hlt := Dialogue.patience_takeTick_lt hp
      obtain rfl : dialogue.takeTick = next := congrArg Prod.fst h.take_eq
      rw [hsame]
      omega
    · obtain rfl : dialogue = next := congrArg Prod.fst h.take_eq
      have hempty : after.queue = [] := hsame.symm.trans (h.queue_eq_nil rfl)
      simp [hempty, Dialogue.patience, hp]

/-- The ticks of one round are fewer than the clock has values. So a loop with enough turns has
ended, or has handed on all of its queue, and none of the events quits. -/
theorem turns_isSome_or {dialogue : Dialogue} {inbox : Inbox} {dues : List Bool}
    (hlong : bound dialogue inbox ≤ dues.length) :
    (turns dialogue inbox dues).isSome ∨
      (deliveries dialogue inbox dues).filterMap Delivery.taken? = inbox.queue ∧
        dialogue.Proceeds ((deliveries dialogue inbox dues).map Delivery.event) := by
  induction dues generalizing dialogue inbox with
  | nil =>
    have hzero : inbox.queue.length * UInt32.size = 0 :=
      Nat.le_zero.1 (Nat.le_of_add_right_le hlong)
    have hqueue : inbox.queue = [] :=
      List.eq_nil_of_length_eq_zero ((Nat.mul_eq_zero.1 hzero).resolve_right (by decide))
    exact .inr ⟨hqueue.symm, trivial⟩
  | cons due dues ih =>
    obtain ⟨delivery, next, after, ⟨-, hturns, -⟩ | ⟨hturn, hturns, hdeliveries⟩⟩ :=
      turns_cons dialogue inbox due dues
    · exact .inl (by rw [hturns]; rfl)
    · rw [hturns, hdeliveries]
      -- The turn lowers the bound, so the turns that are left are still enough.
      have hle := hturn.bound_le
      rw [List.length_cons] at hlong
      refine (ih (by omega)).imp id fun ⟨hall, hproceeds⟩ => ⟨?_, ?_⟩
      · rw [Delivery.filterMap_taken_cons, hall]
        exact hturn.queue_eq.symm
      · simpa [Dialogue.Proceeds, hturn.take_eq] using hproceeds

/-- Whether an inbox has been ticking makes no difference to a loop over it. -/
theorem run_eq (dialogue : Dialogue) (inbox : Inbox) (dues : List Bool) :
    run dialogue inbox dues = (turns dialogue inbox dues).map fun ending =>
      { ending with inbox := ending.inbox.stopTicking } := by
  cases dues <;> rfl

/-- A loop that has ended is at the game that its events lead to, the last of them being the first
that quits, and leaves an inbox that does not tick and holds the events behind that one. Each tick of
the inbox came in a round and moved its clock. However often ticks are due, a loop of enough turns
ends if one of the queued events quits. -/
theorem run_delivers (dialogue : Dialogue) (inbox : Inbox) (dues : List Bool) :
    let delivered := deliveries dialogue inbox dues
    (∀ ending, run dialogue inbox dues = some ending →
      ∃ before key, delivered = before ++ [.taken (.key key)] ∧
        Ends dialogue inbox before key ending ∧ ending.inbox.ticking = false) ∧
    (∀ before delivery after, delivered = before ++ delivery :: after →
      let met := dialogue.takeAll (before.map Delivery.event)
      delivery.Suits met.session.phase ∧ (delivery = .generated .tick → met.takeTick ≠ met)) ∧
    ((inbox.queue.length + 1) * UInt32.size ≤ dues.length →
      (run dialogue inbox dues).isSome ∨
        delivered.filterMap Delivery.taken? = inbox.queue ∧
          dialogue.Proceeds (delivered.map Delivery.event)) := by
  intro delivered
  refine ⟨fun ending h => ?_, fun before delivery after h => ?_, fun hlong => ?_⟩
  · rw [run_eq] at h
    obtain ⟨last, hlast, rfl⟩ := Option.map_eq_some_iff.1 h
    obtain ⟨before, key, hdelivered, hends⟩ := exists_ends hlast
    exact ⟨before, key, hdelivered, { hends with }, rfl⟩
  · intro met
    have hsuits : delivery.Suits met.session.phase := suits_of_deliveries h
    refine ⟨hsuits, ?_⟩
    rintro rfl heq
    obtain ⟨-, hp⟩ | ⟨hevent, -⟩ := hsuits
    · have hlt := Dialogue.patience_takeTick_lt hp
      rw [heq] at hlt
      exact Nat.lt_irrefl _ hlt
    · cases hevent
  · have hbound : bound dialogue inbox ≤ dues.length := by
      have hlt := dialogue.patience_lt
      unfold bound
      rw [Nat.add_mul, Nat.one_mul] at hlong
      omega
    rw [run_eq, Option.isSome_map]
    exact turns_isSome_or hbound

/-- A tick between two keys, and a key left in the queue. -/
theorem run_delivers_interrupt :
    let dialogue := Dialogue.ofSession .twoRounds
    let inbox : Inbox :=
      { queue := [.key (.press .enter), .key (.press (.char '7')), .resize, .key .interrupt,
          .key (.press .escape)]
        connected := true
        ticking := false }
    let dues := [false, true, false, false, false]
    let long := List.replicate (6 * UInt32.size) true
    (∃ ending, run dialogue inbox dues = some ending ∧
      ∃ before key, deliveries dialogue inbox dues = before ++ [.taken (.key key)] ∧
        Ends dialogue inbox before key ending ∧ ending.inbox.ticking = false) ∧
    (∃ after, deliveries dialogue inbox dues =
        [.taken (.key (.press .enter))] ++ .generated .tick :: after ∧
      (dialogue.takeAll [.key (.press .enter)]).session.phase = .playing) ∧
    (inbox.queue.length + 1) * UInt32.size ≤ long.length ∧
    ((run dialogue inbox long).isSome ∨
      (deliveries dialogue inbox long).filterMap Delivery.taken? = inbox.queue ∧
        dialogue.Proceeds ((deliveries dialogue inbox long).map Delivery.event)) := by
  intro dialogue inbox dues long
  have hsome : (run dialogue inbox dues).isSome := by decide +kernel
  obtain ⟨ending, hending⟩ := Option.isSome_iff_exists.1 hsome
  have hdelivered : deliveries dialogue inbox dues =
      [.taken (.key (.press .enter))] ++ .generated .tick ::
        [.taken (.key (.press (.char '7'))), .taken .resize, .taken (.key .interrupt)] := by
    decide +kernel
  have hlong : (inbox.queue.length + 1) * UInt32.size ≤ long.length :=
    Nat.le_of_eq List.length_replicate.symm
  obtain ⟨hends, hsuits, -⟩ := run_delivers dialogue inbox dues
  obtain ⟨-, hp⟩ | ⟨hevent, -⟩ := (hsuits _ _ _ hdelivered).1
  · exact ⟨⟨ending, hending, hends ending hending⟩, ⟨_, hdelivered, hp⟩, hlong,
      (run_delivers dialogue inbox long).2.2 hlong⟩
  · cases hevent

end EventLoop
end ArithmeticGame
