import ArithmeticGame.Proofs.EventLoop.Deliveries
/-!
# Order in the inbox

Sending, waiting and the ticking of an inbox may follow each other in any way, and stretches of it
may be done while the inbox is held ticking. Ticks go ahead of the queue, but what is taken from the
queue are the events sent first, in their order.
-/
namespace ArithmeticGame

/-- What may be done with an inbox. A wait goes by whether the tick of a ticking inbox is due. -/
inductive InboxAction where
  | send (event : Event)
  | detach
  | startTicking
  | stopTicking
  | setTicking (ticking : Bool)
  | wait (due : Bool)
deriving DecidableEq

/-- Actions one after the other, some of them while the inbox is held ticking. -/
inductive Script where
  | done
  | act (action : InboxAction) (rest : Script)
  | hold (body rest : Script)

/-- A hold is nothing but ticks that start before its actions and stop after them. -/
def Script.actions : Script → List InboxAction
  | done => []
  | act action rest => action :: rest.actions
  | hold body rest => .startTicking :: (body.actions ++ .stopTicking :: rest.actions)

namespace Inbox

/-- The inbox after an action. What is sent without a sender is lost. -/
def after (i : Inbox) : InboxAction → Inbox
  | .send event => (i.send? event).getD i
  | .detach => i.detach
  | .startTicking => i.startTicking
  | .stopTicking => i.stopTicking
  | .setTicking ticking => i.setTicking ticking
  | .wait due => (i.next due).2

def delivery? (i : Inbox) : InboxAction → Option Delivery
  | .wait due => some (i.delivery due)
  | _ => none

def afterAll (i : Inbox) (actions : List InboxAction) : Inbox := actions.foldl after i

def deliveries (i : Inbox) : List InboxAction → List Delivery
  | [] => []
  | action :: actions => (i.delivery? action).toList ++ (i.after action).deliveries actions

def taken (i : Inbox) (actions : List InboxAction) : List Event :=
  (i.deliveries actions).filterMap Delivery.taken?

/-- The events that some actions send, as long as there is a sender. -/
def sent (i : Inbox) (actions : List InboxAction) : List Event :=
  if i.connected then
    (actions.takeWhile (· ≠ .detach)).filterMap fun
      | .send event => some event
      | _ => none
  else []

/-- Carries out a script; gives the events of its waits and the inbox in the end. -/
def perform (i : Inbox) : Script → List Event × Inbox
  | .done => ([], i)
  | .act action rest =>
    let events := ((i.delivery? action).map Delivery.event).toList
    let (later, i) := (i.after action).perform rest
    (events ++ later, i)
  | .hold body rest =>
    let (events, i) := i.whileTicking fun i => i.perform body
    let (later, i) := i.perform rest
    (events ++ later, i)

/-- What a wait does, and what it delivers. -/
structure Waits (i : Inbox) (due : Bool) (delivery : Delivery) (after : Inbox) : Prop where
  next_eq : i.next due = (delivery.event, after)
  taken : ∀ event, delivery = .taken event → i.queue = event :: after.queue
  generated : ∀ event, delivery = .generated event →
    (event = .tick ∨ event = .idle) ∧ after.queue = i.queue
  tick_iff : delivery = .generated .tick ↔ i.ticking = true ∧ (due = true ∨ i.queue = [])
  idle_iff : delivery = .generated .idle ↔ i.ticking = false ∧ i.queue = []
  ticking_eq : after.ticking = i.ticking
  connected_eq : after.connected = i.connected

variable (i : Inbox)

/-! ## One action -/

theorem waits_next (due : Bool) : Waits i due (i.delivery due) (i.next due).2 := by
  obtain ⟨queue, connected, ticking⟩ := i
  cases queue with
  | nil => cases ticking <;> constructor <;> simp [delivery, next, generated, Delivery.event]
  | cons event rest =>
    cases ticking <;> cases due <;> constructor <;>
      simp [delivery, next, Delivery.event]

theorem taken_append_queue_after (action : InboxAction) :
    i.taken [action] ++ (i.after action).queue = i.queue ++ i.sent [action] := by
  cases action with
  | send event =>
    cases h : i.connected <;> simp [taken, deliveries, delivery?, sent, after, send?, h]
  | wait due =>
    have hwaits := i.waits_next due
    cases h : i.delivery due with
    | taken event =>
      simp [taken, deliveries, delivery?, sent, after, h, Delivery.taken?, hwaits.taken event h]
    | generated event =>
      simp [taken, deliveries, delivery?, sent, after, h, Delivery.taken?,
        (hwaits.generated event h).2]
  | _ => simp [taken, deliveries, delivery?, sent, after]; rfl

/-! ## Actions one after the other -/

theorem taken_cons (action : InboxAction) (actions : List InboxAction) :
    i.taken (action :: actions) = i.taken [action] ++ (i.after action).taken actions := by
  simp [taken, deliveries]

theorem sent_cons (action : InboxAction) (actions : List InboxAction) :
    i.sent (action :: actions) = i.sent [action] ++ (i.after action).sent actions := by
  cases h : i.connected with
  | false =>
    have hafter : (i.after action).connected = false := by
      cases action with
      | wait due => exact (i.waits_next due).connected_eq.trans h
      | send event => simp [after, send?, h]
      | _ => simp [after, detach, startTicking, stopTicking, setTicking, h]
    simp [sent, h, hafter]
  | true =>
    cases action with
    | wait due => simp [sent, after, h, (i.waits_next due).connected_eq]
    | _ => simp [sent, after, send?, detach, startTicking, stopTicking, setTicking, h]

theorem deliveries_append (front back : List InboxAction) :
    i.deliveries (front ++ back) = i.deliveries front ++ (i.afterAll front).deliveries back := by
  induction front generalizing i with
  | nil => rfl
  | cons action front ih => simp [deliveries, afterAll, ih]

/-- The events taken and those still queued are together the events sent, in their order. -/
theorem taken_append_queue (actions : List InboxAction) :
    i.taken actions ++ (i.afterAll actions).queue = i.queue ++ i.sent actions := by
  induction actions generalizing i with
  | nil => simp [taken, deliveries, afterAll, sent]
  | cons action actions ih =>
    calc i.taken (action :: actions) ++ ((i.after action).afterAll actions).queue
        = i.taken [action] ++ ((i.after action).queue ++ (i.after action).sent actions) := by
          rw [taken_cons, List.append_assoc, ih]
      _ = i.queue ++ (i.sent [action] ++ (i.after action).sent actions) := by
          rw [← List.append_assoc, taken_append_queue_after, List.append_assoc]
      _ = i.queue ++ i.sent (action :: actions) := by rw [← sent_cons]

theorem perform_eq (script : Script) :
    i.perform script =
      ((i.deliveries script.actions).map Delivery.event, i.afterAll script.actions) := by
  induction script generalizing i with
  | done => rfl
  | act action rest ih =>
    simp only [perform, ih, Script.actions, deliveries, List.map_append]
    cases i.delivery? action <;> rfl
  | hold body rest ihb ihr =>
    have hstart : i.delivery? .startTicking = none := rfl
    have hstop : ∀ j : Inbox, j.delivery? .stopTicking = none := fun _ => rfl
    simp only [perform, whileTicking, ihb, ihr, Script.actions, deliveries, deliveries_append,
      hstart, hstop, Option.toList_none, List.nil_append, List.map_append, afterAll,
      List.foldl_cons, List.foldl_append, after]

/-- Whatever is done with an inbox, and however often ticks are due: what its waits take from the
queue are the events sent first, in their order. A tick that a wait makes up comes only while the
inbox ticks, an idle wait only if it does not and nothing is queued, and neither touches the queue.
After a hold the inbox does not tick. -/
theorem takes_in_order (script : Script) :
    i.perform script =
      ((i.deliveries script.actions).map Delivery.event, i.afterAll script.actions) ∧
    (∀ actions, i.taken actions ++ (i.afterAll actions).queue = i.queue ++ i.sent actions) ∧
    (∀ front due, let met := i.afterAll front
      i.deliveries (front ++ [.wait due]) = i.deliveries front ++ [met.delivery due] ∧
      Waits met due (met.delivery due) (i.afterAll (front ++ [.wait due]))) ∧
    (i.perform (.hold script .done)).2.ticking = false ∧
    ∀ {α : Type} (use : Inbox → α × Inbox), (i.whileTicking use).2.ticking = false := by
  refine ⟨i.perform_eq script, i.taken_append_queue, fun front due => ?_, rfl, fun _ => rfl⟩
  intro met
  have hnext : i.afterAll (front ++ [.wait due]) = (met.next due).2 := List.foldl_append
  rw [deliveries_append, hnext]
  exact ⟨rfl, met.waits_next due⟩

/-- A tick overtakes an event, which is still there when its sender is gone. -/
example :
    empty.perform (.hold (.act (.send .resize) (.act (.wait true) (.act .detach .done)))
      (.act (.wait true) (.act (.wait true) .done))) =
      ([.tick, .resize, .idle], { queue := [], connected := false, ticking := false }) := by
  decide

end Inbox
end ArithmeticGame
