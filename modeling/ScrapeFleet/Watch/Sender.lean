/-
# ScrapeFleet.Watch.Sender — from changes to events

The sender looks at regular times whether there was a change, and if so sends one event. It takes the
change before it sends; where the channel is full it marks the change again, so that the event goes out
at a later time. It stops when it hears the signal to, and when the consumer is gone.

However many changes there are, what is kept of them is that there was one; taking it clears it. An event says
that the generated configuration may differ. Events wait in a channel that holds a fixed number of them; a full
channel refuses, and so does one whose consumer is gone.
-/
import ScrapeFleet.Watch.Clock

namespace ScrapeFleet.Watch

/-! ## One pending change -/

/-- Whether there was a change that nobody has taken yet. -/
structure Notifier where
  pending : Bool := false
deriving DecidableEq, Repr, Inhabited

namespace Notifier

/-- Marks a change, and says whether it is the first since the last one was taken. -/
def notify (n : Notifier) : Notifier × Bool := (⟨true⟩, !n.pending)

/-- Clears the change, and says whether there was one. -/
def take (n : Notifier) : Notifier × Bool := (⟨false⟩, n.pending)

/-- Marks a change if there is one. -/
def notifyIf (n : Notifier) (changed : Bool) : Notifier := ⟨n.pending || changed⟩

end Notifier

/-! ## Events on their way to the consumer -/

/-- Where an event comes from. -/
inductive EventSource where
  | customResources
deriving DecidableEq, Repr, Inhabited

/-- The name of a source. -/
def EventSource.name : EventSource → String
  | .customResources => "PrometheusCr"

/-- The configuration may differ. -/
structure Event where
  source : EventSource := .customResources
  watcher : String
deriving DecidableEq, Repr, Inhabited

/-- A channel for events. -/
structure Channel where
  capacity : Nat
  events : List Event := []
  received : Bool := true
deriving DecidableEq, Repr, Inhabited

/-- What becomes of an event that is sent. -/
inductive Sent where
  | accepted
  | full
  | closed
deriving DecidableEq, Repr

namespace Channel

/-- Sends an event without waiting. -/
def send (c : Channel) (e : Event) : Channel × Sent :=
  if !c.received then (c, .closed)
  else if c.capacity ≤ c.events.length then (c, .full)
  else ({ c with events := c.events ++ [e] }, .accepted)

/-- Receives the oldest event. -/
def receive (c : Channel) : Channel × Option Event :=
  match c.events with
  | [] => (c, none)
  | e :: es => ({ c with events := es }, some e)

/-- Receives all events. -/
def receiveAll (c : Channel) : Channel × List Event := ({ c with events := [] }, c.events)

/-- The consumer goes, and what it has not received is lost. -/
def drop (c : Channel) : Channel := { c with events := [], received := false }

end Channel

/-! ## The sender -/

/-- How far the sender is. -/
inductive Sender where
  | notStarted
  | waiting (listener : Listener)
  /-- It has taken a change and not sent an event yet. -/
  | holding (listener : Listener)
  /-- The channel was full; it marks the change again next. -/
  | refused (listener : Listener)
  | stopped
deriving DecidableEq, Repr, Inhabited

namespace Sender

/-- The sender goes on. -/
def isRunning : Sender → Bool
  | .waiting _ | .holding _ | .refused _ => true
  | .notStarted | .stopped => false

end Sender

/-- The way from changes to the consumer. -/
structure Outlet where
  watcher : String
  notifier : Notifier := {}
  channel : Channel
  sender : Sender := .notStarted
deriving DecidableEq, Repr, Inhabited

namespace Outlet

/-- Marks a change. -/
def notify (o : Outlet) : Outlet := { o with notifier := o.notifier.notify.1 }

/-- Marks a change if there is one. -/
def notifyIf (o : Outlet) (changed : Bool) : Outlet :=
  { o with notifier := o.notifier.notifyIf changed }

theorem notifyIf_eq (o : Outlet) (changed : Bool) : o.notifyIf changed = if changed then o.notify else o := by
  cases changed <;> simp [notifyIf, notify, Notifier.notifyIf, Notifier.notify]

/-- A sender starts. -/
def start (o : Outlet) (s : Shutdown) : Outlet := { o with sender := .waiting s.listen }

/-- The time has come: the sender takes the change, if there is one. -/
def tick (o : Outlet) : Outlet :=
  match o.sender with
  | .waiting l =>
    let (notifier, changed) := o.notifier.take
    { o with notifier := notifier, sender := if changed then .holding l else .waiting l }
  | _ => o

/-- The sender sends the event for the change that it has taken. -/
def send (o : Outlet) : Outlet :=
  match o.sender with
  | .holding l =>
    match o.channel.send { watcher := o.watcher } with
    | (channel, .accepted) => { o with channel := channel, sender := .waiting l }
    | (_, .full) => { o with sender := .refused l }
    | (_, .closed) => { o with sender := .stopped }
  | _ => o

/-- A sender whose event was refused marks the change again. -/
def rearm (o : Outlet) : Outlet :=
  match o.sender with
  | .refused l => { o.notify with sender := .waiting l }
  | _ => o

/-- A whole turn of the sender. -/
def turn (o : Outlet) : Outlet := o.tick.send.rearm

/-- The sender listens for the signal to stop. -/
def hear (o : Outlet) (s : Shutdown) : Outlet :=
  match o.sender with
  | .waiting l => if s.heard l then { o with sender := .stopped } else o
  | _ => o

/-- The consumer receives an event. -/
def receive (o : Outlet) : Outlet × Option Event :=
  let (channel, e) := o.channel.receive
  ({ o with channel := channel }, e)

/-- The consumer receives all events. -/
def receiveAll (o : Outlet) : Outlet × List Event :=
  let (channel, es) := o.channel.receiveAll
  ({ o with channel := channel }, es)

end Outlet

/-! ## Time -/

/-- An outlet and the clock of its sender. -/
structure LiveOutlet where
  outlet : Outlet
  clock : Clock Unit := {}
deriving Repr, Inhabited

namespace LiveOutlet

/-- A sender starts and takes its first turn at once. One without an interval does not run. -/
def start (o : Outlet) (interval : Nat) : LiveOutlet :=
  if interval = 0 then { outlet := o }
  else
    { outlet := (o.start {}).turn
      clock := ({} : Clock Unit).set { delay := interval, period := interval, tag := () } }

/-- Lets time pass. -/
def sleep (l : LiveOutlet) (ms : Nat) : LiveOutlet :=
  let (clock, o) := l.clock.elapse (fun _ => Outlet.turn) ms l.outlet
  { outlet := o, clock := clock }

end LiveOutlet

end ScrapeFleet.Watch
