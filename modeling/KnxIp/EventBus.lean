import KnxIp.Event

/-!
# Listening to events

Every event goes to every subscriber. A subscriber sees what was published since it
subscribed, and has room for a limited number of events that it has not taken yet; when
there are more, the oldest are dropped, and the next thing it takes is the number of
those.
-/

namespace KnxIp

/-- How many events are kept for a subscriber. -/
def eventQueueDepth : Nat := 16

/-- How many subscribers there may be. -/
def maxSubscribers : Nat := 4

/-- **What a subscriber takes.** -/
inductive Notice
  /-- So many events were dropped. -/
  | lagged (missed : Nat)
  | event (event : Event)
  deriving DecidableEq

/-- **What is kept for a subscriber.** -/
structure Subscription where
  /-- How many events were dropped since it was last told so. -/
  missed : Nat
  /-- The events that it has not taken, the oldest first. -/
  unread : List Event
  deriving DecidableEq

namespace Subscription

/-- A subscription from now on. -/
def fresh : Subscription := ⟨0, []⟩

/-- Keep an event; the oldest one is dropped if there is no room. -/
def publish (s : Subscription) (e : Event) : Subscription :=
  if s.unread.length < eventQueueDepth then
    { s with unread := s.unread ++ [e] }
  else
    ⟨s.missed + 1, s.unread.drop 1 ++ [e]⟩

/-- Take the next notice, if there is one. -/
def next? (s : Subscription) : Option (Notice × Subscription) :=
  if s.missed = 0 then
    match s.unread with
    | [] => none
    | e :: rest => some (.event e, { s with unread := rest })
  else
    some (.lagged s.missed, { s with missed := 0 })

/-- Take at most so many notices. -/
def take (s : Subscription) : Nat → List Notice × Subscription
  | 0 => ([], s)
  | count + 1 =>
    match s.next? with
    | none => ([], s)
    | some (notice, s) =>
      let (notices, s) := s.take count
      (notice :: notices, s)

end Subscription

/-- **The subscribers of a client**, each under the number that it got when it
subscribed. -/
structure EventBus where
  subscriptions : List (Nat × Subscription)
  /-- The number that the next subscriber gets. -/
  nextNumber : Nat
  deriving DecidableEq

namespace EventBus

/-- No subscribers. -/
def empty : EventBus := ⟨[], 0⟩

/-- Subscribe from now on. -/
def subscribe (b : EventBus) : Except Fault (Nat × EventBus) :=
  if b.subscriptions.length < maxSubscribers then
    .ok (b.nextNumber, ⟨b.subscriptions ++ [(b.nextNumber, .fresh)], b.nextNumber + 1⟩)
  else
    .error (.tunneling .tooManySubscribers)

/-- End a subscription. -/
def unsubscribe (b : EventBus) (number : Nat) : EventBus :=
  { b with subscriptions := b.subscriptions.filter fun s => s.1 ≠ number }

/-- Publish an event to every subscriber. -/
def publish (b : EventBus) (e : Event) : EventBus :=
  { b with subscriptions := b.subscriptions.map fun s => (s.1, s.2.publish e) }

/-- Let a subscriber take at most so many notices. -/
def take (b : EventBus) (number count : Nat) : List Notice × EventBus :=
  match b.subscriptions.find? fun s => s.1 = number with
  | none => ([], b)
  | some (_, s) =>
    let (notices, s) := s.take count
    (notices,
      { b with
        subscriptions := b.subscriptions.map fun t => if t.1 = number then (number, s) else t })

end EventBus

end KnxIp
