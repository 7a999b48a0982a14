import KnxIp.Client.Dispatcher
import KnxIp.Client.Heartbeat
import KnxIp.Client.Sender

/-!
# Running a client

A client does nothing by itself. Its *driver* runs the dispatcher, the sender and the
heartbeat, always in this order, until somebody asks the client to stop.
-/

namespace KnxIp

/-- **A driver**: what each of the three activities waits for. -/
structure Driver where
  dispatcher : Dispatcher
  sender : Sender
  heartbeat : Heartbeat
  deriving DecidableEq

namespace Driver

/-- A driver that has not run. -/
def fresh : Driver := ⟨.receiving, .idle, .starting⟩

/-- Stop a driver where it is. -/
def cancel (d : Driver) (c : Client) : Client := d.sender.cancel c

/-- Run the three activities until all of them have to wait. -/
def advance (d : Driver) (c : Client) : Driver × Client :=
  let (dispatcher, c) := d.dispatcher.poll c
  let (sender, c) := d.sender.poll c
  let (heartbeat, c) := d.heartbeat.poll c
  (⟨dispatcher, sender, heartbeat⟩, c)

/-- **Run a driver** until it has to wait, or for the last time if the client is to
stop. -/
def poll (d : Driver) (c : Client) : Option Driver × Client :=
  let (d, c) := d.advance c
  if c.shutdown then
    (none, d.cancel { c with shutdown := false })
  else
    (some d, c)

/-- The times at which a timer of the driver runs out. -/
def deadlines (d : Driver) : List Nat :=
  let dispatcher :=
    match d.dispatcher with
    | .resting deadline => [deadline]
    | .receiving => []
  dispatcher ++ d.sender.deadline?.toList ++ d.heartbeat.deadline?.toList

end Driver

end KnxIp
