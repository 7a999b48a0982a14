import KnxIp.Client

/-!
# Keeping the session alive

While a session is open, the *heartbeat* asks the gateway from time to time whether it
still knows the channel. A question that is not answered in time is asked again, until so
many in a row have gone unanswered that the session counts as lost.
-/

namespace KnxIp

/-- **What the heartbeat waits for.** -/
inductive Heartbeat
  /-- Nothing; it has not begun. -/
  | starting
  /-- A session. -/
  | awaitingSession
  /-- The end of its rest. -/
  | resting (deadline : Nat)
  /-- The answer to its question. -/
  | awaitingAnswer (deadline : Nat)
  deriving DecidableEq

namespace Heartbeat

/-- Begin a round: rest while a session is open, and wait for one otherwise. That a
session was granted which has ended since is forgotten. -/
def begin (c : Client) : Heartbeat × Client :=
  if c.isConnected then
    (.resting (c.now + c.config.heartbeatInterval), c)
  else
    (.awaitingSession, { c with sessionUp := false })

/-- Send the question; the round is over if that fails. -/
def send (request : ChannelRequest) (c : Client) : Heartbeat × Client :=
  match c.transmitFrame (.connectionStateRequest request) c.config.gateway with
  | (.ok (), c) => (.awaitingAnswer (c.now + c.config.heartbeatTimeout), c)
  | (.error _, c) => begin c

/-- Ask, if the session is still open. -/
def ask (c : Client) : Heartbeat × Client :=
  match c.session.heartbeatRequest with
  | (.ok request, session) => send request { c with session := session, heartbeatDone := none }
  | (.error _, session) => begin { c with session := session }

/-- No answer came in time. -/
def expired (c : Client) : Heartbeat × Client :=
  match c.session.heartbeatMissed with
  | (.retry request, session) => send request { c with session := session }
  | (.lost, session) => begin ({ c with session := session }.sessionLost .heartbeatLost)
  | (.stale, session) => begin { c with session := session }

/-- Run the heartbeat until it has to wait. -/
def poll (h : Heartbeat) (c : Client) : Heartbeat × Client :=
  match h with
  | .starting => begin c
  | .awaitingSession => if c.sessionUp then begin { c with sessionUp := false } else (h, c)
  | .resting deadline => if deadline ≤ c.now then ask c else (h, c)
  | .awaitingAnswer deadline =>
    match c.heartbeatDone with
    | some _ => begin { c with heartbeatDone := none }
    | none => if deadline ≤ c.now then expired c else (h, c)

/-- When the heartbeat will run again if nothing else happens. -/
def deadline? : Heartbeat → Option Nat
  | .resting deadline => some deadline
  | .awaitingAnswer deadline => some deadline
  | _ => none

end Heartbeat

end KnxIp
