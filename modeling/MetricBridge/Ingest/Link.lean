/-
# The connection to the listener

Payloads go over one connection that is opened when it is first needed and kept from one
payload to the next. Before it is used again it is looked at: the listener never says
anything, so a connection on which something can be read, be it the end or a byte, is broken,
and a new one takes its place. A connection on which a payload failed is not used again,
nor one on which a payload was given up half way.

So a payload goes over one connection only and is never sent twice, and a connection has
received whole payloads, except that the last one may be cut off.

What the network does is given with each payload; nothing else about it is known here.
-/

import MetricBridge.Decimal.Bounded
import MetricBridge.Fault
import MetricBridge.Text.Utf8

namespace MetricBridge

/-- What becomes of an attempt to open a connection. -/
inductive Opening where
  | opened
  | failed (reason : String)
  | timedOut
  /-- The caller does not wait for the end. -/
  | abandoned
  deriving DecidableEq

/-- What becomes of sending a payload over a connection. `sent` counts the bytes that arrive
all the same. -/
inductive Transmission where
  | complete
  | failed (sent : Nat) (reason : String)
  | timedOut (sent : Nat)
  /-- The caller does not wait for the end. -/
  | abandoned (sent : Nat)
  deriving DecidableEq

/-- What the network does while one payload is sent. -/
structure Conditions where
  /-- The connection that was kept turns out to be broken. -/
  isSeenBroken : Bool
  opening : Opening
  transmission : Transmission
  deriving DecidableEq

namespace Conditions

/-- No way leads to the listener. -/
def unreachable : Conditions :=
  ⟨false, .failed "Network is unreachable (os error 101)", .complete⟩

end Conditions

/-- What the caller learns. -/
inductive SendResult where
  | sent
  | failed (fault : Fault)
  | abandoned
  deriving DecidableEq

/-- The connection to a listener, with all connections there have been. -/
structure Link where
  address : String
  /-- The number of the connection that is kept. -/
  kept : Option Nat
  /-- What each connection has received, in the order in which they were opened. -/
  received : List (List UInt8)
  deriving DecidableEq

namespace Link

/-- A link before anything is sent. -/
def start (address : String) : Link :=
  ⟨address, none, []⟩

/-- Why a text is no address, if it is none: there is a port behind the last colon. -/
def addressProblem? (address : String) : Option String :=
  let reversed := address.toList.reverse
  match reversed.dropWhile (· ≠ ':') with
  | [] => some "invalid socket address"
  | _ :: _ =>
    match Decimal.bounded (Nat.pow 2 16) (reversed.takeWhile (· ≠ ':')).reverse with
    | .ok _ => none
    | .error _ => some "invalid port value"

/-- The fault of a link that could not be opened. -/
def openingFault (link : Link) (reason : String) : Fault :=
  .transport ("failed to connect to carbon at " ++ link.address ++ ": " ++ reason)

/-- Opens a connection; the number of it, or what the caller learns if there is none. -/
def connect (link : Link) (opening : Opening) : Except SendResult Nat × Link :=
  match addressProblem? link.address with
  | some reason => (.error (.failed (link.openingFault reason)), link)
  | none =>
    match opening with
    | .opened => (.ok link.received.length, { link with received := link.received ++ [[]] })
    | .failed reason => (.error (.failed (link.openingFault reason)), link)
    | .timedOut =>
      (.error (.failed (.transport ("timed out connecting to carbon at " ++ link.address))), link)
    | .abandoned => (.error .abandoned, link)

/-- The link after a connection has received some bytes. -/
def deliver (link : Link) (connection : Nat) (bytes : List UInt8) : Link :=
  { link with received := link.received.modify connection (· ++ bytes) }

/-- Sends a payload over a connection, which is kept only if all of it arrives. -/
def transmit (link : Link) (connection : Nat) (payload : List UInt8) :
    Transmission → SendResult × Link
  | .complete => (.sent, { link.deliver connection payload with kept := some connection })
  | .failed sent reason =>
    (.failed (.transport ("failed to write to carbon at " ++ link.address ++ ": " ++ reason)),
      link.deliver connection (payload.take sent))
  | .timedOut sent =>
    (.failed (.transport ("timed out writing to carbon at " ++ link.address)),
      link.deliver connection (payload.take sent))
  | .abandoned sent => (.abandoned, link.deliver connection (payload.take sent))

/-- Sends a payload. -/
def send (link : Link) (conditions : Conditions) (payload : List UInt8) : SendResult × Link :=
  let released := { link with kept := none }
  let usable := if conditions.isSeenBroken then none else link.kept
  match usable with
  | some connection => released.transmit connection payload conditions.transmission
  | none =>
    match released.connect conditions.opening with
    | (.error result, link) => (result, link)
    | (.ok connection, link) => link.transmit connection payload conditions.transmission

end Link

end MetricBridge
