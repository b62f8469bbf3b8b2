import LightningDeposit.Backend
import LightningDeposit.Stream.Hub

/-!
Backends at work. Several share rate slots, a family of copies of one backend shares the scope and
the counter of its streams, and all share the clock. Cancelling a family's streams cancels its
scope and gives it a new one, so streams opened later are not reached.
-/

namespace LightningDeposit

/-- What the copies of one backend share: the scope of the streams opened next, and their
counter. -/
structure Family where
  scope : Nat
  counter : Nat
  deriving DecidableEq

/-- A backend at work: what it is, the rate slot that it uses, and its family. A copy is the same
desk. -/
structure Desk where
  backend : Backend
  slot : Nat
  family : Nat
  deriving DecidableEq

structure World where
  clock : Nat
  slots : List RateSlot
  families : List Family
  hub : Hub
  deriving DecidableEq

namespace World

def start (clock : Nat) : World := ⟨clock, [], [], Hub.empty⟩

/-- Seconds before the epoch count as none. -/
def setClock (w : World) (seconds : Int) : World :=
  { w with clock := seconds.toNat }

def newSlot (w : World) : Nat × World :=
  (w.slots.length, { w with slots := w.slots ++ [none] })

def slot (w : World) (slot : Nat) : RateSlot :=
  w.slots.getD slot none

def setSlot (w : World) (slot : Nat) (content : RateSlot) : World :=
  { w with slots := w.slots.set slot content }

/-- Stores a rate; one that is no rate leaves the slot as it was. -/
def storeRate (w : World) (slot : Nat) (rate : Binary64) (observedAt : Nat) :
    Except BackendError Unit × World :=
  match ExchangeRate.observed rate observedAt with
  | .ok found => (.ok (), w.setSlot slot (some found))
  | .error cause => (.error cause, w)

def newScope (w : World) : Nat × World :=
  let (scope, hub) := w.hub.newScope
  (scope, { w with hub := hub })

def newCounter (w : World) : Nat × World :=
  let (counter, hub) := w.hub.newCounter
  (counter, { w with hub := hub })

/-- Puts a new backend to work on a rate slot, in a family of its own. -/
def mount (w : World) (settings : Settings) (unit : CurrencyUnit) (slot : Nat) :
    Except BackendError Desk × World :=
  match Backend.new settings unit with
  | .error cause => (.error cause, w)
  | .ok backend =>
    let (scope, hub) := w.hub.newScope
    let (counter, hub) := hub.newCounter
    (.ok ⟨backend, slot, w.families.length⟩,
      { w with families := w.families ++ [⟨scope, counter⟩], hub := hub })

def family (w : World) (desk : Desk) : Family :=
  w.families.getD desk.family ⟨0, 0⟩

def openStreams (w : World) (desk : Desk) : Nat :=
  w.hub.count (w.family desk).counter

def isActive (w : World) (desk : Desk) : Bool :=
  decide (0 < w.openStreams desk)

/-- Ends the streams that the desk's family has open. -/
def cancelStreams (w : World) (desk : Desk) : World :=
  let family := w.family desk
  let (scope, hub) := (w.hub.cancel family.scope).newScope
  { w with families := w.families.set desk.family { family with scope := scope }, hub := hub }

/-- A stream of a desk over a subscribed source. -/
def openStream (w : World) (desk : Desk) (source : Source) : Nat × World :=
  let family := w.family desk
  let (stream, hub) := w.hub.subscribe paidInvoicesChannel family.scope family.counter source
  (stream, { w with hub := hub })

/-- A stream over the configured message broker; `connect` says what comes of an address. -/
def openBrokerStream (w : World) (desk : Desk) (connect : String → Option Source) :
    Except BackendError Nat × World :=
  match desk.backend.redisUrl with
  | none => (.error .missingStreamEndpoint, w)
  | some url =>
    match connect url with
    | none => (.error .broker, w)
    | some source =>
      let (stream, w') := w.openStream desk source
      (.ok stream, w')

/-- Runs an operation of a desk's backend against a far side: its result, the requests that were
sent, and the world after it. -/
def run {α : Type} (w : World) (desk : Desk) (reachable : Bool) (script : List Turn)
    (operation : Backend → Surroundings → α × Surroundings) : (α × List Request) × World :=
  let (result, s) := operation desk.backend ⟨⟨w.clock, reachable, script, []⟩, w.slot desk.slot⟩
  ((result, s.exchange.sent), { w.setSlot desk.slot s.slot with clock := s.exchange.clock })

/-- Runs a call of a client by itself. -/
def runClient {α : Type} (w : World) (reachable : Bool) (script : List Turn)
    (call : Exchange → α × Exchange) : (α × List Request) × World :=
  let (result, x) := call ⟨w.clock, reachable, script, []⟩
  ((result, x.sent), { w with clock := x.clock })

end World

end LightningDeposit
