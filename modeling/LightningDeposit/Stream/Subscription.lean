import LightningDeposit.Error
import LightningDeposit.Stream.Message
import LightningDeposit.Text.Quoted

/-!
One stream of paid invoices over a subscribed source. Waiting for the next id takes messages until
one names an id; cancellation and the end of the source finish the stream, which then closes the
source for good.
-/

namespace LightningDeposit

/-- The far side of a subscription: the messages delivered and not yet taken, whether more can
come, what closing it fails with if it fails, and how often it has been closed. -/
structure Source where
  queue : List Message
  ended : Bool
  closeError : Option BackendError
  closes : Nat
  deriving DecidableEq

namespace Source

/-- What a source says that only shows how closing fails. -/
def closeFailure : BackendError := .unsupported "source close failed"

def subscribed (closeFails : Bool) : Source :=
  ⟨[], false, if closeFails then some closeFailure else none, 0⟩

def publish (s : Source) (m : Message) : Source :=
  { s with queue := s.queue ++ [m] }

def finish (s : Source) : Source :=
  { s with ended := true }

def close (s : Source) : Source :=
  { s with closes := s.closes + 1 }

end Source

/-- What waiting for an id comes to. -/
inductive Poll where
  | id (checkingId : String)
  | finished
  | waiting
  deriving DecidableEq

/-- Takes messages until one names an id, and gives back those not taken. While the stream is
cancelled and a message is there, either may be looked at first: `cancelFirst` says so for each
turn. -/
def pollQueue (topic : String) (cancelled ended : Bool) :
    (cancelFirst : Nat → Bool) → List Message → Poll × List Message
  | _, [] => (if cancelled || ended then .finished else .waiting, [])
  | cancelFirst, m :: rest =>
    if cancelled && cancelFirst 0 then (.finished, m :: rest)
    else
      match m.checkingId? topic with
      | some id => (.id id, rest)
      | none => pollQueue topic cancelled ended (fun turn => cancelFirst (turn + 1)) rest

/-- A stream: its topic, the scope whose cancellation ends it, the counter that counts it while it
is open, and its source. -/
structure Subscription where
  topic : String
  scope : Nat
  counter : Nat
  isOpen : Bool
  source : Source
  deriving DecidableEq

namespace Subscription

/-- Closes the source and is closed for good. -/
def shut (s : Subscription) : Subscription :=
  { s with isOpen := false, source := s.source.close }

/-- Lets go of the source without closing it. -/
def abandon (s : Subscription) : Subscription :=
  { s with isOpen := false }

/-- Waits for the next id; a stream that is closed is finished and does not touch its source. -/
def next (s : Subscription) (cancelled : Bool) (cancelFirst : Nat → Bool) : Poll × Subscription :=
  if s.isOpen then
    let (poll, queue) := pollQueue s.topic cancelled s.source.ended cancelFirst s.source.queue
    let taken := { s with source := { s.source with queue := queue } }
    (poll, if poll = .finished then taken.shut else taken)
  else (.finished, s)

theorem next_of_closed {s : Subscription} (h : s.isOpen = false) (cancelled : Bool)
    (cancelFirst : Nat → Bool) : s.next cancelled cancelFirst = (.finished, s) := by
  simp [next, h]

def debugText (s : Subscription) : String :=
  "PaidInvoiceStream \x7b topic: " ++ Text.quoted s.topic ++ ", open: " ++
    (if s.isOpen then "true" else "false") ++ " \x7d"

end Subscription

end LightningDeposit
