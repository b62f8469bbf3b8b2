import LightningDeposit.Stream.Subscription

/-!
Streams that share counters and scopes of cancellation. A counter counts the open streams made with
it; cancelling a scope reaches the streams that belong to it and no others. Streams, counters and
scopes are known by their numbers, in the order in which they were made.
-/

namespace LightningDeposit

structure Hub where
  cancelled : List Bool
  counts : List Nat
  streams : List Subscription
  deriving DecidableEq

/-- How the taking of a number of ids ends. -/
inductive CollectEnd where
  | taken
  | ended
  | pending
  deriving DecidableEq

namespace Hub

def empty : Hub := ⟨[], [], []⟩

def isCancelled (h : Hub) (scope : Nat) : Bool :=
  h.cancelled.getD scope false

def count (h : Hub) (counter : Nat) : Nat :=
  h.counts.getD counter 0

def newScope (h : Hub) : Nat × Hub :=
  (h.cancelled.length, { h with cancelled := h.cancelled ++ [false] })

def newCounter (h : Hub) : Nat × Hub :=
  (h.counts.length, { h with counts := h.counts ++ [0] })

def cancel (h : Hub) (scope : Nat) : Hub :=
  { h with cancelled := h.cancelled.set scope true }

/-- A new stream over a subscribed source; its counter goes up. -/
def subscribe (h : Hub) (topic : String) (scope counter : Nat) (source : Source) : Nat × Hub :=
  (h.streams.length,
    { h with
      counts := h.counts.modify counter (· + 1)
      streams := h.streams ++ [⟨topic, scope, counter, true, source⟩] })

/-- Puts a stream back; its counter goes down if it was open and no longer is. -/
def update (h : Hub) (stream : Nat) (before after : Subscription) : Hub :=
  { h with
    counts :=
      if before.isOpen && !after.isOpen then h.counts.modify before.counter (· - 1) else h.counts
    streams := h.streams.set stream after }

/-- A message for the source of a stream, open or not. -/
def publish (h : Hub) (stream : Nat) (m : Message) : Hub :=
  { h with streams := h.streams.modify stream fun s => { s with source := s.source.publish m } }

/-- Nothing more comes from the source of a stream. -/
def finishSource (h : Hub) (stream : Nat) : Hub :=
  { h with streams := h.streams.modify stream fun s => { s with source := s.source.finish } }

def next (h : Hub) (stream : Nat) (cancelFirst : Nat → Bool) : Poll × Hub :=
  match h.streams[stream]? with
  | none => (.finished, h)
  | some s =>
    let (poll, after) := s.next (h.isCancelled s.scope) cancelFirst
    (poll, h.update stream s after)

/-- Closes a stream and says what its source said; one that is closed already says nothing. -/
def close (h : Hub) (stream : Nat) : Except BackendError Unit × Hub :=
  match h.streams[stream]? with
  | none => (.ok (), h)
  | some s =>
    if s.isOpen then
      (s.source.closeError.elim (.ok ()) .error, h.update stream s s.shut)
    else (.ok (), h)

/-- Lets go of a stream. Where tasks can run its source is closed; elsewhere it is only left. -/
def drop (h : Hub) (stream : Nat) (canClose : Bool) : Hub :=
  match h.streams[stream]? with
  | none => h
  | some s =>
    if s.isOpen then h.update stream s (if canClose then s.shut else s.abandon) else h

/-- Takes up to `n` ids. -/
def take (h : Hub) (stream : Nat) (cancelFirst : Nat → Bool) :
    Nat → (List String × CollectEnd) × Hub
  | 0 => (([], .taken), h)
  | n + 1 =>
    match h.next stream cancelFirst with
    | (.finished, h') => (([], .ended), h')
    | (.waiting, h') => (([], .pending), h')
    | (.id id, h') =>
      let ((ids, how), h'') := take h' stream cancelFirst n
      ((id :: ids, how), h'')

/-- Takes up to `n` ids and lets go of the stream. -/
def collect (h : Hub) (stream : Nat) (cancelFirst : Nat → Bool) (n : Nat) :
    (List String × CollectEnd) × Hub :=
  let (result, h') := h.take stream cancelFirst n
  (result, h'.drop stream true)

end Hub

end LightningDeposit
