import LightningDeposit.Proofs.Backend.Operation
import LightningDeposit.Proofs.World.Session

/-!
Dialogues: what is done in a session together with what there is to see of it. Besides the actions
of a session the clock is set, rate slots are made and filled, backends are asked for their
operations while the far side goes through a script, and anything held may be looked at.
-/

namespace LightningDeposit

/-- What diagnostics and the other reading calls show of a backend at work and of its client. -/
structure DeskView where
  text : String
  clientText : String
  unit : CurrencyUnit
  melts : Bool
  settings : SettingsResponse
  active : Bool
  rate : RateSlot

def World.view (w : World) (desk : Desk) : DeskView where
  text := desk.backend.debugText (w.openStreams desk)
  clientText := desk.backend.client.debugText
  unit := desk.backend.unit
  melts := desk.backend.supportsMelt
  settings := desk.backend.settings
  active := w.isActive desk
  rate := w.slot desk.slot

inductive Command where
  | act (action : Session.Action)
  | clock (seconds : Int)
  | newSlot
  | store (slot : ℕ) (rate : Binary64) (observedAt : ℕ)
  | ask (desk : ℕ) (operation : Operation) (reachable : Bool) (script : List Turn)
  | look (desk : ℕ)
  | lookAtStream (stream : ℕ)

/-- What a command is answered; `absent` says that nothing is held under a number. -/
inductive Answer where
  | done
  | absent
  | refused (cause : BackendError)
  | told (outcome : Outcome)
  | polled (poll : Poll)
  | desk (view : DeskView)
  | stream (text : String) (stream : Subscription)

/-- An answer that says no more than that it went well. -/
def Answer.ofResult {α : Type} : Except BackendError α → Answer
  | .ok _ => .done
  | .error cause => .refused cause

/-- An answer, and the requests that were made for it. -/
structure Remark where
  answer : Answer
  requests : List Request

namespace Session

/-- What an action is answered; most are answered nothing. -/
def reply (s : Session) : Action → Answer
  | .mount settings unit slot =>
    match s.world.mount settings unit slot with
    | (.error cause, _) => .refused cause
    | (.ok desk, world) => .desk (world.view desk)
  | .openBroker desk connect =>
    match s.desks[desk]? with
    | none => .absent
    | some held => .ofResult (s.world.openBrokerStream held.desk connect).1
  | .on stream (.next cancelFirst) => .polled (s.hub.next stream cancelFirst).1
  | .on stream .close => .ofResult (s.hub.close stream).1
  | _ => .done

def perform (s : Session) : Command → Remark × Session
  | .act action => (⟨s.reply action, []⟩, s.step action)
  | .clock seconds => (⟨.done, []⟩, { s with world := s.world.setClock seconds })
  | .newSlot =>
    let (_, world) := s.world.newSlot
    (⟨.done, []⟩, { s with world := world })
  | .store slot rate observedAt =>
    let (result, world) := s.world.storeRate slot rate observedAt
    (⟨.ofResult result, []⟩, { s with world := world })
  | .ask desk operation reachable script =>
    match s.desks[desk]? with
    | none => (⟨.absent, []⟩, s)
    | some held =>
      let ((outcome, requests), world) := s.world.run held.desk reachable script operation.run
      (⟨.told outcome, requests⟩, { s with world := world })
  | .look desk =>
    match s.desks[desk]? with
    | none => (⟨.absent, []⟩, s)
    | some held => (⟨.desk (s.world.view held.desk), []⟩, s)
  | .lookAtStream stream =>
    match s.hub.streams[stream]? with
    | none => (⟨.absent, []⟩, s)
    | some t => (⟨.stream t.debugText t, []⟩, s)

/-- What there is to see of a dialogue, and the session after it. -/
def converse (s : Session) : List Command → List Remark × Session
  | [] => ([], s)
  | command :: rest =>
    let (remark, s') := s.perform command
    let (remarks, s'') := s'.converse rest
    (remark :: remarks, s'')

end Session

end LightningDeposit
