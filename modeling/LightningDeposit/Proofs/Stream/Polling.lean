import LightningDeposit.Proofs.Text.Strip
import LightningDeposit.Stream.Subscription
import Mathlib.Data.Nat.Notation

/-!
Waiting for an id, call by call. The wait is told again with every call that it makes to the source,
and the telling agrees with the wait; then it is said what a wait takes from the source and what it
comes to, whichever way the cancellation and the messages meet.
-/

namespace LightningDeposit

/-- The ids in a list of messages: what is on another channel, is not UTF-8 or is blank is left out,
and the rest is trimmed. -/
def idsIn (topic : String) (messages : List Message) : List String :=
  let payloads := (messages.filter fun m => m.channel = topic).filterMap fun m =>
    String.fromUTF8? m.payload
  (payloads.filter fun s => !s.toList.all Text.isBlank).map Text.trim

theorem idsIn_append (topic : String) (first rest : List Message) :
    idsIn topic (first ++ rest) = idsIn topic first ++ idsIn topic rest := by
  simp [idsIn]

/-- Each message brings in the id that it names, if it names one. -/
theorem idsIn_singleton (topic : String) (m : Message) :
    idsIn topic [m] = (m.checkingId? topic).toList := by
  unfold idsIn Message.checkingId?
  by_cases hchannel : m.channel = topic
  · cases hpayload : String.fromUTF8? m.payload with
    | none => simp [hchannel, hpayload]
    | some s =>
      have hblank := Text.trim_eq_empty_iff (s := s)
      by_cases htrim : Text.trim s = ""
      · simp [hchannel, hpayload, htrim, hblank.mp htrim]
      · have hnot : s.toList.all Text.isBlank = false := by
          rw [← Bool.not_eq_true, ← hblank]
          exact htrim
        simp [hchannel, hpayload, htrim, hnot]
  · simp [hchannel]

theorem idsIn_cons (topic : String) (m : Message) (rest : List Message) :
    idsIn topic (m :: rest) = (m.checkingId? topic).toList ++ idsIn topic rest := by
  rw [← idsIn_singleton, ← idsIn_append]
  rfl

/-- A call to the source of a stream and what comes of it: a message, the end of the messages,
nothing yet, or the closing. -/
inductive SourceCall where
  | received (m : Message)
  | ended
  | idle
  | close
  deriving DecidableEq

namespace SourceCall

def message? : SourceCall → Option Message
  | .received m => some m
  | _ => none

/-- The messages that a source gave away, in their order. -/
def messages (calls : List SourceCall) : List Message :=
  calls.filterMap message?

theorem messages_append (first rest : List SourceCall) :
    messages (first ++ rest) = messages first ++ messages rest :=
  List.filterMap_append

end SourceCall

open SourceCall (messages)

/-- The wait of `pollQueue` with the calls to the source written down. A source without messages is
still asked when the message is looked at before the cancellation. -/
def pollLog (topic : String) (cancelled ended : Bool) :
    (cancelFirst : ℕ → Bool) → List Message → List SourceCall × Poll × List Message
  | cancelFirst, [] =>
    if cancelled && cancelFirst 0 then ([], .finished, [])
    else if ended then ([.ended], .finished, [])
    else ([.idle], if cancelled then .finished else .waiting, [])
  | cancelFirst, m :: rest =>
    if cancelled && cancelFirst 0 then ([], .finished, m :: rest)
    else
      match m.checkingId? topic with
      | some id => ([.received m], .id id, rest)
      | none =>
        let (calls, poll, left) :=
          pollLog topic cancelled ended (fun turn => cancelFirst (turn + 1)) rest
        (.received m :: calls, poll, left)

/-- Writing the calls down changes nothing. -/
theorem pollLog_snd (topic : String) (cancelled ended : Bool) (cancelFirst : ℕ → Bool)
    (queue : List Message) : (pollLog topic cancelled ended cancelFirst queue).2 =
      pollQueue topic cancelled ended cancelFirst queue := by
  induction queue generalizing cancelFirst with
  | nil =>
    simp only [pollLog, pollQueue]
    cases cancelled <;> cases ended <;> cases cancelFirst 0 <;> rfl
  | cons m rest ih =>
    simp only [pollLog, pollQueue]
    split
    · rfl
    · cases m.checkingId? topic with
      | some id => rfl
      | none => exact ih _

/-- What a wait comes to, after the messages that it takes and before those that it leaves: an id, in
the last message taken; the end, by cancellation or since nothing more comes; or nothing yet. -/
inductive WaitEnd (topic : String) (cancelled ended : Bool) :
    List Message → Poll → List Message → Prop
  | found {skipped rest : List Message} {m : Message} {id : String} (h : idsIn topic skipped = [])
    (hid : m.checkingId? topic = some id) :
    WaitEnd topic cancelled ended (skipped ++ [m]) (.id id) rest
  | cancelled {skipped rest : List Message} (h : idsIn topic skipped = [])
    (hcancelled : cancelled = true) : WaitEnd topic cancelled ended skipped .finished rest
  | ended {skipped : List Message} (h : idsIn topic skipped = []) (hended : ended = true) :
    WaitEnd topic cancelled ended skipped .finished []
  | waiting {skipped : List Message} (h : idsIn topic skipped = []) (hcancelled : cancelled = false)
    (hended : ended = false) : WaitEnd topic cancelled ended skipped .waiting []

theorem WaitEnd.skip {topic : String} {cancelled ended : Bool} {taken rest : List Message}
    {poll : Poll} {m : Message} (h : WaitEnd topic cancelled ended taken poll rest)
    (hm : m.checkingId? topic = none) : WaitEnd topic cancelled ended (m :: taken) poll rest := by
  have hskip (skipped : List Message) (hnone : idsIn topic skipped = []) :
      idsIn topic (m :: skipped) = [] := by
    rw [idsIn_cons, hm, hnone]
    rfl
  cases h with
  | found hnone hid => exact .found (hskip _ hnone) hid
  | cancelled hnone hcancelled => exact .cancelled (hskip _ hnone) hcancelled
  | ended hnone hended => exact .ended (hskip _ hnone) hended
  | waiting hnone hcancelled hended => exact .waiting (hskip _ hnone) hcancelled hended

/-- A wait takes messages from the front of the queue and closes nothing. -/
theorem pollLog_spec (topic : String) (cancelled ended : Bool) (cancelFirst : ℕ → Bool)
    (queue : List Message) :
    let (calls, poll, rest) := pollLog topic cancelled ended cancelFirst queue
    queue = messages calls ++ rest ∧ .close ∉ calls ∧
      WaitEnd topic cancelled ended (messages calls) poll rest := by
  have hnil : idsIn topic [] = [] := rfl
  induction queue generalizing cancelFirst with
  | nil =>
    simp only [pollLog]
    split
    next hfirst =>
      simp only [Bool.and_eq_true] at hfirst
      exact ⟨rfl, by simp, .cancelled hnil hfirst.1⟩
    next =>
      split
      next hended => exact ⟨rfl, by simp, .ended hnil hended⟩
      next hended =>
        refine ⟨rfl, by simp, ?_⟩
        cases cancelled with
        | true => exact .cancelled hnil rfl
        | false => exact .waiting hnil rfl (by simpa using hended)
  | cons m rest ih =>
    simp only [pollLog]
    split
    next hfirst =>
      simp only [Bool.and_eq_true] at hfirst
      exact ⟨rfl, by simp, .cancelled hnil hfirst.1⟩
    next =>
      split
      next id hid =>
        have hend : WaitEnd topic cancelled ended ([] ++ [m]) (.id id) rest := .found hnil hid
        exact ⟨rfl, by simp, hend⟩
      next hnone =>
        obtain ⟨hqueue, hclose, hend⟩ := ih fun turn => cancelFirst (turn + 1)
        refine ⟨?_, ?_, hend.skip hnone⟩
        · exact congrArg (m :: ·) hqueue
        · intro hmem
          rcases List.mem_cons.mp hmem with heq | hrest
          · cases heq
          · exact hclose hrest

namespace Subscription

/-- The next wait of a stream with its calls to the source. The source is closed after the last of
them, and a stream that is closed makes none. -/
def nextLog (s : Subscription) (cancelled : Bool) (cancelFirst : ℕ → Bool) :
    List SourceCall × Poll × Subscription :=
  if s.isOpen then
    let (calls, poll, queue) :=
      pollLog s.topic cancelled s.source.ended cancelFirst s.source.queue
    let taken := { s with source := { s.source with queue := queue } }
    if poll = .finished then (calls ++ [.close], poll, taken.shut) else (calls, poll, taken)
  else ([], .finished, s)

theorem nextLog_snd (s : Subscription) (cancelled : Bool) (cancelFirst : ℕ → Bool) :
    (s.nextLog cancelled cancelFirst).2 = s.next cancelled cancelFirst := by
  unfold nextLog next
  split
  · simp only [← pollLog_snd]
    split <;> rfl
  · rfl

end Subscription

end LightningDeposit
