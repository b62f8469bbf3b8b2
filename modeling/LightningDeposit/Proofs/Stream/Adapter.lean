import LightningDeposit.Proofs.Stream.Closing
import LightningDeposit.Proofs.Stream.Delivery

/-!
Streams inside adapters. An adapter hands out the ids of the stream that it holds; the stream goes into
every wait, comes back with the id, and is let go of by the wait that comes to the end, or with the
adapter itself. Taking ids off a stream is the same as pulling them out of an adapter, and where the
source has ended both are told in full: the first ids, and what is left behind the last of them.
-/

namespace LightningDeposit

open SourceCall (messages)

/-- Holds a stream, also while a wait is under way, or has let go of it at the end. -/
inductive Adapter where
  | holding (stream : ℕ)
  | spent
  deriving DecidableEq

/-- What came out of an adapter, and what there is after that. -/
structure Pulled where
  polls : List Poll
  adapter : Adapter
  hub : Hub

namespace Adapter

/-- One more id is asked for. A spent adapter is not asked again. -/
def poll (h : Hub) (cancelFirst : ℕ → Bool) : Adapter → Option (Poll × Adapter × Hub)
  | .spent => none
  | .holding stream =>
    match h.next stream cancelFirst with
    | (.finished, h') => some (.finished, .spent, h'.drop stream true)
    | (answer, h') => some (answer, .holding stream, h')

/-- Up to that many ids are asked for, as long as ids come. -/
def pull (h : Hub) (cancelFirst : ℕ → Bool) : ℕ → Adapter → Pulled
  | 0, adapter => ⟨[], adapter, h⟩
  | n + 1, adapter =>
    match adapter.poll h cancelFirst with
    | none => ⟨[], adapter, h⟩
    | some (.id id, adapter', h') =>
      let pulled := pull h' cancelFirst n adapter'
      { pulled with polls := .id id :: pulled.polls }
    | some (answer, adapter', h') => ⟨[answer], adapter', h'⟩

/-- A stream that is still held is let go of with its adapter. -/
def release (h : Hub) : Adapter → Hub
  | .holding stream => h.drop stream true
  | .spent => h

end Adapter

/-- The adapter is let go of. -/
def Pulled.released (p : Pulled) : Hub :=
  p.adapter.release p.hub

/-- How the taking of ids ended, by the last answer. -/
def CollectEnd.of (polls : List Poll) : CollectEnd :=
  match polls.getLast? with
  | some .finished => .ended
  | some .waiting => .pending
  | _ => .taken

/-- The messages behind the one that names the id of that number, counted from one. -/
def beyond (topic : String) : ℕ → List Message → List Message
  | 0, queue => queue
  | _ + 1, [] => []
  | k + 1, m :: rest => beyond topic (if idsIn topic [m] = [] then k + 1 else k) rest

section Beyond

variable {topic : String} {m : Message} {id : String}

@[simp]
theorem beyond_zero (topic : String) (queue : List Message) : beyond topic 0 queue = queue := by
  rw [beyond]

theorem beyond_skip (h : m.checkingId? topic = none) (k : ℕ) (rest : List Message) :
    beyond topic k (m :: rest) = if k = 0 then m :: rest else beyond topic k rest := by
  cases k with
  | zero => rfl
  | succ k => simp [beyond, idsIn_singleton, h]

theorem beyond_id (h : m.checkingId? topic = some id) (k : ℕ) (rest : List Message) :
    beyond topic (k + 1) (m :: rest) = beyond topic k rest := by
  simp [beyond, idsIn_singleton, h]

theorem through_append_beyond (topic : String) (k : ℕ) (queue : List Message) :
    through topic k queue ++ beyond topic k queue = queue := by
  induction queue generalizing k with
  | nil => cases k <;> rfl
  | cons m rest ih =>
    cases k with
    | zero => rfl
    | succ k => rw [through, beyond, List.cons_append, ih]

theorem beyond_succ (topic : String) (k : ℕ) (queue : List Message) :
    beyond topic (k + 1) queue = beyond topic k (beyond topic 1 queue) := by
  induction queue with
  | nil => cases k <;> rfl
  | cons m rest ih =>
    cases hm : m.checkingId? topic with
    | none =>
      rw [beyond_skip hm, beyond_skip hm]
      exact ih
    | some id => rw [beyond_id hm, beyond_id hm, beyond_zero]

theorem idsIn_beyond (topic : String) (k : ℕ) (queue : List Message) :
    idsIn topic (beyond topic k queue) = (idsIn topic queue).drop k := by
  induction queue generalizing k with
  | nil => cases k <;> rfl
  | cons m rest ih =>
    cases k with
    | zero => rfl
    | succ k =>
      rw [idsIn_cons]
      cases hm : m.checkingId? topic with
      | none =>
        rw [beyond_skip hm]
        exact ih (k + 1)
      | some id =>
        rw [beyond_id hm]
        exact ih k

/-- Behind more ids than there are nothing is left. -/
theorem beyond_of_lt {k : ℕ} {queue : List Message} (h : (idsIn topic queue).length < k) :
    beyond topic k queue = [] := by
  induction queue generalizing k with
  | nil => cases k <;> rfl
  | cons m rest ih =>
    rw [idsIn_cons, List.length_append] at h
    cases k with
    | zero => cases h
    | succ k =>
      cases hm : m.checkingId? topic with
      | none =>
        rw [hm, Option.toList_none, List.length_nil, Nat.zero_add] at h
        rw [beyond_skip hm]
        exact ih h
      | some id =>
        rw [hm, Option.toList_some, List.length_singleton] at h
        rw [beyond_id hm]
        exact ih (by omega)

/-- A wait on a source that has ended comes to its first id, or takes everything. -/
theorem pollQueue_of_ended (topic : String) (cancelFirst : ℕ → Bool) (queue : List Message) :
    pollQueue topic false true cancelFirst queue =
      ((idsIn topic queue).head?.elim .finished .id, beyond topic 1 queue) := by
  induction queue generalizing cancelFirst with
  | nil => rfl
  | cons m rest ih =>
    rw [pollQueue, idsIn_cons, Bool.false_and, if_neg Bool.false_ne_true]
    cases hm : m.checkingId? topic with
    | none =>
      rw [beyond_skip hm]
      exact ih _
    | some id =>
      rw [beyond_id hm, beyond_zero]
      rfl

end Beyond

namespace Subscription

variable {s : Subscription}

/-- The stream with only those messages left. -/
def withQueue (s : Subscription) (queue : List Message) : Subscription :=
  { s with source := { s.source with queue := queue } }

/-- A wait on an open stream whose source has ended, without cancellation. -/
theorem next_of_ended (hopen : s.isOpen = true) (hended : s.source.ended = true)
    (cancelFirst : ℕ → Bool) :
    let poll := (idsIn s.topic s.source.queue).head?.elim Poll.finished .id
    let taken := s.withQueue (beyond s.topic 1 s.source.queue)
    s.next false cancelFirst = (poll, if poll = .finished then taken.shut else taken) := by
  rw [next, if_pos hopen, hended, pollQueue_of_ended]
  rfl

end Subscription

namespace Hub

variable {h : Hub} {stream : ℕ} {s t u : Subscription}

/-- What is put back twice, open in between, is put back once. -/
theorem update_update (hopen : t.isOpen = s.isOpen) (hcounter : t.counter = s.counter) :
    (h.update stream s t).update stream t u = h.update stream s u := by
  rw [update_of_isOpen_eq hopen]
  simp only [update, List.set_set, hopen, hcounter]

theorem drop_of_not_open (hclosed : h.isOpen stream = false) (canClose : Bool) :
    h.drop stream canClose = h := by
  unfold drop
  split
  · rfl
  next s hs =>
    rw [isOpen_of_getElem? hs] at hclosed
    rw [hclosed]
    rfl

/-- A wait that comes to the end leaves nothing to let go of. -/
theorem drop_of_finished {cancelFirst : ℕ → Bool} {h' : Hub}
    (hnext : h.next stream cancelFirst = (.finished, h')) (canClose : Bool) :
    h'.drop stream canClose = h' := by
  cases hs : h.streams[stream]? with
  | none =>
    simp only [next, hs, Prod.mk.injEq, true_and] at hnext
    subst hnext
    rw [drop, hs]
  | some s =>
    apply drop_of_not_open
    have hend := next_eq_finished_iff hs cancelFirst
    rw [hnext] at hend
    exact hend.mp rfl

/-- The stream is open and not cancelled, and no more messages come than are there. -/
structure Ending (h : Hub) (stream : ℕ) (s : Subscription) : Prop where
  stream_eq : h.streams[stream]? = some s
  isOpen : s.isOpen = true
  not_cancelled : h.isCancelled s.scope = false
  ended : s.source.ended = true

namespace Ending

/-- Without an id a wait comes to the end. -/
theorem next_of_nil (hs : h.Ending stream s) (hids : idsIn s.topic s.source.queue = [])
    (cancelFirst : ℕ → Bool) :
    h.next stream cancelFirst = (.finished, h.update stream s (s.withQueue []).shut) := by
  have hnext := Subscription.next_of_ended hs.isOpen hs.ended cancelFirst
  have hleft : beyond s.topic 1 s.source.queue = [] := beyond_of_lt (by rw [hids]; decide)
  rw [hids, hleft] at hnext
  simp only [next, hs.stream_eq, hs.not_cancelled, hnext]
  rfl

/-- With one it comes to the first, and the next wait is on what is left behind it. -/
theorem next_of_cons (hs : h.Ending stream s) {id : String} {ids : List String}
    (hids : idsIn s.topic s.source.queue = id :: ids) (cancelFirst : ℕ → Bool) :
    let t := s.withQueue (beyond s.topic 1 s.source.queue)
    h.next stream cancelFirst = (.id id, h.update stream s t) ∧
      (h.update stream s t).Ending stream t ∧ idsIn t.topic t.source.queue = ids := by
  intro t
  have hnext := Subscription.next_of_ended hs.isOpen hs.ended cancelFirst
  rw [hids] at hnext
  refine ⟨?_, ⟨(getElem?_update hs.stream_eq t).1, hs.isOpen, hs.not_cancelled, hs.ended⟩, ?_⟩
  · simp only [next, hs.stream_eq, hs.not_cancelled, hnext]
    rfl
  · rw [show idsIn t.topic t.source.queue = _ from idsIn_beyond s.topic 1 s.source.queue, hids]
    rfl

end Ending

/-- What is left of a hub when so many ids have been asked for: the stream behind the last of them, or
closed behind all. -/
def asked (h : Hub) (stream : ℕ) (s : Subscription) (n : ℕ) : Hub :=
  if n ≤ (idsIn s.topic s.source.queue).length then
    h.update stream s (s.withQueue (beyond s.topic n s.source.queue))
  else h.update stream s (s.withQueue []).shut

theorem asked_zero (hs : h.streams[stream]? = some s) : h.asked stream s 0 = h := by
  have hsame : s.withQueue s.source.queue = s := rfl
  rw [asked, if_pos (Nat.zero_le _), beyond_zero, hsame, update_self hs]

theorem asked_of_nil (hids : idsIn s.topic s.source.queue = []) (n : ℕ) :
    h.asked stream s (n + 1) = h.update stream s (s.withQueue []).shut := by
  rw [asked, hids, List.length_nil, if_neg (Nat.not_succ_le_zero n)]

/-- Asking for one id and then for more is asking for all of them at once. -/
theorem asked_of_cons {id : String} {ids : List String}
    (hids : idsIn s.topic s.source.queue = id :: ids) (n : ℕ) :
    let t := s.withQueue (beyond s.topic 1 s.source.queue)
    (h.update stream s t).asked stream t n = h.asked stream s (n + 1) := by
  intro t
  have hleft : idsIn t.topic t.source.queue = ids := by
    rw [show idsIn t.topic t.source.queue = _ from idsIn_beyond s.topic 1 s.source.queue, hids]
    rfl
  have hback (u : Subscription) : (h.update stream s t).update stream t u = h.update stream s u :=
    update_update rfl rfl
  simp only [asked, hleft, hids, List.length_cons, Nat.add_le_add_iff_right, hback]
  rw [beyond_succ s.topic n]
  rfl

end Hub

namespace Poll

/-- The answers up to and with the first that is the end. -/
def untilFinished : List Poll → List Poll
  | [] => []
  | .finished :: _ => [.finished]
  | poll :: rest => poll :: untilFinished rest

/-- The answers when so many ids are asked for and these are all there are. -/
def answers (ids : List String) (n : ℕ) : List Poll :=
  if n ≤ ids.length then (ids.take n).map .id else ids.map .id ++ [.finished]

theorem answers_zero (ids : List String) : answers ids 0 = [] := by
  rw [answers, if_pos (Nat.zero_le _), List.take_zero, List.map_nil]

theorem answers_cons_succ (id : String) (ids : List String) (n : ℕ) :
    answers (id :: ids) (n + 1) = .id id :: answers ids n := by
  simp only [answers, List.length_cons, Nat.add_le_add_iff_right]
  split <;> rfl

end Poll

section Pulling

variable {h : Hub} {stream : ℕ} {s : Subscription}

/-- Pulling so many ids out of an adapter whose source has ended. -/
theorem Hub.Ending.pull_eq (hs : h.Ending stream s) (cancelFirst : ℕ → Bool) (n : ℕ) :
    let ids := idsIn s.topic s.source.queue
    Adapter.pull h cancelFirst n (.holding stream) =
      ⟨Poll.answers ids n, if n ≤ ids.length then .holding stream else .spent,
        h.asked stream s n⟩ := by
  intro ids
  -- After an id the adapter holds the stream behind that id, which is again one whose source has ended.
  induction n generalizing h s with
  | zero =>
    rw [Adapter.pull, Hub.asked_zero hs.stream_eq, Poll.answers_zero, if_pos (Nat.zero_le _)]
  | succ n ih =>
    cases hids : idsIn s.topic s.source.queue with
    | nil =>
      have hnext := hs.next_of_nil hids cancelFirst
      rw [show ids = [] from hids, Hub.asked_of_nil hids, Adapter.pull, Adapter.poll, hnext]
      dsimp only
      rw [Hub.drop_of_finished hnext]
      rfl
    | cons id rest =>
      obtain ⟨hnext, hrest, hleft⟩ := hs.next_of_cons hids cancelFirst
      rw [show ids = id :: rest from hids, Adapter.pull, Adapter.poll, hnext]
      dsimp only
      rw [ih hrest, hleft, Hub.asked_of_cons hids, Poll.answers_cons_succ]
      simp

end Pulling

section Waiting

/-- Waits on a stream, one after another. -/
def waits (stream : ℕ) (choices : List (ℕ → Bool)) : List Hub.Action :=
  choices.map fun cancelFirst => .on stream (.next cancelFirst)

variable {h : Hub} {stream : ℕ} {s : Subscription}

theorem Hub.polls_note_next (hs : h.streams[stream]? = some s) (cancelFirst : ℕ → Bool) :
    (h.note stream (.on stream (.next cancelFirst))).polls = [(h.next stream cancelFirst).1] := by
  simp only [note, hs, Action.on?, ↓reduceIte, Subscription.note, next]

/-- Waiting on a stream that has ended changes nothing. -/
theorem Hub.run_waits_of_closed (hs : h.streams[stream]? = some s) (hclosed : s.isOpen = false)
    (choices : List (ℕ → Bool)) : h.run (waits stream choices) = h := by
  induction choices with
  | nil => rfl
  | cons cancelFirst rest ih =>
    have hstep : h.step (.on stream (.next cancelFirst)) = h := by
      rw [step_on hs, Subscription.after, Subscription.next_of_closed hclosed, update_self hs]
    rw [waits, List.map_cons, run_cons, hstep]
    exact ih

theorem Hub.published_waits (hs : h.streams[stream]? = some s) (choices : List (ℕ → Bool)) :
    (h.journal stream (waits stream choices)).published = [] := by
  induction choices generalizing h s with
  | nil => rfl
  | cons cancelFirst rest ih =>
    have hnote : (h.note stream (.on stream (.next cancelFirst))).published = [] := by
      simp only [note, hs, Action.on?, ↓reduceIte, Subscription.note]
    rw [waits, List.map_cons, journal, Journal.append, hnote]
    exact ih (step_streams hs _)

/-- Waits take messages from the front and leave the rest. -/
theorem Hub.queue_of_waits (hs : h.streams[stream]? = some s) (choices : List (ℕ → Bool)) :
    s.source.queue = messages (h.journal stream (waits stream choices)).calls ++
      (h.run (waits stream choices)).unread stream := by
  have hfirst : s.Delivers s.topic s.scope s.source.queue .empty :=
    ⟨rfl, rfl, List.append_nil _, rfl⟩
  obtain ⟨t, ht, hj⟩ := run_journal (fun s j cancelled action _ hP => hP.after cancelled action)
    hs hfirst (waits stream choices) fun _ _ => trivial
  have hdelivered : s.source.queue ++ (h.journal stream (waits stream choices)).published = _ :=
    hj.delivered
  rw [published_waits hs, List.append_nil] at hdelivered
  rw [unread_of_getElem? ht, hdelivered]
  rfl

/-- Waiting so many times on a stream whose source has ended. -/
theorem Hub.Ending.run_waits (hs : h.Ending stream s) (choices : List (ℕ → Bool)) :
    h.run (waits stream choices) = h.asked stream s choices.length ∧
      Poll.untilFinished (h.journal stream (waits stream choices)).polls =
        Poll.answers (idsIn s.topic s.source.queue) choices.length := by
  induction choices generalizing h s with
  | nil => exact ⟨(Hub.asked_zero hs.stream_eq).symm, (Poll.answers_zero _).symm⟩
  | cons cancelFirst rest ih =>
    have hpolls : (h.journal stream (waits stream (cancelFirst :: rest))).polls =
        (h.next stream cancelFirst).1 ::
          ((h.next stream cancelFirst).2.journal stream (waits stream rest)).polls := by
      rw [waits, List.map_cons, journal, Journal.append, polls_note_next hs.stream_eq]
      rfl
    have hrun : h.run (waits stream (cancelFirst :: rest)) =
        (h.next stream cancelFirst).2.run (waits stream rest) := rfl
    rw [hpolls, hrun, List.length_cons]
    cases hids : idsIn s.topic s.source.queue with
    | nil =>
      have hback := (h.getElem?_update hs.stream_eq (s.withQueue []).shut).1
      rw [hs.next_of_nil hids, Hub.asked_of_nil hids]
      exact ⟨run_waits_of_closed hback rfl rest, rfl⟩
    | cons id ids =>
      obtain ⟨hnext, hrest, hleft⟩ := hs.next_of_cons hids cancelFirst
      obtain ⟨hreached, hanswers⟩ := ih hrest
      rw [hleft] at hanswers
      rw [hnext, Poll.untilFinished, hreached, hanswers, Hub.asked_of_cons hids,
        Poll.answers_cons_succ]
      · exact ⟨rfl, rfl⟩
      · rintro ⟨⟩

end Waiting

section Releasing

variable {h : Hub} {stream : ℕ} {s : Subscription}

theorem CollectEnd.of_cons_id (id : String) (polls : List Poll) :
    of (.id id :: polls) = of polls := by
  cases polls with
  | nil => rfl
  | cons poll rest => rw [of, List.getLast?_cons_cons, ← of]

/-- Collecting ids is pulling them out of an adapter and letting go of it. -/
theorem Hub.collect_eq_pull (h : Hub) (stream : ℕ) (cancelFirst : ℕ → Bool) (n : ℕ) :
    let pulled := Adapter.pull h cancelFirst n (.holding stream)
    h.collect stream cancelFirst n =
      ((pulled.polls.filterMap Poll.id?, .of pulled.polls), pulled.released) := by
  simp only [collect]
  induction n generalizing h with
  | zero => rfl
  | succ n ih =>
    rw [take, Adapter.pull, Adapter.poll]
    cases hnext : h.next stream cancelFirst with
    | mk answer h' =>
      cases answer with
      | finished =>
        simp only [Pulled.released, Adapter.release, drop_of_finished hnext]
        rfl
      | waiting => rfl
      | id id =>
        have hrest := ih h'
        simp only [Prod.mk.injEq] at hrest ⊢
        obtain ⟨hfound, hleft⟩ := hrest
        have hend := (congrArg Prod.snd hfound).trans (CollectEnd.of_cons_id id _).symm
        exact ⟨⟨congrArg (fun found => id :: found.1) hfound, hend⟩, hleft⟩

theorem Hub.unread_asked (hs : h.streams[stream]? = some s) (n : ℕ) :
    (h.asked stream s n).unread stream = beyond s.topic n s.source.queue := by
  rw [asked]
  split
  next => exact unread_of_getElem? (h.getElem?_update hs _).1
  next hn =>
    rw [beyond_of_lt (Nat.lt_of_not_le hn)]
    exact unread_of_getElem? (h.getElem?_update hs _).1

/-- Letting go of an adapter, early or after the end, leaves the stream closed behind the last id that
came out. -/
theorem Hub.Ending.released_eq (hs : h.Ending stream s) (cancelFirst : ℕ → Bool) (n : ℕ) :
    (Adapter.pull h cancelFirst n (.holding stream)).released =
      h.update stream s (s.withQueue (beyond s.topic n s.source.queue)).shut := by
  rw [hs.pull_eq, Pulled.released]
  by_cases hn : n ≤ (idsIn s.topic s.source.queue).length
  · let t := s.withQueue (beyond s.topic n s.source.queue)
    have hback := (h.getElem?_update hs.stream_eq t).1
    have hopen : t.isOpen = true := hs.isOpen
    have honce : (h.update stream s t).update stream t t.shut = h.update stream s t.shut :=
      update_update rfl rfl
    simp only [if_pos hn, Adapter.release, asked]
    rw [drop, hback]
    simp only [hopen, ↓reduceIte]
    exact honce
  · simp only [if_neg hn, Adapter.release, asked]
    rw [beyond_of_lt (Nat.lt_of_not_le hn)]

end Releasing

end LightningDeposit
