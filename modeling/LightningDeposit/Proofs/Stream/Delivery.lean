import LightningDeposit.Proofs.Stream.Run

/-!
Delivery of ids. The ids that the waits on a stream come to are those in the messages taken from its
source, in their order and each once; messages are taken from the front and none is lost, so these
are the first of the ids in all that was delivered, whatever else happens to the stream.
-/

namespace LightningDeposit

open SourceCall (messages)

/-- The messages up to and with the one that names the id of that number, counted from one. -/
def through (topic : String) : ℕ → List Message → List Message
  | 0, _ => []
  | _ + 1, [] => []
  | k + 1, m :: rest => m :: through topic (if idsIn topic [m] = [] then k + 1 else k) rest

theorem through_append (topic : String) {skipped : List Message} {m : Message} {id : String}
    (hid : m.checkingId? topic = some id) (rest : List Message) :
    through topic ((idsIn topic skipped).length + 1) (skipped ++ m :: rest) = skipped ++ [m] := by
  have hone : idsIn topic [m] ≠ [] := by simp [idsIn_singleton, hid]
  induction skipped with
  | nil =>
    have hnil : (idsIn topic []).length = 0 := rfl
    rw [hnil, List.nil_append, List.nil_append, through, if_neg hone, through]
  | cons first skipped ih =>
    have hcons : idsIn topic (first :: skipped) = idsIn topic [first] ++ idsIn topic skipped :=
      idsIn_append topic [first] skipped
    rw [List.cons_append, List.cons_append, through, hcons]
    cases hfirst : first.checkingId? topic with
    | none =>
      have hempty : idsIn topic [first] = [] := by simp [idsIn_singleton, hfirst]
      rw [if_pos hempty, hempty, List.nil_append, ih]
    | some other =>
      have hlength : idsIn topic [first] = [other] := by simp [idsIn_singleton, hfirst]
      rw [if_neg (by simp [hlength]), hlength, List.singleton_append, List.length_cons, ih]

namespace WaitEnd

variable {topic : String} {cancelled ended : Bool} {taken rest : List Message} {poll : Poll}

/-- The ids in what a wait takes are the one that it comes to. -/
theorem idsIn_taken (h : WaitEnd topic cancelled ended taken poll rest) :
    idsIn topic taken = poll.id?.toList := by
  cases h with
  | found hnone hid =>
    rw [idsIn_append, hnone, idsIn_singleton, hid]
    rfl
  | cancelled hnone => exact hnone
  | ended hnone => exact hnone
  | waiting hnone => exact hnone

/-- Without cancellation a wait comes to the first id there is, and otherwise to the end or to
nothing yet. -/
theorem eq_first (h : WaitEnd topic false ended taken poll rest) : poll =
    (idsIn topic (taken ++ rest)).head?.elim (if ended then .finished else .waiting) .id := by
  cases h with
  | found hnone hid =>
    rw [idsIn_append, idsIn_append, hnone, idsIn_singleton, hid]
    rfl
  | cancelled _ hcancelled => cases hcancelled
  | ended hnone hended => simp [hnone, hended]
  | waiting hnone _ hended => simp [hnone, hended]

end WaitEnd

namespace Subscription

variable {s : Subscription} {cancelled : Bool}

/-- What a wait on an open stream takes, what it leaves and what it comes to. -/
theorem next_takes (h : s.isOpen = true) (cancelled : Bool) (cancelFirst : ℕ → Bool) :
    let calls := (s.nextLog cancelled cancelFirst).1
    let poll := (s.next cancelled cancelFirst).1
    let t := (s.next cancelled cancelFirst).2
    s.source.queue = messages calls ++ t.source.queue ∧
      WaitEnd s.topic cancelled s.source.ended (messages calls) poll t.source.queue := by
  obtain ⟨hqueue, -, hend⟩ :=
    pollLog_spec s.topic cancelled s.source.ended cancelFirst s.source.queue
  have hclose (calls : List SourceCall) : messages (calls ++ [.close]) = messages calls := by
    rw [SourceCall.messages_append]
    exact List.append_nil _
  simp only [← nextLog_snd]
  unfold nextLog
  rw [if_pos h]
  by_cases hfinished :
      (pollLog s.topic cancelled s.source.ended cancelFirst s.source.queue).2.1 = .finished
  · simp only [hfinished, ↓reduceIte, hclose]
    rw [hfinished] at hend
    exact ⟨hqueue, hend⟩
  · simp only [hfinished, ↓reduceIte]
    exact ⟨hqueue, hend⟩

/-- What is seen of an action accounts for the messages: those published are put behind the ones that
wait, those taken come from the front, and the ids in them are given out. -/
theorem after_accounts (s : Subscription) (cancelled : Bool) (action : StreamAction) :
    let t := s.after cancelled action
    let note := s.note cancelled action
    s.source.queue ++ note.published = messages note.calls ++ t.source.queue ∧
      note.ids = idsIn s.topic (messages note.calls) := by
  intro t note
  have hquiet (hpublished : note.published = []) (hcalls : messages note.calls = [])
      (hids : note.ids = []) (hqueue : t.source.queue = s.source.queue) :
      s.source.queue ++ note.published = messages note.calls ++ t.source.queue ∧
        note.ids = idsIn s.topic (messages note.calls) := by
    rw [hpublished, hcalls, hids, hqueue, List.append_nil]
    exact ⟨rfl, rfl⟩
  cases action with
  | publish m => exact ⟨rfl, rfl⟩
  | finish => exact hquiet rfl rfl rfl rfl
  | next cancelFirst =>
    cases hopen : s.isOpen with
    | false =>
      apply hquiet rfl <;>
        simp only [note, t, Subscription.note, after, nextLog, hopen, next_of_closed hopen] <;> rfl
    | true =>
      obtain ⟨hqueue, hend⟩ := next_takes hopen cancelled cancelFirst
      have hids : note.ids = (s.next cancelled cancelFirst).1.id?.toList := by
        simp only [note, Subscription.note, Journal.ids, List.filterMap_cons, List.filterMap_nil]
        cases (s.next cancelled cancelFirst).1.id? <;> rfl
      refine ⟨(List.append_nil _).trans hqueue, ?_⟩
      rw [hids, ← hend.idsIn_taken]
      rfl
  | close =>
    cases hopen : s.isOpen <;> apply hquiet <;>
      simp only [note, t, Subscription.note, after, hopen] <;> rfl
  | drop canClose =>
    cases hopen : s.isOpen <;> cases canClose <;> apply hquiet <;>
      simp only [note, t, Subscription.note, after, hopen] <;> rfl

/-- What was there at first and what was published since has been taken or is still there, and the
ids in what was taken have been given out. -/
structure Delivers (topic : String) (scope : ℕ) (first : List Message) (s : Subscription)
    (j : Journal) : Prop where
  topic_eq : s.topic = topic
  scope_eq : s.scope = scope
  delivered : first ++ j.published = messages j.calls ++ s.source.queue
  ids : j.ids = idsIn topic (messages j.calls)

theorem Delivers.after {topic : String} {scope : ℕ} {first : List Message} {j : Journal}
    (hs : s.Delivers topic scope first j) (cancelled : Bool) (action : StreamAction) :
    (s.after cancelled action).Delivers topic scope first (j.append (s.note cancelled action)) := by
  obtain ⟨htopic, hscope, -⟩ := s.after_keeps cancelled action
  obtain ⟨hqueue, hids⟩ := s.after_accounts cancelled action
  refine ⟨htopic.trans hs.topic_eq, hscope.trans hs.scope_eq, ?_, ?_⟩
  · rw [Journal.append, SourceCall.messages_append, ← List.append_assoc, hs.delivered,
      List.append_assoc, hqueue, List.append_assoc]
  · rw [Journal.ids_append, hs.ids, hids, hs.topic_eq, ← idsIn_append,
      ← SourceCall.messages_append]
    rfl

end Subscription

namespace Hub

variable {h : Hub} {stream : ℕ} {s : Subscription} {topic : String} {scope : ℕ}
  {first : List Message} {j : Journal}

/-- The next id is the first of those not given out, and with it the messages before it have been
taken, and no others. -/
theorem next_id (hs : h.streams[stream]? = some s) (hj : s.Delivers topic scope first j)
    {cancelFirst : ℕ → Bool} {id : String} (hid : (h.next stream cancelFirst).1 = .id id) :
    (idsIn topic (first ++ j.published)).take (j.ids.length + 1) = j.ids ++ [id] ∧
      first ++ j.published = through topic (j.ids.length + 1) (first ++ j.published) ++
        (h.next stream cancelFirst).2.unread stream := by
  have hstep := step_streams hs (.on stream (.next cancelFirst))
  rw [Action.on?, if_pos rfl, Option.elim_some, step, Subscription.after] at hstep
  rw [unread_of_getElem? hstep]
  simp only [next, hs] at hid
  cases hopen : s.isOpen with
  | false =>
    rw [Subscription.next_of_closed hopen] at hid
    cases hid
  | true =>
    obtain ⟨hqueue, hend⟩ :=
      Subscription.next_takes hopen (h.isCancelled s.scope) cancelFirst
    rw [hid, hj.topic_eq] at hend
    generalize (s.next (h.isCancelled s.scope) cancelFirst).2.source.queue = rest at hqueue hend
    generalize messages (s.nextLog (h.isCancelled s.scope) cancelFirst).1 = taken at hqueue hend
    cases hend with
    | @found skipped _ m _ hnone hfound =>
      have hids : j.ids = idsIn topic (messages j.calls ++ skipped) := by
        rw [hj.ids, idsIn_append, hnone, List.append_nil]
      have hall : first ++ j.published = (messages j.calls ++ skipped) ++ m :: rest := by
        rw [hj.delivered, hqueue]
        simp
      have hsplit : idsIn topic ((messages j.calls ++ skipped) ++ m :: rest) =
          idsIn topic (messages j.calls ++ skipped) ++ id :: idsIn topic rest := by
        rw [idsIn_append topic (messages j.calls ++ skipped), idsIn_cons, hfound]
        rfl
      rw [hall, hids]
      constructor
      · rw [hsplit, List.take_length_add_append]
        rfl
      · rw [through_append topic hfound]
        simp

/-- Without cancellation a wait on an open stream comes to the first id in the messages not taken. -/
theorem next_of_not_cancelled (hs : h.streams[stream]? = some s)
    (hj : s.Delivers topic scope first j) (hopen : h.isOpen stream = true)
    (hcancelled : h.isCancelled scope = false) (cancelFirst : ℕ → Bool) :
    (h.next stream cancelFirst).1 = (idsIn topic (h.unread stream)).head?.elim
      (if h.hasEnded stream then .finished else .waiting) .id := by
  rw [isOpen_of_getElem? hs] at hopen
  obtain ⟨hqueue, hend⟩ := Subscription.next_takes hopen (h.isCancelled s.scope) cancelFirst
  rw [hj.scope_eq, hcancelled, hj.topic_eq] at hend
  rw [hj.scope_eq, hcancelled] at hqueue
  rw [unread_of_getElem? hs, hasEnded_of_getElem? hs, hqueue, ← hend.eq_first]
  simp only [next, hs, hj.scope_eq, hcancelled]

/-- Ids come in the order of the messages that name them, each once and none left out. Whatever is
done with a stream, the ids given out are the first of those in all that was delivered, and the
messages not taken are the rest of what was delivered; with an id just the messages up to the one
that names it have been taken. While a stream is open and not cancelled, a wait comes to the first
id not given out, and only if there is none to the end or to nothing yet: before the first end all
ids have been given out. -/
theorem ids_in_order (h : Hub) (topic : String) (scope counter : ℕ) (source : Source)
    (actions : List Action) :
    let stream := h.streams.length
    let start := (h.subscribe topic scope counter source).2
    let reached := start.run actions
    let journal := start.journal stream actions
    let delivered := source.queue ++ journal.published
    let due := idsIn topic delivered
    journal.ids = due.take journal.ids.length ∧
    delivered = messages journal.calls ++ reached.unread stream ∧
    idsIn topic (messages journal.calls) = journal.ids ∧
    (∀ cancelFirst id, (reached.next stream cancelFirst).1 = .id id →
      due.take (journal.ids.length + 1) = journal.ids ++ [id] ∧
      delivered = through topic (journal.ids.length + 1) delivered ++
        (reached.next stream cancelFirst).2.unread stream) ∧
    (reached.isOpen stream = true → reached.isCancelled scope = false → ∀ cancelFirst,
      (reached.next stream cancelFirst).1 = (due.drop journal.ids.length).head?.elim
        (if reached.hasEnded stream then .finished else .waiting) .id ∧
      ((reached.next stream cancelFirst).1 = .finished → journal.ids = due)) := by
  intro stream start reached journal delivered due
  have hfirst : Subscription.Delivers topic scope source.queue
      ⟨topic, scope, counter, true, source⟩ .empty :=
    ⟨rfl, rfl, List.append_nil _, rfl⟩
  have hkeep (s : Subscription) (j : Journal) (cancelled : Bool) (action : StreamAction) (_ : True)
      (hP : s.Delivers topic scope source.queue j) :
      (s.after cancelled action).Delivers topic scope source.queue
        (j.append (s.note cancelled action)) :=
    hP.after cancelled action
  obtain ⟨t, ht, hj⟩ := run_journal hkeep (subscribe_streams h topic scope counter source) hfirst
    actions fun _ _ => trivial
  have hdelivered : delivered = messages journal.calls ++ reached.unread stream := by
    rw [unread_of_getElem? ht]
    exact hj.delivered
  have hdue : due = journal.ids ++ idsIn topic (reached.unread stream) := by
    rw [show journal.ids = _ from hj.ids, ← idsIn_append]
    exact congrArg (idsIn topic) hdelivered
  refine ⟨?_, hdelivered, hj.ids.symm, fun cancelFirst id hid => next_id ht hj hid, ?_⟩
  · rw [hdue, List.take_left]
  · intro hopen hcancelled cancelFirst
    have hnext : (reached.next stream cancelFirst).1 =
        (idsIn topic (reached.unread stream)).head?.elim
          (if reached.hasEnded stream then .finished else .waiting) .id :=
      next_of_not_cancelled ht hj hopen hcancelled cancelFirst
    rw [hdue, List.drop_left]
    refine ⟨hnext, fun hfinished => ?_⟩
    rw [hnext] at hfinished
    cases hleft : idsIn topic (reached.unread stream) with
    | nil => rw [List.append_nil]
    | cons id rest =>
      rw [hleft] at hfinished
      cases hfinished

end Hub

end LightningDeposit
