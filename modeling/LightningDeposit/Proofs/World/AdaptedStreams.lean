import LightningDeposit.Proofs.Stream.Adapter
import LightningDeposit.Proofs.World.Session

/-!
Streams in adapters, in every session. What comes out of an adapter is what waiting on the stream comes
to, and the stream that it held is closed once and counted off once, whether the adapter comes to the
end of the source or is let go of before.
-/

namespace LightningDeposit

open SourceCall (messages)

namespace Session

/-- An adapter agrees with waiting. In every session, for an open stream that is not cancelled and
whose source has ended, asking an adapter for some ids brings the answers of as many waits, up to and
with the first that is the end, and leaves what these waits leave: the same messages are taken. When
the adapter is let go of, or has come to the end before, the stream is closed, its source has been
closed once and its counter has gone down by one, and nothing has happened to other streams and
counters. Of no more ids than there are the first ones come, and the messages behind the last of them
are left unread; of more ids all come and then the end, with which the stream is let go of already. -/
theorem adapter_agrees_with_waits (clock : ℕ) (actions : List Action) :
    let s := (start clock).run actions
    ∀ (stream : ℕ) (t : Subscription), s.hub.streams[stream]? = some t → t.isOpen = true →
      s.hub.isCancelled t.scope = false → t.source.ended = true →
      ∀ (cancelFirst : ℕ → Bool) (choices : List (ℕ → Bool)),
        let n := choices.length
        let ids := idsIn t.topic t.source.queue
        let journal := s.hub.journal stream (waits stream choices)
        let pulled := Adapter.pull s.hub cancelFirst n (.holding stream)
        let released := pulled.released
        pulled.polls = Poll.untilFinished journal.polls ∧
        pulled.hub = s.hub.run (waits stream choices) ∧
        t.source.queue = messages journal.calls ++ released.unread stream ∧
        released.isOpen stream = false ∧
        released.closes stream = s.hub.closes stream + 1 ∧
        (∀ counter, released.count counter + (if counter = t.counter then 1 else 0) =
          s.hub.count counter) ∧
        (∀ other ≠ stream, released.streams[other]? = s.hub.streams[other]?) ∧
        (n ≤ ids.length → pulled.polls = (ids.take n).map .id ∧
          t.source.queue = through t.topic n t.source.queue ++ released.unread stream) ∧
        (ids.length < n → pulled.polls = ids.map .id ++ [.finished] ∧ pulled.hub = released) ∧
        s.hub.collect stream cancelFirst n =
          ((pulled.polls.filterMap Poll.id?, .of pulled.polls), released) := by
  intro s stream t ht hopen hcancelled hended cancelFirst choices n ids journal pulled released
  have hs : s.Sound := run_sound (start_sound clock) actions
  have hending : s.hub.Ending stream t := ⟨ht, hopen, hcancelled, hended⟩
  obtain ⟨hreached, hanswers⟩ := hending.run_waits choices
  have hpulled : pulled = ⟨Poll.answers ids n, if n ≤ ids.length then .holding stream else .spent,
      s.hub.asked stream t n⟩ := hending.pull_eq cancelFirst n
  let u := (t.withQueue (beyond t.topic n t.source.queue)).shut
  have hreleased : released = s.hub.update stream t u := hending.released_eq cancelFirst n
  obtain ⟨hget, hothers⟩ := Hub.getElem?_update ht u
  rw [← hreleased] at hget hothers
  have hunread : released.unread stream = beyond t.topic n t.source.queue :=
    Hub.unread_of_getElem? hget
  refine ⟨?_, ?_, ?_, Hub.isOpen_of_getElem? hget, ?_, ?_, hothers, ?_, ?_,
    Hub.collect_eq_pull s.hub stream cancelFirst n⟩
  · rw [hpulled]
    exact hanswers.symm
  · rw [hpulled]
    exact hreached.symm
  · rw [hunread, ← Hub.unread_asked ht n, ← hreached]
    exact Hub.queue_of_waits ht choices
  · rw [Hub.closes_of_getElem? hget, Hub.closes_of_getElem? ht]
    rfl
  · intro counter
    rw [hreleased]
    exact hs.counted.count_update_of_ends ht hopen rfl counter
  · intro hn
    rw [hpulled, hunread]
    exact ⟨if_pos hn, (through_append_beyond t.topic n t.source.queue).symm⟩
  · intro hn
    have hshort : ¬n ≤ ids.length := Nat.not_le.mpr hn
    have hasked : s.hub.asked stream t n = released := by
      rw [hreleased, Hub.asked, if_neg hshort]
      simp only [u, beyond_of_lt hn]
    rw [hpulled]
    exact ⟨if_neg hshort, hasked⟩

/-- Two ids with a message of another channel before each: when an adapter is let go of with the first
id, the last two messages are left. -/
theorem adapter_let_go_of_after_first_of_two :
    let first : Message := ⟨paidInvoicesChannel, "first".toUTF8⟩
    let other : Message := ⟨"other", "id".toUTF8⟩
    let second : Message := ⟨paidInvoicesChannel, "second".toUTF8⟩
    let actions : List Action := [.newScope, .newCounter,
      .subscribe paidInvoicesChannel 0 0 (.subscribed true), .on 0 (.publish other),
      .on 0 (.publish first), .on 0 (.publish other), .on 0 (.publish second), .on 0 .finish]
    let s := (start 0).run actions
    let pulled := Adapter.pull s.hub (fun _ => true) 1 (.holding 0)
    s.hub.isOpen 0 = true ∧ s.hub.isCancelled 0 = false ∧ s.hub.hasEnded 0 = true ∧
      (pulled.polls = [.id "first"] ∧ pulled.released.closes 0 = 1 ∧
        pulled.released.count 0 = 0 ∧ pulled.released.unread 0 = [other, second]) := by
  intro first other second actions s pulled
  let source : Source := ⟨[other, first, other, second], true, some Source.closeFailure, 0⟩
  let t : Subscription := ⟨paidInvoicesChannel, 0, 0, true, source⟩
  have ht : s.hub.streams[0]? = some t := rfl
  obtain ⟨-, -, -, -, hcloses, hcounts, -, hfirst, -⟩ :=
    adapter_agrees_with_waits 0 actions 0 t ht rfl rfl rfl (fun _ => true) [fun _ => true]
  have hids : idsIn t.topic t.source.queue = ["first", "second"] := by decide
  have htaken : through t.topic [fun _ : ℕ => true].length t.source.queue = [other, first] := by
    decide
  rw [hids, htaken] at hfirst
  obtain ⟨hpolls, hqueue⟩ := hfirst (by decide)
  have hcount : pulled.released.count 0 + 1 = 1 := hcounts 0
  have hleft : [other, first] ++ [other, second] = [other, first] ++ pulled.released.unread 0 :=
    hqueue
  exact ⟨rfl, rfl, rfl, hpolls, hcloses, Nat.succ.inj hcount,
    (List.append_cancel_left hleft).symm⟩

end Session

end LightningDeposit
