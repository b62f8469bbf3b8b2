import LightningDeposit.Proofs.Stream.Turns
import LightningDeposit.Proofs.World.Session

/-!
Waits on cancelled streams, in every session. While no id is to be found, the turns of the wait may
go to the cancellation or to the messages in any order: the wait is over within one turn more than
there are messages, and what it leaves behind is the same but for the messages not taken.
-/

namespace LightningDeposit

namespace Subscription

variable {s : Subscription}

/-- A wait on an open cancelled stream without ids, whichever way its turns go. -/
theorem next_of_cancelled (hopen : s.isOpen = true)
    (hnone : idsIn s.topic s.source.queue = []) (cancelFirst : ℕ → Bool) :
    ∃ turns taken left, turns ≤ s.source.queue.length + 1 ∧ s.source.queue = taken ++ left ∧
      OverAfter true turns cancelFirst s .finished
        { s with source := { s.source with queue := left } }.shut ∧
      s.next true cancelFirst =
        (.finished, { s with source := { s.source with queue := left } }.shut) := by
  obtain ⟨turns, hturns, hover⟩ := next_overAfter hopen true cancelFirst
  obtain ⟨hpoll, taken, left, hsplit, hshut⟩ := hover.of_cancelled hnone
  rw [hpoll, hshut] at hover
  exact ⟨turns, taken, left, hturns, hsplit, hover, Prod.ext hpoll hshut⟩

/-- Among the calls of a wait that ends a stream there is one that closes its source. -/
theorem count_close_nextLog (hopen : s.isOpen = true) {cancelled : Bool} {cancelFirst : ℕ → Bool}
    (hends : (s.next cancelled cancelFirst).2.isOpen = false) :
    (s.nextLog cancelled cancelFirst).1.count .close = 1 := by
  obtain ⟨waits, hwaits, hcalls, -, -⟩ := next_of_open hopen cancelled cancelFirst
  rw [hcalls, hends, List.count_append, List.count_eq_zero.mpr hwaits]
  rfl

end Subscription

namespace Session

/-- A cancelled stream ends the same way whichever way its turns go. In every session, a wait on an
open stream that is cancelled and has no id to find is over after at most one turn more than there
are messages, whether or not more can come. It comes to nothing, closes the source once and the
stream with it, takes one from the stream's counter and from no other, leaves the last of the
messages, and touches no other stream. -/
theorem cancelled_wait_ends_alike (clock : ℕ) (actions : List Action) :
    let s := (start clock).run actions
    ∀ (stream : ℕ) (t : Subscription), s.hub.streams[stream]? = some t → t.isOpen = true →
      s.hub.isCancelled t.scope = true → idsIn t.topic t.source.queue = [] →
      ∀ cancelFirst : ℕ → Bool,
        let after := (s.hub.next stream cancelFirst).2
        (∃ turns u, turns ≤ t.source.queue.length + 1 ∧
          t.OverAfter true turns cancelFirst .finished u ∧ after.streams[stream]? = some u) ∧
        (s.hub.next stream cancelFirst).1 = .finished ∧
        (s.hub.note stream (.on stream (.next cancelFirst))).calls.count .close = 1 ∧
        after.closes stream = s.hub.closes stream + 1 ∧
        after.isOpen stream = false ∧
        (∀ counter, after.count counter + (if counter = t.counter then 1 else 0) =
          s.hub.count counter) ∧
        after.unread stream <:+ t.source.queue ∧
        ∀ other ≠ stream, after.streams[other]? = s.hub.streams[other]? := by
  intro s stream t ht hopen hcancelled hnone cancelFirst after
  have hs : s.Sound := run_sound (start_sound clock) actions
  obtain ⟨turns, taken, left, hturns, hsplit, hover, hnext⟩ :=
    Subscription.next_of_cancelled hopen hnone cancelFirst
  generalize hu : { t with source := { t.source with queue := left } }.shut = u at hover hnext
  have hclosed : u.isOpen = false := by
    rw [← hu]
    rfl
  have hwait : s.hub.next stream cancelFirst = (.finished, s.hub.update stream t u) := by
    simp only [Hub.next, ht, hcancelled, hnext]
  have hafter : after = s.hub.update stream t u := congrArg Prod.snd hwait
  obtain ⟨hget, hothers⟩ := Hub.getElem?_update ht u
  rw [← hafter] at hget hothers
  refine ⟨⟨turns, u, hturns, hover, hget⟩, congrArg Prod.fst hwait, ?_, ?_, ?_, ?_, ?_, hothers⟩
  · have hends : (t.next true cancelFirst).2.isOpen = false := by
      rw [hnext]
      exact hclosed
    simp only [Hub.note, ht, Hub.Action.on?, ↓reduceIte, Subscription.note, hcancelled]
    exact Subscription.count_close_nextLog hopen hends
  · rw [Hub.closes_of_getElem? hget, Hub.closes_of_getElem? ht, ← hu]
    rfl
  · rw [Hub.isOpen_of_getElem? hget, hclosed]
  · intro counter
    rw [hafter]
    exact hs.counted.count_update_of_ends ht hopen hclosed counter
  · rw [Hub.unread_of_getElem? hget, ← hu, hsplit]
    exact List.suffix_append taken left

/-- Two messages of another channel, and a choice that falls on the cancellation at the second turn:
one message is left. -/
theorem cancelled_wait_at_second_turn :
    let m : Message := ⟨"other", "id".toUTF8⟩
    let actions : List Action := [.newScope, .newCounter,
      .subscribe paidInvoicesChannel 0 0 (.subscribed true), .on 0 (.publish m),
      .on 0 (.publish m), .on 0 .finish, .cancel 0]
    let s := (start 0).run actions
    s.hub.isOpen 0 = true ∧ s.hub.isCancelled 0 = true ∧
      ((s.hub.next 0 fun turn => turn == 1).2.isOpen 0 = false ∧
        (s.hub.next 0 fun turn => turn == 1).2.closes 0 = 1) := by
  intro m actions s
  let source : Source := ⟨[m, m], true, some Source.closeFailure, 0⟩
  let t : Subscription := ⟨paidInvoicesChannel, 0, 0, true, source⟩
  have ht : s.hub.streams[0]? = some t := rfl
  have hnone : idsIn t.topic t.source.queue = [] := by
    simp [t, source, m, idsIn, paidInvoicesChannel]
  obtain ⟨-, -, -, hcloses, hclosed, -⟩ :=
    cancelled_wait_ends_alike 0 actions 0 t ht rfl rfl hnone fun turn => turn == 1
  exact ⟨rfl, rfl, hclosed, hcloses⟩

end Session

end LightningDeposit
