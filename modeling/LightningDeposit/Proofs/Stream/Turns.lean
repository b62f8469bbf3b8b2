import LightningDeposit.Proofs.Stream.Delivery

/-!
Waiting turn by turn. A turn looks at the cancellation or takes a message; it ends the wait, or there
is another turn. A wait is the run of its turns, at most one more than there are messages. On a
cancelled stream without ids each turn may go either way, and every choice leads to the same end: the
stream is closed once, with some of the last messages left.
-/

namespace LightningDeposit

namespace Subscription

/-- One turn of a wait on an open stream. Without an answer there is another one. Of a cancellation
and a message that are both there, `cancelFirst` says which is looked at. -/
def turn (s : Subscription) (cancelled cancelFirst : Bool) : Option Poll × Subscription :=
  match s.source.queue with
  | [] => if cancelled || s.source.ended then (some .finished, s.shut) else (some .waiting, s)
  | m :: rest =>
    if cancelled && cancelFirst then (some .finished, s.shut)
    else
      ((m.checkingId? s.topic).map .id, { s with source := { s.source with queue := rest } })

/-- The wait is over after that many turns, with this result and this stream. -/
inductive OverAfter (cancelled : Bool) :
    ℕ → (ℕ → Bool) → Subscription → Poll → Subscription → Prop
  | last {cancelFirst : ℕ → Bool} {s t : Subscription} {poll : Poll}
    (h : s.turn cancelled (cancelFirst 0) = (some poll, t)) :
    OverAfter cancelled 1 cancelFirst s poll t
  | again {turns : ℕ} {cancelFirst : ℕ → Bool} {s s' t : Subscription} {poll : Poll}
    (h : s.turn cancelled (cancelFirst 0) = (none, s'))
    (hrest : OverAfter cancelled turns (fun turn => cancelFirst (turn + 1)) s' poll t) :
    OverAfter cancelled (turns + 1) cancelFirst s poll t

variable {s s' t : Subscription} {cancelled : Bool} {cancelFirst : ℕ → Bool} {poll : Poll}
  {turns : ℕ}

/-- A turn after which there is another one has taken a message and changed nothing else. -/
theorem turn_eq_none {first : Bool} (h : s.turn cancelled first = (none, s')) :
    s'.isOpen = s.isOpen ∧ ∃ m rest, s.source.queue = m :: rest ∧
      m.checkingId? s.topic = none ∧
      s' = { s with source := { s.source with queue := rest } } := by
  unfold turn at h
  split at h
  · split at h <;> cases h
  next m rest hqueue =>
    split at h
    · cases h
    · obtain ⟨hid, rfl⟩ := Prod.mk.inj h
      exact ⟨rfl, m, rest, hqueue, Option.map_eq_none_iff.mp hid, rfl⟩

/-- A wait begins with a turn and goes on with the wait that is left. -/
theorem next_eq_turn (hopen : s.isOpen = true) (cancelled : Bool) (cancelFirst : ℕ → Bool) :
    s.next cancelled cancelFirst =
      match s.turn cancelled (cancelFirst 0) with
      | (some poll, t) => (poll, t)
      | (none, t) => t.next cancelled fun turn => cancelFirst (turn + 1) := by
  obtain ⟨topic, scope, counter, isOpen, queue, ended, closeError, closes⟩ := s
  obtain rfl : isOpen = true := hopen
  cases queue with
  | nil => cases cancelled <;> cases ended <;> rfl
  | cons m rest =>
    by_cases hfirst : (cancelled && cancelFirst 0) = true
    · simp [next, turn, pollQueue, hfirst]
    · cases hid : m.checkingId? topic <;> simp [next, turn, pollQueue, hfirst, hid]

/-- A wait is over after some turns, at most one more than there are messages. -/
theorem next_overAfter (hopen : s.isOpen = true) (cancelled : Bool) (cancelFirst : ℕ → Bool) :
    ∃ turns ≤ s.source.queue.length + 1, OverAfter cancelled turns cancelFirst s
      (s.next cancelled cancelFirst).1 (s.next cancelled cancelFirst).2 := by
  induction hlength : s.source.queue.length using Nat.strong_induction_on
    generalizing s cancelFirst with
  | h length ih =>
    rw [next_eq_turn hopen]
    cases hturn : s.turn cancelled (cancelFirst 0) with
    | mk answer t =>
      cases answer with
      | some poll => exact ⟨1, by omega, .last hturn⟩
      | none =>
        obtain ⟨hsame, m, rest, hqueue, -, rfl⟩ := turn_eq_none hturn
        have hshorter : length = rest.length + 1 := by rw [← hlength, hqueue, List.length_cons]
        obtain ⟨turns, hturns, hover⟩ := ih rest.length (by omega) (hsame.trans hopen)
          (fun turn => cancelFirst (turn + 1)) rfl
        exact ⟨turns + 1, by omega, .again hturn hover⟩

/-- A turn on a cancelled stream without ids closes it, or passes over one message. -/
theorem turn_of_cancelled (hnone : idsIn s.topic s.source.queue = []) (first : Bool) :
    s.turn true first = (some .finished, s.shut) ∨ ∃ m rest, s.source.queue = m :: rest ∧
      idsIn s.topic rest = [] ∧
      s.turn true first = (none, { s with source := { s.source with queue := rest } }) := by
  unfold turn
  cases hqueue : s.source.queue with
  | nil => exact .inl rfl
  | cons m rest =>
    rw [hqueue, idsIn_cons, List.append_eq_nil_iff, Option.toList_eq_nil_iff] at hnone
    obtain ⟨hid, hrest⟩ := hnone
    cases first with
    | true => exact .inl rfl
    | false => exact .inr ⟨m, rest, rfl, hrest, by simp [hid]⟩

/-- Whichever way the turns go, a wait on a cancelled stream without ids closes the stream once, and
leaves the last of its messages. -/
theorem OverAfter.of_cancelled (h : OverAfter true turns cancelFirst s poll t)
    (hnone : idsIn s.topic s.source.queue = []) :
    poll = .finished ∧ ∃ taken left, s.source.queue = taken ++ left ∧
      t = { s with source := { s.source with queue := left } }.shut := by
  induction h with
  | last hturn =>
    rcases turn_of_cancelled hnone _ with hover | ⟨m, rest, -, -, hagain⟩
    · rw [hover] at hturn
      cases hturn
      exact ⟨rfl, [], _, rfl, rfl⟩
    · rw [hagain] at hturn
      cases hturn
  | again hturn _ ih =>
    rcases turn_of_cancelled hnone _ with hover | ⟨m, rest, hqueue, hrest, hagain⟩
    · rw [hover] at hturn
      cases hturn
    · rw [hagain] at hturn
      cases hturn
      obtain ⟨hpoll, taken, left, hsplit, ht⟩ := ih hrest
      refine ⟨hpoll, m :: taken, left, ?_, ht⟩
      rw [hqueue, List.cons_append]
      exact congrArg (m :: ·) hsplit

end Subscription

end LightningDeposit
