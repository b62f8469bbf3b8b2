import LightningDeposit.Proofs.Stream.Run

/-!
Closing the source of a stream. While a stream is open its source is not closed; it is closed once,
at the moment when the stream ends, however it ends and whether or not closing succeeds, and after
that nothing is asked of it.
-/

namespace LightningDeposit

/-- Nothing has been seen of a stream but waits that were over at once. -/
def Journal.Silent (j : Journal) : Prop :=
  j.calls = [] ∧ ∀ poll ∈ j.polls, poll = .finished

/-- The source has been asked for messages while the stream was open, and closed once if it is not
open any more, as its last call. -/
structure Subscription.Released (source : Source) (s : Subscription) (j : Journal) : Prop where
  calls : ∃ waits, .close ∉ waits ∧ j.calls = waits ++ if s.isOpen then [] else [.close]
  closes : s.source.closes = source.closes + if s.isOpen then 0 else 1
  closeError : s.source.closeError = source.closeError

namespace Subscription

variable {s : Subscription} {cancelled : Bool} {action : StreamAction}

theorem note_of_closed (h : s.isOpen = false) (cancelled : Bool) (action : StreamAction) :
    (s.note cancelled action).Silent := by
  cases action with
  | publish m => exact ⟨rfl, fun poll hmem => by cases hmem⟩
  | finish => exact ⟨rfl, fun poll hmem => by cases hmem⟩
  | next cancelFirst =>
    refine ⟨by simp [note, nextLog, h], fun poll hmem => ?_⟩
    rw [note, next_of_closed h] at hmem
    exact List.mem_singleton.mp hmem
  | close => exact ⟨by simp [note, h], fun poll hmem => by cases hmem⟩
  | drop canClose => exact ⟨by simp [note, h], fun poll hmem => by cases hmem⟩

/-- A stream that is closed stays closed, and its source is not closed again. -/
theorem after_of_closed (h : s.isOpen = false) (cancelled : Bool) (action : StreamAction) :
    (s.after cancelled action).isOpen = false ∧
      (s.after cancelled action).source.closes = s.source.closes := by
  cases action with
  | publish m => exact ⟨h, rfl⟩
  | finish => exact ⟨h, rfl⟩
  | next cancelFirst =>
    rw [after, next_of_closed h]
    exact ⟨h, rfl⟩
  | close => simp [after, h]
  | drop canClose => simp [after, h]

/-- A wait on an open stream: the source is closed after the last call if it comes to nothing, and
otherwise the stream stays open. -/
theorem next_of_open (h : s.isOpen = true) (cancelled : Bool) (cancelFirst : ℕ → Bool) :
    let poll := (s.next cancelled cancelFirst).1
    let t := (s.next cancelled cancelFirst).2
    ∃ waits, .close ∉ waits ∧
      (s.nextLog cancelled cancelFirst).1 = waits ++ (if t.isOpen then [] else [.close]) ∧
      t.source.closes = s.source.closes + (if t.isOpen then 0 else 1) ∧
      (t.isOpen = false ↔ poll = .finished) := by
  have hspec := pollLog_spec s.topic cancelled s.source.ended cancelFirst s.source.queue
  simp only [← nextLog_snd]
  unfold nextLog
  rw [if_pos h]
  by_cases hfinished :
      (pollLog s.topic cancelled s.source.ended cancelFirst s.source.queue).2.1 = .finished
  · simp only [hfinished, ↓reduceIte]
    exact ⟨_, hspec.2.1, rfl, rfl, iff_of_true rfl trivial⟩
  · simp only [hfinished, ↓reduceIte]
    exact ⟨_, hspec.2.1, by simp [h], by simp [h], by simp [h]⟩

theorem note_of_open (h : s.isOpen = true) (cancelled : Bool) (haction : action ≠ .drop false) :
    ∃ waits, .close ∉ waits ∧ (s.note cancelled action).calls =
        waits ++ (if (s.after cancelled action).isOpen then [] else [.close]) ∧
      (s.after cancelled action).source.closes =
        s.source.closes + (if (s.after cancelled action).isOpen then 0 else 1) := by
  cases action with
  | publish m => exact ⟨[], by simp, by simp [note, after, h], by simp [after, h, Source.publish]⟩
  | finish =>
    exact ⟨[], by simp, by simp [note, after, h, Journal.empty], by simp [after, h, Source.finish]⟩
  | next cancelFirst =>
    obtain ⟨waits, hwaits, hcalls, hcloses, -⟩ := next_of_open h cancelled cancelFirst
    exact ⟨waits, hwaits, hcalls, hcloses⟩
  | close =>
    exact ⟨[], by simp, by simp [note, after, h, shut], by simp [after, h, shut, Source.close]⟩
  | drop canClose =>
    cases canClose with
    | false => exact absurd rfl haction
    | true =>
      exact ⟨[], by simp, by simp [note, after, h, shut], by simp [after, h, shut, Source.close]⟩

/-- Every action keeps to the rule, but leaving the source without closing it. -/
theorem Released.after {source : Source} {j : Journal} (hs : s.Released source j)
    (cancelled : Bool) (haction : action ≠ .drop false) :
    (s.after cancelled action).Released source (j.append (s.note cancelled action)) := by
  obtain ⟨⟨waits, hwaits, hcalls⟩, hcloses, hfails⟩ := hs
  have hkept := (s.after_keeps cancelled action).2.2.2.trans hfails
  cases hopen : s.isOpen with
  | false =>
    obtain ⟨hclosed, hsame⟩ := after_of_closed hopen cancelled action
    have hsilent := (note_of_closed hopen cancelled action).1
    rw [hopen] at hcalls hcloses
    refine ⟨⟨waits, hwaits, ?_⟩, ?_, hkept⟩
    · rw [Journal.append, hsilent, List.append_nil, hclosed]
      exact hcalls
    · rw [hsame, hclosed]
      exact hcloses
  | true =>
    obtain ⟨more, hmore, hnote, hclosed⟩ := note_of_open hopen cancelled haction
    rw [hopen] at hcalls hcloses
    refine ⟨⟨waits ++ more, ?_, ?_⟩, ?_, hkept⟩
    · rw [List.mem_append]
      exact not_or_intro hwaits hmore
    · rw [Journal.append, hcalls, hnote]
      simp
    · rw [hclosed, hcloses]
      simp

end Subscription

namespace Hub

variable {h : Hub} {stream : ℕ} {s : Subscription}

/-- A stream that has ended stays so, and nothing is seen of it any more, whatever is done. -/
theorem run_of_closed (hs : h.streams[stream]? = some s) (hclosed : s.isOpen = false)
    (actions : List Action) :
    (h.run actions).isOpen stream = false ∧ (h.journal stream actions).Silent := by
  have hkeep (s : Subscription) (j : Journal) (cancelled : Bool) (action : StreamAction)
      (_ : True) (hP : s.isOpen = false ∧ j.Silent) :
      (s.after cancelled action).isOpen = false ∧ (j.append (s.note cancelled action)).Silent := by
    obtain ⟨hclosed, hcalls, hpolls⟩ := hP
    obtain ⟨hnone, hover⟩ := Subscription.note_of_closed hclosed cancelled action
    refine ⟨(Subscription.after_of_closed hclosed cancelled action).1, ?_, ?_⟩
    · rw [Journal.append, hcalls, hnone]
      rfl
    · intro poll hmem
      exact (List.mem_append.mp hmem).elim (hpolls poll) (hover poll)
  have hfirst : s.isOpen = false ∧ Journal.empty.Silent :=
    ⟨hclosed, rfl, fun poll hmem => by cases hmem⟩
  obtain ⟨t, ht, hopen, hsilent⟩ := run_journal hkeep hs hfirst actions fun _ _ => trivial
  rw [isOpen_of_getElem? ht]
  exact ⟨hopen, hsilent⟩

/-- After every run in which the stream is not left without closing, its source is released. -/
theorem run_released (h : Hub) (topic : String) (scope counter : ℕ) (source : Source)
    {actions : List Action} (hdrops : .on h.streams.length (.drop false) ∉ actions) :
    let start := (h.subscribe topic scope counter source).2
    ∃ t, (start.run actions).streams[h.streams.length]? = some t ∧
      t.Released source (start.journal h.streams.length actions) := by
  intro start
  have hfirst : Subscription.Released source ⟨topic, scope, counter, true, source⟩ .empty :=
    ⟨⟨[], by simp, rfl⟩, rfl, rfl⟩
  refine run_journal (fun s j cancelled action haction hP => hP.after cancelled haction)
    (subscribe_streams h topic scope counter source) hfirst actions ?_
  rintro action hmem rfl
  exact hdrops hmem

theorem isOpen_on (hs : h.streams[stream]? = some s) (action : StreamAction) :
    (h.step (.on stream action)).isOpen stream =
      (s.after (h.isCancelled s.scope) action).isOpen := by
  have hstep := step_streams hs (.on stream action)
  rw [isOpen_of_getElem? hstep, Action.on?, if_pos rfl, Option.elim_some]

/-- Closing a stream that is open says what its source says. -/
theorem close_result (hs : h.streams[stream]? = some s) : (h.close stream).1 =
    if s.isOpen then s.source.closeError.elim (.ok ()) .error else .ok () := by
  simp only [close, hs]
  split <;> rfl

/-- A wait comes to nothing exactly when the stream has ended by then, whatever closing its source
comes to. -/
theorem next_eq_finished_iff (hs : h.streams[stream]? = some s) (cancelFirst : ℕ → Bool) :
    (h.next stream cancelFirst).1 = .finished ↔
      (h.next stream cancelFirst).2.isOpen stream = false := by
  have hafter := isOpen_on hs (.next cancelFirst)
  rw [step] at hafter
  rw [hafter]
  simp only [next, hs, Subscription.after]
  cases hopen : s.isOpen with
  | false =>
    rw [Subscription.next_of_closed hopen]
    exact iff_of_true rfl hopen
  | true =>
    obtain ⟨-, -, -, -, hends⟩ := Subscription.next_of_open hopen (h.isCancelled s.scope) cancelFirst
    exact hends.symm

/-- The source of a stream is closed exactly once, as the last that is asked of it, at the moment
when the stream ends: by a wait that comes to nothing, by closing it or by letting go of it. From
then on every wait comes to nothing and nothing is asked of the source. A source that fails to close
is reported by closing the stream, and makes no other difference. -/
theorem closed_once_for_good (h : Hub) (topic : String) (scope counter : ℕ) (source : Source)
    (actions : List Action) (hdrops : .on h.streams.length (.drop false) ∉ actions) :
    let stream := h.streams.length
    let start := (h.subscribe topic scope counter source).2
    let reached := start.run actions
    start.isOpen stream = true ∧
    (∃ waits, .close ∉ waits ∧ (start.journal stream actions).calls =
      waits ++ if reached.isOpen stream then [] else [.close]) ∧
    reached.closes stream = source.closes + (if reached.isOpen stream then 0 else 1) ∧
    (∀ cancelFirst, (reached.next stream cancelFirst).1 = .finished ↔
      (reached.next stream cancelFirst).2.isOpen stream = false) ∧
    (reached.close stream).2.isOpen stream = false ∧
    (reached.drop stream true).isOpen stream = false ∧
    (reached.isOpen stream = false → ∀ later,
      (reached.run later).isOpen stream = false ∧ (reached.journal stream later).Silent) ∧
    (reached.close stream).1 =
      if reached.isOpen stream then source.closeError.elim (.ok ()) .error else .ok () := by
  intro stream start reached
  obtain ⟨t, ht, ⟨hcalls, hcloses, hfails⟩⟩ := run_released h topic scope counter source hdrops
  have hopen : reached.isOpen stream = t.isOpen := isOpen_of_getElem? ht
  refine ⟨isOpen_of_getElem? (subscribe_streams h topic scope counter source), ?_, ?_,
    next_eq_finished_iff ht, ?_, ?_, ?_, ?_⟩
  · rw [hopen]
    exact hcalls
  · rw [hopen, closes_of_getElem? ht]
    exact hcloses
  · have hclose := isOpen_on ht .close
    rw [step] at hclose
    rw [hclose]
    cases hlast : t.isOpen <;> simp [Subscription.after, Subscription.shut, hlast]
  · have hdrop := isOpen_on ht (.drop true)
    rw [step] at hdrop
    rw [hdrop]
    cases hlast : t.isOpen <;> simp [Subscription.after, Subscription.shut, hlast]
  · intro hclosed later
    rw [hopen] at hclosed
    exact run_of_closed ht hclosed later
  · rw [hopen, ← hfails]
    exact close_result ht

/-- A source that cannot be closed, a wait at its end and another one, and letting go of the stream:
still it is closed once. -/
theorem closed_once_though_closing_fails :
    let start := (Hub.empty.subscribe paidInvoicesChannel 0 0 (.subscribed true)).2
    let actions : List Action := [.on 0 .finish, .on 0 (.next fun _ => false),
      .on 0 (.next fun _ => false), .on 0 (.drop true)]
    .on 0 (.drop false) ∉ actions ∧ (start.run actions).isOpen 0 = false ∧
      (start.run actions).closes 0 = 1 := by
  intro start actions
  have hdrops : .on 0 (.drop false) ∉ actions := by simp [actions]
  have hclosed : (start.run actions).isOpen 0 = false := rfl
  obtain ⟨-, -, hcloses, -⟩ := closed_once_for_good Hub.empty paidInvoicesChannel 0 0
    (.subscribed true) actions hdrops
  refine ⟨hdrops, hclosed, ?_⟩
  rw [show (start.run actions).closes 0 = _ from hcloses]
  rfl

end Hub

end LightningDeposit
