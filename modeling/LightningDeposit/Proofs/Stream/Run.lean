import LightningDeposit.Proofs.Stream.Polling
import LightningDeposit.Stream.Hub
import Mathlib.Data.List.Count

/-!
Streams at work. A run is any sequence of actions on a hub; a stream in it is touched only by the
actions on it, and its journal holds what there is to see of it: the calls to its source, what its
waits came to, and the messages that were published to it. What holds of a stream and its journal at
first and is kept by every action on it holds after every run.
-/

namespace LightningDeposit

/-- What is done with one stream and its source. -/
inductive StreamAction where
  | publish (m : Message)
  | finish
  | next (cancelFirst : ℕ → Bool)
  | close
  | drop (canClose : Bool)

def Poll.id? : Poll → Option String
  | .id checkingId => some checkingId
  | _ => none

/-- What there is to see of a stream. -/
structure Journal where
  calls : List SourceCall
  polls : List Poll
  published : List Message

namespace Journal

def empty : Journal := ⟨[], [], []⟩

def append (first rest : Journal) : Journal :=
  ⟨first.calls ++ rest.calls, first.polls ++ rest.polls, first.published ++ rest.published⟩

theorem append_empty (j : Journal) : j.append empty = j := by
  simp [append, empty]

theorem append_assoc (j k l : Journal) : (j.append k).append l = j.append (k.append l) := by
  simp [append]

/-- The ids that waits came to. -/
def ids (j : Journal) : List String :=
  j.polls.filterMap Poll.id?

theorem ids_append (j k : Journal) : (j.append k).ids = j.ids ++ k.ids :=
  List.filterMap_append

end Journal

namespace Subscription

/-- A stream after an action on it, while it is cancelled or not. -/
def after (cancelled : Bool) (s : Subscription) : StreamAction → Subscription
  | .publish m => { s with source := s.source.publish m }
  | .finish => { s with source := s.source.finish }
  | .next cancelFirst => (s.next cancelled cancelFirst).2
  | .close => if s.isOpen then s.shut else s
  | .drop canClose => if s.isOpen then (if canClose then s.shut else s.abandon) else s

/-- What there is to see of an action on a stream. -/
def note (cancelled : Bool) (s : Subscription) : StreamAction → Journal
  | .publish m => ⟨[], [], [m]⟩
  | .finish => .empty
  | .next cancelFirst =>
    ⟨(s.nextLog cancelled cancelFirst).1, [(s.next cancelled cancelFirst).1], []⟩
  | .close => ⟨if s.isOpen then [.close] else [], [], []⟩
  | .drop canClose => ⟨if s.isOpen && canClose then [.close] else [], [], []⟩

/-- Whatever is done with a stream, it stays the same stream over the same source. -/
theorem after_keeps (s : Subscription) (cancelled : Bool) (action : StreamAction) :
    (s.after cancelled action).topic = s.topic ∧ (s.after cancelled action).scope = s.scope ∧
      (s.after cancelled action).counter = s.counter ∧
      (s.after cancelled action).source.closeError = s.source.closeError := by
  cases action with
  | publish m => exact ⟨rfl, rfl, rfl, rfl⟩
  | finish => exact ⟨rfl, rfl, rfl, rfl⟩
  | next cancelFirst =>
    simp only [after, next]
    split
    · split <;> exact ⟨rfl, rfl, rfl, rfl⟩
    · exact ⟨rfl, rfl, rfl, rfl⟩
  | close =>
    simp only [after]
    split <;> exact ⟨rfl, rfl, rfl, rfl⟩
  | drop canClose =>
    simp only [after]
    split
    · cases canClose <;> exact ⟨rfl, rfl, rfl, rfl⟩
    · exact ⟨rfl, rfl, rfl, rfl⟩

end Subscription

namespace Hub

inductive Action where
  | newScope
  | newCounter
  | cancel (scope : ℕ)
  | subscribe (topic : String) (scope counter : ℕ) (source : Source)
  | on (stream : ℕ) (action : StreamAction)

def step (h : Hub) : Action → Hub
  | .newScope => h.newScope.2
  | .newCounter => h.newCounter.2
  | .cancel scope => h.cancel scope
  | .subscribe topic scope counter source => (h.subscribe topic scope counter source).2
  | .on stream (.publish m) => h.publish stream m
  | .on stream .finish => h.finishSource stream
  | .on stream (.next cancelFirst) => (h.next stream cancelFirst).2
  | .on stream .close => (h.close stream).2
  | .on stream (.drop canClose) => h.drop stream canClose

def run (h : Hub) (actions : List Action) : Hub :=
  actions.foldl step h

@[simp]
theorem run_nil (h : Hub) : h.run [] = h := rfl

@[simp]
theorem run_cons (h : Hub) (a : Action) (rest : List Action) :
    h.run (a :: rest) = (h.step a).run rest := rfl

def isOpen (h : Hub) (stream : ℕ) : Bool :=
  h.streams[stream]?.any Subscription.isOpen

/-- The messages that a stream has not taken. -/
def unread (h : Hub) (stream : ℕ) : List Message :=
  h.streams[stream]?.elim [] fun s => s.source.queue

/-- Nothing more comes from the source of a stream but what is there. -/
def hasEnded (h : Hub) (stream : ℕ) : Bool :=
  h.streams[stream]?.any fun s => s.source.ended

/-- How often the source of a stream has been closed. -/
def closes (h : Hub) (stream : ℕ) : ℕ :=
  h.streams[stream]?.elim 0 fun s => s.source.closes

/-- What an action on a hub does to one stream. -/
def Action.on? (stream : ℕ) : Action → Option StreamAction
  | .on other action => if other = stream then some action else none
  | _ => none

/-- What there is to see of a stream in one action on the hub. -/
def note (h : Hub) (stream : ℕ) (a : Action) : Journal :=
  match h.streams[stream]?, a.on? stream with
  | some s, some action => s.note (h.isCancelled s.scope) action
  | _, _ => .empty

/-- What there is to see of a stream along a run. -/
def journal (h : Hub) (stream : ℕ) : List Action → Journal
  | [] => .empty
  | a :: rest => (h.note stream a).append ((h.step a).journal stream rest)

variable {h : Hub} {stream : ℕ} {s : Subscription}

theorem isOpen_of_getElem? (hs : h.streams[stream]? = some s) : h.isOpen stream = s.isOpen := by
  simp [isOpen, hs]

theorem unread_of_getElem? (hs : h.streams[stream]? = some s) :
    h.unread stream = s.source.queue := by
  simp [unread, hs]

theorem hasEnded_of_getElem? (hs : h.streams[stream]? = some s) :
    h.hasEnded stream = s.source.ended := by
  simp [hasEnded, hs]

theorem closes_of_getElem? (hs : h.streams[stream]? = some s) :
    h.closes stream = s.source.closes := by
  simp [closes, hs]

theorem getElem?_streams_modify (hs : h.streams[stream]? = some s)
    (f : Subscription → Subscription) : h.streams.modify stream f = h.streams.set stream (f s) := by
  rw [List.modify_eq_set_getElem?, hs]
  rfl

/-- Putting a stream back as open as it was counts nothing. -/
theorem update_of_isOpen_eq {t : Subscription} (ht : t.isOpen = s.isOpen) :
    h.update stream s t = { h with streams := h.streams.set stream t } := by
  cases hopen : s.isOpen <;> simp [update, ht, hopen]

theorem update_self (hs : h.streams[stream]? = some s) : h.update stream s s = h := by
  obtain ⟨hlt, hget⟩ := List.getElem?_eq_some_iff.mp hs
  rw [update_of_isOpen_eq rfl, ← hget, List.set_getElem_self]

theorem getElem?_update (hs : h.streams[stream]? = some s) (t : Subscription) :
    (h.update stream s t).streams[stream]? = some t ∧
      ∀ other ≠ stream, (h.update stream s t).streams[other]? = h.streams[other]? := by
  constructor
  · exact List.getElem?_set_self (List.getElem?_eq_some_iff.mp hs).1
  · intro other hother
    exact List.getElem?_set_ne hother.symm

/-- Whatever is done with a stream, it is put back as it is after that. -/
theorem step_on (hs : h.streams[stream]? = some s) (action : StreamAction) :
    h.step (.on stream action) =
      h.update stream s (s.after (h.isCancelled s.scope) action) := by
  have hself : h.update stream s s = h := update_self hs
  cases action with
  | publish m =>
    have hopen : (s.after (h.isCancelled s.scope) (.publish m)).isOpen = s.isOpen := rfl
    rw [update_of_isOpen_eq hopen, step, publish, getElem?_streams_modify hs]
    rfl
  | finish =>
    have hopen : (s.after (h.isCancelled s.scope) .finish).isOpen = s.isOpen := rfl
    rw [update_of_isOpen_eq hopen, step, finishSource, getElem?_streams_modify hs]
    rfl
  | next cancelFirst => simp only [step, next, hs, Subscription.after]
  | close =>
    simp only [step, close, hs, Subscription.after]
    split
    · rfl
    · exact hself.symm
  | drop canClose =>
    simp only [step, drop, hs, Subscription.after]
    split
    · rfl
    · exact hself.symm

theorem step_on_none (hs : h.streams[stream]? = none) (action : StreamAction) :
    h.step (.on stream action) = h := by
  have hlength : h.streams.length ≤ stream := List.getElem?_eq_none_iff.mp hs
  cases action with
  | publish m => simp only [step, publish, List.modify_eq_self hlength]
  | finish => simp only [step, finishSource, List.modify_eq_self hlength]
  | next cancelFirst => simp only [step, next, hs]
  | close => simp only [step, close, hs]
  | drop canClose => simp only [step, drop, hs]

/-- A stream is touched by the actions on it and by no others. -/
theorem step_streams (hs : h.streams[stream]? = some s) (a : Action) :
    (h.step a).streams[stream]? = some
      ((a.on? stream).elim s (s.after (h.isCancelled s.scope))) := by
  have hlt : stream < h.streams.length := (List.getElem?_eq_some_iff.mp hs).1
  cases a with
  | newScope => exact hs
  | newCounter => exact hs
  | cancel scope => exact hs
  | subscribe topic scope counter source =>
    simp only [step, subscribe, Action.on?, Option.elim_none]
    rw [List.getElem?_append_left hlt, hs]
  | on other action =>
    by_cases heq : other = stream
    · subst heq
      simp only [step_on hs, update, Action.on?, ↓reduceIte, Option.elim_some]
      exact List.getElem?_set_self hlt
    · have hother : (h.step (.on other action)).streams[stream]? = h.streams[stream]? := by
        cases ht : h.streams[other]? with
        | none => rw [step_on_none ht]
        | some t =>
          rw [step_on ht, update]
          exact List.getElem?_set_ne heq
      simp only [hother, hs, Action.on?, heq, ↓reduceIte, Option.elim_none]

/-- What holds of a stream and its journal and is kept by every action on the stream holds after
every run of such actions, whatever else is done in between. -/
theorem run_journal {P : Subscription → Journal → Prop} {Allowed : StreamAction → Prop}
    (hkeep : ∀ s j cancelled action, Allowed action → P s j →
      P (s.after cancelled action) (j.append (s.note cancelled action)))
    (hs : h.streams[stream]? = some s) {j : Journal} (hP : P s j) (actions : List Action)
    (hallowed : ∀ action, .on stream action ∈ actions → Allowed action) :
    ∃ t, (h.run actions).streams[stream]? = some t ∧ P t (j.append (h.journal stream actions)) := by
  induction actions generalizing h s j with
  | nil => exact ⟨s, hs, by rwa [journal, Journal.append_empty]⟩
  | cons a rest ih =>
    have hstep := step_streams hs a
    have hrest : ∀ action, .on stream action ∈ rest → Allowed action :=
      fun action hmem => hallowed action (List.mem_cons_of_mem _ hmem)
    rw [run_cons, journal, ← Journal.append_assoc]
    apply ih hstep _ hrest
    cases hon : a.on? stream with
    | none => simpa only [note, hs, hon, Journal.append_empty, Option.elim_none] using hP
    | some action =>
      have hmem : .on stream action ∈ a :: rest := by
        cases a with
        | on other did =>
          simp only [Action.on?] at hon
          split at hon
          next heq =>
            cases hon
            rw [heq]
            exact List.mem_cons_self
          next => cases hon
        | newScope => cases hon
        | newCounter => cases hon
        | cancel scope => cases hon
        | subscribe topic scope counter source => cases hon
      simp only [note, hs, hon, Option.elim_some]
      exact hkeep s j _ action (hallowed action hmem) hP

theorem subscribe_streams (h : Hub) (topic : String) (scope counter : ℕ) (source : Source) :
    (h.subscribe topic scope counter source).2.streams[h.streams.length]? =
      some ⟨topic, scope, counter, true, source⟩ :=
  List.getElem?_concat_length

end Hub

end LightningDeposit
