import LightningDeposit.Proofs.Stream.Counting
import LightningDeposit.World
import Mathlib.Data.List.Perm.Basic

/-!
Sessions: any number of backends, copies of them, scopes and counters held by themselves, and streams
made with either, in any order. What is held is known by its number. A session writes down what every
stream was made with and which backend a copy is a copy of; whatever is done, the counters of
different makers are different, and every stream has the counter of its maker.
-/

namespace LightningDeposit

/-- What a stream is made with: a counter held by itself, or a backend or one of its copies. -/
inductive Maker where
  | counter (number : ℕ)
  | backend (number : ℕ)
  deriving DecidableEq

/-- A backend that is held, and the number of the backend that it is a copy of; one that was put to
work counts as a copy of itself. -/
structure HeldDesk where
  desk : Desk
  backend : ℕ

/-- Backends are numbered as they are put to work, and there is a maker for every stream. -/
structure Session where
  world : World
  scopes : List ℕ
  counters : List ℕ
  backends : ℕ
  desks : List HeldDesk
  makers : List Maker

/-- Cancelling changes no family's counter. -/
theorem World.counters_cancelStreams (w : World) (desk : Desk) :
    (w.cancelStreams desk).families.map Family.counter = w.families.map Family.counter := by
  simp only [cancelStreams, List.map_set]
  rcases Nat.lt_or_ge desk.family w.families.length with hlt | hge
  · have hmap : desk.family < (w.families.map Family.counter).length := by simpa using hlt
    have hfamily : (w.family desk).counter = (w.families.map Family.counter)[desk.family] := by
      rw [List.getElem_map, family, List.getD_eq_getElem?_getD, List.getElem?_eq_getElem hlt]
      rfl
    rw [hfamily, List.set_getElem_self]
  · exact List.set_eq_of_length_le (by simpa using hge)

namespace Session

inductive Action where
  | newScope
  | newCounter
  | cancel (scope : ℕ)
  | subscribe (topic : String) (scope counter : ℕ) (source : Source)
  | on (stream : ℕ) (action : StreamAction)
  | mount (settings : Settings) (unit : CurrencyUnit) (slot : ℕ)
  | copy (desk : ℕ)
  | openFrom (desk : ℕ) (source : Source)
  | openBroker (desk : ℕ) (connect : String → Option Source)
  | cancelDesk (desk : ℕ)

def start (clock : ℕ) : Session := ⟨World.start clock, [], [], 0, [], []⟩

def hub (s : Session) : Hub := s.world.hub

def withHub (s : Session) (hub : Hub) : Session :=
  { s with world := { s.world with hub := hub } }

/-- A number that nothing is held under changes nothing. -/
def step (s : Session) : Action → Session
  | .newScope =>
    let (scope, world) := s.world.newScope
    { s with world := world, scopes := s.scopes ++ [scope] }
  | .newCounter =>
    let (counter, world) := s.world.newCounter
    { s with world := world, counters := s.counters ++ [counter] }
  | .cancel scope =>
    match s.scopes[scope]? with
    | none => s
    | some held => s.withHub (s.hub.cancel held)
  | .subscribe topic scope counter source =>
    match s.scopes[scope]?, s.counters[counter]? with
    | some heldScope, some heldCounter =>
      let (_, hub) := s.hub.subscribe topic heldScope heldCounter source
      { s.withHub hub with makers := s.makers ++ [.counter counter] }
    | _, _ => s
  | .on stream action => s.withHub (s.hub.step (.on stream action))
  | .mount settings unit slot =>
    match s.world.mount settings unit slot with
    | (.error _, world) => { s with world := world }
    | (.ok desk, world) =>
      { s with
        world := world
        backends := s.backends + 1
        desks := s.desks ++ [⟨desk, s.backends⟩] }
  | .copy desk =>
    match s.desks[desk]? with
    | none => s
    | some held => { s with desks := s.desks ++ [held] }
  | .openFrom desk source =>
    match s.desks[desk]? with
    | none => s
    | some held =>
      let (_, world) := s.world.openStream held.desk source
      { s with world := world, makers := s.makers ++ [.backend held.backend] }
  | .openBroker desk connect =>
    match s.desks[desk]? with
    | none => s
    | some held =>
      match s.world.openBrokerStream held.desk connect with
      | (.error _, world) => { s with world := world }
      | (.ok _, world) =>
        { s with world := world, makers := s.makers ++ [.backend held.backend] }
  | .cancelDesk desk =>
    match s.desks[desk]? with
    | none => s
    | some held => { s with world := s.world.cancelStreams held.desk }

def run (s : Session) (actions : List Action) : Session :=
  actions.foldl step s

@[simp]
theorem run_nil (s : Session) : s.run [] = s := rfl

@[simp]
theorem run_cons (s : Session) (a : Action) (rest : List Action) :
    s.run (a :: rest) = (s.step a).run rest := rfl

/-- The counters held by themselves and those of the backends. -/
def allCounters (s : Session) : List ℕ :=
  s.counters ++ s.world.families.map Family.counter

/-- The counter that a maker's streams go on. -/
def counterOf (s : Session) : Maker → Option ℕ
  | .counter number => s.counters[number]?
  | .backend number => (s.world.families.map Family.counter)[number]?

/-- Counters are kept apart, copies share the family of their backend, and every stream is on the
counter of its maker. -/
structure Sound (s : Session) : Prop where
  counted : s.hub.Counted
  apart : s.allCounters.Nodup
  counter_lt : ∀ counter ∈ s.allCounters, counter < s.hub.counts.length
  backends : s.backends = s.world.families.length
  desks : ∀ held ∈ s.desks, held.desk.family = held.backend ∧ held.backend < s.backends
  makers : s.makers.length = s.hub.streams.length
  made : ∀ (stream : ℕ) (maker : Maker) (t : Subscription), s.makers[stream]? = some maker →
    s.hub.streams[stream]? = some t → s.counterOf maker = some t.counter

variable {s s' : Session} {maker other : Maker} {counter : ℕ} {held : HeldDesk}

theorem mem_allCounters (h : s.counterOf maker = some counter) : counter ∈ s.allCounters := by
  cases maker with
  | counter number => exact List.mem_append_left _ (List.mem_of_getElem? h)
  | backend number => exact List.mem_append_right _ (List.mem_of_getElem? h)

/-- Streams on one counter have one maker. -/
theorem Sound.counterOf_inj (hs : s.Sound) (h : s.counterOf maker = some counter)
    (hother : s.counterOf other = some counter) : maker = other := by
  obtain ⟨hcounters, hfamilies, hdisjoint⟩ := List.nodup_append.mp hs.apart
  cases maker with
  | counter number =>
    cases other with
    | counter number' =>
      obtain ⟨hlt, -⟩ := List.getElem?_eq_some_iff.mp h
      rw [(List.getElem?_inj hlt hcounters).mp (h.trans hother.symm)]
    | backend number' =>
      exact absurd rfl
        (hdisjoint _ (List.mem_of_getElem? h) _ (List.mem_of_getElem? hother))
  | backend number =>
    cases other with
    | counter number' =>
      exact absurd rfl
        (hdisjoint _ (List.mem_of_getElem? hother) _ (List.mem_of_getElem? h))
    | backend number' =>
      obtain ⟨hlt, -⟩ := List.getElem?_eq_some_iff.mp h
      rw [(List.getElem?_inj hlt hfamilies).mp (h.trans hother.symm)]

/-- A held backend's streams go on the counter of its family. -/
theorem Sound.counterOf_desk (hs : s.Sound) (hheld : held ∈ s.desks) :
    s.counterOf (.backend held.backend) = some (s.world.family held.desk).counter := by
  obtain ⟨hfamily, hlt⟩ := hs.desks held hheld
  rw [hs.backends] at hlt
  rw [counterOf, World.family, hfamily, List.getElem?_map, List.getD_eq_getElem?_getD,
    List.getElem?_eq_getElem hlt]
  rfl

/-- What a step can do: nothing that counts, or it brings in a counter, a backend or a stream, or it
does something with one stream. -/
inductive Effect (s : Session) : Session → Prop
  | quiet {s' : Session} (hstreams : s'.hub.streams = s.hub.streams)
    (hcounts : s'.hub.counts = s.hub.counts) (hcounters : s'.counters = s.counters)
    (hfamilies : s'.world.families.map Family.counter = s.world.families.map Family.counter)
    (hbackends : s'.backends = s.backends) (hdesks : ∀ held ∈ s'.desks, held ∈ s.desks)
    (hmakers : s'.makers = s.makers) : Effect s s'
  | counter : Effect s
    { s.withHub s.hub.newCounter.2 with counters := s.counters ++ [s.hub.counts.length] }
  | mounted (backend : Backend) (slot : ℕ) : Effect s
    { s with
      world := { s.world with
        families := s.world.families ++ [⟨s.hub.cancelled.length, s.hub.counts.length⟩]
        hub := s.hub.newScope.2.newCounter.2 }
      backends := s.backends + 1
      desks := s.desks ++ [⟨⟨backend, slot, s.world.families.length⟩, s.backends⟩] }
  | opened (maker : Maker) (topic : String) (scope : ℕ) {counter : ℕ} (source : Source)
    (hcounter : s.counterOf maker = some counter) : Effect s
    { s.withHub (s.hub.subscribe topic scope counter source).2 with
      makers := s.makers ++ [maker] }
  | on (stream : ℕ) (action : StreamAction) : Effect s
    (s.withHub (s.hub.step (.on stream action)))

theorem Effect.refl (s : Session) : s.Effect s :=
  .quiet rfl rfl rfl rfl rfl (fun _ hheld => hheld) rfl

theorem step_effect (hs : s.Sound) (a : Action) : s.Effect (s.step a) := by
  cases a with
  | newScope => exact .quiet rfl rfl rfl rfl rfl (fun _ hheld => hheld) rfl
  | newCounter => exact .counter
  | cancel scope =>
    simp only [step]
    split
    · exact .refl s
    · exact .quiet rfl rfl rfl rfl rfl (fun _ hheld => hheld) rfl
  | subscribe topic scope counter source =>
    simp only [step]
    split
    next heldScope heldCounter _ hcounter =>
      exact .opened (.counter counter) topic heldScope source hcounter
    next => exact .refl s
  | on stream action => exact .on stream action
  | mount settings unit slot =>
    simp only [step, World.mount]
    cases Backend.new settings unit with
    | error cause => exact .refl s
    | ok backend => exact .mounted backend slot
  | copy desk =>
    simp only [step]
    split
    next => exact .refl s
    next held hget =>
      refine .quiet rfl rfl rfl rfl rfl (fun other hother => ?_) rfl
      rcases List.mem_append.mp hother with hold | hnew
      · exact hold
      · rw [List.mem_singleton.mp hnew]
        exact List.mem_of_getElem? hget
  | openFrom desk source =>
    simp only [step]
    split
    next => exact .refl s
    next held hget =>
      exact .opened (.backend held.backend) _ _ source
        (hs.counterOf_desk (List.mem_of_getElem? hget))
  | openBroker desk connect =>
    simp only [step]
    split
    next => exact .refl s
    next held hget =>
      have hopened (source : Source) := Effect.opened (.backend held.backend) paidInvoicesChannel
        (s.world.family held.desk).scope source (hs.counterOf_desk (List.mem_of_getElem? hget))
      simp only [World.openBrokerStream]
      cases held.desk.backend.redisUrl with
      | none => exact .refl s
      | some url =>
        cases hconnect : connect url with
        | none =>
          simp only [hconnect]
          exact .refl s
        | some source =>
          simp only [hconnect]
          exact hopened source
  | cancelDesk desk =>
    simp only [step]
    split
    next => exact .refl s
    next held hget =>
      refine .quiet rfl rfl rfl ?_ rfl (fun _ hheld => hheld) rfl
      exact World.counters_cancelStreams s.world held.desk

theorem Effect.change (hs : s.Sound) (heffect : s.Effect s') : s.hub.Change s'.hub := by
  cases heffect with
  | quiet hstreams hcounts =>
    refine .quiet hstreams (fun counter => ?_) (by rw [hcounts])
    rw [Hub.count, Hub.count, hcounts]
  | counter => exact .of_new_counter rfl rfl
  | mounted backend slot => exact .of_new_counter rfl rfl
  | opened maker topic scope source hcounter =>
    exact .subscribed topic scope _ source (hs.counter_lt _ (mem_allCounters hcounter))
  | on stream action => exact .on stream action

/-- A maker keeps its counter. -/
theorem Effect.counterOf (heffect : s.Effect s') (h : s.counterOf maker = some counter) :
    s'.counterOf maker = some counter := by
  have happend {numbers : List ℕ} {number : ℕ} (hget : numbers[number]? = some counter) (new : ℕ) :
      (numbers ++ [new])[number]? = some counter := by
    rw [List.getElem?_append_left (List.getElem?_eq_some_iff.mp hget).1, hget]
  cases heffect with
  | quiet _ _ hcounters hfamilies =>
    cases maker with
    | counter number => rwa [Session.counterOf, hcounters]
    | backend number => rwa [Session.counterOf, hfamilies]
  | counter =>
    cases maker with
    | counter number => exact happend h _
    | backend number => exact h
  | mounted backend slot =>
    cases maker with
    | counter number => exact h
    | backend number =>
      simp only [Session.counterOf, List.map_append, List.map_cons, List.map_nil]
      exact happend h _
  | opened => cases maker <;> exact h
  | on stream action => cases maker <;> exact h

/-- The next number is new among counters that exist. -/
theorem nodup_of_new {numbers more : List ℕ} {next : ℕ} (hperm : more.Perm (next :: numbers))
    (hnodup : numbers.Nodup) (hlt : ∀ number ∈ numbers, number < next) :
    more.Nodup ∧ ∀ number ∈ more, number < next + 1 := by
  constructor
  · rw [hperm.nodup_iff, List.nodup_cons]
    exact ⟨fun hmem => Nat.lt_irrefl _ (hlt next hmem), hnodup⟩
  · intro number hmem
    rcases List.mem_cons.mp (hperm.mem_iff.mp hmem) with rfl | hold
    · exact Nat.lt_succ_self _
    · exact Nat.lt_succ_of_lt (hlt number hold)

/-- Counters stay apart, and in existence. -/
theorem Effect.allCounters (hs : s.Sound) (heffect : s.Effect s') :
    s'.allCounters.Nodup ∧ ∀ counter ∈ s'.allCounters, counter < s'.hub.counts.length := by
  have hsame (hall : s'.allCounters = s.allCounters)
      (hcounts : s'.hub.counts.length = s.hub.counts.length) :
      s'.allCounters.Nodup ∧ ∀ counter ∈ s'.allCounters, counter < s'.hub.counts.length := by
    rw [hall, hcounts]
    exact ⟨hs.apart, hs.counter_lt⟩
  have hnew (hall : s'.allCounters.Perm (s.hub.counts.length :: s.allCounters))
      (hcounts : s'.hub.counts.length = s.hub.counts.length + 1) :
      s'.allCounters.Nodup ∧ ∀ counter ∈ s'.allCounters, counter < s'.hub.counts.length := by
    rw [hcounts]
    exact nodup_of_new hall hs.apart hs.counter_lt
  cases heffect with
  | quiet _ hcounts hcounters hfamilies =>
    apply hsame
    · rw [Session.allCounters, hcounters, hfamilies]
      rfl
    · rw [hcounts]
  | counter =>
    apply hnew
    · simp only [Session.allCounters, List.append_assoc]
      exact List.perm_middle
    · exact List.length_append
  | mounted backend slot =>
    apply hnew
    · simp only [Session.allCounters, List.map_append, ← List.append_assoc]
      exact List.perm_append_singleton _ _
    · exact List.length_append
  | opened =>
    apply hsame rfl
    exact List.length_modify _ _ _
  | on stream action =>
    apply hsame rfl
    exact (Hub.lengths_on s.hub stream action).1

theorem Effect.made (hs : s.Sound) (heffect : s.Effect s') {stream : ℕ} {t : Subscription}
    (hmaker : s'.makers[stream]? = some maker) (ht : s'.hub.streams[stream]? = some t) :
    s'.counterOf maker = some t.counter := by
  have hold (hbefore : s.makers[stream]? = some maker) : s'.counterOf maker = some t.counter := by
    have hlt : stream < s.hub.streams.length := by
      rw [← hs.makers]
      exact (List.getElem?_eq_some_iff.mp hbefore).1
    obtain ⟨u, hu, hcounter, -⟩ :=
      (heffect.change hs).stream_kept (List.getElem?_eq_getElem hlt)
    have hsame : t = u := Option.some.inj (ht.symm.trans hu)
    rw [hsame, hcounter]
    exact heffect.counterOf (hs.made stream maker _ hbefore (List.getElem?_eq_getElem hlt))
  cases heffect with
  | quiet _ _ _ _ _ _ hmakers => exact hold (hmakers ▸ hmaker)
  | counter => exact hold hmaker
  | mounted => exact hold hmaker
  | on => exact hold hmaker
  | opened new topic scope source hcounter =>
    simp only [List.getElem?_append] at hmaker
    split at hmaker
    next => exact hold hmaker
    next hlast =>
      rw [List.getElem?_singleton] at hmaker
      split at hmaker
      next hzero =>
        cases hmaker
        have hstream : stream = s.hub.streams.length := by
          rw [← hs.makers]
          omega
        rw [hstream] at ht
        cases (Hub.subscribe_streams s.hub topic scope _ source).symm.trans ht
        cases maker <;> exact hcounter
      next => cases hmaker

theorem start_sound (clock : ℕ) : (start clock).Sound where
  counted := Hub.empty_counted
  apart := List.nodup_nil
  counter_lt := by
    intro counter hmem
    cases hmem
  backends := rfl
  desks := by
    intro held hmem
    cases hmem
  makers := rfl
  made := by
    intro stream maker t hmaker
    cases hmaker

theorem Effect.sound (hs : s.Sound) (heffect : s.Effect s') : s'.Sound where
  counted := hs.counted.change (heffect.change hs)
  apart := (heffect.allCounters hs).1
  counter_lt := (heffect.allCounters hs).2
  backends := by
    cases heffect with
    | quiet _ _ _ hfamilies hbackends =>
      have hlength := congrArg List.length hfamilies
      rw [List.length_map, List.length_map] at hlength
      rw [hbackends, hs.backends, hlength]
    | counter => exact hs.backends
    | mounted backend slot =>
      rw [List.length_append, ← hs.backends]
      rfl
    | opened => exact hs.backends
    | on stream action => exact hs.backends
  desks := by
    cases heffect with
    | quiet _ _ _ _ hbackends hdesks =>
      rw [hbackends]
      exact fun held hheld => hs.desks held (hdesks held hheld)
    | counter => exact hs.desks
    | mounted backend slot =>
      intro held hheld
      rcases List.mem_append.mp hheld with hold | hnew
      · exact (hs.desks held hold).imp_right Nat.lt_succ_of_lt
      · rw [List.mem_singleton.mp hnew]
        exact ⟨hs.backends.symm, Nat.lt_succ_self _⟩
    | opened => exact hs.desks
    | on stream action => exact hs.desks
  makers := by
    cases heffect with
    | quiet hstreams _ _ _ _ _ hmakers => rw [hstreams, hmakers, hs.makers]
    | counter => exact hs.makers
    | mounted backend slot => exact hs.makers
    | opened maker topic scope source hcounter =>
      have hlength : ∀ t, s.makers.length + 1 = (s.hub.streams ++ [t]).length := by
        simp [hs.makers]
      rw [List.length_append]
      exact hlength _
    | on stream action =>
      rw [withHub, hs.makers]
      exact (Hub.lengths_on s.hub stream action).2.symm
  made := fun stream maker t hmaker ht => heffect.made hs hmaker ht

theorem step_sound (hs : s.Sound) (a : Action) : (s.step a).Sound :=
  (step_effect hs a).sound hs

theorem run_sound (hs : s.Sound) (actions : List Action) : (s.run actions).Sound := by
  induction actions generalizing s with
  | nil => exact hs
  | cons a rest ih => exact ih (step_sound hs a)

end Session

end LightningDeposit
