import LightningDeposit.Proofs.World.Session

/-!
How many streams are open. In every session a counter is at the number of streams that its maker has
open, so that a backend is active exactly while it or a copy of it has a stream open, and every
stream takes its one from the counter when it ends, once.
-/

namespace LightningDeposit

namespace Session

/-- The open streams of a maker. -/
def openBy (s : Session) (maker : Maker) : ℕ :=
  (s.makers.zip s.hub.streams).countP fun (madeBy, t) => madeBy = maker && t.isOpen

/-- A stream ends in a step: it is open before and not after. -/
def ends (s : Session) (a : Action) (stream : ℕ) : Bool :=
  s.hub.isOpen stream && !(s.step a).hub.isOpen stream

/-- How often a stream has still to end: once, unless it is there and closed. -/
def endsLeft (s : Session) (stream : ℕ) : ℕ :=
  if stream < s.hub.streams.length ∧ s.hub.isOpen stream = false then 0 else 1

/-- How often a stream ends along a run. -/
def endings (s : Session) (stream : ℕ) : List Action → ℕ
  | [] => 0
  | a :: rest => (if s.ends a stream then 1 else 0) + (s.step a).endings stream rest

variable {s : Session} {maker : Maker} {counter stream : ℕ}

theorem mem_zip_makers {t : Subscription} : (maker, t) ∈ s.makers.zip s.hub.streams ↔
    ∃ stream : ℕ, s.makers[stream]? = some maker ∧ s.hub.streams[stream]? = some t := by
  simp [List.mem_iff_getElem?, List.getElem?_zip_eq_some]

theorem openBy_pos_iff : 0 < s.openBy maker ↔
    ∃ stream : ℕ, s.makers[stream]? = some maker ∧ s.hub.isOpen stream = true := by
  simp only [openBy, List.countP_pos_iff, Bool.and_eq_true, decide_eq_true_eq, Prod.exists]
  constructor
  · rintro ⟨madeBy, t, hmem, rfl, hopen⟩
    obtain ⟨stream, hmaker, ht⟩ := mem_zip_makers.mp hmem
    exact ⟨stream, hmaker, (Hub.isOpen_of_getElem? ht).trans hopen⟩
  · rintro ⟨stream, hmaker, hopen⟩
    cases ht : s.hub.streams[stream]? with
    | none => simp [Hub.isOpen, ht] at hopen
    | some t =>
      rw [Hub.isOpen_of_getElem? ht] at hopen
      exact ⟨maker, t, mem_zip_makers.mpr ⟨stream, hmaker, ht⟩, rfl, hopen⟩

/-- The open streams of a maker are those on its counter. -/
theorem Sound.count_eq_openBy (hs : s.Sound) (hcounter : s.counterOf maker = some counter) :
    s.hub.count counter = s.openBy maker := by
  have hstreams : s.hub.streams = (s.makers.zip s.hub.streams).map Prod.snd := by
    rw [List.map_snd_zip hs.makers.ge]
  rw [hs.counted.count_eq, Hub.openOn, hstreams, List.countP_map, openBy]
  apply List.countP_congr
  rintro ⟨madeBy, t⟩ hmem
  obtain ⟨stream, hmaker, ht⟩ := mem_zip_makers.mp hmem
  have hmade := hs.made stream madeBy t hmaker ht
  have hsame : t.counter = counter ↔ madeBy = maker := by
    constructor
    · rintro rfl
      exact hs.counterOf_inj hmade hcounter
    · rintro rfl
      exact Option.some.inj (hmade.symm.trans hcounter)
  simp [hsame, and_comm]

theorem endsLeft_of_lt (hlt : stream < s.hub.streams.length) :
    s.endsLeft stream = if s.hub.isOpen stream then 1 else 0 := by
  cases hopen : s.hub.isOpen stream <;> simp [endsLeft, hlt, hopen]

theorem endsLeft_of_ge (hge : s.hub.streams.length ≤ stream) : s.endsLeft stream = 1 :=
  if_neg fun h => Nat.not_lt.mpr hge h.1

theorem endsLeft_step (hs : s.Sound) (a : Action) (stream : ℕ) :
    (if s.ends a stream then 1 else 0) + (s.step a).endsLeft stream = s.endsLeft stream := by
  have hchange := (step_effect hs a).change hs
  rcases Nat.lt_or_ge stream s.hub.streams.length with hlt | hge
  · obtain ⟨t, ht, -, hopen⟩ := hchange.stream_kept (List.getElem?_eq_getElem hlt)
    have hlt' : stream < (s.step a).hub.streams.length := (List.getElem?_eq_some_iff.mp ht).1
    rw [ends, endsLeft_of_lt hlt, endsLeft_of_lt hlt', Hub.isOpen_of_getElem? ht,
      Hub.isOpen_of_getElem? (List.getElem?_eq_getElem hlt)]
    generalize s.hub.streams[stream] = before at hopen
    cases hafter : t.isOpen with
    | true => simp [hopen hafter]
    | false => simp
  · have hnot : s.hub.isOpen stream = false := by
      rw [Hub.isOpen, List.getElem?_eq_none hge]
      rfl
    have hleft : (s.step a).endsLeft stream = 1 := by
      rcases Nat.lt_or_ge stream (s.step a).hub.streams.length with hlt' | hge'
      · rw [endsLeft_of_lt hlt', if_pos (hchange.isOpen_of_new hge hlt')]
      · exact endsLeft_of_ge hge'
    rw [ends, hnot, hleft, endsLeft_of_ge hge]
    rfl

/-- What a stream has still to end and how often it has ended come to the same in every run. -/
theorem endings_add_endsLeft (hs : s.Sound) (stream : ℕ) (actions : List Action) :
    s.endings stream actions + (s.run actions).endsLeft stream = s.endsLeft stream := by
  induction actions generalizing s with
  | nil => exact Nat.zero_add _
  | cons a rest ih => rw [endings, run_cons, Nat.add_assoc, ih (step_sound hs a), endsLeft_step hs]

/-- Open streams are counted, in every session. Every stream has a maker; a counter held by itself is
at the number of the streams made with it that are open, and the counter of a backend at those of it
and its copies, so it is active exactly while one of these is open. A stream that ends finds its
counter above zero and takes one from it; no counter goes down otherwise; and a stream that was made
has ended once if it is not open any more, and not yet if it is. -/
theorem open_streams_counted (clock : ℕ) (actions : List Action) :
    let s := (start clock).run actions
    s.makers.length = s.hub.streams.length ∧
    (∀ number counter, s.counters[number]? = some counter →
      s.hub.count counter = s.openBy (.counter number)) ∧
    (∀ held ∈ s.desks, s.world.openStreams held.desk = s.openBy (.backend held.backend) ∧
      (s.world.isActive held.desk = true ↔ ∃ stream : ℕ,
        s.makers[stream]? = some (.backend held.backend) ∧ s.hub.isOpen stream = true)) ∧
    (∀ a stream t, s.hub.streams[stream]? = some t → s.ends a stream = true →
      0 < s.hub.count t.counter ∧
        (s.step a).hub.count t.counter + 1 = s.hub.count t.counter) ∧
    (∀ a counter, (s.step a).hub.count counter < s.hub.count counter → ∃ stream t,
      s.hub.streams[stream]? = some t ∧ t.counter = counter ∧ s.ends a stream = true) ∧
    ∀ stream < s.hub.streams.length,
      (start clock).endings stream actions = if s.hub.isOpen stream then 0 else 1 := by
  intro s
  have hs : s.Sound := run_sound (start_sound clock) actions
  have hcounters (number counter : ℕ) (h : s.counterOf (.counter number) = some counter) :
      s.hub.count counter = s.openBy (.counter number) :=
    hs.count_eq_openBy h
  refine ⟨hs.makers, hcounters, fun held hheld => ?_, fun a stream t ht hends => ?_,
    fun a counter hlt => ?_, fun stream hlt => ?_⟩
  · have hopen : s.world.openStreams held.desk = s.openBy (.backend held.backend) :=
      hs.count_eq_openBy (hs.counterOf_desk hheld)
    refine ⟨hopen, ?_⟩
    rw [World.isActive, hopen, decide_eq_true_iff]
    exact openBy_pos_iff
  · rw [ends, Bool.and_eq_true, Bool.not_eq_true'] at hends
    exact hs.counted.count_of_ends ((step_effect hs a).change hs) ht hends.1 hends.2
  · obtain ⟨stream, t, ht, hcounter, hopen, hclosed⟩ :=
      ((step_effect hs a).change hs).ends_of_count_lt hlt
    refine ⟨stream, t, ht, hcounter, ?_⟩
    rw [ends, hopen, hclosed]
    rfl
  · have hsum : (start clock).endings stream actions + s.endsLeft stream =
        (start clock).endsLeft stream :=
      endings_add_endsLeft (start_sound clock) stream actions
    rw [endsLeft_of_lt hlt, endsLeft_of_ge (Nat.zero_le stream)] at hsum
    split at hsum
    next hopen =>
      rw [if_pos hopen]
      exact Nat.succ.inj hsum
    next hclosed =>
      rw [if_neg hclosed]
      exact hsum

end Session

end LightningDeposit
