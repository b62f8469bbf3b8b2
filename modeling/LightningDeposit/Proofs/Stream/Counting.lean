import LightningDeposit.Proofs.Stream.Closing

/-!
Counting the open streams. What happens on a hub leaves its streams and counts alone, makes one stream
with a counter that exists, or does something with one stream. Each of these keeps every counter at
the number of the open streams that were made with it, so a counter that goes down was not at zero.
-/

namespace LightningDeposit

namespace Subscription

variable {s : Subscription} {cancelled : Bool} {action : StreamAction}

theorem isOpen_of_after (h : (s.after cancelled action).isOpen = true) : s.isOpen = true := by
  by_contra hclosed
  rw [(after_of_closed (Bool.eq_false_iff.mpr hclosed) cancelled action).1] at h
  cases h

end Subscription

namespace Hub

/-- The open streams that were made with a counter. -/
def openOn (h : Hub) (counter : ℕ) : ℕ :=
  h.streams.countP fun s => s.isOpen && s.counter == counter

/-- Every counter is at the number of its open streams, and every stream's counter exists. -/
structure Counted (h : Hub) : Prop where
  count_eq : ∀ counter, h.count counter = h.openOn counter
  counter_lt : ∀ s ∈ h.streams, s.counter < h.counts.length

/-- What can become of the streams of a hub and of their counts at once. -/
inductive Change (h : Hub) : Hub → Prop
  | quiet {h' : Hub} (hstreams : h'.streams = h.streams)
    (hcount : ∀ counter, h'.count counter = h.count counter)
    (hlength : h.counts.length ≤ h'.counts.length) : Change h h'
  | subscribed (topic : String) (scope counter : ℕ) (source : Source)
    (hcounter : counter < h.counts.length) : Change h (h.subscribe topic scope counter source).2
  | on (stream : ℕ) (action : StreamAction) : Change h (h.step (.on stream action))

variable {h h' : Hub} {stream counter : ℕ} {s t : Subscription}

theorem empty_counted : empty.Counted := by
  constructor
  · intro counter
    rfl
  · intro s hs
    cases hs

theorem count_subscribe (hcounter : counter < h.counts.length) (topic : String) (scope : ℕ)
    (source : Source) (other : ℕ) : (h.subscribe topic scope counter source).2.count other =
      h.count other + if counter = other then 1 else 0 := by
  simp only [count, subscribe, List.getD_eq_getElem?_getD, List.getElem?_modify]
  by_cases heq : counter = other
  · subst heq
    simp [hcounter]
  · simp [heq]

theorem openOn_subscribe (h : Hub) (topic : String) (scope counter : ℕ) (source : Source)
    (other : ℕ) : (h.subscribe topic scope counter source).2.openOn other =
      h.openOn other + if counter = other then 1 else 0 := by
  simp [openOn, subscribe, List.countP_append, List.countP_singleton]

/-- A counter goes down, if it is not at zero, when a stream made with it is put back closed. -/
theorem count_update (h : Hub) (stream : ℕ) (s t : Subscription) (counter : ℕ) :
    (h.update stream s t).count counter =
      h.count counter - if s.isOpen && !t.isOpen && s.counter == counter then 1 else 0 := by
  simp only [count, update, List.getD_eq_getElem?_getD]
  cases hends : s.isOpen && !t.isOpen with
  | false => simp
  | true =>
    simp only [↓reduceIte, List.getElem?_modify]
    by_cases heq : s.counter = counter
    · cases h.counts[counter]? <;> simp [heq]
    · simp [heq]

theorem counts_length_update (h : Hub) (stream : ℕ) (s t : Subscription) :
    (h.update stream s t).counts.length = h.counts.length := by
  simp only [update]
  split
  · exact List.length_modify _ _ _
  · rfl

/-- Nothing that is done with a stream brings in a counter or a stream. -/
theorem lengths_on (h : Hub) (stream : ℕ) (action : StreamAction) :
    (h.step (.on stream action)).counts.length = h.counts.length ∧
      (h.step (.on stream action)).streams.length = h.streams.length := by
  cases hs : h.streams[stream]? with
  | none =>
    rw [step_on_none hs]
    exact ⟨rfl, rfl⟩
  | some s =>
    rw [step_on hs]
    exact ⟨counts_length_update h stream s _, List.length_set⟩

theorem openOn_update (hs : h.streams[stream]? = some s) (counter : ℕ) :
    (h.update stream s t).openOn counter =
      h.openOn counter - (if s.isOpen && s.counter == counter then 1 else 0) +
        if t.isOpen && t.counter == counter then 1 else 0 := by
  obtain ⟨hlt, hget⟩ := List.getElem?_eq_some_iff.mp hs
  rw [openOn, update, List.countP_set hlt, hget]
  rfl

theorem openOn_pos_iff : 0 < h.openOn counter ↔ ∃ (stream : ℕ) (s : Subscription),
    h.streams[stream]? = some s ∧ s.isOpen = true ∧ s.counter = counter := by
  simp only [openOn, List.countP_pos_iff, List.mem_iff_getElem?, Bool.and_eq_true, beq_iff_eq]
  constructor
  · rintro ⟨s, ⟨stream, hs⟩, hopen, hcounter⟩
    exact ⟨stream, s, hs, hopen, hcounter⟩
  · rintro ⟨stream, s, hs, hopen, hcounter⟩
    exact ⟨s, ⟨stream, hs⟩, hopen, hcounter⟩

namespace Counted

theorem update (hc : h.Counted) (hs : h.streams[stream]? = some s)
    (hcounter : t.counter = s.counter) (hopen : t.isOpen = true → s.isOpen = true) :
    (h.update stream s t).Counted := by
  constructor
  · intro counter
    rw [count_update, openOn_update hs, hc.count_eq, hcounter]
    by_cases heq : s.counter = counter
    · cases ho : s.isOpen with
      | false =>
        have ht : t.isOpen = false := Bool.eq_false_iff.mpr fun ht => by simp [hopen ht] at ho
        simp [ht]
      | true =>
        have hpos : 0 < h.openOn counter := openOn_pos_iff.mpr ⟨stream, s, hs, ho, heq⟩
        cases t.isOpen with
        | false => simp
        | true => simp [heq, Nat.sub_add_cancel hpos]
    · simp [heq]
  · intro u hu
    rw [counts_length_update]
    rcases List.mem_or_eq_of_mem_set hu with hold | rfl
    · exact hc.counter_lt u hold
    · rw [hcounter]
      exact hc.counter_lt s (List.mem_of_getElem? hs)

theorem change (hc : h.Counted) (hchange : h.Change h') : h'.Counted := by
  cases hchange with
  | quiet hstreams hcount hlength =>
    constructor
    · intro counter
      rw [hcount, hc.count_eq, openOn, openOn, hstreams]
    · intro s hs
      rw [hstreams] at hs
      exact (hc.counter_lt s hs).trans_le hlength
  | subscribed topic scope counter source hcounter =>
    constructor
    · intro other
      rw [count_subscribe hcounter, openOn_subscribe, hc.count_eq]
    · intro s hs
      simp only [subscribe, List.length_modify]
      rcases List.mem_append.mp hs with hold | hnew
      · exact hc.counter_lt s hold
      · rw [List.mem_singleton.mp hnew]
        exact hcounter
  | on stream action =>
    cases hs : h.streams[stream]? with
    | none => rwa [step_on_none hs]
    | some s =>
      rw [step_on hs]
      exact hc.update hs (s.after_keeps _ action).2.2.1 Subscription.isOpen_of_after

/-- An open stream that is put back closed takes one from its counter, and none from the others. -/
theorem count_update_of_ends (hc : h.Counted) (hs : h.streams[stream]? = some s)
    (hopen : s.isOpen = true) (hclosed : t.isOpen = false) (counter : ℕ) :
    (h.update stream s t).count counter + (if counter = s.counter then 1 else 0) =
      h.count counter := by
  rw [count_update, hopen, hclosed]
  by_cases heq : counter = s.counter
  · subst heq
    have hpos : 0 < h.count s.counter := by
      rw [hc.count_eq]
      exact openOn_pos_iff.mpr ⟨stream, s, hs, hopen, rfl⟩
    simp [Nat.sub_add_cancel hpos]
  · simp [heq, Ne.symm heq]

/-- When a stream ends its counter is not at zero, and it goes down by one. -/
theorem count_of_ends (hc : h.Counted) (hchange : h.Change h') (hs : h.streams[stream]? = some s)
    (hopen : h.isOpen stream = true) (hclosed : h'.isOpen stream = false) :
    0 < h.count s.counter ∧ h'.count s.counter + 1 = h.count s.counter := by
  rw [isOpen_of_getElem? hs] at hopen
  have hpos : 0 < h.count s.counter := by
    rw [hc.count_eq]
    exact openOn_pos_iff.mpr ⟨stream, s, hs, hopen, rfl⟩
  have hkept (hsame : h'.streams[stream]? = some s) : False := by
    rw [isOpen_of_getElem? hsame, hopen] at hclosed
    cases hclosed
  refine ⟨hpos, ?_⟩
  cases hchange with
  | quiet hstreams => exact (hkept (by rw [hstreams, hs])).elim
  | subscribed topic scope counter source =>
    exact (hkept (step_streams hs (.subscribe topic scope counter source))).elim
  | on other action =>
    by_cases heq : other = stream
    · subst heq
      rw [isOpen_on hs] at hclosed
      rw [step_on hs, count_update, hopen, hclosed]
      simp only [Bool.not_false, Bool.and_self, BEq.rfl, ↓reduceIte]
      exact Nat.sub_add_cancel hpos
    · have hsame := step_streams hs (.on other action)
      rw [Action.on?, if_neg heq] at hsame
      exact (hkept hsame).elim

end Counted

namespace Change

/-- A new counter is at zero. -/
theorem of_new_counter (hstreams : h'.streams = h.streams) (hcounts : h'.counts = h.counts ++ [0]) :
    h.Change h' := by
  refine .quiet hstreams (fun counter => ?_) (by simp [hcounts])
  rw [count, count, hcounts, List.getD_eq_getElem?_getD, List.getD_eq_getElem?_getD]
  rcases Nat.lt_trichotomy counter h.counts.length with hlt | rfl | hgt
  · rw [List.getElem?_append_left hlt]
  · rw [List.getElem?_concat_length, List.getElem?_eq_none (Nat.le_refl _)]
    rfl
  · rw [List.getElem?_eq_none hgt.le, List.getElem?_eq_none (by simpa using Nat.succ_le_of_lt hgt)]

/-- A counter goes down only when a stream made with it ends. -/
theorem ends_of_count_lt (hchange : h.Change h') (hlt : h'.count counter < h.count counter) :
    ∃ stream s, h.streams[stream]? = some s ∧ s.counter = counter ∧
      h.isOpen stream = true ∧ h'.isOpen stream = false := by
  cases hchange with
  | quiet hstreams hcount =>
    rw [hcount] at hlt
    exact absurd hlt (Nat.lt_irrefl _)
  | subscribed topic scope other source hcounter =>
    rw [count_subscribe hcounter] at hlt
    omega
  | on stream action =>
    cases hs : h.streams[stream]? with
    | none =>
      rw [step_on_none hs] at hlt
      exact absurd hlt (Nat.lt_irrefl _)
    | some s =>
      rw [step_on hs, count_update] at hlt
      split at hlt
      next hends =>
        simp only [Bool.and_eq_true, Bool.not_eq_eq_eq_not, Bool.not_true, beq_iff_eq] at hends
        obtain ⟨⟨hopen, hclosed⟩, hcounter⟩ := hends
        refine ⟨stream, s, hs, hcounter, ?_, ?_⟩
        · rw [isOpen_of_getElem? hs, hopen]
        · rw [isOpen_on hs, hclosed]
      next => exact absurd hlt (Nat.lt_irrefl _)

/-- A stream that is there stays there with its counter, and is open only if it was. -/
theorem stream_kept (hchange : h.Change h') (hs : h.streams[stream]? = some s) : ∃ t,
    h'.streams[stream]? = some t ∧ t.counter = s.counter ∧ (t.isOpen = true → s.isOpen = true) := by
  have hstep (a : Action) : ∃ t, (h.step a).streams[stream]? = some t ∧ t.counter = s.counter ∧
      (t.isOpen = true → s.isOpen = true) := by
    refine ⟨_, step_streams hs a, ?_⟩
    cases a.on? stream with
    | none => exact ⟨rfl, id⟩
    | some action => exact ⟨(s.after_keeps _ action).2.2.1, Subscription.isOpen_of_after⟩
  cases hchange with
  | quiet hstreams =>
    rw [hstreams]
    exact ⟨s, hs, rfl, id⟩
  | subscribed topic scope counter source => exact hstep (.subscribe topic scope counter source)
  | on other action => exact hstep (.on other action)

/-- A stream that was not there is open. -/
theorem isOpen_of_new (hchange : h.Change h') (hnew : h.streams.length ≤ stream)
    (hlt : stream < h'.streams.length) : h'.isOpen stream = true := by
  cases hchange with
  | quiet hstreams =>
    rw [hstreams] at hlt
    exact absurd hnew (Nat.not_le.mpr hlt)
  | subscribed topic scope counter source =>
    have hlast : stream = h.streams.length := by
      simp only [subscribe, List.length_append, List.length_singleton] at hlt
      omega
    rw [hlast, isOpen_of_getElem? (subscribe_streams h topic scope counter source)]
  | on other action =>
    rw [(lengths_on h other action).2] at hlt
    exact absurd hnew (Nat.not_le.mpr hlt)

end Change

end Hub

end LightningDeposit
