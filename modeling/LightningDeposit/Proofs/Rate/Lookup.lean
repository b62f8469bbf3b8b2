import LightningDeposit.Backend
import Mathlib.Data.Nat.Notation

/-!
Look-ups of many callers on one rate slot. A look-up begins and, if it has to ask its source, ends
when the source has answered; in between others may begin, end or store, and the clock may move
either way. What a look-up comes to depends only on the slot and the clock at these two moments and
on the answer, and every rate that is handed out is positive and finite.
-/

namespace LightningDeposit

/-- One caller's look-up: how often it has asked its source, and what it came to. -/
structure Lookup where
  asked : ℕ
  result : Option (Except BackendError Binary64)

/-- A slot with the look-ups that have begun on it, in their order. -/
structure Lookups where
  slot : RateSlot
  clock : ℕ
  calls : List Lookup

namespace Lookups

inductive Event where
  | begin
  | answered (call : ℕ) (answer : Except ClientError Binary64)
  | store (rate : Binary64) (observedAt : ℕ)
  | clock (now : ℕ)

def start (clock : ℕ) : Lookups := ⟨none, clock, []⟩

/-- An answer that no look-up waits for changes nothing. -/
def step (s : Lookups) : Event → Lookups
  | .begin =>
    match s.slot.fresh? s.clock with
    | some rate => { s with calls := s.calls ++ [⟨0, some (.ok rate)⟩] }
    | none => { s with calls := s.calls ++ [⟨1, none⟩] }
  | .answered call answer =>
    match s.calls[call]? with
    | some ⟨asked, none⟩ =>
      let (result, slot) := s.slot.settle s.clock answer
      { s with slot := slot, calls := s.calls.set call ⟨asked, some result⟩ }
    | _ => s
  | .store rate observedAt =>
    match ExchangeRate.observed rate observedAt with
    | .ok found => { s with slot := some found }
    | .error _ => s
  | .clock now => { s with clock := now }

def run (s : Lookups) (events : List Event) : Lookups :=
  events.foldl step s

@[simp]
theorem run_nil (s : Lookups) : run s [] = s := rfl

@[simp]
theorem run_cons (s : Lookups) (e : Event) (events : List Event) :
    run s (e :: events) = run (step s e) events := rfl

end Lookups

namespace RateSlot

/-- The slot holds that rate, observed less than so many seconds ago. -/
def HoldsWithin (slot : RateSlot) (now seconds : ℕ) (rate : Binary64) : Prop :=
  ∃ observedAt, slot = some ⟨rate, observedAt⟩ ∧ now - observedAt < seconds

theorem fresh?_eq_some_iff {slot : RateSlot} {now : ℕ} {rate : Binary64} :
    slot.fresh? now = some rate ↔ slot.HoldsWithin now 300 rate := by
  cases slot with
  | none => simp [fresh?, HoldsWithin]
  | some cached =>
    simp only [fresh?, HoldsWithin]
    constructor
    · intro h
      split at h
      next hage =>
        cases h
        exact ⟨cached.observedAt, rfl, of_decide_eq_true hage⟩
      next => cases h
    · rintro ⟨observedAt, heq, hage⟩
      cases heq
      exact if_pos (decide_eq_true hage)

theorem fresh?_eq_none_iff {slot : RateSlot} {now : ℕ} :
    slot.fresh? now = none ↔ ¬∃ rate, slot.HoldsWithin now 300 rate := by
  simp only [← fresh?_eq_some_iff, Option.eq_none_iff_forall_ne_some, ne_eq, not_exists]

/-- Why an answer is no rate: the source's own error, or the number that is none. -/
inductive Unusable : Except ClientError Binary64 → ClientError → Prop
  | refused (cause : ClientError) : Unusable (.error cause) cause
  | invalid (rate : Binary64) (h : rate.isPositiveFinite = false) :
    Unusable (.ok rate) (.invalidRate rate)

/-- What a look-up comes to whose source answers at some time: its result, and what is in the slot
then. -/
inductive Settled (slot : RateSlot) (now : ℕ) :
    Except ClientError Binary64 → Except BackendError Binary64 → RateSlot → Prop
  | refreshed (rate : Binary64) (h : rate.isPositiveFinite = true) :
    Settled slot now (.ok rate) (.ok rate) (some ⟨rate, now⟩)
  | fallback {answer : Except ClientError Binary64} {cause : ClientError} (rate : Binary64)
    (h : Unusable answer cause) (hheld : slot.HoldsWithin now 900 rate) :
    Settled slot now answer (.ok rate) slot
  | failed {answer : Except ClientError Binary64} {cause : ClientError}
    (h : Unusable answer cause) (hheld : ¬∃ rate, slot.HoldsWithin now 900 rate) :
    Settled slot now answer (.error (.rateUnavailable cause)) slot

theorem Unusable.not_rate {rate : Binary64} {cause : ClientError} (h : Unusable (.ok rate) cause) :
    rate.isPositiveFinite = false := by
  cases h
  assumption

theorem Settled.of_ok {slot after : RateSlot} {now : ℕ} {answer : Except ClientError Binary64}
    {rate : Binary64} (h : Settled slot now answer (.ok rate) after) :
    (answer = .ok rate ∧ rate.isPositiveFinite = true) ∨
      (∃ cause, Unusable answer cause) ∧ slot.HoldsWithin now 900 rate := by
  cases h with
  | refreshed _ hrate => exact .inl ⟨rfl, hrate⟩
  | fallback _ hcause hheld => exact .inr ⟨⟨_, hcause⟩, hheld⟩

theorem Settled.of_error {slot after : RateSlot} {now : ℕ} {answer : Except ClientError Binary64}
    {cause : BackendError} (h : Settled slot now answer (.error cause) after) :
    ∃ reason, cause = .rateUnavailable reason := by
  cases h
  exact ⟨_, rfl⟩

theorem Settled.slot_of_error {slot after : RateSlot} {now : ℕ}
    {answer : Except ClientError Binary64} {cause : BackendError}
    (h : Settled slot now answer (.error cause) after) : after = slot := by
  cases h
  rfl

theorem checked_eq_error {answer : Except ClientError Binary64} {cause : ClientError}
    (h : checked answer = .error cause) : Unusable answer cause := by
  cases answer with
  | error e =>
    cases h
    exact .refused cause
  | ok rate =>
    simp only [checked] at h
    split at h
    next => cases h
    next hrate =>
      cases h
      exact .invalid rate (Bool.eq_false_iff.mpr hrate)

theorem checked_eq_ok {answer : Except ClientError Binary64} {rate : Binary64}
    (h : checked answer = .ok rate) : answer = .ok rate ∧ rate.isPositiveFinite = true := by
  cases answer with
  | error e => cases h
  | ok found =>
    simp only [checked] at h
    split at h
    next hrate =>
      cases h
      exact ⟨rfl, hrate⟩
    next => cases h

theorem settle_settled (slot : RateSlot) (now : ℕ) (answer : Except ClientError Binary64) :
    Settled slot now answer (slot.settle now answer).1 (slot.settle now answer).2 := by
  unfold settle
  cases hchecked : checked answer with
  | ok rate =>
    obtain ⟨rfl, hrate⟩ := checked_eq_ok hchecked
    exact .refreshed rate hrate
  | error cause =>
    have hcause := checked_eq_error hchecked
    cases slot with
    | none => exact .failed hcause (by simp [HoldsWithin])
    | some cached =>
      simp only
      split
      next hage =>
        exact .fallback cached.rate hcause ⟨cached.observedAt, rfl, of_decide_eq_true hage⟩
      next hage =>
        refine .failed hcause ?_
        rintro ⟨rate, observedAt, heq, hheld⟩
        cases heq
        exact hage (decide_eq_true hheld)

/-- Only positive finite rates are in the slot. -/
def Good (slot : RateSlot) : Prop :=
  ∀ cached ∈ slot, cached.rate.isPositiveFinite = true

theorem Good.of_holdsWithin {slot : RateSlot} {now seconds : ℕ} {rate : Binary64}
    (h : slot.Good) (hheld : slot.HoldsWithin now seconds rate) :
    rate.isPositiveFinite = true := by
  obtain ⟨observedAt, rfl, -⟩ := hheld
  exact h _ rfl

theorem Settled.good {slot after : RateSlot} {now : ℕ} {answer : Except ClientError Binary64}
    {result : Except BackendError Binary64} (h : Settled slot now answer result after)
    (hslot : slot.Good) :
    after.Good ∧ ∀ rate, result = .ok rate → rate.isPositiveFinite = true := by
  cases h with
  | refreshed rate hrate =>
    constructor
    · rintro _ ⟨⟩
      exact hrate
    · rintro _ ⟨⟩
      exact hrate
  | fallback rate hcause hheld =>
    refine ⟨hslot, ?_⟩
    rintro _ ⟨⟩
    exact hslot.of_holdsWithin hheld
  | failed hcause hheld => exact ⟨hslot, fun rate heq => by cases heq⟩

end RateSlot

namespace Lookup

/-- The source was asked once at most, and what was handed out is a rate. -/
def Good (l : Lookup) : Prop :=
  l.asked ≤ 1 ∧ ∀ rate, l.result = some (.ok rate) → rate.isPositiveFinite = true

end Lookup

namespace Lookups

variable {s : Lookups} {l : Lookup} {call : ℕ}

/-- A look-up is touched by nothing but an answer to it, and by that only while it waits. -/
theorem step_calls (h : s.calls[call]? = some l) (e : Event)
    (hkeep : l.result.isSome ∨ ∀ answer, e ≠ .answered call answer) :
    (step s e).calls[call]? = some l := by
  have hlt : call < s.calls.length := (List.getElem?_eq_some_iff.mp h).1
  cases e with
  | begin =>
    simp only [step]
    split <;> simpa [List.getElem?_append_left hlt] using h
  | answered other answer =>
    simp only [step]
    split
    next asked hwaiting =>
      have hne : other ≠ call := by
        rintro rfl
        rw [h] at hwaiting
        cases hwaiting
        rcases hkeep with hsome | hother
        · cases hsome
        · exact hother answer rfl
      simpa [List.getElem?_set_ne hne] using h
    next => exact h
  | store rate observedAt =>
    simp only [step]
    split <;> exact h
  | clock now => exact h

theorem run_calls {events : List Event} (h : s.calls[call]? = some l)
    (hkeep : l.result.isSome ∨ ∀ answer, .answered call answer ∉ events) :
    (run s events).calls[call]? = some l := by
  induction events generalizing s with
  | nil => exact h
  | cons e rest ih =>
    rw [run_cons]
    apply ih
    · refine step_calls h e (hkeep.imp_right fun hnot answer heq => ?_)
      exact hnot answer (heq ▸ List.mem_cons_self)
    · exact hkeep.imp_right fun hnot answer hmem => hnot answer (List.mem_cons_of_mem _ hmem)

structure Sound (s : Lookups) : Prop where
  slot : s.slot.Good
  calls : ∀ l ∈ s.calls, l.Good

theorem start_sound (clock : ℕ) : Sound (start clock) := by
  constructor <;> simp [start, RateSlot.Good]

theorem step_sound (h : Sound s) (e : Event) : Sound (step s e) := by
  cases e with
  | begin =>
    simp only [step]
    split
    next rate hfresh =>
      have hrate := h.slot.of_holdsWithin (RateSlot.fresh?_eq_some_iff.mp hfresh)
      refine ⟨h.slot, fun l hl => ?_⟩
      rcases List.mem_append.mp hl with hold | hnew
      · exact h.calls l hold
      · rw [List.mem_singleton.mp hnew]
        exact ⟨Nat.zero_le 1, by rintro _ ⟨⟩; exact hrate⟩
    next =>
      refine ⟨h.slot, fun l hl => ?_⟩
      rcases List.mem_append.mp hl with hold | hnew
      · exact h.calls l hold
      · rw [List.mem_singleton.mp hnew]
        exact ⟨Nat.le_refl 1, fun rate heq => by cases heq⟩
  | answered call answer =>
    simp only [step]
    split
    next asked hwaiting =>
      obtain ⟨hslot, hresult⟩ := (RateSlot.settle_settled s.slot s.clock answer).good h.slot
      refine ⟨hslot, fun l hl => ?_⟩
      rcases List.mem_or_eq_of_mem_set hl with hold | rfl
      · exact h.calls l hold
      · refine ⟨(h.calls _ (List.mem_of_getElem? hwaiting)).1, fun rate heq => ?_⟩
        exact hresult rate (Option.some.inj heq)
    next => exact h
  | store rate observedAt =>
    simp only [step, ExchangeRate.observed]
    split
    next found hfound =>
      refine ⟨?_, h.calls⟩
      rintro _ ⟨⟩
      split at hfound
      next hrate =>
        cases hfound
        exact hrate
      next => cases hfound
    next => exact h
  | clock now => exact ⟨h.slot, h.calls⟩

theorem run_sound (h : Sound s) (events : List Event) : Sound (run s events) := by
  induction events generalizing s with
  | nil => exact h
  | cons e rest ih => exact ih (step_sound h e)

theorem begin_fresh {rate : Binary64} (h : s.slot.HoldsWithin s.clock 300 rate) :
    step s .begin = { s with calls := s.calls ++ [⟨0, some (.ok rate)⟩] } := by
  simp only [step, RateSlot.fresh?_eq_some_iff.mpr h]

theorem begin_stale (h : ¬∃ rate, s.slot.HoldsWithin s.clock 300 rate) :
    step s .begin = { s with calls := s.calls ++ [⟨1, none⟩] } := by
  simp only [step, RateSlot.fresh?_eq_none_iff.mpr h]

theorem answered_waiting {asked : ℕ} (h : s.calls[call]? = some ⟨asked, none⟩)
    (answer : Except ClientError Binary64) :
    ∃ result, RateSlot.Settled s.slot s.clock answer result (step s (.answered call answer)).slot ∧
      (step s (.answered call answer)).calls[call]? = some ⟨asked, some result⟩ := by
  have hlt : call < s.calls.length := (List.getElem?_eq_some_iff.mp h).1
  refine ⟨(s.slot.settle s.clock answer).1, ?_, ?_⟩ <;> simp only [step, h]
  · exact RateSlot.settle_settled s.slot s.clock answer
  · exact List.getElem?_set_self hlt

/-- The policy, for a look-up that begins anywhere in a run. With a rate younger than five minutes
in the slot it is served at once and no source is asked. Otherwise its source is asked once, and
when the answer is there the slot and the clock of that moment say what becomes of it; nothing that
happens before, between or after changes this. -/
theorem lookup_policy (clock : ℕ) (before during after : List Event) :
    let s := run (start clock) before
    let call := s.calls.length
    let t := run (step s .begin) during
    (∀ l ∈ s.calls, l.asked ≤ 1 ∧ ∀ rate, l.result = some (.ok rate) →
      rate.isPositiveFinite = true) ∧
    (step s .begin).slot = s.slot ∧
    (∀ rate, s.slot.HoldsWithin s.clock 300 rate →
      t.calls[call]? = some ⟨0, some (.ok rate)⟩) ∧
    ((¬∃ rate, s.slot.HoldsWithin s.clock 300 rate) →
      (∀ answer, .answered call answer ∉ during) →
      t.calls[call]? = some ⟨1, none⟩ ∧
      ∀ answer, ∃ result,
        RateSlot.Settled t.slot t.clock answer result (step t (.answered call answer)).slot ∧
        (run (step t (.answered call answer)) after).calls[call]? = some ⟨1, some result⟩) := by
  intro s call t
  have hlast (l : Lookup) : (s.calls ++ [l])[call]? = some l := List.getElem?_concat_length
  refine ⟨(run_sound (start_sound clock) before).calls, ?_, fun rate hfresh => ?_,
    fun hstale hwaits => ?_⟩
  · simp only [step]
    split <;> rfl
  · refine run_calls ?_ (.inl rfl)
    rw [begin_fresh hfresh]
    exact hlast _
  · have hwaiting : t.calls[call]? = some ⟨1, none⟩ := by
      refine run_calls ?_ (.inr hwaits)
      rw [begin_stale hstale]
      exact hlast _
    refine ⟨hwaiting, fun answer => ?_⟩
    obtain ⟨result, hsettled, hdone⟩ := answered_waiting hwaiting answer
    exact ⟨result, hsettled, run_calls hdone (.inl rfl)⟩

end Lookups

end LightningDeposit
