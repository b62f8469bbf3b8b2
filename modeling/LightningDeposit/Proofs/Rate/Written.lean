import LightningDeposit.Proofs.Invoice.Creation

/-!
What is in a rate slot that many callers share. Every write puts a positive finite rate there and
the slot holds the last one; nothing else touches it. While the clock does not go back and rates are
stored as they are observed, the slot does not go back either. So whatever a look-up comes to, no
price in cents fails for the sake of the rate.
-/

namespace LightningDeposit

/-- A look-up has come to a positive finite rate or to none; cents can be priced with what it has
come to, unless there is no rate or they are too many. -/
structure Rated (result : Except BackendError Binary64) : Prop where
  positive : ∀ rate, result = .ok rate → rate.isPositiveFinite = true
  priced : ∀ cents rate, result.bind (Pricing.centsToMsats cents) ≠ .error (.invalidRate rate)

theorem rated_ok {rate : Binary64} (h : rate.isPositiveFinite = true) : Rated (.ok rate) := by
  constructor
  · intro other heq
    cases heq
    exact h
  · intro cents other hpriced
    cases Pricing.eq_amountOverflow h hpriced

theorem rated_unavailable (reason : ClientError) : Rated (.error (.rateUnavailable reason)) := by
  constructor
  · intro rate heq
    cases heq
  · intro cents rate hpriced
    cases hpriced

theorem RateSlot.Settled.rated {slot after : RateSlot} {now : ℕ}
    {answer : Except ClientError Binary64} {result : Except BackendError Binary64}
    (h : Settled slot now answer result after) (hslot : slot.Good) : Rated result := by
  cases result with
  | ok rate => exact rated_ok ((h.good hslot).2 rate rfl)
  | error cause =>
    obtain ⟨reason, rfl⟩ := h.of_error
    exact rated_unavailable reason

namespace Backend

variable {b : Backend} {s : Surroundings}

theorem exchangeRate_rated (b : Backend) (h : s.slot.Good) : Rated (b.exchangeRate s).1 := by
  rcases b.exchangeRate_cases s with ⟨rate, hheld, hrate⟩ | ⟨-, -, hsettled⟩
  · rw [hrate]
    exact rated_ok (h.of_holdsWithin hheld)
  · exact hsettled.rated h

theorem toMsats_ne_invalidRate (h : Rated (b.exchangeRate s).1) {amount : Amount}
    {rate : Binary64} : (b.toMsats amount s).1 ≠ .error (.invalidRate rate) := by
  intro hmsats
  cases toMsats_eq_error hmsats with
  | cents value =>
    rw [toMsats_usd] at hmsats
    exact h.priced value rate hmsats

end Backend

namespace Lookups

variable {s : Lookups} {e : Event} {v : ExchangeRate}

/-- The look-up has asked its source and has no answer yet. -/
def Waits (s : Lookups) (call : ℕ) : Prop := ∃ asked, s.calls[call]? = some ⟨asked, none⟩

instance (s : Lookups) (call : ℕ) : Decidable (s.Waits call) :=
  decidable_of_iff ((s.calls[call]?.map Lookup.result) = some none) <| by
    simp only [Waits, Option.map_eq_some_iff]
    constructor
    · rintro ⟨⟨asked, result⟩, hcall, rfl⟩
      exact ⟨asked, hcall⟩
    · rintro ⟨asked, hcall⟩
      exact ⟨_, hcall, rfl⟩

/-- What an event writes: the rate that is stored, or the one that a look-up has waited for, with
the time at which it is there. What is no rate is not written. -/
def written? (s : Lookups) : Event → Option ExchangeRate
  | .store rate observedAt => if rate.isPositiveFinite then some ⟨rate, observedAt⟩ else none
  | .answered call (.ok rate) =>
    if s.Waits call ∧ rate.isPositiveFinite then some ⟨rate, s.clock⟩ else none
  | _ => none

/-- All that is written in a run, in its order. -/
def writes (s : Lookups) : List Event → List ExchangeRate
  | [] => []
  | e :: rest => (s.written? e).toList ++ writes (step s e) rest

theorem written?_positive (h : s.written? e = some v) : v.rate.isPositiveFinite = true := by
  cases e with
  | begin => cases h
  | answered call answer =>
    cases answer with
    | error cause => cases h
    | ok rate =>
      simp only [written?] at h
      split at h
      next hwritten =>
        cases h
        exact hwritten.2
      next => cases h
  | store rate observedAt =>
    simp only [written?] at h
    split at h
    next hrate =>
      cases h
      exact hrate
    next => cases h
  | clock now => cases h

theorem writes_positive {events : List Event} (h : v ∈ writes s events) :
    v.rate.isPositiveFinite = true := by
  induction events generalizing s with
  | nil => cases h
  | cons e rest ih =>
    rcases List.mem_append.mp h with hnow | hlater
    · exact written?_positive (Option.mem_toList.mp hnow)
    · exact ih hlater

/-- A step changes the slot by its write and by nothing else. -/
theorem step_slot (s : Lookups) (e : Event) : (step s e).slot = (s.written? e).or s.slot := by
  cases e with
  | begin =>
    simp only [step]
    split <;> rfl
  | answered call answer =>
    by_cases hwaits : s.Waits call
    · obtain ⟨asked, hcall⟩ := hwaits
      have hwaits : s.Waits call := ⟨asked, hcall⟩
      simp only [step, hcall, RateSlot.settle]
      cases answer with
      | error cause =>
        simp only [RateSlot.checked, written?, Option.none_or]
        split
        next => split <;> rfl
        next => rfl
      | ok rate =>
        by_cases hrate : rate.isPositiveFinite = true
        · simp only [RateSlot.checked, written?, hrate, hwaits, and_self, ↓reduceIte,
            Option.some_or]
        · simp only [RateSlot.checked, written?, hrate, and_false, ↓reduceIte, Option.none_or,
            Bool.false_eq_true]
          split
          next => split <;> rfl
          next => rfl
    · have hstep : step s (.answered call answer) = s := by
        simp only [step]
        split
        next asked hcall => exact absurd ⟨asked, hcall⟩ hwaits
        next => rfl
      rw [hstep]
      cases answer with
      | error cause => rfl
      | ok rate => simp only [written?, hwaits, false_and, ↓reduceIte, Option.none_or]
  | store rate observedAt =>
    simp only [step, written?, ExchangeRate.observed]
    by_cases hrate : rate.isPositiveFinite = true <;> simp [hrate]
  | clock now => rfl

/-- After a run the slot holds what was written last, or what was there before. -/
theorem run_slot (s : Lookups) (events : List Event) :
    (run s events).slot = (writes s events).getLast?.or s.slot := by
  induction events generalizing s with
  | nil => rfl
  | cons e rest ih =>
    rw [run_cons, ih, step_slot, writes, List.getLast?_append, Option.or_assoc]
    cases s.written? e <;> rfl

theorem run_append (s : Lookups) (first rest : List Event) :
    run s (first ++ rest) = run (run s first) rest :=
  List.foldl_append

/-- The clock is not put back, and a rate is stored when it is observed. -/
def Onward (s : Lookups) : Event → Prop
  | .clock now => s.clock ≤ now
  | .store rate observedAt => rate.isPositiveFinite = true → observedAt = s.clock
  | _ => True

/-- Every event of a run is such a one. -/
def Forward (s : Lookups) : List Event → Prop
  | [] => True
  | e :: rest => s.Onward e ∧ Forward (step s e) rest

theorem forward_append {first rest : List Event} :
    Forward s (first ++ rest) ↔ Forward s first ∧ Forward (run s first) rest := by
  induction first generalizing s with
  | nil => simp [Forward]
  | cons e first ih => simp only [List.cons_append, Forward, ih, run_cons, and_assoc]

/-- What is in the slot has not been observed in the future. -/
def Timely (s : Lookups) : Prop := ∀ v ∈ s.slot, v.observedAt ≤ s.clock

theorem start_timely (clock : ℕ) : (start clock).Timely := by
  intro v hv
  cases hv

theorem step_clock (h : s.Onward e) : s.clock ≤ (step s e).clock := by
  cases e with
  | begin =>
    simp only [step]
    split <;> exact Nat.le_refl _
  | answered call answer =>
    simp only [step]
    split <;> exact Nat.le_refl _
  | store rate observedAt =>
    simp only [step]
    split <;> exact Nat.le_refl _
  | clock now => exact h

theorem written?_observedAt (h : s.Onward e) (hv : s.written? e = some v) :
    v.observedAt = s.clock := by
  cases e with
  | begin => cases hv
  | answered call answer =>
    cases answer with
    | error cause => cases hv
    | ok rate =>
      simp only [written?] at hv
      split at hv
      next =>
        cases hv
        rfl
      next => cases hv
  | store rate observedAt =>
    simp only [written?] at hv
    split at hv
    next hrate =>
      cases hv
      exact h hrate
    next => cases hv
  | clock now => cases hv

/-- A step does not take the slot back in time, nor past the clock. -/
theorem step_timely (h : s.Timely) (he : s.Onward e) :
    (step s e).Timely ∧ ∀ v ∈ s.slot, ∃ v' ∈ (step s e).slot, v.observedAt ≤ v'.observedAt := by
  have hclock := step_clock he
  rw [Timely, step_slot]
  cases hwritten : s.written? e with
  | none =>
    refine ⟨fun v hv => (h v hv).trans hclock, fun v hv => ⟨v, hv, Nat.le_refl _⟩⟩
  | some w =>
    have hnow := written?_observedAt he hwritten
    refine ⟨?_, fun v hv => ⟨w, rfl, ?_⟩⟩
    · intro v hv
      cases hv
      omega
    · have := h v hv
      omega

theorem run_timely {events : List Event} (h : s.Timely) (hevents : Forward s events) :
    (run s events).Timely ∧
      ∀ v ∈ s.slot, ∃ v' ∈ (run s events).slot, v.observedAt ≤ v'.observedAt := by
  induction events generalizing s with
  | nil => exact ⟨h, fun v hv => ⟨v, hv, Nat.le_refl _⟩⟩
  | cons e rest ih =>
    obtain ⟨hstep, hfirst⟩ := step_timely h hevents.1
    obtain ⟨hrun, hrest⟩ := ih hstep hevents.2
    refine ⟨hrun, fun v hv => ?_⟩
    obtain ⟨v', hv', hle⟩ := hfirst v hv
    obtain ⟨v'', hv'', hle'⟩ := hrest v' hv'
    exact ⟨v'', hv'', hle.trans hle'⟩

/-- Every look-up that has ended has come to a rate or to none. -/
def AllRated (calls : List Lookup) : Prop :=
  ∀ l ∈ calls, ∀ result, l.result = some result → Rated result

variable {calls : List Lookup} {l : Lookup}

theorem AllRated.append (h : AllRated calls) (hl : ∀ result, l.result = some result → Rated result) :
    AllRated (calls ++ [l]) := by
  intro other hother
  rcases List.mem_append.mp hother with hold | hnew
  · exact h other hold
  · rw [List.mem_singleton.mp hnew]
    exact hl

theorem AllRated.set (h : AllRated calls) (call : ℕ)
    (hl : ∀ result, l.result = some result → Rated result) : AllRated (calls.set call l) := by
  intro other hother
  rcases List.mem_or_eq_of_mem_set hother with hold | hnew
  · exact h other hold
  · rw [hnew]
    exact hl

theorem step_allRated (hs : s.Sound) (h : AllRated s.calls) (e : Event) :
    AllRated (step s e).calls := by
  cases e with
  | begin =>
    by_cases hfresh : ∃ rate, s.slot.HoldsWithin s.clock 300 rate
    · obtain ⟨rate, hheld⟩ := hfresh
      rw [begin_fresh hheld]
      apply h.append
      intro result heq
      cases heq
      exact rated_ok (hs.slot.of_holdsWithin hheld)
    · rw [begin_stale hfresh]
      apply h.append
      intro result heq
      cases heq
  | answered call answer =>
    simp only [step]
    split
    next asked hwaiting =>
      apply h.set
      intro result heq
      cases heq
      exact (RateSlot.settle_settled s.slot s.clock answer).rated hs.slot
    next => exact h
  | store rate observedAt =>
    simp only [step]
    split <;> exact h
  | clock now => exact h

theorem run_allRated {events : List Event} (hs : s.Sound) (h : AllRated s.calls) :
    AllRated (run s events).calls := by
  induction events generalizing s with
  | nil => exact h
  | cons e rest ih => exact ih (step_sound hs e) (step_allRated hs h e)

/-- What is done in one go, with these readings of the clock on the way, is a stretch of a run with
one more look-up, which comes to that result. -/
def Includes (s : Lookups) (readings : List ℕ) (result : Except BackendError Binary64)
    (after : Surroundings) : Prop :=
  ∃ stretch asked,
    run s stretch = ⟨after.slot, after.exchange.clock, s.calls ++ [⟨asked, some result⟩]⟩ ∧
    ((s.clock :: readings).Pairwise (· ≤ ·) → Forward s stretch)

theorem exchangeRate_included (s : Lookups) (b : Backend) (x : Exchange) :
    let rated := b.exchangeRate ⟨x, s.slot⟩
    s.Includes [x.clock, rated.2.exchange.clock] rated.1 rated.2 := by
  intro rated
  by_cases hfresh : ∃ rate, s.slot.HoldsWithin x.clock 300 rate
  · obtain ⟨rate, hrate⟩ := hfresh
    have hrated : rated = (.ok rate, ⟨x, s.slot⟩) := Backend.exchangeRate_of_fresh hrate
    have hbegin := begin_fresh (s := step s (.clock x.clock)) hrate
    rw [hrated]
    refine ⟨[.clock x.clock, .begin], 0, ?_, fun h => ?_⟩
    · rw [run_cons, run_cons, hbegin]
      rfl
    · exact ⟨List.rel_of_pairwise_cons h List.mem_cons_self, trivial, trivial⟩
  · have hrated := Backend.exchangeRate_of_stale (b := b) (s := ⟨x, s.slot⟩) hfresh
    have hbegin := begin_stale (s := step s (.clock x.clock)) hfresh
    rw [show rated = _ from hrated]
    refine ⟨[.clock x.clock, .begin, .clock (b.client.bitcoinPrice x).2.clock,
      .answered s.calls.length (b.client.bitcoinPrice x).1], 1, ?_, fun h => ?_⟩
    · rw [run_cons, run_cons, hbegin]
      simp [step]
    · refine ⟨List.rel_of_pairwise_cons h List.mem_cons_self, trivial, ?_, trivial, trivial⟩
      rw [hbegin]
      exact List.rel_of_pairwise_cons h.of_cons List.mem_cons_self

/-- The request for the charge only takes time. -/
theorem createInvoice_included (s : Lookups) (b : Backend) (x : Exchange) (cents : UInt64)
    (memo : Option String) :
    let rated := b.exchangeRate ⟨x, s.slot⟩
    let done := b.createInvoice ⟨.usd, cents⟩ memo ⟨x, s.slot⟩
    s.Includes [x.clock, rated.2.exchange.clock, done.2.exchange.clock] rated.1 done.2 := by
  intro rated done
  have hslot : done.2.slot = rated.2.slot :=
    (b.createInvoice_slot _ memo _).trans (by rw [Backend.toMsats_usd])
  obtain ⟨stretch, asked, hrun, hforward⟩ := exchangeRate_included s b x
  refine ⟨stretch ++ [.clock done.2.exchange.clock], asked, ?_, fun h => ?_⟩
  · rw [run_append, hrun, hslot]
    rfl
  · rw [forward_append, hrun]
    have hcharge := List.rel_of_pairwise_cons h.of_cons.of_cons List.mem_cons_self
    exact ⟨hforward (h.sublist (List.sublist_append_left [_, _, _] _)), hcharge, trivial⟩

/-- At any point of any run the slot is empty, before the first write, or holds the last one, and
all writes are positive finite rates; an event that writes nothing leaves it alone. While the clock
goes forward and rates are stored as they are observed, the slot does so too. Every look-up that has
ended came to a positive finite rate or to none, and cents are never refused for the sake of the
rate, neither those of a look-up of the run nor those of a backend that prices them now. What a
backend does in one go, be it a look-up or an invoice for cents, is included in these runs. -/
theorem slot_holds_last_write (clock : ℕ) (before after : List Event) :
    let s := run (start clock) before
    let t := run s after
    s.slot = (writes (start clock) before).getLast? ∧
    (∀ v ∈ writes (start clock) before, v.rate.isPositiveFinite = true) ∧
    (∀ e, (step s e).slot = (s.written? e).or s.slot) ∧
    (s.slot.isSome → t.slot.isSome) ∧
    (Forward (start clock) (before ++ after) →
      ∀ v ∈ s.slot, ∃ v' ∈ t.slot, v.observedAt ≤ v'.observedAt) ∧
    (∀ l ∈ s.calls, ∀ result, l.result = some result → Rated result) ∧
    ∀ (b : Backend) (x : Exchange),
      let rated := b.exchangeRate ⟨x, s.slot⟩
      Rated rated.1 ∧
      (∀ amount rate, (b.toMsats amount ⟨x, s.slot⟩).1 ≠ .error (.invalidRate rate)) ∧
      s.Includes [x.clock, rated.2.exchange.clock] rated.1 rated.2 ∧
      ∀ cents memo,
        let done := b.createInvoice ⟨.usd, cents⟩ memo ⟨x, s.slot⟩
        s.Includes [x.clock, rated.2.exchange.clock, done.2.exchange.clock] rated.1 done.2 := by
  intro s t
  have hs : s.Sound := run_sound (start_sound clock) before
  refine ⟨?_, fun v hv => writes_positive hv, step_slot s, fun hsome => ?_, fun hforward => ?_,
    run_allRated (start_sound clock) ?_, fun b x => ?_⟩
  · exact (run_slot (start clock) before).trans Option.or_none
  · simp only [t, run_slot, Option.isSome_or, hsome, Bool.or_true]
  · obtain ⟨hbefore, hafter⟩ := forward_append.mp hforward
    exact (run_timely (run_timely (start_timely clock) hbefore).1 hafter).2
  · intro l hl
    cases hl
  · have hrated := Backend.exchangeRate_rated b (s := ⟨x, s.slot⟩) hs.slot
    exact ⟨hrated, fun amount rate => Backend.toMsats_ne_invalidRate hrated,
      exchangeRate_included s b x, createInvoice_included s b x⟩

end Lookups

end LightningDeposit
