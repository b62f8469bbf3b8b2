import LightningDeposit.Proofs.Backend.Setup
import LightningDeposit.Proofs.World.Traffic

/-!
What failures leave behind. A command that fails leaves the session as it was, and so does a call,
whatever goes on beside it; only an invoice that has fetched a rate has stored it before it fails,
as it was fetched and with the time at which it came.
-/

namespace LightningDeposit

namespace Progress

/-- Nothing is left to do that would touch the session. -/
def Past : Progress → Prop
  | .charging _ | .ended _ => True
  | .idle | .pricing _ | .connecting _ => False

theorem past_billed (b : Backend) (memo : Option String) (msats : Except BackendError UInt64) :
    (billed b memo msats).Past := by
  cases msats <;> trivial

end Progress

theorem Purpose.past_served (purpose : Purpose) (found : Except BackendError Binary64) :
    (purpose.served found).Past := by
  cases purpose with
  | lookUp slot => trivial
  | invoice desk cents memo => exact Progress.past_billed _ _ _

theorem RateSlot.settle_slot_of_not_rate {slot : RateSlot} {now : ℕ}
    {answer : Except ClientError Binary64}
    (h : ∀ rate, answer = .ok rate → rate.isPositiveFinite = false) :
    (slot.settle now answer).2 = slot := by
  have hsettled := RateSlot.settle_settled slot now answer
  generalize slot.settle now answer = settled at hsettled ⊢
  obtain ⟨result, content⟩ := settled
  cases hsettled with
  | refreshed rate hrate =>
    rw [h rate rfl] at hrate
    cases hrate
  | fallback => rfl
  | failed => rfl

namespace Traffic

variable {t : Traffic} {e : Event} {call : ℕ} {purpose : Purpose} {rate : Binary64}

/-- The call waits for the price and is answered a rate. -/
structure Refreshes (t : Traffic) (call : ℕ) (purpose : Purpose) (rate : Binary64) : Prop where
  waiting : t.calls call = .pricing purpose
  good : rate.isPositiveFinite = true

theorem step_of_refreshes (h : t.Refreshes call purpose rate) :
    t.step (.priced call (.ok rate)) =
      (t.store purpose.slot (some ⟨rate, t.clock⟩)).put call (purpose.served (.ok rate)) := by
  simp only [step, h.waiting, RateSlot.settle, RateSlot.checked, h.good, ↓reduceIte]

/-- What a call does to the session in a step: nothing, or it stores the rate that it is answered,
or opens its stream and is over. -/
inductive Does (t : Traffic) (call : ℕ) : Event → Prop
  | nothing {e : Event} (h : (t.step e).session = t.session) : Does t call e
  | refreshes {purpose : Purpose} {rate : Binary64} (h : t.Refreshes call purpose rate) :
    Does t call (.priced call (.ok rate))
  | opens {source : Source}
    (h : (t.step (.connected call (some source))).calls call = .ended (.stream (.ok ()))) :
    Does t call (.connected call (some source))

theorem step_does (h : e.call? = some call) : t.Does call e := by
  cases e with
  | command command => cases h
  | begin _ _ | charged _ _ =>
    cases h
    refine .nothing ?_
    simp only [step]
    split <;> rfl
  | priced _ answer =>
    cases h
    cases hcall : t.calls call with
    | pricing purpose =>
      by_cases hrate : ∀ rate, answer = .ok rate → rate.isPositiveFinite = false
      · refine .nothing ?_
        simp only [step, hcall, RateSlot.settle_slot_of_not_rate hrate, session_put, store,
          Session.stored_same]
      · push Not at hrate
        obtain ⟨rate, rfl, hgood⟩ := hrate
        exact .refreshes ⟨hcall, Bool.eq_true_of_not_eq_false hgood⟩
    | _ => exact .nothing (by simp only [step, hcall])
  | connected _ source =>
    cases h
    cases hcall : t.calls call with
    | connecting desk =>
      cases source with
      | none => exact .nothing (by simp only [step, hcall, session_put])
      | some source => exact .opens (by simp only [step, hcall, calls_put])
    | _ => exact .nothing (by simp only [step, hcall])

/-- What is over stays over, with the same ending. -/
theorem step_ended {ending : Ending} (h : t.calls call = .ended ending) :
    (t.step e).calls call = .ended ending := by
  by_cases hown : e.call? = some call
  · cases e with
    | command command => cases hown
    | _ => cases hown; simp only [step, h]
  · rw [step_calls_of_ne hown, h]

theorem run_ended {ending : Ending} (h : t.calls call = .ended ending) (events : List Event) :
    (t.run events).calls call = .ended ending := by
  induction events generalizing t with
  | nil => exact h
  | cons e rest ih => exact ih (step_ended h)

/-- A call that has nothing left to do does nothing. -/
theorem step_past (h : (t.calls call).Past) : ((t.step e).calls call).Past ∧
    (e.call? = some call → (t.step e).session = t.session) := by
  cases hcall : t.calls call with
  | ended ending =>
    rw [step_ended hcall]
    refine ⟨trivial, fun hown => ?_⟩
    cases e with
    | command command => cases hown
    | _ => cases hown; simp only [step, hcall]
  | charging request =>
    by_cases hown : e.call? = some call
    · cases e with
      | command command => cases hown
      | charged _ answer =>
        cases hown
        simp only [step, hcall, calls_put, session_put, Progress.Past, implies_true, and_self]
      | _ => cases hown; simp only [step, hcall, Progress.Past, implies_true, and_self]
    · rw [step_calls_of_ne hown]
      exact ⟨h, fun heq => absurd heq hown⟩
  | _ => rw [hcall] at h; cases h

theorem run_past (h : (t.calls call).Past) (events : List Event) :
    ((t.run events).calls call).Past := by
  induction events generalizing t with
  | nil => exact h
  | cons e rest ih => exact ih (step_past h).1

/-- In all the run the call does nothing to the session. -/
def Quiet (t : Traffic) (call : ℕ) : List Event → Prop
  | [] => True
  | e :: rest =>
    (e.call? = some call → (t.step e).session = t.session) ∧ (t.step e).Quiet call rest

theorem quiet_of_past (h : (t.calls call).Past) (events : List Event) : t.Quiet call events := by
  induction events generalizing t with
  | nil => trivial
  | cons e rest ih => exact ⟨(step_past h).2, ih (step_past h).1⟩

/-- A call that has something left to do has done nothing. -/
theorem quiet_of_not_past {events : List Event} (h : ¬((t.run events).calls call).Past) :
    t.Quiet call events := by
  induction events generalizing t with
  | nil => trivial
  | cons e rest ih =>
    refine ⟨fun hown => ?_, ih h⟩
    have hnot : ¬((t.step e).calls call).Past := fun hpast => h (run_past hpast rest)
    cases step_does hown with
    | nothing hsame => exact hsame
    | refreshes hrefreshes =>
      rw [step_of_refreshes hrefreshes, calls_put] at hnot
      exact absurd (Purpose.past_served _ _) hnot
    | opens hended =>
      rw [hended] at hnot
      exact absurd trivial hnot

end Traffic

/-- The call has failed. -/
def Ending.Failed : Ending → Prop
  | .rate answer => ∃ cause, answer = .error cause
  | .invoice response => response.ok = false
  | .stream answer => ∃ cause, answer = .error cause

namespace Traffic

variable {t : Traffic} {e : Event} {call : ℕ} {purpose : Purpose} {rate : Binary64}
  {ending : Ending} {events : List Event}

/-- A call that is to fail may store a rate only, and does so for an invoice only. -/
theorem quiet_of_failed (hend : (t.run events).calls call = .ended ending) (hfailed : ending.Failed)
    (hnone : ∀ before purpose rate after, events = before ++ .priced call (.ok rate) :: after →
      ¬(t.run before).Refreshes call purpose rate) : t.Quiet call events := by
  induction events generalizing t with
  | nil => trivial
  | cons e rest ih =>
    refine ⟨fun hown => ?_, ih hend fun before purpose rate after heq => ?_⟩
    · cases step_does hown with
      | nothing hsame => exact hsame
      | refreshes hrefreshes => exact absurd hrefreshes (hnone [] _ _ _ rfl)
      | opens hopened =>
        -- A call that has opened its stream is over and has not failed.
        cases (run_ended hopened rest).symm.trans hend
        obtain ⟨cause, hcause⟩ := hfailed
        cases hcause
    · exact hnone (e :: before) purpose rate after (congrArg _ heq)

theorem invoice_of_refreshes {after : List Event} (h : t.Refreshes call purpose rate)
    (hend : ((t.step (.priced call (.ok rate))).run after).calls call = .ended ending)
    (hfailed : ending.Failed) : ∃ desk cents memo, purpose = .invoice desk cents memo := by
  cases purpose with
  | invoice desk cents memo => exact ⟨desk, cents, memo, rfl⟩
  | lookUp slot =>
    have hserved : (t.step (.priced call (.ok rate))).calls call = .ended (.rate (.ok rate)) := by
      rw [step_of_refreshes h, calls_put]
      rfl
    cases (run_ended hserved after).symm.trans hend
    obtain ⟨cause, hcause⟩ := hfailed
    cases hcause

/-- What is left of a run when a call is taken out of it. -/
def without (call : ℕ) (events : List Event) : List Event :=
  events.filter fun e => e.call? ≠ some call

theorem step_eq_put (h : e.call? = some call) (hsame : (t.step e).session = t.session) :
    t.step e = t.put call ((t.step e).calls call) := by
  have hcalls : (t.step e).calls = Function.update t.calls call ((t.step e).calls call) := by
    funext other
    by_cases hother : other = call
    · rw [hother, Function.update_self]
    · rw [Function.update_of_ne hother]
      refine step_calls_of_ne fun heq => hother ?_
      exact Option.some.inj (heq.symm.trans h)
  generalize hnext : t.step e = next at hsame hcalls ⊢
  obtain ⟨session, calls⟩ := next
  cases hsame
  exact congrArg (Traffic.mk t.session) hcalls

/-- A call that does nothing can be taken out of a run. -/
theorem run_without {progress : Progress} (h : (t.put call progress).Quiet call events) :
    ∃ last, (t.put call progress).run events = (t.run (without call events)).put call last := by
  induction events generalizing t progress with
  | nil => exact ⟨progress, rfl⟩
  | cons e rest ih =>
    obtain ⟨hsame, hrest⟩ := h
    by_cases hown : e.call? = some call
    · have hwithout : without call (e :: rest) = without call rest := by simp [without, hown]
      rw [run_cons, hwithout]
      rw [step_eq_put hown (hsame hown), put_put] at hrest ⊢
      exact ih hrest
    · have hwithout : without call (e :: rest) = e :: without call rest := by simp [without, hown]
      rw [run_cons, hwithout, run_cons]
      rw [step_put hown] at hrest ⊢
      exact ih hrest

theorem step_store (t : Traffic) (slot observedAt : ℕ) (h : rate.isPositiveFinite = true) :
    t.step (.command (.store slot rate observedAt)) = t.store slot (some ⟨rate, observedAt⟩) := by
  simp only [step, Session.perform, World.storeRate, ExchangeRate.observed, h, ↓reduceIte]
  rfl

/-- A failed call might as well not have been made, but for the rate that it stored: a run with it
comes to the same as the run without it, where it stored no rate, and otherwise as the run in which
that rate is stored in its stead at that moment. Only an invoice is able to fail after that. -/
theorem run_of_failed (hend : (t.run events).calls call = .ended ending) (hfailed : ending.Failed) :
    ((∀ before purpose rate after, events = before ++ .priced call (.ok rate) :: after →
        ¬(t.run before).Refreshes call purpose rate) →
      t.run events = (t.run (without call events)).put call (.ended ending)) ∧
    ∀ before purpose rate after, events = before ++ .priced call (.ok rate) :: after →
      (t.run before).Refreshes call purpose rate →
      (∃ desk cents memo, purpose = .invoice desk cents memo) ∧
      t.run events = (t.run (without call before ++
        .command (.store purpose.slot rate (t.run before).clock) :: without call after)).put call
          (.ended ending) := by
  have hlast {other : Traffic} {last : Progress} (h : t.run events = other.put call last) :
      t.run events = other.put call (.ended ending) := by
    rw [h, calls_put] at hend
    rw [h, hend]
  constructor
  · intro hnone
    have hquiet := quiet_of_failed hend hfailed hnone
    rw [← put_same t call] at hquiet
    obtain ⟨last, hrun⟩ := run_without hquiet
    rw [put_same] at hrun
    exact hlast hrun
  · rintro before purpose rate after rfl hrefreshes
    -- Before it refreshes the call has something left to do, and after that nothing.
    have hbefore : t.Quiet call before := by
      apply quiet_of_not_past
      rw [hrefreshes.waiting]
      exact not_false
    rw [← put_same t call] at hbefore
    obtain ⟨waiting, hwaits⟩ := run_without hbefore
    rw [put_same] at hwaits
    have hstore : (t.run before).step (.priced call (.ok rate)) =
        ((t.run (without call before)).step
          (.command (.store purpose.slot rate (t.run before).clock))).put call
            (purpose.served (.ok rate)) := by
      rw [step_of_refreshes hrefreshes, step_store _ _ _ hrefreshes.good, hwaits]
      exact put_put ((t.run (without call before)).store _ _) call waiting _
    have hafter : ((t.run before).step (.priced call (.ok rate))).Quiet call after := by
      apply quiet_of_past
      rw [hstore, calls_put]
      exact Purpose.past_served _ _
    have hinvoice : ∃ desk cents memo, purpose = .invoice desk cents memo := by
      rw [run_append, run_cons] at hend
      exact invoice_of_refreshes hrefreshes hend hfailed
    rw [hstore] at hafter
    obtain ⟨last, hrun⟩ := run_without hafter
    have hcame : t.run (before ++ .priced call (.ok rate) :: after) =
        (t.run (without call before ++
          .command (.store purpose.slot rate (t.run before).clock) :: without call after)).put call
            last := by
      rw [run_append, run_cons, hstore, hrun, run_append, run_cons]
    exact ⟨hinvoice, hlast hcame⟩

end Traffic

/-- An answer that tells of a failure. -/
def Outcome.Failed : Outcome → Prop
  | .status response => response.errorMessage ≠ none
  | .invoice response => response.ok = false
  | .charge found => found.errorMessage ≠ none
  | .rate answer => ∃ cause, answer = .error cause
  | .pay answer => ∃ cause, answer = .error cause
  | .payment answer => ∃ cause, answer = .error cause
  | .quote answer => ∃ cause, answer = .error cause

def Answer.Failed : Answer → Prop
  | .refused _ => True
  | .told outcome => outcome.Failed
  | .done | .absent | .polled _ | .desk _ | .stream _ _ => False

/-- All commands but two: a stream that cannot be closed properly is closed all the same, and an
invoice may have fetched a rate. -/
def Command.AllOrNothing : Command → Prop
  | .act (.on _ .close) => False
  | .ask _ (.invoice _ _) _ _ => False
  | _ => True

namespace Backend

variable {b : Backend} {x : Surroundings}

theorem slot_of_exchangeRate_error {cause : BackendError}
    (h : (b.exchangeRate x).1 = .error cause) : (b.exchangeRate x).2.slot = x.slot := by
  rcases b.exchangeRate_cases x with ⟨rate, -, hrate⟩ | ⟨-, -, hsettled⟩
  · rw [hrate]
  · rw [h] at hsettled
    exact hsettled.slot_of_error

/-- The invoice is over cents, finds no fresh rate and is answered one. -/
structure Fetches (b : Backend) (amount : Amount) (x : Surroundings) (rate : Binary64) : Prop where
  unit : amount.unit = .usd
  stale : ¬∃ rate, x.slot.HoldsWithin x.exchange.clock 300 rate
  answer : (b.client.bitcoinPrice x.exchange).1 = .ok rate
  good : rate.isPositiveFinite = true

theorem Fetches.slot {amount : Amount} {rate : Binary64} (h : b.Fetches amount x rate)
    (memo : Option String) : (b.createInvoice amount memo x).2.slot =
      some ⟨rate, (b.client.bitcoinPrice x.exchange).2.clock⟩ := by
  obtain ⟨unit, value⟩ := amount
  obtain ⟨rfl, hstale, hanswer, hgood⟩ := h
  rw [createInvoice_slot, toMsats_usd, exchangeRate_of_stale hstale, hanswer]
  simp only [RateSlot.settle, RateSlot.checked, hgood, ↓reduceIte]

theorem slot_of_not_fetches {amount : Amount} (h : ¬∃ rate, b.Fetches amount x rate)
    (memo : Option String) : (b.createInvoice amount memo x).2.slot = x.slot := by
  rw [createInvoice_slot]
  obtain ⟨unit, value⟩ := amount
  cases unit with
  | usd =>
    rw [toMsats_usd]
    rcases b.exchangeRate_cases x with ⟨rate, -, hrate⟩ | ⟨hstale, -⟩
    · rw [hrate]
    · rw [exchangeRate_of_stale hstale]
      refine RateSlot.settle_slot_of_not_rate fun rate hanswer => ?_
      exact Bool.eq_false_of_not_eq_true fun hgood => h ⟨rate, rfl, hstale, hanswer, hgood⟩
  | _ => rfl

/-- No address of a message broker is as good as an empty one. -/
theorem redisUrl_eq_none {settings : Settings} {unit : CurrencyUnit}
    (h : new settings unit = .ok b)
    (hredis : settings.redisUrl = none ∨ settings.redisUrl = some "") : b.redisUrl = none := by
  obtain ⟨baseUrl, -, rfl⟩ := new_eq_ok_iff.mp h
  rcases hredis with hredis | hredis
  · rw [ofSettings, hredis]
    rfl
  · rw [ofSettings, hredis]
    rfl

end Backend

namespace Session

variable {s : Session} {number : ℕ} {held : HeldDesk}

theorem perform_ask (h : s.desks[number]? = some held) (operation : Operation) (reachable : Bool)
    (script : List Turn) :
    let ran := operation.run held.desk.backend
      ⟨⟨s.world.clock, reachable, script, []⟩, s.world.slot held.desk.slot⟩
    s.perform (.ask number operation reachable script) =
      (⟨.told ran.1, ran.2.exchange.sent⟩,
        (s.stored held.desk.slot ran.2.slot).passed ran.2.exchange.clock) := by
  simp only [perform, h]
  rfl

theorem act_of_failed {action : Action} (h : Command.AllOrNothing (.act action))
    (hfailed : (s.reply action).Failed) : s.step action = s := by
  cases action with
  | mount settings unit slot =>
    simp only [reply, step, World.mount] at hfailed ⊢
    cases hnew : Backend.new settings unit with
    | error cause => rfl
    | ok backend =>
      rw [hnew] at hfailed
      cases hfailed
  | openBroker desk connect =>
    simp only [reply, step] at hfailed ⊢
    cases hheld : s.desks[desk]? with
    | none => rfl
    | some held =>
      simp only [hheld, World.openBrokerStream] at hfailed ⊢
      cases hurl : held.desk.backend.redisUrl with
      | none => rfl
      | some url =>
        simp only [hurl] at hfailed ⊢
        cases hconnect : connect url with
        | none => rfl
        | some source =>
          rw [hconnect] at hfailed
          cases hfailed
  | on stream action =>
    cases action with
    | close => cases h
    | _ => cases hfailed
  | _ => cases hfailed

/-- A command that fails leaves everything but the clock as it was. -/
theorem perform_of_failed {command : Command} (h : command.AllOrNothing)
    (hfailed : (s.perform command).1.answer.Failed) :
    ∃ now, (s.perform command).2 = s.passed now := by
  cases command with
  | act action => exact ⟨s.world.clock, act_of_failed h hfailed⟩
  | store slot rate observedAt =>
    refine ⟨s.world.clock, ?_⟩
    simp only [perform, World.storeRate] at hfailed ⊢
    cases hrate : ExchangeRate.observed rate observedAt with
    | error cause => rfl
    | ok found =>
      rw [hrate] at hfailed
      cases hfailed
  | ask number operation reachable script =>
    cases hheld : s.desks[number]? with
    | none => exact ⟨s.world.clock, by simp only [perform, hheld]; rfl⟩
    | some held =>
      rw [perform_ask hheld] at hfailed ⊢
      refine ⟨_, congrArg (fun s => passed s _) ?_⟩
      suffices hslot : (operation.run held.desk.backend ⟨⟨s.world.clock, reachable, script, []⟩,
          s.world.slot held.desk.slot⟩).2.slot = s.world.slot held.desk.slot by
        rw [hslot, stored_same]
      cases operation with
      | invoice amount memo => cases h
      | rate =>
        obtain ⟨cause, hcause⟩ := hfailed
        exact Backend.slot_of_exchangeRate_error hcause
      | _ => rfl
  | look desk =>
    simp only [perform] at hfailed
    split at hfailed <;> cases hfailed
  | lookAtStream stream =>
    simp only [perform] at hfailed
    split at hfailed <;> cases hfailed
  | _ => cases hfailed

/-- An invoice stores the rate that it fetches, with the time of the answer, and nothing else. -/
theorem perform_invoice (hheld : s.desks[number]? = some held) (amount : Amount)
    (memo : Option String) (reachable : Bool) (script : List Turn) :
    let b := held.desk.backend
    let x : Surroundings :=
      ⟨⟨s.world.clock, reachable, script, []⟩, s.world.slot held.desk.slot⟩
    let after := (s.perform (.ask number (.invoice amount memo) reachable script)).2
    ((¬∃ rate, b.Fetches amount x rate) → ∃ now, after = s.passed now) ∧
    ∀ rate, b.Fetches amount x rate → ∃ now,
      after = (s.stored held.desk.slot
        (some ⟨rate, (b.client.bitcoinPrice x.exchange).2.clock⟩)).passed now := by
  intro b x after
  have hafter : after = (s.stored held.desk.slot (b.createInvoice amount memo x).2.slot).passed
      (b.createInvoice amount memo x).2.exchange.clock :=
    congrArg Prod.snd (perform_ask hheld (.invoice amount memo) reachable script)
  rw [hafter]
  constructor
  · intro hnone
    rw [Backend.slot_of_not_fetches hnone]
    exact ⟨_, congrArg (fun s => passed s _) (stored_same _ _)⟩
  · intro rate hfetches
    rw [hfetches.slot]
    exact ⟨_, rfl⟩

end Session

namespace Traffic

/-- Failures leave the session as it was, whenever they come. A command that fails changes nothing
but the clock; an invoice changes its slot besides, into a rate that it was answered with the time
of the answer. A call that fails beside others might as well not have been made, or, where it is an
invoice that has fetched a rate, as well have been the storing of that rate at that moment. And
where no message broker is configured no stream can be opened from one. -/
theorem failures_leave_no_trace (t : Traffic) :
    (∀ command : Command, command.AllOrNothing → (t.session.perform command).1.answer.Failed →
      ∃ now, (t.session.perform command).2 = t.session.passed now) ∧
    (∀ number held amount memo reachable script, t.session.desks[number]? = some held →
      let b := held.desk.backend
      let s := t.surroundings held.desk.slot reachable script
      let after := (t.session.perform (.ask number (.invoice amount memo) reachable script)).2
      ((¬∃ rate, b.Fetches amount s rate) → ∃ now, after = t.session.passed now) ∧
      ∀ rate, b.Fetches amount s rate → ∃ now,
        after = (t.session.stored held.desk.slot
          (some ⟨rate, (b.client.bitcoinPrice s.exchange).2.clock⟩)).passed now) ∧
    (∀ call ending events, (t.run events).calls call = .ended ending → ending.Failed →
      ((∀ before purpose rate after, events = before ++ .priced call (.ok rate) :: after →
          ¬(t.run before).Refreshes call purpose rate) →
        t.run events = (t.run (without call events)).put call (.ended ending)) ∧
      ∀ before purpose rate after, events = before ++ .priced call (.ok rate) :: after →
        (t.run before).Refreshes call purpose rate →
        (∃ desk cents memo, purpose = .invoice desk cents memo) ∧
        t.run events = (t.run (without call before ++
          .command (.store purpose.slot rate (t.run before).clock) :: without call after)).put call
            (.ended ending)) ∧
    ∀ settings unit number held, t.session.desks[number]? = some held →
      Backend.new settings unit = .ok held.desk.backend →
      settings.redisUrl = none ∨ settings.redisUrl = some "" →
      (∀ connect, t.session.world.openBrokerStream held.desk connect =
        (.error .missingStreamEndpoint, t.session.world)) ∧
      ∀ call, t.calls call = .idle →
        t.step (.begin call (.stream number)) =
          t.put call (.ended (.stream (.error .missingStreamEndpoint))) := by
  refine ⟨fun command h hfailed => Session.perform_of_failed h hfailed,
    fun number held amount memo reachable script hheld =>
      Session.perform_invoice hheld amount memo reachable script,
    fun call ending events hend hfailed => run_of_failed hend hfailed, ?_⟩
  intro settings unit number held hheld hnew hredis
  have hurl := Backend.redisUrl_eq_none hnew hredis
  constructor
  · intro connect
    simp only [World.openBrokerStream, hurl]
  · intro call hidle
    rw [begin_of_idle hidle]
    simp only [opening, hheld, hurl]

/-- A charge is refused after the price has been fetched for it; meanwhile another call finds no
message broker to open a stream from. -/
theorem failures_leave_no_trace_for_refused_charge :
    let client : Client := ⟨"key", ⟨"http", "", "", some (.ipv4 2130706433), some 1, .segments [""],
      none, none⟩⟩
    let b : Backend := ⟨client, .usd, none, none, 900, "deposit"⟩
    let t : Traffic := ⟨⟨⟨1000, [none], [⟨0, 0⟩], ⟨[false], [0], []⟩⟩, [], [], 1,
      [⟨⟨b, 0, 0⟩, 0⟩], []⟩, fun _ => .idle⟩
    let price := Binary64.ofNat 50000
    let before : List Event :=
      [.begin 0 (.invoice 0 (.usdCents 100) none), .begin 1 (.stream 0), .command (.clock 1010)]
    let refused : Progress :=
      .ended (.invoice (.failed "ZBD create_invoice failed: HTTP error: no complete response"))
    t.run (before ++ [.priced 0 (.ok price), .command .newSlot, .charged 0 (.error .transport)]) =
      (t.run [.begin 1 (.stream 0), .command (.clock 1010), .command (.store 0 price 1010),
        .command .newSlot]).put 0 refused := by
  intro client b t price before refused
  have hrefreshes : (t.run before).Refreshes 0 (.invoice ⟨b, 0, 0⟩ 100 none) price :=
    ⟨rfl, by decide +kernel⟩
  have hmsats : Pricing.centsToMsats 100 price = .ok 2000000 := by decide +kernel
  have hserved : Purpose.served (.invoice ⟨b, 0, 0⟩ 100 none) (.ok price) =
      .charging (b.chargeRequest 2000000 none) :=
    congrArg (Progress.billed b none) hmsats
  have hend : (t.run (before ++ [.priced 0 (.ok price), .command .newSlot,
      .charged 0 (.error .transport)])).calls 0 = refused := by
    rw [run_append, run_cons, step_of_refreshes hrefreshes, hserved]
    rfl
  obtain ⟨-, -, hcalls, -⟩ := failures_leave_no_trace t
  exact ((hcalls 0 _ _ hend rfl).2 before (.invoice ⟨b, 0, 0⟩ 100 none) price _ rfl hrefreshes).2

end Traffic

end LightningDeposit
