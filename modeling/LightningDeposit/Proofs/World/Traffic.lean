import LightningDeposit.Proofs.Invoice.Creation
import LightningDeposit.Proofs.World.Dialogue
import Mathlib.Logic.Function.Basic

/-!
Calls that take time, side by side. A call for an exchange rate, for an invoice or for a stream over
the message broker waits for its far side; meanwhile the session goes on, and other calls come and
go. All that a call ever does to the session is to store a rate that it was answered, or to open the
stream that it was made for, and it does so in a single step.
-/

namespace LightningDeposit

/-- What the price of a bitcoin is asked for: a look-up on a slot, or an invoice over cents. -/
inductive Purpose where
  | lookUp (slot : ℕ)
  | invoice (desk : Desk) (cents : UInt64) (memo : Option String)

/-- What a call comes to in the end. -/
inductive Ending where
  | rate (answer : Except BackendError Binary64)
  | invoice (response : InvoiceResponse)
  | stream (answer : Except BackendError Unit)

/-- How far a call has come. -/
inductive Progress where
  | idle
  | pricing (purpose : Purpose)
  | charging (request : ChargeRequest)
  | connecting (desk : ℕ)
  | ended (ending : Ending)

namespace Progress

/-- An invoice whose amount has been converted, or could not be. -/
def billed (b : Backend) (memo : Option String) : Except BackendError UInt64 → Progress
  | .ok msats => .charging (b.chargeRequest msats memo)
  | .error cause => .ended (.invoice (.failed (Backend.pricingFailure cause)))

end Progress

namespace Purpose

def slot : Purpose → ℕ
  | .lookUp slot => slot
  | .invoice desk _ _ => desk.slot

/-- How a call goes on that is given a rate, or is told that there is none. -/
def served (purpose : Purpose) (found : Except BackendError Binary64) : Progress :=
  match purpose with
  | .lookUp _ => .ended (.rate found)
  | .invoice desk cents memo =>
    .billed desk.backend memo (found.bind (Pricing.centsToMsats cents))

end Purpose

namespace Session

def stored (s : Session) (slot : ℕ) (content : RateSlot) : Session :=
  { s with world := s.world.setSlot slot content }

/-- Time passes, and nothing else. -/
def passed (s : Session) (now : ℕ) : Session :=
  { s with world := { s.world with clock := now } }

theorem stored_same (s : Session) (slot : ℕ) : s.stored slot (s.world.slot slot) = s := by
  have hset : s.world.slots.set slot (s.world.slot slot) = s.world.slots := by
    rw [World.slot, List.getD_eq_getElem?_getD]
    rcases Nat.lt_or_ge slot s.world.slots.length with hlt | hge
    · rw [List.getElem?_eq_getElem hlt, Option.getD_some, List.set_getElem_self]
    · exact List.set_eq_of_length_le hge
  simp only [stored, World.setSlot, hset]

end Session

/-- A session and the calls that are made in it, by their numbers. -/
structure Traffic where
  session : Session
  calls : ℕ → Progress

namespace Traffic

/-- What a call is made for. -/
inductive Demand where
  | lookUp (slot : ℕ)
  | invoice (desk : ℕ) (amount : Amount) (memo : Option String)
  | stream (desk : ℕ)

inductive Event where
  | command (command : Command)
  | begin (call : ℕ) (demand : Demand)
  | priced (call : ℕ) (answer : Except ClientError Binary64)
  | charged (call : ℕ) (answer : Except ClientError Charge)
  | connected (call : ℕ) (source : Option Source)

/-- The call that takes a step; a command is no call's. -/
def Event.call? : Event → Option ℕ
  | .command _ => none
  | .begin call _ | .priced call _ | .charged call _ | .connected call _ => some call

def put (t : Traffic) (call : ℕ) (progress : Progress) : Traffic :=
  { t with calls := Function.update t.calls call progress }

def store (t : Traffic) (slot : ℕ) (content : RateSlot) : Traffic :=
  { t with session := t.session.stored slot content }

def clock (t : Traffic) : ℕ := t.session.world.clock

/-- A fresh rate is served at once; otherwise the price is asked for. -/
def enquire (s : Session) (purpose : Purpose) : Progress :=
  match (s.world.slot purpose.slot).fresh? s.world.clock with
  | some rate => purpose.served (.ok rate)
  | none => .pricing purpose

/-- How far a call comes at once. A number that no backend is held under begins nothing. -/
def opening (s : Session) : Demand → Progress
  | .lookUp slot => enquire s (.lookUp slot)
  | .invoice number amount memo =>
    match s.desks[number]? with
    | none => .idle
    | some ⟨desk, _⟩ =>
      match amount.unit with
      | .sat => .billed desk.backend memo (Pricing.satsToMsats amount.value)
      | .usd => enquire s (.invoice desk amount.value memo)
      | unit => .billed desk.backend memo (.error (.unsupportedUnit unit))
  | .stream number =>
    match s.desks[number]? with
    | none => .idle
    | some ⟨desk, _⟩ =>
      match desk.backend.redisUrl with
      | none => .ended (.stream (.error .missingStreamEndpoint))
      | some _ => .connecting number

/-- A number is used for one call, and an answer that no call waits for changes nothing. -/
def step (t : Traffic) : Event → Traffic
  | .command command => { t with session := (t.session.perform command).2 }
  | .begin call demand =>
    match t.calls call with
    | .idle => t.put call (opening t.session demand)
    | _ => t
  | .priced call answer =>
    match t.calls call with
    | .pricing purpose =>
      let (found, content) := (t.session.world.slot purpose.slot).settle t.clock answer
      (t.store purpose.slot content).put call (purpose.served found)
    | _ => t
  | .charged call answer =>
    match t.calls call with
    | .charging _ => t.put call (.ended (.invoice (Backend.invoiceOf answer)))
    | _ => t
  | .connected call source =>
    match t.calls call, source with
    | .connecting _, none => t.put call (.ended (.stream (.error .broker)))
    | .connecting desk, some source =>
      { t with session := t.session.step (.openFrom desk source) }.put call
        (.ended (.stream (.ok ())))
    | _, _ => t

def run (t : Traffic) (events : List Event) : Traffic :=
  events.foldl step t

@[simp]
theorem run_nil (t : Traffic) : t.run [] = t := rfl

@[simp]
theorem run_cons (t : Traffic) (e : Event) (rest : List Event) :
    t.run (e :: rest) = (t.step e).run rest := rfl

theorem run_append (t : Traffic) (first rest : List Event) :
    t.run (first ++ rest) = (t.run first).run rest :=
  List.foldl_append

@[simp]
theorem session_put (t : Traffic) (call : ℕ) (progress : Progress) :
    (t.put call progress).session = t.session := rfl

@[simp]
theorem calls_put (t : Traffic) (call : ℕ) (progress : Progress) :
    (t.put call progress).calls call = progress := by
  simp [put]

@[simp]
theorem calls_put_of_ne (t : Traffic) {call other : ℕ} (h : other ≠ call) (progress : Progress) :
    (t.put call progress).calls other = t.calls other := by
  simp [put, h]

variable {t : Traffic} {e : Event} {call : ℕ}

theorem put_put (t : Traffic) (call : ℕ) (progress other : Progress) :
    (t.put call progress).put call other = t.put call other := by
  simp [put]

theorem put_put_of_ne (t : Traffic) {call other : ℕ} (h : other ≠ call)
    (progress another : Progress) :
    (t.put call progress).put other another = (t.put other another).put call progress := by
  simp only [put, Function.update_comm h]

theorem put_same (t : Traffic) (call : ℕ) : t.put call (t.calls call) = t := by
  simp [put]

/-- What is noted of one call makes no difference to the others. -/
theorem step_put (h : e.call? ≠ some call) (progress : Progress) :
    (t.put call progress).step e = (t.step e).put call progress := by
  have hne {other : ℕ} (hother : some other ≠ some call) : other ≠ call :=
    fun heq => hother (congrArg some heq)
  cases e with
  | command command => rfl
  | begin other demand =>
    have hother : other ≠ call := hne h
    simp only [step, calls_put_of_ne t hother, session_put]
    cases t.calls other with
    | idle => exact put_put_of_ne t hother _ _
    | _ => rfl
  | priced other answer =>
    have hother : other ≠ call := hne h
    simp only [step, calls_put_of_ne t hother, session_put]
    cases t.calls other with
    | pricing purpose => exact put_put_of_ne (t.store _ _) hother _ _
    | _ => rfl
  | charged other answer =>
    have hother : other ≠ call := hne h
    simp only [step, calls_put_of_ne t hother]
    cases t.calls other with
    | charging request => exact put_put_of_ne t hother _ _
    | _ => rfl
  | connected other source =>
    have hother : other ≠ call := hne h
    simp only [step, calls_put_of_ne t hother]
    cases t.calls other with
    | connecting desk =>
      cases source with
      | none => exact put_put_of_ne t hother _ _
      | some source =>
        exact put_put_of_ne { t with session := t.session.step (.openFrom desk source) } hother _ _
    | _ => rfl

theorem step_calls_of_ne (h : e.call? ≠ some call) : (t.step e).calls call = t.calls call := by
  have hput := step_put h (t.calls call) (t := t)
  rw [put_same] at hput
  rw [hput, calls_put]

/-- Nothing happens but that the call takes its steps and time passes. -/
def Alone (call : ℕ) (events : List Event) : Prop :=
  ∀ e ∈ events, e.call? = some call ∨ ∃ seconds, e = .command (.clock seconds)

/-- What an operation on a slot leaves of its surroundings. -/
def left (t : Traffic) (slot : ℕ) (s : Surroundings) : Traffic :=
  { t with session := (t.session.stored slot s.slot).passed s.exchange.clock }

/-- The surroundings that an operation on a slot finds. -/
def surroundings (t : Traffic) (slot : ℕ) (reachable : Bool) (script : List Turn) : Surroundings :=
  ⟨⟨t.clock, reachable, script, []⟩, t.session.world.slot slot⟩

theorem left_surroundings (t : Traffic) (slot : ℕ) (reachable : Bool) (script : List Turn) :
    t.left slot (t.surroundings slot reachable script) = t := by
  simp only [left, surroundings, Session.stored_same]
  rfl

theorem enquire_alone (t : Traffic) (call : ℕ) (purpose : Purpose) (b : Backend)
    (reachable : Bool) (script : List Turn) :
    let s := t.surroundings purpose.slot reachable script
    ∃ events, Alone call events ∧
      (t.put call (enquire t.session purpose)).run events =
        (t.left purpose.slot (b.exchangeRate s).2).put call
          (purpose.served (b.exchangeRate s).1) := by
  intro s
  by_cases hfresh : ∃ rate, s.slot.HoldsWithin s.exchange.clock 300 rate
  · obtain ⟨rate, hrate⟩ := hfresh
    have hserved : enquire t.session purpose = purpose.served (.ok rate) := by
      have hfound := RateSlot.fresh?_eq_some_iff.mpr hrate
      simp only [s, surroundings, clock] at hfound
      simp only [enquire, hfound]
    refine ⟨[], by simp [Alone], ?_⟩
    rw [Backend.exchangeRate_of_fresh hrate, hserved, left_surroundings]
    rfl
  · have hasked : enquire t.session purpose = .pricing purpose := by
      have hnone := RateSlot.fresh?_eq_none_iff.mpr hfresh
      simp only [s, surroundings, clock] at hnone
      simp only [enquire, hnone]
    rw [Backend.exchangeRate_of_stale hfresh, hasked]
    obtain ⟨answer, x⟩ := b.client.bitcoinPrice s.exchange
    refine ⟨[.command (.clock x.clock), .priced call answer], by simp [Alone, Event.call?], ?_⟩
    simp only [run_cons, run_nil, step, calls_put]
    exact put_put (t.left purpose.slot ⟨x, (s.slot.settle x.clock answer).2⟩) call
      (.pricing purpose) _

theorem billed_alone (t : Traffic) (call slot : ℕ) (b : Backend) (amount : Amount)
    (memo : Option String) (s : Surroundings) :
    ∃ events, Alone call events ∧
      ((t.left slot (b.toMsats amount s).2).put call
          (.billed b memo (b.toMsats amount s).1)).run events =
        (t.left slot (b.createInvoice amount memo s).2).put call
          (.ended (.invoice (b.createInvoice amount memo s).1)) := by
  cases hmsats : (b.toMsats amount s).1 with
  | error cause =>
    refine ⟨[], by simp [Alone], ?_⟩
    rw [Backend.createInvoice_of_error memo hmsats]
    rfl
  | ok msats =>
    generalize hcharge : b.client.createCharge (b.chargeRequest msats memo)
      (b.toMsats amount s).2.exchange = asked
    obtain ⟨answer, x⟩ := asked
    refine ⟨[.command (.clock x.clock), .charged call answer], by simp [Alone, Event.call?], ?_⟩
    rw [Backend.createInvoice_of_ok hmsats hcharge]
    simp only [run_cons, run_nil, step, Progress.billed, calls_put]
    exact put_put (t.left slot ⟨x, (b.toMsats amount s).2.slot⟩) call
      (.charging (b.chargeRequest msats memo)) _

theorem Alone.append {first rest : List Event} (h : Alone call first) (h' : Alone call rest) :
    Alone call (first ++ rest) := by
  intro e he
  exact (List.mem_append.mp he).elim (h e) (h' e)

theorem begin_of_idle (h : t.calls call = .idle) (demand : Demand) :
    t.step (.begin call demand) = t.put call (opening t.session demand) := by
  simp only [step, h]

/-- A look-up with nobody beside it comes to what the backend's own gives, and leaves the same. -/
theorem lookUp_alone {number : ℕ} {held : HeldDesk} (hidle : t.calls call = .idle)
    (hheld : t.session.desks[number]? = some held) (reachable : Bool) (script : List Turn) :
    let s := t.surroundings held.desk.slot reachable script
    ∃ events, Alone call events ∧
      t.run (.begin call (.lookUp held.desk.slot) :: events) =
        (t.step (.command (.ask number .rate reachable script))).put call
          (.ended (.rate (held.desk.backend.exchangeRate s).1)) := by
  intro s
  obtain ⟨events, halone, hrun⟩ :=
    enquire_alone t call (.lookUp held.desk.slot) held.desk.backend reachable script
  refine ⟨events, halone, ?_⟩
  rw [run_cons, begin_of_idle hidle]
  refine hrun.trans ?_
  simp only [step, Session.perform, hheld]
  rfl

/-- An invoice with nobody beside it comes to what the backend's own creation gives, and leaves the
same. -/
theorem invoice_alone {number : ℕ} {held : HeldDesk} (hidle : t.calls call = .idle)
    (hheld : t.session.desks[number]? = some held) (amount : Amount) (memo : Option String)
    (reachable : Bool) (script : List Turn) :
    let s := t.surroundings held.desk.slot reachable script
    ∃ events, Alone call events ∧
      t.run (.begin call (.invoice number amount memo) :: events) =
        (t.step (.command (.ask number (.invoice amount memo) reachable script))).put call
          (.ended (.invoice (held.desk.backend.createInvoice amount memo s).1)) := by
  intro s
  obtain ⟨⟨b, slot, family⟩, backend⟩ := held
  have hasked : t.step (.command (.ask number (.invoice amount memo) reachable script)) =
      t.left slot (b.createInvoice amount memo s).2 := by
    simp only [step, Session.perform, hheld]
    rfl
  obtain ⟨last, halone, hlast⟩ := billed_alone t call slot b amount memo s
  rw [hasked]
  -- Only cents have to wait for a price first.
  suffices hpriced : ∃ events, Alone call events ∧
      (t.put call (opening t.session (.invoice number amount memo))).run events =
        (t.left slot (b.toMsats amount s).2).put call (.billed b memo (b.toMsats amount s).1) by
    obtain ⟨first, hfirst, hrun⟩ := hpriced
    refine ⟨first ++ last, hfirst.append halone, ?_⟩
    rw [run_cons, begin_of_idle hidle, run_append, hrun, hlast]
  obtain ⟨unit, value⟩ := amount
  cases unit with
  | usd =>
    rw [Backend.toMsats_usd]
    simp only [opening, hheld]
    exact enquire_alone t call (.invoice ⟨b, slot, family⟩ value memo) b reachable script
  | _ =>
    refine ⟨[], by simp [Alone], ?_⟩
    simp only [opening, hheld]
    exact congrArg (fun t => put t call _) (left_surroundings t slot reachable script).symm

/-- A stream with nobody beside it is opened, or is not, as by the command that opens it. -/
theorem stream_alone {number : ℕ} {held : HeldDesk} (hidle : t.calls call = .idle)
    (hheld : t.session.desks[number]? = some held) (connect : String → Option Source) :
    let opened := (t.session.world.openBrokerStream held.desk connect).1
    ∃ events, Alone call events ∧
      t.run (.begin call (.stream number) :: events) =
        (t.step (.command (.act (.openBroker number connect)))).put call
          (.ended (.stream (opened.map fun _ => ()))) := by
  intro opened
  obtain ⟨⟨b, slot, family⟩, backend⟩ := held
  cases hurl : b.redisUrl with
  | none =>
    refine ⟨[], by simp [Alone], ?_⟩
    rw [run_cons, begin_of_idle hidle]
    simp only [opened, opening, step, Session.perform, Session.step, World.openBrokerStream, hheld,
      hurl]
    rfl
  | some url =>
    refine ⟨[.connected call (connect url)], by simp [Alone, Event.call?], ?_⟩
    rw [run_cons, begin_of_idle hidle]
    simp only [opened, opening, step, Session.perform, Session.step, World.openBrokerStream, hheld,
      hurl, run_cons, run_nil, calls_put, session_put]
    cases hconnect : connect url with
    | none => exact put_put t call (.connecting number) _
    | some source =>
      simp only [hheld]
      exact put_put { t with session := { t.session with
        world := (t.session.world.openStream ⟨b, slot, family⟩ source).2
        makers := t.session.makers ++ [.backend backend] } } call (.connecting number) _

end Traffic

end LightningDeposit
