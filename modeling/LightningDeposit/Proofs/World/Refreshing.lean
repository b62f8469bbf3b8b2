import LightningDeposit.Proofs.Invoice.Creation
import LightningDeposit.World

/-!
How often the provider is asked for a price. The calls of many backends, one after the other, share
their rate slots; whatever the far side does, while the clock does not go back a slot that has been
refreshed is left alone for five minutes, and no call on it asks in that time.
-/

namespace LightningDeposit

/-- The clock is not put back while these turns are taken. -/
def Turn.Onward (now : ℕ) : List Turn → Prop
  | [] => True
  | turn :: rest => now ≤ turn.clock.getD now ∧ Onward (turn.clock.getD now) rest

instance Turn.decidableOnward : ∀ now turns, Decidable (Turn.Onward now turns)
  | _, [] => isTrue trivial
  | now, turn :: rest =>
    have := decidableOnward (turn.clock.getD now) rest
    inferInstanceAs (Decidable (now ≤ turn.clock.getD now ∧ Onward (turn.clock.getD now) rest))

/-- The request for the price of a bitcoin, whoever makes it. -/
def Request.asksPrice (r : Request) : Bool :=
  r.method == "GET" && decide (r.url.path = .segments ["v1", "btcusd"])

namespace Exchange

/-- So many turns are taken from one exchange to the other, and time passes as they say. -/
def Passes (x : Exchange) (turns : ℕ) (y : Exchange) : Prop :=
  ∀ n, Turn.Onward x.clock (x.script.take (turns + n)) →
    x.clock ≤ y.clock ∧ Turn.Onward y.clock (y.script.take n)

theorem Passes.none (x : Exchange) : x.Passes 0 x := by
  intro n h
  rw [Nat.zero_add] at h
  exact ⟨Nat.le_refl _, h⟩

theorem Passes.one (x : Exchange) (request : Request) : x.Passes 1 (x.after request) := by
  intro n h
  obtain ⟨clock, reachable, script, sent⟩ := x
  cases script with
  | nil => simpa [after, turn, exhausted] using h
  | cons turn rest =>
    rw [Nat.add_comm] at h
    exact h

theorem Passes.trans {x y z : Exchange} {first rest : ℕ} (h : x.Passes first y)
    (h' : y.Passes rest z) : x.Passes (first + rest) z := by
  intro n hn
  rw [Nat.add_assoc] at hn
  obtain ⟨hxy, hy⟩ := h _ hn
  obtain ⟨hyz, hz⟩ := h' n hy
  exact ⟨hxy.trans hyz, hz⟩

theorem Passes.clock_le {x y : Exchange} {turns : ℕ} (h : x.Passes turns y)
    (hturns : Turn.Onward x.clock (x.script.take turns)) : x.clock ≤ y.clock :=
  (h 0 hturns).1

end Exchange

/-- What a call does to its surroundings that refreshes the slot or does not: it leaves a fresh rate
alone, asks for the price once if it refreshes, and writes nothing else. -/
structure Spends (s : Surroundings) (made : List Request) (refreshed : Option ExchangeRate)
    (s' : Surroundings) : Prop where
  sent : s'.exchange.sent = s.exchange.sent ++ made
  slot : s'.slot = refreshed.or s.slot
  fresh : s.slot.fresh? s.exchange.clock ≠ none → made.countP Request.asksPrice = 0
  asked : refreshed ≠ none → made.countP Request.asksPrice = 1
  passes : s.exchange.Passes made.length s'.exchange
  observed : ∀ n, Turn.Onward s.exchange.clock (s.exchange.script.take (made.length + n)) →
    ∀ v ∈ refreshed, s.exchange.clock ≤ v.observedAt ∧ v.observedAt ≤ s'.exchange.clock

namespace Spends

variable {s s' : Surroundings} {made : List Request} {refreshed : Option ExchangeRate}

theorem nothing (s : Surroundings) : Spends s [] none s where
  sent := (List.append_nil _).symm
  slot := Option.none_or.symm
  fresh _ := rfl
  asked h := absurd rfl h
  passes := .none _
  observed _ _ v hv := by cases hv

/-- One more request that is not for the price. -/
theorem charged (h : Spends s made refreshed s') {request : Request}
    (hrequest : request.asksPrice = false) :
    Spends s (made ++ [request]) refreshed ⟨s'.exchange.after request, s'.slot⟩ := by
  have hpasses := h.passes.trans (.one s'.exchange request)
  have hcount : (made ++ [request]).countP Request.asksPrice = made.countP Request.asksPrice := by
    simp [List.countP_append, hrequest]
  constructor
  · rw [Exchange.after, h.sent, List.append_assoc]
  · exact h.slot
  · rw [hcount]
    exact h.fresh
  · rw [hcount]
    exact h.asked
  · rw [List.length_append]
    exact hpasses
  · intro n hturns v hv
    rw [List.length_append, Nat.add_assoc] at hturns
    obtain ⟨hfrom, hto⟩ := h.observed _ hturns v hv
    exact ⟨hfrom, hto.trans ((Exchange.Passes.one s'.exchange request n (h.passes _ hturns).2).1)⟩

end Spends

namespace Backend

variable {b : Backend} {s : Surroundings}

/-- The rate that a look-up stores: the price that was asked for because none was fresh, if it is a
rate, with the time of the answer. -/
def refresh? (b : Backend) (s : Surroundings) : Option ExchangeRate :=
  match s.slot.fresh? s.exchange.clock with
  | some _ => none
  | none =>
    let (answer, x) := b.client.bitcoinPrice s.exchange
    match RateSlot.checked answer with
    | .ok rate => some ⟨rate, x.clock⟩
    | .error _ => none

theorem exchangeRate_slot (b : Backend) (s : Surroundings) :
    (b.exchangeRate s).2.slot = (b.refresh? s).or s.slot := by
  unfold exchangeRate refresh?
  cases s.slot.fresh? s.exchange.clock with
  | some rate => rfl
  | none =>
    simp only [RateSlot.settle]
    cases RateSlot.checked (b.client.bitcoinPrice s.exchange).1 with
    | ok rate => rfl
    | error cause =>
      simp only [Option.none_or]
      split
      next => split <;> rfl
      next => rfl

theorem refresh?_eq_some {v : ExchangeRate} (h : b.refresh? s = some v) :
    s.slot.fresh? s.exchange.clock = none ∧
      (b.client.bitcoinPrice s.exchange).1 = .ok v.rate ∧
      (b.client.bitcoinPrice s.exchange).2.clock = v.observedAt := by
  unfold refresh? at h
  split at h
  next => cases h
  next hstale =>
    simp only at h
    split at h
    next rate hchecked =>
      cases h
      exact ⟨hstale, (RateSlot.checked_eq_ok hchecked).1, rfl⟩
    next => cases h

theorem asksPrice_priceRequest (c : Client) : c.priceRequest.asksPrice = true := by
  simp [Request.asksPrice, Client.priceRequest, Client.request, Client.below]

theorem asksPrice_newChargeRequest (c : Client) (charge : ChargeRequest) :
    (c.newChargeRequest charge).asksPrice = false := by
  simp [Request.asksPrice, Client.newChargeRequest, Client.request]

theorem exchangeRate_spends (b : Backend) (s : Surroundings) :
    ∃ made, Spends s made (b.refresh? s) (b.exchangeRate s).2 := by
  have hslot := b.exchangeRate_slot s
  cases hfresh : s.slot.fresh? s.exchange.clock with
  | some rate =>
    have hrefresh : b.refresh? s = none := by rw [refresh?, hfresh]
    rw [exchangeRate_of_fresh (RateSlot.fresh?_eq_some_iff.mp hfresh), hrefresh]
    exact ⟨[], .nothing s⟩
  | none =>
    have hexchange : (b.exchangeRate s).2.exchange = (b.client.bitcoinPrice s.exchange).2 := by
      rw [exchangeRate_of_stale (RateSlot.fresh?_eq_none_iff.mp hfresh)]
    by_cases hsend : b.client.CanSend s.exchange
    · have hasked := Client.bitcoinPrice_of_canSend hsend
      have hafter : (b.exchangeRate s).2.exchange = s.exchange.after b.client.priceRequest := by
        rw [hexchange, hasked]
      have hpasses := Exchange.Passes.one s.exchange b.client.priceRequest
      have hcount : [b.client.priceRequest].countP Request.asksPrice = 1 := by
        simp [asksPrice_priceRequest]
      refine ⟨[b.client.priceRequest], ?_, hslot, fun h => absurd hfresh h, fun _ => hcount, ?_, ?_⟩
      · rw [hafter]
        rfl
      · rw [hafter]
        exact hpasses
      · intro n hturns v hv
        obtain ⟨-, -, hclock⟩ := refresh?_eq_some hv
        rw [hasked] at hclock
        rw [hafter, ← hclock]
        exact ⟨(hpasses n hturns).1, Nat.le_refl _⟩
    · obtain ⟨cause, hasked⟩ := Client.bitcoinPrice_of_not_canSend hsend
      have hrefresh : b.refresh? s = none := by
        rw [Option.eq_none_iff_forall_ne_some]
        intro v hv
        obtain ⟨-, hprice, -⟩ := refresh?_eq_some hv
        rw [hasked] at hprice
        cases hprice
      have hunchanged : (b.exchangeRate s).2 = s := by
        rw [hrefresh, Option.none_or] at hslot
        rw [hasked] at hexchange
        cases s
        exact congrArg₂ Surroundings.mk hexchange hslot
      rw [hunchanged, hrefresh]
      exact ⟨[], .nothing s⟩

theorem toMsats_spends (b : Backend) (amount : Amount) (s : Surroundings) :
    ∃ made, Spends s made (if amount.unit = .usd then b.refresh? s else none)
      (b.toMsats amount s).2 := by
  obtain ⟨unit, value⟩ := amount
  cases unit with
  | usd =>
    rw [toMsats_usd]
    exact b.exchangeRate_spends s
  | sat => exact ⟨[], .nothing s⟩
  | msat => exact ⟨[], .nothing s⟩
  | eur => exact ⟨[], .nothing s⟩

theorem createInvoice_spends (b : Backend) (amount : Amount) (memo : Option String)
    (s : Surroundings) :
    ∃ made, Spends s made (if amount.unit = .usd then b.refresh? s else none)
      (b.createInvoice amount memo s).2 := by
  obtain ⟨made, hspends⟩ := b.toMsats_spends amount s
  rcases createInvoice_cases b amount memo s with
    ⟨message, hcreate, -, -⟩ | ⟨msats, -, -, hcreate⟩
  · rw [hcreate]
    exact ⟨made, hspends⟩
  · rw [hcreate]
    exact ⟨_, hspends.charged (asksPrice_newChargeRequest b.client (b.chargeRequest msats memo))⟩

end Backend

/-- What a backend is called for. -/
inductive Errand where
  | rate
  | invoice (amount : Amount) (memo : Option String)

namespace Errand

def operation : Errand → Backend → Surroundings →
    (Except BackendError Binary64 ⊕ InvoiceResponse) × Surroundings
  | .rate, b, s => (b.exchangeRate s).map .inl id
  | .invoice amount memo, b, s => (b.createInvoice amount memo s).map .inr id

/-- What the call stores in the slot; satoshis need no rate. -/
def refresh? : Errand → Backend → Surroundings → Option ExchangeRate
  | .rate, b, s => b.refresh? s
  | .invoice amount _, b, s => if amount.unit = .usd then b.refresh? s else none

theorem operation_spends (errand : Errand) (b : Backend) (s : Surroundings) :
    ∃ made, Spends s made (errand.refresh? b s) (errand.operation b s).2 := by
  cases errand with
  | rate => exact b.exchangeRate_spends s
  | invoice amount memo => exact b.createInvoice_spends amount memo s

end Errand

/-- A call of a backend at work, with the far side that it meets. -/
structure Call where
  desk : Desk
  errand : Errand
  reachable : Bool
  script : List Turn

/-- What is noted of a call: its slot, the time at which it began, how often it asked for the price,
what was in the slot before and after, and what it stored there. -/
structure CallNote where
  slot : ℕ
  began : ℕ
  asked : ℕ
  found : RateSlot
  left : RateSlot
  refreshed : Option ExchangeRate
  deriving DecidableEq

namespace CallNote

/-- A call after a refresh of its slot: it does not ask for the price in the next five minutes and
does not refresh in them. -/
structure Spaced (v : ExchangeRate) (n : CallNote) : Prop where
  refreshed : ∀ v' ∈ n.refreshed, v.observedAt + 300 ≤ v'.observedAt
  asked : n.began < v.observedAt + 300 → n.asked = 0

/-- How often the calls on a slot asked for the price, all together. -/
def timesAsked (slot : ℕ) (notes : List CallNote) : ℕ :=
  ((notes.filter fun n => n.slot = slot).map asked).sum

theorem timesAsked_eq_zero {slot : ℕ} {notes : List CallNote}
    (h : ∀ n ∈ notes, n.slot = slot → n.asked = 0) : timesAsked slot notes = 0 := by
  induction notes with
  | nil => rfl
  | cons n rest ih =>
    have hrest := ih fun n' hn' => h n' (List.mem_cons_of_mem _ hn')
    unfold timesAsked at hrest ⊢
    by_cases hslot : n.slot = slot
    · simp [hslot, hrest, h n List.mem_cons_self hslot]
    · simp [hslot, hrest]

end CallNote

namespace World

variable {w w' : World} {c : Call} {v : ExchangeRate}

inductive Action where
  | clock (seconds : Int)
  | call (call : Call)

/-- The requests of a call, and the world after it. -/
def serve (w : World) (c : Call) : List Request × World :=
  let ((_, sent), w') := w.run c.desk c.reachable c.script c.errand.operation
  (sent, w')

def note (w : World) (c : Call) : CallNote where
  slot := c.desk.slot
  began := w.clock
  asked := (w.serve c).1.countP Request.asksPrice
  found := w.slot c.desk.slot
  left := (w.serve c).2.slot c.desk.slot
  refreshed := c.errand.refresh? c.desk.backend
    ⟨⟨w.clock, c.reachable, c.script, []⟩, w.slot c.desk.slot⟩

/-- The calls of a run. -/
def log (w : World) : List Action → List CallNote
  | [] => []
  | .clock seconds :: rest => (w.setClock seconds).log rest
  | .call c :: rest => w.note c :: (w.serve c).2.log rest

/-- The clock is not put back, between the calls or by the turns that are taken in one. -/
def Forward (w : World) : List Action → Prop
  | [] => True
  | .clock seconds :: rest => w.clock ≤ seconds.toNat ∧ (w.setClock seconds).Forward rest
  | .call c :: rest =>
    Turn.Onward w.clock (c.script.take (w.serve c).1.length) ∧ (w.serve c).2.Forward rest

instance decidableForward : ∀ (w : World) (actions : List Action), Decidable (w.Forward actions)
  | _, [] => isTrue trivial
  | w, .clock seconds :: rest =>
    have := decidableForward (w.setClock seconds) rest
    inferInstanceAs (Decidable (w.clock ≤ seconds.toNat ∧ (w.setClock seconds).Forward rest))
  | w, .call c :: rest =>
    have := decidableForward (w.serve c).2 rest
    inferInstanceAs (Decidable (Turn.Onward w.clock (c.script.take (w.serve c).1.length) ∧
      (w.serve c).2.Forward rest))

/-- The slots of all callers are there. -/
def HasSlots (w : World) (actions : List Action) : Prop :=
  ∀ c, .call c ∈ actions → c.desk.slot < w.slots.length

theorem slot_setSlot (w : World) {slot : ℕ} (h : slot < w.slots.length) (content : RateSlot) :
    (w.setSlot slot content).slot slot = content := by
  simp [World.slot, setSlot, List.getD_eq_getElem?_getD, h]

theorem slot_setSlot_of_ne (w : World) {slot other : ℕ} (h : slot ≠ other) (content : RateSlot) :
    (w.setSlot slot content).slot other = w.slot other := by
  simp [World.slot, setSlot, List.getD_eq_getElem?_getD, List.getElem?_set_ne h]

/-- What a call does to the world. -/
structure Served (w : World) (n : CallNote) (w' : World) : Prop where
  slots : w'.slots.length = w.slots.length
  left : w'.slot n.slot = n.refreshed.or (w.slot n.slot)
  others : ∀ slot ≠ n.slot, w'.slot slot = w.slot slot
  fresh : (w.slot n.slot).fresh? n.began ≠ none → n.asked = 0
  asked : n.refreshed ≠ none → n.asked = 1
  clock : n.began ≤ w'.clock
  observed : ∀ v ∈ n.refreshed, n.began ≤ v.observedAt ∧ v.observedAt ≤ w'.clock

theorem serve_served (hslot : c.desk.slot < w.slots.length)
    (hturns : Turn.Onward w.clock (c.script.take (w.serve c).1.length)) :
    w.Served (w.note c) (w.serve c).2 := by
  obtain ⟨made, hspends⟩ := c.errand.operation_spends c.desk.backend
    ⟨⟨w.clock, c.reachable, c.script, []⟩, w.slot c.desk.slot⟩
  have hmade : (w.serve c).1 = made := hspends.sent
  rw [hmade] at hturns
  constructor
  · exact List.length_set
  · exact (slot_setSlot w hslot _).trans hspends.slot
  · intro slot hne
    exact slot_setSlot_of_ne w hne.symm _
  · intro hfresh
    rw [note, hmade]
    exact hspends.fresh hfresh
  · intro hrefreshed
    rw [note, hmade]
    exact hspends.asked hrefreshed
  · exact hspends.passes.clock_le hturns
  · exact hspends.observed 0 hturns

theorem slots_serve (w : World) (c : Call) : (w.serve c).2.slots.length = w.slots.length :=
  List.length_set

theorem HasSlots.clock {seconds : Int} {rest : List Action}
    (h : w.HasSlots (.clock seconds :: rest)) : (w.setClock seconds).HasSlots rest :=
  fun c hc => h c (List.mem_cons_of_mem _ hc)

theorem HasSlots.call {rest : List Action} (h : w.HasSlots (.call c :: rest)) :
    c.desk.slot < w.slots.length ∧ (w.serve c).2.HasSlots rest := by
  refine ⟨h c List.mem_cons_self, fun c' hc' => ?_⟩
  rw [slots_serve]
  exact h c' (List.mem_cons_of_mem _ hc')

/-- The slot has been refreshed with that rate, or with a later one since. -/
def Since (w : World) (slot : ℕ) (v : ExchangeRate) : Prop :=
  ∃ current, w.slot slot = some current ∧ v.observedAt ≤ current.observedAt ∧
    current.observedAt ≤ w.clock

theorem Served.since {n : CallNote} (h : w.Served n w') (hv : n.refreshed = some v) :
    w'.Since n.slot v := by
  have hleft := h.left
  rw [hv, Option.some_or] at hleft
  exact ⟨v, hleft, Nat.le_refl _, (h.observed v hv).2⟩

theorem Served.spaced {n : CallNote} (h : w.Served n w') (hbegan : n.began = w.clock)
    (hv : w.Since n.slot v) : n.Spaced v := by
  obtain ⟨current, hcurrent, hlater, hpast⟩ := hv
  have hfresh : n.began < current.observedAt + 300 →
      (w.slot n.slot).fresh? n.began = some current.rate := by
    intro hlt
    rw [RateSlot.fresh?_eq_some_iff, hcurrent]
    exact ⟨current.observedAt, rfl, by omega⟩
  constructor
  · intro v' hv'
    have hasked := h.asked (by rw [hv']; exact Option.some_ne_none v')
    have hage : current.observedAt + 300 ≤ n.began := by
      by_contra hlt
      have hnone := h.fresh (by rw [hfresh (by omega)]; exact Option.some_ne_none _)
      omega
    have hnow := (h.observed v' hv').1
    omega
  · intro hlt
    exact h.fresh (by rw [hfresh (by omega)]; exact Option.some_ne_none _)

/-- A call keeps what is known of the refreshes before it. -/
theorem Served.keeps {n : CallNote} {slot : ℕ} (h : w.Served n w') (hbegan : n.began = w.clock)
    (hv : w.Since slot v) : w'.Since slot v := by
  have hclock : w.clock ≤ w'.clock := hbegan ▸ h.clock
  by_cases hslot : slot = n.slot
  · subst hslot
    cases hrefreshed : n.refreshed with
    | none =>
      obtain ⟨current, hcurrent, hlater, hpast⟩ := hv
      refine ⟨current, ?_, hlater, hpast.trans hclock⟩
      rw [h.left, hrefreshed, hcurrent, Option.none_or]
    | some v' =>
      obtain ⟨current, hcurrent, hlater, hle⟩ := h.since hrefreshed
      have hspaced := (h.spaced hbegan hv).refreshed v' hrefreshed
      exact ⟨current, hcurrent, by omega, hle⟩
  · obtain ⟨current, hcurrent, hlater, hpast⟩ := hv
    exact ⟨current, (h.others slot hslot).trans hcurrent, hlater, hpast.trans hclock⟩

/-- Whatever calls come after a refresh. -/
theorem log_spaced {actions : List Action} {slot : ℕ} (hslots : w.HasSlots actions)
    (hforward : w.Forward actions) (hv : w.Since slot v) :
    ∀ n ∈ w.log actions, n.slot = slot → n.Spaced v := by
  induction actions generalizing w with
  | nil => rintro n ⟨⟩
  | cons a rest ih =>
    cases a with
    | clock seconds =>
      obtain ⟨current, hcurrent, hlater, hpast⟩ := hv
      exact ih hslots.clock hforward.2 ⟨current, hcurrent, hlater, hpast.trans hforward.1⟩
    | call c =>
      obtain ⟨hslot, hrest⟩ := hslots.call
      have hserved := serve_served hslot hforward.1
      rintro n hn rfl
      rcases List.mem_cons.mp hn with rfl | hlater
      · exact hserved.spaced rfl hv
      · exact ih hrest hforward.2 (hserved.keeps rfl hv) n hlater rfl

theorem log_pairwise {actions : List Action} (hslots : w.HasSlots actions)
    (hforward : w.Forward actions) :
    (w.log actions).Pairwise fun n n' => n.slot = n'.slot → ∀ v ∈ n.refreshed, n'.Spaced v := by
  induction actions generalizing w with
  | nil => exact .nil
  | cons a rest ih =>
    cases a with
    | clock seconds => exact ih hslots.clock hforward.2
    | call c =>
      obtain ⟨hslot, hrest⟩ := hslots.call
      refine .cons (fun n hn heq v hv => ?_) (ih hrest hforward.2)
      exact log_spaced hrest hforward.2 ((serve_served hslot hforward.1).since hv) n hn heq.symm

/-- A call writes its refresh and nothing else, and asks for the price once if it refreshes. -/
theorem log_written {actions : List Action} (hslots : w.HasSlots actions)
    (hforward : w.Forward actions) :
    ∀ n ∈ w.log actions, n.left = n.refreshed.or n.found ∧ (n.refreshed ≠ none → n.asked = 1) := by
  induction actions generalizing w with
  | nil => rintro n ⟨⟩
  | cons a rest ih =>
    cases a with
    | clock seconds => exact ih hslots.clock hforward.2
    | call c =>
      obtain ⟨hslot, hrest⟩ := hslots.call
      have hserved := serve_served hslot hforward.1
      intro n hn
      rcases List.mem_cons.mp hn with rfl | hlater
      · exact ⟨hserved.left, hserved.asked⟩
      · exact ih hrest hforward.2 n hlater

/-- While the clock goes forward, two refreshes of a slot are at least five minutes apart, and a
call that begins less than five minutes after one does not ask for the price. So with the call that
refreshes and all those that begin in the five minutes after it, whichever backends they are of, the
provider is asked exactly once. -/
theorem refreshes_spaced (w : World) (actions : List Action) (hslots : w.HasSlots actions)
    (hforward : w.Forward actions) :
    let log := w.log actions
    (∀ n ∈ log, n.left = n.refreshed.or n.found ∧ (n.refreshed ≠ none → n.asked = 1)) ∧
    (log.Pairwise fun n n' => n.slot = n'.slot → ∀ v ∈ n.refreshed,
      (∀ v' ∈ n'.refreshed, v.observedAt + 300 ≤ v'.observedAt) ∧
      (n'.began < v.observedAt + 300 → n'.asked = 0)) ∧
    ∀ before n during after v, log = before ++ n :: during ++ after → n.refreshed = some v →
      (∀ n' ∈ during, n'.slot = n.slot → n'.began < v.observedAt + 300) →
      CallNote.timesAsked n.slot (n :: during) = 1 := by
  intro log
  have hwritten := log_written hslots hforward
  have hspaced := log_pairwise hslots hforward
  refine ⟨hwritten, ?_, ?_⟩
  · exact hspaced.imp fun h heq v hv => ⟨(h heq v hv).refreshed, (h heq v hv).asked⟩
  · intro before n during after v hlog hv hwindow
    have hmem : n ∈ log := by simp [hlog]
    have hrest : ∀ n' ∈ during, n.slot = n'.slot → ∀ v ∈ n.refreshed, n'.Spaced v := by
      have hmiddle : (n :: during).Sublist log := by
        rw [hlog]
        exact (List.sublist_append_right before _).trans (List.sublist_append_left _ after)
      exact (List.pairwise_cons.mp (hspaced.sublist hmiddle)).1
    have hduring : CallNote.timesAsked n.slot during = 0 := by
      apply CallNote.timesAsked_eq_zero
      intro n' hn' heq
      exact (hrest n' hn' heq.symm v hv).asked (hwindow n' hn' heq)
    have hfirst : n.asked = 1 := (hwritten n hmem).2 (by rw [hv]; exact Option.some_ne_none v)
    unfold CallNote.timesAsked at hduring ⊢
    simp [hduring, hfirst]

/-- Two backends on one slot: a look-up, an invoice in the five minutes after it and one when they
are over. -/
theorem refreshes_spaced_for_two_desks :
    let client : Client := ⟨"key", ⟨"http", "", "", some (.ipv4 2130706433), some 1, .segments [""],
      none, none⟩⟩
    let b : Backend := ⟨client, .usd, none, none, 900, "deposit"⟩
    let price := "\x7b\"data\":\x7b\"btcUsdPrice\":50000\x7d\x7d".toUTF8
    let w : World := ⟨1000, [none], [], Hub.empty⟩
    let actions : List Action := [
      .call ⟨⟨b, 0, 0⟩, .rate, true, [⟨.response 200 price, some 1010⟩]⟩,
      .clock 1309,
      .call ⟨⟨b, 0, 1⟩, .invoice (.usdCents 100) none, true, []⟩,
      .clock 1310,
      .call ⟨⟨b, 0, 1⟩, .invoice (.usdCents 100) none, true, [⟨.response 200 price, some 1311⟩]⟩]
    let first : ExchangeRate := ⟨Binary64.ofNat 50000, 1010⟩
    let second : ExchangeRate := ⟨Binary64.ofNat 50000, 1311⟩
    w.HasSlots actions ∧ w.Forward actions ∧
      (w.log actions).map CallNote.refreshed = [some first, none, some second] ∧
      CallNote.timesAsked 0 ((w.log actions).take 2) = 1 := by
  intro client b price w actions first second
  have hslots : w.HasSlots actions := by
    intro c hc
    simp only [actions, List.mem_cons, reduceCtorEq, Action.call.injEq, false_or, List.not_mem_nil,
      or_false] at hc
    rcases hc with rfl | rfl | rfl <;> exact Nat.zero_lt_one
  have hforward : w.Forward actions := by decide +kernel
  have hlog : w.log actions = [⟨0, 1000, 1, none, some first, some first⟩,
      ⟨0, 1309, 0, some first, some first, none⟩,
      ⟨0, 1310, 1, some first, some second, some second⟩] := by decide +kernel
  obtain ⟨-, -, honce⟩ := refreshes_spaced w actions hslots hforward
  refine ⟨hslots, hforward, by rw [hlog]; rfl, ?_⟩
  rw [hlog]
  refine honce [] _ [_] [_] first hlog rfl fun n hn _ => ?_
  rw [List.mem_singleton.mp hn]
  decide

end World

end LightningDeposit
