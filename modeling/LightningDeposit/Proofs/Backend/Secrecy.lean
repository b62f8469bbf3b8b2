import LightningDeposit.Proofs.Backend.Operation
import LightningDeposit.Proofs.Backend.Setup

/-!
Two backends that differ in their keys, side by side. As long as the keys are alike in whether they
can be sent, an operation gives the same answer on both and leaves the same rate behind, and the
requests differ in the key that they carry and in nothing else.
-/

namespace LightningDeposit

/-- What there is to see of a request beside its key. -/
def Request.withoutKey (r : Request) : Request := { r with apiKey := "" }

/-- The same answer, and states that are related. -/
inductive Agree {α σ : Type} (R : σ → σ → Prop) : α × σ → α × σ → Prop
  | mk (a : α) {s s' : σ} (h : R s s') : Agree R (a, s) (a, s')

theorem Agree.map {α β σ : Type} {R : σ → σ → Prop} {p q : α × σ} (h : Agree R p q) (f : α → β) :
    Agree R (p.map f id) (q.map f id) := by
  cases h with
  | mk a h => exact .mk (f a) h

namespace Exchange

/-- Exchanges that differ in the keys of the requests that were sent, if at all. -/
inductive Alike : Exchange → Exchange → Prop
  | mk (clock : Nat) (reachable : Bool) (script : List Turn) {sent sent' : List Request}
    (hsent : sent.map Request.withoutKey = sent'.map Request.withoutKey) :
    Alike ⟨clock, reachable, script, sent⟩ ⟨clock, reachable, script, sent'⟩

variable {x y : Exchange}

theorem Alike.clock_eq (h : x.Alike y) : x.clock = y.clock := by
  cases h
  rfl

theorem Alike.sent_eq (h : x.Alike y) :
    x.sent.map Request.withoutKey = y.sent.map Request.withoutKey := by
  cases h with
  | mk _ _ _ hsent => exact hsent

theorem Alike.send (h : x.Alike y) {r r' : Request} (hr : r.withoutKey = r'.withoutKey) :
    Agree Alike (x.send r) (y.send r') := by
  cases h with
  | mk clock reachable script hsent =>
    cases reachable with
    | false => exact .mk _ (.mk clock false script hsent)
    | true =>
      refine .mk _ (.mk _ true _ ?_)
      rw [List.map_append, List.map_append, hsent, List.map_singleton, List.map_singleton, hr]

end Exchange

namespace Client

/-- Clients for one address, whose keys both can be sent or both cannot. -/
inductive Alike : Client → Client → Prop
  | mk (baseUrl : Url) {key key' : String} (hkey : isHeaderText key = isHeaderText key') :
    Alike ⟨key, baseUrl⟩ ⟨key', baseUrl⟩

variable {α : Type} {c c' : Client} {x y : Exchange}

theorem Alike.refl (c : Client) : c.Alike c := .mk c.baseUrl rfl

theorem Alike.debugText_eq (h : c.Alike c') : c.debugText = c'.debugText := by
  cases h
  rfl

/-- Two alike clients make no request, or two that differ in their keys. -/
theorem Alike.request?_cases (h : c.Alike c') (method : String) (url : Url)
    (body : Option String) :
    (c.request? method url body = none ∧ c'.request? method url body = none) ∨
      ∃ r r', c.request? method url body = some r ∧ c'.request? method url body = some r' ∧
        r.withoutKey = r'.withoutKey := by
  cases h with
  | mk baseUrl hkey =>
    simp only [request?, hkey]
    split
    next => exact .inr ⟨_, _, rfl, rfl, rfl⟩
    next => exact .inl ⟨rfl, rfl⟩

theorem Alike.call (h : c.Alike c') (hx : x.Alike y) (method path : String) (body : Option String)
    (decode : Json → Option α) :
    Agree Exchange.Alike (c.call method path body decode x) (c'.call method path body decode y) := by
  have hbase : c.baseUrl = c'.baseUrl := by
    cases h
    rfl
  unfold Client.call
  rw [hbase]
  cases c'.baseUrl.join path with
  | error cause => exact .mk _ hx
  | ok url =>
    rcases h.request?_cases method url body with ⟨hnone, hnone'⟩ | ⟨r, r', hsome, hsome', hr⟩
    · simp only [hnone, hnone']
      exact .mk _ hx
    · simp only [hsome, hsome']
      have hsend := hx.send hr
      generalize x.send r = p, y.send r' = q at hsend
      cases hsend with
      | mk reply hnext => exact .mk _ hnext

theorem Alike.bitcoinPrice (h : c.Alike c') (hx : x.Alike y) :
    Agree Exchange.Alike (c.bitcoinPrice x) (c'.bitcoinPrice y) := by
  have hprice := h.call hx "GET" "/v1/btcusd" none (Price.ofJson? 1)
  unfold Client.bitcoinPrice
  generalize c.call _ _ _ _ _ = p, c'.call _ _ _ _ _ = q at hprice
  cases hprice with
  | mk answer hnext => exact .mk _ hnext

end Client

/-- Surroundings with the same rate in the slot and alike exchanges. -/
inductive Surroundings.Alike : Surroundings → Surroundings → Prop
  | mk {x y : Exchange} (hx : x.Alike y) (slot : RateSlot) : Alike ⟨x, slot⟩ ⟨y, slot⟩

namespace Backend

/-- Backends that differ in their keys, if at all. -/
inductive Alike : Backend → Backend → Prop
  | mk {client client' : Client} (hclient : client.Alike client') (unit : CurrencyUnit)
    (callbackUrl redisUrl : Option String) (invoiceExpirySecs : UInt64)
    (invoiceDescription : String) :
    Alike ⟨client, unit, callbackUrl, redisUrl, invoiceExpirySecs, invoiceDescription⟩
      ⟨client', unit, callbackUrl, redisUrl, invoiceExpirySecs, invoiceDescription⟩

variable {b b' : Backend} {s s' : Surroundings}

theorem Alike.refl (b : Backend) : b.Alike b := .mk (.refl b.client) _ _ _ _ _

theorem Alike.client (h : b.Alike b') : b.client.Alike b'.client := by
  cases h with
  | mk hclient => exact hclient

theorem Alike.debugText_eq (h : b.Alike b') (streams : Nat) :
    b.debugText streams = b'.debugText streams := by
  cases h with
  | mk hclient =>
    cases hclient
    rfl

theorem Alike.status (h : b.Alike b') (hs : s.Alike s') :
    Agree Surroundings.Alike (b.status s) (b'.status s') := by
  cases hs with
  | mk hx slot =>
    have hwallet := h.client.call hx "GET" "/v1/wallet" none Wallet.ofJson?
    unfold Backend.status Client.wallet
    generalize b.client.call _ _ _ _ _ = p, b'.client.call _ _ _ _ _ = q at hwallet
    cases hwallet with
    | mk answer hnext => exact .mk _ (.mk hnext slot)

theorem Alike.exchangeRate (h : b.Alike b') (hs : s.Alike s') :
    Agree Surroundings.Alike (b.exchangeRate s) (b'.exchangeRate s') := by
  cases hs with
  | @mk x y hx slot =>
    unfold Backend.exchangeRate
    rw [hx.clock_eq]
    cases slot.fresh? y.clock with
    | some rate => exact .mk _ (.mk hx slot)
    | none =>
      have hprice := h.client.bitcoinPrice hx
      generalize b.client.bitcoinPrice x = p, b'.client.bitcoinPrice y = q at hprice
      cases hprice with
      | mk answer hnext =>
        simp only [hnext.clock_eq]
        exact .mk _ (.mk hnext _)

theorem Alike.toMsats (h : b.Alike b') (hs : s.Alike s') (amount : Amount) :
    Agree Surroundings.Alike (b.toMsats amount s) (b'.toMsats amount s') := by
  have hrate := h.exchangeRate hs
  unfold Backend.toMsats
  split
  · exact .mk _ hs
  · generalize b.exchangeRate s = p, b'.exchangeRate s' = q at hrate
    cases hrate with
    | mk answer hnext => cases answer <;> exact .mk _ hnext
  · exact .mk _ hs

/-- What is asked for does not depend on the key. -/
theorem Alike.chargeRequest_eq (h : b.Alike b') (msats : UInt64) (memo : Option String) :
    b.chargeRequest msats memo = b'.chargeRequest msats memo := by
  cases h
  rfl

theorem Alike.createInvoice (h : b.Alike b') (hs : s.Alike s') (amount : Amount)
    (memo : Option String) :
    Agree Surroundings.Alike (b.createInvoice amount memo s) (b'.createInvoice amount memo s') := by
  have hmsats := h.toMsats hs amount
  unfold Backend.createInvoice
  split
  · exact .mk _ hs
  · generalize b.toMsats amount s = p, b'.toMsats amount s' = q at hmsats
    cases hmsats with
    | @mk answer t t' hnext =>
      cases answer with
      | error cause => exact .mk _ hnext
      | ok msats =>
        cases hnext with
        | mk hx slot =>
          simp only [h.chargeRequest_eq msats memo, Client.createCharge]
          have hcharge := h.client.call hx "POST" "/v1/charges"
            (some (b'.chargeRequest msats memo).toJson.write) Charge.ofJson?
          generalize b.client.call _ _ _ _ _ = p, b'.client.call _ _ _ _ _ = q at hcharge
          cases hcharge with
          | mk answer hlast => exact .mk _ (.mk hlast slot)

theorem Alike.invoiceStatus (h : b.Alike b') (hs : s.Alike s') (id : String) :
    Agree Surroundings.Alike (b.invoiceStatus id s) (b'.invoiceStatus id s') := by
  cases hs with
  | mk hx slot =>
    have hcharge := h.client.call hx "GET" ("/v1/charges/" ++ id) none Charge.ofJson?
    unfold Backend.invoiceStatus Client.charge
    generalize b.client.call _ _ _ _ _ = p, b'.client.call _ _ _ _ _ = q at hcharge
    cases hcharge with
    | mk answer hnext => exact .mk _ (.mk hnext slot)

end Backend

/-- Whatever backends that differ in their keys are asked for, they give the same answer. -/
theorem Operation.run_agree {b b' : Backend} {s s' : Surroundings} (h : b.Alike b')
    (hs : s.Alike s') (operation : Operation) :
    Agree Surroundings.Alike (operation.run b s) (operation.run b' s') := by
  cases operation with
  | status => exact (h.status hs).map Outcome.status
  | invoice amount memo => exact (h.createInvoice hs amount memo).map Outcome.invoice
  | charge id => exact (h.invoiceStatus hs id).map Outcome.charge
  | rate => exact (h.exchangeRate hs).map Outcome.rate
  | pay melt feeLimitMsat => exact .mk _ hs
  | payment id => exact .mk _ hs
  | quote request => exact .mk _ hs

namespace Settings

/-- A key that a backend can be set up with and that can be sent. -/
def UsableKey (key : String) : Prop :=
  Text.trim key ≠ "" ∧ Client.isHeaderText key = true

instance : DecidablePred UsableKey := fun _ => inferInstanceAs (Decidable (_ ∧ _))

/-- Settings that differ in their keys, both of which can be used. -/
inductive Alike : Settings → Settings → Prop
  | mk (settings : Settings) {key key' : String} (hkey : UsableKey key) (hkey' : UsableKey key') :
    Alike { settings with apiKey := key } { settings with apiKey := key' }

/-- Two settings fail to set up a backend for the same reason, or set up alike ones. -/
inductive SetUpAlike (settings settings' : Settings) (unit : CurrencyUnit) : Prop
  | fail (cause : BackendError) (hnew : Backend.new settings unit = .error cause)
    (hnew' : Backend.new settings' unit = .error cause) : SetUpAlike settings settings' unit
  | alike {b b' : Backend} (hnew : Backend.new settings unit = .ok b)
    (hnew' : Backend.new settings' unit = .ok b') (hb : b.Alike b') :
    SetUpAlike settings settings' unit

theorem SetUpAlike.refl (settings : Settings) (unit : CurrencyUnit) :
    SetUpAlike settings settings unit := by
  cases hnew : Backend.new settings unit with
  | error cause => exact .fail cause hnew hnew
  | ok b => exact .alike hnew hnew (.refl b)

theorem Alike.new {settings settings' : Settings} (h : settings.Alike settings')
    (unit : CurrencyUnit) : SetUpAlike settings settings' unit := by
  cases h with
  | @mk settings key key' hkey hkey' =>
    by_cases hunit : unit ∈ Backend.supportedUnits
    · cases hparse : Url.parse settings.apiUrl with
      | error reason =>
        have hunfit (key : String) (h : UsableKey key) :
            Backend.Unfit { settings with apiKey := key } unit (.client (.invalidUrl reason)) := by
          apply Backend.Unfit.address hunit
          · exact h.1
          · exact hparse
        exact .fail _ (hunfit key hkey).new_eq (hunfit key' hkey').new_eq
      | ok baseUrl =>
        have hfit (key : String) (h : UsableKey key) :
            Backend.Fit { settings with apiKey := key } unit baseUrl :=
          ⟨hunit, h.1, hparse⟩
        have hclient := Client.Alike.mk baseUrl (hkey.2.trans hkey'.2.symm)
        exact .alike (hfit key hkey).new_eq (hfit key' hkey').new_eq (.mk hclient unit _ _ _ _)
    · exact .fail _ (Backend.Unfit.unit hunit).new_eq (Backend.Unfit.unit hunit).new_eq

end Settings

/-- Diagnostics show the same wherever the message broker is. -/
theorem Backend.debugText_of_redisUrl (settings : Settings) (redisUrl redisUrl' : Option String)
    (unit : CurrencyUnit) (streams : Nat) :
    (Backend.new { settings with redisUrl := redisUrl } unit).map
        (fun b => (b.debugText streams, b.client.debugText)) =
      (Backend.new { settings with redisUrl := redisUrl' } unit).map
        (fun b => (b.debugText streams, b.client.debugText)) := by
  unfold Backend.new
  split
  next => rfl
  next =>
    split
    next => rfl
    next =>
      simp only
      cases Client.new settings.apiKey (some settings.apiUrl) <;> rfl

end LightningDeposit
