import LightningDeposit.Proofs.Backend.Operation
import LightningDeposit.Proofs.Backend.Setup
import LightningDeposit.Proofs.Text.Strip
import LightningDeposit.Proofs.Url.Reference

/-!
Where the key goes. Every request of an operation comes of one of its paths; each of these begins at
the root of the base, with whatever id at its end, so no request leaves the scheme, the host and the
port that the settings name.
-/

namespace LightningDeposit

namespace Client

variable {c : Client} {x : Exchange}

/-- A request that a path gives rise to: it goes where the path leads from the base, by a scheme
that carries requests, and holds the key. -/
structure Asks (c : Client) (path : String) (r : Request) : Prop where
  leads : ∃ url, c.baseUrl.join path = .ok url ∧ r.url = url.requested
  scheme : c.baseUrl.scheme ∈ requestSchemes
  key : r.apiKey = headerText c.apiKey

theorem call_asks {α : Type} (c : Client) (method path : String) (body : Option String)
    (decode : Json → Option α) (x : Exchange) :
    ∃ made, x.Sends made (c.call method path body decode x).2 ∧ ∀ r ∈ made, c.Asks path r := by
  by_cases hsend : c.CanSend x
  · obtain ⟨root, hroot⟩ := hsend.2.2.2
    obtain ⟨url, hjoin⟩ := Url.join_of_rooted hroot path
    rw [call_of_join hsend hjoin method body decode]
    refine ⟨_, .one x _, fun r hr => ?_⟩
    rw [List.mem_singleton.mp hr]
    exact ⟨⟨url, hjoin, rfl⟩, hsend.2.2.1, rfl⟩
  · obtain ⟨cause, hcall⟩ := call_of_not_canSend hsend method path body decode
    rw [hcall]
    exact ⟨[], .none x, fun r hr => by cases hr⟩

end Client

namespace Backend

variable {b : Backend} {s s' s'' : Surroundings} {paths : List String}

/-- From these surroundings to those, all requests come of paths in the list. -/
def AsksAt (b : Backend) (paths : List String) (s s' : Surroundings) : Prop :=
  ∃ made, s.exchange.Sends made s'.exchange ∧ ∀ r ∈ made, ∃ path ∈ paths, b.client.Asks path r

theorem AsksAt.refl (b : Backend) (paths : List String) (s : Surroundings) : b.AsksAt paths s s :=
  ⟨[], .none _, fun r hr => by cases hr⟩

theorem AsksAt.trans (h : b.AsksAt paths s s') (h' : b.AsksAt paths s' s'') :
    b.AsksAt paths s s'' := by
  obtain ⟨first, hfirst, hasks⟩ := h
  obtain ⟨rest, hrest, hasks'⟩ := h'
  refine ⟨first ++ rest, hfirst.trans hrest, fun r hr => ?_⟩
  rcases List.mem_append.mp hr with hr | hr
  · exact hasks r hr
  · exact hasks' r hr

/-- A call at one of the paths, whatever becomes of the slot meanwhile. -/
theorem AsksAt.call {α : Type} {path : String} (hpath : path ∈ paths) (method : String)
    (body : Option String) (decode : Json → Option α)
    (hs' : s'.exchange = (b.client.call method path body decode s.exchange).2) :
    b.AsksAt paths s s' := by
  obtain ⟨made, hsends, hasks⟩ := b.client.call_asks method path body decode s.exchange
  exact ⟨made, hs' ▸ hsends, fun r hr => ⟨path, hpath, hasks r hr⟩⟩

theorem exchangeRate_asksAt (hprice : "/v1/btcusd" ∈ paths) (b : Backend) (s : Surroundings) :
    b.AsksAt paths s (b.exchangeRate s).2 := by
  unfold exchangeRate
  split
  · exact .refl b paths s
  · exact .call hprice "GET" none (Price.ofJson? 1) rfl

theorem toMsats_asksAt (hprice : "/v1/btcusd" ∈ paths) (b : Backend) (amount : Amount)
    (s : Surroundings) : b.AsksAt paths s (b.toMsats amount s).2 := by
  have hrate := exchangeRate_asksAt hprice b s
  unfold toMsats
  split
  · exact .refl b paths s
  · cases hlookup : b.exchangeRate s with
    | mk answer s' =>
      rw [hlookup] at hrate
      cases answer <;> exact hrate
  · exact .refl b paths s

theorem createInvoice_asksAt (hprice : "/v1/btcusd" ∈ paths) (hcharges : "/v1/charges" ∈ paths)
    (b : Backend) (amount : Amount) (memo : Option String) (s : Surroundings) :
    b.AsksAt paths s (b.createInvoice amount memo s).2 := by
  have hpriced := toMsats_asksAt hprice b amount s
  unfold createInvoice
  split
  · exact .refl b paths s
  · cases hamount : b.toMsats amount s with
    | mk answer s' =>
      rw [hamount] at hpriced
      cases answer with
      | error cause => exact hpriced
      | ok msats => exact hpriced.trans (.call hcharges "POST" _ Charge.ofJson? rfl)

end Backend

namespace Operation

variable {path : String}

theorem run_asksAt (operation : Operation) (b : Backend) (s : Surroundings) :
    b.AsksAt operation.paths s (operation.run b s).2 := by
  cases operation with
  | status => exact .call (List.mem_singleton_self _) "GET" none Wallet.ofJson? rfl
  | invoice amount memo =>
    exact Backend.createInvoice_asksAt List.mem_cons_self
      (List.mem_cons_of_mem _ List.mem_cons_self) b amount memo s
  | charge id => exact .call (List.mem_singleton_self _) "GET" none Charge.ofJson? rfl
  | rate => exact Backend.exchangeRate_asksAt List.mem_cons_self b s
  | pay melt feeLimitMsat => exact .refl b _ s
  | payment id => exact .refl b _ s
  | quote request => exact .refl b _ s

/-- No operation asks anywhere but at a path from the root, whatever id it is given. -/
theorem rooted_of_mem_paths {operation : Operation} (h : path ∈ operation.paths) :
    Url.Rooted path := by
  have hwallet : Url.Rooted "/v1/wallet" := ⟨'v', "1/wallet".toList, by decide, rfl⟩
  have hprice : Url.Rooted "/v1/btcusd" := ⟨'v', "1/btcusd".toList, by decide, rfl⟩
  have hcharges : Url.Rooted "/v1/charges" := ⟨'v', "1/charges".toList, by decide, rfl⟩
  cases operation with
  | status => exact List.mem_singleton.mp h ▸ hwallet
  | invoice amount memo =>
    rcases List.mem_cons.mp h with rfl | h
    · exact hprice
    · exact List.mem_singleton.mp h ▸ hcharges
  | charge id =>
    have houter : ∀ c ∈ "/v1/charges/".toList, Url.isOuter c = false := by simp [Url.isOuter]
    exact List.mem_singleton.mp h ▸ .append rfl (by decide) houter id
  | rate => exact List.mem_singleton.mp h ▸ hprice
  | pay melt feeLimitMsat => cases h
  | payment id => cases h
  | quote request => cases h

end Operation

namespace Backend

variable {settings : Settings} {unit : CurrencyUnit} {b : Backend}

theorem client_of_new (h : Backend.new settings unit = .ok b) :
    b.client.apiKey = settings.apiKey ∧ Url.parse settings.apiUrl = .ok b.client.baseUrl := by
  obtain ⟨baseUrl, hfit, rfl⟩ := new_eq_ok_iff.mp h
  exact ⟨rfl, hfit.address⟩

end Backend

end LightningDeposit
