import LightningDeposit.Proofs.Stream.Delivery
import LightningDeposit.Proofs.World.OpenStreams

/-!
Cancelling the streams of a backend. A stream hangs on the scope that its family had when it was
opened, and cancelling gives the family another scope: the streams opened before are cancelled, those
opened later are not. A scope is given out once and belongs to one family, so no other stream is
reached.
-/

namespace LightningDeposit

namespace WaitEnd

variable {topic : String} {cancelled ended : Bool} {taken rest : List Message} {poll : Poll}

/-- Under cancellation a wait that finds no id is over. -/
theorem eq_finished (h : WaitEnd topic true ended taken poll rest)
    (hnone : idsIn topic (taken ++ rest) = []) : poll = .finished := by
  cases h with
  | found _ hid => simp [idsIn_append, idsIn_cons, hid] at hnone
  | cancelled => rfl
  | ended => rfl
  | waiting _ hcancelled => cases hcancelled

theorem of_waiting (h : WaitEnd topic cancelled ended taken .waiting rest) :
    cancelled = false ∧ rest = [] := by
  cases h with
  | waiting _ hcancelled => exact ⟨hcancelled, rfl⟩

end WaitEnd

namespace Hub

variable {h : Hub} {stream scope : ℕ} {s : Subscription}

/-- The stream is there and its scope is cancelled. -/
def hasCancelled (h : Hub) (stream : ℕ) : Bool :=
  h.streams[stream]?.any fun s => h.isCancelled s.scope

theorem hasCancelled_of_getElem? (hs : h.streams[stream]? = some s) :
    h.hasCancelled stream = h.isCancelled s.scope := by
  simp [hasCancelled, hs]

theorem hasCancelled_of_ge (hge : h.streams.length ≤ stream) : h.hasCancelled stream = false := by
  simp [hasCancelled, hge]

theorem isCancelled_newScope (hlt : scope < h.cancelled.length) :
    h.newScope.2.isCancelled scope = h.isCancelled scope := by
  simp [isCancelled, newScope, List.getD_eq_getElem?_getD, List.getElem?_append_left hlt]

/-- A new scope is not cancelled. -/
theorem isCancelled_of_new (h : Hub) : h.newScope.2.isCancelled h.cancelled.length = false := by
  simp [isCancelled, newScope]

theorem isCancelled_cancel_self (hlt : scope < h.cancelled.length) :
    (h.cancel scope).isCancelled scope = true := by
  simp [isCancelled, cancel, hlt]

theorem isCancelled_cancel_ne {other : ℕ} (hne : other ≠ scope) :
    (h.cancel other).isCancelled scope = h.isCancelled scope := by
  simp [isCancelled, cancel, List.getD_eq_getElem?_getD, List.getElem?_set_ne hne]

/-- Nothing that is done with a stream cancels anything. -/
theorem cancelled_on (h : Hub) (stream : ℕ) (action : StreamAction) :
    (h.step (.on stream action)).cancelled = h.cancelled := by
  cases hs : h.streams[stream]? with
  | none => rw [step_on_none hs]
  | some s => rw [step_on hs, update]

/-- A wait that has to go on has left no message. -/
theorem unread_of_waiting (hs : h.streams[stream]? = some s) {cancelFirst : ℕ → Bool}
    (hwaiting : (h.next stream cancelFirst).1 = .waiting) :
    (h.next stream cancelFirst).2.unread stream = [] := by
  have hafter := step_streams hs (.on stream (.next cancelFirst))
  rw [Action.on?, if_pos rfl, Option.elim_some, step, Subscription.after] at hafter
  rw [unread_of_getElem? hafter]
  simp only [next, hs] at hwaiting
  cases hopen : s.isOpen with
  | false =>
    rw [Subscription.next_of_closed hopen] at hwaiting
    cases hwaiting
  | true =>
    obtain ⟨-, hend⟩ := Subscription.next_takes hopen (h.isCancelled s.scope) cancelFirst
    rw [hwaiting] at hend
    exact hend.of_waiting.2

/-- A wait on a cancelled stream does not go on, and it is over if there is no id to find. -/
theorem next_of_cancelled (hs : h.streams[stream]? = some s)
    (hcancelled : h.isCancelled s.scope = true) (cancelFirst : ℕ → Bool) :
    (h.next stream cancelFirst).1 ≠ .waiting ∧
      (idsIn s.topic (h.unread stream) = [] → (h.next stream cancelFirst).1 = .finished) := by
  rw [unread_of_getElem? hs]
  simp only [next, hs]
  cases hopen : s.isOpen with
  | false =>
    rw [Subscription.next_of_closed hopen]
    exact ⟨by simp, fun _ => rfl⟩
  | true =>
    obtain ⟨hqueue, hend⟩ := Subscription.next_takes hopen (h.isCancelled s.scope) cancelFirst
    rw [hcancelled] at hqueue hend ⊢
    constructor
    · intro hwaiting
      rw [hwaiting] at hend
      cases hend.of_waiting.1
    · intro hnone
      rw [hqueue] at hnone
      exact hend.eq_finished hnone

end Hub

/-- Cancelling replaces the scope of one family by a new one. -/
theorem World.scopes_cancelStreams (w : World) (desk : Desk) :
    (w.cancelStreams desk).families.map Family.scope =
      (w.families.map Family.scope).set desk.family w.hub.cancelled.length := by
  simp [cancelStreams, Hub.cancel, Hub.newScope]

namespace Session

/-- The backend whose streams an action cancels, by itself or through a copy. -/
def cancels? (s : Session) : Action → Option ℕ
  | .cancelDesk desk => s.desks[desk]?.map HeldDesk.backend
  | _ => none

/-- The scope that the next stream of a backend or of a copy of it is opened with. -/
def scopeOf (s : Session) (backend : ℕ) : Option ℕ :=
  (s.world.families.map Family.scope)[backend]?

/-- A session after the streams of a desk have been cancelled. -/
def renew (s : Session) (desk : Desk) : Session :=
  { s with world := s.world.cancelStreams desk }

/-- What a stream is opened with by its maker. -/
inductive Opens (s : Session) : Maker → String → ℕ → Prop
  | counter (number : ℕ) (topic : String) {scope : ℕ} (h : scope ∈ s.scopes) :
    Opens s (.counter number) topic scope
  | backend {number scope : ℕ} (h : s.scopeOf number = some scope) :
    Opens s (.backend number) paidInvoicesChannel scope

/-- What a step can do to scopes and to the streams on them, with the backend whose streams it
cancels: nothing, or it brings in a scope, cancels one that is held by itself, puts a backend to work,
opens a stream, does something with one, or cancels the streams of a backend. -/
inductive Scoping (s : Session) : Option ℕ → Session → Prop
  | quiet {s' : Session} (hcancelled : s'.hub.cancelled = s.hub.cancelled)
    (hstreams : s'.hub.streams = s.hub.streams) (hscopes : s'.scopes = s.scopes)
    (hfamilies : s'.world.families = s.world.families) (hmakers : s'.makers = s.makers) :
    Scoping s none s'
  | scope : Scoping s none
    { s.withHub s.hub.newScope.2 with scopes := s.scopes ++ [s.hub.cancelled.length] }
  | cancelled {held : ℕ} (hheld : held ∈ s.scopes) : Scoping s none (s.withHub (s.hub.cancel held))
  | mounted (backend : Backend) (slot : ℕ) : Scoping s none
    { s with
      world := { s.world with
        families := s.world.families ++ [⟨s.hub.cancelled.length, s.hub.counts.length⟩]
        hub := s.hub.newScope.2.newCounter.2 }
      backends := s.backends + 1
      desks := s.desks ++ [⟨⟨backend, slot, s.world.families.length⟩, s.backends⟩] }
  | opened {maker : Maker} {topic : String} {scope : ℕ} (counter : ℕ) (source : Source)
    (hopens : s.Opens maker topic scope) : Scoping s none
    { s.withHub (s.hub.subscribe topic scope counter source).2 with
      makers := s.makers ++ [maker] }
  | on (stream : ℕ) (action : StreamAction) : Scoping s none
    (s.withHub (s.hub.step (.on stream action)))
  | renewed {desk : Desk} (hscope : s.scopeOf desk.family = some (s.world.family desk).scope) :
    Scoping s (some desk.family) (s.renew desk)

variable {s s' : Session} {stream backend scope : ℕ} {cancelled : Option ℕ} {held : HeldDesk}
  {desk : Desk}

theorem Scoping.refl (s : Session) : s.Scoping none s := .quiet rfl rfl rfl rfl rfl

/-- A held backend's streams are opened with the scope of its family. -/
theorem Sound.scopeOf_desk (hs : s.Sound) (hheld : held ∈ s.desks) :
    s.scopeOf held.backend = some (s.world.family held.desk).scope := by
  obtain ⟨hfamily, hlt⟩ := hs.desks held hheld
  rw [hs.backends] at hlt
  rw [scopeOf, World.family, hfamily, List.getElem?_map, List.getD_eq_getElem?_getD,
    List.getElem?_eq_getElem hlt]
  rfl

theorem step_scoping (hs : s.Sound) (a : Action) : s.Scoping (s.cancels? a) (s.step a) := by
  cases a with
  | newScope => exact .scope
  | newCounter => exact .quiet rfl rfl rfl rfl rfl
  | cancel scope =>
    simp only [step]
    split
    next => exact .refl s
    next held hheld => exact .cancelled (List.mem_of_getElem? hheld)
  | subscribe topic scope counter source =>
    simp only [step]
    split
    next heldScope heldCounter hscope _ =>
      exact .opened heldCounter source (.counter counter topic (List.mem_of_getElem? hscope))
    next => exact .refl s
  | on stream action => exact .on stream action
  | mount settings unit slot =>
    simp only [step, World.mount]
    cases Backend.new settings unit with
    | error cause => exact .refl s
    | ok backend => exact .mounted backend slot
  | copy desk =>
    simp only [step]
    split
    · exact .refl s
    · exact .quiet rfl rfl rfl rfl rfl
  | openFrom desk source =>
    simp only [step]
    split
    next => exact .refl s
    next held hget =>
      exact .opened _ source (.backend (hs.scopeOf_desk (List.mem_of_getElem? hget)))
  | openBroker desk connect =>
    simp only [step]
    split
    next => exact .refl s
    next held hget =>
      have hopened (source : Source) := Scoping.opened (s.world.family held.desk).counter source
        (.backend (hs.scopeOf_desk (List.mem_of_getElem? hget)))
      simp only [World.openBrokerStream]
      cases held.desk.backend.redisUrl with
      | none => exact .refl s
      | some url =>
        cases hconnect : connect url with
        | none =>
          simp only [hconnect]
          exact .refl s
        | some source =>
          simp only [hconnect]
          exact hopened source
  | cancelDesk desk =>
    cases hget : s.desks[desk]? with
    | none =>
      simp only [step, cancels?, hget, Option.map_none]
      exact .refl s
    | some held =>
      have hmem := List.mem_of_getElem? hget
      have hfamily := (hs.desks held hmem).1
      simp only [step, cancels?, hget, Option.map_some, ← hfamily]
      apply Scoping.renewed
      rw [hfamily]
      exact hs.scopeOf_desk hmem

/-- A scope that belongs to one backend: it is not held by itself, no other backend opens streams with
it, and the backend itself does so until it is cancelled. -/
structure Belongs (s : Session) (backend scope : ℕ) : Prop where
  scope_lt : scope < s.hub.cancelled.length
  not_held : scope ∉ s.scopes
  own : ∀ other, s.scopeOf other = some scope → other = backend
  live : s.hub.isCancelled scope = true ∨ s.scopeOf backend = some scope

theorem length_renew (s : Session) (desk : Desk) :
    (s.renew desk).hub.cancelled.length = s.hub.cancelled.length + 1 := by
  simp [renew, hub, World.cancelStreams, Hub.cancel, Hub.newScope]

/-- The new scope is that of the desk's family, and every other family keeps its scope. -/
theorem scopeOf_renew_iff (hlt : scope < s.hub.cancelled.length) (desk : Desk) (other : ℕ) :
    (s.renew desk).scopeOf other = some scope ↔
      other ≠ desk.family ∧ s.scopeOf other = some scope := by
  have hnew : s.world.hub.cancelled.length ≠ scope := hlt.ne'
  simp only [scopeOf, renew, World.scopes_cancelStreams, List.getElem?_set]
  by_cases heq : desk.family = other
  · simp [heq, hnew]
  · simp [heq, Ne.symm heq]

theorem isCancelled_renew_self (hlt : (s.world.family desk).scope < s.hub.cancelled.length) :
    (s.renew desk).hub.isCancelled (s.world.family desk).scope = true := by
  have hlength : (s.hub.cancel (s.world.family desk).scope).cancelled.length =
      s.hub.cancelled.length := List.length_set
  exact (Hub.isCancelled_newScope (hlt.trans_eq hlength.symm)).trans
    (Hub.isCancelled_cancel_self hlt)

theorem isCancelled_renew_ne (hlt : scope < s.hub.cancelled.length)
    (hne : (s.world.family desk).scope ≠ scope) :
    (s.renew desk).hub.isCancelled scope = s.hub.isCancelled scope := by
  have hlength : (s.hub.cancel (s.world.family desk).scope).cancelled.length =
      s.hub.cancelled.length := List.length_set
  exact (Hub.isCancelled_newScope (hlt.trans_eq hlength.symm)).trans
    (Hub.isCancelled_cancel_ne hne)

/-- Cancelling a backend's streams cancels the scopes that belong to it and leaves the others. -/
theorem Belongs.renew (hscope : s.Belongs backend scope)
    (hfamily : s.scopeOf desk.family = some (s.world.family desk).scope) :
    (s.renew desk).Belongs backend scope ∧ ((s.renew desk).hub.isCancelled scope = true ↔
      s.hub.isCancelled scope = true ∨ desk.family = backend) := by
  obtain ⟨hlt, hnot, hown, hlive⟩ := hscope
  have hbelongs (hlive' : (s.renew desk).hub.isCancelled scope = true ∨
      backend ≠ desk.family ∧ s.scopeOf backend = some scope) :
      (s.renew desk).Belongs backend scope := by
    refine ⟨?_, hnot, fun other hother => hown other ((scopeOf_renew_iff hlt desk other).mp hother).2,
      hlive'.imp_right (scopeOf_renew_iff hlt desk backend).mpr⟩
    rw [length_renew]
    exact Nat.lt_succ_of_lt hlt
  by_cases heq : desk.family = backend
  · have hcancelled : (s.renew desk).hub.isCancelled scope = true := by
      by_cases hcurrent : (s.world.family desk).scope = scope
      · subst hcurrent
        exact isCancelled_renew_self hlt
      · rw [isCancelled_renew_ne hlt hcurrent]
        refine hlive.resolve_right fun hscope => hcurrent ?_
        rw [heq] at hfamily
        exact Option.some.inj (hfamily.symm.trans hscope)
    exact ⟨hbelongs (.inl hcancelled), iff_of_true hcancelled (.inr heq)⟩
  · have hother : (s.world.family desk).scope ≠ scope := by
      intro hsame
      rw [hsame] at hfamily
      exact heq (hown _ hfamily)
    have hkept := isCancelled_renew_ne hlt hother
    refine ⟨hbelongs ?_, ?_⟩
    · rw [hkept]
      exact hlive.imp_right fun hscope => ⟨Ne.symm heq, hscope⟩
    · rw [hkept]
      simp [heq]

/-- A scope stays with its backend, and is cancelled when the backend's streams are. -/
theorem Scoping.belongs (h : s.Scoping cancelled s') (hscope : s.Belongs backend scope) :
    s'.Belongs backend scope ∧ (s'.hub.isCancelled scope = true ↔
      s.hub.isCancelled scope = true ∨ cancelled = some backend) := by
  have hbelongs := hscope
  obtain ⟨hlt, hnot, hown, hlive⟩ := hscope
  have hsame (hcancelled : s'.hub.isCancelled scope = s.hub.isCancelled scope)
      (hlength : s.hub.cancelled.length ≤ s'.hub.cancelled.length) (hheld : scope ∉ s'.scopes)
      (howner : ∀ other, s'.scopeOf other = some scope ↔ s.scopeOf other = some scope) :
      s'.Belongs backend scope ∧
        (s'.hub.isCancelled scope = true ↔ s.hub.isCancelled scope = true ∨ none = some backend) := by
    refine ⟨⟨hlt.trans_le hlength, hheld, fun other hother => hown other ((howner other).mp hother),
      ?_⟩, by simp [hcancelled]⟩
    rw [hcancelled, howner]
    exact hlive
  cases h with
  | quiet hcancelled _ hscopes hfamilies =>
    apply hsame
    · rw [Hub.isCancelled, hcancelled]
      rfl
    · rw [hcancelled]
    · rwa [hscopes]
    · intro other
      rw [scopeOf, hfamilies]
      rfl
  | scope =>
    apply hsame (Hub.isCancelled_newScope hlt)
    · simp [hub, withHub, Hub.newScope]
    · simp only [List.mem_append, List.mem_singleton, not_or]
      exact ⟨hnot, hlt.ne⟩
    · exact fun other => Iff.rfl
  | @cancelled other hother =>
    have hne : other ≠ scope := by
      rintro rfl
      exact hnot hother
    apply hsame (Hub.isCancelled_cancel_ne hne)
    · simp [hub, withHub, Hub.cancel]
    · exact hnot
    · exact fun other => Iff.rfl
  | mounted new slot =>
    apply hsame (Hub.isCancelled_newScope hlt)
    · simp [hub, Hub.newScope, Hub.newCounter]
    · exact hnot
    · intro other
      simp only [scopeOf, List.map_append, List.map_cons, List.map_nil, List.getElem?_append]
      split
      next => exact Iff.rfl
      next hge =>
        rw [List.getElem?_eq_none (Nat.le_of_not_lt hge), List.getElem?_singleton]
        have hnew : s.hub.cancelled.length ≠ scope := hlt.ne'
        split <;> simp [hnew]
  | opened counter source hopens =>
    exact hsame rfl (Nat.le_refl _) hnot fun other => Iff.rfl
  | on stream action =>
    have hcancelled : (s.withHub (s.hub.step (.on stream action))).hub.cancelled =
        s.hub.cancelled := Hub.cancelled_on s.hub stream action
    apply hsame
    · rw [Hub.isCancelled, hcancelled]
      rfl
    · rw [hcancelled]
    · exact hnot
    · exact fun other => Iff.rfl
  | renewed hfamily =>
    obtain ⟨hkept, hiff⟩ := hbelongs.renew hfamily
    refine ⟨hkept, hiff.trans ?_⟩
    rw [Option.some.injEq]

/-- Every scope that a backend opens streams with, or has opened one with, belongs to it; the one that
it opens streams with is not cancelled. -/
structure Scoped (s : Session) : Prop where
  held_lt : ∀ scope ∈ s.scopes, scope < s.hub.cancelled.length
  current : ∀ backend scope, s.scopeOf backend = some scope →
    s.Belongs backend scope ∧ s.hub.isCancelled scope = false
  made : ∀ (stream backend : ℕ) (t : Subscription), s.makers[stream]? = some (.backend backend) →
    s.hub.streams[stream]? = some t → t.topic = paidInvoicesChannel ∧ s.Belongs backend t.scope

theorem start_scoped (clock : ℕ) : (start clock).Scoped where
  held_lt := by
    intro scope hmem
    cases hmem
  current := by
    intro backend scope hscope
    cases hscope
  made := by
    intro stream backend t hmaker
    cases hmaker

/-- No backend opens streams with a scope that is not there yet. -/
theorem Scoped.scopeOf_ne (hc : s.Scoped) (other : ℕ) :
    s.scopeOf other ≠ some s.hub.cancelled.length :=
  fun hother => Nat.lt_irrefl _ (hc.current other _ hother).1.scope_lt

/-- A new scope belongs to the backend that it is for. -/
theorem Scoped.belongs_new (hc : s.Scoped) (hcancelled : s'.hub.cancelled.length =
    s.hub.cancelled.length + 1) (hscopes : s'.scopes = s.scopes)
    (hown : ∀ other, s'.scopeOf other = some s.hub.cancelled.length ↔ other = backend) :
    s'.Belongs backend s.hub.cancelled.length := by
  refine ⟨?_, ?_, fun other => (hown other).mp, .inr ((hown backend).mpr rfl)⟩
  · rw [hcancelled]
    exact Nat.lt_succ_self _
  · rw [hscopes]
    exact fun hmem => Nat.lt_irrefl _ (hc.held_lt _ hmem)

/-- The scope that a backend opens streams with is the one that it had, unless it is new. -/
theorem Scoping.scopeOf_cases (hc : s.Scoped) (h : s.Scoping cancelled s')
    (hscope : s'.scopeOf backend = some scope) :
    s.scopeOf backend = some scope ∧ cancelled ≠ some backend ∨
      s'.Belongs backend scope ∧ s'.hub.isCancelled scope = false := by
  cases h with
  | quiet _ _ _ hfamilies =>
    rw [scopeOf, hfamilies] at hscope
    exact .inl ⟨hscope, by simp⟩
  | scope => exact .inl ⟨hscope, by simp⟩
  | cancelled => exact .inl ⟨hscope, by simp⟩
  | opened => exact .inl ⟨hscope, by simp⟩
  | on => exact .inl ⟨hscope, by simp⟩
  | mounted new slot =>
    have hnone := hc.scopeOf_ne
    simp only [scopeOf, List.map_append, List.map_cons, List.map_nil] at hscope
    rcases Nat.lt_or_ge backend (s.world.families.map Family.scope).length with hlt | hge
    · rw [List.getElem?_append_left hlt] at hscope
      exact .inl ⟨hscope, by simp⟩
    · have hlast : backend = (s.world.families.map Family.scope).length := by
        have := (List.getElem?_eq_some_iff.mp hscope).1
        simp only [List.length_append, List.length_singleton] at this
        omega
      rw [hlast, List.getElem?_concat_length] at hscope
      cases hscope
      refine .inr ⟨hc.belongs_new List.length_append rfl fun other => ?_, s.hub.isCancelled_of_new⟩
      simp only [scopeOf, List.map_append, List.map_cons, List.map_nil, hlast]
      constructor
      · intro hother
        by_contra hne
        rw [List.getElem?_append] at hother
        split at hother
        next => exact hnone other hother
        next hge' =>
          have := (List.getElem?_eq_some_iff.mp hother).1
          simp only [List.length_singleton] at this
          omega
      · rintro rfl
        exact List.getElem?_concat_length
  | @renewed desk hfamily =>
    have hnone := hc.scopeOf_ne
    have hlt := (List.getElem?_eq_some_iff.mp hfamily).1
    simp only [scopeOf, Session.renew, World.scopes_cancelStreams, List.getElem?_set] at hscope
    split at hscope
    next heq =>
      subst heq
      cases hscope
      refine .inr ⟨hc.belongs_new (length_renew s desk) rfl fun other => ?_, ?_⟩
      · simp only [scopeOf, Session.renew, World.scopes_cancelStreams, List.getElem?_set]
        split
        next heq => exact iff_of_true rfl heq.symm
        next hne => exact iff_of_false (hnone other) (Ne.symm hne)
      · have hlength : (s.hub.cancel (s.world.family desk).scope).cancelled.length =
            s.hub.cancelled.length := List.length_set
        have hnew := Hub.isCancelled_of_new (s.hub.cancel (s.world.family desk).scope)
        rw [hlength] at hnew
        exact hnew
    next hne => exact .inl ⟨hscope, fun heq => hne (Option.some.inj heq)⟩

/-- A stream with a maker was there with its scope, or is opened in this step. -/
theorem Scoping.streams {maker : Maker} {t : Subscription} (hs : s.Sound)
    (h : s.Scoping cancelled s') (hmaker : s'.makers[stream]? = some maker)
    (ht : s'.hub.streams[stream]? = some t) :
    (∃ u, s.makers[stream]? = some maker ∧ s.hub.streams[stream]? = some u ∧
      t.topic = u.topic ∧ t.scope = u.scope) ∨
    stream = s.hub.streams.length ∧ cancelled = none ∧ s.Opens maker t.topic t.scope := by
  have hold (hstreams : s'.hub.streams = s.hub.streams) (hmakers : s'.makers = s.makers) :
      ∃ u, s.makers[stream]? = some maker ∧ s.hub.streams[stream]? = some u ∧
        t.topic = u.topic ∧ t.scope = u.scope := by
    rw [hstreams] at ht
    rw [hmakers] at hmaker
    exact ⟨t, hmaker, ht, rfl, rfl⟩
  cases h with
  | quiet _ hstreams _ _ hmakers => exact .inl (hold hstreams hmakers)
  | scope => exact .inl (hold rfl rfl)
  | cancelled => exact .inl (hold rfl rfl)
  | mounted => exact .inl (hold rfl rfl)
  | renewed => exact .inl (hold rfl rfl)
  | on other action =>
    have hlt : stream < s.hub.streams.length := by
      rw [← (Hub.lengths_on s.hub other action).2]
      exact (List.getElem?_eq_some_iff.mp ht).1
    have hu := List.getElem?_eq_getElem hlt
    have hstep := Hub.step_streams hu (.on other action)
    have hsame := Option.some.inj (ht.symm.trans hstep)
    refine .inl ⟨_, hmaker, hu, ?_⟩
    rw [hsame]
    cases (Hub.Action.on other action).on? stream with
    | none => exact ⟨rfl, rfl⟩
    | some did =>
      obtain ⟨htopic, hscope, -⟩ := s.hub.streams[stream].after_keeps _ did
      exact ⟨htopic, hscope⟩
  | @opened new topic scope counter source hopens =>
    rcases Nat.lt_or_ge stream s.hub.streams.length with hlt | hge
    · have hlt' : stream < s.makers.length := hlt.trans_eq hs.makers.symm
      have hmaker' : (s.makers ++ [new])[stream]? = some maker := hmaker
      have ht' : (s.hub.streams ++ [⟨topic, scope, counter, true, source⟩])[stream]? = some t := ht
      rw [List.getElem?_append_left hlt'] at hmaker'
      rw [List.getElem?_append_left hlt] at ht'
      exact .inl ⟨t, hmaker', ht', rfl, rfl⟩
    · have hmaker' : (s.makers ++ [new])[stream]? = some maker := hmaker
      have ht' : (s.hub.streams ++ [⟨topic, scope, counter, true, source⟩])[stream]? = some t := ht
      have hlast : stream = s.hub.streams.length := by
        have := (List.getElem?_eq_some_iff.mp ht').1
        simp only [List.length_append, List.length_singleton] at this
        omega
      rw [hlast, List.getElem?_concat_length] at ht'
      rw [hlast, ← hs.makers, List.getElem?_concat_length] at hmaker'
      cases ht'
      cases hmaker'
      exact .inr ⟨hlast, rfl, hopens⟩

theorem Scoping.scoped (hs : s.Sound) (hc : s.Scoped) (h : s.Scoping cancelled s') :
    s'.Scoped where
  held_lt := by
    have hold (hlength : s.hub.cancelled.length ≤ s'.hub.cancelled.length) (scope : ℕ)
        (hmem : scope ∈ s.scopes) : scope < s'.hub.cancelled.length :=
      (hc.held_lt scope hmem).trans_le hlength
    cases h with
    | quiet hcancelled _ hscopes =>
      rw [hscopes]
      exact hold (by rw [hcancelled])
    | scope =>
      intro scope hmem
      have hgrown : s.hub.newScope.2.cancelled.length = s.hub.cancelled.length + 1 :=
        List.length_append
      rcases List.mem_append.mp hmem with hbefore | hnew
      · exact hold (hgrown ▸ Nat.le_succ _) scope hbefore
      · rw [List.mem_singleton.mp hnew]
        exact hgrown ▸ Nat.lt_succ_self _
    | cancelled => exact hold (by simp [hub, withHub, Hub.cancel])
    | mounted => exact hold (by simp [hub, Hub.newScope, Hub.newCounter])
    | opened => exact hold (Nat.le_refl _)
    | on stream action => exact hold (by simp [hub, withHub, Hub.cancelled_on])
    | renewed => exact hold (by simp [length_renew])
  current := by
    intro backend scope hscope
    rcases h.scopeOf_cases hc hscope with ⟨hold, hcancelled⟩ | hnew
    · obtain ⟨hbelongs, hlive⟩ := hc.current backend scope hold
      obtain ⟨hkept, hiff⟩ := h.belongs hbelongs
      refine ⟨hkept, Bool.eq_false_iff.mpr fun htrue => ?_⟩
      rcases hiff.mp htrue with hbefore | hnow
      · rw [hlive] at hbefore
        cases hbefore
      · exact hcancelled hnow
    · exact hnew
  made := by
    intro stream backend t hmaker ht
    rcases h.streams hs hmaker ht with ⟨u, hbefore, hu, htopic, hscope⟩ | ⟨-, -, hopens⟩
    · obtain ⟨hpaid, hbelongs⟩ := hc.made stream backend u hbefore hu
      rw [htopic, hscope]
      exact ⟨hpaid, (h.belongs hbelongs).1⟩
    · generalize t.topic = topic at hopens
      generalize t.scope = scope at hopens
      cases hopens with
      | backend hscope => exact ⟨rfl, (h.belongs (hc.current _ _ hscope).1).1⟩

theorem step_scoped (hs : s.Sound) (hc : s.Scoped) (a : Action) : (s.step a).Scoped :=
  (step_scoping hs a).scoped hs hc

theorem run_scoped (hs : s.Sound) (hc : s.Scoped) (actions : List Action) :
    (s.run actions).Scoped := by
  induction actions generalizing s with
  | nil => exact hc
  | cons a rest ih => exact ih (step_sound hs a) (step_scoped hs hc a)

/-- Makers are only added. -/
theorem Scoping.makers (h : s.Scoping cancelled s') {maker : Maker}
    (hmaker : s.makers[stream]? = some maker) : s'.makers[stream]? = some maker := by
  cases h with
  | quiet _ _ _ _ hmakers => rwa [hmakers]
  | scope => exact hmaker
  | cancelled => exact hmaker
  | mounted => exact hmaker
  | on => exact hmaker
  | renewed => exact hmaker
  | opened =>
    rw [List.getElem?_append_left (List.getElem?_eq_some_iff.mp hmaker).1]
    exact hmaker

theorem run_makers (hs : s.Sound) {maker : Maker} (hmaker : s.makers[stream]? = some maker)
    (actions : List Action) : (s.run actions).makers[stream]? = some maker := by
  induction actions generalizing s with
  | nil => exact hmaker
  | cons a rest ih => exact ih (step_sound hs a) ((step_scoping hs a).makers hmaker)

/-- At some action of a run that holds, of the action and the session before it. -/
def Sometime (s : Session) (P : Session → Action → Prop) : List Action → Prop
  | [] => False
  | a :: rest => P s a ∨ (s.step a).Sometime P rest

/-- The stream is there, and an action cancels the streams of that backend. -/
def Cancels (stream backend : ℕ) (s : Session) (a : Action) : Prop :=
  stream < s.hub.streams.length ∧ s.cancels? a = some backend

/-- The stream is there, and it is closed, let go of, or waited on to its end. -/
def Finishes (stream : ℕ) (s : Session) (a : Action) : Prop :=
  stream < s.hub.streams.length ∧ (a = .on stream .close ∨
    (∃ canClose, a = .on stream (.drop canClose)) ∨
    ∃ cancelFirst, a = .on stream (.next cancelFirst) ∧
      (s.hub.next stream cancelFirst).1 = .finished)

/-- A backend's stream is cancelled by a step if it was before, or if the step cancels the backend's
streams and it was there. -/
theorem hasCancelled_step_iff (hs : s.Sound) (hc : s.Scoped) (a : Action)
    (hmaker : ∀ maker, (s.step a).makers[stream]? = some maker → maker = .backend backend) :
    (s.step a).hub.hasCancelled stream = true ↔
      s.hub.hasCancelled stream = true ∨ Cancels stream backend s a := by
  have hscoping := step_scoping hs a
  have hs' := step_sound hs a
  rcases Nat.lt_or_ge stream (s.step a).hub.streams.length with hlt | hge
  · have ht := List.getElem?_eq_getElem hlt
    have hlt' : stream < (s.step a).makers.length := hlt.trans_eq hs'.makers.symm
    have hmade := List.getElem?_eq_getElem hlt'
    rw [hmaker _ hmade] at hmade
    rw [Hub.hasCancelled_of_getElem? ht]
    rcases hscoping.streams hs hmade ht with ⟨u, hbefore, hu, -, hscope⟩ | ⟨hnew, hnone, hopens⟩
    · obtain ⟨-, hbelongs⟩ := hc.made stream backend u hbefore hu
      have hthere : stream < s.hub.streams.length := (List.getElem?_eq_some_iff.mp hu).1
      rw [Hub.hasCancelled_of_getElem? hu, hscope, (hscoping.belongs hbelongs).2, Cancels]
      simp [hthere]
    · have hge : s.hub.streams.length ≤ stream := hnew.ge
      generalize (s.step a).hub.streams[stream].scope = scope at hopens ⊢
      generalize (s.step a).hub.streams[stream].topic = topic at hopens
      cases hopens with
      | backend hscope =>
        obtain ⟨hbelongs, hlive⟩ := hc.current backend scope hscope
        rw [(hscoping.belongs hbelongs).2, hlive, hnone, Hub.hasCancelled_of_ge hge, Cancels]
        simp [hnew]
  · have hge' : s.hub.streams.length ≤ stream := by
      by_contra hlt
      obtain ⟨t, ht, -⟩ := ((step_effect hs a).change hs).stream_kept
        (List.getElem?_eq_getElem (Nat.lt_of_not_le hlt))
      exact Nat.not_lt.mpr hge (List.getElem?_eq_some_iff.mp ht).1
    rw [Hub.hasCancelled_of_ge hge, Hub.hasCancelled_of_ge hge', Cancels]
    simp [Nat.not_lt.mpr hge']

theorem hasCancelled_run_iff (hs : s.Sound) (hc : s.Scoped) (actions : List Action)
    (hmaker : (s.run actions).makers[stream]? = some (.backend backend)) :
    (s.run actions).hub.hasCancelled stream = true ↔
      s.hub.hasCancelled stream = true ∨ s.Sometime (Cancels stream backend) actions := by
  induction actions generalizing s with
  | nil => simp [Sometime]
  | cons a rest ih =>
    have hs' := step_sound hs a
    have hsame (maker : Maker) (hafter : (s.step a).makers[stream]? = some maker) :
        maker = .backend backend :=
      Option.some.inj ((run_makers hs' hafter rest).symm.trans hmaker)
    rw [run_cons, ih hs' (step_scoped hs hc a) hmaker, hasCancelled_step_iff hs hc a hsame,
      Sometime, or_assoc]

/-- A stream that has ended stays so. -/
theorem isOpen_run_of_closed (hs : s.Sound) (hlt : stream < s.hub.streams.length)
    (hclosed : s.hub.isOpen stream = false) (actions : List Action) :
    (s.run actions).hub.isOpen stream = false := by
  induction actions generalizing s with
  | nil => exact hclosed
  | cons a rest ih =>
    have hbefore := List.getElem?_eq_getElem hlt
    obtain ⟨t, ht, -, hopen⟩ := ((step_effect hs a).change hs).stream_kept hbefore
    rw [Hub.isOpen_of_getElem? hbefore] at hclosed
    apply ih (step_sound hs a) (List.getElem?_eq_some_iff.mp ht).1
    rw [Hub.isOpen_of_getElem? ht]
    exact Bool.eq_false_iff.mpr fun htrue => by simp [hopen htrue] at hclosed

theorem Finishes.isOpen_step {a : Action} (h : Finishes stream s a) :
    stream < (s.step a).hub.streams.length ∧ (s.step a).hub.isOpen stream = false := by
  obtain ⟨hlt, hends⟩ := h
  have hs := List.getElem?_eq_getElem hlt
  have hlength (action : StreamAction) :
      stream < (s.step (.on stream action)).hub.streams.length :=
    hlt.trans_eq (Hub.lengths_on s.hub stream action).2.symm
  rcases hends with rfl | ⟨canClose, rfl⟩ | ⟨cancelFirst, rfl, hfinished⟩
  · refine ⟨hlength .close, (Hub.isOpen_on hs .close).trans ?_⟩
    cases hopen : s.hub.streams[stream].isOpen <;>
      simp [Subscription.after, Subscription.shut, hopen]
  · refine ⟨hlength (.drop canClose), (Hub.isOpen_on hs (.drop canClose)).trans ?_⟩
    cases hopen : s.hub.streams[stream].isOpen <;> cases canClose <;>
      simp [Subscription.after, Subscription.shut, Subscription.abandon, hopen]
  · exact ⟨hlength (.next cancelFirst), (Hub.next_eq_finished_iff hs cancelFirst).mp hfinished⟩

theorem isOpen_run_of_finishes (hs : s.Sound) {actions : List Action}
    (h : s.Sometime (Finishes stream) actions) : (s.run actions).hub.isOpen stream = false := by
  induction actions generalizing s with
  | nil => exact h.elim
  | cons a rest ih =>
    rcases h with hnow | hlater
    · obtain ⟨hlt, hclosed⟩ := hnow.isOpen_step
      exact isOpen_run_of_closed (step_sound hs a) hlt hclosed rest
    · exact ih (step_sound hs a) hlater

/-- A wait on a backend's cancelled stream. -/
theorem next_of_cancelled (hs : s.Sound) (hc : s.Scoped)
    (hmaker : s.makers[stream]? = some (.backend backend))
    (hcancelled : s.hub.hasCancelled stream = true) (cancelFirst : ℕ → Bool) :
    (s.hub.next stream cancelFirst).1 ≠ .waiting ∧
      (idsIn paidInvoicesChannel (s.hub.unread stream) = [] →
        (s.hub.next stream cancelFirst).1 = .finished ∧
        (s.hub.next stream cancelFirst).2.isOpen stream = false) := by
  have hlt : stream < s.hub.streams.length := by
    rw [← hs.makers]
    exact (List.getElem?_eq_some_iff.mp hmaker).1
  have ht := List.getElem?_eq_getElem hlt
  rw [Hub.hasCancelled_of_getElem? ht] at hcancelled
  obtain ⟨hgoes, hover⟩ := Hub.next_of_cancelled ht hcancelled cancelFirst
  rw [(hc.made stream backend _ hmaker ht).1] at hover
  exact ⟨hgoes, fun hnone =>
    ⟨hover hnone, (Hub.next_eq_finished_iff ht cancelFirst).mp (hover hnone)⟩⟩

theorem streams_cancelDesk (s : Session) (desk : ℕ) :
    (s.step (.cancelDesk desk)).hub.streams = s.hub.streams := by
  simp only [step]
  split <;> rfl

/-- A wait that had to go on is over once the stream is cancelled. -/
theorem next_of_waiting (hs : s.Sound) (hc : s.Scoped)
    (hmaker : s.makers[stream]? = some (.backend backend)) {cancelFirst : ℕ → Bool}
    (hwaiting : (s.hub.next stream cancelFirst).1 = .waiting) {desk : ℕ}
    (hdesk : s.cancels? (.cancelDesk desk) = some backend) (cancelFirst' : ℕ → Bool) :
    let waited := s.step (.on stream (.next cancelFirst))
    ((waited.step (.cancelDesk desk)).hub.next stream cancelFirst').1 = .finished ∧
      ((waited.step (.cancelDesk desk)).hub.next stream cancelFirst').2.isOpen stream = false := by
  intro waited
  have hw : waited.Sound := step_sound hs _
  have hwc : waited.Scoped := step_scoped hs hc _
  have hlt : stream < s.hub.streams.length := by
    rw [← hs.makers]
    exact (List.getElem?_eq_some_iff.mp hmaker).1
  have hcancels : Cancels stream backend waited (.cancelDesk desk) :=
    ⟨hlt.trans_eq (Hub.lengths_on s.hub stream (.next cancelFirst)).2.symm, hdesk⟩
  have hmaker' := (step_scoping hw (.cancelDesk desk)).makers ((step_scoping hs _).makers hmaker)
  have hhas := (hasCancelled_step_iff hw hwc (.cancelDesk desk) fun maker hafter =>
    Option.some.inj (hafter.symm.trans hmaker')).mpr (.inr hcancels)
  have hunread : (waited.step (.cancelDesk desk)).hub.unread stream = [] := by
    rw [Hub.unread, streams_cancelDesk]
    exact Hub.unread_of_waiting (List.getElem?_eq_getElem hlt) hwaiting
  have hover := (next_of_cancelled (step_sound hw _) (step_scoped hw hwc _) hmaker' hhas
    cancelFirst').2
  rw [hunread] at hover
  exact hover rfl

/-- Cancelling reaches the streams of a backend and of its copies that are there, and no others: in
every session a backend's stream is cancelled exactly if the backend's streams have been cancelled,
by itself or through a copy, since the stream was opened. A wait on a cancelled stream does not go on,
and if no id is there to find it is over and the stream has ended; so is a wait that had to go on
before. When all streams of a backend have been waited on to their end, closed or let go of, it is
not active. -/
theorem cancelled_iff_since_opened (clock : ℕ) (actions : List Action) :
    let s := (start clock).run actions
    (∀ stream backend, s.makers[stream]? = some (.backend backend) →
      (s.hub.hasCancelled stream = true ↔
        (start clock).Sometime (Cancels stream backend) actions) ∧
      (s.hub.hasCancelled stream = true → ∀ cancelFirst,
        (s.hub.next stream cancelFirst).1 ≠ .waiting ∧
        (idsIn paidInvoicesChannel (s.hub.unread stream) = [] →
          (s.hub.next stream cancelFirst).1 = .finished ∧
          (s.hub.next stream cancelFirst).2.isOpen stream = false)) ∧
      (∀ cancelFirst, (s.hub.next stream cancelFirst).1 = .waiting → ∀ desk,
        s.cancels? (.cancelDesk desk) = some backend → ∀ cancelFirst',
          let later := (s.step (.on stream (.next cancelFirst))).step (.cancelDesk desk)
          (later.hub.next stream cancelFirst').1 = .finished ∧
          (later.hub.next stream cancelFirst').2.isOpen stream = false)) ∧
    ∀ held ∈ s.desks, (∀ stream, s.makers[stream]? = some (.backend held.backend) →
        (start clock).Sometime (Finishes stream) actions) →
      s.world.isActive held.desk = false := by
  intro s
  have hs : s.Sound := run_sound (start_sound clock) actions
  have hc : s.Scoped := run_scoped (start_sound clock) (start_scoped clock) actions
  refine ⟨fun stream backend hmaker => ⟨?_, ?_, ?_⟩, fun held hheld hends => ?_⟩
  · have hiff := hasCancelled_run_iff (start_sound clock) (start_scoped clock) actions hmaker
    have hbefore : (start clock).hub.hasCancelled stream = false := rfl
    rw [hbefore] at hiff
    simpa using hiff
  · exact fun hcancelled cancelFirst => next_of_cancelled hs hc hmaker hcancelled cancelFirst
  · intro cancelFirst hwaiting desk hdesk cancelFirst'
    exact next_of_waiting hs hc hmaker hwaiting hdesk cancelFirst'
  · have hopen : s.world.openStreams held.desk = s.openBy (.backend held.backend) :=
      hs.count_eq_openBy (hs.counterOf_desk hheld)
    rw [World.isActive, hopen, decide_eq_false_iff_not, openBy_pos_iff]
    rintro ⟨stream, hmaker, hopen⟩
    rw [isOpen_run_of_finishes (start_sound clock) (hends stream hmaker)] at hopen
    cases hopen

end Session

end LightningDeposit
