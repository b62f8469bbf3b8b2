import LightningDeposit.Proofs.Backend.Secrecy
import LightningDeposit.Proofs.World.Dialogue
import Mathlib.Data.List.Forall2

/-!
Two dialogues that differ in the keys of the backends that are put to work, side by side. The worlds
never come apart, since nothing of a key is in them: what is answered, the rates, the streams and
the clock are the same throughout, and so are the requests beside their keys.
-/

namespace LightningDeposit

/-- A remark without the keys of its requests. -/
def Remark.withoutKeys (r : Remark) : Answer × List Request :=
  (r.answer, r.requests.map Request.withoutKey)

/-- Two lists have related elements at a place, or none there. -/
theorem getElem?_of_forall₂ {α β : Type} {R : α → β → Prop} {xs : List α} {ys : List β}
    (h : List.Forall₂ R xs ys) (i : ℕ) :
    (xs[i]? = none ∧ ys[i]? = none) ∨ ∃ x y, xs[i]? = some x ∧ ys[i]? = some y ∧ R x y := by
  induction h generalizing i with
  | nil => exact .inl ⟨rfl, rfl⟩
  | cons hhead _ ih =>
    cases i with
    | zero => exact .inr ⟨_, _, rfl, rfl, hhead⟩
    | succ i => exact ih i

/-- Held backends that differ in their keys, if at all. -/
inductive HeldDesk.Alike : HeldDesk → HeldDesk → Prop
  | mk {b b' : Backend} (hb : b.Alike b') (slot family backend : ℕ) :
    Alike ⟨⟨b, slot, family⟩, backend⟩ ⟨⟨b', slot, family⟩, backend⟩

namespace World

variable {held held' : HeldDesk}

theorem view_eq (w : World) (h : held.Alike held') : w.view held.desk = w.view held'.desk := by
  cases h with
  | mk hb slot family backend =>
    cases hb with
    | mk hclient =>
      cases hclient
      rfl

theorem openBrokerStream_eq (w : World) (h : held.Alike held')
    (connect : String → Option Source) :
    w.openBrokerStream held.desk connect = w.openBrokerStream held'.desk connect := by
  cases h with
  | mk hb =>
    cases hb
    rfl

/-- An operation gives the same outcome and leaves the same world, and its requests differ in their
keys. -/
theorem run_eq (w : World) (h : held.Alike held') (reachable : Bool) (script : List Turn)
    (operation : Operation) :
    ∃ outcome sent sent' w',
      w.run held.desk reachable script operation.run = ((outcome, sent), w') ∧
      w.run held'.desk reachable script operation.run = ((outcome, sent'), w') ∧
      sent.map Request.withoutKey = sent'.map Request.withoutKey := by
  cases h with
  | @mk b b' hb slot family backend =>
    -- A run begins with no requests, so both begin from the same surroundings.
    have hbegin : Surroundings.Alike ⟨⟨w.clock, reachable, script, []⟩, w.slot slot⟩
        ⟨⟨w.clock, reachable, script, []⟩, w.slot slot⟩ :=
      .mk (.mk w.clock reachable script rfl) (w.slot slot)
    have hrun := operation.run_agree hb hbegin
    unfold run
    generalize operation.run b _ = p, operation.run b' _ = q at hrun
    cases hrun with
    | mk outcome hnext =>
      cases hnext with
      | mk hx content =>
        refine ⟨outcome, _, _, _, rfl, ?_, hx.sent_eq⟩
        simp only [hx.clock_eq]

/-- Two backends are put to work side by side, or neither is. -/
theorem mount_cases (w : World) {settings settings' : Settings} {unit : CurrencyUnit}
    (h : Settings.SetUpAlike settings settings' unit) (slot : ℕ) :
    (∃ cause, w.mount settings unit slot = (.error cause, w) ∧
        w.mount settings' unit slot = (.error cause, w)) ∨
      ∃ b b' w', w.mount settings unit slot = (.ok ⟨b, slot, w.families.length⟩, w') ∧
        w.mount settings' unit slot = (.ok ⟨b', slot, w.families.length⟩, w') ∧ b.Alike b' := by
  cases h with
  | fail cause hnew hnew' => exact .inl ⟨cause, by rw [mount, hnew], by rw [mount, hnew']⟩
  | alike hnew hnew' hb => exact .inr ⟨_, _, _, by rw [mount, hnew], by rw [mount, hnew'], hb⟩

end World

namespace Session

/-- Sessions that differ in the keys of the backends held, if at all. -/
inductive Alike : Session → Session → Prop
  | mk (world : World) (scopes counters : List ℕ) (backends : ℕ) {desks desks' : List HeldDesk}
    (hdesks : List.Forall₂ HeldDesk.Alike desks desks') (makers : List Maker) :
    Alike ⟨world, scopes, counters, backends, desks, makers⟩
      ⟨world, scopes, counters, backends, desks', makers⟩

variable {s s' : Session}

theorem Alike.world_eq (h : s.Alike s') : s.world = s'.world := by
  cases h
  rfl

theorem Alike.withWorld (h : s.Alike s') (w : World) :
    Alike { s with world := w } { s' with world := w } := by
  cases h with
  | mk world scopes counters backends hdesks makers => exact .mk w _ _ _ hdesks _

/-- What is done with the backend held under a number is related if it is for alike ones. -/
theorem Alike.atDesk {α : Type} {R : α → α → Prop} (h : s.Alike s') (desk : ℕ) {a a' : α}
    {f f' : HeldDesk → α} (hnone : R a a')
    (hsome : ∀ {held held'}, held.Alike held' → R (f held) (f' held')) :
    R (match s.desks[desk]? with | none => a | some held => f held)
      (match s'.desks[desk]? with | none => a' | some held => f' held) := by
  cases h with
  | mk _ _ _ _ hdesks =>
    rcases getElem?_of_forall₂ hdesks desk with ⟨hget, hget'⟩ | ⟨held, held', hget, hget', hheld⟩
    · simp only [hget, hget']
      exact hnone
    · simp only [hget, hget']
      exact hsome hheld

/-- Nothing but setting up a backend and asking it for its operations reads a key. -/
theorem Alike.reply_eq (h : s.Alike s') (action : Action)
    (hmount : ∀ settings unit slot, action ≠ .mount settings unit slot) :
    s.reply action = s'.reply action := by
  have hworld := h.world_eq
  cases action with
  | mount settings unit slot => exact absurd rfl (hmount settings unit slot)
  | openBroker desk connect =>
    simp only [reply, hworld]
    refine h.atDesk desk rfl fun hheld => ?_
    rw [World.openBrokerStream_eq s'.world hheld]
  | on stream action => cases action <;> simp only [reply, hub, hworld]
  | newScope => rfl
  | newCounter => rfl
  | cancel scope => rfl
  | subscribe topic scope counter source => rfl
  | copy desk => rfl
  | openFrom desk source => rfl
  | cancelDesk desk => rfl

/-- An action that sets up no backend does the same on both sides. -/
theorem Alike.step (h : s.Alike s') (action : Action)
    (hmount : ∀ settings unit slot, action ≠ .mount settings unit slot) :
    (s.step action).Alike (s'.step action) := by
  have hself := h
  cases h with
  | @mk world scopes counters backends desks desks' hdesks makers =>
    -- Of a backend held the actions read no more than its slot, its family and its broker, and
    -- these are the same on both sides.
    have hkeep (world : World) (scopes counters : List ℕ) (makers : List Maker) :
        Alike ⟨world, scopes, counters, backends, desks, makers⟩
          ⟨world, scopes, counters, backends, desks', makers⟩ :=
      .mk world scopes counters backends hdesks makers
    cases action with
    | mount settings unit slot => exact absurd rfl (hmount settings unit slot)
    | newScope => exact hkeep _ _ _ _
    | newCounter => exact hkeep _ _ _ _
    | cancel scope =>
      simp only [Session.step]
      split <;> exact hkeep _ _ _ _
    | subscribe topic scope counter source =>
      simp only [Session.step]
      split <;> exact hkeep _ _ _ _
    | on stream action => exact hkeep _ _ _ _
    | copy desk =>
      refine hself.atDesk desk hself fun hheld => ?_
      exact .mk _ _ _ _ (List.rel_append hdesks (.cons hheld .nil)) _
    | openFrom desk source =>
      refine hself.atDesk desk hself fun hheld => ?_
      cases hheld
      exact hkeep _ _ _ _
    | openBroker desk connect =>
      refine hself.atDesk desk hself fun hheld => ?_
      simp only [World.openBrokerStream_eq world hheld]
      cases hheld
      generalize world.openBrokerStream _ connect = opened
      obtain ⟨answer, w⟩ := opened
      cases answer <;> exact hkeep _ _ _ _
    | cancelDesk desk =>
      refine hself.atDesk desk hself fun hheld => ?_
      cases hheld
      exact hkeep _ _ _ _

/-- The same answer, requests that differ in their keys, and alike sessions. -/
inductive Accord : Remark × Session → Remark × Session → Prop
  | mk (answer : Answer) {requests requests' : List Request}
    (hrequests : requests.map Request.withoutKey = requests'.map Request.withoutKey)
    {s s' : Session} (hs : s.Alike s') : Accord (⟨answer, requests⟩, s) (⟨answer, requests'⟩, s')

/-- Setting up a backend on both sides. -/
theorem Alike.perform_mount (h : s.Alike s') {settings settings' : Settings} {unit : CurrencyUnit}
    (hnew : Settings.SetUpAlike settings settings' unit) (slot : ℕ) :
    Accord (s.perform (.act (.mount settings unit slot)))
      (s'.perform (.act (.mount settings' unit slot))) := by
  cases h with
  | mk world scopes counters backends hdesks makers =>
    simp only [perform, reply, Session.step]
    rcases world.mount_cases hnew slot with
      ⟨cause, hmount, hmount'⟩ | ⟨b, b', w, hmount, hmount', hb⟩
    · simp only [hmount, hmount']
      exact .mk _ rfl (.mk _ _ _ _ hdesks _)
    · have hheld := HeldDesk.Alike.mk hb slot world.families.length backends
      simp only [hmount, hmount', w.view_eq hheld]
      exact .mk _ rfl (.mk _ _ _ _ (List.rel_append hdesks (.cons hheld .nil)) _)

end Session

/-- The same command, or setting up a backend with another key. -/
inductive Command.Alike : Command → Command → Prop
  | same (command : Command) : Alike command command
  | mount {settings settings' : Settings} (h : settings.Alike settings') (unit : CurrencyUnit)
    (slot : ℕ) : Alike (.act (.mount settings unit slot)) (.act (.mount settings' unit slot))

namespace Session

variable {s s' : Session} {command command' : Command}

/-- One command. -/
theorem Alike.perform (h : s.Alike s') (hcommand : command.Alike command') :
    Accord (s.perform command) (s'.perform command') := by
  have hworld := h.world_eq
  cases hcommand with
  | mount hsettings unit slot => exact h.perform_mount (hsettings.new unit) slot
  | same =>
    cases command with
    | act action =>
      by_cases hmount : ∃ settings unit slot, action = .mount settings unit slot
      · obtain ⟨settings, unit, slot, rfl⟩ := hmount
        exact h.perform_mount (.refl settings unit) slot
      · have hother : ∀ settings unit slot, action ≠ .mount settings unit slot :=
          fun settings unit slot heq => hmount ⟨settings, unit, slot, heq⟩
        simp only [Session.perform, h.reply_eq action hother]
        exact .mk _ rfl (h.step action hother)
    | clock seconds =>
      simp only [Session.perform, hworld]
      exact .mk _ rfl (h.withWorld _)
    | newSlot =>
      simp only [Session.perform, hworld]
      exact .mk _ rfl (h.withWorld _)
    | store slot rate observedAt =>
      simp only [Session.perform, hworld]
      exact .mk _ rfl (h.withWorld _)
    | ask desk operation reachable script =>
      simp only [Session.perform, hworld]
      refine h.atDesk desk (.mk _ rfl h) fun hheld => ?_
      obtain ⟨outcome, sent, sent', w, hrun, hrun', hsent⟩ :=
        s'.world.run_eq hheld reachable script operation
      simp only [hrun, hrun']
      exact .mk _ hsent (h.withWorld _)
    | look desk =>
      simp only [Session.perform, hworld]
      refine h.atDesk desk (.mk _ rfl h) fun hheld => ?_
      rw [World.view_eq s'.world hheld]
      exact .mk _ rfl h
    | lookAtStream stream =>
      simp only [Session.perform, hub, hworld]
      split <;> exact .mk _ rfl h

/-- A whole dialogue. -/
theorem Alike.converse {commands commands' : List Command} (h : s.Alike s')
    (hcommands : List.Forall₂ Command.Alike commands commands') :
    (s.converse commands).1.map Remark.withoutKeys =
        (s'.converse commands').1.map Remark.withoutKeys ∧
      (s.converse commands).2.Alike (s'.converse commands').2 := by
  induction hcommands generalizing s s' with
  | nil => exact ⟨rfl, h⟩
  | @cons command command' rest rest' hcommand _ ih =>
    have hfirst := h.perform hcommand
    simp only [Session.converse]
    generalize s.perform command = p, s'.perform command' = q at hfirst
    cases hfirst with
    | mk answer hrequests hnext =>
      obtain ⟨hremarks, hlast⟩ := ih hnext
      refine ⟨?_, hlast⟩
      rw [List.map_cons, List.map_cons, hremarks, Remark.withoutKeys, Remark.withoutKeys, hrequests]

end Session

/-- Put the same commands to two sessions, with other keys in the settings of the second one, any
keys that can be used. Then the answers are the same, with all texts in them, the requests are the
same beside their keys, and in the end the worlds are, with the clock, the rates and the streams in
them. What diagnostics show does not depend on the place of the message broker either. -/
theorem key_not_observable (clock : ℕ) {commands commands' : List Command}
    (h : List.Forall₂ Command.Alike commands commands') :
    let first := (Session.start clock).converse commands
    let second := (Session.start clock).converse commands'
    first.1.map Remark.answer = second.1.map Remark.answer ∧
      first.1.map (fun remark => remark.requests.map Request.withoutKey) =
        second.1.map (fun remark => remark.requests.map Request.withoutKey) ∧
      first.2.world = second.2.world ∧
      ∀ (settings : Settings) (redisUrl redisUrl' : Option String) (unit : CurrencyUnit)
        (streams : ℕ),
        (Backend.new { settings with redisUrl := redisUrl } unit).map
            (fun b => (b.debugText streams, b.client.debugText)) =
          (Backend.new { settings with redisUrl := redisUrl' } unit).map
            (fun b => (b.debugText streams, b.client.debugText)) := by
  intro first second
  have hstart : (Session.start clock).Alike (Session.start clock) := .mk _ _ _ _ .nil _
  obtain ⟨hremarks, hlast⟩ := hstart.converse h
  have hanswers := congrArg (List.map Prod.fst) hremarks
  have hrequests := congrArg (List.map Prod.snd) hremarks
  rw [List.map_map, List.map_map] at hanswers hrequests
  exact ⟨hanswers, hrequests, hlast.world_eq, Backend.debugText_of_redisUrl⟩

/-- A backend is set up, asked for its balance and looked at, with one key and with another. -/
theorem key_not_observable_for_two_keys :
    let commands (key : String) : List Command := [.newSlot,
      .act (.mount { Settings.ofApiKey key with apiUrl := "http://127.0.0.1:1" } .sat 0),
      .ask 0 .status true [⟨.response 401 "who is there".toUTF8, some 1001⟩], .look 0]
    let remarks (key : String) := ((Session.start 1000).converse (commands key)).1
    let request (key : String) : Request := ⟨"GET", ⟨"http", "", "", some (.ipv4 2130706433), some 1,
      .segments ["v1", "wallet"], none, none⟩, key, "application/json", none⟩
    (remarks "first").map Remark.requests = [[], [], [request "first"], []] ∧
      (remarks "second").map Remark.requests = [[], [], [request "second"], []] ∧
      (remarks "first").map Remark.answer = (remarks "second").map Remark.answer := by
  intro commands remarks request
  have hfirst : Settings.UsableKey "first" := by decide
  have hsecond : Settings.UsableKey "second" := by decide
  have hmount := Command.Alike.mount
    (.mk { Settings.ofApiKey "" with apiUrl := "http://127.0.0.1:1" } hfirst hsecond) .sat 0
  have h : List.Forall₂ Command.Alike (commands "first") (commands "second") :=
    .cons (.same _) (.cons hmount (.cons (.same _) (.cons (.same _) .nil)))
  exact ⟨by decide, by decide, (key_not_observable 1000 h).1⟩

end LightningDeposit
