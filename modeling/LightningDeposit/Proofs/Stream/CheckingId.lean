import LightningDeposit.Proofs.Stream.Polling
import LightningDeposit.Proofs.Text.Utf8Forms
import LightningDeposit.Proofs.Url.Percent

/-!
Which ids are read out of messages. The payload has to be the bytes of a text, and the id is that
text without the white space at its ends; whatever is published with white space around it is read
as it was, and nothing is read of bytes that only have the looks of UTF-8.
-/

namespace LightningDeposit

namespace Text

/-- Bytes are those of a text if they are the forms of its characters. -/
theorem eq_toUTF8_iff {bytes : ByteArray} {s : String} :
    bytes = s.toUTF8 ↔ bytes.data.toList.map UInt8.toNat = utf8 s.toList := by
  have hforms : s.toUTF8.data.toList.map UInt8.toNat = utf8 s.toList := by
    simp only [Url.data_toUTF8, Url.bytes, List.map_flatMap, map_toNat_utf8EncodeChar]
    rfl
  rw [← hforms]
  constructor
  · rintro rfl
    rfl
  · intro h
    have hdata := (List.map_inj_right fun _ _ => UInt8.toNat_inj.mp).mp h
    exact ByteArray.ext (Array.ext' hdata)

end Text

namespace Message

/-- The bytes of the payload as numbers. -/
def bytes (m : Message) : List ℕ := m.payload.data.toList.map UInt8.toNat

variable {topic id : String} {m : Message}

/-- A message names the id that is left of a text when the white space at its ends is not looked at.
-/
theorem checkingId?_eq_some_iff : m.checkingId? topic = some id ↔ m.channel = topic ∧
    ∃ s : String, m.bytes = Text.utf8 s.toList ∧ Text.Trims s id ∧ id ≠ "" := by
  have hread (s : String) : m.bytes = Text.utf8 s.toList ↔ String.fromUTF8? m.payload = some s := by
    rw [Text.fromUTF8?_eq_some_iff, Text.eq_toUTF8_iff]
    rfl
  have hid (s : String) : (if Text.trim s = "" then none else some (Text.trim s)) = some id ↔
      Text.Trims s id ∧ id ≠ "" := by
    rw [← Text.trim_eq_iff]
    split
    next hblank =>
      refine iff_of_false nofun ?_
      rintro ⟨rfl, hne⟩
      exact hne hblank
    next hne =>
      rw [Option.some.injEq]
      exact ⟨fun h => ⟨h, h ▸ hne⟩, fun h => h.1⟩
  unfold checkingId?
  by_cases hchannel : m.channel = topic
  · rw [if_pos hchannel, Option.bind_eq_some_iff, and_iff_right hchannel]
    exact exists_congr fun s => and_congr (hread s).symm (hid s)
  · rw [if_neg hchannel]
    exact iff_of_false nofun fun h => hchannel h.1

theorem checkingId?_of_malformed (h : Text.Malformed m.bytes) : m.checkingId? topic = none := by
  rw [Option.eq_none_iff_forall_ne_some]
  intro id hid
  obtain ⟨-, s, hs, -⟩ := checkingId?_eq_some_iff.mp hid
  rw [hs] at h
  exact Text.not_malformed_utf8 _ h

/-- What is published with white space around it is read without. -/
theorem checkingId?_of_padded {before after : String}
    (hbefore : ∀ c ∈ before.toList, Text.isBlank c = true)
    (hafter : ∀ c ∈ after.toList, Text.isBlank c = true) (hid : Text.Trims id id) (hne : id ≠ "") :
    checkingId? topic ⟨topic, (before ++ id ++ after).toUTF8⟩ = some id := by
  rw [checkingId?_eq_some_iff]
  refine ⟨rfl, before ++ id ++ after, Text.eq_toUTF8_iff.mp rfl, ?_, hne⟩
  exact ⟨⟨before.toList, after.toList, by simp, hbefore, hafter⟩, hid.2⟩

/-- A message names an id exactly if it is on the topic and its bytes are those of a text of which
the id is left, and not nothing, without the white space at its ends. So whatever has no white space
at its ends is read as it was published, with any white space around it, and is what a stream that
waits for it comes to; and bytes in which a form is too long, of a surrogate, beyond Unicode or cut
off name nothing. -/
theorem checking_ids_exact (topic : String) :
    (∀ (m : Message) (id : String), m.checkingId? topic = some id ↔ m.channel = topic ∧
      ∃ s : String, m.bytes = Text.utf8 s.toList ∧ Text.Trims s id ∧ id ≠ "") ∧
    (∀ before id after : String, (∀ c ∈ before.toList, Text.isBlank c = true) →
      (∀ c ∈ after.toList, Text.isBlank c = true) → Text.Trims id id → id ≠ "" →
      let m : Message := ⟨topic, (before ++ id ++ after).toUTF8⟩
      m.checkingId? topic = some id ∧
        ∀ (s : Subscription) (cancelFirst : ℕ → Bool), s.isOpen = true → s.topic = topic →
          s.source.queue = [] →
            ({ s with source := s.source.publish m }.next false cancelFirst).1 = .id id) ∧
    ∀ m : Message, Text.Malformed m.bytes → m.checkingId? topic = none := by
  refine ⟨fun m id => checkingId?_eq_some_iff, ?_, fun m h => checkingId?_of_malformed h⟩
  intro before id after hbefore hafter hid hne m
  have hm : m.checkingId? topic = some id := checkingId?_of_padded hbefore hafter hid hne
  refine ⟨hm, ?_⟩
  intro s cancelFirst hopen htopic hqueue
  simp [Subscription.next, Source.publish, hopen, htopic, hqueue, pollQueue, hm]

/-- An id with a no-break space in it and wide spaces around it, and a slash in two bytes. -/
theorem checking_ids_exact_with_wide_spaces :
    let topic := paidInvoicesChannel
    let padded : Message := ⟨topic, ("\u2003 " ++ "charge\u00a01" ++ "\n\u3000").toUTF8⟩
    let slash : Message := ⟨topic, ⟨#[0x61, 0xC0, 0xAF]⟩⟩
    padded.checkingId? topic = some "charge\u00a01" ∧ slash.checkingId? topic = none := by
  intro topic padded slash
  obtain ⟨-, hpadded, hmalformed⟩ := checking_ids_exact topic
  have hid : Text.Trims "charge\u00a01" "charge\u00a01" := by
    rw [← Text.trim_eq_iff]
    decide
  have hslash : Text.Malformed slash.bytes :=
    .overlong [0x61] [] (show 0 ≤ 4 by omega) (show 0x2F < Text.utf8Limit 0 by decide)
  have hbefore : "\u2003 ".toList.all Text.isBlank = true := by decide
  have hafter : "\n\u3000".toList.all Text.isBlank = true := by decide
  have hread := hpadded "\u2003 " _ "\n\u3000" (List.all_eq_true.mp hbefore)
    (List.all_eq_true.mp hafter) hid (by decide)
  exact ⟨hread.1, hmalformed slash hslash⟩

end Message

end LightningDeposit
