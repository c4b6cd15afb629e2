import BrainLink.Proofs.Writing
import BrainLink.Registrar

/-
  A registration is read back from the text that is written
  for it.

  Main statements:
    * `Json.namedMembers?_written`
    * `Registration.ofText?_toText`
    * `Registration.parse?_toText`
    * `Registration.toText_inj`
    * `payloads_hold_registrations`

  What a brain finds in a payload is what the adapter has put
  there, whatever the name and the URL are.
-/

namespace BrainLink

/- The members of an object keep their names. -/
theorem Json.namedMembers?_written
    (members : List (String × Json.Value)) :
    Json.namedMembers? (Json.writtenMembers members) =
      some
        (members.map fun member =>
          (member.1, member.2.written)) := by
  unfold Json.namedMembers?
  induction members with
  | nil => rfl
  | cons member members ih =>
      rw [Json.writtenMembers, Json.allFields?, ih,
        Json.decodeText?_map]
      rfl

/- A payload holds two texts and nothing else. -/
theorem Registration.legible_toValue
    (registration : Registration)
    (room : Nat) :
    registration.toValue.Legible (room + 1) := by
  apply Json.Value.Legible.object
  intro member hMember
  simp only [List.mem_cons, List.not_mem_nil, or_false]
    at hMember
  rcases hMember with rfl | rfl
  · exact .string room _
  · exact .string room _

/- A brain reads the registration that was written. -/
theorem Registration.ofText?_toText
    (registration : Registration) :
    Registration.ofText? registration.toText =
      some registration := by
  have hRead :
      Json.Written.ofChars? registration.toText.toList =
        some registration.toValue.written := by
    unfold Registration.toText Json.Value.toText
    rw [String.toList_ofList]
    exact (registration.legible_toValue 0).ofChars?_write
  have hText (text : String) :
      (Json.Value.string text).written.value? Json.deepest =
        some (.string text) :=
    (Json.Value.Legible.string _ text).value?_written
  unfold Registration.ofText? Json.readRecord?
  rw [hRead]
  unfold Registration.toValue
  rw [Json.Value.written]
  simp [Json.Written.record?, Json.namedMembers?_written,
    Json.assign?, Json.allFields?, Json.fieldValue?, hText,
    Json.requiredText?, Json.Value.text?]

/- The text of a payload denotes the two members it has. -/
theorem Registration.parse?_toText
    (registration : Registration) :
    Json.parse? registration.toText =
      some registration.toValue :=
  (registration.legible_toValue 126).parse?_toText

/- Registrations that are written alike are the same. -/
theorem Registration.toText_inj
    {registration other : Registration} :
    registration.toText = other.toText ↔
      registration = other := by
  constructor
  · intro hText
    have hRead := registration.ofText?_toText
    rw [hText, other.ofText?_toText] at hRead
    exact (Option.some.inj hRead).symm
  · exact congrArg toText

/-
  Whatever its name and its URL are, a registration is read
  back from its payload, no other has that payload, and the
  payload is an object with these two members and no other.
  It is what a registrar hands to the brain.
-/
theorem payloads_hold_registrations
    (registration : Registration) :
    Registration.ofText? registration.toText =
        some registration ∧
      (∀ other : Registration,
        other.toText = registration.toText ↔
          other = registration) ∧
        Json.parse? registration.toText =
            some
              (.object
                [ ("name", .string registration.name),
                  ("baseUrl", .string registration.baseUrl) ]) ∧
          ∀ brainUrl endpoint,
            ((Registrar.mk registration.name brainUrl).request
                endpoint registration.baseUrl).body =
              some registration.toText :=
  ⟨ registration.ofText?_toText,
    fun _ => Registration.toText_inj,
    registration.parse?_toText,
    fun _ _ => rfl ⟩

/- A name that looks like a member is no member. -/
example :
    Registration.toText
        ⟨"a\",\"baseUrl\":\"b", "\x00\n😀"⟩ =
      "\x7b\"name\":\"a\\\",\\\"baseUrl\\\":\\\"b\",\"baseUrl\":\"\\u0000\\n😀\"\x7d" := by
  decide +kernel

end BrainLink
