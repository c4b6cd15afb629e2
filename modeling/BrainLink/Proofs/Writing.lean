import BrainLink.Json.Decode
import BrainLink.Json.Writer

/-
  A value is read back from the text that is written for it.

  Key definitions include:
    * `Json.glyphOf`
    * `Json.Value.written`
    * `Json.Value.Legible`

  Main statements:
    * `Json.readGlyphs_escape`
    * `Json.decodeGlyphs_map`
    * `Json.Value.Legible.readsBack`
    * `Json.Value.Legible.parse?_toText`

  A character is written as one glyph, plain or as a numeric
  escape, and each glyph spells its character again. Texts
  stand between quotes, items and members between brackets,
  so what follows a value does not matter to its reader.
-/

namespace BrainLink

namespace Json

------------------------------------------------------------
-- Characters
------------------------------------------------------------

/- The glyph as which a character is read back. -/
def glyphOf (c : Char) : Glyph :=
  if c.toNat < 0x20 ∧
      c ∉ ['\x08', '\x0c', '\n', '\r', '\t'] then
    .unit c.toNat
  else
    .plain c

/- Two digits are enough for a control character. -/
theorem hexUnit?_hexDigit :
    ∀ code < 0x20,
      hexUnit? '0' '0'
          (Text.hexDigit (code / 16))
          (Text.hexDigit (code % 16)) =
        some code := by
  decide

/- What is written for a character reads as its glyph. -/
theorem readGlyphs_escape
    (c : Char)
    (rest : List Char) :
    readGlyphs (escape c ++ rest) =
      consGlyph (glyphOf c) (readGlyphs rest) := by
  unfold escape
  split
  · rfl
  · rfl
  · rfl
  · rfl
  · rfl
  · rfl
  · rfl
  · rename_i hQuote hSlash hBack hFeed hLine hReturn hTab
    split
    · rename_i hControl
      have hGlyph : glyphOf c = .unit c.toNat := by
        apply if_pos
        refine ⟨hControl, ?_⟩
        simpa using ⟨hBack, hFeed, hLine, hReturn, hTab⟩
      have hCode := hexUnit?_hexDigit c.toNat hControl
      rw [hGlyph]
      change
        readGlyphs
            ('\\' :: 'u' :: '0' :: '0' ::
              Text.hexDigit (c.toNat / 16) ::
                Text.hexDigit (c.toNat % 16) :: rest) =
          _
      rw [readGlyphs, hCode]
    · rename_i hPlain
      have hGlyph : glyphOf c = .plain c := by
        apply if_neg
        exact fun hControl => hPlain hControl.1
      have hNoSlash : (c == '\\') = false := by
        simpa using hSlash
      rw [hGlyph]
      change readGlyphs (c :: rest) = _
      rw [readGlyphs.eq_5]
      · simp [hNoSlash, hPlain]
      · exact hQuote
      · exact fun _ _ _ _ _ hSame _ => hSlash hSame
      · exact fun _ _ hSame _ => hSlash hSame

/- A string is read up to its closing quote. -/
theorem readGlyphs_flatMap
    (text rest : List Char) :
    readGlyphs (text.flatMap escape ++ '"' :: rest) =
      some (text.map glyphOf, rest) := by
  induction text with
  | nil => rfl
  | cons c text ih =>
      rw [List.flatMap_cons, List.append_assoc,
        readGlyphs_escape, ih]
      rfl

/- A glyph spells the character that it was written for. -/
theorem decodeGlyphs_cons
    (c : Char)
    (rest : List Glyph) :
    decodeGlyphs (glyphOf c :: rest) =
      (decodeGlyphs rest).map (c :: ·) := by
  unfold glyphOf
  split
  · rename_i hControl
    have hLeads : isLeading c.toNat = false := by
      simp only [isLeading, Bool.and_eq_false_iff,
        decide_eq_false_iff_not]
      omega
    have hTrails : isTrailing c.toNat = false := by
      simp only [isTrailing, Bool.and_eq_false_iff,
        decide_eq_false_iff_not]
      omega
    cases rest with
    | nil => simp [decodeGlyphs, hLeads, hTrails]
    | cons next rest =>
        cases next with
        | plain other => simp [decodeGlyphs, hLeads, hTrails]
        | unit code => simp [decodeGlyphs, hLeads, hTrails]
  · simp [decodeGlyphs]

theorem decodeGlyphs_map (text : List Char) :
    decodeGlyphs (text.map glyphOf) = some text := by
  induction text with
  | nil => rfl
  | cons c text ih =>
      rw [List.map_cons, decodeGlyphs_cons, ih]
      rfl

theorem decodeText?_map (text : String) :
    decodeText? (text.toList.map glyphOf) = some text := by
  unfold decodeText?
  rw [decodeGlyphs_map]
  simp

------------------------------------------------------------
-- Written Values
------------------------------------------------------------

/- The string that is written for a text. -/
def writtenText (text : String) : Written :=
  .string (text.toList.map glyphOf)

mutual

/- What is read where a value was written. -/
def Value.written : Value → Written
| .null => .null
| .bool value => .bool value
| .number numeral => .number numeral
| .string text => writtenText text
| .array items => .array (writtenItems items)
| .object members => .object (writtenMembers members)

/- What is read for the items of an array. -/
def writtenItems : List Value → List Written
| [] => []
| item :: items => item.written :: writtenItems items

/- What is read for the members of an object. -/
def writtenMembers :
    List (String × Value) → List (List Glyph × Written)
| [] => []
| (name, value) :: members =>
    (name.toList.map glyphOf, value.written) ::
      writtenMembers members

end

/-
  A value without numbers, in which at most so many arrays and
  objects stand inside each other.
-/
inductive Value.Legible : Nat → Value → Prop where
| null (room : Nat) : Legible room .null
| bool (room : Nat) (value : Bool) : Legible room (.bool value)
| string (room : Nat) (text : String) :
    Legible room (.string text)
| array
    (room : Nat)
    (items : List Value)
    (hItems : ∀ item ∈ items, Legible room item) :
    Legible (room + 1) (.array items)
| object
    (room : Nat)
    (members : List (String × Value))
    (hMembers : ∀ member ∈ members, Legible room member.2) :
    Legible (room + 1) (.object members)

------------------------------------------------------------
-- Reading
------------------------------------------------------------

/- A text stands between its quotes. -/
theorem writeText_append
    (text rest : List Char) :
    writeText text ++ rest =
      '"' :: (text.flatMap escape ++ '"' :: rest) := by
  simp [writeText]

/- A character that is no space begins what is read. -/
theorem skipSpace_of_not_isSpace
    {first : Char}
    (hFirst : isSpace first = false)
    (rest : List Char) :
    skipSpace (first :: rest) = first :: rest := by
  simp [skipSpace, hFirst]

/- No value begins with a space or with a closing bracket. -/
theorem Value.Legible.write_eq
    {room : Nat}
    {value : Value}
    (h : value.Legible room) :
    ∃ first rest,
      value.write = first :: rest ∧
        isSpace first = false ∧ first ≠ ']' := by
  cases h with
  | null => exact ⟨'n', _, rfl, by decide⟩
  | bool room value =>
      cases value with
      | true => exact ⟨'t', _, rfl, by decide⟩
      | false => exact ⟨'f', _, rfl, by decide⟩
  | string room text => exact ⟨'"', _, rfl, by decide⟩
  | array room items hItems =>
      cases items with
      | nil => exact ⟨'[', _, rfl, by decide⟩
      | cons item items => exact ⟨'[', _, rfl, by decide⟩
  | object room members hMembers =>
      cases members with
      | nil => exact ⟨'{', _, rfl, by decide⟩
      | cons member members =>
          exact ⟨'{', _, rfl, by decide⟩

/- A value is read where it was written, given enough fuel. -/
def Value.ReadsBack (value : Value) : Prop :=
  ∀ fuel rest,
    2 * value.write.length ≤ fuel →
      readWritten fuel (value.write ++ rest) =
        some (value.written, rest)

section Steps

variable {fuel : Nat}
variable {text more rest : List Char}

/- An item stands before the closing bracket. -/
theorem readItems_last
    {item : Written}
    (hItem :
      readWritten fuel text = some (item, ']' :: rest)) :
    readItems (fuel + 1) text = some ([item], rest) := by
  rw [readItems, hItem]
  rfl

/- An item stands before more items. -/
theorem readItems_next
    {item : Written}
    {items : List Written}
    (hItem : readWritten fuel text = some (item, ',' :: more))
    (hMore : readItems fuel more = some (items, rest)) :
    readItems (fuel + 1) text = some (item :: items, rest) := by
  rw [readItems, hItem]
  simp [skipSpace_of_not_isSpace, isSpace, hMore]

/- A name, a colon and a value are the last member. -/
theorem readMembers_last
    {value : Written}
    (name : String)
    (hValue :
      readWritten fuel text = some (value, '}' :: rest)) :
    readMembers (fuel + 1)
        (writeText name.toList ++ ':' :: text) =
      some ([(name.toList.map glyphOf, value)], rest) := by
  rw [writeText_append, readMembers]
  simp [skipSpace_of_not_isSpace, isSpace, readGlyphs_flatMap,
    hValue]

/- A name, a colon and a value stand before more members. -/
theorem readMembers_next
    {value : Written}
    {members : List (List Glyph × Written)}
    (name : String)
    (hValue : readWritten fuel text = some (value, ',' :: more))
    (hMore : readMembers fuel more = some (members, rest)) :
    readMembers (fuel + 1)
        (writeText name.toList ++ ':' :: text) =
      some
        ((name.toList.map glyphOf, value) :: members, rest) := by
  rw [writeText_append, readMembers]
  simp [skipSpace_of_not_isSpace, isSpace, readGlyphs_flatMap,
    hValue, hMore]

/- An array that does not end at once has items. -/
theorem readWritten_array
    {first : Char}
    {items : List Written}
    (hSpace : isSpace first = false)
    (hOpen : first ≠ ']')
    (hItems :
      readItems fuel (first :: more) = some (items, rest)) :
    readWritten (fuel + 1) ('[' :: first :: more) =
      some (.array items, rest) := by
  rw [readWritten, skipSpace_of_not_isSpace rfl]
  simp only [skipSpace_of_not_isSpace hSpace]
  split
  · rename_i hClosed
    exact (hOpen (List.cons.inj hClosed).1).elim
  · rw [hItems]

/- An object that begins with a name has members. -/
theorem readWritten_object
    {members : List (List Glyph × Written)}
    (hMembers :
      readMembers fuel ('"' :: more) = some (members, rest)) :
    readWritten (fuel + 1) ('{' :: '"' :: more) =
      some (.object members, rest) := by
  rw [readWritten]
  simp [skipSpace_of_not_isSpace, isSpace, hMembers]

end Steps

/- Items are read one by one, up to the closing bracket. -/
theorem readItems_write
    (items : List Value)
    (first : Value)
    (hItems : ∀ item ∈ first :: items, item.ReadsBack)
    (fuel : Nat)
    (rest : List Char)
    (hFuel :
      2 * (first.write ++ writeItems items).length ≤ fuel) :
    readItems fuel (first.write ++ (writeItems items ++ rest)) =
      some (writtenItems (first :: items), rest) := by
  have hFirst := hItems first List.mem_cons_self
  rw [List.length_append] at hFuel
  induction items generalizing first fuel with
  | nil =>
      rw [writeItems, List.length_singleton] at hFuel
      cases fuel with
      | zero => omega
      | succ fuel =>
          exact readItems_last (hFirst _ _ (by omega))
  | cons next items ih =>
      have hMore :
          writeItems (next :: items) ++ rest =
            ',' ::
              (next.write ++ (writeItems items ++ rest)) := by
        simp [writeItems]
      simp only [writeItems, List.length_cons,
        List.length_append] at hFuel
      cases fuel with
      | zero => omega
      | succ fuel =>
          have hRest :=
            ih next
              (fun item hItem =>
                hItems item (List.mem_cons_of_mem first hItem))
              fuel (by omega) (hItems next (by simp))
          rw [hMore]
          exact
            readItems_next (hFirst _ _ (by omega)) hRest

/- Members are read one by one, up to the closing brace. -/
theorem readMembers_write
    (members : List (String × Value))
    (first : String × Value)
    (hMembers :
      ∀ member ∈ first :: members, member.2.ReadsBack)
    (fuel : Nat)
    (rest : List Char)
    (hFuel :
      2 * (first.2.write ++ writeMembers members).length ≤
        fuel) :
    readMembers fuel
        (writeText first.1.toList ++
          ':' ::
            (first.2.write ++ (writeMembers members ++ rest))) =
      some (writtenMembers (first :: members), rest) := by
  have hFirst := hMembers first List.mem_cons_self
  rw [List.length_append] at hFuel
  induction members generalizing first fuel with
  | nil =>
      rw [writeMembers, List.length_singleton] at hFuel
      cases fuel with
      | zero => omega
      | succ fuel =>
          exact
            readMembers_last first.1 (hFirst _ _ (by omega))
  | cons next members ih =>
      have hMore :
          writeMembers (next :: members) ++ rest =
            ',' ::
              (writeText next.1.toList ++
                ':' ::
                  (next.2.write ++
                    (writeMembers members ++ rest))) := by
        simp [writeMembers]
      simp only [writeMembers, List.length_cons,
        List.length_append] at hFuel
      cases fuel with
      | zero => omega
      | succ fuel =>
          have hRest :=
            ih next
              (fun member hMember =>
                hMembers member
                  (List.mem_cons_of_mem first hMember))
              fuel (by omega) (hMembers next (by simp))
          rw [hMore]
          exact
            readMembers_next first.1 (hFirst _ _ (by omega))
              hRest

/- So every legible value is read back. -/
theorem Value.Legible.readsBack
    {room : Nat}
    {value : Value}
    (h : value.Legible room) :
    value.ReadsBack := by
  induction h with
  | null =>
      intro fuel rest hFuel
      cases fuel with
      | zero => cases hFuel
      | succ fuel => rfl
  | bool room value =>
      intro fuel rest hFuel
      cases fuel with
      | zero => cases value <;> cases hFuel
      | succ fuel => cases value <;> rfl
  | string room text =>
      intro fuel rest hFuel
      cases fuel with
      | zero => cases hFuel
      | succ fuel =>
          rw [Value.write, writeText_append, readWritten,
            skipSpace_of_not_isSpace rfl]
          simp only [readGlyphs_flatMap]
          rfl
  | array room items hItems ih =>
      intro fuel rest hFuel
      cases items with
      | nil =>
          cases fuel with
          | zero => cases hFuel
          | succ fuel => rfl
      | cons first items =>
          have hFirst := hItems first List.mem_cons_self
          rcases hFirst.write_eq with
            ⟨c, more, hWrite, hSpace, hOpen⟩
          rw [Value.write, List.length_cons] at hFuel
          cases fuel with
          | zero => omega
          | succ fuel =>
              have hRead :=
                readItems_write items first ih fuel rest
                  (by omega)
              rw [Value.write, List.cons_append,
                List.append_assoc]
              rw [hWrite] at hRead ⊢
              exact readWritten_array hSpace hOpen hRead
  | object room members hMembers ih =>
      intro fuel rest hFuel
      cases members with
      | nil =>
          cases fuel with
          | zero => cases hFuel
          | succ fuel => rfl
      | cons first members =>
          rw [Value.write, List.length_cons,
            List.length_append, List.length_cons] at hFuel
          cases fuel with
          | zero => omega
          | succ fuel =>
              have hRead :=
                readMembers_write members first ih fuel rest
                  (by omega)
              rw [writeText_append] at hRead
              rw [Value.write, List.cons_append,
                List.append_assoc, List.cons_append,
                List.append_assoc, writeText_append]
              exact readWritten_object hRead

/- The items of an array keep their values. -/
theorem itemValues?_written
    {room : Nat}
    {items : List Value}
    (hItems :
      ∀ item ∈ items, item.written.value? room = some item) :
    itemValues? room (writtenItems items) = some items := by
  induction items with
  | nil => rfl
  | cons item items ih =>
      rw [writtenItems, itemValues?,
        hItems item List.mem_cons_self,
        ih fun other hOther =>
          hItems other (List.mem_cons_of_mem item hOther)]

/- So do the members of an object, with their names. -/
theorem memberValues?_written
    {room : Nat}
    {members : List (String × Value)}
    (hMembers :
      ∀ member ∈ members,
        member.2.written.value? room = some member.2) :
    memberValues? room (writtenMembers members) =
      some members := by
  induction members with
  | nil => rfl
  | cons member members ih =>
      rw [writtenMembers, memberValues?, decodeText?_map,
        hMembers member List.mem_cons_self,
        ih fun other hOther =>
          hMembers other (List.mem_cons_of_mem member hOther)]

/- And what is read for it has its value. -/
theorem Value.Legible.value?_written
    {room : Nat}
    {value : Value}
    (h : value.Legible room) :
    value.written.value? room = some value := by
  induction h with
  | null => rfl
  | bool room value => rfl
  | string room text =>
      rw [Value.written, writtenText, Written.value?,
        decodeText?_map]
      rfl
  | array room items hItems ih =>
      rw [Value.written, Written.value?,
        itemValues?_written ih]
      rfl
  | object room members hMembers ih =>
      rw [Value.written, Written.value?,
        memberValues?_written ih]
      rfl

/- The text of a value reads as what is written for it. -/
theorem Value.Legible.ofChars?_write
    {room : Nat}
    {value : Value}
    (h : value.Legible room) :
    Written.ofChars? value.write = some value.written := by
  have hRead :=
    h.readsBack (2 * value.write.length + 2) []
      (Nat.le_add_right _ 2)
  rw [List.append_nil] at hRead
  unfold Written.ofChars?
  rw [hRead]
  rfl

/- A value that is not too deep is what its text denotes. -/
theorem Value.Legible.parse?_toText
    {value : Value}
    (h : value.Legible deepest) :
    parse? value.toText = some value := by
  unfold parse? Value.toText
  rw [String.toList_ofList, h.ofChars?_write]
  exact h.value?_written

end Json

end BrainLink
