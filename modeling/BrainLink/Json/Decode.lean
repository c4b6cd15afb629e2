import BrainLink.Json.Number
import BrainLink.Json.Reader

/-
  The value of a written text, and texts that hold a record
  of declared fields.

  Key definitions include:
    * `Json.decodeGlyphs`
    * `Json.Written.value?`
    * `Json.parse?`
    * `Json.assign?`
    * `Json.Value.record?`
    * `Json.Written.record?`
-/

namespace BrainLink.Json

------------------------------------------------------------
-- Strings
------------------------------------------------------------

/- The first half of a pair of sixteen-bit units. -/
def isLeading (code : Nat) : Bool :=
  decide (0xD800 ≤ code) && decide (code ≤ 0xDBFF)

/- The second half of a pair of sixteen-bit units. -/
def isTrailing (code : Nat) : Bool :=
  decide (0xDC00 ≤ code) && decide (code ≤ 0xDFFF)

/- The character that a pair of units spells. -/
def pairedChar (leading trailing : Nat) : Char :=
  Char.ofNat
    (0x10000 + (leading - 0xD800) * 0x400
      + (trailing - 0xDC00))

/-
  The characters a string spells. Half a pair spells none,
  and both halves must be written as escapes, side by side.
-/
def decodeGlyphs : List Glyph → Option (List Char)
| [] => some []
| .plain c :: rest => (decodeGlyphs rest).map (c :: ·)
| [.unit code] =>
    if isLeading code || isTrailing code then
      none
    else
      some [Char.ofNat code]
| .unit code :: .unit next :: rest =>
    if isLeading code then
      if isTrailing next then
        (decodeGlyphs rest).map (pairedChar code next :: ·)
      else
        none
    else if isTrailing code then
      none
    else
      (decodeGlyphs (.unit next :: rest)).map
        (Char.ofNat code :: ·)
| .unit code :: .plain c :: rest =>
    if isLeading code || isTrailing code then
      none
    else
      (decodeGlyphs (.plain c :: rest)).map
        (Char.ofNat code :: ·)

/- The text a string spells. -/
def decodeText? (glyphs : List Glyph) : Option String :=
  (decodeGlyphs glyphs).map String.ofList

------------------------------------------------------------
-- Values
------------------------------------------------------------

/- How many arrays and objects may stand inside each other. -/
def deepest : Nat :=
  127

mutual

/-
  The value of a written text, with `room` arrays and objects
  still allowed around its innermost part.
-/
def Written.value? : Nat → Written → Option Value
| _, .null => some .null
| _, .bool value => some (.bool value)
| _, .number numeral =>
    if numeral.isFinite then some (.number numeral) else none
| _, .string glyphs => (decodeText? glyphs).map .string
| 0, .array _ => none
| 0, .object _ => none
| room + 1, .array items =>
    (itemValues? room items).map .array
| room + 1, .object members =>
    (memberValues? room members).map .object

/- The values of the items of an array. -/
def itemValues? : Nat → List Written → Option (List Value)
| _, [] => some []
| room, item :: rest =>
    match item.value? room, itemValues? room rest with
    | some value, some values => some (value :: values)
    | _, _ => none

/- The values of the members of an object. -/
def memberValues? :
    Nat → List (List Glyph × Written) →
      Option (List (String × Value))
| _, [] => some []
| room, (name, item) :: rest =>
    match decodeText? name, item.value? room,
        memberValues? room rest with
    | some name, some value, some values =>
        some ((name, value) :: values)
    | _, _, _ => none

end

/- The value that a JSON text denotes. -/
def parse? (text : String) : Option Value :=
  match Written.ofChars? text.toList with
  | none => none
  | some written => written.value? deepest

------------------------------------------------------------
-- Records
------------------------------------------------------------

/-
  Sort named members into declared fields. Other names are
  passed over; a field named twice is an error.
-/
def assign?
    {α : Type}
    (members : List (String × α)) :
    List String → Option (List (Option α))
| [] => some []
| name :: names =>
    match members.filter (fun member => member.1 == name) with
    | [] => (assign? members names).map (none :: ·)
    | [member] =>
        (assign? members names).map (some member.2 :: ·)
    | _ => none

/-
  Give the items of an array to the declared fields in their
  order. An array may be shorter than the declaration, but
  not longer.
-/
def deal?
    {α : Type} :
    List String → List α → Option (List (Option α))
| [], [] => some []
| [], _ :: _ => none
| _ :: names, [] => (deal? names []).map (none :: ·)
| _ :: names, item :: items =>
    (deal? names items).map (some item :: ·)

/- A value that holds a record of the declared fields. -/
def Value.record?
    (names : List String) :
    Value → Option (List (Option Value))
| .object members => assign? members names
| .array items => deal? names items
| _ => none

/- The value of a field, if the field is there. -/
def fieldValue? :
    Option Written → Option (Option Value)
| none => some none
| some written => (written.value? deepest).map some

/- Each of the fields, or nothing if one of them is bad. -/
def allFields?
    {α β : Type}
    (read : α → Option β) :
    List α → Option (List β)
| [] => some []
| field :: fields =>
    match read field, allFields? read fields with
    | some value, some values => some (value :: values)
    | _, _ => none

/- Name every member of an object by the text it spells. -/
def namedMembers? :
    List (List Glyph × Written) →
      Option (List (String × Written)) :=
  allFields? fun member =>
    (decodeText? member.1).map fun name => (name, member.2)

/-
  A written text that holds a record of the declared fields.
  Only these are judged: what stands in other members may be
  too deep, too large or spell no text.
-/
def Written.record?
    (names : List String) :
    Written → Option (List (Option Value))
| .object members =>
    match namedMembers? members with
    | none => none
    | some members =>
        match assign? members names with
        | none => none
        | some fields => allFields? fieldValue? fields
| .array items =>
    match deal? names items with
    | none => none
    | some fields => allFields? fieldValue? fields
| _ => none

/- A text that holds a record of the declared fields. -/
def readRecord?
    (names : List String)
    (text : String) :
    Option (List (Option Value)) :=
  match Written.ofChars? text.toList with
  | none => none
  | some written => written.record? names

------------------------------------------------------------
-- Fields
------------------------------------------------------------

/- A field that must be there and hold a text. -/
def requiredText? : Option Value → Option String
| none => none
| some value => value.text?

/- A field that holds a text; left out, it is empty. -/
def plainText? : Option Value → Option String
| none => some ""
| some value => value.text?

/- A field that holds a text, or null, or is left out. -/
def optionalText? : Option Value → Option (Option String)
| none => some none
| some .null => some none
| some value => value.text?.map some

end BrainLink.Json
