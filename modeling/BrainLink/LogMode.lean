import BrainLink.Text.Ascii
import BrainLink.Text.Blank
import BrainLink.Text.Integer

/-
  How much a process tells about its work, and setting that
  up from the environment.

  Key definitions include:
    * `LogMode`
    * `LogMode.ofText?`
    * `LogMode.ofEnvironment`
    * `LogMode.setUp`
-/

namespace BrainLink

/- Nothing, a line for each event, or all there is. -/
inductive LogMode where
| silent
| development
| debug
deriving DecidableEq, Repr

/- Why logging could not be set up. -/
inductive LogFault where
| badFilter
| alreadySet
deriving DecidableEq, Repr

/- What setting up logging finds around it. -/
structure LogSurroundings where
  level : Option String
  generalLevel : Option String
  isSet : Bool

namespace LogMode

/- The name of a mode. -/
def name : LogMode → String
| .silent => "silent"
| .development => "development"
| .debug => "debug"

/- The mode a text names, blanks and case aside. -/
def ofText? (text : String) : Option LogMode :=
  match Text.lower (Text.trim text) with
  | "silent" => some .silent
  | "development" => some .development
  | "dev" => some .development
  | "debug" => some .debug
  | _ => none

/- The mode an environment asks for. -/
def ofEnvironment (value : Option String) : LogMode :=
  (value.bind ofText?).getD .development

/- The level of a mode when nothing else is said. -/
def defaultLevel : LogMode → String
| .debug => "debug"
| _ => "info"

------------------------------------------------------------
-- Filters
------------------------------------------------------------

/- The levels a filter may name, besides the numbers. -/
def levels : List String :=
  ["off", "error", "warn", "info", "debug", "trace"]

/- A text that names a level, or numbers one from 0 to 5. -/
def isLevel (text : List Char) : Bool :=
  levels.contains (String.ofList (Text.lowerChars text))
    || (Text.readNat 5 text).isOk

/- A character that a target may begin with. -/
def startsTarget (c : Char) : Bool :=
  c.isAlphanum || [':', '-', '_'].contains c || 0x80 ≤ c.toNat

/- What comes behind fields in braces and their span. -/
def behindFields? (text : List Char) : Option (List Char) :=
  match Text.cutAt '\x7d' text with
  | some (_ :: _, ']' :: rest) => some rest
  | _ => none

/- What comes behind a span, perhaps with fields in it. -/
def behindSpan? (text : List Char) : Option (List Char) :=
  match text.dropWhile (fun c => c != ']' && c != '\x7b') with
  | ']' :: rest => some rest
  | '\x7b' :: fields => behindFields? fields
  | _ => none

/- What comes behind a target, a span, or both. -/
def behindTarget? (text : List Char) : Option (List Char) :=
  match text.dropWhile (fun c => c != '=' && c != '[') with
  | '[' :: span => behindSpan? span
  | rest => some rest

/-
  A directive: a level, or a target, a span, or both, and
  perhaps an equals sign with a level. Blanks around it are
  let pass only where there is no equals sign.
-/
def isDirective (text : List Char) : Bool :=
  let body := Text.trimChars text
  (body.head?.any fun c => c == '[' || startsTarget c)
    && match behindTarget? body with
      | some [] => true
      | some ('=' :: level) =>
          body == text && (level.isEmpty || isLevel level)
      | _ => false

/- A filter: directives with commas between them. -/
def isFilter (text : String) : Bool :=
  ((Text.fields ',' text.toList).filter (!·.isEmpty)).all
    isDirective

------------------------------------------------------------
-- Setting up
------------------------------------------------------------

/-
  Set up a mode. The silent one needs nothing; the others
  need a filter that can be read, and to be the first.
-/
def setUp
    (mode : LogMode)
    (around : LogSurroundings) :
    Except LogFault Unit :=
  match mode with
  | .silent => .ok ()
  | _ =>
      let filter :=
        (around.level <|> around.generalLevel).getD
          mode.defaultLevel
      if !isFilter filter then
        .error .badFilter
      else if around.isSet then
        .error .alreadySet
      else
        .ok ()

end LogMode

end BrainLink
