import BrainLink.Url.Encode

/-
  The path of a URL: segments behind slashes, of which those
  that spell a dot or two dots are followed rather than kept.

  Key definitions include:
    * `Url.isDot`
    * `Url.isDotDot`
    * `Url.walk`
    * `Url.writeSegments`
    * `Url.normalPath`
    * `Url.walkFile`
    * `Url.filePath`
-/

namespace BrainLink.Url

------------------------------------------------------------
-- Segments
------------------------------------------------------------

/- The spellings of a dot. -/
def dotSpellings : List (List Char) :=
  [['.'], ['%', '2', 'e']]

/- A segment that stays where it is. -/
def isDot (segment : List Char) : Bool :=
  dotSpellings.contains (Text.lowerChars segment)

/- A segment that goes back by one. -/
def isDotDot (segment : List Char) : Bool :=
  let small := Text.lowerChars segment
  dotSpellings.any fun first =>
    dotSpellings.any fun second => small == first ++ second

/- A letter with a colon or a bar: the name of a drive. -/
def isDrive : List Char → Bool
| [letter, mark] => letter.isAlpha && (mark == ':' || mark == '|')
| _ => false

/-
  Cut a path into its segments. A special scheme takes the
  backslash for a slash.
-/
def splitSegments
    (special : Bool)
    (path : List Char) :
    List (List Char) :=
  Text.fields '/'
    (if special then
      path.map fun c => if c == '\\' then '/' else c
    else
      path)

------------------------------------------------------------
-- Walking a path
------------------------------------------------------------

/- Go back by one segment; a drive is not left. -/
def stepBack : List (List Char) → List (List Char)
| [] => []
| last :: others =>
    if isDrive last then last :: others else others

/-
  Follow the segments one by one. Kept are the segments with
  a slash after them, the latest first, and the last segment.
-/
def walk :
    List (List Char) → List (List Char) →
      List (List Char) × List Char
| kept, [] => (kept, [])
| kept, [last] =>
    if isDotDot last then
      (stepBack kept, [])
    else if isDot last then
      (kept, [])
    else
      (kept, encode inPathSet last)
| kept, segment :: rest =>
    if isDotDot segment then
      walk (stepBack kept) rest
    else if isDot segment then
      walk kept rest
    else
      walk (encode inPathSet segment :: kept) rest

/- A path from its kept segments and its last one. -/
def writeSegments
    (kept : List (List Char))
    (last : List Char) :
    List Char :=
  '/' :: (kept.reverse.flatMap (fun s => s ++ ['/']) ++ last)

/- The path that segments behind a first slash lead to. -/
def normalPath
    (special : Bool)
    (path : List Char) :
    List Char :=
  let walked := walk [] (splitSegments special path)
  writeSegments walked.1 walked.2

------------------------------------------------------------
-- Files
------------------------------------------------------------

/- Tabs and line ends, which a URL holds nowhere. -/
def isSkipped (c : Char) : Bool :=
  c == '\t' || c == '\n' || c == '\r'

/- A text without tabs and line ends. -/
def unbroken (text : List Char) : List Char :=
  text.filter (!isSkipped ·)

/-
  The letter of a drive and what follows it in the same
  segment, where a tab or a line end keeps the two apart.
-/
def brokenDrive?
    (segment : List Char) :
    Option (Char × List Char) :=
  match segment.dropWhile isSkipped with
  | letter :: rest =>
      match rest.dropWhile isSkipped with
      | ':' :: gap :: more =>
          let rest := unbroken more
          if letter.isAlpha && isSkipped gap && !rest.isEmpty
          then
            some (letter, rest)
          else
            none
      | _ => none
  | [] => none

/-
  The path of a file as it was followed. `hasDrive` tells
  whether a drive was found at its head.
-/
structure FilePath where
  kept : List (List Char)
  last : List Char
  hasDrive : Bool

/- What one segment adds to the path of a file. -/
inductive FileSegment where
| back
| stay
| drive (letter : Char)
| broken (letter : Char) (rest : List Char)
| named (name : List Char)

/- Read a segment. A drive can only be at the head. -/
def FileSegment.read
    (isHead : Bool)
    (segment : List Char) :
    FileSegment :=
  match if isHead then brokenDrive? segment else none with
  | some (letter, rest) => .broken letter rest
  | none =>
      let segment := unbroken segment
      if isDotDot segment then
        .back
      else if isDot segment then
        .stay
      else
        match segment with
        | letter :: _ =>
            if isHead && isDrive segment then .drive letter
            else .named segment
        | [] => .named []

/-
  Follow the segments of a file, as those of another path. A
  drive at the head is written with a colon; where it is
  broken off, what follows is a segment of its own.
-/
def walkFile :
    FilePath → List (List Char) → FilePath
| path, [] => path
| path, [last] =>
    match FileSegment.read path.kept.isEmpty last with
    | .back => { path with kept := stepBack path.kept }
    | .stay => path
    | .drive letter =>
        { path with last := [letter, ':'], hasDrive := true }
    | .broken letter rest =>
        { path with
          kept := [[letter, ':']]
          last := encode inPathSet rest }
    | .named name => { path with last := encode inPathSet name }
| path, segment :: rest =>
    match FileSegment.read path.kept.isEmpty segment with
    | .back =>
        walkFile { path with kept := stepBack path.kept } rest
    | .stay => walkFile path rest
    | .drive letter =>
        walkFile
          { path with
            kept := [[letter, ':']]
            hasDrive := true }
          rest
    | .broken letter more =>
        walkFile
          { path with
            kept := [encode inPathSet more, [letter, ':']] }
          rest
    | .named name =>
        walkFile
          { path with kept := encode inPathSet name :: path.kept }
          rest

/- The path of a file, behind its first slash. -/
def filePath (path : List Char) : FilePath :=
  walkFile ⟨[], [], false⟩ (splitSegments true path)

/- The text of it; slashes at its head count as one. -/
def FilePath.toChars (path : FilePath) : List Char :=
  writeSegments
    (path.kept.reverse.dropWhile List.isEmpty).reverse
    path.last

end BrainLink.Url
