import BrainLink.Net.Address
import BrainLink.Url.Host
import BrainLink.Url.Path

/-
  URLs: reading a text as one, and writing it back in normal
  form.

  Key definitions include:
    * `Url`
    * `Url.parse`
    * `Url.toChars`
    * `Url.effectivePort?`
-/

namespace BrainLink

/-
  A URL taken apart. All parts are kept as they are written,
  percent-encoded where they have to be. The port is there
  only when it is not the one the scheme implies.
-/
structure Url where
  scheme : List Char
  user : List Char
  password : List Char
  host : Option Url.Host
  port : Option Nat
  path : List Char
  query : Option (List Char)
  fragment : Option (List Char)
deriving DecidableEq

namespace Url

------------------------------------------------------------
-- Schemes
------------------------------------------------------------

/- How a scheme treats hosts, slashes and backslashes. -/
inductive SchemeKind where
| special
| file
| other
deriving DecidableEq, Repr

/- The port that a scheme implies. -/
def impliedPort? (scheme : List Char) : Option Nat :=
  match String.ofList scheme with
  | "http" => some 80
  | "ws" => some 80
  | "https" => some 443
  | "wss" => some 443
  | "ftp" => some 21
  | _ => none

/- The kind of a scheme. -/
def schemeKind (scheme : List Char) : SchemeKind :=
  if scheme == ['f', 'i', 'l', 'e'] then
    .file
  else if (impliedPort? scheme).isSome then
    .special
  else
    .other

/- A slash, or what a special scheme takes for one. -/
def isSlash (special : Bool) (c : Char) : Bool :=
  c == '/' || (special && c == '\\')

/- A character that ends the part before the path. -/
def endsAuthority (special : Bool) (c : Char) : Bool :=
  isSlash special c || c == '?' || c == '#'

/- A character that may stand in a scheme after its first. -/
def isSchemeChar (c : Char) : Bool :=
  c.isAlphanum || c == '+' || c == '-' || c == '.'

/- The scheme of a text, small, and what follows its colon. -/
def readScheme? :
    List Char → Option (List Char × List Char)
| [] => none
| first :: rest =>
    if first.isAlpha then
      match rest.dropWhile isSchemeChar with
      | ':' :: after =>
          some
            ( Text.lowerChars
                (first :: rest.takeWhile isSchemeChar),
              after )
      | _ => none
    else
      none

------------------------------------------------------------
-- Authority
------------------------------------------------------------

/-
  The text before the last at-sign, and the text after it.
-/
def cutUser
    (authority : List Char) :
    Option (List Char × List Char) :=
  let host := (authority.reverse.takeWhile (· != '@')).reverse
  if host.length = authority.length then
    none
  else
    some
      (authority.take (authority.length - host.length - 1), host)

/- The user name and the password of a text, both encoded. -/
def readUser (text : List Char) : List Char × List Char :=
  match Text.cutAt ':' text with
  | none => (encode inUserSet text, [])
  | some (user, password) =>
      (encode inUserSet user, encode inUserSet password)

/-
  The text of the host, up to a colon outside brackets, and
  the text of the port behind that colon.
-/
def cutPort :
    Bool → List Char → List Char × Option (List Char)
| _, [] => ([], none)
| inside, c :: rest =>
    if c == ':' && !inside then
      ([], some rest)
    else
      let inside :=
        if c == '[' then true
        else if c == ']' then false
        else inside
      let cut := cutPort inside rest
      (c :: cut.1, cut.2)

/- The number that the text of a port spells. -/
def readPort : List Char → Nat → Except Fault Nat
| [], port => .ok port
| c :: rest, port =>
    if c.isDigit then
      let next := port * 10 + Text.digitValue c
      if next ≤ 65535 then readPort rest next
      else .error .badPort
    else
      .error .badPort

/- The port of a URL, unless its scheme implies it. -/
def portOf
    (implied : Option Nat)
    (text : Option (List Char)) :
    Except Fault (Option Nat) :=
  match text with
  | none => .ok none
  | some [] => .ok none
  | some digits =>
      match readPort digits 0 with
      | .error fault => .error fault
      | .ok port =>
          if some port = implied then .ok none
          else .ok (some port)

/-
  The user, the password, the host and the port of a URL, and
  the backslash behind the port with what follows it.
-/
structure Authority where
  user : List Char
  password : List Char
  host : Host
  port : Option Nat
  rest : List Char
deriving DecidableEq

/-
  The text of a host as a host. A host may be empty only
  under a scheme that is not special.
-/
def readHost
    (special : Bool)
    (text : List Char) :
    Except Fault Host :=
  if special then
    if text.isEmpty then
      .error .emptyHost
    else
      Host.parse text
  else
    Host.parseOpaque text

/- An empty host can have neither a port nor a user. -/
def checkHost
    (host : Host)
    (hasUser : Bool)
    (port : Option (List Char)) :
    Except Fault Unit :=
  if host = .domain [] ∧ (hasUser ∨ port.isSome) then
    .error .emptyHost
  else
    .ok ()

/-
  Take the part before the path of a URL apart. After a lone
  at-sign nothing but the end may follow, or a host. A port
  ends at a backslash whatever the scheme.
-/
def readAuthority
    (scheme : List Char)
    (special : Bool)
    (text : List Char)
    (isLast : Bool) :
    Except Fault Authority :=
  let cut := (cutUser text).getD ([], text)
  let user := readUser cut.1
  let hasUser := !user.1.isEmpty || !user.2.isEmpty
  let parts := cutPort false cut.2
  let digits := parts.2.map fun port =>
    port.takeWhile (· != '\\')
  let rest := (parts.2.getD []).dropWhile (· != '\\')
  if (cutUser text).isSome && cut.1.isEmpty && cut.2.isEmpty
      && !isLast then
    .error .emptyHost
  else
    match readHost special parts.1 with
    | .error fault => .error fault
    | .ok host =>
        match checkHost host hasUser parts.2 with
        | .error fault => .error fault
        | .ok () =>
            match portOf (impliedPort? scheme) digits with
            | .error fault => .error fault
            | .ok port =>
                .ok ⟨user.1, user.2, host, port, rest⟩

------------------------------------------------------------
-- Query and fragment
------------------------------------------------------------

/- The part before a mark, and the part after it if any. -/
def cutMark
    (mark : Char)
    (text : List Char) :
    List Char × Option (List Char) :=
  match Text.cutAt mark text with
  | none => (text, none)
  | some (before, after) => (before, some after)

/- What stands before query and fragment, and these two. -/
structure Tail where
  front : List Char
  query : Option (List Char)
  fragment : Option (List Char)

/- Cut query and fragment off a text and encode them. -/
def cutTail (special : Bool) (text : List Char) : Tail :=
  let fragment := cutMark '#' text
  let query := cutMark '?' fragment.1
  { front := query.1
    query :=
      query.2.map
        (encode (if special then inSpecialQuerySet
          else inQuerySet))
    fragment := fragment.2.map (encode inFragmentSet) }

------------------------------------------------------------
-- URLs
------------------------------------------------------------

/- The path behind an authority. -/
def pathAfter (special : Bool) : List Char → List Char
| [] => if special then normalPath true [] else []
| c :: rest =>
    if isSlash special c then
      normalPath special rest
    else
      normalPath special (c :: rest)

/- A URL with an authority. -/
def parseWithAuthority
    (scheme : List Char)
    (special : Bool)
    (tail : Tail) :
    Except Fault Url :=
  let text := tail.front
  let path := text.dropWhile (!endsAuthority special ·)
  let isLast :=
    path.isEmpty && tail.query.isNone && tail.fragment.isNone
  match readAuthority scheme special
      (text.takeWhile (!endsAuthority special ·)) isLast with
  | .error fault => .error fault
  | .ok authority =>
      .ok
        { scheme := scheme
          user := authority.user
          password := authority.password
          host := some authority.host
          port := authority.port
          path := pathAfter special (authority.rest ++ path)
          query := tail.query
          fragment := tail.fragment }

/- A URL without an authority. -/
def withoutAuthority
    (scheme : List Char)
    (path : List Char)
    (tail : Tail) :
    Url :=
  { scheme := scheme
    user := []
    password := []
    host := none
    port := none
    path := path
    query := tail.query
    fragment := tail.fragment }

/- The host of a file, which may be left out. -/
def readFileHost
    (text : List Char) : Except Fault (Option Host) :=
  if text.isEmpty then
    .ok none
  else
    match Host.parse text with
    | .error fault => .error fault
    | .ok host =>
        if host = .domain "localhost".toList then .ok none
        else .ok (some host)

/- The URL of a file on no named host. -/
def localFile
    (scheme : List Char)
    (tail : Tail)
    (path : List Char) :
    Url :=
  withoutAuthority scheme (filePath path).toChars tail

/-
  The URL of a file behind a double slash. A drive in place
  of the host is part of the path, and one at the head of the
  path takes the host away.
-/
def parseFileHost
    (scheme : List Char)
    (tail : Tail)
    (text : List Char) :
    Except Fault Url :=
  let host := unbroken (text.takeWhile (!isSlash true ·))
  let path := text.dropWhile (!isSlash true ·)
  if isDrive host then
    .ok (localFile scheme tail text)
  else
    match readFileHost host with
    | .error fault => .error fault
    | .ok none => .ok (localFile scheme tail path)
    | .ok (some host) =>
        let walked := filePath (path.drop 1)
        .ok
          { withoutAuthority scheme walked.toChars tail with
            host := if walked.hasDrive then none else some host }

/-
  The URL of a file, with the text before its query as it was
  given.
-/
def parseFile
    (scheme : List Char)
    (tail : Tail)
    (text : List Char) :
    Except Fault Url :=
  match text.dropWhile isSkipped with
  | first :: path =>
      if isSlash true first then
        match path.dropWhile isSkipped with
        | second :: rest =>
            if isSlash true second then
              parseFileHost scheme tail rest
            else
              .ok (localFile scheme tail path)
        | [] => .ok (localFile scheme tail [])
      else
        .ok (localFile scheme tail text)
  | [] => .ok (localFile scheme tail [])

/- The URL behind a scheme of another kind. -/
def parseOther
    (scheme : List Char)
    (tail : Tail) :
    Except Fault Url :=
  match tail.front with
  | '/' :: '/' :: rest =>
      parseWithAuthority scheme false { tail with front := rest }
  | '/' :: rest =>
      .ok (withoutAuthority scheme (normalPath false rest) tail)
  | opaquePath =>
      .ok
        (withoutAuthority scheme
          (encode isControlCode opaquePath) tail)

/- Spaces and control characters, which a URL sheds. -/
def isShed (c : Char) : Bool :=
  c.toNat ≤ 0x20

/- A text without spaces and control characters around it. -/
def shed (text : List Char) : List Char :=
  ((text.dropWhile isShed).reverse.dropWhile isShed).reverse

/- A text as it is read: without what a URL ignores. -/
def clean (text : List Char) : List Char :=
  unbroken (shed text)

/- The text of a file as it was given, up to its query. -/
def fileText (text : List Char) : List Char :=
  (((shed text).dropWhile (· != ':')).drop 1).takeWhile
    fun c => c != '?' && c != '#'

/- Read a text as a URL. -/
def parse (text : List Char) : Except Fault Url :=
  match readScheme? (clean text) with
  | none => .error .noScheme
  | some (scheme, rest) =>
      match schemeKind scheme with
      | .special =>
          parseWithAuthority scheme true
            (cutTail true (rest.dropWhile (isSlash true)))
      | .file =>
          parseFile scheme (cutTail true rest) (fileText text)
      | .other => parseOther scheme (cutTail false rest)

------------------------------------------------------------
-- Writing
------------------------------------------------------------

/- The user and the password with the at-sign after them. -/
def writeUser (url : Url) : List Char :=
  if url.user.isEmpty && url.password.isEmpty then
    []
  else if url.password.isEmpty then
    url.user ++ ['@']
  else
    url.user ++ ':' :: url.password ++ ['@']

/- The part between the double slash and the path. -/
def writeAuthority (url : Url) : List Char :=
  url.writeUser
    ++ (match url.host with
        | none => []
        | some host => host.toChars)
    ++ (match url.port with
        | none => []
        | some port => ':' :: Text.decimalChars port)

/- Whether a double slash stands before the path. -/
def hasAuthority (url : Url) : Bool :=
  url.host.isSome || schemeKind url.scheme != .other

/- A part behind its mark, if the part is there. -/
def writeMarked
    (mark : Char) :
    Option (List Char) → List Char
| none => []
| some text => mark :: text

/- The text of a URL. -/
def toChars (url : Url) : List Char :=
  url.scheme ++ ':' ::
    ((if url.hasAuthority then
        '/' :: '/' :: url.writeAuthority
      else if ['/', '/'].isPrefixOf url.path then
        ['/', '.']
      else
        [])
      ++ url.path
      ++ writeMarked '?' url.query
      ++ writeMarked '#' url.fragment)

/- The text of a URL. -/
def toText (url : Url) : String :=
  String.ofList url.toChars

/- The port a client connects to. -/
def effectivePort? (url : Url) : Option Nat :=
  match url.port with
  | some port => some port
  | none => impliedPort? url.scheme

end Url

end BrainLink
