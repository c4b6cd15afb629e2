import BrainLink.Proofs.Paths
import BrainLink.Registration

/-
  The URLs under which brains call back: what they are read
  as, and that their text is read as the same again.

  Key definitions include:
    * `Url.cleanEnd`
    * `Url.shownPort`
    * `Url.IsPort`
    * `Url.atHost`
    * `Url.IsBehind`
    * `Url.IsAt`
    * `Url.LeadsTo`

  Main statements:
    * `Url.parse_authority`
    * `Url.isAt_atHost`
    * `Url.IsAt.parse_toChars`
    * `Url.IsAt.leadsTo`
    * `exists_callbackUrl`
    * `Config.exists_callbackPath`

  The text behind the port of an address begins with a slash.
  So whatever it holds, it changes neither the address nor the
  port, and nothing in front of it is cleaned away. What is
  read of it is in normal form: it is at the address, and its
  text is read as the same URL again.
-/

namespace BrainLink

namespace Url

------------------------------------------------------------
-- Cleaning
------------------------------------------------------------

/- The end of a text as it is read. -/
def cleanEnd (text : List Char) : List Char :=
  unbroken (text.reverse.dropWhile isShed).reverse

theorem isSkipped_of_not_isShed
    {c : Char}
    (hShed : isShed c = false) :
    isSkipped c = false := by
  rw [Bool.eq_false_iff]
  intro hSkipped
  simp only [isSkipped, Bool.or_eq_true, beq_iff_eq]
    at hSkipped
  rcases hSkipped with (rfl | rfl) | rfl
  · cases hShed
  · cases hShed
  · cases hShed

theorem unbroken_of_not_isShed
    {text : List Char}
    (hText : ∀ c ∈ text, isShed c = false) :
    unbroken text = text := by
  apply List.filter_eq_self.mpr
  intro c hMem
  rw [isSkipped_of_not_isShed (hText c hMem)]
  rfl

/- A text that begins with what is not shed. -/
theorem dropWhile_isShed
    {text : List Char}
    (hHead : ∀ c ∈ text.head?, isShed c = false) :
    text.dropWhile isShed = text := by
  cases text with
  | nil => rfl
  | cons c text =>
      apply List.dropWhile_cons_of_neg
      rw [hHead c rfl]
      exact Bool.false_ne_true

theorem dropWhile_isShed_reverse
    {text : List Char}
    (hText : ∀ c ∈ text, isShed c = false) :
    text.reverse.dropWhile isShed = text.reverse := by
  apply dropWhile_isShed
  intro c hHead
  exact
    hText c (List.mem_reverse.mp (List.mem_of_head? hHead))

/- Only the end of a text is cleaned behind a clean front. -/
theorem clean_append
    {front : List Char}
    (hNil : front ≠ [])
    (hFront : ∀ c ∈ front, isShed c = false)
    (rest : List Char) :
    clean (front ++ rest) = front ++ cleanEnd rest := by
  have hHead :
      (front ++ rest).dropWhile isShed = front ++ rest := by
    apply dropWhile_isShed
    cases front with
    | nil => exact absurd rfl hNil
    | cons c front =>
        rintro c ⟨⟩
        exact hFront c List.mem_cons_self
  have hEnd :
      (rest.reverse ++ front.reverse).dropWhile isShed =
        rest.reverse.dropWhile isShed ++ front.reverse := by
    rw [List.dropWhile_append]
    split
    · rename_i hEmpty
      rw [List.isEmpty_iff.mp hEmpty,
        dropWhile_isShed_reverse hFront, List.nil_append]
    · rfl
  unfold clean shed cleanEnd
  rw [hHead, List.reverse_append, hEnd, List.reverse_append,
    List.reverse_reverse, unbroken, List.filter_append]
  rw [← unbroken, ← unbroken, unbroken_of_not_isShed hFront]

theorem cleanEnd_of_not_isShed
    {text : List Char}
    (hText : ∀ c ∈ text, isShed c = false) :
    cleanEnd text = text := by
  unfold cleanEnd
  rw [dropWhile_isShed_reverse hText, List.reverse_reverse,
    unbroken_of_not_isShed hText]

/- An end that begins with what is not shed keeps that. -/
theorem cleanEnd_cons
    {c : Char}
    (hShed : isShed c = false)
    (rest : List Char) :
    cleanEnd (c :: rest) = c :: cleanEnd rest := by
  have hFront : ∀ other ∈ [c], isShed other = false := by
    intro other hMem
    rwa [List.mem_singleton.mp hMem]
  have hClean := clean_append (by simp) hFront rest
  have hHead :
      ([c] ++ rest).dropWhile isShed = [c] ++ rest := by
    apply dropWhile_isShed
    rintro c ⟨⟩
    exact hShed
  unfold clean shed at hClean
  rw [hHead] at hClean
  exact hClean

------------------------------------------------------------
-- Query and fragment
------------------------------------------------------------

/- A mark is looked for behind a text without it. -/
theorem cutMark_append
    {mark : Char}
    {front : List Char}
    (hMark : mark ∉ front)
    (rest : List Char) :
    cutMark mark (front ++ rest) =
      ( front ++ (cutMark mark rest).1,
        (cutMark mark rest).2 ) := by
  have hFront := Text.bne_of_not_mem hMark
  unfold cutMark Text.cutAt
  rw [List.dropWhile_append_of_pos hFront,
    List.takeWhile_append_of_pos hFront]
  cases rest.dropWhile (· != mark) <;> rfl

theorem cutTail_append
    {front : List Char}
    (hHash : '#' ∉ front)
    (hMark : '?' ∉ front)
    (special : Bool)
    (rest : List Char) :
    cutTail special (front ++ rest) =
      { cutTail special rest with
        front := front ++ (cutTail special rest).front } := by
  unfold cutTail
  simp only [cutMark_append hHash, cutMark_append hMark]

/- Query and fragment are cut off where they are written. -/
theorem cutTail_writeMarked
    {path : List Char}
    {query fragment : Option (List Char)}
    (hHash : '#' ∉ path)
    (hMark : '?' ∉ path)
    (hQuery : ∀ text ∈ query, '#' ∉ text) :
    cutTail true
        (path ++ writeMarked '?' query
          ++ writeMarked '#' fragment) =
      { front := path
        query := query.map (encode inSpecialQuerySet)
        fragment := fragment.map (encode inFragmentSet) } := by
  have hFront : '#' ∉ path ++ writeMarked '?' query := by
    cases query with
    | none => simpa [writeMarked] using hHash
    | some text => simp [writeMarked, hHash, hQuery text rfl]
  have hFragment :
      cutMark '#' (writeMarked '#' fragment) =
        ([], fragment) := by
    cases fragment <;> rfl
  have hCut :
      cutMark '?' (writeMarked '?' query) = ([], query) := by
    cases query <;> rfl
  unfold cutTail
  simp only [cutMark_append hFront, cutMark_append hMark,
    hFragment, hCut, List.append_nil, if_true]

------------------------------------------------------------
-- Ports
------------------------------------------------------------

theorem readPort_append
    (front back : List Char)
    (port : Nat) :
    readPort (front ++ back) port =
      (readPort front port).bind (readPort back) := by
  induction front generalizing port with
  | nil => rfl
  | cons c front ih =>
      rw [List.cons_append, readPort, readPort]
      split
      · simp only
        split
        · exact ih _
        · rfl
      · rfl

/- A port is read back from its digits. -/
theorem readPort_decimalChars
    {port : Nat}
    (hMost : port ≤ 65535) :
    readPort (Text.decimalChars port) 0 = .ok port := by
  have hDigit :
      ∀ digit < 10,
        digit.digitChar.isDigit = true ∧
          Text.digitValue digit.digitChar = digit := by
    decide
  unfold Text.decimalChars
  induction port using Nat.strongRecOn with
  | ind port ih =>
      rcases Nat.lt_or_ge port 10 with hLess | hMore
      · have hLast := hDigit port hLess
        rw [Nat.toDigits_of_lt_base hLess, readPort,
          if_pos hLast.1]
        simp only [hLast.2, Nat.zero_mul, Nat.zero_add]
        rw [if_pos hMost, readPort]
      · have hLast := hDigit (port % 10) (by omega)
        have hFront := ih (port / 10) (by omega) (by omega)
        rw [Nat.toDigits_of_base_le (by decide) hMore,
          readPort_append, hFront]
        change readPort [(port % 10).digitChar] (port / 10) = _
        rw [readPort, if_pos hLast.1]
        simp only [hLast.2, Nat.div_add_mod']
        rw [if_pos hMost, readPort]

/- A port as a URL of the plain scheme shows it. -/
def shownPort (port : UInt16) : Option Nat :=
  if port.toNat = 80 then none else some port.toNat

/-
  The text behind a host, and the port that a URL of the
  plain scheme shows for it.
-/
inductive IsPort : List Char → Option Nat → Prop
| implied : IsPort [] none
| named (port : UInt16) :
    IsPort (':' :: Text.decimalChars port.toNat)
      (shownPort port)

/- The text of a port, if it is shown. -/
def portChars : Option Nat → List Char
| none => []
| some port => ':' :: Text.decimalChars port

/- A port that is shown is read as itself. -/
theorem isPort_portChars (port : UInt16) :
    IsPort (portChars (shownPort port)) (shownPort port) := by
  by_cases hImplied : port.toNat = 80
  · have hShown : shownPort port = none := if_pos hImplied
    rw [hShown]
    exact .implied
  · have hShown : shownPort port = some port.toNat :=
      if_neg hImplied
    have hNamed := IsPort.named port
    rw [hShown] at hNamed ⊢
    exact hNamed

/- The port that the text of it names. -/
theorem portOf_decimalChars (port : UInt16) :
    portOf (some 80)
        (some (Text.decimalChars port.toNat)) =
      .ok (shownPort port) := by
  have hLess : port.toNat < 65536 := port.toNat_lt
  unfold portOf
  split
  · contradiction
  · rename_i hNil
    exact
      absurd (Option.some.inj hNil)
        (Text.decimalChars_ne_nil _)
  · rename_i digits _ hSome
    rw [← Option.some.inj hSome,
      readPort_decimalChars (by omega)]
    simp only [Option.some.injEq, shownPort]
    split <;> rfl

------------------------------------------------------------
-- Authority
------------------------------------------------------------

/- The characters in front of the path of an address. -/
theorem mem_hostChars_of_isPort
    {text : List Char}
    {port : Option Nat}
    (hPort : IsPort text port) :
    ∀ c ∈ text, c ∈ Host.hostChars := by
  cases hPort with
  | implied => exact fun _ hMem => absurd hMem List.not_mem_nil
  | named port =>
      have hDigits :
          ∀ c ∈ Text.digits, c ∈ Host.hostChars :=
        Text.forall_mem (by decide)
      intro c hMem
      rcases List.mem_cons.mp hMem with rfl | hMem
      · decide
      · exact
          hDigits c
            (Text.mem_digits
              (Text.isDigit_decimalChars _ c hMem))

/- A text without an at-sign names no user. -/
theorem cutUser_of_not_mem
    {text : List Char}
    (hAt : '@' ∉ text) :
    cutUser text = none := by
  have hAll : ∀ c ∈ text.reverse, (c != '@') = true :=
    Text.bne_of_not_mem (mt List.mem_reverse.mp hAt)
  unfold cutUser
  simp only [Text.takeWhile_run hAll, List.reverse_reverse,
    if_true]

/- A colon outside brackets begins the port. -/
theorem cutPort_colon (rest : List Char) :
    cutPort false (':' :: rest) = ([], some rest) :=
  rfl

/- There are no backslashes in a port. -/
theorem ne_backslash_of_decimalChars (number : Nat) :
    ∀ c ∈ Text.decimalChars number, (c != '\\') = true := by
  intro c hMem
  rw [bne_iff_ne]
  rintro rfl
  exact
    absurd (Text.isDigit_decimalChars number _ hMem) (by decide)

/- A host and a port make up what stands before a path. -/
theorem readAuthority_eq
    {host : Host}
    {text portText : List Char}
    {port : Option Nat}
    (hHost : host.IsWritten text)
    (hNamed : host ≠ .domain [])
    (hPort : IsPort portText port)
    (isLast : Bool) :
    readAuthority "http".toList true (text ++ portText)
        isLast =
      .ok ⟨[], [], host, port, []⟩ := by
  have hAt : '@' ∉ text ++ portText := by
    rw [List.mem_append]
    rintro (hMem | hMem)
    · exact absurd (hHost.mem_hostChars _ hMem) (by decide)
    · exact
        absurd (mem_hostChars_of_isPort hPort _ hMem)
          (by decide)
  have hImplied : impliedPort? "http".toList = some 80 := by
    decide
  have hUser : readUser [] = ([], []) := by
    decide
  have hRead : readHost true text = .ok host := by
    unfold readHost
    rw [if_pos rfl, if_neg (by simpa using hHost.ne_nil),
      hHost.parse_eq]
  have hCheck (port : Option (List Char)) :
      checkHost host false port = .ok () := by
    unfold checkHost
    exact if_neg fun hEmpty => hNamed hEmpty.1
  unfold readAuthority
  simp only [cutUser_of_not_mem hAt, Option.getD_none,
    hHost.cutPort_append, hImplied, hUser, List.isEmpty_nil,
    Bool.not_true, Bool.or_self, Option.isSome_none,
    Bool.false_and, Bool.false_eq_true, if_false]
  cases hPort with
  | implied =>
      simp only [cutPort, List.append_nil, hRead, hCheck]
      rfl
  | named port =>
      have hDigits := ne_backslash_of_decimalChars port.toNat
      simp only [cutPort_colon, List.append_nil, hRead, hCheck,
        Option.map_some, Option.getD_some,
        Text.takeWhile_run hDigits, Text.dropWhile_run hDigits,
        portOf_decimalChars]

------------------------------------------------------------
-- URLs
------------------------------------------------------------

/- The URL at a host and a port, with what stands behind. -/
def atHost
    (host : Host)
    (port : Option Nat)
    (tail : Tail) :
    Url where
  scheme := "http".toList
  user := []
  password := []
  host := some host
  port := port
  path := pathAfter true tail.front
  query := tail.query
  fragment := tail.fragment

/- A text behind a slash has a front that begins with it. -/
theorem cutTail_slash
    (special : Bool)
    (rest : List Char) :
    cutTail special ('/' :: rest) =
      { cutTail special rest with
        front := '/' :: (cutTail special rest).front } := by
  have hHash : '#' ∉ ['/'] := by
    decide
  exact cutTail_append hHash (by decide) special rest

/-
  What stands behind an authority: nothing, or a path with its
  query and its fragment.
-/
inductive IsBehind : List Char → Prop
| nothing : IsBehind []
| path (rest : List Char) : IsBehind ('/' :: rest)

namespace IsBehind

variable {rest : List Char}

/- Nothing but a slash begins it, also once it is cleaned. -/
theorem front_head?
    (hRest : IsBehind rest)
    {c : Char}
    (hHead :
      (cutTail true (cleanEnd rest)).front.head? = some c) :
    c = '/' := by
  cases hRest with
  | nothing => cases hHead
  | path rest =>
      rw [cleanEnd_cons rfl, cutTail_slash] at hHead
      cases hHead
      rfl

end IsBehind

section Http

variable {host : Host}
variable {text portText : List Char}
variable {port : Option Nat}
variable (hHost : host.IsWritten text)
variable (hNamed : host ≠ .domain [])
variable (hPort : IsPort portText port)

include hHost hPort

theorem mem_hostChars_of_authority :
    ∀ c ∈ text ++ portText, c ∈ Host.hostChars := by
  intro c hMem
  rcases List.mem_append.mp hMem with hMem | hMem
  · exact hHost.mem_hostChars c hMem
  · exact mem_hostChars_of_isPort hPort c hMem

include hNamed

/- The authority of a URL ends where its path begins. -/
theorem parseWithAuthority_eq
    (tail : Tail)
    {path : List Char}
    (hPath : ∀ c, path.head? = some c → c = '/') :
    parseWithAuthority "http".toList true
        { tail with front := text ++ portText ++ path } =
      .ok (atHost host port { tail with front := path }) := by
  have hAll :
      ∀ c ∈ Host.hostChars, endsAuthority true c = false :=
    Text.forall_mem (by decide)
  have hAuthority :
      ∀ c ∈ text ++ portText,
        (!endsAuthority true c) = true := by
    intro c hMem
    rw [hAll c (mem_hostChars_of_authority hHost hPort c hMem)]
    rfl
  have hSlash :
      ∀ c, path.head? = some c →
        (!endsAuthority true c) = false := by
    intro c hHead
    rw [hPath c hHead]
    rfl
  unfold parseWithAuthority
  simp only [Text.takeWhile_append_stop hAuthority hSlash,
    Text.dropWhile_append_stop hAuthority hSlash,
    readAuthority_eq hHost hNamed hPort]
  rfl

/- What a text that names a host and a port is read as. -/
theorem parse_authority
    {rest : List Char}
    (hRest : IsBehind rest) :
    parse ("http://".toList ++ (text ++ portText ++ rest)) =
      .ok (atHost host port (cutTail true (cleanEnd rest))) := by
  have hAuthority := mem_hostChars_of_authority hHost hPort
  have hClean :
      clean ("http://".toList ++ (text ++ portText ++ rest)) =
        "http://".toList ++
          (text ++ portText ++ cleanEnd rest) := by
    have hScheme :
        ∀ c ∈ "http://".toList, isShed c = false :=
      Text.forall_mem (by decide)
    have hHostChars :
        ∀ c ∈ Host.hostChars, isShed c = false :=
      Text.forall_mem (by decide)
    have hFront :
        ∀ c ∈ "http://".toList ++ (text ++ portText),
          isShed c = false := by
      intro c hMem
      rcases List.mem_append.mp hMem with hMem | hMem
      · exact hScheme c hMem
      · exact hHostChars c (hAuthority c hMem)
    have hCut := clean_append (by simp) hFront rest
    simpa using hCut
  have hScheme (rest : List Char) :
      readScheme? ("http://".toList ++ rest) =
        some ("http".toList, '/' :: '/' :: rest) := by
    rfl
  have hKind : schemeKind "http".toList = .special := by
    decide
  have hSlashes :
      ('/' :: '/' ::
          (text ++ portText ++ cleanEnd rest)).dropWhile
            (isSlash true) =
        text ++ portText ++ cleanEnd rest := by
    have hNoSlash :
        ∀ c ∈ Host.hostChars, isSlash true c = false :=
      Text.forall_mem (by decide)
    have hSlash :
        ∀ c ∈ ['/', '/'], isSlash true c = true :=
      Text.forall_mem (by decide)
    apply Text.dropWhile_append_stop hSlash
    intro c hHead
    apply hNoSlash
    apply hHost.mem_hostChars
    cases hText : text with
    | nil => exact absurd hText hHost.ne_nil
    | cons first others =>
        rw [hText] at hHead
        cases hHead
        exact List.mem_cons_self
  have hHash : '#' ∉ text ++ portText :=
    fun hMem => absurd (hAuthority _ hMem) (by decide)
  have hMark : '?' ∉ text ++ portText :=
    fun hMem => absurd (hAuthority _ hMem) (by decide)
  unfold parse
  simp only [hClean, hScheme, hKind, hSlashes,
    cutTail_append hHash hMark]
  exact
    parseWithAuthority_eq hHost hNamed hPort _
      fun _ => hRest.front_head?

/- With a path behind the port. -/
theorem parse_http
    (rest : List Char) :
    parse
        ("http://".toList ++
          (text ++ portText ++ '/' :: rest)) =
      .ok
        (atHost host port
          (cutTail true ('/' :: cleanEnd rest))) := by
  rw [← cleanEnd_cons rfl]
  exact parse_authority hHost hNamed hPort (.path rest)

end Http

------------------------------------------------------------
-- Normal form
------------------------------------------------------------

/-
  What is shed is in every set with the control characters and
  the space.
-/
theorem isShed_of_not_inSet
    {marks : List Char}
    (hSpace : ' ' ∈ marks)
    {c : Char}
    (hNot : (isControlCode c || marks.contains c) = false) :
    isShed c = false := by
  simp only [isControlCode, Bool.or_eq_false_iff,
    decide_eq_false_iff_not] at hNot
  have hOther : c ≠ ' ' := by
    rintro rfl
    rw [List.contains_iff_mem.mpr hSpace] at hNot
    exact absurd hNot.2 nofun
  have hCode : c.toNat ≠ ' '.toNat :=
    fun hSame => hOther (Char.toNat_inj.mp hSame)
  have hSpaceCode : ' '.toNat = 0x20 := rfl
  apply decide_eq_false
  omega

/-
  A URL at an address and a port, with a path in normal form
  and nothing left to encode behind it.
-/
structure IsAt
    (url : Url)
    (address : Address)
    (port : UInt16) :
    Prop where
  scheme_eq : url.scheme = "http".toList
  user_eq : url.user = []
  password_eq : url.password = []
  host_eq : url.host = some (Host.ofAddress address)
  port_eq : url.port = shownPort port
  normalPath_eq :
    ∃ segments,
      url.path = '/' :: segments ∧
        normalPath true segments = url.path
  inPathSet_eq : ∀ c ∈ url.path, inPathSet c = false
  inQuerySet_eq :
    ∀ text ∈ url.query, ∀ c ∈ text,
      inSpecialQuerySet c = false
  inFragmentSet_eq :
    ∀ text ∈ url.fragment, ∀ c ∈ text,
      inFragmentSet c = false

/- What is read of a text that names an address is at it. -/
theorem isAt_atHost
    (address : Address)
    (port : UInt16)
    (rest : List Char) :
    (atHost (Host.ofAddress address) (shownPort port)
        (cutTail true ('/' :: rest))).IsAt address port := by
  have hQuerySet :
      ∀ c ∈ octetChars, inSpecialQuerySet c = false :=
    Text.forall_mem (by decide)
  have hFragmentSet :
      ∀ c ∈ octetChars, inFragmentSet c = false :=
    Text.forall_mem (by decide)
  rw [cutTail_slash]
  rcases exists_normalPath (cutTail true rest).front with
    ⟨kept, last, hPath, hKept, hLast⟩
  have hEncoded
      {inSet : Char → Bool}
      (hSet : ∀ c ∈ octetChars, inSet c = false)
      (part : Option (List Char)) :
      ∀ text ∈ part.map (encode inSet),
        ∀ c ∈ text, inSet c = false := by
    intro text hText
    rcases Option.map_eq_some_iff.mp hText with
      ⟨source, -, rfl⟩
    exact inSet_of_mem_encode hSet source
  exact
    { scheme_eq := rfl
      user_eq := rfl
      password_eq := rfl
      host_eq := rfl
      port_eq := rfl
      normalPath_eq :=
        ⟨ (writeSegments kept last).tail, hPath,
          (normalPath_writeSegments hKept hLast).trans
            hPath.symm ⟩
      inPathSet_eq := fun c hMem =>
        (mem_writeSegments hKept hLast c (hPath ▸ hMem)).1
      inQuerySet_eq := hEncoded hQuerySet _
      inFragmentSet_eq := hEncoded hFragmentSet _ }

namespace IsAt

variable {url : Url}
variable {address : Address}
variable {port : UInt16}
variable (hAt : url.IsAt address port)

include hAt

/- The text of a URL at an address, part by part. -/
theorem toChars_eq :
    url.toChars =
      "http://".toList ++
        ((Host.ofAddress address).toChars ++
          portChars (shownPort port) ++
          (url.path ++ writeMarked '?' url.query ++
            writeMarked '#' url.fragment)) := by
  simp only [toChars, hasAuthority, writeAuthority, writeUser,
    hAt.scheme_eq, hAt.user_eq, hAt.password_eq, hAt.host_eq,
    hAt.port_eq]
  cases shownPort port <;> simp [portChars]

/- Path, query and fragment are read as they are written. -/
theorem cutTail_eq :
    cutTail true
        (url.path ++ writeMarked '?' url.query ++
          writeMarked '#' url.fragment) =
      { front := url.path
        query := url.query
        fragment := url.fragment } := by
  have hHash : '#' ∉ url.path :=
    fun hMem => absurd (hAt.inPathSet_eq _ hMem) (by decide)
  have hMark : '?' ∉ url.path :=
    fun hMem => absurd (hAt.inPathSet_eq _ hMem) (by decide)
  have hQuery : ∀ text ∈ url.query, '#' ∉ text :=
    fun text hText hMem =>
      absurd (hAt.inQuerySet_eq text hText _ hMem) (by decide)
  have hEncode
      {inSet : Char → Bool}
      {part : Option (List Char)}
      (hPart :
        ∀ text ∈ part, ∀ c ∈ text, inSet c = false) :
      part.map (encode inSet) = part := by
    cases part with
    | none => rfl
    | some text =>
        exact
          congrArg some (encode_of_not_inSet (hPart text rfl))
  rw [cutTail_writeMarked hHash hMark hQuery,
    hEncode hAt.inQuerySet_eq, hEncode hAt.inFragmentSet_eq]

/- No character behind the address is shed. -/
theorem isShed_eq :
    ∀ c ∈
        url.path ++ writeMarked '?' url.query ++
          writeMarked '#' url.fragment,
      isShed c = false := by
  have hMarked
      {mark : Char}
      {part : Option (List Char)}
      (hMark : isShed mark = false)
      (hPart :
        ∀ text ∈ part, ∀ c ∈ text, isShed c = false) :
      ∀ c ∈ writeMarked mark part, isShed c = false := by
    cases part with
    | none => exact fun _ hMem => absurd hMem List.not_mem_nil
    | some text =>
        intro c hMem
        rcases List.mem_cons.mp hMem with rfl | hMem
        · exact hMark
        · exact hPart text rfl c hMem
  have hQuery :=
    @hMarked '?' _ rfl fun text hText c hMem =>
      isShed_of_not_inSet List.mem_cons_self
        (Bool.or_eq_false_iff.mp
          (hAt.inQuerySet_eq text hText c hMem)).1
  have hFragment :=
    @hMarked '#' _ rfl fun text hText c hMem =>
      isShed_of_not_inSet List.mem_cons_self
        (hAt.inFragmentSet_eq text hText c hMem)
  intro c hMem
  rcases List.mem_append.mp hMem with hMem | hMem
  · rcases List.mem_append.mp hMem with hMem | hMem
    · exact
        isShed_of_not_inSet List.mem_cons_self
          (Bool.or_eq_false_iff.mp (hAt.inPathSet_eq c hMem)).1
    · exact hQuery c hMem
  · exact hFragment c hMem

/- The parts of a URL at an address make up the URL. -/
theorem atHost_eq :
    atHost (Host.ofAddress address) (shownPort port)
        { front := url.path
          query := url.query
          fragment := url.fragment } =
      url := by
  rcases hAt.normalPath_eq with ⟨segments, hPath, hNormal⟩
  have hAfter : pathAfter true url.path = url.path := by
    have hSlash :
        pathAfter true ('/' :: segments) =
          normalPath true segments :=
      rfl
    rw [← hPath] at hSlash
    exact hSlash.trans hNormal
  cases url
  simp only [atHost, mk.injEq]
  exact
    ⟨ hAt.scheme_eq.symm, hAt.user_eq.symm,
      hAt.password_eq.symm, hAt.host_eq.symm,
      hAt.port_eq.symm, hAfter, trivial, trivial ⟩

/- A URL at an address is read back from its text. -/
theorem parse_toChars :
    parse url.toChars = .ok url := by
  rcases hAt.normalPath_eq with ⟨segments, hPath, -⟩
  have hCut := hAt.cutTail_eq
  have hShed := hAt.isShed_eq
  have hUrl := hAt.atHost_eq
  rw [hAt.toChars_eq]
  rw [hPath] at hCut hShed hUrl ⊢
  simp only [List.cons_append] at hCut hShed ⊢
  rw [parse_http (Host.isWritten_toChars address)
    (Host.ofAddress_ne_empty address) (isPort_portChars port),
    cleanEnd_of_not_isShed fun c hMem =>
      hShed c (List.mem_cons_of_mem _ hMem),
    hCut, hUrl]

end IsAt

------------------------------------------------------------
-- Destinations
------------------------------------------------------------

/-
  What a client makes of a URL: it goes to an address and a
  port over the plain scheme, on behalf of no user.
-/
structure LeadsTo
    (url : Url)
    (address : Address)
    (port : UInt16) :
    Prop where
  scheme_eq : url.scheme = "http".toList
  user_eq : url.user = []
  password_eq : url.password = []
  host_eq : url.host = some (Host.ofAddress address)
  effectivePort?_eq : url.effectivePort? = some port.toNat

/- A port that is not shown is the one the scheme implies. -/
theorem effectivePort?_of_shownPort
    {url : Url}
    {port : UInt16}
    (hScheme : url.scheme = "http".toList)
    (hPort : url.port = shownPort port) :
    url.effectivePort? = some port.toNat := by
  have hImplied : impliedPort? "http".toList = some 80 := by
    decide
  unfold effectivePort?
  rw [hPort, hScheme, hImplied]
  by_cases hPlain : port.toNat = 80
  · simp [shownPort, hPlain]
  · simp [shownPort, hPlain]

theorem leadsTo_atHost
    (address : Address)
    (port : UInt16)
    (tail : Tail) :
    (atHost (Host.ofAddress address) (shownPort port)
        tail).LeadsTo address port where
  scheme_eq := rfl
  user_eq := rfl
  password_eq := rfl
  host_eq := rfl
  effectivePort?_eq := effectivePort?_of_shownPort rfl rfl

/- A URL at an address leads there. -/
theorem IsAt.leadsTo
    {url : Url}
    {address : Address}
    {port : UInt16}
    (hAt : url.IsAt address port) :
    url.LeadsTo address port where
  scheme_eq := hAt.scheme_eq
  user_eq := hAt.user_eq
  password_eq := hAt.password_eq
  host_eq := hAt.host_eq
  effectivePort?_eq :=
    effectivePort?_of_shownPort hAt.scheme_eq hAt.port_eq

end Url

------------------------------------------------------------
-- Callback URLs
------------------------------------------------------------

/-
  Whatever stands behind the slash of a path, the callback URL
  is one at the address and the port.
-/
theorem exists_callbackUrl
    (address : Address)
    (port : UInt16)
    {path : String}
    {rest : List Char}
    (hPath : path.toList = '/' :: rest) :
    ∃ url : Url,
      callbackUrl address port path = .ok url.toText ∧
        url.IsAt address port ∧
          url.path =
            Url.normalPath true
              (Url.cutTail true (Url.cleanEnd rest)).front := by
  rcases Url.Host.exists_withPort address port with
    ⟨text, hText, hWithPort⟩
  have hRaw :
      rawCallbackUrl address port path =
        "http://".toList ++
          (text ++ ':' :: Text.decimalChars port.toNat ++
            '/' :: rest) := by
    unfold rawCallbackUrl
    rw [hWithPort, hPath, List.append_assoc]
  have hParse :=
    Url.parse_http hText (Url.Host.ofAddress_ne_empty address)
      (.named port) rest
  have hAt :=
    Url.isAt_atHost address port (Url.cleanEnd rest)
  refine ⟨_, ?_, hAt, ?_⟩
  · unfold callbackUrl
    simp only [hRaw, hParse]
  · rw [Url.cutTail_slash]
    rfl

/- The path of a configuration begins with a slash. -/
theorem Config.exists_callbackPath (config : Config) :
    ∃ rest, config.callbackPath.toList = '/' :: rest := by
  unfold callbackPath
  cases config.givenPath with
  | none =>
      exact
        ⟨"neeo/".toList ++ config.brainId.toList, by simp⟩
  | some path =>
      dsimp only
      split
      · rename_i rest hSlash
        exact ⟨rest, hSlash⟩
      · exact ⟨path.toList, by simp⟩

end BrainLink
