import BrainLink.Callback.Server
import BrainLink.Proofs.CallbackUrls
import BrainLink.Proofs.Course

/-
  Which brains reach the server under the callback URL that
  they are registered with.

  Key definitions include:
    * `Url.targetWith`
    * `Callback.IsTail`
    * `Callback.writtenPath`
    * `Callback.Forwards`

  Main statements:
    * `Callback.ofPath?_of_isSettled`
    * `Callback.isSettled_of_ofPath?`
    * `Callback.forwards_iff`
    * `callbacks_served_iff_settled`

  The name of a brain goes into the URL as a text that is
  brought to normal form, and comes out of a request as the
  segment that is written there. The two are the same exactly
  if the name is a settled segment: the normal form then keeps
  it, and it keeps nothing else as a segment of its own.
-/

namespace BrainLink

/-
  What a request for a URL asks for if a tail is put behind
  its path: the path and the query, but not the fragment.
-/
def Url.targetWith (url : Url) (tail : List Char) : String :=
  String.ofList
    (url.path ++ tail ++ Url.writeMarked '?' url.query)

namespace Callback

------------------------------------------------------------
-- Segments
------------------------------------------------------------

theorem segment_append
    {first : List Char}
    (hSlash : '/' ∉ first)
    (rest : List Char) :
    segment (first ++ '/' :: rest) = (first, rest) := by
  unfold segment
  rw [Text.takeWhile_mark hSlash, Text.dropWhile_mark hSlash]
  rfl

/- A brain is found under its name. -/
theorem ofPath?_of_name
    {brainId : List Char}
    (hNil : brainId ≠ [])
    (hSlash : '/' ∉ brainId)
    (rest : List Char) :
    Target.ofPath?
        ("/neeo/".toList ++ (brainId ++ '/' :: rest)) =
      some
        ⟨ String.ofList brainId,
          String.ofList ('/' :: rest) ⟩ := by
  have hRoot :
      segment (root.toList ++ '/' :: (brainId ++ '/' :: rest)) =
        (root.toList, brainId ++ '/' :: rest) :=
    segment_append (by decide) _
  change
    Target.ofPath?
        ('/' ::
          (root.toList ++ '/' :: (brainId ++ '/' :: rest))) =
      _
  simp only [Target.ofPath?, hRoot, segment_append hSlash]
  exact if_pos ⟨trivial, hNil⟩

/- No brain is found under an empty name. -/
theorem ofPath?_of_no_name (rest : List Char) :
    Target.ofPath? ("/neeo/".toList ++ '/' :: rest) = none := by
  rfl

/- Nothing is found where the first segment is empty. -/
theorem ofPath?_of_no_root (rest : List Char) :
    Target.ofPath? ('/' :: '/' :: rest) = none := by
  rfl

/- The first segment of a path is a part of it. -/
theorem mem_of_mem_segment
    {path : List Char}
    {c : Char}
    (hMem : c ∈ (segment path).1) :
    c ∈ path ∧ c ≠ '/' := by
  refine ⟨(List.takeWhile_prefix _).mem hMem, ?_⟩
  have hAll := List.all_eq_true.mp List.all_takeWhile c hMem
  simpa using hAll

/- The name that is found is a part of the path. -/
theorem mem_of_ofPath?
    {path : List Char}
    {found : Target}
    (hFound : Target.ofPath? path = some found) :
    ∀ c ∈ found.brainId.toList, c ∈ path ∧ c ≠ '/' := by
  cases path with
  | nil => cases hFound
  | cons first rest =>
      unfold Target.ofPath? at hFound
      split at hFound
      · rename_i path hPath
        simp only at hFound
        split at hFound
        · cases hFound
          intro c hMem
          rw [String.toList_ofList] at hMem
          have hName := mem_of_mem_segment hMem
          have hRest : (segment path).2 <:+ path :=
            (List.drop_suffix 1 _).trans
              (List.dropWhile_suffix _)
          rw [hPath]
          exact
            ⟨ List.mem_cons_of_mem _ (hRest.mem hName.1),
              hName.2 ⟩
        · cases hFound
      · cases hFound

------------------------------------------------------------
-- Paths of callback URLs
------------------------------------------------------------

/- The path of the callback URL of a brain. -/
def writtenPath (brainId : List Char) : List Char :=
  Url.normalPath true
    (Url.cutTail true
      (Url.cleanEnd ("neeo/".toList ++ brainId))).front

/- The characters of the path are kept in it. -/
theorem mem_writtenPath
    {brainId : List Char}
    {c : Char}
    (hMem : c ∈ writtenPath brainId) :
    Url.inPathSet c = false ∧ c ≠ '\\' := by
  unfold writtenPath at hMem
  rcases Url.exists_normalPath
      (Url.cutTail true
        (Url.cleanEnd ("neeo/".toList ++ brainId))).front with
    ⟨kept, last, hPath, hKept, hLast⟩
  rw [hPath] at hMem
  exact Url.mem_writeSegments hKept hLast c hMem

/- Nothing is cleaned or cut off a name that is kept. -/
theorem writtenPath_of_isSettledChar
    {brainId : List Char}
    (hChars : ∀ c ∈ brainId, Url.isSettledChar c = true) :
    writtenPath brainId =
      Url.normalPath true ("neeo/".toList ++ brainId) := by
  have hRoot :
      ∀ c ∈ "neeo/".toList, Url.inPathSet c = false :=
    Text.forall_mem (by decide)
  have hAll :
      ∀ c ∈ "neeo/".toList ++ brainId,
        Url.inPathSet c = false := by
    intro c hMem
    rcases List.mem_append.mp hMem with hMem | hMem
    · exact hRoot c hMem
    · exact (Url.isSettledChar_iff.mp (hChars c hMem)).1
  have hShed :
      ∀ c ∈ "neeo/".toList ++ brainId, Url.isShed c = false :=
    fun c hMem =>
      Url.isShed_of_not_inSet List.mem_cons_self
        (Bool.or_eq_false_iff.mp (hAll c hMem)).1
  have hHash : '#' ∉ "neeo/".toList ++ brainId :=
    fun hMem => absurd (hAll _ hMem) (by decide)
  have hMark : '?' ∉ "neeo/".toList ++ brainId :=
    fun hMem => absurd (hAll _ hMem) (by decide)
  have hCut := Url.cutTail_append hHash hMark true []
  have hNothing : (Url.cutTail true []).front = [] := rfl
  rw [List.append_nil, hNothing, List.append_nil] at hCut
  unfold writtenPath
  rw [Url.cleanEnd_of_not_isShed hShed, hCut]

/- A name that is a settled segment is kept in the path. -/
theorem writtenPath_of_isSettled
    {brainId : List Char}
    (hSettled : Url.isSettled brainId = true) :
    writtenPath brainId = "/neeo/".toList ++ brainId := by
  have hRoot :
      ∀ segment ∈ [root.toList],
        Url.isSettled segment = true :=
    Text.forall_mem (by decide)
  have hPath :=
    Url.normalPath_writeSegments hRoot hSettled
  rw [writtenPath_of_isSettledChar
    (Url.isSettledChar_of_mem hSettled)]
  exact hPath

/- A name of dots is followed, not kept. -/
theorem writtenPath_of_dots
    {brainId : List Char}
    (hChars : ∀ c ∈ brainId, Url.isSettledChar c = true)
    (hSettled : Url.isSettled brainId = false) :
    writtenPath brainId = "/neeo/".toList ∨
      writtenPath brainId = ['/'] := by
  have hSlash : '/' ∉ brainId :=
    fun hMem => absurd (hChars _ hMem) (by decide)
  have hBackslash : '\\' ∉ "neeo/".toList ++ brainId := by
    intro hMem
    rcases List.mem_append.mp hMem with hMem | hMem
    · exact absurd hMem (by decide)
    · exact absurd (hChars _ hMem) (by decide)
  have hSplit :
      Url.splitSegments true ("neeo/".toList ++ brainId) =
        [root.toList, brainId] := by
    have hRoot : '/' ∉ root.toList := by
      decide
    have hFields := Text.fields_append hRoot brainId
    rw [Text.fields_of_not_mem hSlash] at hFields
    rw [Url.splitSegments_of_not_mem hBackslash]
    exact hFields
  have hWalk :
      Url.walk [] [root.toList, brainId] =
        Url.walk [root.toList] [brainId] := by
    rfl
  rw [writtenPath_of_isSettledChar hChars, Url.normalPath,
    hSplit, hWalk, Url.walk]
  split
  · exact .inr rfl
  · rename_i hDots
    split
    · exact .inl rfl
    · rename_i hDot
      have hAll : brainId.all Url.isSettledChar = true :=
        List.all_eq_true.mpr hChars
      rw [Url.isSettled, hAll, Bool.eq_false_iff.mpr hDot,
        Bool.eq_false_iff.mpr hDots] at hSettled
      cases hSettled

------------------------------------------------------------
-- Requests
------------------------------------------------------------

/-
  A tail that is put behind a path: ASCII letters, digits and
  slashes, of which the first is a slash.
-/
def IsTail : List Char → Prop
| '/' :: rest => ∀ c ∈ rest, c.isAlphanum = true ∨ c = '/'
| _ => False

/- ASCII letters and digits are kept in a path. -/
theorem inPathSet_of_isAlphanum
    {c : Char}
    (hAlnum : c.isAlphanum = true) :
    Url.inPathSet c = false ∧ c ≠ '\\' := by
  have hEither :=
    Text.of_ascii
      (fun c =>
        !c.isAlphanum || !Url.inPathSet c && c != '\\')
      (by decide) (Text.toNat_lt_of_isAlphanum hAlnum)
  simpa [hAlnum] using hEither

/- The characters of a tail are kept in a path. -/
theorem IsTail.mem
    {tail : List Char}
    (hTail : IsTail tail) :
    ∀ c ∈ tail, Url.inPathSet c = false ∧ c ≠ '\\' := by
  have hSlash : Url.inPathSet '/' = false ∧ '/' ≠ '\\' := by
    decide
  unfold IsTail at hTail
  split at hTail
  · intro c hMem
    rcases List.mem_cons.mp hMem with rfl | hMem
    · exact hSlash
    · rcases hTail c hMem with hAlnum | rfl
      · exact inPathSet_of_isAlphanum hAlnum
      · exact hSlash
  · cases hTail

/- A tail begins with a slash. -/
theorem IsTail.exists_eq
    {tail : List Char}
    (hTail : IsTail tail) :
    ∃ rest, tail = '/' :: rest := by
  unfold IsTail at hTail
  split at hTail
  · exact ⟨_, rfl⟩
  · cases hTail

/- A settled name is found under its callback URL. -/
theorem ofPath?_of_isSettled
    {brainId tail : List Char}
    (hNil : brainId ≠ [])
    (hTail : IsTail tail)
    (hSettled : Url.isSettled brainId = true) :
    Target.ofPath? (writtenPath brainId ++ tail) =
      some ⟨String.ofList brainId, String.ofList tail⟩ := by
  rcases hTail.exists_eq with ⟨rest, rfl⟩
  rw [writtenPath_of_isSettled hSettled, List.append_assoc]
  exact
    ofPath?_of_name hNil
      (Url.slash_not_mem_of_isSettled hSettled) rest

/- No other name is. -/
theorem isSettled_of_ofPath?
    {brainId tail : List Char}
    {found : Target}
    (hTail : IsTail tail)
    (hFound :
      Target.ofPath? (writtenPath brainId ++ tail) =
        some found)
    (hName : found.brainId = String.ofList brainId) :
    Url.isSettled brainId = true := by
  have hChars :
      ∀ c ∈ brainId, Url.isSettledChar c = true := by
    intro c hMem
    have hIs : found.brainId.toList = brainId := by
      rw [hName, String.toList_ofList]
    rw [← hIs] at hMem
    have hIn := mem_of_ofPath? hFound c hMem
    have hKept : Url.inPathSet c = false ∧ c ≠ '\\' := by
      rcases List.mem_append.mp hIn.1 with hPath | hBehind
      · exact mem_writtenPath hPath
      · exact hTail.mem c hBehind
    exact Url.isSettledChar_iff.mpr ⟨hKept.1, hIn.2, hKept.2⟩
  cases hSettled : Url.isSettled brainId with
  | true => rfl
  | false =>
      rcases hTail.exists_eq with ⟨rest, rfl⟩
      rcases writtenPath_of_dots hChars hSettled with
        hPath | hPath
      · rw [hPath] at hFound
        cases (ofPath?_of_no_name rest).symm.trans hFound
      · rw [hPath] at hFound
        cases (ofPath?_of_no_root rest).symm.trans hFound

/-
  A request is answered with success, and handed to the
  receiver as a call of the brain.
-/
def Forwards
    (router : Router)
    (method target body : String)
    (brainId : String) :
    Prop :=
  ∃ call : Call,
    call.brainId = brainId ∧
      respond router method target body =
        ( { router with queue := router.queue ++ [call] },
          accepted )

section Answers

variable {router : Router}
variable {method target body : String}
variable {found : Target}

/- A path that is not served changes nothing. -/
theorem respond_of_not_found
    (hNone : Target.ofPath? (pathOf target.toList) = none) :
    respond router method target body = (router, notFound) := by
  unfold respond
  rw [hNone]

/- Neither does one of a brain that is not registered. -/
theorem respond_of_not_isRegistered
    (hFound :
      Target.ofPath? (pathOf target.toList) = some found)
    (hNot : router.isRegistered found.brainId = false) :
    respond router method target body =
      (router, notRegistered) := by
  have hRoute :
      router.route ⟨found.brainId, method, found.path, body⟩ =
        (router, false) := by
    unfold Router.route
    rw [hNot]
    rfl
  unfold respond
  simp only [hFound, hRoute]

/- A call of a registered brain is accepted and passed on. -/
theorem respond_of_isRegistered
    (hFound :
      Target.ofPath? (pathOf target.toList) = some found)
    (hRegistered : router.isRegistered found.brainId = true) :
    respond router method target body =
      ( if router.isOpen then
          { router with
            queue :=
              router.queue ++
                [⟨found.brainId, method, found.path, body⟩] }
        else
          router,
        accepted ) := by
  have hRoute (call : Call)
      (hCall : call.brainId = found.brainId) :
      router.route call =
        ( if router.isOpen then
            { router with queue := router.queue ++ [call] }
          else
            router,
          true ) := by
    unfold Router.route
    rw [hCall, if_pos hRegistered]
    split <;> rfl
  unfold respond
  simp only [hFound]
  rw [hRoute _ rfl]

/-
  A request is forwarded as a call of a brain exactly if its
  path names the brain, the brain is registered, and there is
  a receiver.
-/
theorem forwards_iff
    {brainId : String} :
    Forwards router method target body brainId ↔
      router.isOpen = true ∧
        router.isRegistered brainId = true ∧
          ∃ found,
            Target.ofPath? (pathOf target.toList) =
                some found ∧
              found.brainId = brainId := by
  constructor
  · rintro ⟨call, hName, hRespond⟩
    cases hFound : Target.ofPath? (pathOf target.toList) with
    | none =>
        rw [respond_of_not_found hFound] at hRespond
        have hAnswer : notFound = accepted :=
          congrArg Prod.snd hRespond
        exact absurd hAnswer (by decide)
    | some found =>
        cases hRegistered :
            router.isRegistered found.brainId with
        | false =>
            rw [respond_of_not_isRegistered hFound hRegistered]
              at hRespond
            have hAnswer : notRegistered = accepted :=
              congrArg Prod.snd hRespond
            exact absurd hAnswer (by decide)
        | true =>
            rw [respond_of_isRegistered hFound hRegistered]
              at hRespond
            have hQueue := congrArg (·.1.queue) hRespond
            cases hOpen : router.isOpen with
            | false => simp [hOpen] at hQueue
            | true =>
                simp only [hOpen, if_true,
                  List.append_cancel_left_eq, List.cons.injEq,
                  and_true] at hQueue
                have hFoundName : found.brainId = brainId := by
                  rw [← hName, ← hQueue]
                rw [hFoundName] at hRegistered
                exact
                  ⟨rfl, hRegistered, found, rfl, hFoundName⟩
  · rintro ⟨hOpen, hRegistered, found, hFound, rfl⟩
    refine
      ⟨⟨found.brainId, method, found.path, body⟩, rfl, ?_⟩
    rw [respond_of_isRegistered hFound hRegistered, hOpen]
    rfl

end Answers

/- The path of the request, with the tail behind it. -/
theorem pathOf_targetWith
    {url : Url}
    {tail : List Char}
    (hUrl : ∀ c ∈ url.path, Url.inPathSet c = false)
    (hTail : IsTail tail) :
    pathOf (url.targetWith tail).toList = url.path ++ tail := by
  have hAll : ∀ c ∈ url.path ++ tail, (c != '?') = true := by
    intro c hMem
    rw [bne_iff_ne]
    rintro rfl
    rcases List.mem_append.mp hMem with hMem | hMem
    · exact absurd (hUrl _ hMem) (by decide)
    · exact absurd (hTail.mem _ hMem).1 (by decide)
  have hStop :
      ∀ c, (Url.writeMarked '?' url.query).head? = some c →
        (c != '?') = false := by
    cases url.query with
    | none => exact fun _ hHead => nomatch hHead
    | some query =>
        rintro c ⟨⟩
        rfl
  unfold pathOf Url.targetWith
  rw [String.toList_ofList,
    Text.takeWhile_append_stop hAll hStop]

end Callback

------------------------------------------------------------
-- Configurations
------------------------------------------------------------

/- A valid configuration names its brain. -/
theorem Config.brainId_ne_nil
    {config : Config}
    (hValid : config.validate = .ok ()) :
    config.brainId.toList ≠ [] := by
  intro hNil
  have hBlank : Text.isBlankText config.brainId = true := by
    unfold Text.isBlankText
    rw [hNil]
    rfl
  unfold validate faults at hValid
  rw [hBlank] at hValid
  cases hValid

/-
  There is a URL that a valid configuration is registered
  with, and its text is read as it again. A request for it,
  with a tail behind its path, is forwarded as a call of the
  brain exactly if the name of the brain is a settled segment
  and there is a receiver. Without one, it is accepted all the
  same if the name is settled.
-/
theorem callbacks_served_iff_settled
    {config : Config}
    {tail : List Char}
    {router : Callback.Router}
    (hValid : config.validate = .ok ())
    (hPath : config.givenPath = none)
    (hTail : Callback.IsTail tail)
    (hRegistered :
      router.isRegistered config.brainId = true)
    (address : Address)
    (method body : String) :
    ∃ url : Url,
      config.callbackUrl address = .ok url.toText ∧
        Url.parse url.toText.toList = .ok url ∧
          (Callback.Forwards router method
              (url.targetWith tail) body config.brainId ↔
            router.isOpen = true ∧
              Url.isSettled config.brainId.toList = true) ∧
            (Url.isSettled config.brainId.toList = true →
              (Callback.respond router method
                  (url.targetWith tail) body).2 =
                Callback.accepted) := by
  have hNil := Config.brainId_ne_nil hValid
  have hWritten :
      config.callbackPath.toList =
        '/' :: ("neeo/".toList ++ config.brainId.toList) := by
    unfold Config.callbackPath
    rw [hPath]
    simp
  rcases exists_callbackUrl address config.callbackPort
      hWritten with
    ⟨url, hUrl, hAt, hUrlPath⟩
  have hTarget :
      Callback.pathOf (url.targetWith tail).toList =
        Callback.writtenPath config.brainId.toList ++ tail := by
    rw [Callback.pathOf_targetWith hAt.inPathSet_eq hTail,
      hUrlPath]
    rfl
  have hRead : Url.parse url.toText.toList = .ok url := by
    unfold Url.toText
    rw [String.toList_ofList]
    exact hAt.parse_toChars
  have hFound
      (hSettled :
        Url.isSettled config.brainId.toList = true) :=
    Callback.ofPath?_of_isSettled hNil hTail hSettled
  rw [String.ofList_toList, ← hTarget] at hFound
  refine ⟨url, hUrl, hRead, ?_, ?_⟩
  · rw [Callback.forwards_iff]
    constructor
    · rintro ⟨hOpen, -, found, hIs, hName⟩
      rw [hTarget] at hIs
      refine ⟨hOpen, ?_⟩
      apply Callback.isSettled_of_ofPath? hTail hIs
      rw [hName, String.ofList_toList]
    · rintro ⟨hOpen, hSettled⟩
      exact ⟨hOpen, hRegistered, _, hFound hSettled, rfl⟩
  · intro hSettled
    rw [Callback.respond_of_isRegistered (hFound hSettled)
      hRegistered]

/- The sample configuration is served under its URL. -/
theorem callbacks_served_of_sample :
    ∃ url : Url,
      Sample.config.callbackUrl (.four ⟨192, 168, 1, 5⟩) =
          .ok url.toText ∧
        Url.parse url.toText.toList = .ok url ∧
          Callback.Forwards
            (Callback.Router.empty.register "brain-1") "POST"
            (url.targetWith "/device/6242/action".toList) "[]"
            "brain-1" := by
  have hTail :
      Callback.IsTail "/device/6242/action".toList := by
    change ∀ c ∈ "device/6242/action".toList, _
    exact Text.forall_mem (by decide)
  have hRegistered :
      (Callback.Router.empty.register "brain-1").isRegistered
          Sample.config.brainId =
        true := by
    decide
  rcases callbacks_served_iff_settled rfl rfl hTail
      hRegistered (.four ⟨192, 168, 1, 5⟩) "POST" "[]" with
    ⟨url, hUrl, hRead, hForwards, -⟩
  exact
    ⟨url, hUrl, hRead, hForwards.mpr ⟨rfl, by decide⟩⟩

/- A brain whose name holds a space. -/
def Sample.spacious : Config :=
  { Sample.config with brainId := "living room" }

/- The URL that it calls back. -/
def Sample.spaciousUrl : String :=
  "http://192.168.1.5:8400/neeo/living%20room"

/-
  In the URL, the space in the name is written as an octet.
  The server looks for the brain by the octet, and finds none.
-/
theorem unserved_of_space :
    ¬ ∀ (config : Config) (tail : List Char)
        (router : Callback.Router) (address : Address)
        (method body : String),
      config.validate = .ok () →
        config.givenPath = none →
          Callback.IsTail tail →
            router.isOpen = true →
              router.isRegistered config.brainId = true →
                ∃ url : Url,
                  config.callbackUrl address = .ok url.toText ∧
                    Url.parse url.toText.toList = .ok url ∧
                      Callback.Forwards router method
                        (url.targetWith tail) body
                        config.brainId := by
  intro hAlways
  have hTail : Callback.IsTail "/x".toList := by
    change ∀ c ∈ "x".toList, _
    exact Text.forall_mem (by decide)
  rcases hAlways Sample.spacious "/x".toList
      (Callback.Router.empty.register "living room")
      (.four ⟨192, 168, 1, 5⟩) "POST" "" rfl rfl hTail rfl
      (by decide) with
    ⟨url, hUrl, hRead, call, -, hForwards⟩
  have hText :
      (Sample.spacious.callbackUrl
            (.four ⟨192, 168, 1, 5⟩)).toOption =
        some Sample.spaciousUrl := by
    decide +kernel
  have hAnswer :
      (Url.parse Sample.spaciousUrl.toList).toOption.map
          (fun url =>
            (Callback.respond
              (Callback.Router.empty.register "living room")
              "POST" (url.targetWith "/x".toList) "").2) =
        some Callback.notRegistered := by
    decide +kernel
  rw [hUrl] at hText
  rw [← Option.some.inj hText, hRead] at hAnswer
  have hRefused := Option.some.inj hAnswer
  simp only [hForwards] at hRefused
  exact absurd hRefused (by decide)

end BrainLink
