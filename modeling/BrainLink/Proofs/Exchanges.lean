import BrainLink.Proofs.Octets
import BrainLink.Proofs.Served
import Mathlib.Data.List.Forall2

/-
  What clients are answered, and what the receiver gets, while
  brains are registered and taken off again.

  Key definitions include:
    * `Callback.Step`
    * `Callback.Service`
    * `Callback.Registered`
    * `Callback.Names`
    * `Callback.Visit.Carries`

  Main statements:
    * `Callback.ofPath?_eq_some_iff`
    * `Callback.isRegistered_through`
    * `Callback.carried_through`
    * `Callback.serves_registered_brains`

  A path names a brain if the first two slashes of it enclose
  the root and the name stands behind the second. The call
  that is passed on tells the whole path again, with a slash
  behind a name that had none.
-/

namespace BrainLink.Callback

------------------------------------------------------------
-- Services
------------------------------------------------------------

/- What happens at a server. -/
inductive Step where
| register (brainId : String)
| unregister (brainId : String)
| request (visit : Visit)
| receive
| dropReceiver
deriving DecidableEq

/-
  A server with the requests it has answered and the calls
  that its receiver has taken, oldest first.
-/
structure Service where
  router : Router
  exchanges : List (Visit × Http.Response)
  received : List Call

namespace Service

/- A new server, which nobody has called yet. -/
def new : Service :=
  ⟨.empty, [], []⟩

/- What becomes of a server by one step. -/
def after (service : Service) (step : Step) : Service :=
  match step with
  | .register brainId =>
      { service with router := service.router.register brainId }
  | .unregister brainId =>
      { service with
        router := service.router.unregister brainId }
  | .request visit =>
      let (router, response) := serve service.router visit
      { service with
        router := router
        exchanges := service.exchanges ++ [(visit, response)] }
  | .receive =>
      let (router, calls) := service.router.receive
      { service with
        router := router
        received := service.received ++ calls }
  | .dropReceiver =>
      { service with router := service.router.dropReceiver }

/- What has become of a new server, the latest step first. -/
def through : List Step → Service
| [] => new
| step :: past => (through past).after step

end Service

/- The requests that were answered with success, in order. -/
def successes
    (exchanges : List (Visit × Http.Response)) :
    List Visit :=
  (exchanges.filter fun exchange =>
      exchange.2.status == 200).map
    Prod.fst

/- A brain was registered, and not taken off since. -/
def Registered (past : List Step) (brainId : String) : Prop :=
  ∃ since before,
    past = since ++ .register brainId :: before ∧
      .unregister brainId ∉ since

------------------------------------------------------------
-- Calls
------------------------------------------------------------

/-
  A path names a brain, and the tail behind the name: the two
  make up the path behind the root, but for the slash that a
  path lacks that ends with the name.
-/
structure Names (path brainId tail : List Char) : Prop where
  name : brainId ≠ []
  segment : '/' ∉ brainId
  slash : tail.head? = some '/'
  whole :
    "/neeo/".toList ++ brainId ++ tail = path ∨
      tail = ['/'] ∧
        "/neeo/".toList ++ brainId ++ tail = path ++ ['/']

/- A call tells all that there is in a request. -/
structure Visit.Carries (visit : Visit) (call : Call) : Prop where
  path :
    Names (pathOf visit.target.toList) call.brainId.toList
      call.path.toList
  method : call.method = visit.method
  body : call.body = Text.ofOctets visit.body

/- A path without a slash is one segment. -/
theorem segment_of_not_mem
    {path : List Char}
    (hSlash : '/' ∉ path) :
    segment path = (path, []) := by
  have hAll := Text.bne_of_not_mem hSlash
  unfold segment
  rw [Text.takeWhile_run hAll, Text.dropWhile_run hAll]
  rfl

/- A path is a segment with what stands behind it. -/
theorem segment_cases (path : List Char) :
    '/' ∉ (segment path).1 ∧
      ((segment path).1 ++ '/' :: (segment path).2 = path ∨
        (segment path).1 = path ∧ (segment path).2 = []) := by
  by_cases hSlash : '/' ∈ path
  · rcases List.eq_append_cons_of_mem hSlash with
      ⟨first, rest, rfl, hFirst⟩
    rw [segment_append hFirst rest]
    exact ⟨hFirst, .inl rfl⟩
  · rw [segment_of_not_mem hSlash]
    exact ⟨hSlash, .inr ⟨rfl, rfl⟩⟩

/- A brain is found under its name alone. -/
theorem ofPath?_of_bare_name
    {brainId : List Char}
    (hNil : brainId ≠ [])
    (hSlash : '/' ∉ brainId) :
    Target.ofPath? ("/neeo/".toList ++ brainId) =
      some ⟨String.ofList brainId, String.ofList ['/']⟩ := by
  have hRoot :
      segment (root.toList ++ '/' :: brainId) =
        (root.toList, brainId) :=
    segment_append (by decide) _
  change
    Target.ofPath? ('/' :: (root.toList ++ '/' :: brainId)) = _
  simp only [Target.ofPath?, hRoot, segment_of_not_mem hSlash]
  exact if_pos ⟨trivial, hNil⟩

/- What is found is named by the path. -/
theorem names_of_ofPath?
    {path : List Char}
    {found : Target}
    (hFound : Target.ofPath? path = some found) :
    Names path found.brainId.toList found.path.toList := by
  unfold Target.ofPath? at hFound
  split at hFound
  · rename_i path
    dsimp only at hFound
    split at hFound
    · rename_i hServed
      rcases hServed with ⟨hRoot, hNil⟩
      cases hFound
      rw [String.toList_ofList, String.toList_ofList]
      rcases segment_cases path with ⟨-, hPath | ⟨-, hEnd⟩⟩
      · rcases segment_cases (segment path).2 with
          ⟨hSlash, hWhole⟩
        refine ⟨hNil, hSlash, rfl, ?_⟩
        rw [hRoot] at hPath
        rcases hWhole with hTail | ⟨hName, hEnd⟩
        · left
          rw [List.append_assoc, hTail]
          exact congrArg ('/' :: ·) hPath
        · right
          rw [hEnd, hName]
          refine ⟨rfl, congrArg (· ++ ['/']) ?_⟩
          exact congrArg ('/' :: ·) hPath
      · rw [hEnd] at hNil
        exact (hNil rfl).elim
    · cases hFound
  · cases hFound

/- A path is found to be served exactly if it names a brain. -/
theorem ofPath?_eq_some_iff
    {path : List Char}
    {found : Target} :
    Target.ofPath? path = some found ↔
      Names path found.brainId.toList found.path.toList := by
  constructor
  · exact names_of_ofPath?
  · rintro ⟨hNil, hSlash, hHead, hWhole⟩
    have hName :
        String.ofList found.brainId.toList = found.brainId :=
      String.ofList_toList
    have hTail :
        String.ofList found.path.toList = found.path :=
      String.ofList_toList
    rcases hWhole with hWhole | ⟨hBare, hWhole⟩
    · rcases List.head?_eq_some_iff.mp hHead with ⟨rest, hRest⟩
      rw [← hWhole, List.append_assoc, hRest,
        ofPath?_of_name hNil hSlash, ← hRest, hName, hTail]
    · rw [hBare] at hWhole hTail
      rw [← List.append_cancel_right hWhole,
        ofPath?_of_bare_name hNil hSlash, hName, hTail]

------------------------------------------------------------
-- Registrations
------------------------------------------------------------

section Registered

variable {past : List Step}
variable {brainId : String}

theorem not_registered_nil : ¬ Registered [] brainId := by
  rintro ⟨since, before, hPast, -⟩
  simp at hPast

/- Only what was done last about a brain counts. -/
theorem registered_cons (step : Step) :
    Registered (step :: past) brainId ↔
      step = .register brainId ∨
        Registered past brainId ∧ step ≠ .unregister brainId := by
  constructor
  · rintro ⟨since, before, hPast, hKept⟩
    cases since with
    | nil => exact .inl (List.head_eq_of_cons_eq hPast)
    | cons latest since =>
        rcases List.cons.inj hPast with ⟨rfl, hBefore⟩
        rw [List.mem_cons, not_or] at hKept
        exact
          .inr
            ⟨⟨since, before, hBefore, hKept.2⟩,
              Ne.symm hKept.1⟩
  · rintro (rfl | ⟨⟨since, before, rfl, hKept⟩, hStep⟩)
    · exact ⟨[], past, rfl, List.not_mem_nil⟩
    · refine ⟨step :: since, before, rfl, ?_⟩
      rw [List.mem_cons, not_or]
      exact ⟨Ne.symm hStep, hKept⟩

theorem isRegistered_register
    (router : Router)
    (other : String) :
    (router.register other).isRegistered brainId = true ↔
      other = brainId ∨ router.isRegistered brainId = true := by
  unfold Router.register
  split
  · rename_i hHas
    constructor
    · exact .inr
    · rintro (rfl | hHere)
      · exact hHas
      · exact hHere
  · have hHead :
        (other :: router.brains).contains brainId = true ↔
          brainId = other ∨
            router.brains.contains brainId = true := by
      simp
    exact hHead.trans (or_congr_left eq_comm)

theorem isRegistered_unregister
    (router : Router)
    (other : String) :
    (router.unregister other).isRegistered brainId = true ↔
      router.isRegistered brainId = true ∧ other ≠ brainId := by
  have hKept :
      (router.brains.filter (· != other)).contains brainId =
          true ↔
        router.brains.contains brainId = true ∧
          brainId ≠ other := by
    simp
  exact hKept.trans (and_congr_right fun _ => ne_comm)

end Registered

------------------------------------------------------------
-- Answers
------------------------------------------------------------

/- A call waits for the receiver, if there is one. -/
def Router.pass (router : Router) (call : Call) : Router :=
  if router.isOpen then
    { router with queue := router.queue ++ [call] }
  else
    router

section Serve

variable {router : Router}
variable {visit : Visit}

/- What is found in the path is what the call carries. -/
theorem carries_iff
    {call : Call} :
    visit.Carries call ↔
      ∃ found,
        Target.ofPath? (pathOf visit.target.toList) =
            some found ∧
          call =
            ⟨ found.brainId, visit.method, found.path,
              Text.ofOctets visit.body ⟩ := by
  constructor
  · rintro ⟨hPath, hMethod, hBody⟩
    refine
      ⟨⟨call.brainId, call.path⟩,
        ofPath?_eq_some_iff.mpr hPath, ?_⟩
    rw [← hMethod, ← hBody]
  · rintro ⟨found, hFound, rfl⟩
    exact ⟨ofPath?_eq_some_iff.mp hFound, rfl, rfl⟩

/- A request carries one call at most. -/
theorem Visit.Carries.unique
    {call other : Call}
    (hCall : visit.Carries call)
    (hOther : visit.Carries other) :
    call = other := by
  rcases carries_iff.mp hCall with ⟨found, hFound, rfl⟩
  rcases carries_iff.mp hOther with ⟨same, hSame, rfl⟩
  rw [hFound] at hSame
  cases hSame
  rfl

/-
  A request is passed on as the call of a registered brain,
  or refused, and then it changes nothing.
-/
inductive Serves (router : Router) (visit : Visit) :
    Router × Http.Response → Prop where
| passes
    (call : Call)
    (hCall : visit.Carries call)
    (hRegistered : router.isRegistered call.brainId = true) :
    Serves router visit (router.pass call, accepted)
| refuses
    (response : Http.Response)
    (hStatus : response.status = 404)
    (hNone :
      ∀ call,
        visit.Carries call →
          router.isRegistered call.brainId = false) :
    Serves router visit (router, response)

theorem serves_serve (router : Router) (visit : Visit) :
    Serves router visit (serve router visit) := by
  unfold serve
  cases hFound :
      Target.ofPath? (pathOf visit.target.toList) with
  | none =>
      rw [respond_of_not_found hFound]
      apply Serves.refuses _ rfl
      intro call hCall
      rcases carries_iff.mp hCall with ⟨found, hSame, -⟩
      rw [hFound] at hSame
      cases hSame
  | some found =>
      have hCarries := carries_iff.mpr ⟨found, hFound, rfl⟩
      cases hRegistered : router.isRegistered found.brainId with
      | true =>
          rw [respond_of_isRegistered hFound hRegistered]
          exact .passes _ hCarries hRegistered
      | false =>
          rw [respond_of_not_isRegistered hFound hRegistered]
          apply Serves.refuses _ rfl
          intro call hCall
          rw [hCall.unique hCarries]
          exact hRegistered

theorem brains_pass (router : Router) (call : Call) :
    (router.pass call).brains = router.brains := by
  unfold Router.pass
  split
  · rfl
  · rfl

/- No request registers a brain or takes one off. -/
theorem brains_serve (router : Router) (visit : Visit) :
    (serve router visit).1.brains = router.brains := by
  have hServes := serves_serve router visit
  generalize serve router visit = served at hServes
  cases hServes with
  | passes call _ _ => exact brains_pass router call
  | refuses _ _ _ => rfl

/- Routers with the same brains accept the same calls. -/
theorem isRegistered_congr
    {router other : Router}
    (hBrains : router.brains = other.brains) :
    router.isRegistered = other.isRegistered := by
  unfold Router.isRegistered
  rw [hBrains]

end Serve

------------------------------------------------------------
-- Whole Runs
------------------------------------------------------------

/- The router knows what was registered and not taken off. -/
theorem isRegistered_through
    (past : List Step)
    (brainId : String) :
    (Service.through past).router.isRegistered brainId = true ↔
      Registered past brainId := by
  induction past with
  | nil =>
      refine iff_of_false ?_ not_registered_nil
      exact Bool.false_ne_true
  | cons step past ih =>
      rw [registered_cons, ← ih]
      cases step with
      | register other =>
          refine (isRegistered_register _ other).trans ?_
          simp
      | unregister other =>
          refine (isRegistered_unregister _ other).trans ?_
          simp
      | request visit =>
          have hSame :=
            isRegistered_congr
              (brains_serve (Service.through past).router visit)
          change
            (serve (Service.through past).router
                  visit).1.isRegistered brainId =
                true ↔
              _
          rw [hSame]
          simp
      | receive =>
          change
            (Service.through past).router.isRegistered brainId =
                true ↔
              _
          simp
      | dropReceiver =>
          change
            (Service.through past).router.isRegistered brainId =
                true ↔
              _
          simp

/- What was answered last is the last success, if it is one. -/
theorem successes_snoc
    (exchanges : List (Visit × Http.Response))
    (visit : Visit)
    (response : Http.Response) :
    successes (exchanges ++ [(visit, response)]) =
      successes exchanges ++
        if response.status = 200 then [visit] else [] := by
  unfold successes
  rw [List.filter_append, List.map_append]
  by_cases hStatus : response.status = 200
  · simp [hStatus]
  · simp [hStatus]

theorem isOpen_register (router : Router) (brainId : String) :
    (router.register brainId).isOpen = router.isOpen := by
  unfold Router.register
  split
  · rfl
  · rfl

theorem queue_register (router : Router) (brainId : String) :
    (router.register brainId).queue = router.queue := by
  unfold Router.register
  split
  · rfl
  · rfl

namespace Service

/-
  There is a receiver; what it has taken and what waits for it
  carry the requests that were answered with success, one each
  and in order.
-/
structure IsComplete (service : Service) : Prop where
  isOpen : service.router.isOpen = true
  calls :
    List.Forall₂ Visit.Carries (successes service.exchanges)
      (service.received ++ service.router.queue)

/- An accepted request puts one call behind those that wait. -/
theorem IsComplete.request
    {service : Service}
    (hComplete : service.IsComplete)
    (visit : Visit) :
    (service.after (.request visit)).IsComplete := by
  have hServes := serves_serve service.router visit
  unfold after
  dsimp only
  generalize serve service.router visit = served at hServes
  cases hServes with
  | passes call hCall hRegistered =>
      have hPass :
          service.router.pass call =
            { service.router with
              queue := service.router.queue ++ [call] } :=
        if_pos hComplete.isOpen
      rw [hPass]
      refine ⟨hComplete.isOpen, ?_⟩
      rw [successes_snoc, ← List.append_assoc]
      exact List.rel_append hComplete.calls (.cons hCall .nil)
  | refuses response hStatus hNone =>
      refine ⟨hComplete.isOpen, ?_⟩
      rw [successes_snoc, hStatus, if_neg (by decide),
        List.append_nil]
      exact hComplete.calls

/- While there is a receiver, nothing is lost on the way. -/
theorem isComplete_through
    {past : List Step}
    (hHeld : .dropReceiver ∉ past) :
    (through past).IsComplete := by
  induction past with
  | nil => exact ⟨rfl, .nil⟩
  | cons step past ih =>
      rw [List.mem_cons, not_or] at hHeld
      have hComplete := ih hHeld.2
      cases step with
      | register brainId =>
          have hOpen :=
            isOpen_register (through past).router brainId
          refine ⟨hOpen.trans hComplete.isOpen, ?_⟩
          change
            List.Forall₂ Visit.Carries
              (successes (through past).exchanges)
              ((through past).received
                ++ ((through past).router.register
                    brainId).queue)
          rw [queue_register]
          exact hComplete.calls
      | unregister brainId =>
          exact ⟨hComplete.isOpen, hComplete.calls⟩
      | request visit => exact hComplete.request visit
      | receive =>
          refine ⟨hComplete.isOpen, ?_⟩
          change
            List.Forall₂ Visit.Carries
              (successes (through past).exchanges)
              (((through past).received
                    ++ (through past).router.queue) ++ [])
          rw [List.append_nil]
          exact hComplete.calls
      | dropReceiver => exact (hHeld.1 rfl).elim

/- The receiver is gone, and has got what it has got. -/
structure IsDeaf
    (service : Service)
    (received : List Call) : Prop where
  isOpen : service.router.isOpen = false
  queue : service.router.queue = []
  received : service.received = received

theorem IsDeaf.after
    {service : Service}
    {received : List Call}
    (hDeaf : service.IsDeaf received)
    (step : Step) :
    (service.after step).IsDeaf received := by
  cases step with
  | register brainId =>
      exact
        ⟨(isOpen_register _ _).trans hDeaf.isOpen,
          (queue_register _ _).trans hDeaf.queue,
          hDeaf.received⟩
  | unregister brainId =>
      exact ⟨hDeaf.isOpen, hDeaf.queue, hDeaf.received⟩
  | request visit =>
      have hServes := serves_serve service.router visit
      unfold Service.after
      dsimp only
      generalize serve service.router visit = served at hServes
      cases hServes with
      | passes call _ _ =>
          have hPass :
              service.router.pass call = service.router := by
            unfold Router.pass
            rw [hDeaf.isOpen]
            rfl
          rw [hPass]
          exact ⟨hDeaf.isOpen, hDeaf.queue, hDeaf.received⟩
      | refuses _ _ _ =>
          exact ⟨hDeaf.isOpen, hDeaf.queue, hDeaf.received⟩
  | receive =>
      refine ⟨hDeaf.isOpen, rfl, ?_⟩
      change service.received ++ service.router.queue = received
      rw [hDeaf.queue, List.append_nil]
      exact hDeaf.received
  | dropReceiver => exact ⟨rfl, rfl, hDeaf.received⟩

/- A receiver that is gone gets nothing more. -/
theorem isDeaf_through (since before : List Step) :
    (through (since ++ .dropReceiver :: before)).IsDeaf
      (through before).received := by
  induction since with
  | nil => exact ⟨rfl, rfl, rfl⟩
  | cons step since ih => exact ih.after step

/- Two servers that differ in what the receiver gets alone. -/
structure Alike (service other : Service) : Prop where
  brains : service.router.brains = other.router.brains
  exchanges : service.exchanges = other.exchanges

/- An answer depends on who is registered alone. -/
theorem answer_congr
    {router other : Router}
    (hBrains : router.brains = other.brains)
    (visit : Visit) :
    (serve router visit).2 = (serve other visit).2 := by
  have hSame := isRegistered_congr hBrains
  unfold serve
  cases hFound :
      Target.ofPath? (pathOf visit.target.toList) with
  | none =>
      rw [respond_of_not_found hFound,
        respond_of_not_found hFound]
  | some found =>
      cases hRegistered : router.isRegistered found.brainId with
      | true =>
          rw [respond_of_isRegistered hFound hRegistered,
            respond_of_isRegistered hFound
              (hSame ▸ hRegistered)]
      | false =>
          rw [respond_of_not_isRegistered hFound hRegistered,
            respond_of_not_isRegistered hFound
              (hSame ▸ hRegistered)]

theorem Alike.after
    {service other : Service}
    (hAlike : service.Alike other)
    (step : Step) :
    (service.after step).Alike (other.after step) := by
  rcases hAlike with ⟨hBrains, hExchanges⟩
  cases step with
  | register brainId =>
      have hSame := isRegistered_congr hBrains
      refine ⟨?_, hExchanges⟩
      change
        (service.router.register brainId).brains =
          (other.router.register brainId).brains
      unfold Router.register
      rw [hSame, apply_ite Router.brains,
        apply_ite Router.brains, hBrains]
  | unregister brainId =>
      exact
        ⟨congrArg (List.filter (· != brainId)) hBrains,
          hExchanges⟩
  | request visit =>
      refine ⟨?_, ?_⟩
      · change
          (serve service.router visit).1.brains =
            (serve other.router visit).1.brains
        rw [brains_serve, brains_serve, hBrains]
      · change
          service.exchanges
              ++ [(visit, (serve service.router visit).2)] =
            other.exchanges
              ++ [(visit, (serve other.router visit).2)]
        rw [hExchanges, answer_congr hBrains]
  | receive => exact ⟨hBrains, hExchanges⟩
  | dropReceiver => exact ⟨hBrains, hExchanges⟩

/- It makes no difference to answers when a receiver goes. -/
theorem alike_through (past : List Step) :
    (through past).Alike
      (through (past.filter (· != .dropReceiver))) := by
  induction past with
  | nil => exact ⟨rfl, rfl⟩
  | cons step past ih =>
      by_cases hDrop : step = .dropReceiver
      · subst hDrop
        exact ⟨ih.brains, ih.exchanges⟩
      · have hKept :
            (step :: past).filter (· != .dropReceiver) =
              step :: past.filter (· != .dropReceiver) := by
          rw [List.filter_cons_of_pos]
          simpa using hDrop
        rw [hKept]
        exact ih.after step

end Service

/-
  What comes of a request after some steps: success exactly if
  its path names a brain that is registered now, and then one
  call is passed on that carries it; else it is not found, and
  nothing changes. A body that is a text is passed on as it.
-/
structure Answers
    (past : List Step)
    (visit : Visit)
    (served : Router × Http.Response) : Prop where
  success :
    served.2.status = 200 ↔
      ∃ call,
        visit.Carries call ∧ Registered past call.brainId
  passed :
    ∀ call,
      visit.Carries call →
        Registered past call.brainId →
          served.1 = (Service.through past).router.pass call
  refused :
    served.2.status ≠ 200 →
      served.2.status = 404 ∧
        served.1 = (Service.through past).router
  text :
    ∀ call text,
      visit.Carries call →
        visit.body = Text.octetsOf text → call.body = text

theorem answers_serve (past : List Step) (visit : Visit) :
    Answers past visit
      (serve (Service.through past).router visit) := by
  have hText :
      ∀ call text,
        visit.Carries call →
          visit.body = Text.octetsOf text →
            call.body = text := by
    intro call text hCall hBody
    rw [hCall.body, hBody, Text.ofOctets_octetsOf]
  have hServes :=
    serves_serve (Service.through past).router visit
  generalize serve (Service.through past).router visit = served
    at hServes
  cases hServes with
  | passes call hCall hRegistered =>
      rw [isRegistered_through] at hRegistered
      refine ⟨?_, ?_, ?_, hText⟩
      · exact iff_of_true rfl ⟨call, hCall, hRegistered⟩
      · intro other hOther _
        rw [hOther.unique hCall]
      · exact fun hStatus => (hStatus rfl).elim
  | refuses response hStatus hNone =>
      have hNobody :
          ∀ call,
            visit.Carries call →
              ¬ Registered past call.brainId := by
        intro call hCall hRegistered
        rw [← isRegistered_through, hNone call hCall]
          at hRegistered
        cases hRegistered
      refine ⟨?_, ?_, ?_, hText⟩
      · refine iff_of_false ?_ ?_
        · change response.status ≠ 200
          rw [hStatus]
          decide
        · rintro ⟨call, hCall, hRegistered⟩
          exact hNobody call hCall hRegistered
      · intro call hCall hRegistered
        exact (hNobody call hCall hRegistered).elim
      · exact fun _ => ⟨hStatus, rfl⟩

/-
  Whatever has happened at a server, it answers and passes on
  a request by what was registered and not taken off. As long
  as there is a receiver, what it has taken and what waits for
  it are the calls of all successes, one each and in order.
  When it goes it gets nothing more, and no answer changes.
-/
theorem serves_registered_brains (past : List Step) :
    (∀ visit,
        Answers past visit
          (serve (Service.through past).router visit)) ∧
      (.dropReceiver ∉ past →
          (Service.through past).IsComplete) ∧
        (∀ since before,
            past = since ++ .dropReceiver :: before →
              (Service.through past).IsDeaf
                (Service.through before).received) ∧
          (Service.through past).exchanges =
            (Service.through
              (past.filter (· != .dropReceiver))).exchanges := by
  refine ⟨?_, ?_, ?_, ?_⟩
  · exact answers_serve past
  · exact Service.isComplete_through
  · rintro since before rfl
    exact Service.isDeaf_through since before
  · exact (Service.alike_through past).exchanges

end BrainLink.Callback
