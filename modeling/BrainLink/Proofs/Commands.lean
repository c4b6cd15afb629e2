import BrainLink.Proofs.Executing
import BrainLink.Proofs.Histories
import BrainLink.Proofs.Transports

/-
  What commands leave of a connection, and how they report
  what has failed.

  Key definitions include:
    * `Call`
    * `Situation.call`
    * `Exchange.Succeeds`
    * `Exchange.FailsWith`
    * `Reports`
    * `Connection.Judges`
    * `Situation.LeavesAlone`
    * `Situation.Serves`
    * `Call.IsFrank`

  Main statements:
    * `Connection.judges_resume`
    * `Situation.exists_pursue`
    * `Situation.serves_call`
    * `Situation.Serves.leavesAlone`
    * `commands_leave_session_alone`

  A command that does not close the connection asks, waits for
  the answer, and perhaps asks once more. Each answer is judged
  in the same way: it is of use, or it ends the command with
  its own error. Nothing is left behind but the requests in the
  journal, and the number of a transport.
-/

namespace BrainLink

------------------------------------------------------------
-- Calls
------------------------------------------------------------

/- A request, what it was for, and the answer that came. -/
structure Exchange where
  request : Http.Request
  errand : Errand
  answer : Http.Answer

/- An answer, and the world in which it comes. -/
structure Reply where
  world : World
  answer : Http.Answer

/-
  What a command comes to: its exchanges, oldest first, its
  result unless it still waits, and the situation it leaves.
-/
structure Call where
  exchanges : List Exchange
  result : Option (Outcome Product)
  after : Situation

namespace Situation

/- What has asked goes on with its replies, and nothing else. -/
def pursue :
    Situation → Progress → List Reply → Call
| situation, .asks request errand, reply :: replies =>
    let call :=
      pursue
        (situation.after
          (.answer reply.world request errand reply.answer))
        (situation.connection.resume reply.world errand
          reply.answer).2
        replies
    { call with
      exchanges :=
        ⟨request, errand, reply.answer⟩ :: call.exchanges }
| situation, .done result, _ => ⟨[], some result, situation⟩
| situation, _, _ => ⟨[], none, situation⟩

/-
  The owner gives a command and gets the replies, with no
  other occurrence in between.
-/
def call
    (situation : Situation)
    (world : World)
    (command : Command)
    (replies : List Reply) :
    Call :=
  (situation.after (.command world command)).pursue
    (situation.connection.obey world command).2 replies

end Situation

------------------------------------------------------------
-- Judgements
------------------------------------------------------------

/- Whether the body of an answer is of use for an errand. -/
def Errand.Understands
    (body : String) :
    Errand → Prop
| .listingRecipes _ _ _ =>
    ∃ recipes, Recipe.ofListing body = .ok recipes
| .readingInfo =>
    ∃ info, SystemInfo.ofText? body = some info
| _ => True

namespace Exchange

/- The brain has answered with status 200, and to the point. -/
def Succeeds (exchange : Exchange) : Prop :=
  ∃ body,
    exchange.answer = .ok ⟨200, body⟩ ∧
      exchange.errand.Understands body

/-
  The error of an exchange. It has the status and the body of
  an answer with another status, and the wording of a failure
  without an answer.
-/
inductive FailsWith (exchange : Exchange) : Cause → Prop where
| refused
    (status : Nat)
    (body : String)
    (hStatus : status ≠ 200)
    (hAnswer : exchange.answer = .ok ⟨status, body⟩) :
    FailsWith exchange (.transport status body)
| lost
    (failure : Http.Failure)
    (hAnswer : exchange.answer = .error failure) :
    FailsWith exchange (.io failure.message)
| garbled
    (body text : String)
    (hAnswer : exchange.answer = .ok ⟨200, body⟩)
    (hBody : ¬ exchange.errand.Understands body) :
    FailsWith exchange (.parse text)

/- No exchange does both. -/
theorem FailsWith.not_succeeds
    {exchange : Exchange}
    {cause : Cause}
    (h : exchange.FailsWith cause) :
    ¬ exchange.Succeeds := by
  rintro ⟨body, hOk, hBody⟩
  cases h with
  | refused status other hStatus hAnswer =>
      cases hOk.symm.trans hAnswer
      exact hStatus rfl
  | lost failure hAnswer => cases hOk.symm.trans hAnswer
  | garbled other text hAnswer hOther =>
      cases hOk.symm.trans hAnswer
      exact hOther hBody

/- An answer that is not accepted is an error of its own. -/
theorem failsWith_of_accept
    {exchange : Exchange}
    {cause : Cause}
    (hAnswer : Http.accept exchange.answer = .error cause) :
    exchange.FailsWith cause := by
  unfold Http.accept at hAnswer
  split at hAnswer
  · rename_i failure hLost
    cases hAnswer
    exact .lost failure hLost
  · rename_i response hResponse
    split at hAnswer
    · cases hAnswer
    · rename_i hStatus
      cases hAnswer
      refine .refused _ _ ?_ hResponse
      simpa [Http.Response.isOk] using hStatus

end Exchange

/-
  What the exchanges of a call say of its result. It is good
  only if all of them succeeded. Otherwise the last is the
  first that failed, and its error is the result.
-/
inductive Reports :
    List Exchange → Outcome Product → Prop where
| succeeds
    (exchanges : List Exchange)
    (product : Product)
    (hAll : ∀ exchange ∈ exchanges, exchange.Succeeds) :
    Reports exchanges (.ok product)
| fails
    (earlier : List Exchange)
    (last : Exchange)
    (cause : Cause)
    (hEarlier : ∀ exchange ∈ earlier, exchange.Succeeds)
    (hLast : last.FailsWith cause) :
    Reports (earlier ++ [last]) (.error cause)

/- One more exchange that succeeded changes nothing. -/
theorem Reports.cons
    {exchange : Exchange}
    {exchanges : List Exchange}
    {result : Outcome Product}
    (hSucceeds : exchange.Succeeds)
    (h : Reports exchanges result) :
    Reports (exchange :: exchanges) result := by
  cases h with
  | succeeds _ product hAll =>
      exact
        .succeeds _ product
          (List.forall_mem_cons.mpr ⟨hSucceeds, hAll⟩)
  | fails earlier last cause hEarlier hLast =>
      exact
        .fails (exchange :: earlier) last cause
          (List.forall_mem_cons.mpr ⟨hSucceeds, hEarlier⟩)
          hLast

/- No request follows one that failed. -/
theorem Reports.eq_nil_of_failsWith
    {earlier later : List Exchange}
    {exchange : Exchange}
    {cause : Cause}
    {result : Outcome Product}
    (h : Reports (earlier ++ exchange :: later) result)
    (hFails : exchange.FailsWith cause) :
    later = [] ∧
      ∃ other,
        result = .error other ∧ exchange.FailsWith other := by
  generalize hSame : earlier ++ exchange :: later = exchanges
    at h
  cases h with
  | succeeds _ product hAll =>
      rw [← hSame] at hAll
      exact
        absurd (hAll exchange (by simp)) hFails.not_succeeds
  | fails others last other hOthers hLast =>
      rcases snoc_eq_append_cons hSame.symm with
        ⟨-, rfl, rfl⟩ | ⟨rest, rfl, -⟩
      · exact ⟨rfl, other, rfl, hLast⟩
      · exact
          absurd (hOthers exchange (by simp))
            hFails.not_succeeds

------------------------------------------------------------
-- Steps
------------------------------------------------------------

namespace Connection

/-
  What comes of an answer to a command. The command is at its
  end, well or with the error of the exchange, or asks for one
  thing more if that was a listing.
-/
inductive Judges
    (connection : Connection)
    (exchange : Exchange) :
    Connection × Progress → Prop where
| ends
    (product : Product)
    (hSucceeds : exchange.Succeeds) :
    Judges connection exchange
      (connection, .done (.ok product))
| fails
    (cause : Cause)
    (hFails : exchange.FailsWith cause) :
    Judges connection exchange
      (connection, .done (.error cause))
| goesOn
    (transport : TransportId)
    (key : String)
    (on : Bool)
    (request : Http.Request)
    (hErrand :
      exchange.errand = .listingRecipes transport key on)
    (hSucceeds : exchange.Succeeds) :
    Judges connection exchange
      (connection.ask (transport, request) .runningRecipe)

section Judges

variable {connection : Connection}
variable {exchange : Exchange}

/- Where any body is of use, the status alone decides. -/
theorem judges_conclude
    (hBody : ∀ body, exchange.errand.Understands body)
    (product : String → Product) :
    connection.Judges exchange
      (connection.conclude product
        (Http.accept exchange.answer)) := by
  unfold conclude
  cases hAnswer : Http.accept exchange.answer with
  | error cause =>
      exact
        .fails cause (Exchange.failsWith_of_accept hAnswer)
  | ok body =>
      exact
        .ends (product body)
          ⟨ body, Http.accept_eq_ok_iff.mp hAnswer,
            hBody body ⟩

theorem judges_readingInfo
    (hErrand : exchange.errand = .readingInfo) :
    connection.Judges exchange
      (connection.conclude .systemInfo
        (SystemInfo.ofAnswer exchange.answer)) := by
  unfold conclude SystemInfo.ofAnswer
  cases hAnswer : Http.accept exchange.answer with
  | error cause =>
      exact
        .fails cause (Exchange.failsWith_of_accept hAnswer)
  | ok body =>
      have hOk := Http.accept_eq_ok_iff.mp hAnswer
      dsimp only
      cases hInfo : SystemInfo.ofText? body with
      | none =>
          apply Judges.fails
          apply Exchange.FailsWith.garbled body _ hOk
          rw [hErrand]
          rintro ⟨info, hSome⟩
          cases hInfo.symm.trans hSome
      | some info =>
          apply Judges.ends (.systemInfo info)
          refine ⟨body, hOk, ?_⟩
          rw [hErrand]
          exact ⟨info, hInfo⟩

theorem judges_afterListing
    {transport : TransportId}
    {key : String}
    {on : Bool}
    (hErrand :
      exchange.errand = .listingRecipes transport key on) :
    connection.Judges exchange
      (connection.afterListing transport key on
        exchange.answer) := by
  unfold afterListing Recipe.ofAnswer
  cases hAnswer : Http.accept exchange.answer with
  | error cause =>
      exact
        .fails cause (Exchange.failsWith_of_accept hAnswer)
  | ok body =>
      have hOk := Http.accept_eq_ok_iff.mp hAnswer
      dsimp only
      cases hListing : Recipe.ofListing body with
      | error cause =>
          have hParse : ∃ text, cause = .parse text := by
            unfold Recipe.ofListing at hListing
            split at hListing
            · cases hListing
              exact ⟨_, rfl⟩
            · cases hListing
          rcases hParse with ⟨text, rfl⟩
          apply Judges.fails
          apply Exchange.FailsWith.garbled body _ hOk
          rw [hErrand]
          rintro ⟨recipes, hRecipes⟩
          cases hListing.symm.trans hRecipes
      | ok recipes =>
          have hSucceeds : exchange.Succeeds := by
            refine ⟨body, hOk, ?_⟩
            rw [hErrand]
            exact ⟨recipes, hListing⟩
          dsimp only
          split
          · exact .ends .nothing hSucceeds
          · split
            · exact .ends .nothing hSucceeds
            · exact
                .goesOn transport key on _ hErrand hSucceeds

/- Every answer to a command is judged in the same way. -/
theorem judges_resume
    (hOrdinary : exchange.errand.IsOrdinary)
    (world : World) :
    connection.Judges exchange
      (connection.resume world exchange.errand
        exchange.answer) := by
  rcases exchange with ⟨request, errand, answer⟩
  dsimp only at hOrdinary ⊢
  cases errand with
  | unregistering task transport => cases hOrdinary.1
  | registering task transport => cases hOrdinary.1
  | fetchingKeys task transport => cases hOrdinary.1
  | closing => exact absurd rfl hOrdinary.2
  | listingRecipes transport key on =>
      exact judges_afterListing rfl
  | readingInfo => exact judges_readingInfo rfl
  | notifying | runningRecipe | blinking =>
      apply judges_conclude
      exact fun _ => trivial
  | readingLog =>
      have hLog :
          connection.resume world .readingLog answer =
            connection.conclude
              (fun body => .html (Log.toHtml body))
              (Http.accept answer) := by
        change
          connection.conclude .html (Log.ofAnswer answer) = _
        unfold Log.ofAnswer conclude
        cases Http.accept answer <;> rfl
      rw [hLog]
      apply judges_conclude
      exact fun _ => trivial

end Judges

end Connection

------------------------------------------------------------
-- Runs
------------------------------------------------------------

/- A connection that has sent requests on a transport. -/
def Connection.sent
    (transport : TransportId)
    (requests : List Http.Request)
    (connection : Connection) :
    Connection :=
  { connection with
    journal :=
      connection.journal ++
        requests.map fun request =>
          (connection.tasks.now, .asked transport request) }

@[simp] theorem Connection.sent_nil
    (transport : TransportId)
    (connection : Connection) :
    connection.sent transport [] = connection := by
  simp [sent]

@[simp] theorem Connection.sent_record
    (transport : TransportId)
    (request : Http.Request)
    (requests : List Http.Request)
    (connection : Connection) :
    (connection.record (.asked transport request)).sent
        transport requests =
      connection.sent transport (request :: requests) := by
  simp [sent, record]

/- How many replies an errand of a command can need. -/
def Errand.rounds : Errand → Nat
| .listingRecipes _ _ _ => 2
| _ => 1

/- An errand goes on with the transport that it was sent on. -/
def Errand.IsOn (transport : TransportId) : Errand → Prop
| .listingRecipes sender _ _ => sender = transport
| _ => True

namespace Situation

/- An errand of a command gets its answer. -/
theorem after_reply
    {errand : Errand}
    (hOrdinary : errand.IsOrdinary)
    (connection : Connection)
    (waiting : List Question)
    (request : Http.Request)
    (reply : Reply) :
    Situation.after
        ⟨connection, .asking request errand :: waiting⟩
        (.answer reply.world request errand reply.answer) =
      proceed waiting none
        (connection.resume reply.world errand reply.answer) := by
  simp only [Situation.after]
  rw [if_pos List.mem_cons_self, List.erase_cons_head,
    hOrdinary.1]

/- What has asked goes on with what its answer is worth. -/
theorem pursue_reply
    {errand : Errand}
    (hOrdinary : errand.IsOrdinary)
    (connection : Connection)
    (waiting : List Question)
    (request : Http.Request)
    (reply : Reply)
    (replies : List Reply) :
    pursue ⟨connection, .asking request errand :: waiting⟩
        (.asks request errand) (reply :: replies) =
      let step :=
        connection.resume reply.world errand reply.answer
      let call :=
        (proceed waiting none step).pursue step.2 replies
      { call with
        exchanges :=
          ⟨request, errand, reply.answer⟩ :: call.exchanges } := by
  rw [pursue, after_reply hOrdinary]

/-
  With as many replies as it can need, what has asked comes to
  its end. It has sent nothing but its requests, and its result
  is what its exchanges say.
-/
theorem exists_pursue
    {errand : Errand}
    {transport : TransportId}
    (hOrdinary : errand.IsOrdinary)
    (hOn : errand.IsOn transport)
    (connection : Connection)
    (waiting : List Question)
    (request : Http.Request)
    {replies : List Reply}
    (hReplies : errand.rounds ≤ replies.length) :
    ∃ answer rest result,
      pursue ⟨connection, .asking request errand :: waiting⟩
          (.asks request errand) replies =
        ⟨ ⟨request, errand, answer⟩ :: rest,
          some result,
          ⟨ connection.sent transport
              (rest.map Exchange.request),
            waiting ⟩ ⟩ ∧
        Reports (⟨request, errand, answer⟩ :: rest) result ∧
          (errand.rounds = 1 → rest = []) := by
  -- On the replies: only a listing can need a second one.
  induction replies generalizing connection request errand with
  | nil => cases errand <;> cases hReplies
  | cons reply replies ih =>
      have hJudges :
          connection.Judges ⟨request, errand, reply.answer⟩
            (connection.resume reply.world errand
              reply.answer) :=
        Connection.judges_resume hOrdinary reply.world
      rw [pursue_reply hOrdinary]
      dsimp only
      generalize
        connection.resume reply.world errand reply.answer = step
        at hJudges ⊢
      refine ⟨reply.answer, ?_⟩
      cases hJudges with
      | ends product hSucceeds =>
          refine ⟨[], .ok product, ?_, ?_, fun _ => rfl⟩
          · simp [proceed, pursue]
          · exact .succeeds _ _ (by simpa using hSucceeds)
      | fails cause hFails =>
          refine ⟨[], .error cause, ?_, ?_, fun _ => rfl⟩
          · simp [proceed, pursue]
          · exact .fails [] _ cause (by simp) hFails
      | goesOn sender key on again hErrand hSucceeds =>
          cases hErrand
          cases hOn
          have hLast : Errand.runningRecipe.IsOrdinary :=
            ⟨rfl, by decide⟩
          have hMore :
              ¬(Errand.listingRecipes transport key on).rounds = 1 :=
            Nat.succ_ne_self 1
          have hRounds :
              Errand.runningRecipe.rounds ≤ replies.length :=
            Nat.le_of_succ_le_succ hReplies
          rcases
              ih hLast trivial
                (connection.record (.asked transport again))
                again hRounds with
            ⟨answer, rest, result, hCall, hReports, -⟩
          refine
            ⟨ ⟨again, .runningRecipe, answer⟩ :: rest, result,
              ?_, hReports.cons hSucceeds,
              fun hOnce => absurd hOnce hMore ⟩
          have hProceed :
              proceed waiting none
                  (connection.ask (transport, again)
                    .runningRecipe) =
                ⟨ connection.record (.asked transport again),
                  .asking again .runningRecipe ::
                    waiting ⟩ :=
            rfl
          rw [hProceed]
          simp only [Connection.ask, hCall]
          simp

end Situation

------------------------------------------------------------
-- Commands
------------------------------------------------------------

/- The commands that read something on a transport of theirs. -/
inductive Command.Reads :
    Command → Endpoint → Errand → Prop where
| info : Reads .systemInfo .systemInfo .readingInfo
| blink : Reads .blinkLed .blink .blinking
| log : Reads .logHtml .log .readingLog

namespace Situation

/-
  Nothing has happened to the session, to its tasks and slots,
  to the keys or to those who listen, and none of these was
  told anything. Whoever was waiting for an answer still is.
-/
structure LeavesAlone (before after : Situation) : Prop where
  config : after.connection.config = before.connection.config
  session :
    after.connection.session = before.connection.session
  keys : after.connection.keys = before.connection.keys
  tasks : after.connection.tasks = before.connection.tasks
  registry :
    after.connection.registry = before.connection.registry
  names : after.connection.names = before.connection.names
  news : after.connection.news = before.connection.news
  isClosed :
    after.connection.isClosed = before.connection.isClosed
  isHeld : after.connection.isHeld = before.connection.isHeld
  waiting : after.waiting = before.waiting

/-
  What a command comes to. A notification is dropped while the
  flag is down, and else is sent on the transport of the
  session. A recipe needs a key and that transport, on which it
  sends all its requests. What is read is read with a single
  request on a new transport, the one after the last that was
  made, or not at all if none can be made. It does not matter
  in what state the connection is.
-/
inductive Serves
    (before : Situation)
    (world : World) :
    Command → Call → Prop where
| ignores
    (message : String)
    (hDown : before.connection.session.isConnected = false) :
    Serves before world (.notify message)
      ⟨[], some (.ok .nothing), before⟩
| notifies
    (message : String)
    (transport : TransportId)
    (answer : Http.Answer)
    (result : Outcome Product)
    (hUp : before.connection.session.isConnected = true)
    (hTransport :
      before.connection.session.transport = some transport)
    (hReports :
      Reports
        [ ⟨ before.connection.notification message,
            .notifying, answer ⟩ ]
        result) :
    Serves before world (.notify message)
      ⟨ [ ⟨ before.connection.notification message,
            .notifying, answer ⟩ ],
        some result,
        ⟨ before.connection.sent transport
            [before.connection.notification message],
          before.waiting ⟩ ⟩
| lacksKey
    (key : String)
    (on : Bool)
    (hKey : Text.trim key = "") :
    Serves before world (.executeRecipe key on)
      ⟨[], some (.error .noDeviceKey), before⟩
| lacksTransport
    (key : String)
    (on : Bool)
    (hKey : Text.trim key ≠ "")
    (hTransport : before.connection.session.transport = none) :
    Serves before world (.executeRecipe key on)
      ⟨[], some (.error .noTransport), before⟩
| executes
    (key : String)
    (on : Bool)
    (transport : TransportId)
    (exchanges : List Exchange)
    (result : Outcome Product)
    (hKey : Text.trim key ≠ "")
    (hTransport :
      before.connection.session.transport = some transport)
    (hFirst :
      exchanges.head?.map Exchange.request =
        some before.connection.config.listingRequest)
    (hReports : Reports exchanges result) :
    Serves before world (.executeRecipe key on)
      ⟨ exchanges, some result,
        ⟨ before.connection.sent transport
            (exchanges.map Exchange.request),
          before.waiting ⟩ ⟩
| cannotRead
    (command : Command)
    (endpoint : Endpoint)
    (errand : Errand)
    (hReads : command.Reads endpoint errand)
    (hCreates : world.creates = false) :
    Serves before world command
      ⟨[], some (.error (.io creationDisabled.message)), before⟩
| reads
    (command : Command)
    (endpoint : Endpoint)
    (errand : Errand)
    (answer : Http.Answer)
    (result : Outcome Product)
    (hReads : command.Reads endpoint errand)
    (hCreates : world.creates = true)
    (hReports :
      Reports
        [ ⟨ .get
              (endpoint.url before.connection.config.brainUrl),
            errand, answer ⟩ ]
        result) :
    Serves before world command
      ⟨ [ ⟨ .get
              (endpoint.url before.connection.config.brainUrl),
            errand, answer ⟩ ],
        some result,
        ⟨ { before.connection.sent
              (before.connection.transports + 1)
              [ .get
                  (endpoint.url
                    before.connection.config.brainUrl) ] with
            transports := before.connection.transports + 1 },
          before.waiting ⟩ ⟩

section Serves

variable {before : Situation}
variable {world : World}
variable {command : Command}
variable {call : Call}

/- Requests are no news. -/
theorem news_sent
    (transport : TransportId)
    (requests : List Http.Request)
    (connection : Connection) :
    (connection.sent transport requests).news =
      connection.news := by
  have hNone :
      (requests.map fun request =>
          Effect.asked transport request).filter
        Effect.isNews = [] := by
    apply List.filter_eq_nil_iff.mpr
    intro effect hMember
    rcases List.mem_map.mp hMember with ⟨request, -, rfl⟩
    exact Bool.false_ne_true
  unfold Connection.news Connection.sent
  rw [List.map_append, List.filter_append, List.map_map]
  exact (congrArg _ hNone).trans (List.append_nil _)

theorem LeavesAlone.refl (situation : Situation) :
    situation.LeavesAlone situation :=
  ⟨rfl, rfl, rfl, rfl, rfl, rfl, rfl, rfl, rfl, rfl⟩

/- Whatever a command comes to, it leaves nothing behind. -/
theorem Serves.leavesAlone
    (h : before.Serves world command call) :
    before.LeavesAlone call.after := by
  cases h with
  | ignores message hDown => exact .refl before
  | lacksKey key on hKey => exact .refl before
  | lacksTransport key on hKey hTransport => exact .refl before
  | cannotRead _ endpoint errand hReads hCreates =>
      exact .refl before
  | notifies message transport answer result hUp hTransport
      hReports =>
      exact
        ⟨rfl, rfl, rfl, rfl, rfl, rfl, news_sent _ _ _, rfl,
          rfl, rfl⟩
  | executes key on transport exchanges result hKey hTransport
      hFirst hReports =>
      exact
        ⟨rfl, rfl, rfl, rfl, rfl, rfl, news_sent _ _ _, rfl,
          rfl, rfl⟩
  | reads _ endpoint errand answer result hReads hCreates
      hReports =>
      exact
        ⟨rfl, rfl, rfl, rfl, rfl, rfl, news_sent _ _ _, rfl,
          rfl, rfl⟩

/- A command that is given is obeyed. -/
theorem call_eq
    (hHeld : before.connection.isHeld = true)
    (world : World)
    (command : Command)
    (replies : List Reply) :
    before.call world command replies =
      let step := before.connection.obey world command
      (proceed before.waiting none step).pursue step.2
        replies := by
  unfold call
  simp only [Situation.after]
  rw [if_pos hHeld]

/- A command that is done at once has done nothing. -/
theorem call_done
    (hHeld : before.connection.isHeld = true)
    {result : Outcome Product}
    (hObey :
      before.connection.obey world command =
        (before.connection, .done result))
    (replies : List Reply) :
    before.call world command replies =
      ⟨[], some result, before⟩ := by
  rw [call_eq hHeld, hObey]
  simp [proceed, pursue]

/- One that asks has its exchanges, and sends no more. -/
theorem exists_call
    (hHeld : before.connection.isHeld = true)
    {connection : Connection}
    {transport : TransportId}
    {request : Http.Request}
    {errand : Errand}
    (hOrdinary : errand.IsOrdinary)
    (hOn : errand.IsOn transport)
    (hObey :
      before.connection.obey world command =
        connection.ask (transport, request) errand)
    {replies : List Reply}
    (hReplies : errand.rounds ≤ replies.length) :
    ∃ answer rest result,
      before.call world command replies =
        ⟨ ⟨request, errand, answer⟩ :: rest,
          some result,
          ⟨ connection.sent transport
              (request :: rest.map Exchange.request),
            before.waiting ⟩ ⟩ ∧
        Reports (⟨request, errand, answer⟩ :: rest) result ∧
          (errand.rounds = 1 → rest = []) := by
  rcases
      exists_pursue hOrdinary hOn
        (connection.record (.asked transport request))
        before.waiting request hReplies with
    ⟨answer, rest, result, hCall, hReports⟩
  rw [Connection.sent_record] at hCall
  refine ⟨answer, rest, result, ?_, hReports⟩
  rw [call_eq hHeld, hObey]
  exact hCall

theorem serves_notify
    (hHeld : before.connection.isHeld = true)
    (hOnline :
      before.connection.session.isConnected = true →
        before.connection.session.transport ≠ none)
    (message : String)
    {replies : List Reply}
    (hReplies : 1 ≤ replies.length) :
    before.Serves world (.notify message)
      (before.call world (.notify message) replies) := by
  have hNotifies :
      before.connection.Notifies message
        (before.connection.obey world (.notify message)) :=
    Connection.notifies_beginNotify hOnline message
  generalize hStep :
      before.connection.obey world (.notify message) = step
    at hNotifies
  cases hNotifies with
  | keepsSilent hDown =>
      rw [call_done hHeld hStep]
      exact .ignores message hDown
  | sends transport hUp hTransport hEnds =>
      have hOrdinary : Errand.notifying.IsOrdinary :=
        ⟨rfl, nofun⟩
      rcases
          exists_call hHeld hOrdinary trivial hStep
            hReplies with
        ⟨answer, rest, result, hCall, hReports, hRest⟩
      cases hRest rfl
      rw [hCall]
      exact
        .notifies message transport answer result hUp
          hTransport hReports

theorem serves_executeRecipe
    (hHeld : before.connection.isHeld = true)
    (key : String)
    (on : Bool)
    {replies : List Reply}
    (hReplies : 2 ≤ replies.length) :
    before.Serves world (.executeRecipe key on)
      (before.call world (.executeRecipe key on) replies) := by
  have hSeeks :
      before.connection.Seeks key on
        (before.connection.obey world
          (.executeRecipe key on)) :=
    before.connection.seeks_beginRecipe key on
  generalize hStep :
      before.connection.obey world (.executeRecipe key on) =
        step
    at hSeeks
  cases hSeeks with
  | blank hKey =>
      rw [call_done hHeld hStep]
      exact .lacksKey key on hKey
  | bare hKey hTransport =>
      rw [call_done hHeld hStep]
      exact .lacksTransport key on hKey hTransport
  | asks transport hKey hTransport =>
      have hOrdinary :
          (Errand.listingRecipes transport key on).IsOrdinary :=
        ⟨rfl, nofun⟩
      rcases
          exists_call hHeld hOrdinary rfl hStep hReplies with
        ⟨answer, rest, result, hCall, hReports, -⟩
      rw [hCall]
      exact
        .executes key on transport _ result hKey hTransport
          rfl hReports

theorem serves_reads
    (hHeld : before.connection.isHeld = true)
    {endpoint : Endpoint}
    {errand : Errand}
    (hReads : command.Reads endpoint errand)
    {replies : List Reply}
    (hReplies : 1 ≤ replies.length) :
    before.Serves world command
      (before.call world command replies) := by
  have hStep :
      before.connection.obey world command =
        before.connection.askAnew world endpoint errand := by
    cases hReads <;> rfl
  have hPlain :
      errand.IsOrdinary ∧
        errand.rounds = 1 ∧ ∀ sender, errand.IsOn sender := by
    cases hReads <;>
      exact ⟨⟨rfl, nofun⟩, rfl, fun _ => trivial⟩
  rcases hPlain with ⟨hOrdinary, hRounds, hOn⟩
  unfold Connection.askAnew Connection.createTransport at hStep
  cases hCreates : world.creates with
  | false =>
      rw [hCreates, if_neg Bool.false_ne_true] at hStep
      rw [call_done hHeld hStep]
      exact .cannotRead command endpoint errand hReads hCreates
  | true =>
      rw [hCreates, if_pos rfl] at hStep
      rcases
          exists_call hHeld hOrdinary (hOn _) hStep
            (hRounds.trans_le hReplies) with
        ⟨answer, rest, result, hCall, hReports, hRest⟩
      cases hRest hRounds
      rw [hCall]
      exact
        .reads command endpoint errand answer result hReads
          hCreates hReports

/- Every command but a closing comes to one of these. -/
theorem serves_call
    (hHeld : before.connection.isHeld = true)
    (hOnline :
      before.connection.session.isConnected = true →
        before.connection.session.transport ≠ none)
    (hCommand : command ≠ .close)
    {replies : List Reply}
    (hReplies : 2 ≤ replies.length) :
    before.Serves world command
      (before.call world command replies) := by
  have hFew : 1 ≤ replies.length := Nat.le_of_succ_le hReplies
  cases command with
  | close => exact absurd rfl hCommand
  | notify message =>
      exact serves_notify hHeld hOnline message hFew
  | executeRecipe key on =>
      exact serves_executeRecipe hHeld key on hReplies
  | systemInfo => exact serves_reads hHeld .info hFew
  | blinkLed => exact serves_reads hHeld .blink hFew
  | logHtml => exact serves_reads hHeld .log hFew

end Serves

/- The answers of a call are those of its replies, in order. -/
theorem answers_pursue
    (situation : Situation)
    (progress : Progress)
    (replies : List Reply) :
    (situation.pursue progress replies).exchanges.map
        Exchange.answer <+:
      replies.map Reply.answer := by
  induction replies generalizing situation progress with
  | nil => cases progress <;> exact List.nil_prefix
  | cons reply replies ih =>
      cases progress with
      | asks request errand =>
          exact List.cons_prefix_cons.mpr ⟨rfl, ih _ _⟩
      | _ => exact List.nil_prefix

end Situation

/-
  A call is frank: if its result is good, so was each of its
  exchanges, and if one of them failed, no other follows and
  the result is the error of that exchange.
-/
structure Call.IsFrank (call : Call) : Prop where
  ok :
    ∀ product,
      call.result = some (.ok product) →
        ∀ exchange ∈ call.exchanges, exchange.Succeeds
  fails :
    ∀ earlier exchange later cause,
      call.exchanges = earlier ++ exchange :: later →
        exchange.FailsWith cause →
          later = [] ∧
            ∃ other,
              call.result = some (.error other) ∧
                exchange.FailsWith other

/- It is if its result is what its exchanges say. -/
theorem Reports.isFrank
    {exchanges : List Exchange}
    {result : Outcome Product}
    (h : Reports exchanges result)
    (after : Situation) :
    Call.IsFrank ⟨exchanges, some result, after⟩ where
  ok product hResult := by
    cases hResult
    cases h with
    | succeeds _ _ hAll => exact hAll
  fails earlier exchange later cause hCut hFails := by
    dsimp only at hCut ⊢
    rw [hCut] at h
    rcases h.eq_nil_of_failsWith hFails with
      ⟨hLater, other, rfl, hOther⟩
    exact ⟨hLater, other, rfl, hOther⟩

/- So is one without any exchange. -/
theorem Call.isFrank_nil
    (result : Option (Outcome Product))
    (after : Situation) :
    Call.IsFrank ⟨[], result, after⟩ where
  ok _ _ := List.forall_mem_nil _
  fails _ _ _ _ hCut := by simp at hCut

theorem Situation.Serves.isFrank
    {before : Situation}
    {world : World}
    {command : Command}
    {call : Call}
    (h : before.Serves world command call) :
    call.IsFrank := by
  cases h with
  | notifies message transport answer result hUp hTransport
      hReports => exact hReports.isFrank _
  | executes key on transport exchanges result hKey hTransport
      hFirst hReports => exact hReports.isFrank _
  | reads _ endpoint errand answer result hReads hCreates
      hReports => exact hReports.isFrank _
  | _ => exact Call.isFrank_nil _ _

/-
  Whatever has happened to a connection, a command that does
  not close it leaves it alone, and reports the first of its
  exchanges that failed. It comes to its end with two replies
  at most, whatever they are.
-/
theorem commands_leave_session_alone
    {config : Config}
    {drive : Drive}
    {connection : Connection}
    (hNew : Connection.new config drive = .ok connection)
    (past : List Occurrence)
    (hHeld : (replay connection past).connection.isHeld = true)
    (world : World)
    {command : Command}
    (hCommand : command ≠ .close)
    {replies : List Reply}
    (hReplies : 2 ≤ replies.length) :
    let before := replay connection past
    let call := before.call world command replies
    before.LeavesAlone call.after ∧
      call.IsFrank ∧
        before.Serves world command call ∧
          call.exchanges.map Exchange.answer <+:
            replies.map Reply.answer := by
  intro before call
  have hServes : before.Serves world command call :=
    Situation.serves_call hHeld
      (hasTransport_replay hNew past).online hCommand hReplies
  exact
    ⟨hServes.leavesAlone, hServes.isFrank, hServes,
      Situation.answers_pursue _ _ _⟩

namespace Sample

/- The connection was closed while it was online. -/
def shut : List Occurrence :=
  .command world .close :: undisturbed

/- The brain refuses the request, and later would not. -/
def refusals : List Reply :=
  [⟨world, .ok ⟨503, "busy"⟩⟩, ⟨world, .ok ⟨200, "\x7b\x7d"⟩⟩]

end Sample

/- A refusal is reported, though the connection is closed. -/
theorem refusal_reported_when_closed :
    (replay Sample.connection Sample.shut).connection.isHeld =
        true ∧
      (replay Sample.connection
            Sample.shut).connection.isClosed =
          true ∧
        (replay Sample.connection Sample.shut).LeavesAlone
            ((replay Sample.connection Sample.shut).call
              Sample.world .systemInfo Sample.refusals).after ∧
          ((replay Sample.connection Sample.shut).call
                Sample.world .systemInfo
                Sample.refusals).exchanges.length =
              1 ∧
            ((replay Sample.connection Sample.shut).call
                Sample.world .systemInfo
                Sample.refusals).result =
              some (.error (.transport 503 "busy")) := by
  have hState :
      (replay Sample.connection Sample.shut).connection.isHeld =
          true ∧
        (replay Sample.connection
              Sample.shut).connection.isClosed =
            true := by
    decide +kernel
  rcases hState with ⟨hHeld, hClosed⟩
  have hCommand : Command.systemInfo ≠ .close := nofun
  have hReplies : 2 ≤ Sample.refusals.length := Nat.le_refl 2
  have hCall :=
    commands_leave_session_alone Sample.new_connection
      Sample.shut hHeld Sample.world hCommand hReplies
  refine ⟨hHeld, hClosed, hCall.1, ?_⟩
  rcases hCall with ⟨-, hFrank, hServes, hAnswers⟩
  generalize replay Sample.connection Sample.shut = before
    at hFrank hServes hAnswers ⊢
  generalize
    before.call Sample.world .systemInfo Sample.refusals = call
    at hFrank hServes hAnswers ⊢
  cases hServes with
  | cannotRead _ endpoint errand hReads hCreates =>
      cases hCreates
  | reads _ endpoint errand answer result hReads hCreates
      hReports =>
      cases (List.cons_prefix_cons.mp hAnswers).1
      rcases
          hFrank.fails [] _ [] _ rfl
            (.refused 503 "busy" (by decide) rfl) with
        ⟨-, other, hResult, hOther⟩
      refine ⟨rfl, ?_⟩
      cases hOther with
      | refused status body hStatus hAnswer =>
          cases hAnswer
          exact hResult
      | lost failure hAnswer => cases hAnswer
      | garbled body text hAnswer hBody => cases hAnswer

end BrainLink
