import BrainLink.Http.Response

/-
  The errors of a session with a brain.

  Key definitions include:
    * `Cause`
    * `Cause.message`
    * `Cause.isRetryable`
    * `Cause.isCommunication`
    * `Cause.ofFailure`
    * `Http.accept`
-/

namespace BrainLink

/- What went wrong, one constructor for each cause. -/
inductive Cause where
| transport (status : Nat) (body : String)
| io (text : String)
| precondition (text : String)
| interrupted
| parse (text : String)
| configuration (text : String)
deriving DecidableEq, Repr

namespace Cause

/- The wording of each cause. -/
def message : Cause → String
| .transport status body =>
    "Brain returned HTTP " ++ toString status ++ ": " ++ body
| .io text => "I/O error: " ++ text
| .precondition text => "Precondition failed: " ++ text
| .interrupted => "Operation interrupted"
| .parse text => "Failed to parse brain response: " ++ text
| .configuration text => "Configuration error: " ++ text

/- All but an interruption may go better the next time. -/
def isRetryable : Cause → Bool
| .interrupted => false
| _ => true

/- The brain answered with a refusal, or not at all. -/
def isCommunication : Cause → Bool
| .transport _ _ => true
| .io _ => true
| _ => false

/- A request without an answer is an input-output error. -/
def ofFailure (failure : Http.Failure) : Cause :=
  .io failure.message

/- The session has no transport to send a request with. -/
def noTransport : Cause :=
  .precondition "No transport available"

/- The session has no callback URL to register. -/
def noCallbackUrl : Cause :=
  .precondition "Callback URL has not been set"

/- The request names no device. -/
def noDeviceKey : Cause :=
  .precondition "Device key cannot be empty"

/- A project without the object that lists its rooms. -/
def noRooms : Cause :=
  .parse "Project has no rooms object"

/- A body that is no JSON text of the expected shape. -/
def badJson : Cause :=
  .parse "unexpected JSON"

end Cause

/- The result of an operation on a session. -/
abbrev Outcome (α : Type) :=
  Except Cause α

/- The body of an answer that reports success. -/
def Http.accept : Http.Answer → Outcome String
| .error failure => .error (Cause.ofFailure failure)
| .ok response =>
    if response.isOk then
      .ok response.body
    else
      .error (.transport response.status response.body)

/- Only an answer with status 200 is accepted. -/
theorem Http.accept_eq_ok_iff
    {answer : Http.Answer}
    {body : String} :
    accept answer = .ok body ↔ answer = .ok ⟨200, body⟩ := by
  unfold accept
  constructor
  · intro hAnswer
    split at hAnswer
    · cases hAnswer
    · rename_i response
      split at hAnswer
      · rename_i hOk
        cases hAnswer
        rw [← beq_iff_eq.mp hOk]
      · cases hAnswer
  · rintro rfl
    rfl

end BrainLink
