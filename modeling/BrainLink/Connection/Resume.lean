import BrainLink.Connection.Attempt
import BrainLink.Connection.Command
import BrainLink.Connection.HealthCheck

/-
  Going on with an errand once its answer is there.

  Key definitions include:
    * `Connection.runJob`
    * `Connection.resume`
-/

namespace BrainLink.Connection

/- Run the job of a task as far as can be without an answer. -/
def runJob
    (world : World)
    (task : TaskId)
    (connection : Connection) :
    Connection × Progress :=
  match connection.tasks.task? task with
  | none => (connection, .over)
  | some { job := .connect, .. } =>
      connection.beginAttempt world task
  | some { job := .checkHealth, .. } =>
      connection.beginCheck task

/- A command ends with what comes of the answer. -/
def conclude
    {α : Type}
    (connection : Connection)
    (product : α → Product)
    (result : Outcome α) :
    Connection × Progress :=
  (connection, .done (result.map product))

/- Go on with an errand. -/
def resume
    (world : World)
    (errand : Errand)
    (answer : Http.Answer)
    (connection : Connection) :
    Connection × Progress :=
  match errand with
  | .unregistering task transport =>
      connection.afterUnregister world task transport answer
  | .registering task transport =>
      connection.afterRegister world task transport answer
  | .fetchingKeys task _ =>
      connection.afterKeys world task answer
  | .closing => connection.afterFarewell world
  | .notifying =>
      connection.conclude (fun _ => .nothing) (Http.accept answer)
  | .listingRecipes transport key on =>
      connection.afterListing transport key on answer
  | .runningRecipe =>
      connection.conclude (fun _ => .nothing) (Http.accept answer)
  | .readingInfo =>
      connection.conclude .systemInfo (SystemInfo.ofAnswer answer)
  | .blinking =>
      connection.conclude (fun _ => .nothing) (Http.accept answer)
  | .readingLog =>
      connection.conclude .html (Log.ofAnswer answer)

end BrainLink.Connection
