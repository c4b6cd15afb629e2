import BrainLink.Connection.Errand
import BrainLink.Log.Html

/-
  Commands: what the owner of a connection can ask for.

  Key definitions include:
    * `Command`
    * `Connection.obey`
    * `Connection.afterListing`
    * `Connection.afterFarewell`
-/

namespace BrainLink

/- The commands that may have to wait for an answer. -/
inductive Command where
| close
| notify (message : String)
| executeRecipe (key : String) (on : Bool)
| systemInfo
| blinkLed
| logHtml
deriving DecidableEq, Repr

namespace Connection

/- Send a request on the transport of the session. -/
def askInSession
    (connection : Connection)
    (request : Http.Request)
    (errand : TransportId → Errand) :
    Connection × Progress :=
  match connection.session.send? request with
  | .error cause => (connection, .done (.error cause))
  | .ok sending => connection.ask sending (errand sending.1)

/- Read something on a transport of its own. -/
def askAnew
    (world : World)
    (connection : Connection)
    (endpoint : Endpoint)
    (errand : Errand) :
    Connection × Progress :=
  match connection.createTransport world with
  | .error cause => (connection, .done (.error cause))
  | .ok (connection, transport) =>
      connection.ask
        (transport,
          .get (endpoint.url connection.config.brainUrl))
        errand

/- Begin to close. -/
def beginClose
    (world : World)
    (connection : Connection) :
    Connection × Progress :=
  if connection.isClosed then
    (connection, .over)
  else
    let sending := connection.farewell
    let connection := connection.shut
    match sending with
    | .ok (some sending) => connection.ask sending .closing
    | _ => (connection.endClose (goOffline world), .over)

/- The brain has answered to the farewell, in whatever way. -/
def afterFarewell
    (world : World)
    (connection : Connection) :
    Connection × Progress :=
  (connection.endClose (goOffline world), .over)

/- Notify a brain that is connected; else nothing happens. -/
def beginNotify
    (connection : Connection)
    (message : String) :
    Connection × Progress :=
  if connection.session.isConnected then
    connection.askInSession
      (.post
        (Endpoint.notifications.url connection.config.brainUrl)
        message)
      fun _ => .notifying
  else
    (connection, .over)

/- Ask for the recipes, to find the one to execute. -/
def beginRecipe
    (connection : Connection)
    (key : String)
    (on : Bool) :
    Connection × Progress :=
  if Text.isBlankText key then
    (connection, .done (.error .noDeviceKey))
  else
    connection.askInSession
      (.get (Endpoint.recipes.url connection.config.brainUrl))
      fun transport => .listingRecipes transport key on

/- Execute the recipe of a key, if the listing has it. -/
def afterListing
    (transport : TransportId)
    (key : String)
    (on : Bool)
    (answer : Http.Answer)
    (connection : Connection) :
    Connection × Progress :=
  match Recipe.ofAnswer answer with
  | .error cause => (connection, .done (.error cause))
  | .ok recipes =>
      match Recipe.find? recipes key with
      | none => (connection, .over)
      | some recipe =>
          match recipe.action? on with
          | none => (connection, .over)
          | some action =>
              connection.ask
                (transport,
                  .get
                    (resolveAction
                      connection.config.brainUrl action))
                .runningRecipe

/- Obey a command as far as can be without an answer. -/
def obey
    (world : World)
    (command : Command)
    (connection : Connection) :
    Connection × Progress :=
  match command with
  | .close => connection.beginClose world
  | .notify message => connection.beginNotify message
  | .executeRecipe key on => connection.beginRecipe key on
  | .systemInfo =>
      askAnew world connection .systemInfo .readingInfo
  | .blinkLed => askAnew world connection .blink .blinking
  | .logHtml => askAnew world connection .log .readingLog

end Connection

end BrainLink
