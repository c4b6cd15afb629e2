/-
  The paths of a brain's interface.

  Key definitions include:
    * `Endpoint`
    * `Endpoint.path`
    * `Endpoint.url`
-/

namespace BrainLink

/- What a brain can be asked for. -/
inductive Endpoint where
| register
| unregister
| notifications
| home
| recipes
| systemInfo
| blink
| log
deriving DecidableEq, Repr

namespace Endpoint

/- The path of each request. -/
def path : Endpoint → String
| .register => "/v1/api/registerSdkAdapter"
| .unregister => "/v1/api/unregisterSdkAdapter"
| .notifications => "/v1/notifications"
| .home => "/v1/projects/home"
| .recipes => "/v1/projects/home/recipes"
| .systemInfo => "/v1/systeminfo"
| .blink => "/v1/systeminfo/identbrain"
| .log => "/v1/systeminfo/getlog"

/- The URL of a request to a brain. -/
def url (endpoint : Endpoint) (brainUrl : String) : String :=
  brainUrl ++ endpoint.path

/- All of them. -/
def all : List Endpoint :=
  [ .register, .unregister, .notifications, .home, .recipes,
    .systemInfo, .blink, .log ]

end Endpoint

end BrainLink
