/-
  HTTP requests, their answers, and the ways to get none.

  Key definitions include:
    * `Http.Method`
    * `Http.Request`
    * `Http.Response`
    * `Http.Failure`
    * `Http.Answer`
-/

namespace BrainLink.Http

/- The two kinds of request that a brain is asked with. -/
inductive Method where
| get
| post
deriving DecidableEq, Repr

/- The name of a method in a request. -/
def Method.name : Method → String
| .get => "GET"
| .post => "POST"

/- A request: how, where, and with what body. -/
structure Request where
  method : Method
  url : String
  body : Option String
deriving DecidableEq, Repr

/- A request for what a URL names. -/
def Request.get (url : String) : Request :=
  ⟨.get, url, none⟩

/- A request that hands a body to a URL. -/
def Request.post (url body : String) : Request :=
  ⟨.post, url, some body⟩

/- A status code with the text of the body. -/
structure Response where
  status : Nat
  body : String
deriving DecidableEq, Repr

/- A brain reports success by status 200 and no other. -/
def Response.isOk (response : Response) : Bool :=
  response.status == 200

/- Why a request was left without an answer. -/
inductive Failure where
| network (cause : String)
| timeout (cause : String)
| client (cause : String)
deriving DecidableEq, Repr

/- The wording of each failure. -/
def Failure.message : Failure → String
| .network cause => "Network/HTTP error: " ++ cause
| .timeout cause => "Request timed out: " ++ cause
| .client cause => "HTTP client error: " ++ cause

/- What a request comes to. -/
abbrev Answer :=
  Except Failure Response

end BrainLink.Http
