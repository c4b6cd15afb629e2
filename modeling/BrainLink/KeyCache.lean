import BrainLink.DeviceKeys
import BrainLink.Endpoint

/-
  The cache of device keys: the last listing that could be
  read, kept until a newer one can.

  Key definitions include:
    * `KeyCache.request`
    * `KeyCache.update`
-/

namespace BrainLink.KeyCache

/- The request that refreshes the keys. -/
def request (brainUrl : String) : Http.Request :=
  .get (Endpoint.home.url brainUrl)

/-
  The keys once a refresh was answered, and its result. They
  stay as they are unless the answer has others.
-/
def update
    (keys : DeviceKeys)
    (answer : Http.Answer) :
    DeviceKeys × Outcome Unit :=
  match DeviceKeys.ofAnswer answer with
  | .ok keys => (keys, .ok ())
  | .error cause => (keys, .error cause)

end BrainLink.KeyCache
