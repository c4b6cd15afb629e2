import BrainLink.KeyCache

/-
  A cache of device keys on trial: the snapshots that it has
  handed out, and the requests that it has sent.

  Key definitions include:
    * `Refresh`
    * `Shelf`
    * `Shelf.refresh`
    * `Shelf.read?`

  Nobody writes to a snapshot. A refresh that brings new keys
  puts them on the shelf beside the old ones, and who holds an
  old snapshot goes on reading that.
-/

namespace BrainLink

------------------------------------------------------------
-- Refreshes
------------------------------------------------------------

/- A refresh: where the brain is, and what its answers are. -/
structure Refresh where
  brainUrl : String
  transport : Http.Request → Http.Answer

namespace Refresh

/- The request that a refresh sends. -/
def request (refresh : Refresh) : Http.Request :=
  KeyCache.request refresh.brainUrl

/- And the answer to it. -/
def answer (refresh : Refresh) : Http.Answer :=
  refresh.transport refresh.request

end Refresh

------------------------------------------------------------
-- Shelves
------------------------------------------------------------

/- A snapshot is known by how many were made before it. -/
abbrev SnapshotId :=
  Nat

/-
  The snapshots that were replaced, oldest first, the latest
  one, and the requests so far.
-/
structure Shelf where
  replaced : List DeviceKeys
  latest : DeviceKeys
  calls : List Http.Request

namespace Shelf

/- Before the first refresh there are no keys. -/
def empty : Shelf :=
  ⟨[], .empty, []⟩

/- All snapshots, oldest first. -/
def snapshots (shelf : Shelf) : List DeviceKeys :=
  shelf.replaced ++ [shelf.latest]

/- Hand out the latest snapshot. -/
def get (shelf : Shelf) : SnapshotId :=
  shelf.replaced.length

/- The keys in a snapshot that was handed out. -/
def read? (shelf : Shelf) (id : SnapshotId) :
    Option DeviceKeys :=
  shelf.snapshots[id]?

/- Ask the brain for its keys; tells how that went. -/
def refresh
    (shelf : Shelf)
    (call : Refresh) :
    Shelf × Outcome Unit :=
  let update := KeyCache.update shelf.latest call.answer
  let shelf : Shelf :=
    { replaced :=
        match update.2 with
        | .ok _ => shelf.snapshots
        | .error _ => shelf.replaced
      latest := update.1
      calls := shelf.calls ++ [call.request] }
  (shelf, update.2)

end Shelf

end BrainLink
