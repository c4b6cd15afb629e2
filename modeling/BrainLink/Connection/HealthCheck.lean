import BrainLink.Connection.Errand

/-
  One health check: probe the brain, and go offline and
  connect again if it cannot be reached.

  Key definitions include:
    * `Connection.beginCheck`
    * `Connection.afterProbe`
-/

namespace BrainLink.Connection

/- Probe the brain, unless the check was cancelled. -/
def beginCheck
    (task : TaskId)
    (connection : Connection) :
    Connection × Progress :=
  if connection.isCancelled task then
    (connection, .over)
  else
    ( connection.record
        (.probed
          connection.config.brainHost
          connection.config.brainPort
          connection.config.probeTimeout),
      .probes task )

/- The probe is over. -/
def afterProbe
    (world : World)
    (task : TaskId)
    (isReachable : Bool)
    (connection : Connection) :
    Connection × Progress :=
  if isReachable || connection.isCancelled task then
    (connection, .over)
  else
    ( ((connection.goOffline world).clearCheck).scheduleConnect,
      .over )

end BrainLink.Connection
