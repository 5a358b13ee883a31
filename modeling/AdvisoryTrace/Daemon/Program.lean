import AdvisoryTrace.Daemon.Startup
import AdvisoryTrace.Daemon.EnvFile

/-!
# The daemon program

A run of the daemon reads its settings from its command line and environment, opens its task
store, then wires its pipeline; the first of these that fails ends the run. Otherwise it
serves until it is interrupted, and then ends well, having logged nothing when logging is off.
-/

namespace AdvisoryTrace.Daemon

/-- What a run of the daemon starts serving with: its settings, its wiring and its store; or
how it ended before serving. -/
def launch (env : String → Option String) (words : List String) (d : Disk) :
    Except Exit (Config × Setup × TaskStore) := do
  let config ← (Config.read env words).mapError Exit.ofRefusal
  let store ← (openStore config.databaseUrl).mapError Exit.ofTrouble
  let setup ← (Setup.ofConfig config d).mapError Exit.ofTrouble
  return (config, setup, store)

/-- How a run that served ends when it is interrupted. -/
def interrupted : Exit := Exit.success "" ""

end AdvisoryTrace.Daemon
