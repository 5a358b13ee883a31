import AdvisoryTrace.CommandLine.Parse
import AdvisoryTrace.Text.Blank

/-!
# Daemon settings

The daemon is configured by its command line, and each option it is not given comes from its
environment variable, then from its default. Settings are then tidied: a blank database
location or model key counts as none, and at least one worker and one queued job are allowed.
-/

namespace AdvisoryTrace.Daemon

open CommandLine

/-- The daemon's command line. -/
def command : Command where
  name := "tracer-daemon"
  about := "RustSec advisory call-chain tracer daemon"
  version := some "0.1.0"
  options := [
    { id := "listen", long := "listen", valueName := some "LISTEN", kind := .socketAddr,
      help := "Where the HTTP API will listen, e.g. 127.0.0.1:8000", env := some "TRACER_LISTEN",
      default := some "127.0.0.1:8000" },
    { id := "database_url", long := "database-url", valueName := some "DATABASE_URL",
      help := "Task store location (\x60surrealkv://<dir>\x60 or \x60mem://\x60). In-process map when unset",
      env := some "DATABASE_URL" },
    { id := "repo_cache_dir", long := "repo-cache-dir", valueName := some "REPO_CACHE_DIR",
      kind := .path, help := "Directory holding cloned advisory repositories",
      env := some "REPO_CACHE_DIR", default := some "./repo_cache" },
    { id := "export_dir", long := "export-dir", valueName := some "EXPORT_DIR", kind := .path,
      help := "Directory for export files. Defaults to the system temp dir", env := some "EXPORT_DIR" },
    { id := "advisory_catalog", long := "advisory-catalog", valueName := some "ADVISORY_CATALOG",
      kind := .path, help := "TOML advisory catalog mapping ids to repository, commit and test",
      env := some "ADVISORY_CATALOG" },
    { id := "git_bin", long := "git-bin", valueName := some "GIT_BIN", kind := .path,
      help := "Git executable", env := some "GIT_BIN", default := some "git" },
    { id := "git_timeout_secs", long := "git-timeout-secs", valueName := some "GIT_TIMEOUT_SECS",
      kind := .count, help := "Timeout for a single git invocation", env := some "GIT_TIMEOUT_SECS",
      default := some "600" },
    { id := "max_chain_depth", long := "max-chain-depth", valueName := some "MAX_CHAIN_DEPTH",
      kind := .count, help := "Maximum depth followed by the static analyzer",
      env := some "MAX_CHAIN_DEPTH", default := some "32" },
    { id := "openai_api_key", long := "openai-api-key", valueName := some "OPENAI_API_KEY",
      help := "API key for the OpenAI-compatible model endpoint. Model step is disabled when unset",
      env := some "OPENAI_API_KEY", hideEnvValue := true },
    { id := "model_base_url", long := "model-base-url", valueName := some "MODEL_BASE_URL",
      env := some "MODEL_BASE_URL", default := some "https://api.openai.com/v1" },
    { id := "model_name", long := "model", valueName := some "MODEL_NAME",
      env := some "MODEL_NAME", default := some "gpt-4o-mini" },
    { id := "model_timeout_secs", long := "model-timeout-secs", valueName := some "MODEL_TIMEOUT_SECS",
      kind := .count, env := some "MODEL_TIMEOUT_SECS", default := some "60" },
    { id := "allow_static_only", long := "allow-static-only",
      help := "Complete items from the static chain alone when the model is unavailable",
      env := some "ALLOW_STATIC_ONLY", default := some "false" },
    { id := "workers", long := "workers", valueName := some "WORKERS", kind := .count,
      help := "Number of concurrent analysis workers", env := some "TRACER_WORKERS",
      default := some "2" },
    { id := "queue_capacity", long := "queue-capacity", valueName := some "QUEUE_CAPACITY",
      kind := .count, help := "Pending jobs accepted before submissions are rejected",
      env := some "TRACER_QUEUE_CAPACITY", default := some "64" },
    { id := "debug_save_path", long := "debug-save-path", valueName := some "DEBUG_SAVE_PATH",
      kind := .path, help := "Overwrite this file with every completed chain (debugging aid)",
      env := some "DEBUG_SAVE_PATH" },
    { id := "log", long := "log", valueName := some "LOG",
      help := "Log level (env-filter syntax). \x60RUST_LOG\x60 takes precedence", env := some "TRACER_LOG",
      default := some "info" }]

/-- Where the model is reached and how long it may take. -/
structure ModelSettings where
  apiKey : Option String
  baseUrl : String
  model : String
  timeoutSecs : Nat
  deriving BEq, Repr

/-- The daemon's settings. -/
structure Config where
  listen : Net.SocketAddr
  databaseUrl : Option String
  repoCacheDir : String
  /-- The directory for exports; none for the system's temporary directory. -/
  exportDir : Option String
  advisoryCatalog : Option String
  gitBin : String
  gitTimeoutSecs : Nat
  maxChainDepth : Nat
  model : ModelSettings
  allowStaticOnly : Bool
  workers : Nat
  queueCapacity : Nat
  debugSavePath : Option String
  log : String
  deriving BEq, Repr

/-- A text that is not blank. -/
def nonBlank (s : Option String) : Option String :=
  s.filter (!Text.isBlankText ·)

/-- The settings from what the command line received (every value already checked). -/
def Config.ofReceived (r : Received) : Config :=
  let text := fun id => (r.value? id).getD ""
  let number := fun id => match readUnsigned (text id) with | .ok n => n | .error _ => 0
  { listen := (Net.SocketAddr.parse? (text "listen")).getD (.v4 [127, 0, 0, 1] 8000)
    databaseUrl := nonBlank (r.value? "database_url")
    repoCacheDir := text "repo_cache_dir"
    exportDir := r.value? "export_dir"
    advisoryCatalog := r.value? "advisory_catalog"
    gitBin := text "git_bin"
    gitTimeoutSecs := number "git_timeout_secs"
    maxChainDepth := number "max_chain_depth"
    model := { apiKey := nonBlank (r.value? "openai_api_key"), baseUrl := text "model_base_url",
               model := text "model_name", timeoutSecs := number "model_timeout_secs" }
    allowStaticOnly := text "allow_static_only" == "true"
    workers := max 1 (number "workers")
    queueCapacity := max 1 (number "queue_capacity")
    debugSavePath := r.value? "debug_save_path"
    log := text "log" }

/-- Reads the daemon's settings from its command line (the words after its name) and its
environment. -/
def Config.read (env : String → Option String) (words : List String) : Except Refusal Config := do
  let received ← command.read env words
  match received with
  | r :: _ => return Config.ofReceived r
  | [] => return Config.ofReceived ⟨command.name, []⟩

end AdvisoryTrace.Daemon
