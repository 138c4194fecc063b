import PromptStudio.Text.Blank
import PromptStudio.Text.Numeral

/-!
# Configuration

The configuration is read from environment variables, of which one is required. The first
variable that is missing or malformed, in the order of the fields, is the fault.
-/

namespace PromptStudio

/-- The settings of the service. -/
structure Config where
  databaseUrl : String
  cacheUrl : Option String
  listenOn : Nat
  logFilter : String
  timeoutSecs : Nat
  userAgent : String
  pruneSecs : Nat
  deriving DecidableEq, Repr

namespace Config

/-- A setting that is a whole number: its variable, its limit, its value where the variable is
not set, and what is said of a text that is none. -/
structure Whole where
  name : String
  limit : Nat
  standard : Nat
  rule : String

def listenOnSetting : Whole :=
  ⟨"PORT", 65536, 8080, "PORT must be a valid port number"⟩

def timeoutSetting : Whole :=
  ⟨"UPSTREAM_TIMEOUT_SECS", Text.Numeral.limit64, 10,
    "UPSTREAM_TIMEOUT_SECS must be a whole number of seconds"⟩

def pruneSetting : Whole :=
  ⟨"RATE_LIMIT_PRUNE_SECS", Text.Numeral.limit64, 300,
    "RATE_LIMIT_PRUNE_SECS must be a whole number of seconds"⟩

/-- Why there is no configuration. -/
inductive Fault where
  | missing (name : String)
  | malformed (setting : Whole) (fault : Text.Numeral.Fault)

def Fault.message : Fault → String
  | missing name =>
    "Required environment variable '" ++ name ++ "' is not set: " ++
      "environment variable not found"
  | malformed setting fault => setting.rule ++ ": " ++ fault.message

/-- The value of a setting. White space around it does not matter. -/
def Whole.read (setting : Whole) (env : String → Option String) : Except Fault Nat :=
  match env setting.name with
  | none => .ok setting.standard
  | some s =>
    match Text.Numeral.readNat setting.limit (Text.trimChars s.toList) with
    | .ok n => .ok n
    | .error e => .error (.malformed setting e)

def standardUserAgent : String := "VolcanoVirtuoso/1.0 (+https://example.invalid)"

def required (env : String → Option String) (name : String) : Except Fault String :=
  match env name with
  | some s => .ok s
  | none => .error (.missing name)

/-- The configuration of an environment. -/
def ofEnvironment (env : String → Option String) : Except Fault Config := do
  let databaseUrl ← required env "DATABASE_URL"
  let listenOn ← listenOnSetting.read env
  let timeoutSecs ← timeoutSetting.read env
  let pruneSecs ← pruneSetting.read env
  return {
    databaseUrl
    cacheUrl := (env "REDIS_URL").filter (· != "")
    listenOn
    logFilter := (env "RUST_LOG").getD "info"
    timeoutSecs
    userAgent := (env "UPSTREAM_USER_AGENT").getD standardUserAgent
    pruneSecs }

end Config
end PromptStudio
