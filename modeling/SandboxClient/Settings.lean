import SandboxClient.Config
import SandboxClient.Environment
import SandboxClient.Log.Registry

/-!
# Settings

The configurations that the environment decides.  A startup timeout that is not a number is replaced
by the default one, with a warning.
-/

namespace SandboxClient

namespace Settings

/-- The root address of the service. -/
def baseUrl (environment : Environment) : Bytes :=
  environment.valueD (utf8 "ROCK_BASE_URL") (utf8 "http://localhost:8080")

def startupTimeoutName : Bytes := utf8 "ROCK_SANDBOX_STARTUP_TIMEOUT_SECONDS"

/-- The startup timeout in seconds that a text does not decide. -/
def defaultStartupTimeout : Int := 180

def startupTimeout (environment : Environment) : Program Int :=
  let text := environment.valueD startupTimeoutName (Text.integer defaultStartupTimeout)
  match Numeral.readInt32 text with
  | .ok seconds => .done seconds
  | .error _ => do
    .log Log.defaultName .warning
      (utf8 "Invalid " ++ startupTimeoutName ++ utf8 " '" ++ text ++ utf8 "', using " ++
        Text.integer defaultStartupTimeout)
    return defaultStartupTimeout

/-- The directory of the log file. -/
def loggingDirectory (environment : Environment) : Bytes :=
  environment.valueD (utf8 "ROCK_LOGGING_PATH") []

def loggingFileName (environment : Environment) : Bytes :=
  environment.valueD (utf8 "ROCK_LOGGING_FILE_NAME") (utf8 "rocklet.log")

/-- The level of loggers, as a text. -/
def loggingLevel (environment : Environment) : Bytes :=
  environment.valueD (utf8 "ROCK_LOGGING_LEVEL") (utf8 "INFO")

/-- How loggers are set up. -/
def logging (environment : Environment) : LoggingConfig where
  level := loggingLevel environment
  directory := loggingDirectory environment
  fileName := loggingFileName environment

def sandbox (environment : Environment) : Program SandboxConfig := do
  let startupTimeout ← startupTimeout environment
  return { baseUrl := baseUrl environment, startupTimeout }

def group (environment : Environment) : Program GroupConfig := do
  return { sandbox := ← sandbox environment }

end Settings

end SandboxClient
