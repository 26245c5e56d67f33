import PromptRelay.Detail
import PromptRelay.World

/-!
Contract: why settings cannot be loaded, and the texts that say so.

Owns:
- the rules that settings can violate;
- the causes for which loading fails.

Does not own: the checks themselves.
-/

namespace PromptRelay

/-- A rule that settings violate. -/
inductive Violation where
  | unsupportedKind (name : String)
  | unsupportedFormat (name : String)
  | kindMissing
  | serversMissing
  | groupMissing
  | pathMissing
  | pathEmpty
  | timeoutOutOfRange
  | baseUrlWithoutScheme
  | noBackend
  | unknownLevel
deriving DecidableEq, Repr

def Violation.message : Violation → String
  | .unsupportedKind name =>
    "unsupported messenger kind `" ++ name ++ "` (expected kafka|nats)"
  | .unsupportedFormat name =>
    "unsupported log format `" ++ name ++ "` (expected compact|pretty|json)"
  | .kindMissing => "messenger.kind is required (expected kafka|nats)"
  | .serversMissing =>
    "messenger.bootstrap_servers is required when source or sink topics are configured"
  | .groupMissing =>
    "messenger.group_id is required for nats (it names the stream and the durable consumer)"
  | .pathMissing => "prompt.path is required"
  | .pathEmpty => "prompt.path must not be empty"
  | .timeoutOutOfRange => "llm.timeout_secs must be in range 1..=600"
  | .baseUrlWithoutScheme => "llm.openai.base_url must start with http:// or https://"
  | .noBackend =>
    "no completion backend is configured: set ollama_base_url + ollama_model_name " ++
      "or openai_api_key + openai_model_name"
  | .unknownLevel => "logging.level must be one of trace|debug|info|warn|error"

/-- Why settings could not be loaded. -/
inductive SettingsError where
  | unreadableFile (path : String) (cause : ReadError)
  | malformedFile (path : String)
  | missingFile (path : String)
  | missingVariable (name : String)
  | unterminatedExpression
  | unreadableVariable (name value : String)
  | invalid (violation : Violation)
deriving DecidableEq, Repr

def SettingsError.message : SettingsError → String
  | .unreadableFile path cause =>
    "could not read config file `" ++ path ++ "`: " ++ cause.message
  | .malformedFile path => "could not parse config file `" ++ path ++ "`: " ++ detail
  | .missingFile path => "required config file was not found: `" ++ path ++ "`"
  | .missingVariable name =>
    "environment variable interpolation failed for `" ++ name ++ "`"
  | .unterminatedExpression => "unterminated environment interpolation expression"
  | .unreadableVariable name value =>
    "invalid environment override for `" ++ name ++ "`: `" ++ value ++ "`"
  | .invalid violation => "configuration validation failed: " ++ violation.message

end PromptRelay
