/-!
Contract: the settings of the relay and their defaults.

Owns:
- the kinds of messenger and the formats of log lines;
- the settings of the messenger, the prompt, the completion backends and the
  log, each with the value it has when nothing sets it.

Does not own: where settings come from and which of them are acceptable.
-/

namespace PromptRelay

inductive MessengerKind where
  | kafka
  | nats
deriving DecidableEq, Repr

def MessengerKind.name : MessengerKind → String
  | .kafka => "kafka"
  | .nats => "nats"

inductive LogFormat where
  | compact
  | pretty
  | json
deriving DecidableEq, Repr

def LogFormat.name : LogFormat → String
  | .compact => "compact"
  | .pretty => "pretty"
  | .json => "json"

structure MessengerSettings where
  kind : Option MessengerKind := none
  servers : List String := []
  clientId : Option String := none
  groupId : Option String := none
  sources : List String := []
  sinks : List String := []
  /-- How many messages a batch is to have. -/
  sourceMinimum : Nat := 1
  /-- Read but not enforced. -/
  sourceMaximum : Option Nat := none
  /-- How many answers are asked for per batch. -/
  sinkMinimum : Nat := 1
  /-- Read but not enforced. -/
  sinkMaximum : Option Nat := none
deriving DecidableEq, Repr

structure PromptSettings where
  path : Option String := none
  isVerbose : Bool := false
deriving DecidableEq, Repr

structure OllamaSettings where
  baseUrl : Option String := none
  modelName : Option String := none
deriving DecidableEq, Repr

def defaultOpenAiBaseUrl : String := "https://api.openai.com/v1"

structure OpenAiSettings where
  apiKey : Option String := none
  baseUrl : String := defaultOpenAiBaseUrl
  modelName : Option String := none
deriving DecidableEq, Repr

structure CompletionSettings where
  timeoutSeconds : Nat := 300
  ollama : OllamaSettings := {}
  openAi : OpenAiSettings := {}
deriving DecidableEq, Repr

structure LogSettings where
  level : String := "info"
  format : LogFormat := .compact
deriving DecidableEq, Repr

structure Settings where
  messenger : MessengerSettings := {}
  prompt : PromptSettings := {}
  completion : CompletionSettings := {}
  log : LogSettings := {}
deriving DecidableEq, Repr

end PromptRelay
