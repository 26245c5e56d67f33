import PromptRelay.Text.Letters

/-!
Contract: the twenty settings by name.

Owns:
- the enumeration, in the order in which variables are read;
- the path of a setting in a settings file, and the two names of its variable.

Does not own: the values of settings.
-/

namespace PromptRelay

inductive Setting where
  | kind
  | servers
  | clientId
  | groupId
  | sources
  | sinks
  | sourceMinimum
  | sourceMaximum
  | sinkMinimum
  | sinkMaximum
  | promptPath
  | verbose
  | ollamaBaseUrl
  | ollamaModelName
  | openAiApiKey
  | openAiBaseUrl
  | openAiModelName
  | timeoutSeconds
  | logLevel
  | logFormat
deriving DecidableEq, Repr

namespace Setting

/-- The name of the variable that sets it, in capitals. -/
def variableName : Setting → String
  | .kind => "MESSENGER_KIND"
  | .servers => "MESSENGER_BOOTSTRAP_SERVERS"
  | .clientId => "MESSENGER_CLIENT_ID"
  | .groupId => "MESSENGER_GROUP_ID"
  | .sources => "MESSENGER_TOPIC_SRC"
  | .sinks => "MESSENGER_TOPIC_SINK"
  | .sourceMinimum => "MESSENGER_SRC_COUNT_MIN"
  | .sourceMaximum => "MESSENGER_SRC_COUNT_MAX"
  | .sinkMinimum => "MESSENGER_SINK_COUNT_MIN"
  | .sinkMaximum => "MESSENGER_SINK_COUNT_MAX"
  | .promptPath => "PROMPT_PATH"
  | .verbose => "VERBOSE"
  | .ollamaBaseUrl => "OLLAMA_BASE_URL"
  | .ollamaModelName => "OLLAMA_MODEL_NAME"
  | .openAiApiKey => "OPENAI_API_KEY"
  | .openAiBaseUrl => "OPENAI_BASE_URL"
  | .openAiModelName => "OPENAI_MODEL_NAME"
  | .timeoutSeconds => "H2PC_LLM_TIMEOUT_SECS"
  | .logLevel => "H2PC_LOG_LEVEL"
  | .logFormat => "H2PC_LOG_FORMAT"

/-- The name of the variable in small letters, which is looked at second. -/
def smallVariableName (setting : Setting) : String :=
  Text.lowered setting.variableName

/-- The keys that lead to it in a settings file. -/
def path : Setting → List String
  | .kind => ["messenger", "kind"]
  | .servers => ["messenger", "bootstrap_servers"]
  | .clientId => ["messenger", "client_id"]
  | .groupId => ["messenger", "group_id"]
  | .sources => ["messenger", "topic_src"]
  | .sinks => ["messenger", "topic_sink"]
  | .sourceMinimum => ["messenger", "src_count_min"]
  | .sourceMaximum => ["messenger", "src_count_max"]
  | .sinkMinimum => ["messenger", "sink_count_min"]
  | .sinkMaximum => ["messenger", "sink_count_max"]
  | .promptPath => ["prompt", "path"]
  | .verbose => ["prompt", "verbose"]
  | .ollamaBaseUrl => ["llm", "ollama", "base_url"]
  | .ollamaModelName => ["llm", "ollama", "model_name"]
  | .openAiApiKey => ["llm", "openai", "api_key"]
  | .openAiBaseUrl => ["llm", "openai", "base_url"]
  | .openAiModelName => ["llm", "openai", "model_name"]
  | .timeoutSeconds => ["llm", "timeout_secs"]
  | .logLevel => ["logging", "level"]
  | .logFormat => ["logging", "format"]

end Setting

end PromptRelay
