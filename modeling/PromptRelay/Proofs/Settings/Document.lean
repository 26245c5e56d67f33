import Mathlib.Data.List.Basic
import PromptRelay.Proofs.Settings.Writing

/-!
Contract: the settings that a TOML document provides.

Owns:
- the value at the path of a setting, through records of either form;
- that a document with a layer provides exactly the settings whose paths lead to a
  value, and each with that value read;
- that a document has a layer if and only if all that can be read in it has its form.

Does not own: the text of a document, and what the values of settings look like.
-/

namespace PromptRelay

/-- The keys of the record at a place, as declared. -/
def recordKeys : (place : List String) → List String
  | [] => ["messenger", "prompt", "llm", "logging"]
  | ["messenger"] =>
      ["kind", "bootstrap_servers", "client_id", "group_id", "topic_src", "topic_sink",
        "src_count_min", "src_count_max", "sink_count_min", "sink_count_max"]
  | ["prompt"] => ["path", "verbose"]
  | ["llm"] => ["timeout_secs", "ollama", "openai"]
  | ["llm", "ollama"] => ["base_url", "model_name"]
  | ["llm", "openai"] => ["api_key", "base_url", "model_name"]
  | ["logging"] => ["level", "format"]
  | _ => []

/-- The value at the end of a path that starts at a place. -/
def valueAt? (place : List String) : (path : List String) → Toml.Value → Option Toml.Value
  | [], value => some value
  | key :: path, value => do
    let members ← recordOf? (recordKeys place) value
    valueAt? (place ++ [key]) path (← members.lookup key)

/-- The value of a setting in what is written at a place, if its path goes there. -/
def Setting.within? (setting : Setting) (place : List String) (value : Toml.Value) :
    Option Toml.Value :=
  (place.isPrefixOf? setting.path).bind fun path => valueAt? place path value

/-! ## Members -/

/-- A layer provides the settings whose values stand in what is written at a place,
each with that value read, and no others. -/
def Layer.Reads (layer : Layer) (place : List String) (value : Toml.Value) : Prop :=
  ∀ setting : Setting,
    (layer.get setting).map some = (setting.within? place value).map setting.ofToml?

theorem memberOf?_eq_some_iff {read : Toml.Value → Option α} {key : String} {members : Members}
    {found : Option α} :
    memberOf? read key members = some found ↔ found.map some = (members.lookup key).map read := by
  cases lookedUp : members.lookup key <;> cases found <;>
    simp [memberOf?, lookedUp, eq_comm]

/-! ## Sections -/

theorem messengerLayer?_reads {value : Toml.Value} {layer : Layer}
    (read : messengerLayer? value = some layer) : layer.Reads ["messenger"] value := by
  simp only [messengerLayer?, bind, Option.bind_eq_some_iff, memberOf?_eq_some_iff,
    Option.some.injEq] at read
  obtain ⟨members, isRecord, _, kind, _, servers, _, clientId, _, groupId, _, sources, _, sinks,
    _, sourceMinimum, _, sourceMaximum, _, sinkMinimum, _, sinkMaximum, rfl⟩ := read
  rw [messengerKeys] at isRecord
  intro setting
  cases setting <;>
    simp [Setting.within?, Setting.path, List.isPrefixOf?, valueAt?, recordKeys, Layer.get,
      Setting.ofToml?, *]

theorem promptLayer?_reads {value : Toml.Value} {layer : Layer}
    (read : promptLayer? value = some layer) : layer.Reads ["prompt"] value := by
  simp only [promptLayer?, bind, Option.bind_eq_some_iff, memberOf?_eq_some_iff,
    Option.some.injEq] at read
  obtain ⟨members, isRecord, _, path, _, isVerbose, rfl⟩ := read
  intro setting
  cases setting <;>
    simp [Setting.within?, Setting.path, List.isPrefixOf?, valueAt?, recordKeys, Layer.get,
      Setting.ofToml?, *]

theorem ollamaLayer?_reads {value : Toml.Value} {layer : Layer}
    (read : ollamaLayer? value = some layer) : layer.Reads ["llm", "ollama"] value := by
  simp only [ollamaLayer?, bind, Option.bind_eq_some_iff, memberOf?_eq_some_iff,
    Option.some.injEq] at read
  obtain ⟨members, isRecord, _, baseUrl, _, modelName, rfl⟩ := read
  intro setting
  cases setting <;>
    simp [Setting.within?, Setting.path, List.isPrefixOf?, valueAt?, recordKeys, Layer.get,
      Setting.ofToml?, *]

theorem openAiLayer?_reads {value : Toml.Value} {layer : Layer}
    (read : openAiLayer? value = some layer) : layer.Reads ["llm", "openai"] value := by
  simp only [openAiLayer?, bind, Option.bind_eq_some_iff, memberOf?_eq_some_iff,
    Option.some.injEq] at read
  obtain ⟨members, isRecord, _, apiKey, _, baseUrl, _, modelName, rfl⟩ := read
  intro setting
  cases setting <;>
    simp [Setting.within?, Setting.path, List.isPrefixOf?, valueAt?, recordKeys, Layer.get,
      Setting.ofToml?, *]

theorem logLayer?_reads {value : Toml.Value} {layer : Layer}
    (read : logLayer? value = some layer) : layer.Reads ["logging"] value := by
  simp only [logLayer?, bind, Option.bind_eq_some_iff, memberOf?_eq_some_iff,
    Option.some.injEq] at read
  obtain ⟨members, isRecord, _, level, _, format, rfl⟩ := read
  intro setting
  cases setting <;>
    simp [Setting.within?, Setting.path, List.isPrefixOf?, valueAt?, recordKeys, Layer.get,
      Setting.ofToml?, *]

/-- The layer of a section that may be absent. -/
theorem sectionOf?_reads {read : Toml.Value → Option Layer} {key : String} {members : Members}
    {layer : Layer} {place : List String}
    (reads : ∀ {value layer}, read value = some layer → layer.Reads place value)
    (found : sectionOf? read key members = some layer) (setting : Setting) :
    (layer.get setting).map some =
      ((members.lookup key).bind (setting.within? place)).map setting.ofToml? := by
  simp only [sectionOf?, Option.map_eq_some_iff, memberOf?_eq_some_iff] at found
  obtain ⟨given, member, rfl⟩ := found
  cases lookedUp : members.lookup key with
  | none =>
      rw [lookedUp] at member
      cases given <;> simp_all [Layer.get_empty]
  | some value =>
      rw [lookedUp] at member
      cases given with
      | none => cases member
      | some layer => exact reads (Option.some.inj member).symm setting

theorem within?_eq (setting : Setting) (place : List String) :
    setting.within? place =
      fun value => (place.isPrefixOf? setting.path).bind fun path => valueAt? place path value := rfl

theorem completionLayer?_reads {value : Toml.Value} {layer : Layer}
    (read : completionLayer? value = some layer) : layer.Reads ["llm"] value := by
  simp only [completionLayer?, bind, Option.bind_eq_some_iff, memberOf?_eq_some_iff,
    Option.some.injEq] at read
  obtain ⟨members, isRecord, _, timeoutSeconds, _, ollama, _, openAi, rfl⟩ := read
  intro setting
  have inOllama := sectionOf?_reads ollamaLayer?_reads ollama setting
  have inOpenAi := sectionOf?_reads openAiLayer?_reads openAi setting
  -- No setting is in both sections, so that one of the two look-ups is empty.
  cases setting <;>
    simp [within?_eq, Setting.path, List.isPrefixOf?, valueAt?, recordKeys, Layer.get,
      Layer.above, Setting.ofToml?, isRecord, timeoutSeconds]
      at inOllama inOpenAi ⊢ <;>
    simp [inOllama, inOpenAi]

/-! ## Documents -/

/-- A document with a layer provides each setting whose path leads to a value, with
that value read, and no others. -/
theorem ofDocument?_reads {document : Toml.Value} {layer : Layer}
    (read : Layer.ofDocument? document = some layer) : layer.Reads [] document := by
  simp only [Layer.ofDocument?, bind, Option.bind_eq_some_iff, Option.some.injEq] at read
  obtain ⟨members, isRecord, _, messenger, _, prompt, _, completion, _, log, rfl⟩ := read
  intro setting
  have inMessenger := sectionOf?_reads messengerLayer?_reads messenger setting
  have inPrompt := sectionOf?_reads promptLayer?_reads prompt setting
  have inCompletion := sectionOf?_reads completionLayer?_reads completion setting
  have inLog := sectionOf?_reads logLayer?_reads log setting
  rw [Layer.get_above, Layer.get_above, Layer.get_above]
  cases setting <;>
    simp [within?_eq, Setting.path, List.isPrefixOf?, valueAt?, recordKeys, isRecord]
      at inMessenger inPrompt inCompletion inLog ⊢ <;>
    simp [inMessenger, inPrompt, inCompletion, inLog]

/-! ## Form -/

/-- The places of records. -/
def recordPlaces : List (List String) :=
  [[], ["messenger"], ["prompt"], ["llm"], ["llm", "ollama"], ["llm", "openai"], ["logging"]]

/-- What is written at a place has the form of settings: records stand where they are to stand,
if anything does, and the values of settings can be read. -/
structure HasForm (place : List String) (value : Toml.Value) : Prop where
  records : ∀ path found, place ++ path ∈ recordPlaces → valueAt? place path value = some found →
    ∃ members, IsRecord (recordKeys (place ++ path)) found members
  values : ∀ (setting : Setting) found, setting.within? place value = some found →
    ∃ value, setting.IsWrittenAs found value

theorem within?_eq_some_iff {setting : Setting} {place : List String} {value found : Toml.Value} :
    setting.within? place value = some found ↔
      ∃ path, place ++ path = setting.path ∧ valueAt? place path value = some found := by
  simp only [Setting.within?, Option.bind_eq_some_iff, List.isPrefixOf?_eq_some_iff_append_eq]

/-- The members of a record with that form. -/
structure MembersHaveForm (place : List String) (members : Members) : Prop where
  records : ∀ key, place ++ [key] ∈ recordPlaces → ∀ value, members.lookup key = some value →
    HasForm (place ++ [key]) value
  values : ∀ setting : Setting, ∀ key, place ++ [key] = setting.path →
    ∀ found, members.lookup key = some found → ∃ value, setting.IsWrittenAs found value

theorem HasForm.isSome_bind {place : List String} {value : Toml.Value}
    (hasForm : HasForm place value) (isPlace : place ∈ recordPlaces) {next : Members → Option α}
    (goesOn : ∀ members, MembersHaveForm place members → (next members).isSome) :
    (recordOf? (recordKeys place) value >>= next).isSome := by
  obtain ⟨members, isRecord⟩ := hasForm.records [] value (by simpa using isPlace) rfl
  rw [List.append_nil, ← recordOf?_eq_some_iff] at isRecord
  have reaches {key : String} {path : List String} {inner found : Toml.Value}
      (member : members.lookup key = some inner)
      (reached : valueAt? (place ++ [key]) path inner = some found) :
      valueAt? place (key :: path) value = some found := by
    simp [valueAt?, isRecord, member, reached]
  rw [isRecord]
  refine goesOn members ⟨fun key isPlace inner member => ⟨?_, ?_⟩, ?_⟩
  · intro path found inPlace reached
    rw [List.append_assoc, List.singleton_append] at inPlace ⊢
    exact hasForm.records (key :: path) found inPlace (reaches member reached)
  · intro setting found reached
    obtain ⟨path, isPath, reached⟩ := within?_eq_some_iff.mp reached
    rw [List.append_assoc, List.singleton_append] at isPath
    exact hasForm.values setting found
      (within?_eq_some_iff.mpr ⟨key :: path, isPath, reaches member reached⟩)
  · intro setting key isPath inner member
    exact hasForm.values setting inner
      (within?_eq_some_iff.mpr ⟨[key], isPath, reaches member rfl⟩)

theorem isSome_bind {found : Option α} {next : α → Option β} (isFound : found.isSome)
    (goesOn : ∀ value, (next value).isSome) : (found >>= next).isSome := by
  obtain ⟨value, rfl⟩ := Option.isSome_iff_exists.mp isFound
  exact goesOn value

theorem memberOf?_isSome {read : Toml.Value → Option α} {key : String} {members : Members}
    (reads : ∀ value, members.lookup key = some value → (read value).isSome) :
    (memberOf? read key members).isSome := by
  cases lookedUp : members.lookup key with
  | none => simp [memberOf?, lookedUp]
  | some value => simp [memberOf?, lookedUp, reads value lookedUp]

namespace MembersHaveForm

variable {place : List String} {members : Members}

theorem member (form : MembersHaveForm place members) (setting : Setting) {key : String}
    (isPath : place ++ [key] = setting.path) :
    (memberOf? setting.ofToml? key members).isSome := by
  refine memberOf?_isSome fun found member => ?_
  obtain ⟨_, isWritten⟩ := form.values setting key isPath found member
  exact Option.isSome_of_eq_some (ofToml?_eq_some_iff.mpr isWritten)

theorem section? (form : MembersHaveForm place members) {key : String}
    {read : Toml.Value → Option Layer} (isPlace : place ++ [key] ∈ recordPlaces)
    (reads : ∀ {value}, HasForm (place ++ [key]) value → (read value).isSome) :
    (sectionOf? read key members).isSome := by
  rw [sectionOf?, Option.isSome_map]
  exact memberOf?_isSome fun value member => reads (form.records key isPlace value member)

end MembersHaveForm

theorem messengerLayer?_isSome {value : Toml.Value} (hasForm : HasForm ["messenger"] value) :
    (messengerLayer? value).isSome := by
  refine hasForm.isSome_bind (by decide) fun members form => ?_
  refine isSome_bind (form.member .kind rfl) fun _ => ?_
  refine isSome_bind (form.member .servers rfl) fun _ => ?_
  refine isSome_bind (form.member .clientId rfl) fun _ => ?_
  refine isSome_bind (form.member .groupId rfl) fun _ => ?_
  refine isSome_bind (form.member .sources rfl) fun _ => ?_
  refine isSome_bind (form.member .sinks rfl) fun _ => ?_
  refine isSome_bind (form.member .sourceMinimum rfl) fun _ => ?_
  refine isSome_bind (form.member .sourceMaximum rfl) fun _ => ?_
  refine isSome_bind (form.member .sinkMinimum rfl) fun _ => ?_
  exact isSome_bind (form.member .sinkMaximum rfl) fun _ => rfl

theorem promptLayer?_isSome {value : Toml.Value} (hasForm : HasForm ["prompt"] value) :
    (promptLayer? value).isSome := by
  refine hasForm.isSome_bind (by decide) fun members form => ?_
  refine isSome_bind (form.member .promptPath rfl) fun _ => ?_
  exact isSome_bind (form.member .verbose rfl) fun _ => rfl

theorem ollamaLayer?_isSome {value : Toml.Value} (hasForm : HasForm ["llm", "ollama"] value) :
    (ollamaLayer? value).isSome := by
  refine hasForm.isSome_bind (by decide) fun members form => ?_
  refine isSome_bind (form.member .ollamaBaseUrl rfl) fun _ => ?_
  exact isSome_bind (form.member .ollamaModelName rfl) fun _ => rfl

theorem openAiLayer?_isSome {value : Toml.Value} (hasForm : HasForm ["llm", "openai"] value) :
    (openAiLayer? value).isSome := by
  refine hasForm.isSome_bind (by decide) fun members form => ?_
  refine isSome_bind (form.member .openAiApiKey rfl) fun _ => ?_
  refine isSome_bind (form.member .openAiBaseUrl rfl) fun _ => ?_
  exact isSome_bind (form.member .openAiModelName rfl) fun _ => rfl

theorem logLayer?_isSome {value : Toml.Value} (hasForm : HasForm ["logging"] value) :
    (logLayer? value).isSome := by
  refine hasForm.isSome_bind (by decide) fun members form => ?_
  refine isSome_bind (form.member .logLevel rfl) fun _ => ?_
  exact isSome_bind (form.member .logFormat rfl) fun _ => rfl

theorem completionLayer?_isSome {value : Toml.Value} (hasForm : HasForm ["llm"] value) :
    (completionLayer? value).isSome := by
  refine hasForm.isSome_bind (by decide) fun members form => ?_
  refine isSome_bind (form.member .timeoutSeconds rfl) fun _ => ?_
  refine isSome_bind (form.section? (by decide) ollamaLayer?_isSome) fun _ => ?_
  exact isSome_bind (form.section? (by decide) openAiLayer?_isSome) fun _ => rfl

theorem ofDocument?_isSome {document : Toml.Value} (hasForm : HasForm [] document) :
    (Layer.ofDocument? document).isSome := by
  refine hasForm.isSome_bind (by decide) fun members form => ?_
  refine isSome_bind (form.section? (by decide) messengerLayer?_isSome) fun _ => ?_
  refine isSome_bind (form.section? (by decide) promptLayer?_isSome) fun _ => ?_
  refine isSome_bind (form.section? (by decide) completionLayer?_isSome) fun _ => ?_
  exact isSome_bind (form.section? (by decide) logLayer?_isSome) fun _ => rfl

theorem isSome_of_sectionOf? {read : Toml.Value → Option Layer} {key : String}
    {members : Members} {layer : Layer} {value : Toml.Value}
    (found : sectionOf? read key members = some layer)
    (member : members.lookup key = some value) : (read value).isSome := by
  obtain ⟨given, isGiven, _⟩ := Option.map_eq_some_iff.mp found
  rw [memberOf?, member] at isGiven
  obtain ⟨_, isRead, _⟩ := Option.map_eq_some_iff.mp isGiven
  exact Option.isSome_of_eq_some isRead

/-- A record that has been read, and the records in it. -/
theorem hasForm_of_reads {place : List String} {value : Toml.Value} {layer : Layer}
    (reads : layer.Reads place value) (isRecord : (recordOf? (recordKeys place) value).isSome)
    (sections : ∀ members key path inner, recordOf? (recordKeys place) value = some members →
      place ++ key :: path ∈ recordPlaces → members.lookup key = some inner →
        HasForm (place ++ [key]) inner) : HasForm place value := by
  refine ⟨fun path found inPlace reached => ?_, fun setting found reached => ?_⟩
  · cases path with
    | nil =>
        cases reached
        obtain ⟨members, isRecord⟩ := Option.isSome_iff_exists.mp isRecord
        exact ⟨members, by rwa [List.append_nil, ← recordOf?_eq_some_iff]⟩
    | cons key path =>
        obtain ⟨members, isRecord, inner, member, reached⟩ : ∃ members,
            recordOf? (recordKeys place) value = some members ∧
              ∃ inner, members.lookup key = some inner ∧
                valueAt? (place ++ [key]) path inner = some found := by
          simpa [valueAt?, Option.bind_eq_some_iff] using reached
        have inSection := (sections members key path inner isRecord inPlace member).records path found
        rw [List.append_assoc, List.singleton_append] at inSection
        exact inSection inPlace reached
  · have isRead := reads setting
    rw [reached, Option.map_some] at isRead
    obtain ⟨value, _, isRead⟩ := Option.map_eq_some_iff.mp isRead
    exact ⟨value, ofToml?_eq_some_iff.mp isRead.symm⟩

/-- A record that has been read, with no records in it. -/
theorem hasForm_of_isSome {place : List String} {value : Toml.Value}
    {read : Toml.Value → Option Layer} (isRead : (read value).isSome)
    (isRecord : (recordOf? (recordKeys place) value).isSome)
    (reads : ∀ {value layer}, read value = some layer → layer.Reads place value)
    (isLeaf : ∀ key path, place ++ key :: path ∉ recordPlaces) : HasForm place value := by
  obtain ⟨layer, isRead⟩ := Option.isSome_iff_exists.mp isRead
  exact hasForm_of_reads (reads isRead) isRecord fun _ key path _ _ inPlace _ =>
    absurd inPlace (isLeaf key path)

theorem completionLayer?_hasForm {value : Toml.Value} (isRead : (completionLayer? value).isSome) :
    HasForm ["llm"] value := by
  obtain ⟨layer, isRead⟩ := Option.isSome_iff_exists.mp isRead
  have reads := completionLayer?_reads isRead
  simp only [completionLayer?, bind, Option.bind_eq_some_iff] at isRead
  obtain ⟨members, isRecord, _, _, _, ollama, _, openAi, _⟩ := isRead
  refine hasForm_of_reads reads (Option.isSome_of_eq_some isRecord) ?_
  intro others key path inner isRecord' inPlace member
  cases isRecord.symm.trans isRecord'
  have inSection : key = "ollama" ∨ key = "openai" := by
    simp [recordPlaces] at inPlace
    exact inPlace.imp And.left And.left
  rcases inSection with rfl | rfl
  · have isRead := isSome_of_sectionOf? ollama member
    exact hasForm_of_isSome isRead (Option.isSome_of_isSome_bind isRead) ollamaLayer?_reads
      (by simp [recordPlaces])
  · have isRead := isSome_of_sectionOf? openAi member
    exact hasForm_of_isSome isRead (Option.isSome_of_isSome_bind isRead) openAiLayer?_reads
      (by simp [recordPlaces])

/-- A document has a layer if and only if all that is read in it has its form. -/
theorem ofDocument?_isSome_iff {document : Toml.Value} :
    (Layer.ofDocument? document).isSome ↔ HasForm [] document := by
  refine ⟨fun isRead => ?_, ofDocument?_isSome⟩
  obtain ⟨layer, isRead⟩ := Option.isSome_iff_exists.mp isRead
  have reads := ofDocument?_reads isRead
  simp only [Layer.ofDocument?, bind, Option.bind_eq_some_iff] at isRead
  obtain ⟨members, isRecord, _, messenger, _, prompt, _, completion, _, log, _⟩ := isRead
  refine hasForm_of_reads reads (Option.isSome_of_eq_some isRecord) ?_
  intro others key path inner isRecord' inPlace member
  cases isRecord.symm.trans isRecord'
  have inSection : key = "messenger" ∨ key = "prompt" ∨ key = "llm" ∨ key = "logging" := by
    simp [recordPlaces] at inPlace
    tauto
  rcases inSection with rfl | rfl | rfl | rfl
  · have isRead := isSome_of_sectionOf? messenger member
    exact hasForm_of_isSome isRead (Option.isSome_of_isSome_bind isRead) messengerLayer?_reads
      (by simp [recordPlaces])
  · have isRead := isSome_of_sectionOf? prompt member
    exact hasForm_of_isSome isRead (Option.isSome_of_isSome_bind isRead) promptLayer?_reads
      (by simp [recordPlaces])
  · exact completionLayer?_hasForm (isSome_of_sectionOf? completion member)
  · have isRead := isSome_of_sectionOf? log member
    exact hasForm_of_isSome isRead (Option.isSome_of_isSome_bind isRead) logLayer?_reads
      (by simp [recordPlaces])

end PromptRelay
