import Mathlib.Data.List.DropRight
import PromptRelay.Completion.Request
import PromptRelay.Proofs.Result
import PromptRelay.Proofs.Text.Trimming

/-!
Contract: which address a completion is asked for at, given settings that are accepted.

Owns:
- the address below a base URL as text, and when blanks around the base URL make a
  difference to it;
- when that address names a scheme;
- what a selected backend takes over from the settings, and what it trims.

Does not own: how an address is taken apart when a request is sent.
-/

namespace PromptRelay

open Text

namespace Text

theorem isTrimmed_trimmed (text : String) : IsTrimmed (trimmed text).toList := by
  rw [trimmed, String.toList_ofList]
  exact isTrimmed_trim text.toList

theorem trimmed_eq_self_iff {text : String} : trimmed text = text ↔ IsTrimmed text.toList := by
  constructor
  · intro same
    rw [← same]
    exact isTrimmed_trimmed text
  · intro isTrimmed
    rw [trimmed, trim_of_isTrimmed isTrimmed, String.ofList_toList]

theorem eq_trimmed_of_nonBlank? {text kept : String} (given : nonBlank? text = some kept) :
    kept = trimmed text := by
  simp only [nonBlank?] at given
  split at given
  · cases given
  · exact (Option.some.inj given).symm

/-- Nothing is left around a trimmed text: trimming keeps every blank only if there is none
to take off. -/
theorem isTrimmed_of_countP_trim {cs : List Char}
    (same : (trim cs).countP isBlank = cs.countP isBlank) : IsTrimmed cs := by
  obtain ⟨before, after, beforeBlank, afterBlank, parted, isTrimmed⟩ := exists_trim cs
  have counted : cs.countP isBlank =
      before.length + ((trim cs).countP isBlank + after.length) := by
    calc
      _ = (before ++ (trim cs ++ after)).countP isBlank := by rw [← parted]
      _ = _ := by
        rw [List.countP_append, List.countP_append, List.countP_eq_length.mpr beforeBlank,
          List.countP_eq_length.mpr afterBlank]
  have noneBefore : before = [] := List.length_eq_zero_iff.mp (by omega)
  have noneAfter : after = [] := List.length_eq_zero_iff.mp (by omega)
  rw [noneBefore, noneAfter, List.nil_append, List.append_nil] at parted
  rw [parted]
  exact isTrimmed

end Text

/-! ## Addresses below a base URL -/

namespace Backend

/-- A text without the slashes at its end. -/
abbrev withoutSlashes (cs : List Char) : List Char :=
  cs.rdropWhile (· = '/')

theorem toList_endpoint (baseUrl path : String) :
    (endpoint baseUrl path).toList = withoutSlashes baseUrl.toList ++ '/' :: path.toList := by
  simp [endpoint, List.rdropWhile, String.toList_append]

theorem endpoint_eq_iff {baseUrl other path : String} :
    endpoint baseUrl path = endpoint other path ↔
      withoutSlashes baseUrl.toList = withoutSlashes other.toList := by
  rw [← String.toList_inj, toList_endpoint, toList_endpoint, List.append_left_inj]

/-- No blank is a slash, so that slashes are taken off without taking blanks. -/
theorem countP_withoutSlashes (cs : List Char) :
    (withoutSlashes cs).countP isBlank = cs.countP isBlank := by
  have noBlank : (cs.rtakeWhile (· = '/')).countP isBlank = 0 := by
    rw [List.countP_eq_zero]
    intro c member
    have slash := List.mem_rtakeWhile_imp member
    rw [of_decide_eq_true slash]
    decide
  calc
    _ = (withoutSlashes cs).countP isBlank + (cs.rtakeWhile (· = '/')).countP isBlank := by
      rw [noBlank, Nat.add_zero]
    _ = _ := by rw [← List.countP_append, List.rdropWhile_append_rtakeWhile]

/-- Trimming a base URL changes no address below it exactly if there is nothing to trim. -/
theorem endpoint_trimmed_eq_iff (baseUrl path : String) :
    endpoint baseUrl path = endpoint (trimmed baseUrl) path ↔ IsTrimmed baseUrl.toList := by
  constructor
  · intro same
    apply isTrimmed_of_countP_trim
    have kept := endpoint_eq_iff.mp same
    calc
      _ = (withoutSlashes (trimmed baseUrl).toList).countP isBlank := by
        rw [countP_withoutSlashes, trimmed, String.toList_ofList]
      _ = _ := by rw [← kept, countP_withoutSlashes]
  · intro isTrimmed
    rw [trimmed_eq_self_iff.mpr isTrimmed]

/-! ## Schemes -/

def schemes : List String := ["http://", "https://"]

/-- A text that begins with one of the two schemes, without a blank before it. -/
def NamesScheme (text : String) : Prop :=
  ∃ scheme ∈ schemes, scheme.toList <+: text.toList

instance (text : String) : Decidable (NamesScheme text) :=
  inferInstanceAs (Decidable (∃ scheme ∈ schemes, scheme.toList <+: text.toList))

theorem namesScheme_trimmed_of_hasScheme {text : String} (given : hasScheme text = true) :
    NamesScheme (trimmed text) := by
  simp only [hasScheme, Bool.or_eq_true, List.isPrefixOf_iff_prefix] at given
  simpa [NamesScheme, schemes, trimmed] using given

/-- Where a scheme is cut in two, the rest is not how the path begins, unless the first part
ends in a slash. -/
theorem getLast?_of_cut : ∀ scheme ∈ schemes, ∀ taken < scheme.toList.length,
    (scheme.toList.drop taken).isPrefixOf "/chat/completions".toList = true →
      (scheme.toList.take taken).getLast? = some '/' := by
  decide +kernel

/-- A scheme does not reach into the path that is put below a base URL. -/
theorem scheme_prefix_iff {scheme : String} (known : scheme ∈ schemes) (cs : List Char) :
    scheme.toList <+: withoutSlashes cs ++ "/chat/completions".toList ↔
      scheme.toList <+: withoutSlashes cs := by
  refine ⟨fun begins => ?_, fun begins => begins.trans (List.prefix_append _ _)⟩
  have kept : withoutSlashes cs <+: withoutSlashes cs ++ "/chat/completions".toList :=
    List.prefix_append _ _
  by_cases within : scheme.toList.length ≤ (withoutSlashes cs).length
  · exact List.prefix_of_prefix_length_le begins kept within
  · exfalso
    obtain ⟨rest, parted⟩ := List.prefix_of_prefix_length_le kept begins (by omega)
    rw [← parted, List.prefix_append_right_inj, ← List.isPrefixOf_iff_prefix] at begins
    have slash := getLast?_of_cut scheme known (withoutSlashes cs).length (by omega) (by
      rw [← parted, List.drop_left]
      exact begins)
    rw [← parted, List.take_left] at slash
    have nonempty : withoutSlashes cs ≠ [] := by
      intro nothing
      rw [nothing] at slash
      cases slash
    have noSlash := List.rdropWhile_last_not (· = '/') cs nonempty
    rw [List.getLast?_eq_some_getLast nonempty, Option.some.injEq] at slash
    exact noSlash (decide_eq_true slash)

theorem withoutSlashes_append (cs rest : List Char) :
    withoutSlashes (cs ++ rest) =
      if withoutSlashes rest = [] then withoutSlashes cs else cs ++ withoutSlashes rest := by
  simp only [List.rdropWhile, List.reverse_append, List.dropWhile_append, List.reverse_eq_nil_iff,
    List.isEmpty_iff]
  split <;> simp

/-- A base URL keeps its scheme if something else than slashes follows it. -/
theorem scheme_prefix_withoutSlashes_iff {scheme : String} (known : scheme ∈ schemes)
    (cs : List Char) :
    scheme.toList <+: withoutSlashes cs ↔
      ∃ rest, cs = scheme.toList ++ rest ∧ ∃ c ∈ rest, c ≠ '/' := by
  have nonempty (rest : List Char) : withoutSlashes rest ≠ [] ↔ ∃ c ∈ rest, c ≠ '/' := by
    simp [List.rdropWhile_eq_nil_iff]
  constructor
  · intro begins
    obtain ⟨rest, parted⟩ := begins.trans (List.rdropWhile_prefix _ cs)
    refine ⟨rest, parted.symm, (nonempty rest).mp fun slashes => ?_⟩
    have shorter : ∀ scheme ∈ schemes,
        (withoutSlashes scheme.toList).length < scheme.toList.length := by decide +kernel
    rw [← parted, withoutSlashes_append, if_pos slashes] at begins
    exact absurd begins.length_le (Nat.not_le.mpr (shorter scheme known))
  · rintro ⟨rest, rfl, other⟩
    rw [withoutSlashes_append, if_neg ((nonempty rest).mpr other)]
    exact List.prefix_append _ _

theorem namesScheme_endpoint_iff (baseUrl : String) :
    NamesScheme (endpoint baseUrl "chat/completions") ↔
      ∃ scheme ∈ schemes, ∃ rest,
        baseUrl.toList = scheme.toList ++ rest ∧ ∃ c ∈ rest, c ≠ '/' := by
  refine exists_congr fun scheme => and_congr_right fun known => ?_
  rw [toList_endpoint, ← scheme_prefix_withoutSlashes_iff known]
  exact scheme_prefix_iff known baseUrl.toList

end Backend

/-! ## Settings -/

/-- What settings that are accepted say about the base URL, whichever backend they select. -/
theorem CompletionSettings.hasScheme_of_validate {settings : CompletionSettings}
    (valid : settings.validate = .ok ()) : hasScheme settings.openAi.baseUrl = true := by
  unfold validate at valid
  split at valid
  · cases valid
  · split at valid
    · cases valid
    case isFalse given => simpa using given

/-- What is taken over from the settings: the base URL of OpenAI as it stands there, and a
model name without the blanks around it. -/
theorem CompletionSettings.openAi_of_backend {settings : CompletionSettings}
    {apiKey baseUrl modelName : String}
    (selected : settings.backend = .ok (.openAi apiKey baseUrl modelName)) :
    baseUrl = settings.openAi.baseUrl ∧
      ∃ given, settings.openAi.modelName = some given ∧ modelName = trimmed given := by
  simp only [backend] at selected
  split at selected
  · cases selected
  · split at selected
    case h_1 chosen _ named =>
      cases selected
      obtain ⟨given, isGiven, kept⟩ := Option.bind_eq_some_iff.mp named
      exact ⟨rfl, given, isGiven, eq_trimmed_of_nonBlank? kept⟩
    · cases selected

/-- For accepted settings that select OpenAI, completions are asked for below the base URL as
it is set, without the slashes at its end. A scheme was looked for behind the blanks before
it; but the address is the one below the trimmed base URL exactly if there are no blanks
around it, and it names a scheme exactly if the base URL itself begins with one that something
else than slashes follows. The model name is trimmed. -/
theorem Settings.address_of_validate {settings : Settings} (valid : settings.validate = .ok ())
    {apiKey baseUrl modelName : String}
    (selected : settings.completion.backend = .ok (.openAi apiKey baseUrl modelName))
    (inputs : List Message) :
    let url := (Completion.request (.openAi apiKey baseUrl modelName) inputs).url
    baseUrl = settings.completion.openAi.baseUrl ∧
    Backend.NamesScheme (trimmed baseUrl) ∧
    url.toList = Backend.withoutSlashes baseUrl.toList ++ "/chat/completions".toList ∧
    (url.toList =
        Backend.withoutSlashes (trimmed baseUrl).toList ++ "/chat/completions".toList ↔
      IsTrimmed baseUrl.toList) ∧
    (Backend.NamesScheme url ↔
      ∃ scheme ∈ Backend.schemes, ∃ rest,
        baseUrl.toList = scheme.toList ++ rest ∧ ∃ c ∈ rest, c ≠ '/') ∧
    IsTrimmed modelName.toList := by
  obtain ⟨_, _, rest⟩ := Result.bind_eq_ok_iff.mp valid
  obtain ⟨_, _, rest⟩ := Result.bind_eq_ok_iff.mp rest
  obtain ⟨_, completion, _⟩ := Result.bind_eq_ok_iff.mp rest
  obtain ⟨sameBase, given, _, sameName⟩ := settings.completion.openAi_of_backend selected
  have scheme := settings.completion.hasScheme_of_validate completion
  rw [← sameBase] at scheme
  have below : (Completion.request (.openAi apiKey baseUrl modelName) inputs).url =
      Backend.endpoint baseUrl "chat/completions" := rfl
  rw [below]
  refine ⟨sameBase, Backend.namesScheme_trimmed_of_hasScheme scheme,
    Backend.toList_endpoint baseUrl _, ?_, Backend.namesScheme_endpoint_iff baseUrl, ?_⟩
  · rw [← Backend.endpoint_trimmed_eq_iff baseUrl "chat/completions", ← String.toList_inj,
      Backend.toList_endpoint (trimmed baseUrl)]
    exact Iff.rfl
  · rw [sameName]
    exact isTrimmed_trimmed given

/-- Settings for OpenAI below a given base URL. -/
def openAiSettings (baseUrl : String) : Settings where
  messenger := { kind := some .nats }
  prompt := { path := some "prompt.yaml" }
  completion := {
    openAi := { apiKey := some "sk-test", baseUrl, modelName := some " gpt-4o-mini " } }

/-- Slashes at the end are taken off, and the model name is trimmed. -/
theorem address_slashes :
    (openAiSettings "https://api.openai.com/v1//").validate = .ok () ∧
      (openAiSettings "https://api.openai.com/v1//").completion.backend =
        .ok (.openAi "sk-test" "https://api.openai.com/v1//" "gpt-4o-mini") ∧
      (Completion.request (.openAi "sk-test" "https://api.openai.com/v1//" "gpt-4o-mini")
          [.user "hi"]).url.toList =
        Backend.withoutSlashes "https://api.openai.com/v1//".toList ++
          "/chat/completions".toList := by
  have valid : (openAiSettings "https://api.openai.com/v1//").validate = .ok () := by rfl
  have selected : (openAiSettings "https://api.openai.com/v1//").completion.backend =
      .ok (.openAi "sk-test" "https://api.openai.com/v1//" "gpt-4o-mini") := by rfl
  exact ⟨valid, selected, (Settings.address_of_validate valid selected [.user "hi"]).2.2.1⟩

/-- A blank behind the base URL is accepted, and ends up in the middle of the address. Sent,
it is part of the path. -/
theorem address_keepsBlank :
    (openAiSettings "https://api.openai.com/v1 ").validate = .ok () ∧
      (openAiSettings "https://api.openai.com/v1 ").completion.backend =
        .ok (.openAi "sk-test" "https://api.openai.com/v1 " "gpt-4o-mini") ∧
      (Completion.request (.openAi "sk-test" "https://api.openai.com/v1 " "gpt-4o-mini")
          [.user "hi"]).url ≠
        Backend.endpoint (trimmed "https://api.openai.com/v1 ") "chat/completions" ∧
      (Completion.request (.openAi "sk-test" "https://api.openai.com/v1 " "gpt-4o-mini")
          [.user "hi"]).target?.map Completion.Url.path = some "/v1%20/chat/completions" := by
  refine ⟨by rfl, by rfl, by decide +kernel, by decide +kernel⟩

end PromptRelay
