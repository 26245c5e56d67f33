import PromptRelay.Command.Preview
import PromptRelay.Proofs.Json.Texts
import PromptRelay.Proofs.Result
import PromptRelay.Proofs.Settings.Validity
import PromptRelay.Proofs.Wire.RoundTrip

/-!
Contract: what showing the prompt of a batch comes to.

Owns:
- what the output of a failed command says, whatever the characters of its texts;
- which stage the command ends at, and how it ends there;
- that the output is one JSON text, and what it says, and that there are no other exit codes
  than those of the stages, unless rendering crashes;
- templates that insert themselves, with which it always crashes.

Does not own: when settings, batches and templates are refused, and the words for it.
-/

namespace PromptRelay.Command

open Json
open Text (bytes)
open PromptRelay.Result (ok_bind error_bind mapError_ok mapError_error failure? failure?_eq_some_iff)

/-! ## Results -/

/-- The names of the members that the output of a failed command has. -/
def failureNames : List String := ["command", "status", "error_class", "message"]

/-- A command fails with the exit code, and its output is an object that tells the command,
the class of the fault and its text. -/
structure Fails (result : Result) (exitCode : Nat) (command faultClass message : String) :
    Prop where
  exitCode : result.exitCode = exitCode
  isObject : ∃ members, result.output = compact (.object members)
  members : readWhole (readTexts failureNames) (bytes result.output) =
    .ok [("command", command), ("status", "error"), ("error_class", faultClass),
      ("message", message)]

/-- A command succeeds, and its output is a prompt. -/
structure Shows (result : Result) (prompt : Prompt) : Prop where
  exitCode : result.exitCode = 0
  prompt : decode Prompt (bytes result.output) = .ok prompt

/-- Texts of any characters are told. -/
theorem fails_failure (command faultClass message : String) (exitCode : Nat) :
    Fails (failure command faultClass message exitCode) exitCode command faultClass message where
  exitCode := rfl
  isObject := ⟨_, rfl⟩
  members := by
    let texts : Texts := [("command", command), ("status", "error"), ("error_class", faultClass),
      ("message", message)]
    have distinct : (texts.map Prod.fst).Nodup := by
      change failureNames.Nodup
      decide
    change readWhole (readTexts (texts.map Prod.fst))
      (bytes (String.ofList (write texts.toJson))) = _
    rw [Text.bytes_ofList, readWhole_of_reads (readTexts_reads distinct)]

/-! ## Stages -/

/-- The stages at which the command fails. -/
inductive Stage where
  | settings
  | input
  | template

def Stage.exitCode : Stage → Nat
  | .settings => 2
  | .input => 3
  | .template => 4

def Stage.faultClass : Stage → String
  | .settings => "config_validation"
  | .input => "input"
  | .template => "template"

/-- How the command ends. -/
inductive Ending where
  | fault (stage : Stage) (message : String)
  | prompt (prompt : Prompt)
  | crash (crash : Crash)

/-- How the template at a path ends for a batch: the first stage that does not succeed, or a
prompt. -/
inductive TemplateEnds (world : World) (path : String) (batch : List Message) : Ending → Prop where
  | unreadable {cause : ReadError} (unread : world.readText path = .error cause) :
      TemplateEnds world path batch
        (.fault .template (PromptError.unreadable path cause).message)
  | malformed {source : String} (read : world.readText path = .ok source)
      (refused : Template.compile source = none) :
      TemplateEnds world path batch (.fault .template PromptError.malformedTemplate.message)
  | failed {source : String} {compiled : Template} (read : world.readText path = .ok source)
      (isCompiled : Template.compile source = some compiled)
      (failed : compiled.render world.variableText?
        [("inputs", .list (batch.map Message.toVariable))] = .error (.failed ())) :
      TemplateEnds world path batch (.fault .template PromptError.failedRendering.message)
  | crashed {source : String} {compiled : Template} {crash : Crash}
      (read : world.readText path = .ok source)
      (isCompiled : Template.compile source = some compiled)
      (crashed : compiled.render world.variableText?
        [("inputs", .list (batch.map Message.toVariable))] = .error (.crashed crash)) :
      TemplateEnds world path batch (.crash crash)
  | refused {source text : String} {compiled : Template}
      (read : world.readText path = .ok source)
      (isCompiled : Template.compile source = some compiled)
      (rendered : compiled.render world.variableText?
        [("inputs", .list (batch.map Message.toVariable))] = .ok text)
      (refused : Prompt.ofYaml? text = none) :
      TemplateEnds world path batch (.fault .template PromptError.malformedDocument.message)
  | prompt {source text : String} {compiled : Template} {prompt : Prompt}
      (read : world.readText path = .ok source)
      (isCompiled : Template.compile source = some compiled)
      (rendered : compiled.render world.variableText?
        [("inputs", .list (batch.map Message.toVariable))] = .ok text)
      (accepted : Prompt.ofYaml? text = some prompt) :
      TemplateEnds world path batch (.prompt prompt)

/-- How the command ends: at the settings, at the batch or at the template. -/
inductive Ends (world : World) (input : String) (template : Option String) : Ending → Prop where
  | settings {error : SettingsError}
      (refused : Settings.load world { promptPath := template } = .error error) :
      Ends world input template (.fault .settings error.message)
  | unreadable {settings : Settings} {cause : ReadError}
      (loaded : Settings.load world { promptPath := template } = .ok settings)
      (unread : world.readText input = .error cause) :
      Ends world input template (.fault .input (BatchError.unreadable input cause).message)
  | batch {settings : Settings} {text : String} {error : BatchError}
      (loaded : Settings.load world { promptPath := template } = .ok settings)
      (read : world.readText input = .ok text) (refused : readBatch text = .error error) :
      Ends world input template (.fault .input error.message)
  | template {settings : Settings} {text path : String} {batch : List Message} {ending : Ending}
      (loaded : Settings.load world { promptPath := template } = .ok settings)
      (read : world.readText input = .ok text) (accepted : readBatch text = .ok batch)
      (isPath : settings.prompt.path = some path)
      (ends : TemplateEnds world path batch ending) :
      Ends world input template ending

/-- What a command comes to that ends so. -/
def ComesTo (outcome : Except Crash Result) : Ending → Prop
  | .fault stage message => ∃ result, outcome = .ok result ∧
      Fails result stage.exitCode "render" stage.faultClass message
  | .prompt prompt => ∃ result, outcome = .ok result ∧ Shows result prompt
  | .crash crash => outcome = .error crash

theorem Stage.exitCode_ne_zero (stage : Stage) : stage.exitCode ≠ 0 := by
  cases stage <;> decide

theorem Stage.eq_of_exitCode {stage other : Stage} (same : stage.exitCode = other.exitCode) :
    stage = other := by
  cases stage <;> cases other <;> first | rfl | cases same

/-- What a command comes to tells how it ends. -/
theorem ComesTo.unique {outcome : Except Crash Result} {ending other : Ending}
    (comesTo : ComesTo outcome ending) (comesToOther : ComesTo outcome other) : ending = other := by
  cases ending with
  | fault stage message =>
      obtain ⟨result, rfl, fails⟩ := comesTo
      cases other with
      | fault stage' message' =>
          obtain ⟨_, ⟨⟩, fails'⟩ := comesToOther
          have sameMembers := fails.members.symm.trans fails'.members
          have sameStage := Stage.eq_of_exitCode (fails.exitCode.symm.trans fails'.exitCode)
          simp only [Except.ok.injEq, List.cons.injEq, Prod.mk.injEq, true_and, and_true]
            at sameMembers
          rw [sameStage, sameMembers.2]
      | prompt prompt =>
          obtain ⟨_, ⟨⟩, shows⟩ := comesToOther
          exact absurd (fails.exitCode.symm.trans shows.exitCode) stage.exitCode_ne_zero
      | crash crash => cases comesToOther
  | prompt prompt =>
      obtain ⟨result, rfl, shows⟩ := comesTo
      cases other with
      | fault stage message =>
          obtain ⟨_, ⟨⟩, fails⟩ := comesToOther
          exact absurd (fails.exitCode.symm.trans shows.exitCode) stage.exitCode_ne_zero
      | prompt prompt' =>
          obtain ⟨_, ⟨⟩, shows'⟩ := comesToOther
          rw [Except.ok.inj (shows.prompt.symm.trans shows'.prompt)]
      | crash crash => cases comesToOther
  | crash crash =>
      cases comesTo
      cases other with
      | fault | prompt =>
          obtain ⟨_, impossible, _⟩ := comesToOther
          cases impossible
      | crash crash' =>
          cases comesToOther
          rfl

section

variable {world : World} {input : String} {template : Option String}

theorem comesTo_of_error {error : PreviewError} {stage : Stage}
    (failed : previewPrompt world input template = .error (.failed error))
    (exitCode : error.exitCode = stage.exitCode) (faultClass : error.faultClass = stage.faultClass) :
    ComesTo (preview world input template) (.fault stage error.message) := by
  rw [preview, failed]
  refine ⟨_, rfl, ?_⟩
  rw [exitCode, faultClass]
  exact fails_failure "render" stage.faultClass error.message stage.exitCode

/-- Once there are settings and a batch, what is left is up to the template. -/
theorem previewPrompt_of_batch {settings : Settings} {text path : String} {batch : List Message}
    (loaded : Settings.load world { promptPath := template } = .ok settings)
    (read : world.readText input = .ok text) (accepted : readBatch text = .ok batch)
    (isPath : settings.prompt.path = some path) :
    previewPrompt world input template =
      ((Renderer.ofFile world path).mapError (.failed ∘ .prompt) >>= fun renderer =>
        (renderer.render batch).mapError (.map .prompt)) := by
  rw [previewPrompt, loaded, mapError_ok, ok_bind, loadBatch, read, mapError_ok, ok_bind, accepted,
    mapError_ok, ok_bind, PromptSettings.requirePath_eq_ok_iff.mpr isPath, mapError_ok, ok_bind]

theorem previewPrompt_of_compiled {settings : Settings} {text path source : String}
    {batch : List Message} {compiled : Template}
    (loaded : Settings.load world { promptPath := template } = .ok settings)
    (read : world.readText input = .ok text) (accepted : readBatch text = .ok batch)
    (isPath : settings.prompt.path = some path)
    (isRead : world.readText path = .ok source)
    (isCompiled : Template.compile source = some compiled) :
    previewPrompt world input template =
      ((compiled.render world.variableText?
          [("inputs", .list (batch.map Message.toVariable))]).mapError
        (.map fun () => .prompt .failedRendering) >>= fun text =>
          (Renderer.readPrompt text).mapError (.failed ∘ .prompt)) := by
  rw [previewPrompt_of_batch loaded read accepted isPath]
  simp only [Renderer.ofFile, isRead, Renderer.ofSource, isCompiled, mapError_ok, ok_bind,
    Renderer.render, Renderer.renderText, batchName]
  cases compiled.render world.variableText? [("inputs", .list (batch.map Message.toVariable))] with
  | error stop => cases stop <;> rfl
  | ok text =>
      rw [mapError_ok, ok_bind, mapError_ok, ok_bind]
      cases Renderer.readPrompt text <;> rfl

theorem TemplateEnds.comesTo {settings : Settings} {text path : String} {batch : List Message}
    {ending : Ending} (loaded : Settings.load world { promptPath := template } = .ok settings)
    (read : world.readText input = .ok text) (accepted : readBatch text = .ok batch)
    (isPath : settings.prompt.path = some path)
    (ends : TemplateEnds world path batch ending) :
    ComesTo (preview world input template) ending := by
  have atTemplate := previewPrompt_of_batch loaded read accepted isPath
  have afterwards {source : String} {compiled : Template} :=
    @previewPrompt_of_compiled world input template settings text path source batch compiled
      loaded read accepted isPath
  cases ends with
  | unreadable unread =>
      rw [Renderer.ofFile.eq_def, unread] at atTemplate
      exact comesTo_of_error atTemplate rfl rfl
  | malformed isRead refused =>
      simp only [Renderer.ofFile, isRead, Renderer.ofSource, refused] at atTemplate
      exact comesTo_of_error atTemplate rfl rfl
  | failed isRead isCompiled failed =>
      have failure := afterwards isRead isCompiled
      rw [failed] at failure
      exact comesTo_of_error failure rfl rfl
  | crashed isRead isCompiled crashed =>
      have crash := afterwards isRead isCompiled
      rw [crashed] at crash
      rw [preview, crash]
      rfl
  | refused isRead isCompiled rendered refused =>
      have failure := afterwards isRead isCompiled
      rw [rendered, mapError_ok, ok_bind, Renderer.readPrompt, refused] at failure
      exact comesTo_of_error failure rfl rfl
  | prompt isRead isCompiled rendered accepted =>
      have success := afterwards isRead isCompiled
      rw [rendered, mapError_ok, ok_bind, Renderer.readPrompt, accepted] at success
      rw [preview, success]
      exact ⟨_, rfl, rfl, decode_indented _⟩

theorem Ends.comesTo {ending : Ending} (ends : Ends world input template ending) :
    ComesTo (preview world input template) ending := by
  cases ends with
  | @settings error refused =>
      have failed : previewPrompt world input template = .error (.failed (.settings error)) := by
        rw [previewPrompt, refused, mapError_error, error_bind, Function.comp_apply]
      exact comesTo_of_error failed rfl rfl
  | @unreadable _ cause loaded unread =>
      have failed : previewPrompt world input template =
          .error (.failed (.batch (.unreadable input cause))) := by
        rw [previewPrompt, loaded, mapError_ok, ok_bind, loadBatch, unread, mapError_error,
          error_bind, mapError_error, error_bind, Function.comp_apply]
      exact comesTo_of_error failed rfl rfl
  | @batch _ _ error loaded read refused =>
      have failed : previewPrompt world input template = .error (.failed (.batch error)) := by
        rw [previewPrompt, loaded, mapError_ok, ok_bind, loadBatch, read, mapError_ok, ok_bind,
          refused, mapError_error, error_bind, Function.comp_apply]
      exact comesTo_of_error failed rfl rfl
  | template loaded read accepted isPath ends =>
      exact ends.comesTo loaded read accepted isPath

end

section

open Template

variable {dashes : Dashes} {names : List String} {mayLack : Bool} {others : List Node}

/-- By induction on the depth that is left: each insertion takes two calls of it. -/
theorem renderNodes_selfInserting {around : Surroundings} (own : ownName ∈ names)
    (starts : around.template.nodes = .insert dashes names mayLack :: others) (depth : Nat) :
    (∀ scope, renderNode around depth scope (.insert dashes names mayLack) = .crash .stack) ∧
      ∀ scope, renderNodes around depth scope around.template.nodes = .crash .stack := by
  induction depth with
  | zero => exact ⟨fun _ => rfl, fun _ => rfl⟩
  | succ depth inductionHypothesis =>
      obtain ⟨insertion, nodes⟩ := inductionHypothesis
      constructor
      · intro scope
        rw [renderNode]
        dsimp only
        rw [if_pos (List.contains_iff_mem.mpr own), nodes]
        rfl
      · intro scope
        rw [starts, renderNodes, List.foldlM_cons, if_pos rfl, insertion]
        rfl

theorem render_selfInserting {template : Template} (own : ownName ∈ names)
    (starts : template.nodes = .insert dashes names mayLack :: others)
    (environment? : String → Option String) (given : List (String × Json.Value)) :
    template.render environment? given = .error (.crashed .stack) := by
  have inserts : ∀ scope, renderNodes { template, environment? } stackDepth scope template.nodes =
      .crash .stack := (renderNodes_selfInserting own starts stackDepth).2
  simp only [render, inserts]
  rfl

/-- A template that starts by inserting itself uses the stack up, however deep that is, so that
the command shows nothing whatever the batch. -/
theorem preview_selfInserting {world : World} {input path source : String}
    {template : Option String} {settings : Settings} {text : String} {batch : List Message}
    {compiled : Template} (loaded : Settings.load world { promptPath := template } = .ok settings)
    (read : world.readText input = .ok text) (accepted : readBatch text = .ok batch)
    (isPath : settings.prompt.path = some path) (isRead : world.readText path = .ok source)
    (isCompiled : Template.compile source = some compiled) (own : ownName ∈ names)
    (starts : compiled.nodes = .insert dashes names mayLack :: others) :
    preview world input template = .error .stack :=
  (Ends.template loaded read accepted isPath
    (.crashed isRead isCompiled (render_selfInserting own starts _ _))).comesTo

example : (compile "\x7b% include 'prompt' %\x7d").map Template.nodes =
    some [.insert {} [ownName] false] := rfl

end

end PromptRelay.Command
