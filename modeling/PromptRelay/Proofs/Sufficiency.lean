import PromptRelay.Proofs.Messenger.Operation
import PromptRelay.Proofs.Settings.Environment
import PromptRelay.Proofs.Settings.Validity
import PromptRelay.Startup

/-!
Contract: accepted settings suffice for all that is built from them.

Owns:
- the errors by which a messenger tells that a setting is missing after all;
- that no broker brings forth such an error when Kafka is connected to, nor NATS in any
  sequence of operations, if the settings are accepted;
- that the agent is never refused for its settings once they are accepted.

Does not own: what brokers do, and which other errors there are.
-/

namespace PromptRelay

open PromptRelay.Action (FailsWithin)

/-- The errors by which a messenger tells that a setting is missing. -/
def MessengerError.TellsOfSettings : MessengerError → Prop
  | .settings _ => True
  | .connect reason =>
    reason = "nats requires messenger.group_id" ∨ reason = "nats has no source subject"
  | _ => False

/-- An error that does not tell of settings. -/
abbrev MessengerError.IsOutside (error : MessengerError) : Prop :=
  ¬ error.TellsOfSettings

/-- An account that begins otherwise does not tell of settings. -/
theorem isOutside_connect {reason : String} (begins : reason.toList.head? ≠ some 'n') :
    (MessengerError.connect reason).IsOutside := by
  rintro (group | subject)
  · subst group
    exact begins rfl
  · subst subject
    exact begins rfl

theorem isOutside_connect_detail : (MessengerError.connect detail).IsOutside :=
  isOutside_connect (by decide)

/-! ## Kafka -/

namespace Kafka

variable {σ : Type} (broker : Broker σ)

theorem readerPlaces_isOutside (known : Partitions) (topics : List String)
    {error : MessengerError} (failed : readerPlaces known topics = .error error) :
    error.IsOutside := by
  induction topics generalizing error with
  | nil => cases failed
  | cons topic topics inductionHypothesis =>
      unfold readerPlaces at failed
      split at failed
      · obtain failedLater | ⟨_, _, impossible⟩ := Result.bind_eq_error_iff.mp failed
        · exact inductionHypothesis failedLater
        · cases impossible
      · cases failed
        apply isOutside_connect
        simp [String.toList_append]

theorem openReaders_failsWithin (places : List Place) :
    (openReaders broker places).FailsWithin MessengerError.IsOutside := by
  induction places with
  | nil => exact .pure []
  | cons place places inductionHypothesis =>
      refine .bind (.mapError fun _ => isOutside_connect_detail) fun _ => ?_
      refine .bind (.mapError fun _ => isOutside_connect_detail) fun offset => ?_
      exact .bind inductionHypothesis fun readers => .pure _

theorem connect_failsWithin (topics : Topics) :
    (connect broker topics).FailsWithin MessengerError.IsOutside := by
  unfold connect
  split
  · exact .pure _
  · refine .bind (.mapError fun _ => isOutside_connect_detail) fun known => ?_
    refine .bind (.ofExcept fun _ failed => readerPlaces_isOutside _ _ failed) fun places => ?_
    exact .bind (openReaders_failsWithin broker places) fun readers => .pure _

end Kafka

/-! ## NATS -/

namespace Nats

/-- Wherever the group is asked for, it is there. -/
structure IsSupplied (settings : MessengerSettings) : Prop where
  group : settings.hasTopics = true → ∃ group, requireGroup settings = .ok group

section

variable {σ : Type} (server : Server σ) {settings : MessengerSettings}

theorem atStream_isOutside (name : String) : (atStream name).IsOutside := by
  apply isOutside_connect
  simp [String.toList_append]

theorem atSubject_isOutside (subject : String) : (atSubject subject).IsOutside := by
  apply isOutside_connect
  simp [String.toList_append]

theorem atConsumer_isOutside (name : String) : (atConsumer name).IsOutside := by
  apply isOutside_connect
  simp [String.toList_append]

theorem ensure_failsWithin {look : σ → Finding × σ} {create : Action Unit σ Unit}
    {error : MessengerError} (outside : error.IsOutside) :
    (ensure look create error).FailsWithin MessengerError.IsOutside := by
  intro state other failed
  unfold ensure at failed
  split at failed
  case h_1 => cases failed
  case h_2 between _ => exact FailsWithin.mapError (fun _ => outside) between other failed
  case h_3 =>
    cases failed
    exact outside

theorem openConnection_failsWithin (stream : Option String) :
    (openConnection server settings stream).FailsWithin MessengerError.IsOutside := by
  refine .bind (.mapError fun _ => isOutside_connect_detail) fun _ => ?_
  cases stream with
  | none => exact .pure ()
  | some name =>
      by_cases named : isName name = true
      · simp only [named, if_true]
        exact ensure_failsWithin (atStream_isOutside name)
      · simp only [named]
        exact .fail (atStream_isOutside name)

theorem requireGroup_failsWithin (supplied : IsSupplied settings)
    (active : settings.hasTopics = true) :
    (Action.ofExcept (requireGroup settings) : Transport σ String).FailsWithin
      MessengerError.IsOutside := by
  obtain ⟨group, given⟩ := supplied.group active
  apply FailsWithin.ofExcept
  intro error failed
  rw [given] at failed
  cases failed

theorem connect_failsWithin (supplied : IsSupplied settings) :
    (connect server settings).FailsWithin MessengerError.IsOutside := by
  have opening (stream : Option String) :
      (onServer (openConnection server settings stream) >>= fun _ =>
        Action.change fun session : Session σ => { session with isConnected := true }).FailsWithin
          MessengerError.IsOutside :=
    .bind (.onPart (openConnection_failsWithin server stream)) fun _ => .change _
  refine .bind .read fun session => ?_
  split
  · exact .pure ()
  · dsimp only
    split
    case isTrue sinks =>
      have active : settings.hasTopics = true := by
        simp_all [MessengerSettings.hasTopics, Topics.hasSink, MessengerSettings.topics]
      refine .bind (requireGroup_failsWithin supplied active) fun group => ?_
      exact .bind (.pure (some group)) opening
    case isFalse => exact .bind (.pure none) opening

theorem bindConsumer_failsWithin (subject name : String) :
    (bindConsumer server subject name).FailsWithin MessengerError.IsOutside := by
  unfold bindConsumer
  split
  · exact .fail (atSubject_isOutside subject)
  · refine .bind (.mapError fun _ => atSubject_isOutside subject) fun stream => ?_
    refine .bind ?_ fun _ => ?_
    · intro state error failed
      dsimp only at failed
      split at failed
      · cases failed
      · cases failed
        exact atStream_isOutside stream
    · refine .bind (ensure_failsWithin (atConsumer_isOutside name)) fun _ => ?_
      exact .mapError fun _ => atConsumer_isOutside name

/-- There is a subject to subscribe to, and a group to name the consumer. -/
theorem subscribe_failsWithin (supplied : IsSupplied settings)
    (enabled : settings.topics.hasSource = true) :
    (subscribe server settings).FailsWithin MessengerError.IsOutside := by
  have active : settings.hasTopics = true := by
    simp_all [MessengerSettings.hasTopics, Topics.hasSource, MessengerSettings.topics]
  refine .bind .read fun session => ?_
  split
  · exact .pure ()
  · cases sources : settings.sources with
    | nil => simp [Topics.hasSource, MessengerSettings.topics, sources] at enabled
    | cons subject others =>
        refine .bind (requireGroup_failsWithin supplied active) fun group => ?_
        refine .bind (connect_failsWithin server supplied) fun _ => ?_
        exact .bind (.onPart (bindConsumer_failsWithin server subject group)) fun _ => .change _

theorem takeDelivery_failsWithin :
    (takeDelivery server).FailsWithin MessengerError.IsOutside := by
  intro state error failed
  unfold takeDelivery at failed
  -- Only deliveries and acknowledgements fail here, and they tell of reading.
  repeat' split at failed
  all_goals
    cases failed
    try exact id

theorem consume_failsWithin (supplied : IsSupplied settings) :
    (consume server settings).FailsWithin MessengerError.IsOutside := by
  unfold consume
  split
  · exact .pure none
  · rename_i enabled
    refine .bind (subscribe_failsWithin server supplied (by simpa using enabled)) fun _ => ?_
    refine .bind (.onPart (takeDelivery_failsWithin server)) fun found => ?_
    cases found with
    | none => exact .pure none
    | some payload =>
        refine .bind (.ofExcept fun error failed => ?_) fun message => .pure _
        obtain ⟨cause, _, same⟩ := Result.mapError_eq_error_iff.mp failed
        rw [same]
        exact id

theorem publishAll_failsWithin (payload : Text.Bytes) (subjects : List String) :
    (publishAll server payload subjects).FailsWithin MessengerError.IsOutside := by
  induction subjects with
  | nil => exact .pure ()
  | cons subject subjects inductionHypothesis =>
      exact .bind (.mapError fun _ => id) fun _ => inductionHypothesis

theorem produce_failsWithin (supplied : IsSupplied settings) (message : Message) :
    (produce server settings message).FailsWithin MessengerError.IsOutside := by
  unfold produce
  split
  · exact .pure ()
  · refine .bind (connect_failsWithin server supplied) fun _ => ?_
    exact .onPart (publishAll_failsWithin server _ _)

theorem flush_failsWithin : (flush server).FailsWithin MessengerError.IsOutside := by
  refine .bind .read fun session => ?_
  split
  · exact .mapError fun _ => id
  · exact .pure ()

theorem messenger_failsWithin (supplied : IsSupplied settings) :
    (messenger server settings).FailsWithin MessengerError.IsOutside where
  consume := consume_failsWithin server supplied
  consumeBatch := collect_failsWithin (consume_failsWithin server supplied) _
  produce := produce_failsWithin server supplied
  flush := flush_failsWithin server
  terminate := .change _

end

/-- A text of which trimming leaves something is not blank. -/
theorem isBlankText_of_nonBlank?_isSome {text : String}
    (given : (Text.nonBlank? text).isSome = true) : Text.isBlankText text = false := by
  rw [Bool.eq_false_iff]
  intro blank
  have nothing : Text.trimmed text = "" := by
    rw [Text.trimmed, trim_eq_nil_of_blank blank, String.ofList_nil]
  simp [Text.nonBlank?, nothing] at given

theorem isSupplied_of_validate {settings : MessengerSettings}
    (valid : settings.validate = .ok ()) (nats : settings.kind = some .nats) :
    IsSupplied settings := by
  obtain ⟨kind, required, checked⟩ := Result.bind_eq_ok_iff.mp valid
  have isNats : kind = .nats := by
    simpa [MessengerSettings.requireKind, nats, eq_comm] using required
  subst isNats
  refine ⟨fun active => ?_⟩
  simp only [active, Bool.true_and] at checked
  split at checked
  · cases checked
  · split at checked
    · cases checked
    case isFalse given =>
      cases named : settings.groupId with
      | none => simp [named] at given
      | some group =>
          have visible : (Text.nonBlank? group).isSome = true := by
            cases kept : Text.nonBlank? group with
            | none => simp [named, kept] at given
            | some _ => rfl
          have notBlank := isBlankText_of_nonBlank?_isSome visible
          exact ⟨group, by simp [requireGroup, named, Option.filter_some, notBlank]⟩

end Nats

/-! ## Starting -/

section

variable {settings : Settings}

theorem connect_isOutside {σ : Type} (brokers : Brokers σ) (state : σ)
    (complete : settings.Complete) {error : MessengerError}
    (failed : connect brokers settings.messenger state = .failed error) : error.IsOutside := by
  obtain ⟨kind, given⟩ := complete.kind
  unfold connect at failed
  rw [MessengerSettings.requireKind, given] at failed
  cases kind with
  | nats => cases failed
  | kafka =>
      dsimp only at failed
      cases course : Kafka.connect brokers.kafka settings.messenger.topics state with
      | mk outcome broker =>
          rw [course] at failed
          cases outcome with
          | done backend => cases failed
          | failed cause =>
              cases failed
              exact Kafka.connect_failsWithin brokers.kafka _ state error
                (congrArg Prod.fst course)
          | halted => cases failed

/-- Once settings are accepted, the agent may be refused for its template or its brokers,
but not for a setting. -/
theorem start_ne_failed_settings {σ : Type} (world : World) (brokers : Brokers σ) (state : σ)
    (complete : settings.Complete) {error : StartError}
    (failed : start world brokers state settings = .failed error) :
    (∀ violation, error ≠ .settings violation) ∧
      ∀ cause, error = .messenger cause → cause.IsOutside := by
  obtain ⟨path, required⟩ := complete.path
  obtain ⟨backend, selected⟩ := complete.backend
  cases loaded : Renderer.ofFile world path with
  | error cause =>
      have refused : error = .prompt cause := by
        simpa [start, required, loaded, eq_comm] using failed
      subst refused
      exact ⟨fun _ => nofun, nofun⟩
  | ok renderer =>
      cases course : connect brokers settings.messenger state with
      | done connection =>
          simp [start, required, loaded, selected, course] at failed
      | halted => simp [start, required, loaded, selected, course] at failed
      | failed cause =>
          have refused : error = .messenger cause := by
            simpa [start, required, loaded, selected, course, eq_comm]
              using failed
          subst refused
          refine ⟨fun _ => nofun, ?_⟩
          rintro _ ⟨⟩
          exact connect_isOutside brokers state complete course

end

/-! ## Summary -/

/-- For accepted settings the prompt path, the backend and the messenger kind can be
looked up. Starting from them never fails for a setting, be it on the way or in the
messenger. If their messenger is NATS, it is connected, and whatever its server does, no
sequence of operations on it ever misses the group or a subject. -/
theorem Settings.suffices_of_validate (settings : Settings) (valid : settings.validate = .ok ()) :
    (∃ path, settings.prompt.requirePath = .ok path) ∧
    (∃ backend, settings.completion.backend = .ok backend) ∧
    (∃ kind, settings.messenger.requireKind = .ok kind) ∧
    ∀ (σ : Type) (brokers : Brokers σ) (state : σ),
      (∀ world violation,
        start world brokers state settings ≠ .failed (.settings violation) ∧
        start world brokers state settings ≠ .failed (.messenger (.settings violation))) ∧
      (settings.messenger.kind = some .nats →
        ∃ session, connect brokers settings.messenger state = .done (.nats session) ∧
          ∀ operations, ∀ outcome ∈
              (Nats.messenger brokers.nats settings.messenger).answers operations session,
            outcome ≠ .failed (.connect "nats requires messenger.group_id") ∧
            outcome ≠ .failed (.connect "nats has no source subject")) := by
  have complete := complete_of_validate valid
  obtain ⟨kind, given⟩ := complete.kind
  refine ⟨complete.path, complete.backend, ⟨kind, by simp [MessengerSettings.requireKind, given]⟩,
    fun σ brokers state => ⟨fun world violation => ⟨?_, ?_⟩, fun nats => ?_⟩⟩
  · intro failed
    exact (start_ne_failed_settings world brokers state complete failed).1 violation rfl
  · intro failed
    exact (start_ne_failed_settings world brokers state complete failed).2 _ rfl trivial
  · obtain ⟨_, messengerValid, _⟩ := Result.bind_eq_ok_iff.mp valid
    have supplied := Nats.isSupplied_of_validate messengerValid nats
    have within := Nats.messenger_failsWithin brokers.nats supplied
    refine ⟨{ server := state }, by simp [connect, MessengerSettings.requireKind, nats], ?_⟩
    intro operations outcome answered
    constructor
    · intro failed
      rw [failed] at answered
      exact within.answers operations _ answered (.inl rfl)
    · intro failed
      rw [failed] at answered
      exact within.answers operations _ answered (.inr rfl)

/-- Settings for NATS with a source and a sink. -/
def streamingSettings : Settings where
  messenger := {
    kind := some .nats
    servers := ["nats://127.0.0.1:1"]
    groupId := some " agents "
    sources := ["questions"]
    sinks := ["answers"] }
  prompt := { path := some "prompt.yaml" }
  completion := {
    ollama := { baseUrl := some "http://localhost:11434", modelName := some "llama3" } }

/-- Where no server can be reached, they are accepted, and what fails is not the group. -/
theorem streamingSettings_suffice :
    streamingSettings.validate = .ok () ∧
      ∃ session,
        connect Brokers.unreachable streamingSettings.messenger () = .done (.nats session) ∧
        ∀ outcome ∈ (Nats.messenger Brokers.unreachable.nats streamingSettings.messenger).answers
            [.consumeBatch, .produce (.user "42"), .flush, .terminate, .consume] session,
          outcome ≠ .failed (.connect "nats requires messenger.group_id") := by
  have valid : streamingSettings.validate = .ok () := by rfl
  have sufficient := (Settings.suffices_of_validate streamingSettings valid).2.2.2
  obtain ⟨session, connected, answered⟩ := (sufficient Unit Brokers.unreachable ()).2 rfl
  exact ⟨valid, session, connected, fun outcome member => (answered _ outcome member).1⟩

end PromptRelay
