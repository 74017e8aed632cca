import DocumentGate.Proofs.Results
import DocumentGate.Proofs.TrimmedTexts
import DocumentGate.Settings.Validation

/-!
# Settings that are accepted

Settings are accepted where each of them is, whatever the others are: the parts of a validation
do not depend on each other.
-/

namespace DocumentGate.Settings

namespace Validated

variable {α β : Type}

/-- A part applied to another is accepted if and only if both are. -/
theorem apply_eq_valid_iff {function : Validated (α → β)} {value : Validated α} {result : β} :
    function.apply value = .valid result ↔
      ∃ map argument, function = .valid map ∧ value = .valid argument ∧ map argument = result := by
  cases function <;> cases value <;> simp [Validated.apply]

theorem seq_eq_valid_iff {function : Validated (α → β)} {value : Validated α} {result : β} :
    function <*> value = .valid result ↔
      ∃ map argument, function = .valid map ∧ value = .valid argument ∧ map argument = result :=
  apply_eq_valid_iff

theorem map_eq_valid_iff {function : α → β} {value : Validated α} {result : β} :
    function <$> value = .valid result ↔
      ∃ argument, value = .valid argument ∧ function argument = result := by
  cases value with
  | valid argument =>
      exact ⟨fun same => ⟨argument, rfl, Validated.valid.inj same⟩, by
        rintro ⟨_, same, rfl⟩
        obtain rfl := Validated.valid.inj same
        rfl⟩
  | invalid problems =>
      exact ⟨nofun, nofun⟩

theorem toExcept_eq_ok_iff {value : Validated α} {result : α} :
    value.toExcept = .ok result ↔ value = .valid result := by
  cases value <;> simp [Validated.toExcept]

theorem ofResult_eq_valid_iff {field : String} {result : Except FieldFault α} {value : α} :
    ofResult field result = .valid value ↔ result = .ok value := by
  cases result <;> simp [ofResult]

end Validated

/-- Each setting is what is read of its name. -/
structure ReadFrom (settings : Settings) (members : Json.Members) : Prop where
  idleTimeout : readField members "idle_timeout_seconds" defaults.idleTimeout positiveDouble =
    .valid settings.idleTimeout
  scanInterval : readField members "scan_interval_seconds" defaults.scanInterval positiveDouble =
    .valid settings.scanInterval
  allowedOperations : knownOperations "allowed_operations"
    (readStrings members "allowed_operations" (Operation.all.map Operation.name)) =
      .valid settings.allowedOperations
  deniedKeywords : readStrings members "denied_keywords" defaults.deniedKeywords =
    .valid settings.deniedKeywords
  rootPrefix : readField members "root_prefix" defaults.rootPrefix prefixText =
    .valid settings.rootPrefix
  depthLimit : readField members "max_argument_depth" defaults.depthLimit positiveInteger =
    .valid settings.depthLimit
  connectTimeout : readField members "connect_timeout" defaults.connectTimeout positiveDouble =
    .valid settings.connectTimeout
  poolLimit : readField members "pool_max_size" defaults.poolLimit positiveInteger =
    .valid settings.poolLimit
  host : readField members "host" defaults.host toText = .valid settings.host
  port : readField members "port" defaults.port portNumber = .valid settings.port
  sessionCookie : readField members "session_cookie" defaults.sessionCookie toText =
    .valid settings.sessionCookie
  statusInterval : readField members "status_log_interval_seconds" defaults.statusInterval
    positiveDouble = .valid settings.statusInterval

/-- Settings are accepted if and only if each of them is. -/
theorem ofMembers_eq_ok_iff {members : Json.Members} {settings : Settings} :
    ofMembers members = .ok settings ↔ settings.ReadFrom members := by
  rw [ofMembers, Validated.toExcept_eq_ok_iff, validate]
  simp only [Validated.seq_eq_valid_iff, Validated.map_eq_valid_iff]
  constructor
  · intro read
    obtain ⟨_, _, ⟨_, _, ⟨_, _, ⟨_, _, ⟨_, _, ⟨_, _, ⟨_, _, ⟨_, _, ⟨_, _, ⟨_, _, ⟨_, _, ⟨_,
      idle, rfl⟩, scan, rfl⟩, operations, rfl⟩, keywords, rfl⟩, root, rfl⟩, depth, rfl⟩,
      connect, rfl⟩, pool, rfl⟩, host, rfl⟩, port, rfl⟩, cookie, rfl⟩, status, rfl⟩ := read
    exact ⟨idle, scan, operations, keywords, root, depth, connect, pool, host, port, cookie, status⟩
  · intro read
    exact ⟨_, _, ⟨_, _, ⟨_, _, ⟨_, _, ⟨_, _, ⟨_, _, ⟨_, _, ⟨_, _, ⟨_, _, ⟨_, _, ⟨_, _, ⟨_,
      read.idleTimeout, rfl⟩, read.scanInterval, rfl⟩, read.allowedOperations, rfl⟩,
      read.deniedKeywords, rfl⟩, read.rootPrefix, rfl⟩, read.depthLimit, rfl⟩,
      read.connectTimeout, rfl⟩, read.poolLimit, rfl⟩, read.host, rfl⟩, read.port, rfl⟩,
      read.sessionCookie, rfl⟩, read.statusInterval, rfl⟩

/-- A setting that is not given has its default. -/
theorem readField_of_absent {α : Type} {members : Json.Members} {field : String}
    (absent : Dictionary.get? field members = none) (default : α)
    (check : Json → Except FieldFault α) :
    readField members field default check = .valid default := by
  rw [readField, absent]

/-- A list of strings that is not given has its default. -/
theorem readStrings_of_absent {members : Json.Members} {field : String}
    (absent : Dictionary.get? field members = none) (default : List String) :
    readStrings members field default = .valid default := by
  rw [readStrings, absent]

/-- The settings where only the root prefix and the denied keywords are not the default ones. -/
def forCommands (root : String) (keywords : List String) : Settings :=
  { defaults with rootPrefix := root, deniedKeywords := keywords }

theorem readFrom_forCommands {members : Json.Members} {root : String} {keywords : List String}
    (others : ∀ field, field ≠ "root_prefix" → field ≠ "denied_keywords" →
      Dictionary.get? field members = none)
    (rootRead : readField members "root_prefix" defaults.rootPrefix prefixText = .valid root)
    (keywordsRead : readStrings members "denied_keywords" defaults.deniedKeywords =
      .valid keywords) : (forCommands root keywords).ReadFrom members := by
  constructor
  case rootPrefix =>
    exact rootRead
  case deniedKeywords =>
    exact keywordsRead
  case allowedOperations =>
    rw [readStrings_of_absent (others _ (by decide) (by decide))]
    rfl
  all_goals
    simp only [forCommands]
    exact readField_of_absent (others _ (by decide) (by decide)) _ _

/-- A root prefix that is accepted is what trimming leaves of a text that is not blank. -/
theorem prefixText_eq_ok {value : Json} {text : String} (read : prefixText value = .ok text) :
    ∃ whole : String, Text.isBlankText whole = false ∧ text = Text.strip whole := by
  rcases bind_eq_ok read with ⟨whole, -, rest⟩
  split at rest
  · cases rest
  · rename_i shown
    exact ⟨whole, by simpa using shown, (Except.ok.inj rest).symm⟩

/-- The root prefix of accepted settings begins with a character that is not blank. -/
theorem ReadFrom.rootPrefix_starts {settings : Settings} {members : Json.Members}
    (read : settings.ReadFrom members) :
    ∃ first rest, settings.rootPrefix.toList = first :: rest ∧ Text.isBlank first = false := by
  have root := read.rootPrefix
  unfold readField at root
  split at root
  · rcases prefixText_eq_ok (Validated.ofResult_eq_valid_iff.mp root) with ⟨whole, shown, trimmed⟩
    have left : Text.stripChars whole.toList ≠ [] := Text.stripChars_ne_nil shown
    rcases List.exists_cons_of_ne_nil left with ⟨first, rest, split⟩
    refine ⟨first, rest, ?_, Text.head?_stripChars whole.toList first (by rw [split]; rfl)⟩
    rw [trimmed, Text.strip, String.toList_ofList, split]
  · rw [← Validated.valid.inj root]
    exact ⟨'d', ['b'], rfl, rfl⟩

end DocumentGate.Settings
