import DocumentGate.Proofs.UsableValues

/-!
# Loaded settings

What loading comes to, whatever stands in the place of the settings file.  Each setting is the
usable value that a readable file gives it, and its default where there is none, whatever the other
settings are given.  Four things hinder the loading of a file; where none of them does, settings
are loaded, and where one does, its fault is the outcome.
-/

namespace DocumentGate

namespace Dictionary

variable {Entry Value : Type} (name : Entry → String) (pick : Entry → Option Value)
  {entries : List Entry}

theorem get?_filterMap_cons (asked : String) (first : Entry) (rest : List Entry) :
    get? asked ((first :: rest).filterMap fun entry => (pick entry).map (name entry, ·)) =
      if name first = asked then
        (pick first).or (get? asked (rest.filterMap fun entry => (pick entry).map (name entry, ·)))
      else get? asked (rest.filterMap fun entry => (pick entry).map (name entry, ·)) := by
  cases picked : pick first with
  | none =>
      rw [List.filterMap_cons_none (by rw [picked]; rfl), Option.none_or, ite_self]
  | some value =>
      rw [List.filterMap_cons_some (by rw [picked]; rfl), Option.some_or]
      rfl

/-- What is found under a name among picked entries was picked under it. -/
theorem get?_filterMap_eq_none {asked : String} (absent : asked ∉ entries.map name) :
    get? asked (entries.filterMap fun entry => (pick entry).map (name entry, ·)) = none := by
  induction entries with
  | nil =>
      rfl
  | cons first rest ih =>
      rw [List.map_cons, List.mem_cons, not_or] at absent
      rw [get?_filterMap_cons, if_neg (Ne.symm absent.1)]
      exact ih absent.2

/-- Entries that are picked under distinct names are found under them. -/
theorem get?_filterMap (distinct : (entries.map name).Nodup) {entry : Entry}
    (among : entry ∈ entries) :
    get? (name entry) (entries.filterMap fun entry => (pick entry).map (name entry, ·)) =
      pick entry := by
  induction entries with
  | nil =>
      cases among
  | cons first rest ih =>
      rw [List.map_cons, List.nodup_cons] at distinct
      rw [get?_filterMap_cons]
      rcases List.mem_cons.mp among with rfl | later
      · rw [if_pos rfl, get?_filterMap_eq_none name pick distinct.1, Option.or_none]
      · have other : name first ≠ name entry := fun same =>
          distinct.1 (same ▸ List.mem_map_of_mem later)
        rw [if_neg other]
        exact ih distinct.2 later

end Dictionary

namespace Settings

/-! ## The table of a file -/

/-- The usable value of a field in a table, if there is one. -/
def given? {α : Type} (members : Toml.Members) (field : String) (use? : Toml → Option α) :
    Option α :=
  (Dictionary.get? field members).bind use?

/-- The settings that a table gives: each by its own value, and its default without a usable one. -/
def ofTable (members : Toml.Members) : Settings where
  idleTimeout := (given? members "idle_timeout_seconds" secondsOf?).getD defaults.idleTimeout
  scanInterval := (given? members "scan_interval_seconds" secondsOf?).getD defaults.scanInterval
  allowedOperations :=
    (given? members "allowed_operations" operationsOf?).getD defaults.allowedOperations
  deniedKeywords := (given? members "denied_keywords" keywordsOf?).getD defaults.deniedKeywords
  rootPrefix := ((given? members "root_prefix" textOf?).map Text.strip).getD defaults.rootPrefix
  depthLimit := (given? members "max_argument_depth" (wholeOf? none)).getD defaults.depthLimit
  connectTimeout := (given? members "connect_timeout" secondsOf?).getD defaults.connectTimeout
  poolLimit := (given? members "pool_max_size" (wholeOf? none)).getD defaults.poolLimit
  host := (given? members "host" textOf?).getD defaults.host
  port := (given? members "port" (wholeOf? (some 65536))).getD defaults.port
  sessionCookie := (given? members "session_cookie" textOf?).getD defaults.sessionCookie
  statusInterval :=
    (given? members "status_log_interval_seconds" secondsOf?).getD defaults.statusInterval

/-- The settings that are numbers of seconds. -/
def secondsFields : List String :=
  ["idle_timeout_seconds", "scan_interval_seconds", "connect_timeout",
    "status_log_interval_seconds"]

/-- A number of seconds in the table is a whole number for which there is no double. -/
def HasTooLarge (members : Toml.Members) : Prop :=
  ∃ field ∈ secondsFields, ∃ value, Dictionary.get? field members = some value ∧ IsTooLarge value

/-- A field of a file, and what is taken of its value. -/
abbrev FileField := String × (Toml → Except LoadFault (Option Json))

/-- What is taken of a table for a field, under its name. -/
def takeField (members : Toml.Members) (entry : FileField) :
    Except LoadFault (Option (String × Json)) :=
  match Dictionary.get? entry.1 members with
  | some value => do return (← entry.2 value).map fun value => (entry.1, value)
  | none => .ok none

theorem usable_eq (members : Toml.Members) :
    usable members = fileFields.filterMapM (takeField members) :=
  rfl

theorem errorOf?_takeField (members : Toml.Members) (entry : FileField) :
    errorOf? (takeField members entry) =
      (Dictionary.get? entry.1 members).bind fun value => errorOf? (entry.2 value) := by
  rw [takeField]
  cases Dictionary.get? entry.1 members with
  | none =>
      rfl
  | some value =>
      simp only [Option.bind_some]
      cases entry.2 value <;> rfl

/-- The fault with the seconds of a table, if there is one. -/
theorem findSome?_secondsFields {members : Toml.Members} {fault : LoadFault} :
    (secondsFields.map (·, fileSeconds)).findSome?
        (fun entry => errorOf? (takeField members entry)) = some fault ↔
      HasTooLarge members ∧ fault = .integerTooLarge := by
  have forward : ∀ fault, (secondsFields.map (·, fileSeconds)).findSome?
      (fun entry => errorOf? (takeField members entry)) = some fault →
        HasTooLarge members ∧ fault = .integerTooLarge := by
    intro fault failed
    rcases List.exists_of_findSome?_eq_some failed with ⟨entry, among, failed⟩
    rcases List.mem_map.mp among with ⟨field, seconds, rfl⟩
    rw [errorOf?_takeField, Option.bind_eq_some_iff] at failed
    rcases failed with ⟨value, found, failed⟩
    change errorOf? (fileSeconds value) = some fault at failed
    by_cases large : IsTooLarge value
    · rw [fileSeconds_of_isTooLarge large] at failed
      exact ⟨⟨field, seconds, value, found, large⟩, (Option.some.inj failed).symm⟩
    · rw [fileSeconds_of_not_isTooLarge large] at failed
      cases failed
  refine ⟨forward fault, ?_⟩
  rintro ⟨⟨field, seconds, value, found, large⟩, rfl⟩
  cases outcome : (secondsFields.map (·, fileSeconds)).findSome?
      fun entry => errorOf? (takeField members entry) with
  | some fault =>
      rw [(forward fault outcome).2]
  | none =>
      -- The field itself has a fault, so that there is a first one.
      have sound := List.findSome?_eq_none_iff.mp outcome _ (List.mem_map_of_mem seconds)
      rw [errorOf?_takeField, found] at sound
      change errorOf? (fileSeconds value) = none at sound
      rw [fileSeconds_of_isTooLarge large] at sound
      cases sound

/-- The seconds are the first fields of a file. -/
theorem fileFields_eq : fileFields = secondsFields.map (·, fileSeconds) ++ fileFields.drop 4 :=
  rfl

/-- The fault with a table is that with its seconds, else that with its operations. -/
theorem errorOf?_usable (members : Toml.Members) :
    errorOf? (usable members) =
      ((secondsFields.map (·, fileSeconds)).findSome?
        fun entry => errorOf? (takeField members entry)).or
        (given? members "allowed_operations" listFault?) := by
  have none_of_ok : ∀ json? : Option Json, errorOf? (.ok json? : Except LoadFault _) = none :=
    fun _ => rfl
  rw [usable_eq, errorOf?_filterMapM, fileFields_eq, List.findSome?_append]
  congr 1
  simp only [fileFields, List.drop, List.findSome?_cons, List.findSome?_nil, errorOf?_takeField,
    fileWhole_eq, fileText_eq, fileKeywords_eq, errorOf?_fileOperations, none_of_ok,
    Option.bind_fun_none, given?]
  cases (Dictionary.get? "allowed_operations" members).bind listFault? <;> rfl

/-- What is taken of a table that has no fault. -/
def picked (members : Toml.Members) (entry : FileField) : Option Json :=
  (Dictionary.get? entry.1 members).bind fun value => (entry.2 value).toOption.join

theorem takeField_of_none {members : Toml.Members} {entry : FileField}
    (sound : errorOf? (takeField members entry) = none) :
    takeField members entry = .ok ((picked members entry).map (entry.1, ·)) := by
  rw [errorOf?_takeField] at sound
  rw [takeField, picked]
  cases found : Dictionary.get? entry.1 members with
  | none =>
      rfl
  | some value =>
      rw [found, Option.bind_some] at sound
      cases taken : entry.2 value with
      | error fault =>
          rw [taken] at sound
          cases sound
      | ok json? =>
          rw [Option.bind_some, taken]
          simp only [taken]
          rfl

/-- The values that are taken of a table. -/
def pairsOf (members : Toml.Members) : Json.Members :=
  fileFields.filterMap fun entry => (picked members entry).map (entry.1, ·)

theorem usable_of_none {members : Toml.Members} (sound : errorOf? (usable members) = none) :
    usable members = .ok (pairsOf members) := by
  rw [usable_eq, errorOf?_filterMapM, List.findSome?_eq_none_iff] at sound
  exact filterMapM_of_ok fun entry among => takeField_of_none (sound entry among)

theorem get?_pairsOf {members : Toml.Members} {field : String}
    {take : Toml → Except LoadFault (Option Json)} (listed : (field, take) ∈ fileFields)
    {α : Type} {use? : Toml → Option α} {shown : α → Json}
    (taken : ∀ value, Dictionary.get? field members = some value →
      take value = .ok ((use? value).map shown)) :
    Dictionary.get? field (pairsOf members) = (given? members field use?).map shown := by
  have found : Dictionary.get? field (pairsOf members) = picked members (field, take) :=
    Dictionary.get?_filterMap Prod.fst (picked members) (by decide) listed
  rw [found, picked, given?]
  cases found : Dictionary.get? field members with
  | none =>
      rfl
  | some value =>
      exact congrArg (·.toOption.join) (taken value found)

/-! ## Settings of the table -/

section

variable {α β : Type} {members : Toml.Members} {field : String}
  {take : Toml → Except LoadFault (Option Json)} {use? : Toml → Option α} {shown : α → Json}

/-- What is usable and accepted is kept, and the default where there is none. -/
theorem readField_pairsOf (listed : (field, take) ∈ fileFields)
    (taken : ∀ value, Dictionary.get? field members = some value →
      take value = .ok ((use? value).map shown))
    {check : Json → Except FieldFault β} (kept : α → β)
    (accepted : ∀ value usable, use? value = some usable → check (shown usable) = .ok (kept usable))
    (default : β) :
    readField (pairsOf members) field default check =
      .valid (((given? members field use?).map kept).getD default) := by
  rw [readField, get?_pairsOf listed taken]
  cases found : given? members field use? with
  | none =>
      rfl
  | some usable =>
      rcases Option.bind_eq_some_iff.mp found with ⟨value, -, used⟩
      simp only [Option.map_some, accepted value usable used]
      rfl

/-- What is usable and accepted as it is becomes the setting. -/
theorem readField_pairsOf_id (listed : (field, take) ∈ fileFields)
    (taken : ∀ value, Dictionary.get? field members = some value →
      take value = .ok ((use? value).map shown))
    {check : Json → Except FieldFault α}
    (accepted : ∀ value usable, use? value = some usable → check (shown usable) = .ok usable)
    (default : α) :
    readField (pairsOf members) field default check =
      .valid ((given? members field use?).getD default) := by
  simpa using readField_pairsOf listed taken id accepted default

/-- A usable list of strings becomes the setting. -/
theorem readStrings_pairsOf (listed : (field, take) ∈ fileFields) (strings : α → List String)
    (taken : ∀ value, Dictionary.get? field members = some value →
      take value = .ok ((use? value).map fun usable => ofStrings (strings usable)))
    (default : List String) :
    readStrings (pairsOf members) field default =
      .valid (((given? members field use?).map strings).getD default) := by
  have entry := get?_pairsOf listed taken
  cases found : given? members field use? with
  | none =>
      rw [found] at entry
      exact readStrings_of_absent entry default
  | some usable =>
      rw [found] at entry
      exact readStrings_ofStrings entry default

end

/-- Where a table has no fault, its settings are read of what is taken of it. -/
theorem readFrom_pairsOf {members : Toml.Members} (small : ¬HasTooLarge members)
    (unhindered : given? members "allowed_operations" listFault? = none) :
    (ofTable members).ReadFrom (pairsOf members) := by
  have seconds : ∀ field ∈ secondsFields, ∀ default : Double,
      readField (pairsOf members) field default positiveDouble =
        .valid ((given? members field secondsOf?).getD default) := by
    intro field among default
    have listed : (field, fileSeconds) ∈ fileFields := by
      rw [fileFields_eq]
      exact List.mem_append_left _ (List.mem_map_of_mem among)
    refine readField_pairsOf_id listed ?_ (fun _ _ => positiveDouble_of_secondsOf?) default
    exact fun value found =>
      fileSeconds_of_not_isTooLarge fun large => small ⟨field, among, value, found, large⟩
  have texts : ∀ field, (field, fileText) ∈ fileFields → ∀ default : String,
      readField (pairsOf members) field default toText =
        .valid ((given? members field textOf?).getD default) := fun field listed default =>
    readField_pairsOf_id listed (fun value _ => fileText_eq value) (fun _ _ _ => rfl) default
  have wholes : ∀ field, (field, fileWhole none) ∈ fileFields → ∀ default : Int,
      readField (pairsOf members) field default positiveInteger =
        .valid ((given? members field (wholeOf? none)).getD default) := fun field listed default =>
    readField_pairsOf_id listed (fun value _ => fileWhole_eq none value)
      (fun _ _ => positiveInteger_of_wholeOf?) default
  constructor
  case idleTimeout =>
    exact seconds _ (by decide) _
  case scanInterval =>
    exact seconds _ (by decide) _
  case connectTimeout =>
    exact seconds _ (by decide) _
  case statusInterval =>
    exact seconds _ (by decide) _
  case depthLimit =>
    exact wholes _ (by simp [fileFields]) _
  case poolLimit =>
    exact wholes _ (by simp [fileFields]) _
  case host =>
    exact texts _ (by simp [fileFields]) _
  case sessionCookie =>
    exact texts _ (by simp [fileFields]) _
  case port =>
    exact readField_pairsOf_id (by simp [fileFields])
      (fun value _ => fileWhole_eq (some 65536) value) (fun _ _ => portNumber_of_wholeOf?) _
  case rootPrefix =>
    exact readField_pairsOf (by simp [fileFields]) (fun value _ => fileText_eq value) Text.strip
      (fun _ _ => prefixText_of_textOf?) _
  case deniedKeywords =>
    have listed : ("denied_keywords", fileKeywords) ∈ fileFields := by
      simp [fileFields]
    have read := readStrings_pairsOf listed id
      (fun value (_ : Dictionary.get? _ members = some value) => fileKeywords_eq value)
      defaults.deniedKeywords
    rw [Option.map_id] at read
    exact read
  case allowedOperations =>
    have sound : ∀ value, Dictionary.get? "allowed_operations" members = some value →
        fileOperations value = .ok ((operationsOf? value).map fun operations =>
          ofStrings (operations.map Operation.name)) := fun value found =>
      fileOperations_of_none (by rw [given?, found] at unhindered; exact unhindered)
    rw [readStrings_pairsOf (by simp [fileFields]) _ sound, ofTable]
    cases given? members "allowed_operations" operationsOf? with
    | none =>
        exact knownOperations_names _ Operation.all
    | some operations =>
        exact knownOperations_names _ operations

/-! ## The outcome of loading -/

/-- The table that a readable file holds. -/
def Source.table? : Source → Option Toml.Members
  | .bytes content => (Text.Utf8.decode content).toOption.bind fun text => (Toml.read text).toOption
  | _ => none

/-- The settings that are to be loaded: those of the table, or the defaults without one. -/
def Source.wanted (source : Source) : Settings :=
  source.table?.elim defaults ofTable

/-- What hinders the loading of the settings, and the fault that it ends with. -/
inductive Source.Hinders : Source → LoadFault → Prop
  /-- The bytes encode no text. -/
  | undecodable {content : List UInt8} {fault : Text.Utf8.Fault}
      (undecoded : Text.Utf8.decode content = .error fault) :
      Hinders (.bytes content) (.undecodable fault)
  /-- A whole number has too many digits to be read. -/
  | oversized {content : List UInt8} {text : List Char} {digits : Nat}
      (decoded : Text.Utf8.decode content = .ok text)
      (unread : Toml.read text = .error (.oversized digits)) :
      Hinders (.bytes content) (.oversizedLiteral digits)
  /-- There is no double for a whole number of seconds. -/
  | tooLarge {source : Source} {members : Toml.Members} (table : source.table? = some members)
      (large : HasTooLarge members) : Hinders source .integerTooLarge
  /-- A list or a table is among the operations. -/
  | listed {source : Source} {members : Toml.Members} {fault : LoadFault}
      (table : source.table? = some members) (small : ¬HasTooLarge members)
      (list : given? members "allowed_operations" listFault? = some fault) : Hinders source fault

theorem usable_of_hasTooLarge {members : Toml.Members} (large : HasTooLarge members) :
    usable members = .error .integerTooLarge := by
  rw [← errorOf?_eq_some_iff, errorOf?_usable, findSome?_secondsFields.mpr ⟨large, rfl⟩,
    Option.some_or]

theorem findSome?_secondsFields_eq_none {members : Toml.Members} (small : ¬HasTooLarge members) :
    (secondsFields.map (·, fileSeconds)).findSome?
      (fun entry => errorOf? (takeField members entry)) = none :=
  Option.eq_none_iff_forall_ne_some.mpr fun _ failed =>
    small (findSome?_secondsFields.mp failed).1

theorem usable_of_listFault {members : Toml.Members} {fault : LoadFault}
    (small : ¬HasTooLarge members)
    (list : given? members "allowed_operations" listFault? = some fault) :
    usable members = .error fault := by
  rw [← errorOf?_eq_some_iff, errorOf?_usable, findSome?_secondsFields_eq_none small,
    Option.none_or, list]

/-- A table without a fault gives its settings. -/
theorem ofMembers_pairsOf {members : Toml.Members} (small : ¬HasTooLarge members)
    (unhindered : given? members "allowed_operations" listFault? = none) :
    usable members = .ok (pairsOf members) ∧ ofMembers (pairsOf members) = .ok (ofTable members) := by
  refine ⟨usable_of_none ?_, ofMembers_eq_ok_iff.mpr (readFrom_pairsOf small unhindered)⟩
  rw [errorOf?_usable, findSome?_secondsFields_eq_none small, unhindered, Option.none_or]

/-- A table that can be read is taken and checked. -/
theorem load_of_table {source : Source} {members : Toml.Members}
    (table : source.table? = some members) :
    load source = (usable members >>= fun pairs => (ofMembers pairs).mapError .invalid) := by
  cases source with
  | missing | directory =>
      cases table
  | bytes content =>
      rw [Source.table?] at table
      rcases Option.bind_eq_some_iff.mp table with ⟨text, decoded, read⟩
      rw [load, toOption_eq_some_iff.mp decoded]
      change ofFileText text = _
      rw [ofFileText, toOption_eq_some_iff.mp read]
      refine bind_congr fun pairs => ?_
      cases ofMembers pairs <;> rfl

/-- What hinders the loading is its outcome. -/
theorem Source.Hinders.load_eq {source : Source} {fault : LoadFault}
    (hinders : source.Hinders fault) : load source = .error fault := by
  cases hinders with
  | undecodable undecoded =>
      rw [load, undecoded]
      rfl
  | oversized decoded unread =>
      rw [load, decoded]
      change ofFileText _ = _
      rw [ofFileText, unread]
  | tooLarge table large =>
      rw [load_of_table table, usable_of_hasTooLarge large]
      rfl
  | listed table small list =>
      rw [load_of_table table, usable_of_listFault small list]
      rfl

/-- What nothing hinders is loaded as it is to be. -/
theorem hinders_or_loaded (source : Source) :
    (∃ fault, source.Hinders fault) ∨ load source = .ok source.wanted := by
  cases table : source.table? with
  | some members =>
      by_cases large : HasTooLarge members
      · exact .inl ⟨_, .tooLarge table large⟩
      · cases list : given? members "allowed_operations" listFault? with
        | some fault =>
            exact .inl ⟨fault, .listed table large list⟩
        | none =>
            rcases ofMembers_pairsOf large list with ⟨taken, checked⟩
            right
            rw [load_of_table table, taken, Source.wanted, table]
            exact congrArg (Except.mapError LoadFault.invalid) checked
  | none =>
      rw [Source.wanted, table]
      cases source with
      | missing | directory =>
          exact .inr rfl
      | bytes content =>
          cases decoded : Text.Utf8.decode content with
          | error fault =>
              exact .inl ⟨_, .undecodable decoded⟩
          | ok text =>
              cases read : Toml.read text with
              | ok members =>
                  rw [Source.table?, decoded] at table
                  exact nomatch (congrArg Except.toOption read).symm.trans table
              | error fault =>
                  cases fault with
                  | oversized digits =>
                      exact .inl ⟨_, .oversized decoded read⟩
                  | malformed =>
                      right
                      rw [load, decoded]
                      change ofFileText text = _
                      rw [ofFileText, read]
                      rfl

/--
Loading has an outcome for whatever stands in the place of the file.  Settings are loaded if and
only if nothing hinders it, and they are then the wanted ones; what hinders it is the fault that it
ends with, and there is no other fault.
-/
theorem load_outcomes (source : Source) :
    (∀ settings, load source = .ok settings ↔
      (∀ fault, ¬source.Hinders fault) ∧ settings = source.wanted) ∧
    ∀ fault, load source = .error fault ↔ source.Hinders fault := by
  constructor
  · intro settings
    constructor
    · intro loaded
      have unhindered : ∀ fault, ¬source.Hinders fault := fun fault hinders =>
        nomatch loaded.symm.trans hinders.load_eq
      rcases hinders_or_loaded source with ⟨fault, hinders⟩ | wanted
      · exact (unhindered fault hinders).elim
      · exact ⟨unhindered, Except.ok.inj (loaded.symm.trans wanted)⟩
    · rintro ⟨unhindered, rfl⟩
      rcases hinders_or_loaded source with ⟨fault, hinders⟩ | wanted
      · exact (unhindered fault hinders).elim
      · exact wanted
  · intro fault
    refine ⟨fun failed => ?_, Source.Hinders.load_eq⟩
    rcases hinders_or_loaded source with ⟨cause, hinders⟩ | wanted
    · rw [← Except.error.inj (hinders.load_eq.symm.trans failed)]
      exact hinders
    · exact nomatch wanted.symm.trans failed

/-- An operation that could be taken does not help where a list stands beside it. -/
example : errorOf? (load (.bytes "allowed_operations = [[], \"find\"]".toUTF8.toList)) =
    some .listAmongOperations := by
  decide +kernel

/-- A byte that no text is encoded with hinders the loading, where defaults were to be loaded. -/
theorem load_strayByte :
    load (.bytes [0xFF]) = .error (.undecodable ⟨.invalidStart, 0, 1, 0xFF⟩) ∧
      Source.wanted (.bytes [0xFF]) = defaults ∧
      ¬∀ source, load source = .ok source.wanted := by
  have undecoded : Text.Utf8.decode [0xFF] = .error ⟨.invalidStart, 0, 1, 0xFF⟩ := by
    decide
  have failed : load (.bytes [0xFF]) = .error (.undecodable ⟨.invalidStart, 0, 1, 0xFF⟩) := by
    rw [load, undecoded]
    rfl
  refine ⟨failed, ?_, fun loaded => nomatch failed.symm.trans (loaded (.bytes [0xFF]))⟩
  rw [Source.wanted, Source.table?, undecoded]
  rfl

end Settings
end DocumentGate
