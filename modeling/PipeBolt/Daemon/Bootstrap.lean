import PipeBolt.Api.Handler
import PipeBolt.Daemon.RuntimeConfig
import PipeBolt.Daemon.Supervisor
import PipeBolt.Storage.JsonColumn

/-!
# The configuration of a start

`load_config` of the daemon's `main`, with `load_project_config` of its configuration loader.  A
daemon with a project in PostgreSQL starts from the row of the project; where there is none, it
starts from a file and creates the row.

`create_project_config` stores version 0 as version 1, and `load_config` returns the configuration
of the file as it was, so the daemon runs a version that the storage does not have.

* `loadConfig_bootstrap_ok`: what a first start has done.
* `restart_eq_ok_iff`: when the next start finds what the first one returned.
* `bootstrap_idempotent_iff`: when both starts agree and the active version is the stored one.
-/

namespace PipeBolt
namespace Daemon

open Domain Storage Fallible Rust

/-! ## Configuration files -/

/-- `ProjectConfigLoadOptions`. -/
structure ProjectConfigLoadOptions where
  path : String
  maxBytes : UInt64

/-- `ConfigLoadError`, as far as `load_config` returns it. -/
inductive ConfigLoadError where
  | notAFile (path : String)
  | tooLarge (actual max : UInt64)
  | read (path source : String)
  | json (path source : String)
  | validation (error : DomainError)
  | missingEnv (name : String)
  | projectConfigNotFound (projectId : String)
  | storage (error : StorageError)
  | projectIdMismatch (expected actual : String)

/-- The file system at a start, and how `serde_json` reads the bytes of a configuration. -/
structure ConfigFiles where
  isFile : String → Except String Bool
  bytes : String → Except String (List UInt8)
  fromSlice : List UInt8 → Except String ProjectConfig

/-- `validate_config_path`. -/
def validateConfigPath (files : ConfigFiles) (path : String) : Except ConfigLoadError Unit := do
  let isFile ← (files.isFile path).mapError (.read path)
  if !isFile then .error (.notAFile path) else .ok ()

/-- `read_bounded_file`: at most one byte more than allowed is read. -/
def readBoundedFile (files : ConfigFiles) (path : String) (maxBytes : UInt64) :
    Except ConfigLoadError (List UInt8) := do
  let contents ← (files.bytes path).mapError (.read path)
  let bytes := contents.take (min (maxBytes.toNat + 1) (2 ^ 64 - 1))
  let actual := UInt64.ofNat bytes.length
  if maxBytes < actual then .error (.tooLarge actual maxBytes) else .ok bytes

/-- `load_project_config` of the configuration loader. -/
def loadProjectConfig (files : ConfigFiles) (options : ProjectConfigLoadOptions) :
    Except ConfigLoadError ProjectConfig := do
  validateConfigPath files options.path
  let bytes ← readBoundedFile files options.path options.maxBytes
  let config ← (files.fromSlice bytes).mapError (.json options.path)
  config.validate.mapError .validation
  return config

/-- A file within the bound is read whole. -/
theorem readBoundedFile_ok {files : ConfigFiles} {path : String} {maxBytes : UInt64}
    {contents : List UInt8} (hbytes : files.bytes path = .ok contents)
    (hlength : contents.length ≤ maxBytes.toNat) :
    readBoundedFile files path maxBytes = .ok contents := by
  have hmax := maxBytes.toNat_lt
  have htake : contents.take (min (maxBytes.toNat + 1) (2 ^ 64 - 1)) = contents :=
    List.take_of_length_le (by omega)
  have hactual : (UInt64.ofNat contents.length).toNat = contents.length :=
    Nat.mod_eq_of_lt (by omega)
  refine bind_eq_ok_iff.mpr ⟨contents, mapError_eq_ok_iff.mpr hbytes, ?_⟩
  simp only [htake]
  refine if_neg ?_
  rw [UInt64.lt_iff_toNat_lt, hactual]
  omega

/-- A regular file within the bound that is a valid configuration is accepted. -/
theorem loadProjectConfig_ok {files : ConfigFiles} {options : ProjectConfigLoadOptions}
    {contents : List UInt8} {config : ProjectConfig} (hfile : files.isFile options.path = .ok true)
    (hbytes : files.bytes options.path = .ok contents)
    (hlength : contents.length ≤ options.maxBytes.toNat)
    (hparse : files.fromSlice contents = .ok config) (hvalid : config.validate = .ok ()) :
    loadProjectConfig files options = .ok config := by
  have hpath : validateConfigPath files options.path = .ok () := by
    refine bind_eq_ok_iff.mpr ⟨true, mapError_eq_ok_iff.mpr hfile, ?_⟩
    rfl
  refine check_eq_ok_iff.mpr ⟨hpath, ?_⟩
  refine bind_eq_ok_iff.mpr ⟨contents, readBoundedFile_ok hbytes hlength, ?_⟩
  refine bind_eq_ok_iff.mpr ⟨config, mapError_eq_ok_iff.mpr hparse, ?_⟩
  exact check_eq_ok_iff.mpr ⟨mapError_eq_ok_iff.mpr hvalid, rfl⟩

/-! ## A start -/

/-- `ProjectConfigSource`. -/
inductive ProjectConfigSource where
  | file (options : ProjectConfigLoadOptions)
  | postgres (projectId : ProjectId) (bootstrapFile : Option ProjectConfigLoadOptions)

/-- What a start draws from outside: its files, the failure of its query for the row, and the
session of its creation. -/
structure Start (ρ : Type) where
  files : ConfigFiles
  queryFailure : Option String
  session : Session ρ

/-- `validate_bootstrap_project_id`. -/
def validateBootstrapProjectId (config : ProjectConfig) (expectedProjectId : ProjectId) :
    Except ConfigLoadError Unit :=
  if config.id ≠ expectedProjectId then
    .error (.projectIdMismatch expectedProjectId.raw config.id.raw)
  else .ok ()

def DATABASE_URL_ENV : String := "PIPE_BOLT_DATABASE_URL"

section LoadConfig

variable {ρ : Type} (format : Format) (cipher : SecretCipher ρ) (column : Value → Value)

/-- `load_project_config` of the storage, through the `config` column. -/
def loadStoredConfig (queryFailure : Option String) (projectId : ProjectId) (db : Database) :
    Except StorageError (Option ProjectConfig) :=
  match queryFailure with
  | some reason => .error (.sqlx (.io reason))
  | none => (db.configs.find? projectId.raw).mapM fun row =>
      decode cipher (row.config.mapValues column)

/-- What `load_config` does where the storage has no row of the project. -/
def bootstrapConfig (start : Start ρ) (projectId : ProjectId)
    (bootstrapFile : Option ProjectConfigLoadOptions) (db : Database) :
    Except ConfigLoadError ProjectConfig × Database :=
  match bootstrapFile with
  | none => (.error (.projectConfigNotFound projectId.raw), db)
  | some options =>
    match loadProjectConfig start.files options with
    | .error error => (.error error, db)
    | .ok config =>
      match validateBootstrapProjectId config projectId with
      | .error error => (.error error, db)
      | .ok () =>
        let audit := AuditContext.system "bootstrap project config from file"
        match createProjectConfig format cipher start.session config audit db with
        | (.error error, db') => (.error (.storage error), db')
        -- The configuration of the file is returned, and not the one that was written.
        | (.ok _, db') => (.ok config, db')

/-- `load_config`, on the database where there is one. -/
def loadConfig (start : Start ρ) (source : ProjectConfigSource) (storage : Option Database) :
    Except ConfigLoadError ProjectConfig × Option Database :=
  match source with
  | .file options => (loadProjectConfig start.files options, storage)
  | .postgres projectId bootstrapFile =>
    match storage with
    | none => (.error (.missingEnv DATABASE_URL_ENV), none)
    | some db =>
      match loadStoredConfig cipher column start.queryFailure projectId db with
      | .error error => (.error (.storage error), some db)
      | .ok (some config) => (.ok config, some db)
      | .ok none => (bootstrapConfig format cipher start projectId bootstrapFile db).map id some

end LoadConfig

/-- `status_from_state`. -/
def statusFromState (projectId : ProjectId) (state : RuntimeState) : Api.RuntimeStatusResponse :=
  match state.slot with
  | none => {
      projectId := projectId
      state := state.phase
      activeVersion := none
      startedAt := none
      lastReloadAt := state.lastReloadAt
      lastReloadError := state.lastReloadError }
  | some slot => {
      projectId := projectId
      state := state.phase
      activeVersion := some slot.config.version
      startedAt := some slot.startedAt
      lastReloadAt := state.lastReloadAt
      lastReloadError := state.lastReloadError }

/-! ## The first start -/

section Bootstrap

variable {ρ : Type} {format : Format} {cipher : SecretCipher ρ} {column : Value → Value}
  {start next : Start ρ} {projectId : ProjectId} {options : ProjectConfigLoadOptions}
  {db db' : Database} {config : ProjectConfig}

/-- Without a row there is nothing to load. -/
theorem loadStoredConfig_absent {queryFailure : Option String}
    (habsent : db.configs.find? projectId.raw = none) :
    loadStoredConfig cipher column queryFailure projectId db = .ok none ∨
      ∃ error, loadStoredConfig cipher column queryFailure projectId db = .error error := by
  cases queryFailure with
  | some reason => exact .inr ⟨_, rfl⟩
  | none =>
    refine .inl ?_
    rw [loadStoredConfig, habsent]
    rfl

/-- A bootstrap that succeeds has created the row of its file. -/
theorem bootstrapConfig_ok
    (h : bootstrapConfig format cipher start projectId (some options) db = (.ok config, db')) :
    loadProjectConfig start.files options = .ok config ∧ config.id = projectId ∧
      ∃ write, createProjectConfig format cipher start.session config
        (.system "bootstrap project config from file") db = (.ok write, db') := by
  unfold bootstrapConfig at h
  simp only at h
  split at h
  · exact nomatch (Prod.ext_iff.mp h).1
  · next file hfile =>
    split at h
    · exact nomatch (Prod.ext_iff.mp h).1
    · next hid =>
      split at h
      · exact nomatch (Prod.ext_iff.mp h).1
      · next write made hcreate =>
        obtain ⟨hconfig, hdb⟩ := Prod.ext_iff.mp h
        cases hconfig
        cases hdb
        obtain ⟨hid, -⟩ := guard_eq_ok_iff.mp hid
        exact ⟨hfile, not_not.mp hid, write, hcreate⟩

/-- Where the project is absent, a start goes by its file. -/
theorem loadConfig_absent (hquery : start.queryFailure = none)
    (habsent : db.configs.find? projectId.raw = none)
    {bootstrapFile : Option ProjectConfigLoadOptions} :
    loadConfig format cipher column start (.postgres projectId bootstrapFile) (some db) =
      (bootstrapConfig format cipher start projectId bootstrapFile db).map id some := by
  have hload : loadStoredConfig cipher column start.queryFailure projectId db = .ok none := by
    rw [hquery, loadStoredConfig, habsent]
    rfl
  rw [loadConfig]
  simp only [hload]

/-- A bootstrap whose file is accepted and whose creation succeeds returns the configuration of
the file. -/
theorem bootstrapConfig_eq (hfile : loadProjectConfig start.files options = .ok config)
    (hid : config.id = projectId) {write : ProjectConfigWriteResult}
    (hcreate : createProjectConfig format cipher start.session config
      (.system "bootstrap project config from file") db = (.ok write, db')) :
    bootstrapConfig format cipher start projectId (some options) db = (.ok config, db') := by
  have hvalidate : validateBootstrapProjectId config projectId = .ok () := if_neg (not_not.mpr hid)
  rw [bootstrapConfig]
  simp only [hfile, hvalidate, hcreate]

/-- A first start that succeeds returns the configuration of the file, and has created its row. -/
theorem loadConfig_bootstrap_ok (habsent : db.configs.find? projectId.raw = none)
    (h : loadConfig format cipher column start (.postgres projectId (some options)) (some db) =
      (.ok config, some db')) :
    loadProjectConfig start.files options = .ok config ∧ config.id = projectId ∧
      ∃ write, createProjectConfig format cipher start.session config
        (.system "bootstrap project config from file") db = (.ok write, db') := by
  unfold loadConfig at h
  simp only at h
  have hquery : loadStoredConfig cipher column start.queryFailure projectId db = .ok none ∨
      ∃ error, loadStoredConfig cipher column start.queryFailure projectId db = .error error :=
    loadStoredConfig_absent habsent
  rcases hquery with hload | ⟨error, hload⟩
  · rw [hload] at h
    obtain ⟨hconfig, hdb⟩ := Prod.ext_iff.mp h
    exact bootstrapConfig_ok (Prod.ext hconfig (Option.some.inj hdb))
  · rw [hload] at h
    exact nomatch (Prod.ext_iff.mp h).1

/-! ## The next start -/

theorem createdConfig_of_ne (h : config.version ≠ 0) : createdConfig config = config := by
  rw [createdConfig, if_neg h]

/-- Version 0 is the one version that is not stored as it is. -/
theorem createdConfig_version_eq_iff :
    (createdConfig config).version = config.version ↔ config.version ≠ 0 := by
  by_cases h : config.version = 0
  · rw [createdConfig, if_pos h, h]
    exact iff_of_false (fun hzero : (1 : UInt64) = 0 => nomatch hzero) fun hne => hne rfl
  · rw [createdConfig_of_ne h]
    exact iff_of_true rfl h

theorem createdConfig_id : (createdConfig config).id = config.id := by
  unfold createdConfig
  split <;> rfl

/-- A start that finds a row returns what the row is decoded to. -/
theorem loadConfig_row {row : ConfigRow} {file : Option ProjectConfigLoadOptions}
    (hquery : next.queryFailure = none) (hrow : db.configs.find? projectId.raw = some row) :
    (loadConfig format cipher column next (.postgres projectId file) (some db)).1 = .ok config ↔
      decode cipher (row.config.mapValues column) = .ok config := by
  have hload : loadStoredConfig cipher column next.queryFailure projectId db =
      some <$> decode cipher (row.config.mapValues column) := by
    rw [hquery, loadStoredConfig, hrow]
    rfl
  unfold loadConfig
  simp only [hload]
  cases decode cipher (row.config.mapValues column) with
  | error error => exact iff_of_false (nomatch ·) (nomatch ·)
  | ok loaded =>
    constructor
    · intro h
      rw [Except.ok.inj h]
    · intro h
      rw [Except.ok.inj h]
      rfl

/-- After a first start, the row decodes to what that start returned exactly when the file has
another version than 0, its secrets are such as the decoder accepts, and its values come back from
the column as they were. -/
theorem decode_created_eq_ok_iff (hcipher : cipher.Lawful) {stored : StoredProjectConfig}
    (hstored : Yields (encode cipher (createdConfig config)) stored)
    (hvalid : (createdConfig config).validate = .ok ()) :
    decode cipher (stored.mapValues column) = .ok config ↔
      config.version ≠ 0 ∧ (∀ secret ∈ config.secrets, secret.Valid) ∧
        ∀ value ∈ config.values, column value = value := by
  by_cases hversion : config.version = 0
  · refine iff_of_false (fun h => ?_) (fun h => h.1 hversion)
    have hreveal : reveal cipher (stored.mapValues column) =
        .ok ((createdConfig config).mapValues column) :=
      reveal_mapValues (reveal_encode hcipher hstored)
    have hsame := (decode_eq_ok_iff.mp h).1.symm.trans hreveal
    have hcreated : (createdConfig config).version = config.version :=
      (congrArg ProjectConfig.version (Except.ok.inj hsame)).symm
    exact createdConfig_version_eq_iff.mp hcreated hversion
  · rw [createdConfig_of_ne hversion] at hstored hvalid
    rw [decode_mapValues_eq_ok_iff hcipher hstored hvalid]
    exact (and_iff_right hversion).symm

/-- After a first start, the next one returns the same configuration exactly when the file has
another version than 0, its secrets are such as the decoder accepts, and its values come back from
the column as they were. -/
theorem restart_eq_ok_iff (hcipher : cipher.Lawful) {file : Option ProjectConfigLoadOptions}
    (habsent : db.configs.find? projectId.raw = none)
    (hfirst : loadConfig format cipher column start (.postgres projectId (some options)) (some db) =
      (.ok config, some db'))
    (hquery : next.queryFailure = none) :
    (loadConfig format cipher column next (.postgres projectId file) (some db')).1 = .ok config ↔
      config.version ≠ 0 ∧ (∀ secret ∈ config.secrets, secret.Valid) ∧
        ∀ value ∈ config.values, column value = value := by
  obtain ⟨-, hid, write, hcreate⟩ := loadConfig_bootstrap_ok habsent hfirst
  obtain ⟨version, stored, hvalid, -, hstored, -, -, hcommitted⟩ := createProjectConfig_ok hcreate
  obtain ⟨row, hrow, -, hconfig⟩ := hcommitted.row
  rw [createdConfig_id, hid] at hrow
  rw [loadConfig_row hquery hrow, hconfig]
  exact decode_created_eq_ok_iff hcipher hstored hvalid

/-- After a first start, the active version is the stored one exactly when the file has another
version than 0. -/
theorem activeVersion_eq_iff (habsent : db.configs.find? projectId.raw = none)
    (hfirst : loadConfig format cipher column start (.postgres projectId (some options)) (some db) =
      (.ok config, some db'))
    (runtime : RuntimeId) (startedAt : OffsetDateTime) :
    (statusFromState projectId (System.new config runtime startedAt).state).activeVersion.map
        (fun version => (version.toNat : Int)) = versionOf projectId db' ↔ config.version ≠ 0 := by
  obtain ⟨-, hid, write, hcreate⟩ := loadConfig_bootstrap_ok habsent hfirst
  obtain ⟨version, stored, -, hversion, -, -, -, hcommitted⟩ := createProjectConfig_ok hcreate
  obtain ⟨row, hrow, hrowVersion, -⟩ := hcommitted.row
  rw [createdConfig_id, hid] at hrow
  have hactive : (statusFromState projectId
      (System.new config runtime startedAt).state).activeVersion = some config.version := rfl
  rw [hactive, versionOf, hrow, Option.map_some, Option.map_some, Option.some.injEq, hrowVersion,
    versionToI64_ok hversion, Int.ofNat_inj, UInt64.toNat_inj, eq_comm]
  exact createdConfig_version_eq_iff

/-- A first start from a file and the next start from the row return the same configuration, and
the version that the runtime reports is the stored one, exactly when the file has another version
than 0, its secrets are such as the decoder accepts, and its values come back from the column as
they were. -/
theorem bootstrap_idempotent_iff (hcipher : cipher.Lawful) {file : Option ProjectConfigLoadOptions}
    (habsent : db.configs.find? projectId.raw = none)
    (hfirst : loadConfig format cipher column start (.postgres projectId (some options)) (some db) =
      (.ok config, some db'))
    (hquery : next.queryFailure = none) (runtime : RuntimeId) (startedAt : OffsetDateTime) :
    ((loadConfig format cipher column next (.postgres projectId file) (some db')).1 = .ok config ∧
      (statusFromState projectId (System.new config runtime startedAt).state).activeVersion.map
        (fun version => (version.toNat : Int)) = versionOf projectId db') ↔
      config.version ≠ 0 ∧ (∀ secret ∈ config.secrets, secret.Valid) ∧
        ∀ value ∈ config.values, column value = value := by
  rw [restart_eq_ok_iff hcipher habsent hfirst hquery,
    activeVersion_eq_iff habsent hfirst runtime startedAt]
  exact and_iff_left_of_imp And.left

end Bootstrap

/-! ## A file of either version -/

/-- The text of a configuration of the plant. -/
def plantFile (version : String) : String :=
  "\x7b\"id\":\"plant\",\"tenant_id\":null,\"name\":\"Plant\",\"description\":null," ++
  "\"enabled\":true,\"version\":" ++ version ++ ",\"brokers\":[\x7b\"id\":\"main\"," ++
  "\"name\":\"Main\",\"host\":\"broker.local\",\"port\":1883,\"tls\":\"disabled\"," ++
  "\"credentials\":\x7b\"username\":\"gateway\",\"password\":\"s3cret\"\x7d," ++
  "\"keep_alive\":30,\"clean_session\":true,\"client_id\":\"gateway-1\"," ++
  "\"reconnect\":\x7b\"min_delay\":500,\"max_delay\":30000\x7d,\"enabled\":true\x7d]," ++
  "\"routes\":[],\"schema_mappings\":[],\"rules\":[],\"command_templates\":[" ++
  "\x7b\"id\":\"start\",\"name\":\"Start\",\"broker_id\":\"main\"," ++
  "\"topic_template\":\"pump/start\",\"payload_template\":\"now\"," ++
  "\"qos\":\"at_least_once\",\"retain\":false,\"enabled\":true\x7d],\"sinks\":[]\x7d"

/-- The configuration in that text. -/
def plantFileConfig (version : UInt64) : ProjectConfig :=
  { plantProject "s3cret" [] [] with
    version := version
    routes := []
    commandTemplates := [{
      id := ⟨"start"⟩
      name := "Start"
      brokerId := ⟨"main"⟩
      topicTemplate := "pump/start"
      payloadTemplate := .string "now"
      qos := .atLeastOnce
      retain := false
      enabled := true }] }

/-- The options of a file at the default path. -/
def defaultOptions : ProjectConfigLoadOptions where
  path := "pipe-bolt.project.json"
  maxBytes := 1024 * 1024

/-- A start with that text in its file, and nothing that fails. -/
def plantStart (version : String) : Start Unit where
  files := {
    isFile path := if path = defaultOptions.path then .ok true else .error "not found"
    bytes path :=
      if path = defaultOptions.path then .ok (plantFile version).toUTF8.toList
      else .error "not found"
    fromSlice bytes :=
      if bytes = (plantFile "1").toUTF8.toList then .ok (plantFileConfig 1)
      else if bytes = (plantFile "0").toUTF8.toList then .ok (plantFileConfig 0)
      else .error "expected value" }
  queryFailure := none
  session := calmSession "1"

/-- The tables after a first start from that file. -/
def plantCreated (version : UInt64) : Database :=
  (createProjectConfig flatFormat tagCipher (calmSession "1") (plantFileConfig version)
    (.system "bootstrap project config from file") .empty).2

theorem plantStart_ok {version : UInt64} {text : String}
    (hparse : (plantStart text).files.fromSlice (plantFile text).toUTF8.toList =
      .ok (plantFileConfig version))
    (hvalid : (plantFileConfig version).validate = .ok ())
    (hlength : (plantFile text).toUTF8.toList.length ≤ defaultOptions.maxBytes.toNat)
    {write : ProjectConfigWriteResult}
    (hcreate : (createProjectConfig flatFormat tagCipher (calmSession "1")
      (plantFileConfig version) (.system "bootstrap project config from file") .empty).1 =
        .ok write) :
    loadConfig flatFormat tagCipher (fun value => value) (plantStart text)
        (.postgres ⟨"plant"⟩ (some defaultOptions)) (some .empty) =
      (.ok (plantFileConfig version), some (plantCreated version)) := by
  have hisFile : (plantStart text).files.isFile defaultOptions.path = .ok true := by
    simp [plantStart]
  have hbytes : (plantStart text).files.bytes defaultOptions.path =
      .ok (plantFile text).toUTF8.toList := by
    simp [plantStart]
  have hfile : loadProjectConfig (plantStart text).files defaultOptions =
      .ok (plantFileConfig version) :=
    loadProjectConfig_ok hisFile hbytes hlength hparse hvalid
  have hsession : (plantStart text).session = calmSession "1" := rfl
  have hcreated : createProjectConfig flatFormat tagCipher (plantStart text).session
      (plantFileConfig version) (.system "bootstrap project config from file") .empty =
        (.ok write, plantCreated version) := by
    rw [hsession, plantCreated, ← hcreate]
  have hid : (plantFileConfig version).id = ⟨"plant"⟩ := rfl
  rw [loadConfig_absent rfl rfl, bootstrapConfig_eq hfile hid hcreated]
  rfl

theorem plantStart_one :
    loadConfig flatFormat tagCipher (fun value => value) (plantStart "1")
        (.postgres ⟨"plant"⟩ (some defaultOptions)) (some .empty) =
      (.ok (plantFileConfig 1), some (plantCreated 1)) := by
  have hcreate : (createProjectConfig flatFormat tagCipher (calmSession "1") (plantFileConfig 1)
      (.system "bootstrap project config from file") .empty).1 =
        .ok ⟨⟨"plant"⟩, 1, "config_revision_1", "sha256:flat"⟩ := by
    decide +kernel
  exact plantStart_ok (if_pos rfl) (by decide +kernel) (by decide +kernel) hcreate

theorem plantStart_zero :
    loadConfig flatFormat tagCipher (fun value => value) (plantStart "0")
        (.postgres ⟨"plant"⟩ (some defaultOptions)) (some .empty) =
      (.ok (plantFileConfig 0), some (plantCreated 0)) := by
  have hcreate : (createProjectConfig flatFormat tagCipher (calmSession "1") (plantFileConfig 0)
      (.system "bootstrap project config from file") .empty).1 =
        .ok ⟨⟨"plant"⟩, 1, "config_revision_1", "sha256:flat"⟩ := by
    decide +kernel
  have hother : (plantFile "0").toUTF8.toList ≠ (plantFile "1").toUTF8.toList := by
    decide +kernel
  have hparse : (plantStart "0").files.fromSlice (plantFile "0").toUTF8.toList =
      .ok (plantFileConfig 0) :=
    (if_neg hother).trans (if_pos rfl)
  exact plantStart_ok hparse (by decide +kernel) (by decide +kernel) hcreate

theorem bootstrap_idempotent_iff_one :
    ((loadConfig flatFormat tagCipher (fun value => value) (plantStart "1")
        (.postgres ⟨"plant"⟩ none) (some (plantCreated 1))).1 = .ok (plantFileConfig 1) ∧
      (statusFromState ⟨"plant"⟩ (System.new (plantFileConfig 1) 0 0).state).activeVersion.map
        (fun version => (version.toNat : Int)) = versionOf ⟨"plant"⟩ (plantCreated 1)) ↔
      (plantFileConfig 1).version ≠ 0 ∧
        (∀ secret ∈ (plantFileConfig 1).secrets, secret.Valid) ∧
        ∀ value ∈ (plantFileConfig 1).values, value = value :=
  bootstrap_idempotent_iff tagCipher_lawful rfl plantStart_one rfl 0 0

/-- A daemon that starts from a file of version 0 runs a version that the storage does not have, and
its next start does not find the same configuration. -/
theorem bootstrap_zero_diverges :
    (loadConfig flatFormat tagCipher (fun value => value) (plantStart "0")
        (.postgres ⟨"plant"⟩ (some defaultOptions)) (some .empty)).1 =
          .ok (plantFileConfig 0) ∧
      (loadConfig flatFormat tagCipher (fun value => value) (plantStart "0")
        (.postgres ⟨"plant"⟩ (some defaultOptions)) (some (plantCreated 0))).1 ≠
          .ok (plantFileConfig 0) ∧
      (statusFromState ⟨"plant"⟩ (System.new (plantFileConfig 0) 0 0).state).activeVersion =
        some 0 ∧
      versionOf ⟨"plant"⟩ (plantCreated 0) = some 1 := by
  refine ⟨(Prod.ext_iff.mp plantStart_zero).1, ?_, rfl, ?_⟩
  · intro h
    exact ((restart_eq_ok_iff tagCipher_lawful rfl plantStart_zero rfl).mp h).1 rfl
  · decide +kernel

end Daemon
end PipeBolt
