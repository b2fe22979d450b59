import PipeBolt.Lib.VersionedCell
import PipeBolt.Storage.Postgres

/-!
# The versions of a project

Creations and updates by any number of callers, in the order in which their transactions run.
Seen from one project the tables are a versioned cell: its row is the last version of the cell and
its revisions are the versions the cell keeps.

* `Represents`: the tables show a cell.
* `represents_step`: every write is an operation of the cell of its project, or no operation.
* `writes_versioned`: so versions go up by one, every version has one revision, no version is
  replaced twice, and a write that fails changes nothing.
-/

namespace PipeBolt
namespace Storage

open Domain Fallible Keyed Transition VersionedCell

/-! ## Writes -/

/-- A call that writes a configuration. -/
inductive Call where
  | create (config : ProjectConfig) (audit : AuditContext)
  | update (config : ProjectConfig) (expectedVersion : UInt64) (audit : AuditContext)

/-- The project a call writes to. -/
def Call.projectId : Call → ProjectId
  | .create config _ => config.id
  | .update config _ _ => config.id

/-- A call with its session and its result. -/
structure Write (ρ : Type) where
  call : Call
  session : Session ρ
  result : Except StorageError ProjectConfigWriteResult

section

variable {ρ : Type} (format : Format) (cipher : SecretCipher ρ)

/-- A call runs. -/
def perform (session : Session ρ) (db : Database) :
    Call → Except StorageError ProjectConfigWriteResult × Database
  | .create config audit => createProjectConfig format cipher session config audit db
  | .update config expectedVersion audit =>
    updateProjectConfig format cipher session config expectedVersion audit db

/-- The steps of the storage. -/
def WriteStep (db : Database) (write : Write ρ) (db' : Database) : Prop :=
  perform format cipher write.session db write.call = (write.result, db')

end

section Steps

variable {ρ : Type} {format : Format} {cipher : SecretCipher ρ} {db db' : Database}
  {write : Write ρ}

/-- A write that fails leaves the tables as they were. -/
theorem writeStep_error (h : WriteStep format cipher db write db') {error : StorageError}
    (herror : write.result = .error error) : db' = db := by
  obtain ⟨call, session, result⟩ := write
  cases herror
  cases call with
  | create config audit =>
    have hcreate : createProjectConfig format cipher session config audit db =
        (.error error, db') := h
    exact createProjectConfig_error hcreate
  | update config expectedVersion audit =>
    have hupdate : updateProjectConfig format cipher session config expectedVersion audit db =
        (.error error, db') := h
    exact updateProjectConfig_error hupdate

/-- A successful write commits one configuration to its project. -/
theorem writeStep_ok (h : WriteStep format cipher db write db') {result : ProjectConfigWriteResult}
    (hresult : write.result = .ok result) :
    ∃ (version : Int64) (stored : StoredProjectConfig),
      version.toInt = result.version.toNat ∧ stored.version = result.version ∧
      Committed db db' write.call.projectId.raw version stored ∧
      match write.call with
      | .create config _ =>
        result.version = (createdConfig config).version ∧
          db.configs.find? write.call.projectId.raw = none
      | .update _ expectedVersion _ =>
        result.version.toNat = expectedVersion.toNat + 1 ∧
          ∃ old, db.configs.find? write.call.projectId.raw = some old ∧
            old.version.toInt = expectedVersion.toNat := by
  obtain ⟨call, session, result'⟩ := write
  cases hresult
  cases call with
  | create config audit =>
    have hcreate : createProjectConfig format cipher session config audit db =
        (.ok result, db') := h
    obtain ⟨version, stored, -, hversion, hstored, hresult, hfresh, hcommitted⟩ :=
      createProjectConfig_ok hcreate
    have hid : (createdConfig config).id = config.id := by
      unfold createdConfig
      split <;> rfl
    rw [hid] at hfresh hcommitted
    rw [← hresult] at hversion
    exact ⟨version, stored, versionToI64_ok hversion, (encode_version hstored).trans hresult.symm,
      hcommitted, hresult, hfresh⟩
  | update config expectedVersion audit =>
    have hupdate : updateProjectConfig format cipher session config expectedVersion audit db =
        (.ok result, db') := h
    obtain ⟨version, stored, old, -, hnext, hversion, hstored, hold, hexpected, hcommitted⟩ :=
      updateProjectConfig_ok hupdate
    exact ⟨version, stored, versionToI64_ok hversion, encode_version hstored, hcommitted, hnext,
      old, hold, versionToI64_ok hexpected⟩

end Steps

/-! ## The cell of a project -/

/-- The row of a project is the last version of a cell, and its revisions are all of them. -/
structure ShowsCell (projectId : ProjectId) (db : Database) (c : Cell StoredProjectConfig) :
    Prop where
  row : ∃ row, db.configs.find? projectId.raw = some row ∧ row.version.toInt = c.version ∧
    c.at? c.version = some row.config
  revisions : ∀ row ∈ db.revisions.rows, row.projectId = projectId.raw →
    ∃ n : Nat, row.version.toInt = n ∧ c.at? n = some row.config
  versions : ∀ n x, c.at? n = some x → x.version.toNat = n ∧
    ∃ row ∈ db.revisions.rows, row.projectId = projectId.raw ∧ row.version.toInt = n

/-- The tables show the cell of a project, or that it has none. -/
def Represents (projectId : ProjectId) (db : Database) :
    Option (Cell StoredProjectConfig) → Prop
  | none => db.configs.find? projectId.raw = none
  | some c => ShowsCell projectId db c

/-- The operation on the cell of a project that a step is. -/
def cellOp {ρ : Type} (projectId : ProjectId) (e : Edge Database (Write ρ)) :
    Option (Op StoredProjectConfig) :=
  match e.label.result with
  | .error _ => none
  | .ok result =>
    if e.label.call.projectId = projectId then
      (e.target.configs.find? projectId.raw).map fun row =>
        match e.label.call with
        | .create _ _ => .create result.version.toNat row.config
        | .update _ expectedVersion _ => .update expectedVersion.toNat row.config
    else none

section Represents

variable {projectId : ProjectId} {db db' : Database} {version : Int64}
  {stored : StoredProjectConfig}

/-- A write to another project leaves the cell as it was. -/
theorem Represents.other {o : Option (Cell StoredProjectConfig)} (h : Represents projectId db o)
    {other : ProjectId} (hne : other ≠ projectId)
    (hcommitted : Committed db db' other.raw version stored) : Represents projectId db' o := by
  have hraw : other.raw ≠ projectId.raw := fun h => hne (congrArg Identifier.mk h)
  have hfind := hcommitted.find?_of_ne hraw
  obtain ⟨revision, hproject, -, -, hrevisions⟩ := hcommitted.revisions
  cases o with
  | none => exact hfind.trans h
  | some c =>
    have hshows : ShowsCell projectId db c := h
    refine ⟨?_, ?_, ?_⟩
    · rw [hfind]
      exact hshows.row
    · intro row hrow hmine
      rcases (hrevisions row).mp hrow with hrow | rfl
      · exact hshows.revisions row hrow hmine
      · exact absurd (hproject.symm.trans hmine) hraw
    · intro n x hx
      obtain ⟨hversion, row, hrow, hmine⟩ := hshows.versions n x hx
      exact ⟨hversion, row, (hrevisions row).mpr (Or.inl hrow), hmine⟩

/-- The first write to a project makes its cell. -/
theorem Represents.create (hfresh : db.configs.find? projectId.raw = none)
    (hcommitted : Committed db db' projectId.raw version stored)
    (hversion : version.toInt = stored.version.toNat) :
    Represents projectId db' (some ⟨stored.version.toNat, stored, []⟩) := by
  obtain ⟨row, hrow, hrowVersion, hconfig⟩ := hcommitted.row
  obtain ⟨revision, hproject, hrevision, hstored, hrevisions⟩ := hcommitted.revisions
  have hcell := Cell.at?_new stored.version.toNat stored
  refine ⟨⟨row, hrow, ?_, ?_⟩, ?_, ?_⟩
  · rw [hrowVersion]
    exact hversion
  · rw [hcell, hconfig]
    exact if_pos rfl
  · intro row' hrow' hmine
    rcases (hrevisions row').mp hrow' with hrow' | rfl
    · exact absurd hmine (Database.no_revisions hfresh row' hrow')
    · refine ⟨stored.version.toNat, ?_, ?_⟩
      · rw [hrevision]
        exact hversion
      · rw [hcell, hstored]
        exact if_pos rfl
  · intro n x hx
    rw [hcell] at hx
    by_cases hn : n = stored.version.toNat
    · rw [if_pos hn] at hx
      rw [← Option.some.inj hx, hn]
      refine ⟨rfl, revision, (hrevisions revision).mpr (Or.inr rfl), hproject, ?_⟩
      rw [hrevision]
      exact hversion
    · rw [if_neg hn] at hx
      exact nomatch hx

/-- A later write to a project pushes a version to its cell. -/
theorem Represents.update {c : Cell StoredProjectConfig} (h : Represents projectId db (some c))
    (hcommitted : Committed db db' projectId.raw version stored)
    (hversion : version.toInt = stored.version.toNat)
    (hnext : stored.version.toNat = c.version + 1) :
    Represents projectId db' (some (c.push stored)) := by
  obtain ⟨row, hrow, hrowVersion, hconfig⟩ := hcommitted.row
  obtain ⟨revision, hproject, hrevision, hstored, hrevisions⟩ := hcommitted.revisions
  have hshows : ShowsCell projectId db c := h
  refine ⟨⟨row, hrow, ?_, ?_⟩, ?_, ?_⟩
  · rw [hrowVersion, Cell.version_push, ← hnext]
    exact hversion
  · rw [Cell.at?_push, Cell.version_push, if_pos rfl, hconfig]
  · intro row' hrow' hmine
    rcases (hrevisions row').mp hrow' with hrow' | rfl
    · obtain ⟨n, hn, hat⟩ := hshows.revisions row' hrow' hmine
      refine ⟨n, hn, ?_⟩
      have hle := ((c.at?_isSome_iff n).mp (Option.isSome_iff_exists.mpr ⟨_, hat⟩)).2
      rw [Cell.at?_push, if_neg (by omega)]
      exact hat
    · refine ⟨stored.version.toNat, ?_, ?_⟩
      · rw [hrevision]
        exact hversion
      · rw [Cell.at?_push, if_pos hnext, hstored]
  · intro n x hx
    rw [Cell.at?_push] at hx
    by_cases hn : n = c.version + 1
    · rw [if_pos hn] at hx
      rw [← Option.some.inj hx, hn, ← hnext]
      refine ⟨rfl, revision, (hrevisions revision).mpr (Or.inr rfl), hproject, ?_⟩
      rw [hrevision]
      exact hversion
    · rw [if_neg hn] at hx
      obtain ⟨hat, row', hrow', hmine⟩ := hshows.versions n x hx
      exact ⟨hat, row', (hrevisions row').mpr (Or.inl hrow'), hmine⟩

end Represents

section Refinement

variable {ρ : Type} {format : Format} {cipher : SecretCipher ρ}

variable {projectId : ProjectId} {e : Edge Database (Write ρ)}
  {o : Option (Cell StoredProjectConfig)}

/-- A step that is no operation of a cell leaves the cell as it was. -/
theorem represents_skip (h : WriteStep format cipher e.source e.label e.target)
    (ho : Represents projectId e.source o) (hskip : cellOp projectId e = none) :
    Represents projectId e.target o := by
  cases hresult : e.label.result with
  | error error =>
    rw [writeStep_error h hresult]
    exact ho
  | ok result =>
    obtain ⟨version, stored, -, -, hcommitted, -⟩ := writeStep_ok h hresult
    by_cases hmine : e.label.call.projectId = projectId
    · obtain ⟨row, hfind, -⟩ := hcommitted.row
      rw [hmine] at hfind
      simp [cellOp, hresult, hmine, hfind] at hskip
    · exact ho.other hmine hcommitted

/-- A step that is an operation of a cell changes the cell by it. -/
theorem represents_move {op : Op StoredProjectConfig}
    (h : WriteStep format cipher e.source e.label e.target)
    (ho : Represents projectId e.source o) (hmove : cellOp projectId e = some op) :
    ∃ o', VersionedCell.Step o op o' ∧ Represents projectId e.target o' := by
  cases hresult : e.label.result with
  | error error => simp [cellOp, hresult] at hmove
  | ok result =>
    obtain ⟨version, stored, hversion, hstored, hcommitted, hcall⟩ := writeStep_ok h hresult
    by_cases hmine : e.label.call.projectId = projectId
    · obtain ⟨row, hfind, -, hconfig⟩ := hcommitted.row
      rw [hmine] at hfind hcommitted hcall
      rw [← hstored] at hversion hcall
      cases hkind : e.label.call with
      | create config audit =>
        rw [hkind] at hcall
        rw [hkind] at hmine
        have hop : op = .create stored.version.toNat stored := by
          simpa [cellOp, hresult, hmine, hfind, hkind, hconfig, ← hstored] using hmove.symm
        rw [hop]
        -- The creation found no row, so there is no cell yet.
        cases o with
        | none => exact ⟨_, .create _ _, Represents.create hcall.2 hcommitted hversion⟩
        | some c =>
          obtain ⟨row, hrow, -⟩ := (show ShowsCell projectId e.source c from ho).row
          exact nomatch hcall.2.symm.trans hrow
      | update config expectedVersion audit =>
        rw [hkind] at hcall
        obtain ⟨hnext, old, hold, hexpected⟩ := hcall
        rw [hkind] at hmine
        have hop : op = .update expectedVersion.toNat stored := by
          simpa [cellOp, hresult, hmine, hfind, hkind, hconfig] using hmove.symm
        rw [hop]
        -- The update found the row at the version it expects, which is that of the cell.
        cases o with
        | none => exact nomatch hold.symm.trans ho
        | some c =>
          obtain ⟨row, hrow, hcell, -⟩ := (show ShowsCell projectId e.source c from ho).row
          have hc : expectedVersion.toNat = c.version := by
            rw [Option.some.inj (hold.symm.trans hrow)] at hexpected
            omega
          rw [hc]
          exact ⟨_, .update c _, Represents.update ho hcommitted hversion (by omega)⟩
    · simp [cellOp, hresult, hmine] at hmove

/-- Every run of the storage from empty tables shows a run of the cell of a project. -/
theorem run_represents (projectId : ProjectId) {es : List (Edge Database (Write ρ))} {t : Database}
    (h : Run (WriteStep format cipher) .empty es t) :
    ∃ fs o, Run VersionedCell.Step none fs o ∧ Represents projectId t o ∧
      fs.map Edge.label = es.filterMap (cellOp projectId) :=
  h.simulate (Represents projectId) (cellOp projectId) (fun _ _ => represents_skip)
    (fun _ _ _ => represents_move) rfl

end Refinement

/-! ## Versions in a run -/

/-- The version in the row of a project. -/
def versionOf (projectId : ProjectId) (db : Database) : Option Int :=
  (db.configs.find? projectId.raw).map fun row => row.version.toInt

/-- The number of revisions of a project with version `n`. -/
def revisionCount (projectId : ProjectId) (db : Database) (n : Int) : Nat :=
  db.revisions.rows.countP fun row =>
    decide (row.projectId = projectId.raw ∧ row.version.toInt = n)

/-- The version at which a successful step creates a project. -/
def createdAt {ρ : Type} (projectId : ProjectId) (e : Edge Database (Write ρ)) : Option Nat :=
  match e.label.result, e.label.call with
  | .ok result, .create config _ =>
    if config.id = projectId then some result.version.toNat else none
  | _, _ => none

/-- The version that a successful update of a project expects. -/
def updatedFrom {ρ : Type} (projectId : ProjectId) (e : Edge Database (Write ρ)) : Option Nat :=
  match e.label.result, e.label.call with
  | .ok _, .update config expectedVersion _ =>
    if config.id = projectId then some expectedVersion.toNat else none
  | _, _ => none

/-- The version of a project before and after a successful call. -/
def RaisesVersion {ρ : Type} (e : Edge Database (Write ρ)) (result : ProjectConfigWriteResult) :
    Prop :=
  match e.label.call with
  | .create config _ =>
    versionOf config.id e.source = none ∧
      versionOf config.id e.target = some (result.version.toNat : Int)
  | .update config expectedVersion _ =>
    versionOf config.id e.source = some (expectedVersion.toNat : Int) ∧
      versionOf config.id e.target = some (expectedVersion.toNat + 1 : Int)

/-- A project was created once at most.  Its row has the version of the configuration in it, and
there is one revision for each version from the created one to that of the row, and no other. -/
def VersionsComplete (projectId : ProjectId) (created : List Nat) (db : Database) : Prop :=
  match db.configs.find? projectId.raw with
  | none => created = [] ∧ ∀ n, revisionCount projectId db n = 0
  | some row => row.version.toInt = row.config.version.toNat ∧
    ∃ first : Nat, created = [first] ∧ first ≤ row.version.toInt ∧
      ∀ n : Int, revisionCount projectId db n =
        if first ≤ n ∧ n ≤ row.version.toInt then 1 else 0

section Counts

variable {projectId : ProjectId} {db : Database}

theorem revisionCount_le_one (projectId : ProjectId) (db : Database) (n : Int) :
    revisionCount projectId db n ≤ 1 := by
  refine countP_le_one db.revisions_unique fun row row' h h' => ?_
  obtain ⟨hproject, hversion⟩ := of_decide_eq_true h
  obtain ⟨hproject', hversion'⟩ := of_decide_eq_true h'
  exact Prod.ext (hproject.trans hproject'.symm) (Int64.toInt.inj (hversion.trans hversion'.symm))

theorem revisionCount_pos_iff {n : Int} :
    0 < revisionCount projectId db n ↔
      ∃ row ∈ db.revisions.rows, row.projectId = projectId.raw ∧ row.version.toInt = n := by
  rw [revisionCount, List.countP_pos_iff]
  simp

/-- A project without a row has no revisions. -/
theorem versionsComplete_none (h : Represents projectId db none) :
    VersionsComplete projectId [] db := by
  have hfind : db.configs.find? projectId.raw = none := h
  rw [VersionsComplete, hfind]
  refine ⟨rfl, fun n => Nat.eq_zero_of_not_pos fun hpos => ?_⟩
  obtain ⟨row, hrow, hproject, -⟩ := revisionCount_pos_iff.mp hpos
  exact Database.no_revisions hfind row hrow hproject

/-- A row that is the last version of a cell has one revision for each version of the cell. -/
theorem versionsComplete_some {c : Cell StoredProjectConfig} (h : ShowsCell projectId db c) :
    VersionsComplete projectId [c.first] db := by
  obtain ⟨row, hrow, hversion, hcurrent⟩ := h.row
  have hfirst : c.first ≤ c.version := Nat.le_add_right _ _
  rw [VersionsComplete, hrow]
  refine ⟨?_, c.first, rfl, by omega, fun n => ?_⟩
  · rw [hversion, (h.versions _ _ hcurrent).1]
  · rw [hversion]
    by_cases hn : (c.first : Int) ≤ n ∧ n ≤ c.version
    · rw [if_pos hn]
      obtain ⟨m, rfl⟩ := Int.eq_ofNat_of_zero_le (show 0 ≤ n by omega)
      obtain ⟨x, hx⟩ := Option.isSome_iff_exists.mp ((c.at?_isSome_iff m).mpr (by omega))
      obtain ⟨-, revision, hmem, hproject, hm⟩ := h.versions m x hx
      -- The cell has a revision of this version, and the key of the table allows no second one.
      have hpos := revisionCount_pos_iff.mpr ⟨revision, hmem, hproject, hm⟩
      have hle := revisionCount_le_one projectId db m
      omega
    · rw [if_neg hn]
      refine Nat.eq_zero_of_not_pos fun hpos => hn ?_
      obtain ⟨revision, hmem, hproject, hm⟩ := revisionCount_pos_iff.mp hpos
      obtain ⟨m, hm', hat⟩ := h.revisions revision hmem hproject
      have hrange := (c.at?_isSome_iff m).mp (Option.isSome_iff_exists.mpr ⟨_, hat⟩)
      omega

end Counts

section Runs

variable {ρ : Type} {format : Format} {cipher : SecretCipher ρ} {e : Edge Database (Write ρ)}

/-- The row of the project of a successful step. -/
theorem writeStep_row (h : WriteStep format cipher e.source e.label e.target)
    {result : ProjectConfigWriteResult} (hresult : e.label.result = .ok result) :
    ∃ row, e.target.configs.find? e.label.call.projectId.raw = some row ∧
      row.version.toInt = result.version.toNat := by
  obtain ⟨version, stored, hversion, -, hcommitted, -⟩ := writeStep_ok h hresult
  obtain ⟨row, hrow, hrowVersion, -⟩ := hcommitted.row
  refine ⟨row, hrow, ?_⟩
  rw [hrowVersion]
  exact hversion

/-- A successful call raises the version of its project by one, or creates it. -/
theorem raisesVersion (h : WriteStep format cipher e.source e.label e.target)
    {result : ProjectConfigWriteResult} (hresult : e.label.result = .ok result) :
    RaisesVersion e result := by
  obtain ⟨row, hrow, hversion⟩ := writeStep_row h hresult
  obtain ⟨-, -, -, -, -, hcall⟩ := writeStep_ok h hresult
  unfold RaisesVersion versionOf
  cases hkind : e.label.call with
  | create config audit =>
    rw [hkind] at hcall hrow
    have hsource : e.source.configs.find? config.id.raw = none := hcall.2
    have htarget : e.target.configs.find? config.id.raw = some row := hrow
    simp only [hsource, htarget, Option.map_none, Option.map_some, hversion, and_self]
  | update config expectedVersion audit =>
    rw [hkind] at hcall hrow
    obtain ⟨hnext, old, hold, hexpected⟩ := hcall
    have hsource : e.source.configs.find? config.id.raw = some old := hold
    have htarget : e.target.configs.find? config.id.raw = some row := hrow
    simp only [hsource, htarget, Option.map_some, hversion, hexpected, hnext]
    exact ⟨trivial, rfl⟩

/-- The versions of creation and of expectation, as those of the operations of the cell. -/
theorem cellOp_versions (projectId : ProjectId)
    (h : WriteStep format cipher e.source e.label e.target) :
    (cellOp projectId e).bind Op.created? = createdAt projectId e ∧
      (cellOp projectId e).bind Op.expected? = updatedFrom projectId e := by
  unfold cellOp createdAt updatedFrom
  cases hresult : e.label.result with
  | error error => exact ⟨rfl, rfl⟩
  | ok result =>
    by_cases hmine : e.label.call.projectId = projectId
    · obtain ⟨row, hrow, -⟩ := writeStep_row h hresult
      rw [hmine] at hrow
      cases hkind : e.label.call with
      | create config audit =>
        rw [hkind] at hmine
        have hid : config.id = projectId := hmine
        simp [hmine, hid, hrow, Op.created?, Op.expected?]
      | update config expectedVersion audit =>
        rw [hkind] at hmine
        have hid : config.id = projectId := hmine
        simp [hmine, hid, hrow, Op.created?, Op.expected?]
    · cases hkind : e.label.call with
      | create config audit =>
        rw [hkind] at hmine
        have hid : config.id ≠ projectId := hmine
        simp [hmine, hid]
      | update config expectedVersion audit =>
        rw [hkind] at hmine
        have hid : config.id ≠ projectId := hmine
        simp [hmine, hid]

/-- In every run of creations and updates from empty tables: the versions of a project are
complete, no version is replaced twice, a call that succeeds raises the version of its project by
one or creates it, and a call that fails leaves the tables as they were. -/
theorem writes_versioned (format : Format) (cipher : SecretCipher ρ)
    {es : List (Edge Database (Write ρ))} {t : Database}
    (h : Run (WriteStep format cipher) .empty es t) (projectId : ProjectId) :
    VersionsComplete projectId (es.filterMap (createdAt projectId)) t ∧
      (es.filterMap (updatedFrom projectId)).Nodup ∧
      (∀ e ∈ es, ∀ result, e.label.result = .ok result → RaisesVersion e result) ∧
      ∀ e ∈ es, ∀ error, e.label.result = .error error → e.target = e.source := by
  obtain ⟨fs, o, hrun, ho, hlabels⟩ := run_represents projectId h
  have hcreated : es.filterMap (createdAt projectId) = o.elim [] fun d => [d.first] := by
    rw [← run_created hrun, hlabels, List.filterMap_filterMap]
    exact List.filterMap_congr fun e he => (cellOp_versions projectId (h.step_of_mem e he)).1.symm
  have hexpected : es.filterMap (updatedFrom projectId) =
      o.elim [] fun d => List.range' d.first d.later.length := by
    rw [← run_expected hrun, hlabels, List.filterMap_filterMap]
    exact List.filterMap_congr fun e he => (cellOp_versions projectId (h.step_of_mem e he)).2.symm
  refine ⟨?_, ?_, fun e he result => raisesVersion (h.step_of_mem e he),
    fun e he error => writeStep_error (h.step_of_mem e he)⟩
  · rw [hcreated]
    cases o with
    | none => exact versionsComplete_none ho
    | some c => exact versionsComplete_some ho
  · rw [hexpected]
    cases o with
    | none => exact List.nodup_nil
    | some c => exact List.nodup_range'

end Runs

/-- Formats in which every text has the same length and every configuration the same hash. -/
def flatFormat : Format where
  jsonLen _ := 256
  jsonbTextLen _ := 256
  hashConfigJson _ := "sha256:flat"

/-- A session without failures. -/
def calmSession (uuid : String) : Session Unit := ⟨(), uuid, uuid, fun _ => none⟩

/-- A call on some tables, with the result and the tables it leaves. -/
def performed (session : Session Unit) (db : Database) (call : Call) :
    Edge Database (Write Unit) where
  source := db
  label := ⟨call, session, (perform flatFormat tagCipher session db call).1⟩
  target := (perform flatFormat tagCipher session db call).2

theorem performed_step (session : Session Unit) (db : Database) (call : Call) :
    WriteStep flatFormat tagCipher db (performed session db call).label
      (performed session db call).target :=
  rfl

/-- The creation of the plant. -/
def plantCreation : Edge Database (Write Unit) :=
  performed (calmSession "1") .empty
    (.create (plantProject "s3cret" [] []) (.system "bootstrap"))

theorem plantCreation_ok :
    plantCreation.label.result = .ok ⟨⟨"plant"⟩, 1, "config_revision_1", "sha256:flat"⟩ := by
  decide +kernel

/-- An update of the plant from its first version, with another password. -/
def plantReplacement : Call :=
  .update (plantProject "rotated" [] []) 1 (.system "bootstrap")

/-- The update runs, runs again, and runs from the version it left with a commit that fails. -/
def plantWrites : List (Edge Database (Write Unit)) :=
  let updated := performed (calmSession "2") plantCreation.target plantReplacement
  let conflicting := performed (calmSession "3") updated.target plantReplacement
  let failing := performed
    { calmSession "4" with failure := fun s => if s = .commit then some "reset" else none }
    conflicting.target (.update (plantProject "third" [] []) 2 (.system "bootstrap"))
  [plantCreation, updated, conflicting, failing]

/-- The tables after the four calls. -/
def writtenPlant : Database := ((plantWrites.getLast?).map Edge.target).getD .empty

theorem plantWrites_run : Run (WriteStep flatFormat tagCipher) .empty plantWrites writtenPlant :=
  .cons (performed_step _ _ _) (.cons (performed_step _ _ _) (.cons (performed_step _ _ _)
    (.cons (performed_step _ _ _) (.nil _))))

theorem writes_versioned_plantWrites :
    plantWrites.map (fun e => e.label.result) =
        [.ok ⟨⟨"plant"⟩, 1, "config_revision_1", "sha256:flat"⟩,
          .ok ⟨⟨"plant"⟩, 2, "config_revision_2", "sha256:flat"⟩,
          .error (.versionConflict "plant" (some 1) (some 2)), .error (.sqlx (.io "reset"))] ∧
      VersionsComplete ⟨"plant"⟩ (plantWrites.filterMap (createdAt ⟨"plant"⟩)) writtenPlant ∧
      (plantWrites.filterMap (updatedFrom ⟨"plant"⟩)).Nodup ∧
      (∀ e ∈ plantWrites, ∀ result, e.label.result = .ok result → RaisesVersion e result) ∧
      ∀ e ∈ plantWrites, ∀ error, e.label.result = .error error → e.target = e.source :=
  ⟨by decide +kernel, writes_versioned flatFormat tagCipher plantWrites_run ⟨"plant"⟩⟩

end Storage
end PipeBolt
