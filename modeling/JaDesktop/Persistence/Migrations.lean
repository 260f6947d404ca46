import Mathlib.Algebra.Order.Ring.Int
import JaDesktop.Lib.Outcomes
import JaDesktop.Persistence.Transactions
import JaDesktop.Sidecar.Protocol
import Mathlib.Data.List.Perm.Subperm
import Mathlib.Data.List.Nodup
import Mathlib.Data.Option.Basic

/-!
# Schema migrations

The schema of a database has two records: the rows of the ledger `schema_migrations` and the pragma
`user_version`.  `inspect` reads both and accepts them only when they tell the same prefix of the
catalogue; `apply` runs the migrations that are missing, each in a transaction of its own.

What SQLite makes of a statement is a parameter, and every call to the driver may fail.  Only the
durable content is kept here: a transaction that is not committed is gone when the owner closes the
connection, whether its rollback succeeds or not.
-/

namespace JaDesktop.Persistence.Migrations

open Sidecar

/-! ## The catalogue -/

/-- `SchemaMigration`; that its checksum is the digest of its text is checked where it is made. -/
structure SchemaMigration where
  version : ℕ
  name : JavaString
  sql : JavaString
  checksum : JavaString
  name_visible : isBlank name = false
deriving DecidableEq

/-- `MigrationCatalog`: the versions are contiguous from one, and there are no more than a list of
Java can hold. -/
structure MigrationCatalog where
  migrations : List SchemaMigration
  contiguous : ∀ i, (h : i < migrations.length) → migrations[i].version = i + 1
  length_lt : migrations.length < 2 ^ 31

def MigrationCatalog.latestVersion (catalog : MigrationCatalog) : ℕ :=
  match catalog.migrations.getLast? with
  | none => 0
  | some migration => migration.version

lemma MigrationCatalog.latestVersion_eq (catalog : MigrationCatalog) :
    catalog.latestVersion = catalog.migrations.length := by
  obtain ⟨migrations, hcontiguous, -⟩ := catalog
  rw [latestVersion]
  rcases List.eq_nil_or_concat migrations with rfl | ⟨init, last, rfl⟩
  · rfl
  · have hlast := hcontiguous init.length (by simp)
    simpa using hlast

/-! ## The database -/

/-- A row of the ledger as it is stored: an integer of SQLite has 64 bits, and a column can be
null. -/
structure LedgerRow where
  version : Option ℤ
  name : Option JavaString
  checksum : Option JavaString
deriving DecidableEq

/-- What the name `schema_migrations` stands for in `sqlite_master`. -/
inductive Ledger
  | absent
  /-- an index or a view -/
  | other
  | table (rows : List LedgerRow)
deriving DecidableEq

/-- A database: its ledger, its `user_version` and everything else. -/
structure Database (D : Type) where
  ledger : Ledger
  userVersion : ℤ
  content : D
deriving DecidableEq

/-- The row that `apply` writes for a migration; nothing reads its column `applied_at`. -/
def SchemaMigration.row (migration : SchemaMigration) : LedgerRow :=
  ⟨some migration.version, some migration.name, some migration.checksum⟩

/-- The ledger and `user_version` tell the same prefix of the catalogue. -/
def LedgerDescribes {D : Type} (catalog : MigrationCatalog) (db : Database D) : Prop :=
  match db.ledger with
  | .absent => db.userVersion = 0
  | .other => False
  | .table rows => ∃ k ≤ catalog.migrations.length, db.userVersion = k ∧
      rows.Perm ((catalog.migrations.take k).map SchemaMigration.row)

/-! ## Inspection -/

/-- `ResultSet.getInt`: the low 32 bits, and zero for null. -/
def getInt (value : Option ℤ) : ℤ := (value.getD 0).bmod (2 ^ 32)

/-- A row of the ledger as it was read. -/
structure SchemaRow where
  version : ℤ
  name : JavaString
  checksum : JavaString
deriving DecidableEq

/-- What `inspect` returns. -/
structure SchemaState where
  userVersion : ℤ
  tableExists : Bool
  rows : List SchemaRow
deriving DecidableEq

/-- A `PersistenceException`. -/
def failWith (code : Code) (message : String) : Failure := .persistence ⟨code, message⟩

/-- Which queries of an inspection go through. -/
structure InspectIo where
  version : Bool
  table : Bool
  rows : Bool
deriving DecidableEq

/-- An inspection whose queries all go through. -/
def InspectIo.willing : InspectIo := ⟨true, true, true⟩

/-- The checks of one row while the ledger is read. -/
def readRow (row : LedgerRow) : Except Failure SchemaRow :=
  match row.version, row.name, row.checksum with
  | none, _, _ => .error (failWith .migration "schema ledger contains a null version")
  | some _, some name, some checksum =>
    if isBlank name then .error (failWith .migration "schema ledger contains a malformed row")
    else .ok ⟨getInt row.version, name, checksum⟩
  | some _, _, _ => .error (failWith .migration "schema ledger contains a malformed row")

/-- The loop over the result set; `rows` are those of the map so far. -/
def readRows (rows : List SchemaRow) : List LedgerRow → Except Failure (List SchemaRow)
  | [] => .ok rows
  | row :: rest => do
    let read ← readRow row
    reject (rows.any fun old => old.version == read.version)
      (failWith .migration "schema ledger contains duplicate versions")
    readRows (rows ++ [read]) rest

/-- The checks of one row against the catalogue. -/
def checkRow (catalog : MigrationCatalog) (userVersion : ℤ) (row : SchemaRow) :
    Except Failure Unit := do
  reject (row.version < 1 || (catalog.latestVersion : ℤ) < row.version)
    (failWith .schemaTooNew "schema ledger contains an unknown version")
  reject (userVersion < row.version)
    (failWith .migration "schema ledger is ahead of user_version")
  -- the version was checked against the catalogue, so there is an entry
  let some expected := catalog.migrations[row.version.toNat - 1]? | .error .unchecked
  reject (expected.name != row.name || expected.checksum != row.checksum)
    (failWith .migrationChecksum "schema ledger checksum or name drifted")

/-- `SqliteMigrationRunner.inspect`. -/
def inspect {D : Type} (catalog : MigrationCatalog) (io : InspectIo) (db : Database D) :
    Except Failure SchemaState := do
  reject (!io.version) .sql
  let userVersion := db.userVersion
  reject (userVersion < 0) (failWith .migration "SQLite user_version is invalid")
  reject ((catalog.latestVersion : ℤ) < userVersion)
    (failWith .schemaTooNew "SQLite schema is newer than this JA binary")
  reject (!io.table) .sql
  match db.ledger with
  | .other => .error (failWith .migration "schema ledger is not a table")
  | .absent =>
    reject (userVersion != 0)
      (failWith .migration "schema ledger is missing for a non-zero user_version")
    return ⟨userVersion, false, []⟩
  | .table stored =>
    reject (!io.rows) .sql
    let rows ← readRows [] stored
    rows.forM (checkRow catalog userVersion)
    reject ((rows.length : ℤ) != userVersion)
      (failWith .migration "schema ledger and user_version are not continuous")
    reject (!(List.range userVersion.toNat).all fun i => rows.any fun row => row.version == i + 1)
      (failWith .migration "schema ledger has a missing applied version")
    return ⟨userVersion, true, rows⟩

/-! ## Application -/

/-- Which calls to the driver go through while one migration is applied.  A commit can also fail
after it has taken effect. -/
structure MigrationIo where
  begins : Bool
  inserts : Bool
  setsVersion : Bool
  takesEffect : Bool
  commits : Bool
  restores : Bool
deriving DecidableEq

/-- A driver that does all it is asked to. -/
def MigrationIo.willing : MigrationIo := ⟨true, true, true, true, true, true⟩

/-- What the driver answers during `apply`. -/
structure ApplyIo where
  before : InspectIo
  creates : Bool
  migration : ℕ → MigrationIo
  after : InspectIo

/-- A driver that does all it is asked to. -/
def ApplyIo.willing : ApplyIo := ⟨.willing, true, fun _ => .willing, .willing⟩

/-- `script.split(";")`, with the empty texts that `executeScript` passes over anyway. -/
def splitStatements : JavaString → List JavaString
  | [] => [[]]
  | u :: rest =>
    if u = 0x3B then [] :: splitStatements rest
    else
      match splitStatements rest with
      | [] => [[u]]
      | statement :: statements => (u :: statement) :: statements

/-- `String.trim`. -/
def trim (s : JavaString) : JavaString :=
  ((s.dropWhile (· ≤ 0x20)).reverse.dropWhile (· ≤ 0x20)).reverse

section Apply

variable {D : Type} (run : JavaString → Database D → Option (Database D))
variable (catalog : MigrationCatalog) (io : ApplyIo)

/-- `executeScript`: the statements that are not empty, one after the other; `none` is a
`SQLException`. -/
def executeScript (script : JavaString) (db : Database D) : Option (Database D) :=
  (((splitStatements script).map trim).filter fun statement => !statement.isEmpty).foldlM
    (fun db statement => run statement db) db

/-- The row of a migration added to the ledger, if it is a table. -/
def insertRow (inserts : Bool) (migration : SchemaMigration) (db : Database D) :
    Option (Database D) :=
  match db.ledger, inserts with
  | .table rows, true => some { db with ledger := .table (rows ++ [migration.row]) }
  | _, _ => none

/-- What happens inside the transaction of a migration. -/
def migrationBody (step : MigrationIo) (migration : SchemaMigration) (db : Database D) :
    Option (Database D) := do
  let db ← executeScript run migration.sql db
  let db ← insertRow step.inserts migration db
  if step.setsVersion then some { db with userVersion := migration.version } else none

/-- One round of the loop of `apply`. -/
def applyMigration (step : MigrationIo) (migration : SchemaMigration) (db : Database D) :
    Except Failure Unit × Database D :=
  let failed := failWith .migration ("migration failed at version " ++ toString migration.version)
  match if step.begins then migrationBody run step migration db else none with
  | none => (.error failed, db)
  | some changed =>
    if step.takesEffect && step.commits then
      if step.restores then (.ok (), changed)
      else (.error (failWith .migration "cannot restore autocommit after migration"), changed)
    else (.error failed, if step.takesEffect then changed else db)

/-- The loop of `apply`. -/
def applyMigrations (steps : ℕ → MigrationIo) (userVersion : ℤ) :
    List SchemaMigration → Database D → Except Failure Unit × Database D
  | [], db => (.ok (), db)
  | migration :: rest, db =>
    if (migration.version : ℤ) ≤ userVersion then applyMigrations steps userVersion rest db
    else
      match applyMigration run (steps migration.version) migration db with
      | (.error failure, db) => (.error failure, db)
      | (.ok (), db) => applyMigrations steps migration.version rest db

/-- A `SQLException` that `apply` catches. -/
def wrapSql : Failure → Failure
  | .sql => failWith .migration "cannot inspect schema migrations"
  | failure => failure

/-- `SqliteMigrationRunner.apply`. -/
def apply (db : Database D) : Except Failure Unit × Database D :=
  match inspect catalog io.before db with
  | .error failure => (.error (wrapSql failure), db)
  | .ok schema =>
    if !schema.tableExists && !io.creates then (.error (wrapSql .sql), db)
    else
      let created := if schema.tableExists then db else { db with ledger := .table [] }
      match applyMigrations run io.migration schema.userVersion catalog.migrations created with
      | (.error failure, db) => (.error failure, db)
      | (.ok (), db) =>
        match inspect catalog io.after db with
        | .error failure => (.error (wrapSql failure), db)
        | .ok _ => (.ok (), db)

end Apply

/-! ## What an inspection accepts -/

/-- The versions of the ledger are integers of Java. -/
def IntVersions {D : Type} (db : Database D) : Prop :=
  ∀ rows, db.ledger = .table rows → ∀ row ∈ rows, ∀ version, row.version = some version →
    -2 ^ 31 ≤ version ∧ version < 2 ^ 31

/-- A row of the ledger that the inspection can read. -/
def SchemaRow.stored (row : SchemaRow) : LedgerRow := ⟨some row.version, some row.name, some row.checksum⟩

/-- The row of a migration as it is read. -/
def SchemaMigration.read (migration : SchemaMigration) : SchemaRow :=
  ⟨migration.version, migration.name, migration.checksum⟩

lemma SchemaMigration.stored_read (migration : SchemaMigration) :
    migration.read.stored = migration.row := rfl

section Inspect

variable {D : Type} {catalog : MigrationCatalog} {io : InspectIo} {db : Database D}

lemma getInt_of_int {version : ℤ} (h : -2 ^ 31 ≤ version ∧ version < 2 ^ 31) :
    getInt (some version) = version := by
  rw [getInt, Option.getD_some]
  exact Int.bmod_eq_of_le (by omega) (by omega)

lemma readRow_eq_ok {row : LedgerRow} {read : SchemaRow}
    (hint : ∀ version, row.version = some version → -2 ^ 31 ≤ version ∧ version < 2 ^ 31)
    (h : readRow row = .ok read) : row = read.stored := by
  obtain ⟨version, name, checksum⟩ := row
  cases version with
  | none => cases h
  | some version =>
    cases name with
    | none => cases h
    | some name =>
      cases checksum with
      | none => cases h
      | some checksum =>
        change (if isBlank name = true then _ else _) = _ at h
        by_cases hblank : isBlank name = true
        · rw [if_pos hblank] at h
          cases h
        · rw [if_neg hblank, getInt_of_int (hint version rfl)] at h
          cases h
          rfl

lemma readRow_read (migration : SchemaMigration) (hversion : (migration.version : ℤ) < 2 ^ 31) :
    readRow migration.row = .ok migration.read := by
  have hint : getInt (some (migration.version : ℤ)) = migration.version :=
    getInt_of_int ⟨by omega, hversion⟩
  show (if isBlank migration.name then _ else _) = _
  rw [migration.name_visible, if_neg Bool.false_ne_true, SchemaMigration.row, hint]
  rfl

/-- What the loop over the result set returns: the rows, none of them twice. -/
lemma readRows_eq_ok {rows result : List SchemaRow} {stored : List LedgerRow}
    (hint : ∀ row ∈ stored, ∀ version, row.version = some version →
      -2 ^ 31 ≤ version ∧ version < 2 ^ 31)
    (hrows : (rows.map SchemaRow.version).Nodup) (h : readRows rows stored = .ok result) :
    ∃ more, result = rows ++ more ∧ stored = more.map SchemaRow.stored ∧
      (result.map SchemaRow.version).Nodup := by
  induction stored generalizing rows with
  | nil =>
    cases h
    exact ⟨[], (List.append_nil _).symm, rfl, hrows⟩
  | cons row stored ih =>
    rw [readRows] at h
    obtain ⟨read, hread, hrest⟩ := bind_eq_ok.mp h
    obtain ⟨_, hnew, hrest⟩ := bind_eq_ok.mp hrest
    rw [reject_eq_ok, List.any_eq_false] at hnew
    obtain rfl := readRow_eq_ok (hint row (by simp)) hread
    have hnodup : ((rows ++ [read]).map SchemaRow.version).Nodup := by
      rw [List.map_append, List.map_singleton, List.nodup_append]
      refine ⟨hrows, List.nodup_singleton _, ?_⟩
      intro version hversion other hother heq
      obtain ⟨old, hold, rfl⟩ := List.mem_map.mp hversion
      rw [List.mem_singleton] at hother
      exact hnew old hold (by rw [heq, hother, beq_self_eq_true])
    obtain ⟨more, rfl, rfl, hresult⟩ :=
      ih (fun r hr => hint r (List.mem_cons_of_mem _ hr)) hnodup hrest
    exact ⟨read :: more, by rw [List.append_assoc, List.singleton_append], rfl, hresult⟩

lemma checkRow_eq_ok {userVersion : ℤ} {row : SchemaRow} {u : Unit}
    (h : checkRow catalog userVersion row = .ok u) :
    1 ≤ row.version ∧ row.version ≤ userVersion ∧
      ∃ migration, catalog.migrations[row.version.toNat - 1]? = some migration ∧
        row = migration.read := by
  rw [checkRow] at h
  obtain ⟨_, hknown, h⟩ := bind_eq_ok.mp h
  obtain ⟨_, hahead, h⟩ := bind_eq_ok.mp h
  rw [reject_eq_ok, Bool.or_eq_false_iff, decide_eq_false_iff_not] at hknown
  rw [reject_eq_ok, decide_eq_false_iff_not] at hahead
  cases hentry : catalog.migrations[row.version.toNat - 1]? with
  | none =>
    rw [hentry] at h
    cases h
  | some migration =>
    rw [hentry] at h
    have hsame := reject_eq_ok.mp h
    simp only [Bool.or_eq_false_iff, bne_eq_false_iff_eq] at hsame
    obtain ⟨hindex, rfl⟩ := List.getElem?_eq_some_iff.mp hentry
    have hversion := catalog.contiguous _ hindex
    refine ⟨by omega, by omega, _, rfl, ?_⟩
    obtain ⟨version, name, checksum⟩ := row
    rw [SchemaMigration.read, SchemaRow.mk.injEq]
    exact ⟨by simp only at hversion hknown ⊢; omega, hsame.1.symm, hsame.2.symm⟩

/-- The rows that pass all checks are the entries of the catalogue up to the version. -/
lemma perm_entries {k : ℕ} {rows : List SchemaRow} (hk : k ≤ catalog.migrations.length)
    (hnodup : (rows.map SchemaRow.version).Nodup) (hlength : rows.length = k)
    (hrows : ∀ row ∈ rows, 1 ≤ row.version ∧ row.version ≤ k ∧
      ∃ migration, catalog.migrations[row.version.toNat - 1]? = some migration ∧
        row = migration.read) :
    (rows.map SchemaRow.stored).Perm ((catalog.migrations.take k).map SchemaMigration.row) := by
  let index : SchemaRow → ℕ := fun row => row.version.toNat - 1
  have hindex : (rows.map index).Nodup := by
    rw [List.nodup_map_iff_inj_on (List.Nodup.of_map _ hnodup)]
    intro row hrow other hother heq
    refine List.inj_on_of_nodup_map hnodup hrow hother ?_
    have hlow := (hrows row hrow).1
    have hlow' := (hrows other hother).1
    simp only [index] at heq
    omega
  have hrange : (rows.map index).Perm (List.range k) := by
    refine (List.subperm_of_subset hindex ?_).perm_of_length_le ?_
    · intro i hi
      obtain ⟨row, hrow, rfl⟩ := List.mem_map.mp hi
      obtain ⟨hlow, hhigh, -⟩ := hrows row hrow
      rw [List.mem_range]
      simp only [index]
      omega
    · rw [List.length_range, List.length_map, hlength]
  -- both lists are read off the catalogue at these positions
  rw [← List.map_perm_map_iff (Option.some_injective LedgerRow)]
  have hleft : (rows.map SchemaRow.stored).map some =
      (rows.map index).map fun i => (catalog.migrations[i]?).map SchemaMigration.row := by
    rw [List.map_map, List.map_map]
    refine List.map_congr_left fun row hrow => ?_
    obtain ⟨-, -, migration, hentry, heq⟩ := hrows row hrow
    simp only [Function.comp_apply, index, hentry, Option.map_some]
    rw [heq, SchemaMigration.stored_read]
  have hright : ((catalog.migrations.take k).map SchemaMigration.row).map some =
      (List.range k).map fun i => (catalog.migrations[i]?).map SchemaMigration.row := by
    refine List.ext_getElem (by simp [hk]) fun i hi _ => ?_
    have hi' : i < catalog.migrations.length := by
      simp only [List.length_map, List.length_take] at hi
      omega
    simp [List.getElem?_eq_getElem hi']
  rw [hleft, hright]
  exact hrange.map _

/-- **An inspection that accepts has found the ledger and the version to tell the same prefix.** -/
lemma describes_of_inspect (hint : IntVersions db) {schema : SchemaState}
    (h : inspect catalog io db = .ok schema) :
    LedgerDescribes catalog db ∧ schema.userVersion = db.userVersion ∧
      ((schema.tableExists = false ∧ db.ledger = .absent) ∨
        (schema.tableExists = true ∧ ∃ rows, db.ledger = .table rows)) := by
  rw [inspect] at h
  obtain ⟨-, -, h⟩ := bind_eq_ok.mp h
  dsimp only at h
  obtain ⟨_, hnegative, h⟩ := bind_eq_ok.mp h
  obtain ⟨_, hnew, h⟩ := bind_eq_ok.mp h
  obtain ⟨-, -, h⟩ := bind_eq_ok.mp h
  rw [reject_eq_ok, decide_eq_false_iff_not] at hnegative hnew
  rw [catalog.latestVersion_eq] at hnew
  cases hledger : db.ledger with
  | other =>
    rw [hledger] at h
    cases h
  | absent =>
    rw [hledger] at h
    obtain ⟨_, hzero, h⟩ := bind_eq_ok.mp h
    rw [reject_eq_ok, bne_eq_false_iff_eq] at hzero
    obtain rfl := Except.ok.inj h
    rw [LedgerDescribes, hledger]
    exact ⟨hzero, rfl, Or.inl ⟨rfl, rfl⟩⟩
  | table stored =>
    rw [hledger] at h
    obtain ⟨-, -, h⟩ := bind_eq_ok.mp h
    obtain ⟨rows, hread, h⟩ := bind_eq_ok.mp h
    obtain ⟨_, hchecked, h⟩ := bind_eq_ok.mp h
    obtain ⟨_, hlength, h⟩ := bind_eq_ok.mp h
    obtain ⟨-, -, h⟩ := bind_eq_ok.mp h
    obtain rfl := Except.ok.inj h
    obtain ⟨more, hrows, rfl, hnodup⟩ :=
      readRows_eq_ok (hint stored hledger) (by simp) hread
    rw [List.nil_append] at hrows
    subst hrows
    rw [reject_eq_ok, bne_eq_false_iff_eq] at hlength
    rw [LedgerDescribes, hledger]
    refine ⟨⟨rows.length, by omega, hlength.symm, perm_entries (by omega) hnodup rfl ?_⟩, rfl,
      Or.inr ⟨rfl, _, rfl⟩⟩
    intro row hrow
    obtain ⟨hlow, hhigh, hentry⟩ := checkRow_eq_ok (forM_eq_ok.mp hchecked row hrow)
    exact ⟨hlow, by omega, hentry⟩

lemma readRows_eq {rows more : List SchemaRow} (hnodup : ((rows ++ more).map SchemaRow.version).Nodup)
    (hread : ∀ row ∈ more, readRow row.stored = .ok row) :
    readRows rows (more.map SchemaRow.stored) = .ok (rows ++ more) := by
  induction more generalizing rows with
  | nil => rw [List.append_nil, List.map_nil, readRows]
  | cons row more ih =>
    have hnew : rows.any (fun old => old.version == row.version) = false := by
      rw [List.any_eq_false]
      intro old hold hsame
      rw [List.map_append, List.nodup_append] at hnodup
      exact hnodup.2.2 _ (List.mem_map_of_mem hold) row.version (by simp) (beq_iff_eq.mp hsame)
    have hassoc : rows ++ row :: more = (rows ++ [row]) ++ more := by simp
    rw [List.map_cons, readRows, hread row (by simp), ok_bind, hnew, reject_false, ok_bind,
      hassoc]
    exact ih (by rwa [← hassoc]) fun r hr => hread r (List.mem_cons_of_mem _ hr)

/-- An inspection whose queries go through accepts where both tell the same prefix. -/
lemma inspect_of_describes (hint : IntVersions db) (h : LedgerDescribes catalog db) :
    ∃ schema, inspect catalog .willing db = .ok schema := by
  rw [LedgerDescribes] at h
  cases hledger : db.ledger with
  | other =>
    rw [hledger] at h
    exact h.elim
  | absent =>
    rw [hledger] at h
    refine ⟨⟨db.userVersion, false, []⟩, ?_⟩
    have hnew : decide ((catalog.latestVersion : ℤ) < db.userVersion) = false := by
      rw [decide_eq_false_iff_not, h]
      omega
    rw [inspect]
    simp only [InspectIo.willing, Bool.not_true, reject_false, ok_bind, hnew, hledger]
    rw [h]
    rfl
  | table stored =>
    rw [hledger] at h
    obtain ⟨k, hk, hversion', hperm⟩ := h
    -- the rows are those of the entries, in some order
    obtain ⟨entries, hsame, hentries⟩ : ∃ entries : List SchemaRow,
        stored = entries.map SchemaRow.stored ∧
          entries.Perm ((catalog.migrations.take k).map SchemaMigration.read) := by
      have hmap : stored.Perm
          (((catalog.migrations.take k).map SchemaMigration.read).map SchemaRow.stored) := by
        rw [List.map_map]
        exact hperm
      have hcomp := congrFun₂ (List.eq_map_comp_perm SchemaRow.stored) stored
        ((catalog.migrations.take k).map SchemaMigration.read)
      exact hcomp.mpr hmap
    subst hsame
    have hentry : ∀ row ∈ entries, ∃ i, ∃ hi : i < catalog.migrations.length, i < k ∧
        row = (catalog.migrations[i]).read := by
      intro row hrow
      obtain ⟨migration, hmem, rfl⟩ := List.mem_map.mp (hentries.mem_iff.mp hrow)
      obtain ⟨i, hi, rfl⟩ := List.mem_take_iff_getElem.mp hmem
      exact ⟨i, by omega, by omega, rfl⟩
    have hnodup : (entries.map SchemaRow.version).Nodup := by
      rw [(hentries.map SchemaRow.version).nodup_iff, List.map_map, List.Nodup,
        List.pairwise_iff_getElem]
      intro i j hi hj hij
      rw [List.length_map, List.length_take] at hi hj
      have hvi := catalog.contiguous i (by omega)
      have hvj := catalog.contiguous j (by omega)
      simp only [List.getElem_map, List.getElem_take, Function.comp_apply, SchemaMigration.read,
        hvi, hvj]
      omega
    have hread : ∀ row ∈ entries, readRow row.stored = .ok row := by
      intro row hrow
      have hsmall := hint _ hledger _ (List.mem_map_of_mem hrow) row.version rfl
      obtain ⟨i, hi, -, rfl⟩ := hentry row hrow
      exact readRow_read _ hsmall.2
    have hcheck : ∀ row ∈ entries, checkRow catalog db.userVersion row = .ok () := by
      intro row hrow
      obtain ⟨i, hi, hik, rfl⟩ := hentry row hrow
      have hversion := catalog.contiguous i hi
      have hknown : (decide ((catalog.migrations[i]).read.version < 1) ||
          decide ((catalog.latestVersion : ℤ) < (catalog.migrations[i]).read.version)) = false := by
        rw [catalog.latestVersion_eq, Bool.or_eq_false_iff, decide_eq_false_iff_not,
          decide_eq_false_iff_not, SchemaMigration.read, hversion]
        simp only
        omega
      have hahead : decide (db.userVersion < (catalog.migrations[i]).read.version) = false := by
        rw [decide_eq_false_iff_not, SchemaMigration.read, hversion, hversion']
        simp only
        omega
      have hat : catalog.migrations[(catalog.migrations[i]).read.version.toNat - 1]? =
          some catalog.migrations[i] := by
        have hindex : (catalog.migrations[i]).read.version.toNat - 1 = i := by
          rw [SchemaMigration.read, hversion]
          simp only
          omega
        rw [hindex, List.getElem?_eq_getElem hi]
      rw [checkRow, hknown, reject_false, ok_bind, hahead, reject_false, ok_bind, hat]
      simp [SchemaMigration.read]
    have hlength : (entries.length : ℤ) = db.userVersion := by
      rw [hentries.length_eq, List.length_map, List.length_take, hversion', Nat.min_eq_left hk]
    have hall : (List.range db.userVersion.toNat).all (fun i =>
        entries.any fun row => row.version == (i : ℤ) + 1) = true := by
      rw [List.all_eq_true]
      intro i hi
      rw [List.mem_range, hversion', Int.toNat_natCast] at hi
      rw [List.any_eq_true]
      refine ⟨(getElem catalog.migrations i (by omega)).read, hentries.mem_iff.mpr ?_, ?_⟩
      · exact List.mem_map_of_mem (List.mem_take_iff_getElem.mpr ⟨i, by omega, rfl⟩)
      · rw [SchemaMigration.read, catalog.contiguous i (by omega)]
        simp
    have hnegative : decide (db.userVersion < 0) = false := by
      rw [decide_eq_false_iff_not, hversion']
      omega
    have hnew : decide ((catalog.latestVersion : ℤ) < db.userVersion) = false := by
      rw [decide_eq_false_iff_not, catalog.latestVersion_eq, hversion']
      omega
    refine ⟨⟨db.userVersion, true, entries⟩, ?_⟩
    rw [inspect]
    simp only [InspectIo.willing, Bool.not_true, reject_false, ok_bind, hnegative, hnew, hledger]
    rw [readRows_eq (by simpa using hnodup) hread, ok_bind, List.nil_append,
      (forM_eq_ok (u := ())).mpr hcheck, ok_bind, hlength, bne_self_eq_false, reject_false, ok_bind, hall]
    rfl

end Inspect

/-! ## What an application leaves -/

section Applied

variable {D : Type} {run : JavaString → Database D → Option (Database D)}
variable {catalog : MigrationCatalog} {io : ApplyIo} {db : Database D}

/-- The text of no migration writes to the ledger. -/
def LeavesLedger (run : JavaString → Database D → Option (Database D))
    (catalog : MigrationCatalog) : Prop :=
  ∀ migration ∈ catalog.migrations, ∀ db after : Database D,
    executeScript run migration.sql db = some after → after.ledger = db.ledger

/-- What one round can do to a database whose ledger is a table: nothing, or the migration with its
row and its version. -/
lemma applyMigration_cases {step : MigrationIo} {migration : SchemaMigration}
    {rows : List LedgerRow} (hledger : db.ledger = .table rows)
    (hsql : ∀ db after : Database D, executeScript run migration.sql db = some after →
      after.ledger = db.ledger) :
    (applyMigration run step migration db).2 = db ∧
        (∃ failure, (applyMigration run step migration db).1 = .error failure) ∨
      (applyMigration run step migration db).2.ledger = .table (rows ++ [migration.row]) ∧
        (applyMigration run step migration db).2.userVersion = migration.version := by
  rw [applyMigration]
  cases hbody : (if step.begins then migrationBody run step migration db else none) with
  | none => exact Or.inl ⟨rfl, _, rfl⟩
  | some changed =>
    have hchanged : changed.ledger = .table (rows ++ [migration.row]) ∧
        changed.userVersion = migration.version := by
      split_ifs at hbody
      rw [migrationBody] at hbody
      obtain ⟨executed, hexecuted, hbody⟩ := Option.bind_eq_some_iff.mp hbody
      obtain ⟨inserted, hinserted, hbody⟩ := Option.bind_eq_some_iff.mp hbody
      have htable : executed.ledger = .table rows := (hsql db executed hexecuted).trans hledger
      cases hinserts : step.inserts with
      | false =>
        rw [hinserts] at hinserted
        simp [insertRow] at hinserted
      | true =>
        simp only [insertRow, htable, hinserts] at hinserted
        obtain rfl := Option.some_inj.mp hinserted
        split_ifs at hbody
        obtain rfl := Option.some_inj.mp hbody
        exact ⟨rfl, rfl⟩
    dsimp only
    by_cases hcommitted : (step.takesEffect && step.commits) = true
    · right
      rw [if_pos hcommitted]
      split_ifs <;> exact hchanged
    · rw [if_neg hcommitted]
      cases step.takesEffect with
      | false => exact Or.inl ⟨rfl, _, rfl⟩
      | true => exact Or.inr hchanged

lemma applyMigrations_skip {steps : ℕ → MigrationIo} {userVersion : ℤ}
    {old rest : List SchemaMigration}
    (h : ∀ migration ∈ old, (migration.version : ℤ) ≤ userVersion) :
    applyMigrations run steps userVersion (old ++ rest) db =
      applyMigrations run steps userVersion rest db := by
  induction old with
  | nil => rfl
  | cons migration old ih =>
    rw [List.cons_append, applyMigrations, if_pos (h migration (by simp))]
    exact ih fun m hm => h m (List.mem_cons_of_mem _ hm)

/-- The loop applies a first part of the missing migrations, all of them if it does not throw. -/
lemma applyMigrations_done {steps : ℕ → MigrationIo} {k : ℕ} {rest : List SchemaMigration}
    {rows : List LedgerRow} (hledger : db.ledger = .table rows) (hversion : db.userVersion = k)
    (hrest : ∀ i, (h : i < rest.length) → rest[i].version = k + i + 1)
    (hsql : ∀ migration ∈ rest, ∀ db after : Database D,
      executeScript run migration.sql db = some after → after.ledger = db.ledger) :
    ∃ done, done <+: rest ∧
      (applyMigrations run steps k rest db).2.ledger =
        .table (rows ++ done.map SchemaMigration.row) ∧
      (applyMigrations run steps k rest db).2.userVersion = (k + done.length : ℕ) ∧
      ((applyMigrations run steps k rest db).1 = .ok () → done = rest) := by
  induction rest generalizing db k rows with
  | nil => exact ⟨[], List.prefix_refl _, by simpa [applyMigrations] using hledger, hversion, fun _ => rfl⟩
  | cons migration rest ih =>
    have hfirst : migration.version = k + 1 := hrest 0 (by simp)
    rw [applyMigrations, if_neg (by omega)]
    have hround := @applyMigration_cases _ run _ (steps migration.version) _ _ hledger
      (hsql migration (by simp))
    rcases hmigration : applyMigration run (steps migration.version) migration db with ⟨outcome, db'⟩
    rw [hmigration] at hround
    cases outcome with
    | error failure =>
      rcases hround with ⟨hsame, -⟩ | ⟨hledger', hversion'⟩
      · -- the transaction is gone
        obtain rfl : db' = db := hsame
        exact ⟨[], List.nil_prefix, by simpa using hledger, hversion, fun h => by cases h⟩
      · -- the migration has taken effect although its round has failed
        refine ⟨[migration], List.prefix_append [migration] rest, hledger', ?_, fun h => by cases h⟩
        rw [hversion', hfirst]
        rfl
    | ok u =>
      rcases hround with ⟨-, failure, hfailure⟩ | ⟨hledger', hversion'⟩
      · cases hfailure
      · have hstep : ∀ i, (h : i < rest.length) → rest[i].version = migration.version + i + 1 := by
          intro i hi
          have hnext := hrest (i + 1) (by rw [List.length_cons]; omega)
          rw [List.getElem_cons_succ] at hnext
          omega
        obtain ⟨done, hdone, hrows, huser, hok⟩ := ih hledger' hversion' hstep fun m hm =>
          hsql m (List.mem_cons_of_mem _ hm)
        refine ⟨migration :: done, List.cons_prefix_cons.mpr ⟨rfl, hdone⟩, ?_, ?_, ?_⟩
        · rw [hrows, List.append_assoc, List.map_cons, List.singleton_append]
        · rw [huser, List.length_cons, hfirst]
          congr 1
          omega
        · intro hreturns
          rw [hok hreturns]

/-- The rows of the ledger, none while there is no table. -/
def Ledger.rows : Ledger → List LedgerRow
  | .table rows => rows
  | _ => []

/-- `apply` ends with all migrations recorded, those that were missing in the order of the
catalogue, or it throws and leaves a database whose ledger and version tell one prefix of the
catalogue, if they did before; otherwise it leaves the database as it was. -/
def MigrationsKept (run : JavaString → Database D → Option (Database D))
    (catalog : MigrationCatalog) (io : ApplyIo) (db : Database D) : Prop :=
  match apply run catalog io db with
  | (.ok (), after) => LedgerDescribes catalog after ∧
      after.userVersion = catalog.migrations.length ∧
      ∃ k : ℕ, db.userVersion = k ∧ after.ledger =
        .table (db.ledger.rows ++ (catalog.migrations.drop k).map SchemaMigration.row)
  | (.error _, after) =>
    (LedgerDescribes catalog db → LedgerDescribes catalog after ∧ db.userVersion ≤ after.userVersion) ∧
      (¬LedgerDescribes catalog db → after = db)

lemma describes_of_rows {k : ℕ} {rows : List LedgerRow} {done : List SchemaMigration}
    (hk : k ≤ catalog.migrations.length)
    (hrows : rows.Perm ((catalog.migrations.take k).map SchemaMigration.row))
    (hdone : done <+: catalog.migrations.drop k)
    (hledger : db.ledger = .table (rows ++ done.map SchemaMigration.row))
    (hversion : db.userVersion = (k + done.length : ℕ)) : LedgerDescribes catalog db := by
  rw [LedgerDescribes, hledger]
  have hlength := hdone.length_le
  rw [List.length_drop] at hlength
  refine ⟨k + done.length, by omega, hversion, ?_⟩
  have htake : catalog.migrations.take (k + done.length) = catalog.migrations.take k ++ done := by
    rw [List.take_add, ← List.prefix_iff_eq_take.mp hdone]
  rw [htake, List.map_append]
  exact hrows.append_right _

lemma loop_of_describes (hint : IntVersions db) {schema : SchemaState}
    (h : inspect catalog io.before db = .ok schema) :
    ∃ k rows, k ≤ catalog.migrations.length ∧ schema.userVersion = (k : ℕ) ∧ db.userVersion = k ∧
      rows = db.ledger.rows ∧ rows.Perm ((catalog.migrations.take k).map SchemaMigration.row) ∧
      (if schema.tableExists then db else { db with ledger := .table [] }).ledger = .table rows := by
  obtain ⟨hdescribes, huser, ⟨hexists, hledger⟩ | ⟨hexists, rows, hledger⟩⟩ :=
    describes_of_inspect hint h
  · rw [LedgerDescribes, hledger] at hdescribes
    refine ⟨0, [], Nat.zero_le _, by rw [huser, hdescribes]; rfl, hdescribes,
      by rw [hledger]; rfl, List.Perm.refl _, by rw [hexists]; rfl⟩
  · rw [LedgerDescribes, hledger] at hdescribes
    obtain ⟨k, hk, hversion, hperm⟩ := hdescribes
    refine ⟨k, rows, hk, huser.trans hversion, hversion, by rw [hledger]; rfl, hperm, ?_⟩
    rw [hexists, if_pos rfl, hledger]

lemma migrationsKept (hsql : LeavesLedger run catalog) (hint : IntVersions db) :
    MigrationsKept run catalog io db := by
  rw [MigrationsKept, apply]
  cases hbefore : inspect catalog io.before db with
  | error failure => exact ⟨fun h => ⟨h, Int.le_refl _⟩, fun _ => rfl⟩
  | ok schema =>
    have hdescribes := (describes_of_inspect hint hbefore).1
    obtain ⟨k, rows, hk, huser, hversion, hrows, hperm, hledger⟩ := loop_of_describes hint hbefore
    dsimp only
    by_cases hcreates : (!schema.tableExists && !io.creates) = true
    · rw [if_pos hcreates]
      exact ⟨fun h => ⟨h, Int.le_refl _⟩, fun _ => rfl⟩
    · rw [if_neg hcreates, huser]
      generalize hcreated : (if schema.tableExists then db else { db with ledger := .table [] }) =
        created at hledger ⊢
      have hversion' : created.userVersion = k := by
        rw [← hcreated]
        split_ifs <;> exact hversion
      have hsplit : catalog.migrations = catalog.migrations.take k ++ catalog.migrations.drop k :=
        (List.take_append_drop _ _).symm
      have hloop : applyMigrations run io.migration k catalog.migrations created =
          applyMigrations run io.migration k (catalog.migrations.drop k) created := by
        conv_lhs => rw [hsplit]
        refine applyMigrations_skip fun migration hmem => ?_
        obtain ⟨i, hi, rfl⟩ := List.mem_take_iff_getElem.mp hmem
        rw [catalog.contiguous i (by omega)]
        omega
      obtain ⟨done, hdone, hledger', huser', hok⟩ :=
        @applyMigrations_done _ run _ io.migration _ (catalog.migrations.drop k) _ hledger hversion'
          (fun i hi => by
            rw [List.length_drop] at hi
            rw [List.getElem_drop, catalog.contiguous _ (by omega)])
          (fun migration hmem => hsql migration (List.mem_of_mem_drop hmem))
      rw [hloop]
      rcases hrun : applyMigrations run io.migration k (catalog.migrations.drop k) created with
        ⟨outcome, after⟩
      rw [hrun] at hledger' huser' hok
      have hafter : LedgerDescribes catalog after :=
        describes_of_rows hk hperm hdone hledger' huser'
      have hlater : db.userVersion ≤ after.userVersion := by
        rw [hversion, huser']
        omega
      have hkept : (LedgerDescribes catalog db →
          LedgerDescribes catalog after ∧ db.userVersion ≤ after.userVersion) ∧
            (¬LedgerDescribes catalog db → after = db) :=
        ⟨fun _ => ⟨hafter, hlater⟩, fun h => absurd hdescribes h⟩
      cases outcome with
      | error failure => exact hkept
      | ok u =>
        dsimp only
        cases inspect catalog io.after after with
        | error failure => exact hkept
        | ok final =>
          obtain rfl := hok rfl
          refine ⟨hafter, ?_, k, hversion, ?_⟩
          · rw [huser', List.length_drop]
            omega
          · rw [← hrows]
            exact hledger'

/-- The versions of a ledger that tells a prefix of the catalogue are integers of Java. -/
lemma intVersions_of_describes (h : LedgerDescribes catalog db) : IntVersions db := by
  intro rows hledger row hrow version hversion
  rw [LedgerDescribes, hledger] at h
  obtain ⟨k, hk, -, hperm⟩ := h
  obtain ⟨migration, hmem, rfl⟩ := List.mem_map.mp (hperm.mem_iff.mp hrow)
  obtain ⟨i, hi, rfl⟩ := List.mem_take_iff_getElem.mp hmem
  have hlength := catalog.length_lt
  have hi' := catalog.contiguous i (by omega)
  obtain rfl := Option.some_inj.mp hversion
  omega

lemma loop_complete {steps : ℕ → MigrationIo} {userVersion : ℤ}
    (h : userVersion = catalog.migrations.length) :
    applyMigrations run steps userVersion catalog.migrations db = (.ok (), db) := by
  have hskip := @applyMigrations_skip _ run db steps userVersion catalog.migrations [] (by
      intro migration hmem
      obtain ⟨i, hi, rfl⟩ := List.getElem_of_mem hmem
      rw [catalog.contiguous i hi, h]
      omega)
  rw [List.append_nil] at hskip
  rw [hskip, applyMigrations]

/-- Nothing is applied to a database that has all migrations, and where the driver is willing the
application succeeds. -/
lemma apply_complete (hdescribes : LedgerDescribes catalog db) {rows : List LedgerRow}
    (hledger : db.ledger = .table rows) (hversion : db.userVersion = catalog.migrations.length) :
    (∀ io, (apply run catalog io db).2 = db) ∧ apply run catalog .willing db = (.ok (), db) := by
  have hint := intVersions_of_describes hdescribes
  have hexists : ∀ {io : InspectIo} {schema : SchemaState}, inspect catalog io db = .ok schema →
      schema.tableExists = true ∧ schema.userVersion = catalog.migrations.length := by
    intro io schema hok
    obtain ⟨-, huser, ⟨-, habsent⟩ | ⟨hexists, -⟩⟩ := describes_of_inspect hint hok
    · rw [hledger] at habsent
      cases habsent
    · exact ⟨hexists, huser.trans hversion⟩
  constructor
  · intro io
    rw [apply]
    cases hbefore : inspect catalog io.before db with
    | error failure => rfl
    | ok schema =>
      obtain ⟨htable, huser⟩ := hexists hbefore
      simp only [htable, Bool.not_true, Bool.false_and, if_true, loop_complete huser]
      cases inspect catalog io.after db <;> rfl
  · obtain ⟨schema, hok⟩ := inspect_of_describes hint hdescribes
    obtain ⟨htable, huser⟩ := hexists hok
    have hbefore : inspect catalog ApplyIo.willing.before db = .ok schema := hok
    have hafter : inspect catalog ApplyIo.willing.after db = .ok schema := hok
    rw [apply, hbefore]
    simp only [htable, Bool.not_true, Bool.false_and, if_true, loop_complete huser, hafter]
    rfl

end Applied

/-- **The two records of the schema stay one fact**: an inspection accepts exactly where the ledger
and the version tell the same prefix of the catalogue, an application records the missing
migrations in order or leaves both records telling one prefix, and a second one changes nothing. -/
theorem schema_migrations {D : Type} (run : JavaString → Database D → Option (Database D))
    (catalog : MigrationCatalog) (io : ApplyIo) (db : Database D) (hsql : LeavesLedger run catalog)
    (hint : IntVersions db) :
    ((∃ schema, inspect catalog .willing db = .ok schema) ↔ LedgerDescribes catalog db) ∧
      MigrationsKept run catalog io db ∧
      ∀ after, apply run catalog io db = (.ok (), after) →
        (∀ again, (apply run catalog again after).2 = after) ∧
          apply run catalog .willing after = (.ok (), after) := by
  refine ⟨⟨fun ⟨_, h⟩ => (describes_of_inspect hint h).1, inspect_of_describes hint⟩,
    migrationsKept hsql hint, ?_⟩
  intro after hafter
  have hkept : MigrationsKept run catalog io db := migrationsKept hsql hint
  rw [MigrationsKept, hafter] at hkept
  obtain ⟨hdescribes, hversion, k, -, hledger⟩ := hkept
  exact apply_complete hdescribes hledger hversion

/-! ## Small catalogues -/

/-- A migration with a text. -/
def sampleMigration (version : ℕ) (sql : String) : SchemaMigration :=
  ⟨version, java "m", java sql, java "c", by decide⟩

/-- A catalogue of two migrations. -/
def sampleCatalog (first second : String) : MigrationCatalog where
  migrations := [sampleMigration 1 first, sampleMigration 2 second]
  contiguous := by
    intro i hi
    match i, hi with
    | 0, _ => rfl
    | 1, _ => rfl
  length_lt := by
    show 2 < 2 ^ 31
    decide

/-- An SQLite that knows one statement on the ledger and keeps a count of all others. -/
def sampleRun (statement : JavaString) (db : Database ℕ) : Option (Database ℕ) :=
  if statement = java "DELETE FROM schema_migrations" then some { db with ledger := .table [] }
  else some { db with content := db.content + 1 }

/-- A new database. -/
def emptyDatabase : Database ℕ := ⟨.absent, 0, 0⟩

lemma leavesLedger_tables : LeavesLedger sampleRun (sampleCatalog "CREATE a" "CREATE b; CREATE c") := by
  have hkeeps : ∀ (statements : List JavaString), java "DELETE FROM schema_migrations" ∉ statements →
      ∀ db after : Database ℕ, statements.foldlM (fun db s => sampleRun s db) db = some after →
        after.ledger = db.ledger := by
    intro statements
    induction statements with
    | nil =>
      intro _ db after h
      cases h
      rfl
    | cons statement statements ih =>
      intro hnot db after h
      rw [List.foldlM_cons, sampleRun, if_neg (fun heq => hnot (by simp [heq]))] at h
      exact ih (fun hmem => hnot (List.mem_cons_of_mem _ hmem)) { db with content := db.content + 1 }
        after h
  intro migration hmem db after h
  simp only [sampleCatalog, List.mem_cons, List.not_mem_nil, or_false] at hmem
  rcases hmem with rfl | rfl <;> exact hkeeps _ (by decide +kernel) db after h

theorem schema_migrations_tables :
    MigrationsKept sampleRun (sampleCatalog "CREATE a" "CREATE b; CREATE c") .willing emptyDatabase :=
  (schema_migrations sampleRun (sampleCatalog "CREATE a" "CREATE b; CREATE c") .willing emptyDatabase
    leavesLedger_tables (fun _ h => by cases h)).2.1

/-- A migration that empties the ledger is committed with its row before the inspection that throws:
the ledger then tells no prefix.  And a row with the version `2 ^ 32 + 1` is read as one with the
version 1. -/
theorem ledger_split :
    ((apply sampleRun (sampleCatalog "CREATE a" "DELETE FROM schema_migrations") .willing
        emptyDatabase).1.toBool = false ∧
      LedgerDescribes (sampleCatalog "CREATE a" "DELETE FROM schema_migrations") emptyDatabase ∧
      ¬LedgerDescribes (sampleCatalog "CREATE a" "DELETE FROM schema_migrations")
        (apply sampleRun (sampleCatalog "CREATE a" "DELETE FROM schema_migrations") .willing
          emptyDatabase).2) ∧
      (inspect (sampleCatalog "CREATE a" "CREATE b") .willing
        (⟨.table [⟨some (2 ^ 32 + 1), some (java "m"), some (java "c")⟩], 1, 0⟩ : Database ℕ)).toBool = true ∧
      ¬LedgerDescribes (sampleCatalog "CREATE a" "CREATE b")
        (⟨.table [⟨some (2 ^ 32 + 1), some (java "m"), some (java "c")⟩], 1, 0⟩ : Database ℕ) := by
  have hsplit : (apply sampleRun (sampleCatalog "CREATE a" "DELETE FROM schema_migrations") .willing
      emptyDatabase).2 = ⟨.table [(sampleMigration 2 "").row], 2, 1⟩ := by decide +kernel
  refine ⟨⟨by decide +kernel, rfl, ?_⟩, by decide +kernel, ?_⟩
  · rw [hsplit]
    rintro ⟨k, hk, hversion, hperm⟩
    have hlength := hperm.length_eq
    simp only [sampleCatalog, List.length_map, List.length_take, List.length_cons,
      List.length_nil] at hk hlength hversion
    omega
  · rintro ⟨k, -, hversion, hperm⟩
    have hone : (1 : ℤ) = k := hversion
    obtain rfl : k = 1 := by omega
    have hrow := List.singleton_perm_singleton.mp hperm
    exact absurd (congrArg LedgerRow.version hrow) (by decide)

end JaDesktop.Persistence.Migrations
