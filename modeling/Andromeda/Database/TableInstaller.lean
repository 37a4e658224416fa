import Mathlib.Data.List.Basic

/-! `TableInstaller`: the version table and the table of a class are created or upgraded with
queries that are each committed on their own, any of which may throw. -/

set_option autoImplicit false

namespace Andromeda.Database.TableInstaller

/-- What `TableBuilder` can ask for. -/
inductive Statement where
  | createTable (table : String) (properties : List String)
  | createIndex (table : String) (fields : List String)
  deriving DecidableEq

/-- A name as SQLite compares it: whatever the case of its letters. -/
def foldCase (name : String) : List Char := name.toList.map Char.toLower

/-- The name of what a statement creates. Tables and indexes share their names. -/
def Statement.name : Statement → List Char
  | .createTable table _ => foldCase table
  | .createIndex table fields => foldCase ("idx_" ++ table ++ "_" ++ "_".intercalate fields)

/-- A `TableBuilder`, with the table name of its class. -/
structure TableBuilder where
  table : String
  columns : List String := []
  primary : String := ""
  uniques : List String := []
  indexes : List (List String) := []
  constraints : List String := []

namespace TableBuilder

def addColumn (builder : TableBuilder) (name type : String) (null : Bool) : TableBuilder :=
  { builder with columns := builder.columns ++
      ["`" ++ name ++ "` " ++ type ++ " " ++ (if null then "DEFAULT" else "NOT") ++ " NULL"] }

def setPrimary (builder : TableBuilder) (name : String) : TableBuilder :=
  { builder with primary := "PRIMARY KEY (`" ++ name ++ "`)" }

def addUnique (builder : TableBuilder) (fields : List String) : TableBuilder :=
  { builder with uniques := builder.uniques ++
      ["UNIQUE (" ++ ",".intercalate (fields.map fun field => "`" ++ field ++ "`") ++ ")"] }

/-- `GetQueries`. -/
def getQueries (builder : TableBuilder) : List Statement :=
  let properties := builder.columns ++ (if builder.primary = "" then [] else [builder.primary]) ++
    builder.uniques ++ builder.constraints
  (if properties = [] then [] else [.createTable builder.table properties]) ++
    builder.indexes.map fun fields => .createIndex builder.table fields

end TableBuilder

/-- The static functions of a class. -/
structure TableClass where
  getTableVersion : Int
  getTableInstall : TableBuilder
  getTableUpgrade : Int → TableBuilder

/-- The table of `VersionEntry`. -/
def versionTable : String := "a2obj_database_versionentry"

def versionEntry : TableClass where
  getTableVersion := 1
  getTableInstall := (((({ table := versionTable } : TableBuilder).addColumn "id" "varchar(16)"
    false).setPrimary "id").addColumn "tableName" "varchar(255)" false |>.addUnique
      ["tableName"]).addColumn "version" "integer" false
  getTableUpgrade _ := { table := versionTable }

/-- `SessionStore`, which the program installs. -/
def sessionStore : TableClass where
  getTableVersion := 1
  getTableInstall := ((((({ table := "a2obj_database_sessionstore" } : TableBuilder).addColumn "id"
    "varchar(12)" false).setPrimary "id").addColumn "serverUrl" "text" false).addColumn "accountID"
      "char(12)" false |>.addUnique ["accountID"]).addColumn "sessionID" "char(12)" true
        |>.addColumn "sessionKey" "char(32)" true
  getTableUpgrade _ := { table := "a2obj_database_sessionstore" }

/-- The database: what has been created, in order, the `user_version` and the version entry of the
class that is installed. -/
structure Store where
  schema : List Statement
  userVersion : Int
  entry : Option Int
  deriving DecidableEq

inductive InstallException where
  /-- The query that is made to throw. -/
  | query
  /-- An error of SQLite. -/
  | sqlite
  | insertFailed
  | updateFailed
  | tableVersion
  deriving DecidableEq

/-- A connection, and after how many queries one throws. -/
structure Connection where
  store : Store
  fault : Option Nat
  deriving DecidableEq

abbrev Exec := EStateM InstallException Connection

/-- What a query does to the database. -/
abbrev Effect := Store → Except InstallException Store

/-- `SqliteDatabase::query`, outside of a transaction. -/
def query (effect : Effect) : Exec Unit := do
  let connection ← get
  if connection.fault = some 0 then throw .query
  else match effect connection.store with
    | .error exception => throw exception
    | .ok store => set (Connection.mk store (connection.fault.map (· - 1)))

/-- Whether there is a table of that name. -/
def Store.hasTable (store : Store) (table : String) : Bool :=
  store.schema.any fun
    | .createTable other _ => decide (foldCase other = foldCase table)
    | .createIndex .. => false

/-- A `CREATE TABLE` or a `CREATE INDEX`. -/
def create (statement : Statement) : Effect := fun store =>
  if store.schema.any fun other => decide (other.name = statement.name) then throw .sqlite
  else
    let created := { store with schema := store.schema ++ [statement] }
    match statement with
    | .createTable .. => pure created
    | .createIndex table _ => if store.hasTable table then pure created else throw .sqlite

/-- A `PRAGMA user_version` that writes. -/
def writeVersion (version : Int) : Effect := fun store => pure { store with userVersion := version }

/-- A `SELECT` from the version table. -/
def selectEntry : Effect := fun store =>
  if store.hasTable versionTable then pure store else throw .sqlite

/-- The `INSERT` of a version entry: the table name is unique. -/
def insertEntry (version : Int) : Effect := fun store =>
  if store.hasTable versionTable = false ∨ store.entry.isSome then throw .sqlite
  else pure { store with entry := some version }

/-- The `UPDATE` of a version entry. -/
def updateEntry (version : Int) : Effect := fun store =>
  if store.hasTable versionTable = false then throw .sqlite
  else if store.entry.isNone then throw .updateFailed
  else pure { store with entry := some version }

/-- `getVersion`. -/
def getVersion : Exec Int := do
  query pure
  return (← get).store.userVersion

/-- `setVersion`. -/
def setVersion (version : Int) : Exec Unit := query (writeVersion version)

/-- `TryLoadByTable`: the version of the entry. -/
def tryLoadByTable : Exec (Option Int) := do
  query selectEntry
  return (← get).store.entry

/-- The queries of a builder. -/
def runQueries (builder : TableBuilder) : Exec Unit :=
  forM builder.getQueries fun statement => query (create statement)

/-- The upgrades that are left, from a version on. -/
def upgrade (getTableUpgrade : Int → TableBuilder) (record : Int → Exec Unit) :
    Nat → Int → Exec Unit
  | 0, _ => pure ()
  | left + 1, newVer => do
    runQueries (getTableUpgrade newVer)
    record newVer
    upgrade getTableUpgrade record left (newVer + 1)

/-- The constructor, once it has the version of the database. -/
def constructFrom (dbVer : Int) : Exec Unit :=
  let codeVer := versionEntry.getTableVersion
  if dbVer = 0 then do
    runQueries versionEntry.getTableInstall
    setVersion codeVer
  else if codeVer < dbVer then throw .tableVersion
  else upgrade versionEntry.getTableUpgrade setVersion (codeVer - dbVer).toNat (dbVer + 1)

/-- The constructor. -/
def construct : Exec Unit := do constructFrom (← getVersion)

/-- `InstallTable`, once it has looked for the version entry. -/
def installTableFrom (tableClass : TableClass) (verEntry : Option Int) : Exec Unit :=
  let codeVer := tableClass.getTableVersion
  match verEntry with
  | none => do
    runQueries tableClass.getTableInstall
    query (insertEntry codeVer)
  | some version =>
    if codeVer < version then throw .tableVersion
    else
      upgrade tableClass.getTableUpgrade (fun newVer => query (updateEntry newVer))
        (codeVer - version).toNat (version + 1)

/-- `InstallTable`. -/
def installTable (tableClass : TableClass) : Exec Unit := do
  installTableFrom tableClass (← tryLoadByTable)

/-- An installation: the installer is constructed and installs the class. -/
def install (tableClass : TableClass) : Exec Unit := do
  construct
  installTable tableClass

/-- The database after an installation in which the query at a position throws. -/
def interrupted (tableClass : TableClass) (store : Store) (position : Nat) : Store :=
  match install tableClass ⟨store, some position⟩ with
  | .ok _ connection => connection.store
  | .error _ connection => connection.store

end Andromeda.Database.TableInstaller
