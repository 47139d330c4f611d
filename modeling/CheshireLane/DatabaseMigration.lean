import CheshireLane.Library.Transitions
import Mathlib.Data.List.Forall2
import Mathlib.Data.List.Nodup
import Mathlib.Logic.Function.Basic

/-!
# Migrations of the database

Connecting to a database migrates it: the tables and the index are created unless they
are there, and each column that an older `accounts` lacks is added. Every statement is
one step. A connection may be lost or fail at any point, and others may be migrating or
creating accounts meanwhile.
-/

namespace CheshireLane.Migration

open Transitions

/-- A value in a cell: null, a number or a text. -/
inductive Cell where
  | null
  | integer (value : Int)
  | text (value : String)
  deriving DecidableEq

/-- A row by its cells; a column that is not there reads as null. -/
structure Row where
  uid : Int
  cell : String → Cell

/-- A table with its columns, its rows in order and the counter of its uids. -/
structure Table where
  columns : List String
  rows : List Row
  sequence : Int

/-- A column that `ensure_account_column` adds, with the default that its ddl gives. -/
structure Column where
  name : String
  default : Cell
  deriving DecidableEq

/-- The columns that `create_sdk_account` names. -/
def insertedColumns : List String :=
  ["device_id", "token", "user_name", "nick_name", "created_at", "is_new"]

/-- The database. The rows of `players` are left alone. -/
structure Database (Player : Type) where
  accounts : Option Table
  nameIndex : Bool
  players : Option (List Player)

/-- What `migrate` sees to, one after another. -/
inductive Task where
  | accounts
  | column (column : Column)
  | index
  | players
  deriving DecidableEq

/-- The columns that `migrate` adds, with their defaults. -/
def newColumns : List Column :=
  [⟨"user_name", .null⟩, ⟨"nick_name", .null⟩, ⟨"created_at", .integer 0⟩, ⟨"is_new", .integer 0⟩]

/-- `Database::migrate`. -/
def migrate : List Task :=
  .accounts :: newColumns.map .column ++ [.index, .players]

/-- Where a connection stands: what is left of the migration, and whether the column at its
front was found missing. -/
inductive Connection where
  | migrating (left : List Task) (missing : Bool)
  | connected
  | failed

namespace Table

/-- `CREATE TABLE accounts`. -/
def created : Table := ⟨["uid", "device_id", "token"], [], 0⟩

/-- `ALTER TABLE accounts ADD COLUMN`. -/
def addColumn (table : Table) (column : Column) : Table where
  columns := table.columns ++ [column.name]
  rows := table.rows.map fun row =>
    { row with cell := Function.update row.cell column.name column.default }
  sequence := table.sequence

/-- The row of `create_sdk_account`. The columns that it does not name are left empty. -/
def newRow (table : Table) (userName token : String) (createdAt : Int) : Row where
  uid := table.sequence + 1
  cell := fun column =>
    if column = "device_id" then .text ("sdk:" ++ userName)
    else if column = "token" then .text token
    else if column = "user_name" ∨ column = "nick_name" then .text userName
    else if column = "created_at" then .integer createdAt
    else if column = "is_new" then .integer 1
    else .null

/-- No two rows have the same cell in the column, nulls apart. -/
def Unique (table : Table) (column : String) : Prop :=
  table.rows.Pairwise fun left right => left.cell column = right.cell column → left.cell column = .null

instance (table : Table) (column : String) : Decidable (table.Unique column) :=
  inferInstanceAs (Decidable (List.Pairwise _ _))

/-- A row goes to the end, and the counter to its uid. -/
def insert (table : Table) (row : Row) : Table :=
  { table with rows := table.rows ++ [row], sequence := row.uid }

end Table

namespace Database

variable {Player : Type} (db : Database Player)

/-- `PRAGMA table_info(accounts)`. -/
def tableInfo : List String := (db.accounts.map Table.columns).getD []

/-- A statement of the migration; the flag says that the column was found missing. A statement
that fails leaves the database as it is. -/
def execute (task : Task) (missing : Bool) : Option (Database Player) :=
  match task, missing with
  | .accounts, _ => some { db with accounts := db.accounts.getD .created }
  | .column _, false => some db
  | .column column, true =>
    match db.accounts with
    | some table =>
      if column.name ∈ table.columns then none
      else some { db with accounts := some (table.addColumn column) }
    | none => none
  | .index, _ =>
    if db.nameIndex then some db
    else match db.accounts with
      | some table =>
        if "user_name" ∈ table.columns ∧ table.Unique "user_name" then some { db with nameIndex := true }
        else none
      | none => none
  | .players, _ => some { db with players := db.players.getD [] }

/-- `create_sdk_account`. Constraints and missing columns refuse the row. -/
def createSdkAccount (userName token : String) (createdAt : Int) : Option (Database Player) :=
  match db.accounts with
  | none => none
  | some table =>
    let next := table.insert (table.newRow userName token createdAt)
    if (∀ column ∈ insertedColumns, column ∈ table.columns) ∧ next.Unique "device_id" ∧
        (db.nameIndex → next.Unique "user_name") then
      some { db with accounts := some next }
    else none

end Database

/-- What a connection does behind a statement: a column that is missing is added next. -/
def Connection.behind (columns : List String) : List Task → Bool → Connection
  | .column column :: left, false =>
    if column.name ∈ columns then .migrating left false else .migrating (.column column :: left) true
  | _ :: left, _ => .migrating left false
  | [], _ => .connected

/-- The database and all connections that migrate it. -/
structure Server (Player : Type) where
  db : Database Player
  connections : Nat → Option Connection := fun _ => none

/-- A connection is opened, executes a statement, which may fail, is lost, or creates an
account. -/
inductive Event where
  | connect (id : Nat)
  | advance (id : Nat) (works : Bool)
  | lose (id : Nat)
  | create (id : Nat) (userName token : String) (createdAt : Int)

namespace Server

variable {Player : Type} (server : Server Player)

/-- One connection moves, the others stay. -/
def setConnection (id : Nat) (connection : Option Connection) : Server Player :=
  { server with connections := Function.update server.connections id connection }

/-- A connection executes the task in front, or fails at it. `ensure_account_column` takes two
statements, so others may come in between. -/
def advance (id : Nat) (works : Bool) : Option (Server Player) :=
  match server.connections id with
  | some (.migrating [] _) => some (server.setConnection id (some .connected))
  | some (.migrating (task :: left) missing) =>
    match works, server.db.execute task missing with
    | true, some db =>
      some ({ server with db }.setConnection id
        (some (.behind server.db.tableInfo (task :: left) missing)))
    | _, _ => some (server.setConnection id (some .failed))
  | _ => none

end Server

/-- A statement that is refused leaves everything as it is. Connections migrate at any time and are
lost at any point, and an account is created through a connection whose migration has ended. -/
def database (Player : Type) : Machine (Server Player) Event Unit where
  step server event := Option.map (fun next => (next, ())) <|
    match event with
    | .connect id =>
      match server.connections id with
      | none => some (server.setConnection id (some (.migrating migrate false)))
      | some _ => none
    | .advance id works => server.advance id works
    | .lose id => some (server.setConnection id none)
    | .create id userName token createdAt =>
      match server.connections id with
      | some .connected =>
        some { server with db := (server.db.createSdkAccount userName token createdAt).getD server.db }
      | _ => none

end CheshireLane.Migration
