import CheshireLane.DatabaseMigration

/-!
# What a migration keeps

Whatever is migrated, lost and created at once, the rows of a database that was sound
stay, with the defaults in the columns that are added, and a connection that is there
has every table, column and index. A migration on its own always ends.
-/

namespace CheshireLane.Migration

open Transitions

/-- Columns are named once and names are unique; a cell of a column that is not there is null. -/
structure SoundTable (table : Table) : Prop where
  columns : table.columns.Nodup
  absent : ∀ row ∈ table.rows, ∀ column, column ∉ table.columns → row.cell column = .null
  names : table.Unique "user_name"

/-- What is assumed of a database and kept by all statements: its account table is sound, and an
index is over a column that is there. -/
structure Sound {Player : Type} (db : Database Player) : Prop where
  accounts : ∀ table, db.accounts = some table → SoundTable table
  index : db.nameIndex = true → ∃ table, db.accounts = some table ∧ "user_name" ∈ table.columns

/-- The row keeps its uid and cells, and a column that was added holds its default. -/
structure KeptRow (columns later : List String) (old new : Row) : Prop where
  uid : new.uid = old.uid
  cells : ∀ column ∈ columns, new.cell column = old.cell column
  added : ∀ column ∈ newColumns, column.name ∉ columns → column.name ∈ later →
    new.cell column.name = column.default

/-- No column is lost, and the rows stay in their places and keep what they hold. -/
structure KeptTable (table later : Table) : Prop where
  columns : table.columns ⊆ later.columns
  rows : ∀ (index : Nat) (row : Row), table.rows[index]? = some row →
    ∃ new, later.rows[index]? = some new ∧ KeptRow table.columns later.columns row new

/-- Nothing of the database is lost. -/
structure Kept {Player : Type} (db later : Database Player) : Prop where
  accounts : ∀ table, db.accounts = some table →
    ∃ after, later.accounts = some after ∧ KeptTable table after
  index : db.nameIndex = true → later.nameIndex = true
  players : ∀ rows, db.players = some rows → later.players = some rows

/-- What a task sees to is there. -/
def Established {Player : Type} (db : Database Player) : Task → Prop
  | .accounts => db.accounts ≠ none
  | .column column => ∃ table, db.accounts = some table ∧ column.name ∈ table.columns
  | .index => db.nameIndex = true
  | .players => db.players ≠ none

/-- A row keeps itself: no column was added. -/
theorem KeptRow.refl (columns : List String) (row : Row) : KeptRow columns columns row row :=
  ⟨rfl, fun _ _ => rfl, fun _ _ absent present => absurd present absent⟩

/-- A table keeps itself. -/
theorem KeptTable.refl (table : Table) : KeptTable table table :=
  ⟨fun _ member => member, fun _ row present => ⟨row, present, .refl _ row⟩⟩

/-- Keeping a table composes: a column that was added first is an old one for what follows. -/
theorem KeptTable.trans {first middle last : Table} (left : KeptTable first middle)
    (right : KeptTable middle last) : KeptTable first last where
  columns := List.Subset.trans left.columns right.columns
  rows index row present := by
    obtain ⟨between, found, before⟩ := left.rows index row present
    obtain ⟨new, there, after⟩ := right.rows index between found
    refine ⟨new, there, after.uid.trans before.uid, fun column member => ?_, fun column known absent
      present => ?_⟩
    · exact (after.cells column (left.columns member)).trans (before.cells column member)
    · by_cases early : column.name ∈ middle.columns
      · exact (after.cells column.name early).trans (before.added column known absent early)
      · exact after.added column known early present

section

variable {Player : Type} {db later last : Database Player}

/-- Without a statement nothing is lost. -/
theorem Kept.refl (db : Database Player) : Kept db db :=
  ⟨fun table present => ⟨table, present, .refl table⟩, id, fun _ present => present⟩

/-- Keeping a database composes over the statements of a run. -/
theorem Kept.trans (left : Kept db later) (right : Kept later last) : Kept db last where
  accounts table present := by
    obtain ⟨between, found, before⟩ := left.accounts table present
    obtain ⟨after, there, behind⟩ := right.accounts between found
    exact ⟨after, there, before.trans behind⟩
  index := right.index ∘ left.index
  players rows present := right.players rows (left.players rows present)

/-- What is there stays there. One case for each task: a table stays, with its columns, and so does
the index. -/
theorem Established.kept {task : Task} (established : Established db task) (kept : Kept db later) :
    Established later task := by
  cases task with
  | accounts =>
    obtain ⟨table, present⟩ := Option.ne_none_iff_exists'.mp established
    obtain ⟨after, there, _⟩ := kept.accounts table present
    rw [Established, there]
    exact Option.some_ne_none _
  | column column =>
    obtain ⟨table, present, member⟩ := established
    obtain ⟨after, there, behind⟩ := kept.accounts table present
    exact ⟨after, there, behind.columns member⟩
  | index => exact kept.index established
  | players =>
    obtain ⟨rows, present⟩ := Option.ne_none_iff_exists'.mp established
    rw [Established, kept.players rows present]
    exact Option.some_ne_none _

/-- The names of the new columns tell them apart. -/
theorem new_column_named : ∀ column ∈ newColumns, ∀ other ∈ newColumns,
    column.name = other.name → column = other := by decide

/-- The column of user names is added with nulls, which may repeat under the unique index. -/
theorem name_column_null : ∀ column ∈ newColumns, column.name = "user_name" →
    column.default = .null := by decide

/-- A column is added to every row, and nothing else changes. A cell is looked up by the name of its
column, and the new name is none of the old ones. -/
theorem add_column_kept {table : Table} {column : Column} (known : column ∈ newColumns)
    (absent : column.name ∉ table.columns) : KeptTable table (table.addColumn column) where
  columns := List.subset_append_left _ _
  rows index row present := by
    refine ⟨{ row with cell := Function.update row.cell column.name column.default },
      by rw [Table.addColumn, List.getElem?_map, present, Option.map_some], rfl, ?_, ?_⟩
    · intro other member
      have different : other ≠ column.name := by
        rintro rfl
        exact absent member
      exact Function.update_of_ne different ..
    · intro other known' before after
      have same : other.name = column.name := by
        simpa [Table.addColumn, before] using after
      obtain rfl := new_column_named other known' column known same
      exact Function.update_self ..

/-- A new column leaves a table sound: its name is new, and its cells hold its default. The names of
the users are in a column that is there before, or they are all missing. -/
theorem add_column_sound {table : Table} {column : Column} (sound : SoundTable table)
    (known : column ∈ newColumns) (absent : column.name ∉ table.columns) :
    SoundTable (table.addColumn column) where
  columns := by
    simpa [Table.addColumn] using sound.columns.concat absent
  absent row member other unnamed := by
    obtain ⟨before, present, rfl⟩ := List.mem_map.mp member
    simp only [Table.addColumn, List.mem_append, List.mem_singleton, not_or] at unnamed
    exact (Function.update_of_ne unnamed.2 ..).trans (sound.absent before present other unnamed.1)
  names := by
    refine List.pairwise_map.mpr (sound.names.imp fun {left right} apart => ?_)
    by_cases named : "user_name" = column.name
    · intro _
      show Function.update left.cell column.name column.default "user_name" = .null
      rw [named, Function.update_self]
      exact name_column_null column known named.symm
    · show Function.update left.cell column.name column.default "user_name" =
        Function.update right.cell column.name column.default "user_name" →
          Function.update left.cell column.name column.default "user_name" = .null
      rw [Function.update_of_ne named, Function.update_of_ne named]
      exact apart

/-- A row is appended, and nothing else changes. -/
theorem insert_kept (table : Table) (row : Row) : KeptTable table (table.insert row) where
  columns _ member := member
  rows index before present := by
    refine ⟨before, ?_, .refl _ before⟩
    rw [Table.insert, List.getElem?_append_left (List.getElem?_eq_some_iff.mp present).1, present]

/-- A statement of the migration keeps what is there, and what it sees to is there behind it.
Creating what exists does nothing. A column is added only if it was found missing, and the index is
created only over names that are distinct. -/
theorem execute_kept {task : Task} {missing : Bool} (sound : Sound db) (known : task ∈ migrate)
    (executed : db.execute task missing = some later) :
    Kept db later ∧ Sound later ∧
      ((∀ column, task = .column column → missing = true) → Established later task) := by
  unfold Database.execute at executed
  split at executed
  · cases executed
    cases accounts : db.accounts with
    | none =>
      refine ⟨⟨?_, id, fun _ present => present⟩, ⟨?_, ?_⟩, fun _ => Option.some_ne_none _⟩
      · simp [accounts]
      · rintro table same
        cases same
        exact ⟨by decide, fun _ member => absurd member List.not_mem_nil, .nil⟩
      · intro indexed
        obtain ⟨table, present, _⟩ := sound.index indexed
        rw [accounts] at present
        cases present
    | some table =>
      have same : { db with accounts := some table } = db := by rw [← accounts]
      simp only [Option.getD_some, same]
      exact ⟨.refl db, sound, fun _ => by rw [Established, accounts]; exact Option.some_ne_none _⟩
  · cases executed
    exact ⟨.refl db, sound, fun seen => absurd (seen _ rfl) nofun⟩
  · next column =>
    have new : column ∈ newColumns := by simpa [migrate] using known
    split at executed
    · next table accounts =>
      split at executed
      · cases executed
      · next absent =>
        cases executed
        refine ⟨⟨?_, id, fun _ present => present⟩, ⟨?_, ?_⟩, fun _ => ⟨_, rfl, ?_⟩⟩
        · intro other present
          rw [accounts] at present
          cases present
          exact ⟨_, rfl, add_column_kept new absent⟩
        · intro other present
          cases present
          exact add_column_sound (sound.accounts table accounts) new absent
        · intro indexed
          obtain ⟨other, present, member⟩ := sound.index indexed
          rw [accounts] at present
          cases present
          exact ⟨_, rfl, List.mem_append_left _ member⟩
        · exact List.mem_append_right _ (List.mem_singleton.mpr rfl)
    · cases executed
  · split at executed
    · next indexed =>
      cases executed
      exact ⟨.refl db, sound, fun _ => indexed⟩
    · split at executed
      · next table accounts =>
        split at executed
        · next ready =>
          cases executed
          exact ⟨⟨fun other present => ⟨other, present, .refl other⟩, fun _ => rfl,
            fun _ present => present⟩,
            ⟨sound.accounts, fun _ => ⟨table, accounts, ready.1⟩⟩, fun _ => rfl⟩
        · cases executed
      · cases executed
  · cases executed
    refine ⟨⟨fun other present => ⟨other, present, .refl other⟩, id, ?_⟩, ⟨sound.accounts, sound.index⟩,
      fun _ => Option.some_ne_none _⟩
    intro rows present
    simp [present]

/-- An account is created behind the index, which keeps the names unique. The new row stands behind
the others, and the row is refused if its name is taken. -/
theorem create_kept {userName token : String} {createdAt : Int} (sound : Sound db)
    (indexed : db.nameIndex = true)
    (created : db.createSdkAccount userName token createdAt = some later) :
    Kept db later ∧ Sound later := by
  unfold Database.createSdkAccount at created
  split at created
  · cases created
  · next table accounts =>
    dsimp only at created
    split at created
    · next allowed =>
      obtain ⟨columns, _, names⟩ := allowed
      cases created
      refine ⟨⟨?_, id, fun _ present => present⟩, ?_, ?_⟩
      · intro other present
        rw [accounts] at present
        cases present
        exact ⟨_, rfl, insert_kept table _⟩
      · intro other present
        cases present
        have before := sound.accounts table accounts
        refine ⟨before.columns, ?_, names indexed⟩
        refine List.forall_mem_append.mpr ⟨before.absent, List.forall_mem_singleton.mpr ?_⟩
        intro column unnamed
        have apart : ∀ other ∈ insertedColumns, column ≠ other := by
          rintro other member rfl
          exact unnamed (columns column member)
        simp only [insertedColumns, List.forall_mem_cons] at apart
        obtain ⟨device, token, user, nick, created, flag, _⟩ := apart
        simp [Table.newRow, device, token, user, nick, created, flag]
      · intro _
        obtain ⟨other, present, member⟩ := sound.index indexed
        rw [accounts] at present
        cases present
        exact ⟨_, rfl, member⟩
    · cases created

/-- What is there for a connection: what the tasks behind it see to. -/
def Standing (db : Database Player) : Connection → Prop
  | .migrating left _ => ∃ count, migrate.drop count = left ∧
    ∀ task ∈ migrate.take count, Established db task
  | .connected => ∀ task ∈ migrate, Established db task
  | .failed => True

/-- What a connection relies on stands as long as nothing is lost. -/
theorem Standing.kept {connection : Connection} (standing : Standing db connection)
    (kept : Kept db later) : Standing later connection := by
  cases connection with
  | migrating left missing =>
    obtain ⟨count, front, before⟩ := standing
    exact ⟨count, front, fun task member => (before task member).kept kept⟩
  | connected => exact fun task member => Established.kept (standing task member) kept
  | failed => trivial

/-- The invariant: the database is sound, and what each connection has got through is established.
-/
structure Migrating (server : Server Player) : Prop where
  sound : Sound server.db
  standing : ∀ id connection, server.connections id = some connection → Standing server.db connection

/-- The task in front moves from what is left to what is done. -/
theorem drop_front {count : Nat} {task : Task} {left : List Task}
    (front : migrate.drop count = task :: left) :
    migrate.drop (count + 1) = left ∧ migrate.take (count + 1) = migrate.take count ++ [task] := by
  have head : migrate[count]? = some task := by rw [← List.head?_drop, front, List.head?_cons]
  refine ⟨by rw [← List.tail_drop, front, List.tail_cons], ?_⟩
  rw [List.take_add_one, head, Option.toList_some]

/-- The table is created before columns are added to it. -/
theorem accounts_before {count : Nat} {column : Column} {left : List Task}
    (front : migrate.drop count = .column column :: left) : Task.accounts ∈ migrate.take count := by
  cases count with
  | zero => simp [migrate] at front
  | succ count => simp [migrate]

/-- The column is there before it is indexed. -/
theorem name_before {count : Nat} {left : List Task} (front : migrate.drop count = .index :: left) :
    Task.column ⟨"user_name", .null⟩ ∈ migrate.take count := by
  match count with
  | 0 => simp [migrate] at front
  | 1 => simp [migrate, newColumns] at front
  | count + 2 => simp [migrate, newColumns]

/-- A statement behind which everything is there fails only for a column that was added since it was
found missing. Creating a table or the index does not fail over a sound table, so the statement adds
a column; and adding one fails only if it is there. -/
theorem execute_refused {count : Nat} {task : Task} {left : List Task} {missing : Bool}
    (sound : Sound db) (front : migrate.drop count = task :: left)
    (before : ∀ task ∈ migrate.take count, Established db task)
    (refused : db.execute task missing = none) :
    missing = true ∧ ∃ column, task = .column column ∧ column.name ∈ db.tableInfo := by
  cases task with
  | accounts => simp [Database.execute] at refused
  | players => simp [Database.execute] at refused
  | column column =>
    obtain ⟨table, accounts⟩ := Option.ne_none_iff_exists'.mp (before _ (accounts_before front))
    cases missing with
    | false => simp [Database.execute] at refused
    | true =>
      simp only [Database.execute, accounts] at refused
      split at refused
      · next member => exact ⟨rfl, column, rfl, by simpa [Database.tableInfo, accounts] using member⟩
      · cases refused
  | index =>
    obtain ⟨table, accounts, member⟩ := before _ (name_before front)
    have names := (sound.accounts table accounts).names
    have ready : "user_name" ∈ table.columns ∧ table.Unique "user_name" := ⟨member, names⟩
    cases indexed : db.nameIndex <;> simp [Database.execute, indexed, accounts, ready] at refused

namespace Migrating

variable {server : Server Player}

/-- A database that keeps everything, with one connection that stands where it should. -/
theorem moved (migrating : Migrating server) (kept : Kept server.db later) (sound : Sound later)
    (id : Nat) (connection : Option Connection)
    (standing : ∀ there, connection = some there → Standing later there) :
    Migrating ({ server with db := later }.setConnection id connection) where
  sound := sound
  standing other there present := by
    by_cases same : other = id
    · subst same
      exact standing there (by simpa [Server.setConnection] using present)
    · refine (migrating.standing other there ?_).kept kept
      simpa [Server.setConnection, same] using present

/-- One statement of a connection keeps the invariant and loses nothing. One case for each place at
which the connection may stand. -/
theorem advance (migrating : Migrating server) {id : Nat} {works : Bool} {next : Server Player}
    (taken : server.advance id works = some next) : Migrating next ∧ Kept server.db next.db := by
  unfold Server.advance at taken
  split at taken
  · next missing present =>
    cases taken
    obtain ⟨count, front, before⟩ := migrating.standing id _ present
    refine ⟨migrating.moved (.refl _) migrating.sound id _ fun there same => ?_, .refl _⟩
    cases same
    intro task member
    have whole : migrate.take count = migrate := List.take_of_length_le (List.drop_eq_nil_iff.mp front)
    exact before task (by rwa [whole])
  · next task left missing present =>
    obtain ⟨count, front, before⟩ := migrating.standing id _ present
    split at taken
    · next db executed =>
      cases taken
      have known : task ∈ migrate := List.mem_of_mem_drop (front ▸ List.mem_cons_self)
      obtain ⟨kept, sound, established⟩ := execute_kept migrating.sound known executed
      refine ⟨migrating.moved kept sound id _ fun there same => ?_, kept⟩
      cases same
      obtain ⟨behind, taken⟩ := drop_front front
      have done : Established db task → Standing db (.migrating left false) := by
        intro here
        refine ⟨count + 1, behind, ?_⟩
        rw [taken]
        exact List.forall_mem_append.mpr ⟨fun task member => (before task member).kept kept,
          List.forall_mem_singleton.mpr here⟩
      unfold Connection.behind
      split
      · next column left' same =>
        obtain ⟨rfl, rfl⟩ := List.cons.inj same
        obtain rfl : server.db = db := by simpa [Database.execute] using executed
        split
        · next member =>
          refine done ?_
          cases accounts : server.db.accounts with
          | none => simp [Database.tableInfo, accounts] at member
          | some table => exact ⟨table, accounts, by simpa [Database.tableInfo, accounts] using member⟩
        · exact ⟨count, front, before⟩
      · next missing _ _ task' left' same unlooked =>
        obtain ⟨rfl, rfl⟩ := List.cons.inj same
        refine done (established fun column same => ?_)
        cases missing with
        | false => exact (unlooked column rfl same).elim
        | true => rfl
      · next same => cases same
    · cases taken
      exact ⟨migrating.moved (.refl _) migrating.sound id _ (fun _ same => by cases same; trivial),
        .refl _⟩
  · cases taken

/-- Every step keeps the invariant and loses nothing, whichever connection takes it. The connection
that steps has its next task done, or it ends; the others stand where they stood, over a database
that keeps what is there. -/
theorem step (migrating : Migrating server) {event : Event} {next : Server Player} {mark : Unit}
    (taken : (database Player).step server event = some (next, mark)) :
    Migrating next ∧ Kept server.db next.db := by
  simp only [database, Option.map_eq_some_iff, Prod.mk.injEq] at taken
  obtain ⟨stepped, taken, rfl, _⟩ := taken
  cases event with
  | connect id =>
    simp only at taken
    split at taken
    · cases taken
      refine ⟨migrating.moved (.refl _) migrating.sound id _ fun there same => ?_, .refl _⟩
      cases same
      exact ⟨0, rfl, fun _ member => absurd member List.not_mem_nil⟩
    · cases taken
  | advance id works => exact migrating.advance taken
  | lose id =>
    cases taken
    exact ⟨migrating.moved (.refl _) migrating.sound id none nofun, .refl _⟩
  | create id userName token createdAt =>
    simp only at taken
    split at taken
    · next present =>
      have indexed : server.db.nameIndex = true :=
        migrating.standing id _ present .index (by decide)
      cases taken
      cases created : server.db.createSdkAccount userName token createdAt with
      | none => exact ⟨⟨migrating.sound, migrating.standing⟩, .refl _⟩
      | some db =>
        obtain ⟨kept, sound⟩ := create_kept migrating.sound indexed created
        exact ⟨⟨sound, fun other there present => (migrating.standing other there present).kept kept⟩,
          kept⟩
    · cases taken

/-- From a sound database the invariant holds at the end of every run, and nothing of the first
database is lost. -/
theorem run {first : Database Player} (sound : Sound first) (events : List Event)
    (server : Server Player) (marks : List Unit)
    (ran : (database Player).run { db := first } events = some (server, marks)) :
    Migrating server ∧ Kept first server.db := by
  refine Machine.run_always (fun _ server => Migrating server ∧ Kept first server.db) ?_
    events _ server marks ⟨⟨sound, fun _ _ present => by cases present⟩, .refl first⟩ ran
  intro _ server event next mark before taken
  obtain ⟨migrating, kept⟩ := before.1.step taken
  exact ⟨migrating, before.2.trans kept⟩

/-- The invariant holds on from any point at which it holds. -/
theorem after (migrating : Migrating server) {events : List Event} {next : Server Player}
    {marks : List Unit} (ran : (database Player).run server events = some (next, marks)) :
    Migrating next :=
  Machine.run_always (fun _ server => Migrating server)
    (fun _ _ _ _ _ migrating taken => (migrating.step taken).1) events server next marks migrating ran

/-- A connection that is alone sees to its next task with one statement or two. A column takes two
statements, the look and the addition, and nobody comes between them; every other task takes one. -/
theorem advance_task (migrating : Migrating server) {id : Nat} {task : Task} {left : List Task}
    (present : server.connections id = some (.migrating (task :: left) false)) :
    ∃ events next marks, (∀ event ∈ events, event = .advance id true) ∧
      (database Player).run server events = some (next, marks) ∧
      next.connections id = some (.migrating left false) := by
  obtain ⟨count, front, before⟩ := migrating.standing id _ present
  cases executed : server.db.execute task false with
  | none => exact absurd (execute_refused migrating.sound front before executed).1 nofun
  | some db =>
    have taken : (database Player).step server (.advance id true) =
        some ({ server with db }.setConnection id
          (some (.behind server.db.tableInfo (task :: left) false)), ()) := by
      simp [database, Server.advance, present, executed]
    by_cases found : ∃ column, task = .column column ∧ column.name ∉ server.db.tableInfo
    · obtain ⟨column, rfl, absent⟩ := found
      obtain rfl : server.db = db := by simpa [Database.execute] using executed
      simp only [Connection.behind, absent, ↓reduceIte] at taken
      cases added : server.db.execute (.column column) true with
      | none =>
        obtain ⟨_, other, same, member⟩ := execute_refused migrating.sound front before added
        cases same
        exact absurd member absent
      | some db =>
        have next : (database Player).step
            (server.setConnection id (some (.migrating (.column column :: left) true)))
              (.advance id true) = some ({ server with
                db
                connections := Function.update (Function.update server.connections id
                  (some (.migrating (.column column :: left) true))) id
                  (some (.migrating left false)) }, ()) := by
          simp [database, Server.advance, Server.setConnection, added, Connection.behind]
        exact ⟨_, _, _, by simp, Machine.run_append (Machine.run_single taken)
          (Machine.run_single next), by simp⟩
    · have behind : Connection.behind server.db.tableInfo (task :: left) false =
          .migrating left false := by
        cases task with
        | column column =>
          have member : column.name ∈ server.db.tableInfo := by
            by_contra absent
            exact found ⟨column, rfl, absent⟩
          simp [Connection.behind, member]
        | _ => rfl
      exact ⟨_, _, _, List.forall_mem_singleton.mpr rfl, Machine.run_single taken,
        by simp [Server.setConnection, behind]⟩

/-- A connection that is alone ends its migration, a task after the other. By induction on the tasks
that are left. -/
theorem alone (migrating : Migrating server) {id : Nat} {left : List Task}
    (present : server.connections id = some (.migrating left false)) :
    ∃ events last marks, (∀ event ∈ events, event = .advance id true) ∧
      (database Player).run server events = some (last, marks) ∧
      last.connections id = some .connected := by
  induction left generalizing server with
  | nil =>
    have taken : (database Player).step server (.advance id true) =
        some (server.setConnection id (some .connected), ()) := by
      simp [database, Server.advance, present]
    exact ⟨_, _, _, List.forall_mem_singleton.mpr rfl, Machine.run_single taken,
      by simp [Server.setConnection]⟩
  | cons task left inductionHypothesis =>
    obtain ⟨events, next, marks, mine, ran, behind⟩ := migrating.advance_task present
    obtain ⟨later, last, marks', ours, continued, connected⟩ :=
      inductionHypothesis (migrating.after ran) behind
    exact ⟨_, last, _, List.forall_mem_append.mpr ⟨mine, ours⟩, Machine.run_append ran continued,
      connected⟩

end Migrating

/-- Any number of connections may migrate a sound database at once, fail or be lost at any point
and create accounts: nothing that was in the database is lost, it stays sound, and a connection
that is there has every table, column and index. A statement that works fails only for a column
that another connection added since it was found missing, and a connection that is alone always
gets there. -/
theorem migrations_safe (first : Database Player) (sound : Sound first) (events : List Event)
    (server : Server Player) (marks : List Unit)
    (ran : (database Player).run { db := first } events = some (server, marks)) :
    Kept first server.db ∧ Sound server.db ∧
      (∀ id, server.connections id = some .connected → ∀ task ∈ migrate, Established server.db task) ∧
      (∀ id task left missing, server.connections id = some (.migrating (task :: left) missing) →
        server.db.execute task missing = none →
          missing = true ∧ ∃ column, task = .column column ∧ column.name ∈ server.db.tableInfo) ∧
      ∀ id, server.connections id = none → ∃ later last marks,
        (∀ event ∈ later, event = .connect id ∨ event = .advance id true) ∧
          (database Player).run server later = some (last, marks) ∧
          last.connections id = some .connected := by
  obtain ⟨migrating, kept⟩ := Migrating.run sound events server marks ran
  refine ⟨kept, migrating.sound, fun id present => migrating.standing id _ present, ?_, ?_⟩
  · intro id task left missing present refused
    obtain ⟨count, front, before⟩ := migrating.standing id _ present
    exact execute_refused migrating.sound front before refused
  · intro id absent
    have taken : (database Player).step server (.connect id) =
        some (server.setConnection id (some (.migrating migrate false)), ()) := by
      simp [database, absent]
    have present : (server.setConnection id (some (.migrating migrate false))).connections id =
        some (.migrating migrate false) := by simp [Server.setConnection]
    obtain ⟨later, last, marks', mine, continued, connected⟩ := (migrating.step taken).1.alone present
    refine ⟨_, last, _, List.forall_mem_append.mpr ⟨List.forall_mem_singleton.mpr (.inl rfl),
      fun event member => .inr (mine event member)⟩,
      Machine.run_append (Machine.run_single taken) continued, connected⟩

end

/-- A database of the first version, with one account. -/
def firstVersion : Database Unit where
  accounts := some ⟨["uid", "device_id", "token"],
    [⟨1, fun column => if column = "device_id" then .text "device" else
      if column = "token" then .text "token" else .null⟩], 1⟩
  nameIndex := false
  players := some [()]

/-- One connection is lost behind its first column, two others find the next one missing, and
the slower of them fails. -/
theorem migrations_safe_raced :
    let events : List Event :=
      [.connect 0, .advance 0 true, .advance 0 true, .advance 0 true, .lose 0,
        .connect 1, .advance 1 true, .advance 1 true, .advance 1 true,
        .connect 2, .advance 2 true, .advance 2 true, .advance 2 true, .advance 2 true,
        .advance 1 true]
    ∃ server marks, (database Unit).run { db := firstVersion } events = some (server, marks) ∧
      Kept firstVersion server.db ∧ Sound server.db := by
  intro events
  have ran : ((database Unit).run { db := firstVersion } events).isSome := rfl
  obtain ⟨⟨server, marks⟩, ran⟩ := Option.isSome_iff_exists.mp ran
  have sound : Sound firstVersion := by
    refine ⟨fun table present => ?_, nofun⟩
    cases present
    refine ⟨by decide, List.forall_mem_singleton.mpr fun column unnamed => ?_,
      List.pairwise_singleton _ _⟩
    simp only [List.mem_cons, not_or] at unnamed
    simp [unnamed]
  obtain ⟨kept, sound, _⟩ := migrations_safe firstVersion sound events server marks ran
  exact ⟨server, marks, ran, kept, sound⟩

end CheshireLane.Migration
