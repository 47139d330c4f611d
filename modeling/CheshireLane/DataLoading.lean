import CheshireLane.GameData
import Mathlib.Data.List.Induction

/-!
# Loading the game data

The four tables are kept in cells that are written once, and a fifth cell notes the
directory. A call reads all files and parses them before it writes the first cell,
and writes none once the directory is noted.
-/

namespace CheshireLane

/-- The tables of one directory. -/
structure GameTables where
  chapterTemplate : StringMap Unit
  shipDataTemplate : StringMap ShipDataTemplateEntity
  shipDataStatistics : StringMap ShipDataStatisticsEntity
  shipSkinTemplate : StringMap ShipSkinTemplateEntity

/-- The four `DATA` cells and `LOADED_ASSETS_DIR`. -/
structure DataCells where
  chapterTemplate : Option (StringMap Unit) := none
  shipDataTemplate : Option (StringMap ShipDataTemplateEntity) := none
  shipDataStatistics : Option (StringMap ShipDataStatisticsEntity) := none
  shipSkinTemplate : Option (StringMap ShipSkinTemplateEntity) := none
  loadedAssetsDir : Option String := none

/-- `serde_json::from_str` at each table. -/
structure TableParsers where
  chapterTemplate : String → Except String (StringMap Unit)
  shipDataTemplate : String → Except String (StringMap ShipDataTemplateEntity)
  shipDataStatistics : String → Except String (StringMap ShipDataStatisticsEntity)
  shipSkinTemplate : String → Except String (StringMap ShipSkinTemplateEntity)

/-- What one call finds on the disk. A file is read at most once. -/
structure Disk where
  canonicalize : String → Option String
  readToString : String → Option String

/-- A call of `load_all`. -/
structure LoadCall where
  disk : Disk
  assetsDir : String

/-- `Path::join` with a relative path. -/
def joinPath (dir path : String) : String :=
  if dir.toList.getLast? = some '/' then dir ++ path else dir ++ "/" ++ path

/-- `read`. An error is its outermost context. -/
def Disk.read (disk : Disk) (path : String) : Except String String :=
  match disk.readToString path with
  | some text => .ok text
  | none => .error ("read game data " ++ path)

/-- All files are read before the first one is parsed. The first file that is missing, or that does
not parse, ends it with an error. -/
def readTables (parsers : TableParsers) (disk : Disk) (assetsDir : String) :
    Except String GameTables := do
  let gameDir := joinPath assetsDir "game"
  let chapter ← disk.read (joinPath gameDir "sharecfgdata/chapter_template.json")
  let ship ← disk.read (joinPath gameDir "sharecfgdata/ship_data_template.json")
  let shipStatistics ← disk.read (joinPath gameDir "sharecfgdata/ship_data_statistics.json")
  let skin ← disk.read (joinPath gameDir "ShareCfg/ship_skin_template.json")
  let chapter ← parsers.chapterTemplate chapter
  let ship ← parsers.shipDataTemplate ship
  let shipStatistics ← parsers.shipDataStatistics shipStatistics
  let skin ← parsers.shipSkinTemplate skin
  return ⟨chapter, ship, shipStatistics, skin⟩

/-- Write the cells one after another. A cell that is set ends the call, and the cells
written before stay written. -/
def setTables (tables : GameTables) (assetsDir : String) (cells : DataCells) :
    Except String Unit × DataCells :=
  if cells.chapterTemplate.isSome then
    (.error "chapter data was initialized outside the game assets loader", cells)
  else
  let cells := { cells with chapterTemplate := some tables.chapterTemplate }
  if cells.shipDataTemplate.isSome then
    (.error "ship data was initialized outside the game assets loader", cells)
  else
  let cells := { cells with shipDataTemplate := some tables.shipDataTemplate }
  if cells.shipDataStatistics.isSome then
    (.error "ship statistics were initialized outside the game assets loader", cells)
  else
  let cells := { cells with shipDataStatistics := some tables.shipDataStatistics }
  if cells.shipSkinTemplate.isSome then
    (.error "ship skin data was initialized outside the game assets loader", cells)
  else
  let cells := { cells with shipSkinTemplate := some tables.shipSkinTemplate }
  if cells.loadedAssetsDir.isSome then
    (.error "game assets directory was initialized concurrently", cells)
  else (.ok (), { cells with loadedAssetsDir := some assetsDir })

/-- `load_all`: the directory is resolved first, then the tables are read, and the cells are set
only when all of them were read. -/
def loadAll (parsers : TableParsers) (cells : DataCells) (call : LoadCall) :
    Except String Unit × DataCells :=
  match call.disk.canonicalize call.assetsDir with
  | none => (.error ("resolve game assets directory " ++ call.assetsDir), cells)
  | some assetsDir =>
    match cells.loadedAssetsDir with
    | some loaded =>
      if loaded = assetsDir then (.ok (), cells)
      else
        (.error ("game assets are already loaded from " ++ loaded ++
          "; restart the application to use " ++ assetsDir), cells)
    | none =>
      match readTables parsers call.disk assetsDir with
      | .error error => (.error error, cells)
      | .ok tables => setTables tables assetsDir cells

/-- The cells behind a history of calls. -/
def loadCells (parsers : TableParsers) (calls : List LoadCall) : DataCells :=
  calls.foldl (fun cells call => (loadAll parsers cells call).2) {}

/-- All five cells, written by one call. -/
def filled (tables : GameTables) (assetsDir : String) : DataCells where
  chapterTemplate := some tables.chapterTemplate
  shipDataTemplate := some tables.shipDataTemplate
  shipDataStatistics := some tables.shipDataStatistics
  shipSkinTemplate := some tables.shipSkinTemplate
  loadedAssetsDir := some assetsDir

/-- The call finds these tables in this directory. -/
def Finds (parsers : TableParsers) (call : LoadCall) (tables : GameTables) (assetsDir : String) : Prop :=
  call.disk.canonicalize call.assetsDir = some assetsDir ∧
    readTables parsers call.disk assetsDir = .ok tables

variable {parsers : TableParsers}

/-- A first call writes all cells or none. The four tables are read before the first cell is set, so
a failure leaves all of them empty. -/
theorem first_load (parsers : TableParsers) (call : LoadCall) :
    (∃ tables assetsDir, Finds parsers call tables assetsDir ∧
      loadAll parsers {} call = (.ok (), filled tables assetsDir)) ∨
    (∀ tables assetsDir, ¬ Finds parsers call tables assetsDir) ∧
      ∃ error, loadAll parsers {} call = (.error error, {}) := by
  unfold loadAll
  cases resolved : call.disk.canonicalize call.assetsDir with
  | none => exact .inr ⟨fun tables dir found => by simp [Finds, resolved] at found, _, rfl⟩
  | some assetsDir =>
    cases read : readTables parsers call.disk assetsDir with
    | error error =>
      refine .inr ⟨?_, error, by simp only [read]⟩
      rintro tables dir ⟨same, found⟩
      rw [resolved] at same
      cases same
      rw [read] at found
      cases found
    | ok tables => exact .inl ⟨tables, assetsDir, ⟨resolved, read⟩, by simp only [read]; rfl⟩

/-- A later call only compares the directory. -/
theorem later_load (tables : GameTables) (loaded : String) (call : LoadCall) :
    (loadAll parsers (filled tables loaded) call).2 = filled tables loaded ∧
      ((loadAll parsers (filled tables loaded) call).1 = .ok () ↔
        call.disk.canonicalize call.assetsDir = some loaded) := by
  unfold loadAll
  cases call.disk.canonicalize call.assetsDir with
  | none => simp
  | some assetsDir =>
    by_cases same : loaded = assetsDir
    · simp [filled, same]
    · simp [filled, same, Ne.symm same]

/-- No cell is written, or one call of the history has written all. -/
def Loaded (parsers : TableParsers) (calls : List LoadCall) (cells : DataCells) : Prop :=
  cells = {} ∨ ∃ call ∈ calls, ∃ tables assetsDir,
    Finds parsers call tables assetsDir ∧ cells = filled tables assetsDir

/-- One more call keeps what is loaded, or loads it first. -/
theorem Loaded.append {calls : List LoadCall} {cells : DataCells} (loaded : Loaded parsers calls cells)
    (call : LoadCall) : Loaded parsers (calls ++ [call]) (loadAll parsers cells call).2 := by
  rcases loaded with rfl | ⟨earlier, member, tables, assetsDir, found, rfl⟩
  · rcases first_load parsers call with ⟨tables, assetsDir, found, result⟩ | ⟨_, error, result⟩
    · rw [result]
      exact .inr ⟨call, List.mem_append_right _ (List.mem_singleton_self _), tables, assetsDir, found, rfl⟩
    · rw [result]
      exact .inl rfl
  · rw [(later_load tables assetsDir call).1]
    exact .inr ⟨earlier, List.mem_append_left _ member, tables, assetsDir, found, rfl⟩

/-- After any calls the cells are empty or filled from one directory. By induction on the calls. -/
theorem Loaded.calls (parsers : TableParsers) (calls : List LoadCall) :
    Loaded parsers calls (loadCells parsers calls) := by
  induction calls using List.reverseRecOn with
  | nil => exact .inl rfl
  | append_singleton calls call inductionHypothesis =>
    rw [loadCells, List.foldl_append]
    exact inductionHypothesis.append call

/-- What the handlers are given: role creation unwraps the chapters. -/
def DataCells.gameData (cells : DataCells) : Option GameData :=
  cells.chapterTemplate.map fun chapterTemplate =>
    ⟨chapterTemplate, cells.shipDataTemplate, cells.shipDataStatistics, cells.shipSkinTemplate⟩

/-- The handlers never find a part of the tables. -/
theorem Loaded.whole {calls : List LoadCall} {cells : DataCells} (loaded : Loaded parsers calls cells)
    {data : GameData} (given : cells.gameData = some data) :
    data.shipDataTemplate.isSome ∧ data.shipDataStatistics.isSome ∧ data.shipSkinTemplate.isSome := by
  rcases loaded with rfl | ⟨call, _, tables, assetsDir, _, rfl⟩
  · cases given
  · cases given
    exact ⟨rfl, rfl, rfl⟩

end CheshireLane
