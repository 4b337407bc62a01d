import AmurCore.StatusNames

/-!
# The line for the host

`ConnectDialog` with the line that names a host. A double click puts the address and
the port of a row into it. A row shows the texts of the entry that it holds for as
long as it is there, so the line names the robot that an edit of the row changes.
-/

namespace HostLine

open ConnectTable hiding Event step start
open EventRuns RobotRepository NameHandler TableStaleness DeletionQuestion DeclinedDeletion
open StatusNames

/-! ### Double clicks -/

structure Dialog where
  state : State
  /-- The text of `lineHostName`. -/
  lineHostName : String

/-- `QString("%1:%2").arg(address, port)`, which replaces both in one pass. -/
def fullAddress (address port : String) : String := address ++ ":" ++ port

def onTableRowDoubleClicked (row : Nat) (d : Dialog) : Dialog :=
  match d.state.table[row]? with
  | none => d
  | some cells => { d with lineHostName := fullAddress cells.address cells.port }

inductive Event where
  | table (e : ConnectTable.Event)
  | cellDoubleClicked (row : Nat)
  /-- The operator types into the line. -/
  | hostEdited (text : String)

def step (keyOrder : List String → List String) (d : Dialog) : Event → Option Dialog
  | .table e => (ConnectTable.step keyOrder d.state e).map fun state => { d with state := state }
  | .cellDoubleClicked row => some (onTableRowDoubleClicked row d)
  | .hostEdited text => some { d with lineHostName := text }

def start (repo : Repository) : Dialog := ⟨ConnectTable.start repo, ""⟩

def Reaches (keyOrder : List String → List String) (repo : Repository) (events : List Event)
    (d : Dialog) : Prop :=
  run (lift (step keyOrder)) (some (start repo)) events = some d

/-- What a reader takes for the address and the port: the texts before and after the
last colon. -/
def readAddress (line : String) : String × String :=
  let fromEnd := line.toList.reverse
  (String.ofList (fromEnd.dropWhile (· ≠ ':')).tail.reverse,
    String.ofList (fromEnd.takeWhile (· ≠ ':')).reverse)

/-- The address may have colons, and the port has none. -/
theorem readAddress_fullAddress {address port : String} (plain : ':' ∉ port.toList) :
    readAddress (fullAddress address port) = (address, port) := by
  have colon : ":".toList = [':'] := by decide
  have passed : ∀ c ∈ port.toList.reverse, (decide (c ≠ ':')) = true := by
    intro c mem
    have other : c ≠ ':' := by
      rintro rfl
      exact plain (List.mem_reverse.mp mem)
    exact decide_eq_true other
  have fromEnd : (fullAddress address port).toList.reverse
      = port.toList.reverse ++ ':' :: address.toList.reverse := by
    simp [fullAddress, colon]
  rw [readAddress, fromEnd, List.dropWhile_append_of_pos passed,
    List.takeWhile_append_of_pos passed]
  simp

/-! ### Rows and their entries -/

/-- The row shows the machine ID, the address and the port of its entry. -/
structure ShowsEntry (heap : Heap) (row : TableRow) : Prop where
  machineID : row.machineID = (heap.entry row.robot).machineID.getD ""
  address : row.address = (heap.entry row.robot).address.getD ""
  port : row.port = toString (heap.entry row.robot).port.toNat

def RowsShow (s : State) : Prop := ∀ row ∈ s.table, ShowsEntry s.heap row

/-- The entry up to its name. -/
def unnamed (robot : RobotEntry) : RobotEntry := { robot with name := "" }

/-- The row up to the item that can be edited. -/
def others (row : TableRow) : TableRow := { row with text := "", userRole := "" }

/-- Only names have changed. -/
structure SameHosts (s t : State) : Prop where
  entry : ∀ p, unnamed (t.heap.entry p) = unnamed (s.heap.entry p)
  table : t.table.map others = s.table.map others

theorem putRow_sameHosts {s : State} {item : Item} {row : TableRow} (text userRole : String)
    (cell : s.row? item = some row) :
    SameHosts s (s.putRow item { row with text := text, userRole := userRole }) := by
  refine ⟨fun _ => rfl, ?_⟩
  obtain ⟨-, found⟩ := NameEdits.row?_eq_some.mp cell
  obtain ⟨bound, rfl⟩ := List.getElem?_eq_some_iff.mp found
  have same : others { s.table[item.row] with text := text, userRole := userRole }
      = others s.table[item.row] := rfl
  rw [State.putRow, List.map_set, same, ← List.getElem_map others]
  · exact List.set_getElem_self _
  · rw [List.length_map]
    exact bound

theorem sameHosts_respected : Respected SameHosts where
  refl _ := ⟨fun _ => rfl, rfl⟩
  trans first second :=
    ⟨fun p => (second.entry p).trans (first.entry p), second.table.trans first.table⟩
  putRow text userRole cell := putRow_sameHosts text userRole cell
  setName s robot name _ := by
    refine ⟨fun p => ?_, rfl⟩
    by_cases same : p = robot
    · rw [same, setName_entry]
      rfl
    · rw [setName_other _ _ same]
  repo _ _ := ⟨fun _ => rfl, rfl⟩
  question _ _ := ⟨fun _ => rfl, rfl⟩

theorem ShowsEntry.of_unnamed {heap heap' : Heap} {row row' : TableRow}
    (h : ShowsEntry heap row) (same : others row' = others row)
    (entry : unnamed (heap'.entry row.robot) = unnamed (heap.entry row.robot)) :
    ShowsEntry heap' row' := by
  have robot : row'.robot = row.robot := (TableRow.mk.inj same).2.2.1
  have machineID : row'.machineID = row.machineID := (TableRow.mk.inj same).2.2.2.1
  have address : row'.address = row.address := (TableRow.mk.inj same).2.2.2.2.1
  have port : row'.port = row.port := (TableRow.mk.inj same).2.2.2.2.2.1
  constructor
  · rw [machineID, robot, h.machineID]
    exact congrArg (fun r => r.machineID.getD "") entry.symm
  · rw [address, robot, h.address]
    exact congrArg (fun r => r.address.getD "") entry.symm
  · rw [port, robot, h.port]
    exact congrArg (fun r => toString r.port.toNat) entry.symm

theorem RowsShow.of_sameHosts {s t : State} (shows : RowsShow s) (same : SameHosts s t) :
    RowsShow t := by
  intro row' mem
  have listed : others row' ∈ s.table.map others := by
    rw [← same.table]
    exact List.mem_map_of_mem mem
  obtain ⟨row, row_mem, same_row⟩ := List.mem_map.mp listed
  exact (shows row row_mem).of_unnamed same_row.symm (same.entry row.robot)

/-- New entries leave the rows with theirs. -/
theorem RowsShow.of_extends {s t : State} (shows : RowsShow s) (made : PointersMade s)
    (table : t.table = s.table) (later : Extends s.heap t.heap) : RowsShow t := by
  intro row mem
  rw [table] at mem
  have small := made.table row.robot (List.mem_map_of_mem mem)
  have entry := congrArg unnamed (later.entry row.robot small)
  exact (shows row mem).of_unnamed rfl entry

theorem fillTableWithRobots_shows {heap : Heap} {robots : RobotList} {category : Category}
    {row : TableRow} (mem : row ∈ fillTableWithRobots heap robots category) :
    ShowsEntry heap row := by
  obtain ⟨robot, -, rfl⟩ := List.mem_map.mp mem
  exact ⟨rfl, rfl, rfl⟩

section Runs
variable {keyOrder : List String → List String} {repo : Repository}

theorem updateTable_shows {s : State} {executed : Bool} (shows : RowsShow s)
    (made : PointersMade s) : RowsShow (updateTable keyOrder executed s) := by
  have later := classified_extends keyOrder executed s
  cases change : findsChange keyOrder executed s with
  | false =>
    rw [updateTable_kept change]
    exact shows.of_extends made rfl later
  | true =>
    rw [updateTable_found change]
    intro row mem
    simp only [fromScratch, List.mem_append] at mem
    rcases mem with (mem | mem) | mem
    · exact fillTableWithRobots_shows mem
    · exact fillTableWithRobots_shows mem
    · exact fillTableWithRobots_shows mem

theorem step_shows {s t : State} {e : ConnectTable.Event}
    (h : ConnectTable.step keyOrder s e = some t) (made : PointersMade s) (shows : RowsShow s) :
    RowsShow t := by
  cases e with
  | datagram senderAddress senderPort machineID arpingPort =>
    cases h
    rcases registerRobot_cases senderAddress senderPort machineID arpingPort s with
      same | ⟨robot, added⟩
    · rw [same]
      exact shows
    · rw [added]
      exact shows.of_extends made rfl (allocate_extends robot s.heap)
  | updateTable executed =>
    cases h
    exact updateTable_shows shows made
  | editName i text sql =>
    simp only [ConnectTable.step] at h
    split at h
    · cases h
    · exact shows.of_sameHosts (sameHosts_respected.editName h)
  | answer yes sql => exact shows.of_sameHosts (sameHosts_respected.answer h)

theorem reaches_shows {events : List Event} {d : Dialog}
    (reached : Reaches keyOrder repo events d) : PointersMade d.state ∧ RowsShow d.state := by
  have kept : ∀ d e d', step keyOrder d e = some d' →
      PointersMade d.state ∧ RowsShow d.state → PointersMade d'.state ∧ RowsShow d'.state := by
    rintro d e d' h ⟨made, shows⟩
    cases e with
    | table e =>
      obtain ⟨t, taken, rfl⟩ := Option.map_eq_some_iff.mp h
      exact ⟨step_made taken made, step_shows taken made shows⟩
    | cellDoubleClicked row =>
      cases h
      rw [onTableRowDoubleClicked]
      split
      · exact ⟨made, shows⟩
      · exact ⟨made, shows⟩
    | hostEdited text =>
      cases h
      exact ⟨made, shows⟩
  have initial : PointersMade (start repo).state ∧ RowsShow (start repo).state :=
    ⟨⟨fun p mem => absurd mem List.not_mem_nil, fun p mem => absurd mem List.not_mem_nil⟩,
      fun row mem => absurd mem List.not_mem_nil⟩
  exact run_lift_invariant kept initial reached

/-- A double click puts the address and the port of the entry that the row holds
into the line, so that both can be read from it; the row names its machine ID. -/
theorem double_click_names_entry {events : List Event} {d : Dialog} {i : Nat} {row : TableRow}
    (reached : Reaches keyOrder repo events d) (there : d.state.table[i]? = some row) :
    let robot := d.state.heap.entry row.robot
    readAddress (onTableRowDoubleClicked i d).lineHostName
        = (robot.address.getD "", toString robot.port.toNat) ∧
      row.machineID = robot.machineID.getD "" := by
  have shows := (reaches_shows reached).2 row (List.mem_of_getElem? there)
  have plain : ':' ∉ row.port.toList := by
    rw [shows.port]
    intro colon
    have digit : ':'.isDigit = true := StatusText.digits_of_toString _ ':' colon
    exact absurd digit (by decide)
  have line : (onTableRowDoubleClicked i d).lineHostName = fullAddress row.address row.port := by
    rw [onTableRowDoubleClicked, there]
  intro robot
  rw [line, readAddress_fullAddress plain, shows.address, shows.port]
  exact ⟨rfl, shows.machineID⟩

/-- A robot is found and its row double-clicked. -/
def foundRobot : List Event :=
  [.table (.datagram "fe80::1" 40001 (some "r1") 0), .table (.updateTable true)]

theorem foundRobot_named : ∃ d, Reaches id UniqueRows.empty foundRobot d ∧
    readAddress (onTableRowDoubleClicked 0 d).lineHostName = ("fe80::1", toString 40001) := by
  have reached : Reaches id UniqueRows.empty foundRobot (_ : Dialog) := rfl
  exact ⟨_, reached, (double_click_names_entry reached (i := 0) rfl).1⟩

end Runs

end HostLine
