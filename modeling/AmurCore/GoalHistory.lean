import AmurCore.TwoStackEditor

/-!
# The undo history of the goals list

`NavGoalsHistory` keeps a vector of snapshots and an index into it. The live
list is not part of it: the class holds a shared pointer to the list that the
map widget and the dialog edit, so every operation takes the live list and
returns it. Each operation is shown to be one of the reference editor.
-/

namespace GoalHistory

open TwoStackEditor

variable {β : Type}

structure NavGoalsHistory (β : Type) where
  history : List β
  currentIndex : Nat

namespace NavGoalsHistory

/-- The constructor: the first snapshot is the list as it is found. -/
def construct (goals : β) : NavGoalsHistory β := ⟨[goals], 0⟩

/-- `record()`: snapshots after the current one are erased first. -/
def record (h : NavGoalsHistory β) (goals : β) : NavGoalsHistory β :=
  let kept := if h.currentIndex + 1 < h.history.length
    then h.history.take (h.currentIndex + 1) else h.history
  let history := kept ++ [goals]
  ⟨history, history.length - 1⟩

def canUndo (h : NavGoalsHistory β) : Bool := 0 < h.currentIndex

def canRedo (h : NavGoalsHistory β) : Bool := h.currentIndex + 1 < h.history.length

/-- `restore()`: the live list afterwards; it stays when the index is out of range. -/
def restore (h : NavGoalsHistory β) (goals : β) : β :=
  match h.history[h.currentIndex]? with
  | some snapshot => snapshot
  | none => goals

/-- `undo()`: the history, the live list and the returned flag. -/
def undo (h : NavGoalsHistory β) (goals : β) : NavGoalsHistory β × β × Bool :=
  if h.canUndo then
    let moved := { h with currentIndex := h.currentIndex - 1 }
    (moved, moved.restore goals, true)
  else (h, goals, false)

/-- `redo()`. -/
def redo (h : NavGoalsHistory β) (goals : β) : NavGoalsHistory β × β × Bool :=
  if h.canRedo then
    let moved := { h with currentIndex := h.currentIndex + 1 }
    (moved, moved.restore goals, true)
  else (h, goals, false)

end NavGoalsHistory

open NavGoalsHistory

/-- The history and the live list together stand for the editor `e`. -/
def Mirrors (h : NavGoalsHistory β) (goals : β) (e : Editor β) : Prop :=
  Represents h.history h.currentIndex goals e

theorem mirrors_construct (goals : β) : Mirrors (construct goals) goals (Editor.start goals) :=
  represents_start goals

section
variable {h : NavGoalsHistory β} {goals : β} {e : Editor β}

/-- The tail is cut exactly at the index, whether or not there is one to cut. -/
theorem record_eq (bound : h.currentIndex < h.history.length) (snapshot : β) :
    h.record snapshot =
      ⟨h.history.take (h.currentIndex + 1) ++ [snapshot], h.currentIndex + 1⟩ := by
  by_cases tail : h.currentIndex + 1 < h.history.length
  · have len : (h.history.take (h.currentIndex + 1)).length = h.currentIndex + 1 := by
      rw [List.length_take]
      omega
    simp [record, tail, len]
  · have len : h.history.length = h.currentIndex + 1 := by omega
    have whole : h.history.take (h.currentIndex + 1) = h.history :=
      List.take_of_length_le (by omega)
    simp only [record, if_neg tail, whole, List.length_append, List.length_singleton]
    rw [len]
    rfl

/-- Recording a list that was edited in place is an edit of the reference. -/
theorem Mirrors.record (m : Mirrors h goals e) (edited : β) :
    Mirrors (h.record edited) edited (e.edit edited) := by
  rw [record_eq m.cursor_lt]
  exact Represents.edit m edited

theorem Mirrors.canUndo_eq (m : Mirrors h goals e) : h.canUndo = e.canUndo := by
  rw [Bool.eq_iff_iff, ← m.canUndo_iff]
  simp [canUndo]

theorem Mirrors.canRedo_eq (m : Mirrors h goals e) : h.canRedo = e.canRedo := by
  rw [Bool.eq_iff_iff, ← m.canRedo_iff]
  simp [canRedo]

theorem Mirrors.undo (m : Mirrors h goals e) :
    Mirrors (h.undo goals).1 (h.undo goals).2.1 e.undo := by
  by_cases able : h.canUndo = true
  · have inside : h.currentIndex - 1 < h.history.length := by
      have := m.cursor_lt
      omega
    have found : h.history[h.currentIndex - 1]? = some h.history[h.currentIndex - 1] :=
      List.getElem?_eq_getElem inside
    simp only [NavGoalsHistory.undo, if_pos able, restore, found]
    exact Represents.undo m found
  · have unable : e.canUndo = false := by rw [← m.canUndo_eq]; simpa using able
    rw [Editor.undo_of_not_canUndo unable]
    simp only [NavGoalsHistory.undo, if_neg able]
    exact m

theorem Mirrors.redo (m : Mirrors h goals e) :
    Mirrors (h.redo goals).1 (h.redo goals).2.1 e.redo := by
  by_cases able : h.canRedo = true
  · have inside : h.currentIndex + 1 < h.history.length := by simpa [canRedo] using able
    have found : h.history[h.currentIndex + 1]? = some h.history[h.currentIndex + 1] :=
      List.getElem?_eq_getElem inside
    simp only [NavGoalsHistory.redo, if_pos able, restore, found]
    exact Represents.redo m inside found
  · have unable : e.canRedo = false := by rw [← m.canRedo_eq]; simpa using able
    rw [Editor.redo_of_not_canRedo unable]
    simp only [NavGoalsHistory.redo, if_neg able]
    exact m

end

/-- A refused undo or redo changes neither the history nor the live list. -/
theorem undo_refused {h : NavGoalsHistory β} {goals : β} (refused : (h.undo goals).2.2 = false) :
    h.undo goals = (h, goals, false) := by
  by_cases able : h.canUndo = true
  · simp [undo, able] at refused
  · simp [undo, able]

theorem redo_refused {h : NavGoalsHistory β} {goals : β} (refused : (h.redo goals).2.2 = false) :
    h.redo goals = (h, goals, false) := by
  by_cases able : h.canRedo = true
  · simp [redo, able] at refused
  · simp [redo, able]

end GoalHistory
