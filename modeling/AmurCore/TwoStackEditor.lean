import Mathlib.Data.List.Basic

/-!
# Undo and redo as two stacks

The reference meaning of an undoable document: the snapshots before the
present one, the present one, and the snapshots that an undo took back. The
editor cannot be in an invalid state. It is compared with the flat form of the
same history, one timeline of snapshots and a cursor into it.
-/

namespace TwoStackEditor

universe u
variable {β : Type u}

/-- `past` and `future` are stacks: their first entry is next to the present. -/
structure Editor (β : Type u) where
  past : List β
  present : β
  future : List β

namespace Editor

def start (snapshot : β) : Editor β := ⟨[], snapshot, []⟩

def edit (e : Editor β) (snapshot : β) : Editor β := ⟨e.present :: e.past, snapshot, []⟩

def undo (e : Editor β) : Editor β :=
  match e.past with
  | [] => e
  | b :: past => ⟨past, b, e.present :: e.future⟩

def redo (e : Editor β) : Editor β :=
  match e.future with
  | [] => e
  | b :: future => ⟨e.present :: e.past, b, future⟩

def canUndo (e : Editor β) : Bool := !e.past.isEmpty

def canRedo (e : Editor β) : Bool := !e.future.isEmpty

/-- All snapshots in the order in which a user walks through them. -/
def timeline (e : Editor β) : List β := e.past.reverse ++ e.present :: e.future

/-- The position of the present snapshot on the timeline. -/
def cursor (e : Editor β) : Nat := e.past.length

theorem cursor_lt (e : Editor β) : e.cursor < e.timeline.length := by
  simp [cursor, timeline]

theorem timeline_cursor (e : Editor β) : e.timeline[e.cursor]? = some e.present := by
  simp [cursor, timeline]

theorem canUndo_iff (e : Editor β) : e.canUndo = true ↔ 0 < e.cursor := by
  simp [canUndo, cursor, List.length_pos_iff]

theorem canRedo_iff (e : Editor β) : e.canRedo = true ↔ e.cursor + 1 < e.timeline.length := by
  simp [canRedo, cursor, timeline, List.length_pos_iff]

theorem timeline_edit (e : Editor β) (snapshot : β) :
    (e.edit snapshot).timeline = e.timeline.take (e.cursor + 1) ++ [snapshot] := by
  have cut : (e.past.reverse ++ e.present :: e.future).take (e.past.length + 1) =
      e.past.reverse ++ [e.present] := by
    rw [show e.past.length + 1 = e.past.reverse.length + 1 by simp, List.take_length_add_append]
    simp
  simp [edit, timeline, cursor, cut]

theorem cursor_edit (e : Editor β) (snapshot : β) : (e.edit snapshot).cursor = e.cursor + 1 := rfl

/-- Undo and redo move the cursor; they never touch the timeline. -/
theorem timeline_undo (e : Editor β) : e.undo.timeline = e.timeline := by
  rcases e with ⟨past, present, future⟩
  cases past with
  | nil => rfl
  | cons b past => simp [undo, timeline]

theorem timeline_redo (e : Editor β) : e.redo.timeline = e.timeline := by
  rcases e with ⟨past, present, future⟩
  cases future with
  | nil => rfl
  | cons b future => simp [redo, timeline]

theorem cursor_undo (e : Editor β) : e.undo.cursor = e.cursor - 1 := by
  rcases e with ⟨past, present, future⟩
  cases past with
  | nil => rfl
  | cons b past => simp [undo, cursor]

theorem cursor_redo (e : Editor β) :
    e.redo.cursor = if e.canRedo then e.cursor + 1 else e.cursor := by
  rcases e with ⟨past, present, future⟩
  cases future with
  | nil => simp [redo, cursor, canRedo]
  | cons b future => simp [redo, cursor, canRedo]

theorem undo_of_not_canUndo {e : Editor β} (h : e.canUndo = false) : e.undo = e := by
  rcases e with ⟨past, present, future⟩
  cases past with
  | nil => rfl
  | cons b past => cases h

theorem redo_of_not_canRedo {e : Editor β} (h : e.canRedo = false) : e.redo = e := by
  rcases e with ⟨past, present, future⟩
  cases future with
  | nil => rfl
  | cons b future => cases h

end Editor

/-- A timeline, a cursor and a live document hold the same history as the editor. -/
structure Represents (timeline : List β) (cursor : Nat) (live : β) (e : Editor β) : Prop where
  timeline_eq : timeline = e.timeline
  cursor_eq : cursor = e.cursor
  live_eq : live = e.present

namespace Represents
variable {timeline : List β} {cursor : Nat} {live : β} {e : Editor β}

theorem cursor_lt (r : Represents timeline cursor live e) : cursor < timeline.length := by
  rw [r.timeline_eq, r.cursor_eq]
  exact e.cursor_lt

theorem live_at_cursor (r : Represents timeline cursor live e) :
    timeline[cursor]? = some live := by
  rw [r.timeline_eq, r.cursor_eq, r.live_eq]
  exact e.timeline_cursor

theorem canUndo_iff (r : Represents timeline cursor live e) :
    0 < cursor ↔ e.canUndo = true := by
  rw [r.cursor_eq, e.canUndo_iff]

theorem canRedo_iff (r : Represents timeline cursor live e) :
    cursor + 1 < timeline.length ↔ e.canRedo = true := by
  rw [r.timeline_eq, r.cursor_eq, e.canRedo_iff]

theorem edit (r : Represents timeline cursor live e) (snapshot : β) :
    Represents (timeline.take (cursor + 1) ++ [snapshot]) (cursor + 1) snapshot
      (e.edit snapshot) where
  timeline_eq := by rw [e.timeline_edit, r.timeline_eq, r.cursor_eq]
  cursor_eq := by rw [e.cursor_edit, r.cursor_eq]
  live_eq := rfl

/-- One step back along the flat form is an undo of the editor. -/
theorem undo (r : Represents timeline cursor live e) {previous : β}
    (at_previous : timeline[cursor - 1]? = some previous) :
    Represents timeline (cursor - 1) previous e.undo where
  timeline_eq := by rw [e.timeline_undo, r.timeline_eq]
  cursor_eq := by rw [e.cursor_undo, r.cursor_eq]
  live_eq := by
    have moved := e.undo.timeline_cursor
    rw [e.timeline_undo, e.cursor_undo, ← r.timeline_eq, ← r.cursor_eq, at_previous] at moved
    exact Option.some.inj moved

/-- One step forward along the flat form is a redo of the editor. -/
theorem redo (r : Represents timeline cursor live e) (h : cursor + 1 < timeline.length) {next : β}
    (at_next : timeline[cursor + 1]? = some next) :
    Represents timeline (cursor + 1) next e.redo where
  timeline_eq := by rw [e.timeline_redo, r.timeline_eq]
  cursor_eq := by rw [e.cursor_redo, if_pos (r.canRedo_iff.mp h), r.cursor_eq]
  live_eq := by
    have moved := e.redo.timeline_cursor
    rw [e.timeline_redo, e.cursor_redo, if_pos (r.canRedo_iff.mp h), ← r.timeline_eq,
      ← r.cursor_eq, at_next] at moved
    exact Option.some.inj moved

end Represents

theorem represents_start (snapshot : β) :
    Represents [snapshot] 0 snapshot (Editor.start snapshot) :=
  ⟨rfl, rfl, rfl⟩

end TwoStackEditor
