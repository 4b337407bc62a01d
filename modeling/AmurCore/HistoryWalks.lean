import AmurCore.NavWire

/-!
# Walks through the history

Undo and redo as steps of a walk on the indexes of the history, which stays put
at both ends. The history itself is not touched and the live list is always the
snapshot at the index, so where a word of presses leads depends only on the end
of its walk.
-/

namespace HistoryWalks

open EventRuns GoalHistory NavGoalsHistory

inductive Press where
  | undo
  | redo
  deriving DecidableEq

/-! ### Walks between 0 and the last index -/

def walkStep (last i : Nat) : Press → Nat
  | .undo => i - 1
  | .redo => if i < last then i + 1 else i

/-- Where the walk of the word that starts at `i` ends. -/
def endpoint (last i : Nat) (word : List Press) : Nat := run (walkStep last) i word

theorem endpoint_undos (last i k : Nat) : endpoint last i (List.replicate k .undo) = i - k := by
  induction k generalizing i with
  | zero => rfl
  | succ k ih =>
    have rest : endpoint last (i - 1) (List.replicate k .undo) = i - 1 - k := ih (i - 1)
    rw [List.replicate_succ]
    apply rest.trans
    omega

theorem endpoint_redos {last i k : Nat} (room : i + k ≤ last) :
    endpoint last i (List.replicate k .redo) = i + k := by
  induction k generalizing i with
  | zero => rfl
  | succ k ih =>
    have moved : walkStep last i .redo = i + 1 := if_pos (by omega)
    have rest : endpoint last (i + 1) (List.replicate k .redo) = i + 1 + k := ih (by omega)
    rw [List.replicate_succ, endpoint, run_cons, moved]
    apply rest.trans
    omega

/-- As many steps back as there are, and the same number forward. -/
theorem endpoint_back_and_forth {last i k : Nat} (inside : i ≤ last) (enough : k ≤ i) :
    endpoint last i (List.replicate k .undo ++ List.replicate k .redo) = i := by
  have back : run (walkStep last) i (List.replicate k .undo) = i - k := endpoint_undos last i k
  have forth : endpoint last (i - k) (List.replicate k .redo) = i - k + k :=
    endpoint_redos (by omega)
  rw [endpoint, run_append, back]
  apply forth.trans
  omega

/-! ### Presses -/

section Presses
variable {β : Type} {s : NavGoalsHistory β × β}

/-- A press on the history together with the live list. -/
def press (s : NavGoalsHistory β × β) : Press → NavGoalsHistory β × β
  | .undo => ((s.1.undo s.2).1, (s.1.undo s.2).2.1)
  | .redo => ((s.1.redo s.2).1, (s.1.redo s.2).2.1)

/-- The live list is the snapshot at the index. -/
def AtSnapshot (s : NavGoalsHistory β × β) : Prop :=
  s.1.history[s.1.currentIndex]? = some s.2

theorem AtSnapshot.inside (h : AtSnapshot s) : s.1.currentIndex < s.1.history.length := by
  obtain ⟨inside, -⟩ := List.getElem?_eq_some_iff.mp h
  exact inside

/-- Two places in one history have the same live list if they have the same index. -/
theorem AtSnapshot.ext {t : NavGoalsHistory β × β} (hs : AtSnapshot s) (ht : AtSnapshot t)
    (same : s.1 = t.1) : s = t := by
  have live : some s.2 = some t.2 := by
    rw [← hs, ← ht, same]
  exact Prod.ext same (Option.some.inj live)

theorem restore_atSnapshot (history : List β) {i : Nat} (inside : i < history.length) (goals : β) :
    AtSnapshot (⟨history, i⟩, restore ⟨history, i⟩ goals) := by
  have found : history[i]? = some history[i] := List.getElem?_eq_getElem inside
  simp only [AtSnapshot, restore, found]

/-- One press is one step of the walk. -/
theorem press_walks (h : AtSnapshot s) (p : Press) :
    (press s p).1 = ⟨s.1.history, walkStep (s.1.history.length - 1) s.1.currentIndex p⟩ ∧
      AtSnapshot (press s p) := by
  have inside := h.inside
  cases p with
  | undo =>
    by_cases able : s.1.canUndo = true
    · simp only [press, undo, if_pos able]
      exact ⟨rfl, restore_atSnapshot _ (by omega) _⟩
    · have first : s.1.currentIndex - 1 = s.1.currentIndex := by
        have zero : s.1.currentIndex = 0 := by simpa [canUndo] using able
        omega
      simp only [press, undo, if_neg able]
      refine ⟨?_, h⟩
      rw [walkStep, first]
  | redo =>
    by_cases able : s.1.canRedo = true
    · have next : s.1.currentIndex + 1 < s.1.history.length := by simpa [canRedo] using able
      simp only [press, redo, if_pos able]
      refine ⟨?_, restore_atSnapshot _ next _⟩
      rw [walkStep, if_pos (by omega)]
    · have final : ¬ s.1.currentIndex + 1 < s.1.history.length := by simpa [canRedo] using able
      simp only [press, redo, if_neg able]
      refine ⟨?_, h⟩
      rw [walkStep, if_neg (by omega)]

theorem run_press_walks (h : AtSnapshot s) (word : List Press) :
    (run press s word).1
        = ⟨s.1.history, endpoint (s.1.history.length - 1) s.1.currentIndex word⟩ ∧
      AtSnapshot (run press s word) := by
  induction word generalizing s with
  | nil => exact ⟨rfl, h⟩
  | cons p word ih =>
    obtain ⟨moved, at_snapshot⟩ := press_walks h p
    obtain ⟨walked, arrived⟩ := ih at_snapshot
    refine ⟨?_, arrived⟩
    rw [run_cons, walked, moved]
    rfl

/-- The presses of the words only walk: the history stays, the index is where the
walk ends and the live list is the snapshot there. -/
def OnlyWalks (s : NavGoalsHistory β × β) : Prop :=
  (∀ word, (run press s word).1
      = ⟨s.1.history, endpoint (s.1.history.length - 1) s.1.currentIndex word⟩ ∧
    (run press s word).1.history[(run press s word).1.currentIndex]? = some (run press s word).2) ∧
  (∀ word word', endpoint (s.1.history.length - 1) s.1.currentIndex word
      = endpoint (s.1.history.length - 1) s.1.currentIndex word' →
    run press s word = run press s word') ∧
  (∀ k, k ≤ s.1.currentIndex →
    run press s (List.replicate k .undo ++ List.replicate k .redo) = s)

theorem AtSnapshot.onlyWalks (h : AtSnapshot s) : OnlyWalks s := by
  refine ⟨run_press_walks h, ?_, ?_⟩
  · intro word word' same
    obtain ⟨walked, arrived⟩ := run_press_walks h word
    obtain ⟨walked', arrived'⟩ := run_press_walks h word'
    apply arrived.ext arrived'
    rw [walked, walked', same]
  · intro k enough
    have inside := h.inside
    obtain ⟨walked, arrived⟩ :=
      run_press_walks h (List.replicate k .undo ++ List.replicate k .redo)
    apply arrived.ext h
    rw [walked, endpoint_back_and_forth (by omega) enough]

/-- What may happen to a history: the live list is edited and recorded, or one of
the buttons is pressed. -/
inductive Operation (β : Type) where
  | record (goals : β)
  | press (p : Press)

def operate (s : NavGoalsHistory β × β) : Operation β → NavGoalsHistory β × β
  | .record goals => (s.1.record goals, goals)
  | .press p => press s p

theorem operate_atSnapshot (s : NavGoalsHistory β × β) (operation : Operation β)
    (h : AtSnapshot s) : AtSnapshot (operate s operation) := by
  cases operation with
  | record goals =>
    have inside := h.inside
    have kept : (s.1.history.take (s.1.currentIndex + 1)).length = s.1.currentIndex + 1 := by
      rw [List.length_take]
      omega
    simp only [operate, record_eq inside, AtSnapshot]
    rw [List.getElem?_append_right (by omega), kept, Nat.sub_self, List.getElem?_cons_zero]
  | press p => exact (press_walks h p).2

end Presses

/-! ### The buttons of the dialog -/

section Dialog
variable {α : Type}

open NavDialogModel NavWire RobotMessages NavCommands MapClicks

def eventOf : Press → Event α
  | .undo => .undoClicked
  | .redo => .redoClicked

/-- The history of the dialog with the goals list that it shares with the widget. -/
def goalsOf (d : NavDialog α) : NavGoalsHistory (List (QPointF α)) × List (QPointF α) :=
  (d.navGoalsHistory, d.navigationGoalsList)

theorem goalsOf_settled (d : NavDialog α) : goalsOf (updateStateFromGoals d) = goalsOf d := by
  obtain ⟨goals, history⟩ := updateStateFromGoals_sameGoals d
  rw [goalsOf, goalsOf, goals, history]

theorem goalsOf_undoGoals (d : NavDialog α) : goalsOf (undoGoals d) = press (goalsOf d) .undo := by
  unfold undoGoals
  split
  · rename_i history goals taken
    rw [goalsOf_settled]
    simp only [press, goalsOf, taken]
    rfl
  · rename_i history goals refused
    simp only [press, goalsOf, refused]

theorem goalsOf_redoGoals (d : NavDialog α) : goalsOf (redoGoals d) = press (goalsOf d) .redo := by
  unfold redoGoals
  split
  · rename_i history goals taken
    rw [goalsOf_settled]
    simp only [press, goalsOf, taken]
    rfl
  · rename_i history goals refused
    simp only [press, goalsOf, refused]

variable [Zero α] [One α] [Add α] [Sub α] [Mul α] [Div α] [IntCast α]

theorem goalsOf_presses (d : NavDialog α) (word : List Press) :
    goalsOf (run step d (word.map eventOf)) = run press (goalsOf d) word := by
  induction word generalizing d with
  | nil => rfl
  | cons p word ih =>
    have pressed : goalsOf (step d (eventOf p)) = press (goalsOf d) p := by
      cases p with
      | undo => exact goalsOf_undoGoals d
      | redo => exact goalsOf_redoGoals d
    rw [List.map_cons, run_cons, run_cons, ih, pressed]

theorem goalsOf_reachable (controls : Controls α) (sensors : Sensors) (view : MapView α)
    (events : List (Event α)) :
    AtSnapshot (goalsOf (run step (construct controls sensors view) events)) := by
  have shown := run_refines (R := ShowsEditor) step_shows
    (construct_shows controls sensors view) events
  exact shown.live_at_cursor

/-- From every state of a history, and from every state of the dialog, undo and
redo only walk through the snapshots. -/
theorem presses_only_walk :
    (∀ {β : Type} (goals : β) (operations : List (Operation β)),
      OnlyWalks (run operate (NavGoalsHistory.construct goals, goals) operations)) ∧
    ∀ (controls : Controls α) (sensors : Sensors) (view : MapView α) (events : List (Event α)),
      let d := run step (NavDialogModel.construct controls sensors view) events
      OnlyWalks (goalsOf d) ∧
      ∀ word : List Press,
        goalsOf (run step d (word.map eventOf)) = run press (goalsOf d) word := by
  constructor
  · intro β goals operations
    have first : AtSnapshot (NavGoalsHistory.construct goals, goals) := rfl
    have reached := run_invariant operate_atSnapshot first operations
    exact reached.onlyWalks
  · intro controls sensors view events d
    exact ⟨(goalsOf_reachable controls sensors view events).onlyWalks, goalsOf_presses d⟩

end Dialog

end HistoryWalks
