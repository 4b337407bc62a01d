import AmurCore.NameEdits

/-!
# What the name handler respects

`onRobotNameChanged` calls itself through the items that it writes. What every
single change that it makes respects is respected by every edit of a cell and by
every answer to the question, however the calls nest.
-/

namespace NameHandler

open ConnectTable NameEdits

/-- A relation that holds for every single change. -/
structure Respected (R : State → State → Prop) : Prop where
  refl : ∀ s, R s s
  trans : ∀ {s t u}, R s t → R t u → R s u
  putRow : ∀ {s item row} text userRole, s.row? item = some row →
    R s (s.putRow item { row with text := text, userRole := userRole })
  setName : ∀ s robot name, name ≠ "" → R s { s with heap := s.heap.setName robot name }
  repo : ∀ s repo, R s { s with repo := repo }
  question : ∀ s question, R s { s with question := question }

namespace Respected

variable {R : State → State → Prop} (respected : Respected R) {s t : State} {item : Item}
  {sql : Sql}

section Writes
variable {itemChanged : State → Option State} (keeps : ∀ s t, itemChanged s = some t → R s t)

include respected keeps

theorem setText {value : String} (h : ConnectTable.setText itemChanged item value s = some t) :
    R s t := by
  rw [ConnectTable.setText] at h
  split at h
  · cases h
  · rename_i row cell
    split at h
    · cases h
      exact respected.refl s
    · have written := respected.putRow value row.userRole cell
      exact respected.trans written (keeps _ t h)

theorem setUserRole {value : String}
    (h : ConnectTable.setUserRole itemChanged item value s = some t) : R s t := by
  rw [ConnectTable.setUserRole] at h
  split at h
  · cases h
  · rename_i row cell
    split at h
    · cases h
      exact respected.refl s
    · have written := respected.putRow row.text value cell
      exact respected.trans written (keeps _ t h)

end Writes

include respected

theorem handler (sql : Sql) (n : Nat) (item : Item) (s t : State)
    (h : onRobotNameChanged sql n item s = some t) : R s t := by
  induction n generalizing s t with
  | zero => cases h
  | succ n ih =>
    rw [onRobotNameChanged] at h
    split at h
    · cases h
    · rename_i row cell
      simp only at h
      split at h
      · cases h
        exact respected.refl s
      · split at h
        · rename_i new
          have named := respected.setName s row.robot row.text new.2
          have stored := respected.repo { s with heap := s.heap.setName row.robot row.text }
            (storeNew sql ((s.heap.setName row.robot row.text).entry row.robot) s.repo)
          exact respected.trans (respected.trans named stored) (respected.setUserRole ih h)
        · split at h
          · have stored := respected.repo s
              (RobotRepository.updateRobot sql.updateRobot (s.heap.entry row.robot) s.repo).2
            exact respected.trans stored (respected.setUserRole ih h)
          · cases h
            exact respected.question s _

/-- An edit of a cell. -/
theorem editName {n : Nat} {value : String}
    (h : ConnectTable.setText (onRobotNameChanged sql n item) item value s = some t) : R s t :=
  respected.setText (respected.handler sql n item) h

/-- An answer to the question. -/
theorem answer {yes : Bool} {n : Nat} (h : answerQuestion sql n yes s = some t) : R s t := by
  cases asked : s.question with
  | none =>
    simp only [answerQuestion, asked] at h
    cases h
  | some q =>
    have closed := respected.question s none
    have nested := respected.handler sql n q.item
    cases yes with
    | true =>
      rw [answerQuestion_yes n asked] at h
      have deleted := respected.repo { s with question := none }
        (RobotRepository.deleteRobot sql.deleteRobot (s.heap.entry q.robot) s.repo).2
      exact respected.trans (respected.trans closed deleted) (respected.setUserRole nested h)
    | false =>
      rw [answerQuestion_no n asked] at h
      obtain ⟨r, restored, remembered⟩ := Option.bind_eq_some_iff.mp h
      have first := respected.trans closed (respected.setText nested restored)
      exact respected.trans first (respected.setUserRole nested remembered)

end Respected

end NameHandler
