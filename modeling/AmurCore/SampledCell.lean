import AmurCore.EventRuns

/-!
# A cell that is overwritten and sampled

A writer replaces the content of a cell whenever it has a new value, and a reader
looks at the cell whenever it likes. The reader sees the latest value. What it
sees for the first time comes in the order of the writes, and a value is missed
exactly when it is overwritten before any sample. Nothing here says what the
values are or who the two are.
-/

namespace SampledCell

open EventRuns

universe u
variable {V : Type u}

inductive Access (V : Type u) where
  | write (value : V)
  | sample
  deriving DecidableEq

/-- The content, and whether no sample has seen it since it was written. -/
structure Cell (V : Type u) where
  content : Option V
  unseen : Bool

namespace Cell

def empty : Cell V := ⟨none, false⟩

/-- The value that the next sample sees for the first time. -/
def pending (c : Cell V) : List V := if c.unseen then c.content.toList else []

theorem pending_cases (c : Cell V) : c.pending = [] ∨ ∃ value, c.pending = [value] := by
  obtain ⟨content, unseen⟩ := c
  cases unseen with
  | false => exact Or.inl rfl
  | true =>
    cases content with
    | none => exact Or.inl rfl
    | some value => exact Or.inr ⟨value, rfl⟩

end Cell

def access (c : Cell V) : Access V → Cell V
  | .write value => ⟨some value, true⟩
  | .sample => ⟨c.content, false⟩

def written : Access V → Option V
  | .write value => some value
  | .sample => none

/-- What a sample sees. -/
def seen (c : Cell V) : Access V → List V
  | .write _ => []
  | .sample => c.content.toList

/-- What a sample sees for the first time. -/
def news (c : Cell V) : Access V → List V
  | .write _ => []
  | .sample => c.pending

/-- What a write overwrites before any sample. -/
def lost (c : Cell V) : Access V → List V
  | .write _ => c.pending
  | .sample => []

/-! ### One access -/

theorem access_sublist (c : Cell V) (a : Access V) :
    (news c a ++ (access c a).pending).Sublist (c.pending ++ (written a).toList) := by
  cases a with
  | write value => exact List.sublist_append_right c.pending [value]
  | sample => exact List.Sublist.refl _

theorem access_length (c : Cell V) (a : Access V) :
    (news c a).length + (access c a).pending.length + (lost c a).length
      = c.pending.length + (written a).toList.length := by
  cases a with
  | write value =>
    have one : (access c (.write value)).pending.length = 1 := rfl
    have here : (lost c (.write value)).length = c.pending.length := rfl
    have none_seen : (news c (.write value)).length = 0 := rfl
    have new : (written (.write value)).toList.length = 1 := rfl
    omega
  | sample => rfl

/-! ### Runs of accesses -/

theorem run_sublist (c : Cell V) (as : List (Access V)) :
    (trace access news c as ++ (run access c as).pending).Sublist
      (c.pending ++ as.filterMap written) := by
  induction as generalizing c with
  | nil => simp [trace]
  | cons a as ih =>
    have first := access_sublist c a
    have rest := (ih (access c a)).append_left (news c a)
    have joined : c.pending ++ (a :: as).filterMap written
        = (c.pending ++ (written a).toList) ++ as.filterMap written := by
      cases h : written a <;> simp [h]
    rw [trace, run_cons, List.append_assoc, joined]
    refine rest.trans ?_
    rw [← List.append_assoc]
    exact first.append_right _

theorem run_length (c : Cell V) (as : List (Access V)) :
    (trace access news c as).length + (run access c as).pending.length
        + (trace access lost c as).length
      = c.pending.length + (as.filterMap written).length := by
  induction as generalizing c with
  | nil => simp [trace]
  | cons a as ih =>
    have first := access_length c a
    have rest := ih (access c a)
    have joined : ((a :: as).filterMap written).length
        = (written a).toList.length + (as.filterMap written).length := by
      cases h : written a <;> simp [h, Nat.add_comm]
    simp only [trace, run_cons, List.length_append]
    omega

/-- What a reader sees for the first time comes in the order of the writes. -/
theorem news_sublist (as : List (Access V)) :
    (trace access news Cell.empty as).Sublist (as.filterMap written) :=
  (List.sublist_append_left _ _).trans (run_sublist Cell.empty as)

/-- Every write but the last one is seen exactly when none was overwritten
before it was. -/
theorem news_eq_iff (as : List (Access V)) :
    trace access news Cell.empty as ++ (run access Cell.empty as).pending
        = as.filterMap written ↔
      trace access lost Cell.empty as = [] := by
  have counted := run_length Cell.empty as
  have nothing : (Cell.empty : Cell V).pending.length = 0 := rfl
  have ordered : (trace access news Cell.empty as ++ (run access Cell.empty as).pending).Sublist
      (as.filterMap written) := run_sublist Cell.empty as
  constructor
  · intro all
    have := congrArg List.length all
    rw [List.length_append] at this
    exact List.length_eq_zero_iff.mp (by omega)
  · intro none_lost
    refine ordered.eq_of_length ?_
    rw [none_lost, List.length_nil] at counted
    rw [List.length_append]
    omega

/-- The content is the last value that was seen for the first time, or is still
to be. -/
theorem content_eq (as : List (Access V)) :
    (run access Cell.empty as).content
      = (trace access news Cell.empty as ++ (run access Cell.empty as).pending).getLast? := by
  induction as using List.reverseRecOn with
  | nil => rfl
  | append_singleton as a ih =>
    rw [run_concat, trace_concat]
    cases a with
    | write value => simp [access, news, Cell.pending]
    | sample =>
      have settled : (access (run access Cell.empty as) .sample).pending = [] := rfl
      rw [settled, List.append_nil]
      exact ih

/-- A sample sees the last of what has been seen for the first time, this sample
included: whatever it sees is new or a repetition. -/
theorem seen_eq (as : List (Access V)) :
    seen (run access Cell.empty as) .sample
      = (trace access news Cell.empty (as ++ [.sample])).getLast?.toList := by
  rw [trace_concat]
  exact congrArg Option.toList (content_eq as)

/-- The second list is the first one, each value repeated once or several times in
a row. -/
inductive Repeats : List V → List V → Prop
  | nil : Repeats [] []
  | next (value : V) {values shown : List V} (h : Repeats values shown) :
      Repeats (values ++ [value]) (shown ++ [value])
  | again {value : V} {values shown : List V} (h : Repeats (values ++ [value]) shown) :
      Repeats (values ++ [value]) (shown ++ [value])

/-- The samples show what they see for the first time, each value once or several
times in a row. -/
theorem seen_repeats (as : List (Access V)) :
    Repeats (trace access news Cell.empty as) (trace access seen Cell.empty as) := by
  induction as using List.reverseRecOn with
  | nil => exact .nil
  | append_singleton as a ih =>
    cases a with
    | write value =>
      rw [trace_concat, trace_concat]
      simpa [news, seen] using ih
    | sample =>
      have last := seen_eq as
      rw [trace_concat, trace_concat, last, trace_concat]
      have new : news (run access Cell.empty as) .sample = (run access Cell.empty as).pending := rfl
      rcases (run access Cell.empty as).pending_cases with settled | ⟨value, fresh⟩
      · rw [new, settled, List.append_nil]
        rcases List.eq_nil_or_concat (trace access news Cell.empty as) with
          none_yet | ⟨values, value, h⟩
        · rw [none_yet] at ih ⊢
          simpa using ih
        · rw [h, List.concat_eq_append] at ih ⊢
          simpa using ih.again
      · rw [new, fresh]
        simpa using ih.next value

end SampledCell
