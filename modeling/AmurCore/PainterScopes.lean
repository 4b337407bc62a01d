import AmurCore.EventRuns

/-!
# Painters with scopes

A painter has a transformation from the coordinates that it is given to those of
its device, and a stack of the transformations that were saved. A scope saves the
transformation, draws, and restores it. What a sequence of settled commands draws
is what each of them draws by itself.
-/

namespace PainterScopes

open EventRuns

universe u v
variable {P : Type u} {L : Type v}

/-- A command of a painter of points `P`, with `L` to tell its strokes apart. -/
inductive Command (P : Type u) (L : Type v) where
  | save
  | restore
  /-- A transformation that comes before the ones there are. -/
  | transform (t : P → P)
  | draw (ink : L) (points : List P)

/-- The transformation, and the saved ones. -/
structure Painter (P : Type u) where
  place : P → P
  saved : List (P → P)

def Painter.new : Painter P := ⟨id, []⟩

def exec (painter : Painter P) : Command P L → Painter P
  | .save => { painter with saved := painter.place :: painter.saved }
  | .restore =>
    match painter.saved with
    | [] => painter
    | place :: saved => ⟨place, saved⟩
  | .transform t => { painter with place := painter.place ∘ t }
  | .draw _ _ => painter

/-- Something drawn, and the transformation that it was drawn with. -/
structure Stroke (P : Type u) (L : Type v) where
  place : P → P
  ink : L
  points : List P

/-- The points on the device. -/
def Stroke.onDevice (stroke : Stroke P L) : List P := stroke.points.map stroke.place

def strokes (painter : Painter P) : Command P L → List (Stroke P L)
  | .draw ink points => [⟨painter.place, ink, points⟩]
  | _ => []

/-- What the commands draw. -/
def drawn (painter : Painter P) (commands : List (Command P L)) : List (Stroke P L) :=
  trace exec strokes painter commands

/-- The commands leave every painter as it was. -/
def Settled (commands : List (Command P L)) : Prop :=
  ∀ painter, run exec painter commands = painter

/-- The commands in a scope, with transformations of their own. -/
def scope (ts : List (P → P)) (commands : List (Command P L)) : List (Command P L) :=
  .save :: (ts.map .transform ++ (commands ++ [.restore]))

/-- The painter in a scope with the transformations. -/
def Painter.inner (painter : Painter P) (ts : List (P → P)) : Painter P :=
  ⟨ts.foldl (· ∘ ·) painter.place, painter.place :: painter.saved⟩

/-! ### Settled commands -/

theorem settled_nil : Settled ([] : List (Command P L)) := fun _ => rfl

theorem settled_draw (ink : L) (points : List P) : Settled [Command.draw ink points] :=
  fun _ => rfl

theorem Settled.append {commands commands' : List (Command P L)} (h : Settled commands)
    (h' : Settled commands') : Settled (commands ++ commands') := by
  intro painter
  rw [run_append, h painter, h' painter]

theorem settled_flatMap {α : Type*} {layer : α → List (Command P L)} {l : List α}
    (h : ∀ a ∈ l, Settled (layer a)) : Settled (l.flatMap layer) := by
  induction l with
  | nil => exact settled_nil
  | cons a l ih =>
    rw [List.flatMap_cons]
    have first : Settled (layer a) := h a List.mem_cons_self
    exact first.append (ih fun b mem => h b (List.mem_cons_of_mem _ mem))

theorem run_transforms (painter : Painter P) (ts : List (P → P)) :
    run exec painter (ts.map (Command.transform (L := L)))
      = ⟨ts.foldl (· ∘ ·) painter.place, painter.saved⟩ := by
  induction ts generalizing painter with
  | nil => rfl
  | cons t ts ih =>
    rw [List.map_cons, run_cons, ih]
    rfl

/-- A scope gives back the painter that it was given. -/
theorem settled_scope (ts : List (P → P)) {commands : List (Command P L)}
    (h : Settled commands) : Settled (scope ts commands) := by
  intro painter
  rw [scope, run_cons, run_append, run_transforms, run_append, h]
  rfl

/-! ### What is drawn -/

theorem drawn_append {commands : List (Command P L)} (h : Settled commands) (painter : Painter P)
    (commands' : List (Command P L)) :
    drawn painter (commands ++ commands') = drawn painter commands ++ drawn painter commands' := by
  rw [drawn, trace_append, h painter]
  rfl

/-- Layers that settle are drawn independently of one another. -/
theorem drawn_flatMap {α : Type*} {layer : α → List (Command P L)} {l : List α}
    (h : ∀ a ∈ l, Settled (layer a)) (painter : Painter P) :
    drawn painter (l.flatMap layer) = l.flatMap fun a => drawn painter (layer a) := by
  induction l with
  | nil => rfl
  | cons a l ih =>
    have first : Settled (layer a) := h a List.mem_cons_self
    rw [List.flatMap_cons, List.flatMap_cons, drawn_append first,
      ih fun b mem => h b (List.mem_cons_of_mem _ mem)]

/-- In a scope its transformations come before that of the painter. -/
theorem drawn_scope (ts : List (P → P)) {commands : List (Command P L)} (h : Settled commands)
    (painter : Painter P) :
    drawn painter (scope ts commands) = drawn (painter.inner ts) commands := by
  have silent : ∀ p : Painter P, drawn p (ts.map (Command.transform (L := L))) = [] := by
    induction ts with
    | nil => exact fun _ => rfl
    | cons t ts ih => exact fun p => ih _
  have saved : run exec (exec painter (Command.save (L := L))) (ts.map (Command.transform (L := L)))
      = painter.inner ts := run_transforms (L := L) _ ts
  have start : drawn painter (scope ts commands)
      = drawn (exec painter (Command.save (L := L)))
        (ts.map Command.transform ++ (commands ++ [.restore])) := rfl
  have inside := silent (exec painter (Command.save (L := L)))
  rw [drawn] at inside
  rw [start, drawn, trace_append, inside, List.nil_append, saved, ← drawn, drawn_append h]
  exact List.append_nil _

/-- Drawing commands alone. -/
theorem drawn_map {α : Type*} (ink : α → L) (points : α → List P) (l : List α)
    (painter : Painter P) :
    drawn painter (l.map fun a => Command.draw (ink a) (points a))
      = l.map fun a => ⟨painter.place, ink a, points a⟩ := by
  induction l with
  | nil => rfl
  | cons a l ih => exact congrArg (_ :: ·) ih

theorem settled_map {α : Type*} (ink : α → L) (points : α → List P) (l : List α) :
    Settled (l.map fun a => Command.draw (ink a) (points a)) := by
  intro painter
  induction l with
  | nil => rfl
  | cons a l ih => exact ih

end PainterScopes
