import Mathlib.Data.List.Induction

/-!
# Runs of event-driven systems

A system is a step function on its states; a run feeds it a finite list of
events from left to right. This file fixes the vocabulary for what holds after
a run, at every step of a run, and between two systems run side by side. It
mentions no particular system.
-/

namespace EventRuns

universe u v w x y
variable {S : Type u} {E : Type v} {T : Type w} {F : Type x}

/-- The state reached from `s` by taking the events from left to right. -/
def run (step : S → E → S) (s : S) (events : List E) : S := events.foldl step s

@[simp] theorem run_nil (step : S → E → S) (s : S) : run step s [] = s := rfl

@[simp] theorem run_cons (step : S → E → S) (s : S) (e : E) (es : List E) :
    run step s (e :: es) = run step (step s e) es := rfl

theorem run_append (step : S → E → S) (s : S) (es fs : List E) :
    run step s (es ++ fs) = run step (run step s es) fs :=
  List.foldl_append

@[simp] theorem run_concat (step : S → E → S) (s : S) (es : List E) (e : E) :
    run step s (es ++ [e]) = step (run step s es) e := by
  rw [run_append]
  rfl

/-- An invariant of single steps is an invariant of runs. -/
theorem run_invariant {step : S → E → S} {Inv : S → Prop}
    (preserves : ∀ s e, Inv s → Inv (step s e)) {s : S} (initial : Inv s)
    (es : List E) : Inv (run step s es) := by
  induction es generalizing s with
  | nil => exact initial
  | cons e es ih => exact ih (preserves s e initial)

/-- What each step of a run shows to an observer, collected along the run. -/
def trace (step : S → E → S) (label : S → E → List F) : S → List E → List F
  | _, [] => []
  | s, e :: es => label s e ++ trace step label (step s e) es

theorem trace_concat (step : S → E → S) (label : S → E → List F) (s : S) (es : List E) (e : E) :
    trace step label s (es ++ [e]) = trace step label s es ++ label (run step s es) e := by
  induction es generalizing s with
  | nil => simp [trace]
  | cons f es ih =>
    rw [List.cons_append, trace, ih, trace, run_cons, List.append_assoc]

/-- Refinement: if every concrete step is matched by the abstract operations it
shows, then so is every concrete run by the operations it shows altogether. -/
theorem run_refines {step : S → E → S} {label : S → E → List F} {op : T → F → T}
    {R : S → T → Prop}
    (matched : ∀ s t e, R s t → R (step s e) (run op t (label s e)))
    {s : S} {t : T} (initial : R s t) (es : List E) :
    R (run step s es) (run op t (trace step label s es)) := by
  induction es generalizing s t with
  | nil => exact initial
  | cons e es ih =>
    rw [run_cons, trace, run_append]
    exact ih (matched s t e initial)

theorem trace_append (step : S → E → S) (label : S → E → List F) (s : S) (es fs : List E) :
    trace step label s (es ++ fs)
      = trace step label s es ++ trace step label (run step s es) fs := by
  induction es generalizing s with
  | nil => rfl
  | cons e es ih => rw [List.cons_append, trace, ih, trace, run_cons, List.append_assoc]

/-- What a run shows is what the operations it amounts to show, if that is so of
every step. -/
theorem trace_refines {G : Type y} {step : S → E → S} {label : S → E → List F} {op : T → F → T}
    {R : S → T → Prop} {shown : S → E → List G} {shows_ : T → F → List G}
    (matched : ∀ s t e, R s t → R (step s e) (run op t (label s e)) ∧
      shown s e = trace op shows_ t (label s e))
    {s : S} {t : T} (initial : R s t) (es : List E) :
    trace step shown s es = trace op shows_ t (trace step label s es) := by
  induction es generalizing s t with
  | nil => rfl
  | cons e es ih =>
    obtain ⟨next, same⟩ := matched s t e initial
    rw [trace, trace, trace_append, ← same, ih next]

/-- Simulation: two systems that take the same events, and show the same at each of
them, show the same along every run. -/
theorem trace_simulates {step : S → E → S} {step' : T → E → T} {shown : S → E → List F}
    {shown' : T → E → List F} {R : S → T → Prop}
    (matched : ∀ s t e, R s t → shown s e = shown' t e ∧ R (step s e) (step' t e))
    {s : S} {t : T} (initial : R s t) (es : List E) :
    trace step shown s es = trace step' shown' t es ∧ R (run step s es) (run step' t es) := by
  induction es generalizing s t with
  | nil => exact ⟨rfl, initial⟩
  | cons e es ih =>
    obtain ⟨same, next⟩ := matched s t e initial
    obtain ⟨rest, last⟩ := ih next
    exact ⟨by rw [trace, trace, same, rest], last⟩

/-- What the steps of a run preserve together with all that they have shown. -/
theorem trace_invariant {step : S → E → S} {label : S → E → List F} {Inv : List F → S → Prop}
    (preserves : ∀ shown s e, Inv shown s → Inv (shown ++ label s e) (step s e))
    {s : S} (initial : Inv [] s) (es : List E) : Inv (trace step label s es) (run step s es) := by
  induction es using List.reverseRecOn with
  | nil => exact initial
  | append_singleton es e ih =>
    rw [trace_concat, run_concat]
    exact preserves _ _ e ih

/-- What each step shows is paid for from a potential that the steps do not raise. -/
theorem trace_length_le {step : S → E → S} (label : S → E → List F) (potential : S → Nat)
    {Inv : S → Prop} (kept : ∀ s e, Inv s → Inv (step s e))
    (paid : ∀ s e, Inv s → (label s e).length + potential (step s e) ≤ potential s)
    {s : S} (initial : Inv s) (es : List E) :
    (trace step label s es).length + potential (run step s es) ≤ potential s := by
  induction es generalizing s with
  | nil => exact Nat.le_of_eq (Nat.zero_add _)
  | cons e es ih =>
    have first := paid s e initial
    have rest := ih (kept s e initial)
    rw [trace, List.length_append, run_cons]
    omega

/-- The value carried by the last event that carried one. -/
def latest {V : Type y} (carries : E → Option V) (events : List E) : Option V :=
  run (fun last e => (carries e).or last) none events

@[simp] theorem latest_concat {V : Type y} (carries : E → Option V) (es : List E) (e : E) :
    latest carries (es ++ [e]) = (carries e).or (latest carries es) :=
  run_concat _ _ es e

theorem latest_append {V : Type y} (carries : E → Option V) (es fs : List E) :
    latest carries (es ++ fs) = (latest carries fs).or (latest carries es) := by
  induction fs using List.reverseRecOn with
  | nil => rw [List.append_nil]; rfl
  | append_singleton fs f ih =>
    rw [← List.append_assoc, latest_concat, latest_concat, ih, Option.or_assoc]

/-- `P` holds of every step of the event list: of each event together with the
events before it. -/
def Along (P : List E → E → Prop) (es : List E) : Prop :=
  ∀ before e after, es = before ++ e :: after → P before e

/-- `Q` holds of every stage of the event list, the first and the last included. -/
def Throughout (Q : List E → Prop) (es : List E) : Prop :=
  ∀ before after, es = before ++ after → Q before

theorem along_nil (P : List E → E → Prop) : Along P [] := by
  intro before e after split
  simp at split

theorem along_concat {P : List E → E → Prop} {es : List E} {e : E} :
    Along P (es ++ [e]) ↔ Along P es ∧ P es e := by
  constructor
  · intro h
    refine ⟨?_, h es e [] rfl⟩
    intro before f after split
    exact h before f (after ++ [e]) (by simp [split])
  · rintro ⟨h, last⟩ before f after split
    rcases List.eq_nil_or_concat after with rfl | ⟨after, g, rfl⟩
    · obtain ⟨rfl, hf⟩ := List.append_inj' split rfl
      cases hf
      exact last
    · rw [List.concat_eq_append, ← List.cons_append, ← List.append_assoc] at split
      exact h before f after (List.append_inj' split rfl).1

theorem along_of_forall_mem {R : E → Prop} {es : List E} (h : ∀ e ∈ es, R e) :
    Along (fun _ e => R e) es := by
  rintro before e after rfl
  exact h e (by simp)

/-- Two step conditions that agree at every step of an event list, wherever the
first held so far, hold along it together. -/
theorem along_iff_along_within {P C : List E → E → Prop} {es : List E}
    (exact_step : ∀ before e after, es = before ++ e :: after → Along P before →
      (P before e ↔ C before e)) : Along P es ↔ Along C es := by
  induction es using List.reverseRecOn with
  | nil => exact ⟨fun _ => along_nil C, fun _ => along_nil P⟩
  | append_singleton es e ih =>
    have earlier : Along P es ↔ Along C es :=
      ih fun before f after split => exact_step before f (after ++ [e]) (by simp [split])
    rw [along_concat, along_concat, ← earlier]
    exact and_congr_right fun h => exact_step es e [] rfl h

/-- Two step conditions that agree wherever the first held so far hold along the
same event lists. -/
theorem along_iff_along {P C : List E → E → Prop}
    (exact_step : ∀ before e, Along P before → (P before e ↔ C before e)) (es : List E) :
    Along P es ↔ Along C es :=
  along_iff_along_within fun before e _ _ => exact_step before e

theorem along_congr {P P' : List E → E → Prop} (same : ∀ before e, P before e ↔ P' before e)
    (es : List E) : Along P es ↔ Along P' es :=
  along_iff_along (fun before e _ => same before e) es

theorem throughout_nil {Q : List E → Prop} : Throughout Q [] ↔ Q [] := by
  constructor
  · exact fun h => h [] [] rfl
  · intro h before after split
    obtain ⟨rfl, _⟩ := List.append_eq_nil_iff.mp split.symm
    exact h

theorem throughout_concat {Q : List E → Prop} {es : List E} {e : E} :
    Throughout Q (es ++ [e]) ↔ Throughout Q es ∧ Q (es ++ [e]) := by
  constructor
  · intro h
    refine ⟨?_, h (es ++ [e]) [] (by simp)⟩
    intro before after split
    exact h before (after ++ [e]) (by simp [split])
  · rintro ⟨h, last⟩ before after split
    rcases List.eq_nil_or_concat after with rfl | ⟨after, g, rfl⟩
    · rw [List.append_nil] at split
      exact split ▸ last
    · rw [List.concat_eq_append, ← List.append_assoc] at split
      exact h before after (List.append_inj' split rfl).1

/-- The exact condition for a property that is lost only at single steps: it
holds throughout a run precisely when every step meets the step condition. -/
theorem throughout_iff_along {Q : List E → Prop} {P : List E → E → Prop} (initial : Q [])
    (exact_step : ∀ before e, Throughout Q before → (Q (before ++ [e]) ↔ P before e))
    (es : List E) : Throughout Q es ↔ Along P es := by
  induction es using List.reverseRecOn with
  | nil => exact ⟨fun _ => along_nil P, fun _ => throughout_nil.mpr initial⟩
  | append_singleton es e ih =>
    rw [throughout_concat, along_concat, ← ih]
    exact and_congr_right fun h => exact_step es e h

/-- A step function with undefined steps, continued on states that may already
be undefined. -/
def lift (step : S → E → Option S) : Option S → E → Option S
  | none, _ => none
  | some s, e => step s e

/-- A run of defined steps only, last step first to be undone. -/
theorem run_lift_concat {step : S → E → Option S} {s : Option S} {es : List E} {e : E} {u : S}
    (h : run (lift step) s (es ++ [e]) = some u) :
    ∃ t, run (lift step) s es = some t ∧ step t e = some u := by
  rw [run_concat] at h
  cases reached : run (lift step) s es with
  | none => rw [reached] at h; cases h
  | some t => exact ⟨t, rfl, by rw [reached] at h; exact h⟩

theorem run_lift_none (step : S → E → Option S) (es : List E) : run (lift step) none es = none := by
  induction es with
  | nil => rfl
  | cons e es ih => exact ih

/-- A run of defined steps only, cut in two. -/
theorem run_lift_append {step : S → E → Option S} {s : Option S} {es fs : List E} {u : S}
    (h : run (lift step) s (es ++ fs) = some u) :
    ∃ t, run (lift step) s es = some t ∧ run (lift step) (some t) fs = some u := by
  rw [run_append] at h
  cases reached : run (lift step) s es with
  | none =>
    rw [reached, run_lift_none] at h
    cases h
  | some t => exact ⟨t, rfl, by rw [reached] at h; exact h⟩

/-- What the defined steps of a run show. -/
def lifted (label : S → E → List F) : Option S → E → List F
  | none, _ => []
  | some s, e => label s e

/-- What the defined steps of some events preserve together with all that they have
shown. -/
theorem trace_lift_invariant_of_mem {step : S → E → Option S} {label : S → E → List F}
    {Inv : List F → S → Prop} {P : E → Prop}
    (preserves : ∀ shown s e t, P e → step s e = some t → Inv shown s →
      Inv (shown ++ label s e) t)
    {s : S} (initial : Inv [] s) {es : List E} (held : ∀ e ∈ es, P e) {t : S}
    (reached : run (lift step) (some s) es = some t) :
    Inv (trace (lift step) (lifted label) (some s) es) t := by
  induction es using List.reverseRecOn generalizing t with
  | nil =>
    cases reached
    exact initial
  | append_singleton es e ih =>
    obtain ⟨u, before, last⟩ := run_lift_concat reached
    rw [trace_concat, before]
    have now : P e := held e (List.mem_append_right _ List.mem_cons_self)
    have earlier : ∀ f ∈ es, P f := fun f mem => held f (List.mem_append_left _ mem)
    exact preserves _ u e t now last (ih earlier before)

/-- What defined steps preserve together with all that they have shown. -/
theorem trace_lift_invariant {step : S → E → Option S} {label : S → E → List F}
    {Inv : List F → S → Prop}
    (preserves : ∀ shown s e t, step s e = some t → Inv shown s → Inv (shown ++ label s e) t)
    {s : S} (initial : Inv [] s) {es : List E} {t : S}
    (reached : run (lift step) (some s) es = some t) :
    Inv (trace (lift step) (lifted label) (some s) es) t := by
  have kept : ∀ shown s e t, True → step s e = some t → Inv shown s →
      Inv (shown ++ label s e) t := fun shown s e t _ => preserves shown s e t
  exact trace_lift_invariant_of_mem kept initial (fun _ _ => trivial) reached

/-- What defined steps preserve under a condition that holds along the run is an
invariant of it. -/
theorem run_lift_invariant_along {step : S → E → Option S} {Inv : S → Prop}
    {P : List E → E → Prop} {s : S}
    (preserves : ∀ before e u t, run (lift step) (some s) before = some u → P before e →
      step u e = some t → Inv u → Inv t) (initial : Inv s)
    {es : List E} (held : Along P es) {t : S} (reached : run (lift step) (some s) es = some t) :
    Inv t := by
  induction es using List.reverseRecOn generalizing t with
  | nil =>
    cases reached
    exact initial
  | append_singleton es e ih =>
    obtain ⟨u, before, last⟩ := run_lift_concat reached
    obtain ⟨earlier, now⟩ := along_concat.mp held
    exact preserves es e u t before now last (ih earlier before)

/-- An invariant of defined steps is an invariant of defined runs. -/
theorem run_lift_invariant {step : S → E → Option S} {Inv : S → Prop}
    (preserves : ∀ s e t, step s e = some t → Inv s → Inv t) {s : S} (initial : Inv s)
    {es : List E} {t : S} (reached : run (lift step) (some s) es = some t) : Inv t := by
  have unconditional : Along (fun _ _ => True) es := along_of_forall_mem fun _ _ => trivial
  exact run_lift_invariant_along (fun _ e u t _ _ => preserves u e t) initial unconditional reached

end EventRuns
