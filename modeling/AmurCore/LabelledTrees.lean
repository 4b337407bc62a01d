import Mathlib.Data.List.Basic

/-!
# Labelled trees

Trees with values at their leaves and names on their edges. A place is the list
of child indexes on the way down from the root, and what stands at a place is
told apart from what lies below it. So setting the value of a leaf is seen at
that place alone, and whatever depends only on names and kinds does not see it.
-/

namespace LabelledTrees

universe u v w x
variable {K : Type u} {N : Type v} {V : Type w} {T : Type x}

inductive Tree (K : Type u) (N : Type v) (V : Type w) where
  | leaf (value : V)
  | node (kind : K) (children : List (N × Tree K N V))

/-- What stands at a place: a value, or a node with the names of its children. -/
inductive Entry (K : Type u) (N : Type v) (V : Type w) where
  | leaf (value : V)
  | node (kind : K) (names : List N)
  deriving DecidableEq

abbrev Place := List Nat

/-! ### Reading -/

def Entry.names : Entry K N V → List N
  | .leaf _ => []
  | .node _ names => names

def Entry.map (f : V → T) : Entry K N V → Entry K N T
  | .leaf value => .leaf (f value)
  | .node kind names => .node kind names

/-- A leaf gets the value, a node stays. -/
def Entry.setLeaf (value : V) : Entry K N V → Entry K N V
  | .leaf _ => .leaf value
  | .node kind names => .node kind names

namespace Tree

def entry : Tree K N V → Entry K N V
  | .leaf value => .leaf value
  | .node kind children => .node kind (children.map Prod.fst)

def child (t : Tree K N V) (i : Nat) : Option (Tree K N V) :=
  match t with
  | .leaf _ => none
  | .node _ children => children[i]?.map Prod.snd

/-- What stands at a place, if the tree has it. -/
def at? : Tree K N V → Place → Option (Entry K N V)
  | t, [] => some t.entry
  | t, i :: p =>
    match t.child i with
    | none => none
    | some c => c.at? p

/-- Set the value of the leaf at a place, if there is one. -/
def setLeaf : Tree K N V → Place → V → Tree K N V
  | .leaf _, [], value => .leaf value
  | .leaf old, _ :: _, _ => .leaf old
  | .node kind children, [], _ => .node kind children
  | .node kind children, i :: p, value =>
    .node kind (children.modify i fun c => (c.1, c.2.setLeaf p value))

theorem at?_nil (t : Tree K N V) : t.at? [] = some t.entry := rfl

theorem at?_cons (t : Tree K N V) (i : Nat) (p : Place) :
    t.at? (i :: p) = (t.child i).bind fun c => c.at? p := by
  rw [at?]
  cases t.child i <;> rfl

theorem child_isSome (t : Tree K N V) (i : Nat) :
    (t.child i).isSome ↔ i < t.entry.names.length := by
  cases t with
  | leaf value => simp [child, entry, Entry.names]
  | node kind children => simp [child, entry, Entry.names]

/-! ### Setting a leaf -/

theorem map_fst_modify (children : List (N × Tree K N V)) (i : Nat)
    (f : Tree K N V → Tree K N V) :
    (children.modify i fun c => (c.1, f c.2)).map Prod.fst = children.map Prod.fst := by
  apply List.ext_getElem?
  intro j
  rw [List.getElem?_map, List.getElem?_map, List.getElem?_modify]
  cases children[j]? with
  | none => rfl
  | some c =>
    by_cases same : i = j
    · simp [same]
    · simp [same]

theorem entry_setLeaf (t : Tree K N V) (i : Nat) (p : Place) (value : V) :
    (t.setLeaf (i :: p) value).entry = t.entry := by
  cases t with
  | leaf old => rfl
  | node kind children =>
    rw [setLeaf]
    exact congrArg (Entry.node kind) (map_fst_modify children i fun c => c.setLeaf p value)

theorem child_setLeaf (t : Tree K N V) (i j : Nat) (p : Place) (value : V) :
    (t.setLeaf (i :: p) value).child j =
      (t.child j).map fun c => if i = j then c.setLeaf p value else c := by
  cases t with
  | leaf old => rfl
  | node kind children =>
    rw [setLeaf, child, child, List.getElem?_modify]
    cases children[j]? with
    | none => rfl
    | some c =>
      by_cases same : i = j
      · simp [same]
      · simp [same]

/-- Setting a leaf is seen at its own place only. -/
theorem at?_setLeaf (t : Tree K N V) (p q : Place) (value : V) :
    (t.setLeaf p value).at? q =
      if q = p then (t.at? p).map (Entry.setLeaf value) else t.at? q := by
  induction p generalizing t q with
  | nil =>
    cases t with
    | leaf old => cases q <;> rfl
    | node kind children => cases q <;> rfl
  | cons i p ih =>
    cases q with
    | nil =>
      rw [at?_nil, entry_setLeaf, if_neg (by simp)]
      rfl
    | cons j q =>
      rw [at?_cons, child_setLeaf, at?_cons, at?_cons]
      by_cases same : i = j
      · subst same
        cases t.child i with
        | none => simp
        | some c => simpa using ih c q
      · have elsewhere : ¬j :: q = i :: p := fun h => same (List.cons.inj h).1.symm
        rw [if_neg elsewhere]
        cases t.child j with
        | none => rfl
        | some c => simp [same]

theorem at?_setLeaf_self {t : Tree K N V} {p : Place} {old : V} (h : t.at? p = some (.leaf old))
    (value : V) : (t.setLeaf p value).at? p = some (.leaf value) := by
  rw [at?_setLeaf, if_pos rfl, h]
  rfl

theorem at?_setLeaf_of_ne (t : Tree K N V) {p q : Place} (other : q ≠ p) (value : V) :
    (t.setLeaf p value).at? q = t.at? q := by
  rw [at?_setLeaf, if_neg other]

/-! ### Outlines -/

/-- The trees have the same places with the same names and kinds, and their
values are of the same sort. -/
def SameOutline (sort : V → T) (t t' : Tree K N V) : Prop :=
  ∀ p, (t.at? p).map (Entry.map sort) = (t'.at? p).map (Entry.map sort)

section Outlines
variable {sort : V → T} {t t' : Tree K N V}

/-- A value of the same sort does not change the outline. -/
theorem setLeaf_sameOutline {p : Place} {old value : V} (h : t.at? p = some (.leaf old))
    (same : sort old = sort value) : SameOutline sort t (t.setLeaf p value) := by
  intro q
  by_cases here : q = p
  · subst here
    rw [at?_setLeaf_self h, h]
    simp [Entry.map, same]
  · rw [at?_setLeaf_of_ne t here]

theorem names_map (e : Entry K N V) : (e.map sort).names = e.names := by
  cases e <;> rfl

theorem SameOutline.names (same : SameOutline sort t t') : t.entry.names = t'.entry.names := by
  have root : t.entry.map sort = t'.entry.map sort := Option.some.inj (same [])
  have kept : (t.entry.map sort).names = t.entry.names := names_map t.entry
  rw [← kept, root, names_map]

theorem SameOutline.child (same : SameOutline sort t t') {i : Nat} {c : Tree K N V}
    (h : t.child i = some c) : ∃ c', t'.child i = some c' ∧ SameOutline sort c c' := by
  have there : (t'.child i).isSome := by
    rw [child_isSome, ← same.names, ← child_isSome, h]
    rfl
  obtain ⟨c', h'⟩ := Option.isSome_iff_exists.mp there
  refine ⟨c', h', fun p => ?_⟩
  have below := same (i :: p)
  rw [at?_cons, at?_cons, h, h'] at below
  exact below

/-! ### Finding a place by names -/

/-- Follow the names from the root, each to the first child of that name. -/
def locate [DecidableEq N] : Tree K N V → List N → Option Place
  | _, [] => some []
  | t, n :: ns =>
    match t.entry.names.idxOf? n with
    | none => none
    | some i =>
      match t.child i with
      | none => none
      | some c => (c.locate ns).map (i :: ·)

theorem locate_cons [DecidableEq N] (t : Tree K N V) (n : N) (ns : List N) :
    t.locate (n :: ns) = (t.entry.names.idxOf? n).bind fun i =>
      (t.child i).bind fun c => (c.locate ns).map (i :: ·) := by
  rw [locate]
  cases t.entry.names.idxOf? n with
  | none => rfl
  | some i =>
    dsimp only [Option.bind_some]
    cases t.child i <;> rfl

/-- The place that is found exists. -/
theorem locate_found [DecidableEq N] {ns : List N} {p : Place} (h : t.locate ns = some p) :
    ∃ e, t.at? p = some e := by
  induction ns generalizing t p with
  | nil =>
    cases h
    exact ⟨t.entry, rfl⟩
  | cons n ns ih =>
    rw [locate_cons] at h
    obtain ⟨i, -, h⟩ := Option.bind_eq_some_iff.mp h
    obtain ⟨c, below, h⟩ := Option.bind_eq_some_iff.mp h
    obtain ⟨q, located, rfl⟩ := Option.map_eq_some_iff.mp h
    obtain ⟨e, found⟩ := ih located
    refine ⟨e, ?_⟩
    rw [at?_cons, below]
    exact found

/-- Names lead to the same place in trees of the same outline. -/
theorem SameOutline.locate [DecidableEq N] (same : SameOutline sort t t') (ns : List N) :
    t.locate ns = t'.locate ns := by
  induction ns generalizing t t' with
  | nil => rfl
  | cons n ns ih =>
    rw [locate_cons, locate_cons, same.names]
    cases t'.entry.names.idxOf? n with
    | none => rfl
    | some i =>
      cases h : t.child i with
      | none =>
        have missing : t'.child i = none := by
          rw [← Option.not_isSome_iff_eq_none, child_isSome, ← same.names, ← child_isSome, h]
          exact Bool.false_ne_true
        simp only [Option.bind_some, Option.bind_none, missing, h]
      | some c =>
        obtain ⟨c', h', below⟩ := same.child h
        simp only [Option.bind_some, h, h', ih below]

end Outlines

end Tree

end LabelledTrees
