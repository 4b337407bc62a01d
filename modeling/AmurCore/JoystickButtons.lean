import AmurCore.JoystickSessions

/-!
# The buttons that the joystick dialog shows

The dialog writes the numbers of the pressed buttons into one text. The text can be
read back, though two-digit numbers follow each other without a space. What it shows
is what was last reported of every button, by whatever joystick.
-/

namespace JoystickButtons

open EventRuns JoystickInput JoystickDialogModel JoystickSessions
open JoystickAdapter (Signal)

/-! ### Reading a text back -/

section Codes
variable {α β : Type} {code : α → List β} {P : α → Prop}

/-- A sequence is determined by its code words in a row when none of them is empty
or begins another. -/
theorem flatMap_injective (nonempty : ∀ a, P a → code a ≠ [])
    (free : ∀ a b, P a → P b → code a <+: code b → a = b) {l r : List α}
    (left : ∀ a ∈ l, P a) (right : ∀ a ∈ r, P a) (same : l.flatMap code = r.flatMap code) :
    l = r := by
  induction l generalizing r with
  | nil =>
    cases r with
    | nil => rfl
    | cons b r =>
      rw [List.flatMap_nil, List.flatMap_cons] at same
      have empty := (List.append_eq_nil_iff.mp same.symm).1
      exact absurd empty (nonempty b (right b List.mem_cons_self))
  | cons a l ih =>
    cases r with
    | nil =>
      rw [List.flatMap_nil, List.flatMap_cons] at same
      have empty := (List.append_eq_nil_iff.mp same).1
      exact absurd empty (nonempty a (left a List.mem_cons_self))
    | cons b r =>
      rw [List.flatMap_cons, List.flatMap_cons] at same
      have pa := left a List.mem_cons_self
      have pb := right b List.mem_cons_self
      have first : a = b := by
        rcases List.append_eq_append_iff.mp same with ⟨rest, longer, -⟩ | ⟨rest, longer, -⟩
        · exact free a b pa pb ⟨rest, longer.symm⟩
        · exact (free b a pb pa ⟨rest, longer.symm⟩).symm
      rw [first, List.append_cancel_left_eq] at same
      rw [first, ih (fun c mem => left c (List.mem_cons_of_mem _ mem))
        (fun c mem => right c (List.mem_cons_of_mem _ mem)) same]

end Codes

/-- The numbers of the pressed buttons. -/
def pressed (buttonVector : List Bool) : List Nat :=
  (buttonVector.zipIdx.filter Prod.fst).map Prod.snd

theorem mem_pressed {v : List Bool} {i : Nat} : i ∈ pressed v ↔ v[i]? = some true := by
  rw [pressed, List.mem_map]
  constructor
  · rintro ⟨⟨state, j⟩, mem, rfl⟩
    obtain ⟨listed, on⟩ := List.mem_filter.mp mem
    rw [List.mk_mem_zipIdx_iff_getElem?] at listed
    simp only at on ⊢
    rw [listed, on]
  · intro here
    refine ⟨(true, i), List.mem_filter.mpr ⟨?_, rfl⟩, rfl⟩
    exact List.mk_mem_zipIdx_iff_getElem?.mpr here

theorem buttonTest_toList (v : List Bool) :
    (buttonTest v).toList = (pressed v).flatMap fun i => (buttonText i).toList := by
  have joined : ∀ (l : List (Bool × Nat)) (text : String),
      (l.foldl (fun text button => text ++ buttonText button.2) text).toList
        = text.toList ++ (l.map Prod.snd).flatMap fun i => (buttonText i).toList := by
    intro l
    induction l with
    | nil => exact fun text => (List.append_nil _).symm
    | cons button l ih =>
      intro text
      rw [List.foldl_cons, ih, String.toList_append, List.map_cons, List.flatMap_cons,
        List.append_assoc]
  exact joined _ ""

/-- The first two characters of a button's text are its two digits. -/
theorem buttonText_digits : ∀ i < maxJoystickButtons,
    ((buttonText i).toList.take 2).map (fun c => c.toNat - 48) = [i / 10, i % 10] := by
  decide

theorem buttonText_length : ∀ i < maxJoystickButtons, 2 ≤ (buttonText i).toList.length := by
  decide

theorem buttonText_free (i j : Nat) (hi : i < maxJoystickButtons) (hj : j < maxJoystickButtons)
    (begins : (buttonText i).toList <+: (buttonText j).toList) : i = j := by
  obtain ⟨rest, longer⟩ := begins
  have same : (buttonText j).toList.take 2 = (buttonText i).toList.take 2 := by
    rw [← longer]
    exact List.take_append_of_le_length (buttonText_length i hi)
  have digits := buttonText_digits j hj
  rw [same, buttonText_digits i hi, List.cons.injEq, List.cons.injEq] at digits
  omega

/-- The text shows which buttons are pressed. -/
theorem buttonTest_inj {v w : List Bool} (hv : v.length = maxJoystickButtons)
    (hw : w.length = maxJoystickButtons) : buttonTest v = buttonTest w ↔ v = w := by
  refine ⟨fun same => ?_, fun same => by rw [same]⟩
  have inside : ∀ {u : List Bool}, u.length = maxJoystickButtons →
      ∀ i ∈ pressed u, i < maxJoystickButtons := by
    intro u length i mem
    obtain ⟨bound, -⟩ := List.getElem?_eq_some_iff.mp (mem_pressed.mp mem)
    omega
  have nonempty : ∀ i, i < maxJoystickButtons → (buttonText i).toList ≠ [] := by
    intro i hi empty
    have length := buttonText_length i hi
    rw [empty] at length
    exact absurd length (by decide)
  have numbers : pressed v = pressed w := by
    refine flatMap_injective nonempty buttonText_free (inside hv) (inside hw) ?_
    rw [← buttonTest_toList, same, buttonTest_toList]
  refine List.ext_getElem (hv.trans hw.symm) ?_
  intro i left right
  have iff : v[i]? = some true ↔ w[i]? = some true := by
    rw [← mem_pressed, ← mem_pressed, numbers]
  rw [List.getElem?_eq_getElem left, List.getElem?_eq_getElem right, Option.some.injEq,
    Option.some.injEq] at iff
  exact Bool.eq_iff_iff.mpr iff

/-- One button with two digits, and the buttons of its digits. -/
theorem twelve_one_two :
    buttonTest ((List.range maxJoystickButtons).map fun i => i = 12)
        = buttonTest ((List.range maxJoystickButtons).map fun i => i = 1 ∨ i = 2) ↔
      ((List.range maxJoystickButtons).map fun i => decide (i = 12))
        = (List.range maxJoystickButtons).map fun i => decide (i = 1 ∨ i = 2) :=
  buttonTest_inj rfl rfl

/-! ### What was reported -/

section Runs
variable {s t : State} {e : Event} {devices : List Device} {events : List Event}

/-- The signal whose slot a step calls. -/
def called (s : State) : Event → List Signal
  | .call => s.calls.head?.toList
  | _ => []

/-- What a signal reports of a button. -/
def reportOf (i : Nat) : Signal → Option Bool
  | .buttonChanged id state => if id = i then some state else none
  | _ => none

/-- The last report of a button. -/
def lastReport (i : Nat) (signals : List Signal) : Bool := (latest (reportOf i) signals).getD false

/-- The dialog remembers the last report of every button. -/
structure Remembers (signals : List Signal) (s : State) : Prop where
  length : s.buttonVector.length = maxJoystickButtons
  reports : ∀ i < maxJoystickButtons, s.buttonVector[i]? = some (lastReport i signals)

theorem Remembers.congr {signals : List Signal} (remembers : Remembers signals s)
    (same : t.buttonVector = s.buttonVector) : Remembers signals t := by
  obtain ⟨length, reports⟩ := remembers
  rw [← same] at length reports
  exact ⟨length, reports⟩

theorem lastReport_concat (i : Nat) (signals : List Signal) (signal : Signal) :
    lastReport i (signals ++ [signal]) = (reportOf i signal).getD (lastReport i signals) := by
  rw [lastReport, latest_concat]
  cases reportOf i signal <;> rfl

/-- A button's slot writes the report, and shows all of them. -/
theorem slot_button {id : Int} {state : Bool} {signals : List Signal}
    (h : slot (.buttonChanged id state) s = some t) (remembers : Remembers signals s) :
    Remembers (signals ++ [.buttonChanged id state]) t ∧
      t.labels.joystickButtonsTest = buttonTest t.buttonVector := by
  obtain ⟨length, reports⟩ := remembers
  rw [slot, writeButton] at h
  by_cases inside : 0 ≤ id ∧ id.toNat < s.buttonVector.length
  · rw [if_pos inside] at h
    cases h
    refine ⟨⟨by rw [List.length_set, length], ?_⟩, rfl⟩
    intro i hi
    rw [lastReport_concat]
    by_cases same : id.toNat = i
    · have at_i : id = i := by omega
      rw [← same, List.getElem?_set_self inside.2, same, reportOf, if_pos at_i]
      rfl
    · have other : id ≠ i := by omega
      rw [List.getElem?_set_ne same, reportOf, if_neg other]
      exact reports i hi
  · rw [if_neg inside] at h
    cases h

theorem slot_other {signal : Signal} {signals : List Signal} (h : slot signal s = some t)
    (remembers : Remembers signals s) : Remembers (signals ++ [signal]) t := by
  have unreported : (∀ i, reportOf i signal = none) → t.buttonVector = s.buttonVector →
      Remembers (signals ++ [signal]) t := by
    intro none_reported same
    obtain ⟨length, reports⟩ := remembers.congr same
    refine ⟨length, fun i hi => ?_⟩
    rw [lastReport_concat, none_reported i]
    exact reports i hi
  cases signal with
  | buttonChanged id state => exact (slot_button h remembers).1
  | axisChanged id state =>
    cases h
    exact unreported (fun _ => rfl) rfl
  | hatChanged id state =>
    cases h
    exact unreported (fun _ => rfl) rfl
  | ballChanged id stateX stateY =>
    cases h
    exact unreported (fun _ => rfl) rfl

/-- Neither connecting nor disconnecting forgets a report. -/
theorem step_buttonVector (h : step s e = some t) (other : e ≠ .call) :
    t.buttonVector = s.buttonVector := by
  cases e with
  | call => exact absurd rfl other
  | plug devices =>
    cases h
    rfl
  | select i =>
    simp only [step] at h
    split at h
    · cases h
      rfl
    · cases h
  | clickConnect opens =>
    simp only [step] at h
    split at h
    · cases h
      exact (connectToJoystick_keeps opens s).1.buttonVector
    · cases h
  | clickDisconnect =>
    simp only [step] at h
    split at h
    · cases h
      exact (disconnectFromJoystick_keeps s).1.buttonVector
    · cases h
  | clickRescan =>
    simp only [step] at h
    split at h
    · cases h
      rfl
    · cases h
  | accept =>
    simp only [step, accepted] at h
    split at h
    · cases h
    · cases h
      exact (disconnectFromJoystick_keeps _).1.buttonVector
  | reject =>
    cases h
    exact (disconnectFromJoystick_keeps s).1.buttonVector
  | emit signal =>
    cases h
    rfl

theorem called_other (other : e ≠ .call) : called s e = [] := by
  cases e with
  | call => exact absurd rfl other
  | _ => rfl

theorem step_call (h : step s .call = some t) : ∃ signal calls,
    called s .call = [signal] ∧ slot signal { s with calls := calls } = some t := by
  simp only [step] at h
  split at h
  · cases h
  · rename_i signal calls posted
    exact ⟨signal, calls, by rw [called, posted]; rfl, h⟩

theorem step_remembers {signals : List Signal} (h : step s e = some t)
    (remembers : Remembers signals s) : Remembers (signals ++ called s e) t := by
  by_cases call : e = .call
  · rw [call] at h ⊢
    obtain ⟨signal, calls, is_called, result⟩ := step_call h
    rw [is_called]
    have unchanged : Remembers signals { s with calls := calls } := remembers.congr rfl
    exact slot_other result unchanged
  · rw [called_other call, List.append_nil]
    exact remembers.congr (step_buttonVector h call)

theorem start_remembers (devices : List Device) : Remembers [] (start devices) := by
  have unpressed : (start devices).buttonVector = List.replicate maxJoystickButtons false :=
    (setDialog_keeps true _).1.buttonVector
  constructor
  · rw [unpressed, List.length_replicate]
  · intro i hi
    rw [unpressed, List.getElem?_replicate, if_pos hi]
    rfl

/-- Whenever a button is reported, the text that the dialog then shows is the one
for exactly those buttons of which a press was the last report since the program was
started, of whatever joystick and in whatever opening of the dialog. -/
theorem buttons_shown (reached : Reaches devices (events ++ [.call]) s) {id : Int} {state : Bool}
    (button : (trace (lift step) (lifted called) (some (start devices))
      (events ++ [.call])).getLast? = some (.buttonChanged id state))
    {v : List Bool} (length : v.length = maxJoystickButtons) :
    s.labels.joystickButtonsTest = buttonTest v ↔ ∀ i < maxJoystickButtons,
      v[i]? = some (lastReport i (trace (lift step) (lifted called) (some (start devices))
        (events ++ [.call]))) := by
  have kept : ∀ (signals : List Signal) (s : State) (e : Event) (t : State), step s e = some t →
      Remembers signals s → Remembers (signals ++ called s e) t :=
    fun signals s e t h remembers => step_remembers h remembers
  obtain ⟨u, before, h⟩ := run_lift_concat reached
  have earlier := trace_lift_invariant kept (start_remembers devices) before
  obtain ⟨signal, calls, is_called, result⟩ := step_call h
  have whole : trace (lift step) (lifted called) (some (start devices)) (events ++ [.call])
      = trace (lift step) (lifted called) (some (start devices)) events ++ [signal] := by
    have at_u : run (lift step) (some (start devices)) events = some u := before
    rw [trace_concat, at_u]
    exact congrArg _ is_called
  rw [whole, List.getLast?_concat, Option.some.injEq] at button
  rw [button] at result
  have unchanged : Remembers (trace (lift step) (lifted called) (some (start devices)) events)
      { u with calls := calls } := earlier.congr rfl
  obtain ⟨⟨length', reports⟩, shown⟩ := slot_button result unchanged
  rw [whole, button, shown, buttonTest_inj length' length]
  constructor
  · intro same i hi
    rw [← same]
    exact reports i hi
  · intro all
    refine List.ext_getElem? fun i => ?_
    by_cases hi : i < maxJoystickButtons
    · rw [reports i hi, all i hi]
    · rw [List.getElem?_eq_none (by omega), List.getElem?_eq_none (by omega)]

/-- A button is held while its joystick is disconnected, and shown as pressed when
another one is used. -/
def heldButton : List Event :=
  [.clickConnect true, .emit (.buttonChanged 3 true), .call, .clickDisconnect,
    .clickConnect true, .emit (.buttonChanged 4 true)]

theorem heldButton_shown : ∃ s, Reaches [pad] (heldButton ++ [.call]) s ∧
    (s.labels.joystickButtonsTest
        = buttonTest ((List.range maxJoystickButtons).map fun i => i = 3 ∨ i = 4) ↔
      ∀ i < maxJoystickButtons,
        ((List.range maxJoystickButtons).map fun i => decide (i = 3 ∨ i = 4))[i]?
          = some (lastReport i (trace (lift step) (lifted called) (some (start [pad]))
            (heldButton ++ [.call])))) := by
  have reached : Reaches [pad] (heldButton ++ [.call]) _ := rfl
  exact ⟨_, reached, buttons_shown reached rfl rfl⟩

end Runs

end JoystickButtons
