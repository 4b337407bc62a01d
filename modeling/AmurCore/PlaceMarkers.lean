import Mathlib.Data.List.Basic

/-!
# Place markers in texts

`QString::arg` on lists of characters. A place marker is a `%`, an `L` that may
follow it, and one or two digits; `arg` replaces those of the lowest number, the
ones with an `L` by the value as the locale writes it. A character that is no part
of any marker splits a text into two that are treated apart. Which characters are
digits is a parameter.
-/

namespace PlaceMarkers

/-- What is found at a `%`: whether an `L` follows it, a number, and how many
characters were read. -/
structure Marker where
  locale : Bool
  number : Nat
  length : Nat
  deriving DecidableEq

/-- A value, and the same as the locale writes it. -/
structure Value where
  plain : List Char
  locale : List Char

def Value.at (value : Value) (marker : Marker) : List Char :=
  if marker.locale then value.locale else value.plain

variable (digitValue : Char → Option Nat)

/-- One or two digits, after the `%` and an `L` that was read or not. -/
def markerDigits (locale : Bool) : List Char → Option Marker
  | [] => none
  | c :: rest =>
    match digitValue c with
    | none => none
    | some digit =>
      match rest.head?.bind digitValue with
      | none => some ⟨locale, digit, locale.toNat + 2⟩
      | some digit' => some ⟨locale, 10 * digit + digit', locale.toNat + 3⟩

/-- The place marker that a text begins with. -/
def markerAt : List Char → Option Marker
  | [] => none
  | c :: rest =>
    if c = '%' then
      if rest.head? = some 'L' then markerDigits digitValue true rest.tail
      else markerDigits digitValue false rest
    else none

/-- The numbers of the place markers, once some characters are skipped. -/
def numbers : Nat → List Char → List Nat
  | _, [] => []
  | skip + 1, _ :: rest => numbers skip rest
  | 0, c :: rest =>
    match markerAt digitValue (c :: rest) with
    | none => numbers 0 rest
    | some marker => marker.number :: numbers (marker.length - 1) rest

/-- The text with the place markers of one number replaced. -/
def replace (number : Nat) (value : Value) : Nat → List Char → List Char
  | _, [] => []
  | skip + 1, _ :: rest => replace number value skip rest
  | 0, c :: rest =>
    match markerAt digitValue (c :: rest) with
    | none => c :: replace number value 0 rest
    | some marker =>
      (if marker.number = number then value.at marker else (c :: rest).take marker.length) ++
        replace number value (marker.length - 1) rest

/-- `QString::arg`; a text without place markers is left as it is. -/
def arg (value : Value) (text : List Char) : List Char :=
  match (numbers digitValue 0 text).min? with
  | none => text
  | some number => replace digitValue number value 0 text

/-- The character can be no part of a place marker. -/
structure Break (c : Char) : Prop where
  percent : c ≠ '%'
  locale : c ≠ 'L'
  digit : digitValue c = none

/-! ### Markers and breaks -/

variable {digitValue} {c : Char} {l r : List Char} {marker : Marker}

theorem markerDigits_length {locale : Bool}
    (h : markerDigits digitValue locale l = some marker) :
    1 < marker.length ∧ marker.length ≤ locale.toNat + 1 + l.length := by
  cases l with
  | nil => cases h
  | cons c rest =>
    rw [markerDigits] at h
    split at h
    · cases h
    · split at h
      · cases h
        simp only [List.length_cons]
        omega
      · rename_i second
        cases h
        cases rest with
        | nil => cases second
        | cons d rest =>
          simp only [List.length_cons]
          omega

theorem markerAt_length (h : markerAt digitValue l = some marker) :
    1 < marker.length ∧ marker.length ≤ l.length := by
  cases l with
  | nil => cases h
  | cons c rest =>
    rw [markerAt] at h
    split at h
    · split at h
      · rename_i locale
        have := markerDigits_length h
        cases rest with
        | nil => cases locale
        | cons d rest =>
          simp only [List.tail_cons, List.length_cons, Bool.toNat_true] at this ⊢
          omega
      · have := markerDigits_length h
        simp only [List.length_cons, Bool.toNat_false] at this ⊢
        omega
    · cases h

theorem markerAt_percent (h : markerAt digitValue l = some marker) : ∃ rest, l = '%' :: rest := by
  cases l with
  | nil => cases h
  | cons c rest =>
    rw [markerAt] at h
    split at h
    · rename_i percent
      exact ⟨rest, by rw [percent]⟩
    · cases h

theorem markerDigits_break (b : Break digitValue c) (locale : Bool) (l r : List Char) :
    markerDigits digitValue locale (l ++ c :: r) = markerDigits digitValue locale l := by
  cases l with
  | nil => simp [markerDigits, b.digit]
  | cons d rest =>
    cases rest with
    | nil => simp [markerDigits, b.digit]
    | cons e rest => rfl

theorem markerAt_break (b : Break digitValue c) (l r : List Char) :
    markerAt digitValue (l ++ c :: r) = markerAt digitValue l := by
  cases l with
  | nil => exact if_neg b.percent
  | cons d rest =>
    cases rest with
    | nil =>
      have locale : ¬(c = 'L') := b.locale
      simp [markerAt, locale, markerDigits, b.digit]
    | cons e rest =>
      have tail : markerDigits digitValue true (rest ++ c :: r)
          = markerDigits digitValue true rest := markerDigits_break b true rest r
      have whole : markerDigits digitValue false (e :: (rest ++ c :: r))
          = markerDigits digitValue false (e :: rest) := markerDigits_break b false (e :: rest) r
      simp only [markerAt, List.cons_append, List.head?_cons, List.tail_cons, tail, whole]
      rfl

/-! ### Numbers -/

theorem numbers_skip (skip : Nat) (l : List Char) :
    numbers digitValue skip l = numbers digitValue 0 (l.drop skip) := by
  induction l generalizing skip with
  | nil => cases skip <;> rfl
  | cons c l ih =>
    cases skip with
    | zero => rfl
    | succ skip => exact ih skip

theorem numbers_none (h : markerAt digitValue (c :: l) = none) :
    numbers digitValue 0 (c :: l) = numbers digitValue 0 l := by
  rw [numbers, h]

theorem numbers_some (h : markerAt digitValue (c :: l) = some marker) :
    numbers digitValue 0 (c :: l) = marker.number :: numbers digitValue (marker.length - 1) l := by
  rw [numbers, h]

/-- A break splits the place markers of a text. -/
theorem numbers_break (b : Break digitValue c) (l r : List Char) {skip : Nat}
    (inside : skip ≤ l.length) :
    numbers digitValue skip (l ++ c :: r)
      = numbers digitValue skip l ++ numbers digitValue 0 r := by
  induction l generalizing skip with
  | nil =>
    have no_marker : markerAt digitValue (c :: r) = none := markerAt_break b [] r
    rw [Nat.le_zero.mp inside, List.nil_append, numbers_none no_marker]
    rfl
  | cons d l ih =>
    cases skip with
    | succ skip => exact ih (Nat.le_of_succ_le_succ inside)
    | zero =>
      have same : markerAt digitValue (d :: (l ++ c :: r)) = markerAt digitValue (d :: l) :=
        markerAt_break b (d :: l) r
      rw [List.cons_append]
      cases h : markerAt digitValue (d :: l) with
      | none =>
        rw [numbers_none h, numbers_none (same.trans h)]
        exact ih (Nat.zero_le _)
      | some marker =>
        have bound := (markerAt_length h).2
        rw [List.length_cons] at bound
        rw [numbers_some h, numbers_some (same.trans h), ih (by omega), List.cons_append]

/-! ### Replacing -/

section Replace
variable {number : Nat} {value : Value}

theorem replace_none (h : markerAt digitValue (c :: l) = none) :
    replace digitValue number value 0 (c :: l) = c :: replace digitValue number value 0 l := by
  rw [replace, h]

theorem replace_some (h : markerAt digitValue (c :: l) = some marker) :
    replace digitValue number value 0 (c :: l)
      = (if marker.number = number then value.at marker else (c :: l).take marker.length) ++
        replace digitValue number value (marker.length - 1) l := by
  rw [replace, h]

/-- A break splits the replacing in a text. -/
theorem replace_break (b : Break digitValue c) (l r : List Char) {skip : Nat}
    (inside : skip ≤ l.length) :
    replace digitValue number value skip (l ++ c :: r)
      = replace digitValue number value skip l ++ c :: replace digitValue number value 0 r := by
  induction l generalizing skip with
  | nil =>
    have no_marker : markerAt digitValue (c :: r) = none := markerAt_break b [] r
    rw [Nat.le_zero.mp inside, List.nil_append, replace_none no_marker]
    rfl
  | cons d l ih =>
    cases skip with
    | succ skip => exact ih (Nat.le_of_succ_le_succ inside)
    | zero =>
      have same : markerAt digitValue (d :: (l ++ c :: r)) = markerAt digitValue (d :: l) :=
        markerAt_break b (d :: l) r
      rw [List.cons_append]
      cases h : markerAt digitValue (d :: l) with
      | none =>
        rw [replace_none h, replace_none (same.trans h), ih (Nat.zero_le _)]
        rfl
      | some marker =>
        have bound := (markerAt_length h).2
        have taken : (d :: (l ++ c :: r)).take marker.length = (d :: l).take marker.length := by
          rw [← List.cons_append]
          exact List.take_append_of_le_length bound
        rw [List.length_cons] at bound
        rw [replace_some h, replace_some (same.trans h), ih (by omega), taken, List.append_assoc]

theorem take_drop_marker (h : markerAt digitValue (c :: l) = some marker) :
    (c :: l).take marker.length ++ l.drop (marker.length - 1) = c :: l := by
  obtain ⟨n, length⟩ : ∃ n, marker.length = n + 1 :=
    ⟨marker.length - 1, by have := (markerAt_length h).1; omega⟩
  rw [length, Nat.add_sub_cancel]
  exact List.take_append_drop (n + 1) (c :: l)

/-- Without place markers of the number nothing is replaced. -/
theorem replace_absent {skip : Nat} (absent : number ∉ numbers digitValue skip l) :
    replace digitValue number value skip l = l.drop skip := by
  induction l generalizing skip with
  | nil => cases skip <;> rfl
  | cons c l ih =>
    cases skip with
    | succ skip => exact ih absent
    | zero =>
      cases h : markerAt digitValue (c :: l) with
      | none =>
        rw [numbers_none h] at absent
        rw [replace_none h, ih absent]
        rfl
      | some marker =>
        rw [numbers_some h, List.mem_cons, not_or] at absent
        rw [replace_some h, if_neg (Ne.symm absent.1), ih absent.2]
        exact take_drop_marker h

theorem count_percent_marker (h : markerAt digitValue (c :: l) = some marker) :
    1 + (l.drop (marker.length - 1)).count '%' ≤ (c :: l).count '%' := by
  obtain ⟨rest, start⟩ := markerAt_percent h
  have percent : c = '%' := (List.cons.inj start).1
  have fewer : (l.drop (marker.length - 1)).count '%' ≤ l.count '%' :=
    (List.drop_sublist _ _).count_le _
  rw [percent, List.count_cons_self]
  omega

/-- Replacing takes the `%` of every place marker replaced. -/
theorem replace_count (plain : '%' ∉ value.plain) (locale : '%' ∉ value.locale) {skip : Nat} :
    (replace digitValue number value skip l).count '%'
      + (numbers digitValue skip l).count number ≤ (l.drop skip).count '%' := by
  induction l generalizing skip with
  | nil => cases skip <;> exact Nat.le_refl _
  | cons c l ih =>
    cases skip with
    | succ skip => exact ih
    | zero =>
      rw [List.drop_zero]
      cases h : markerAt digitValue (c :: l) with
      | none =>
        rw [numbers_none h, replace_none h, List.count_cons, List.count_cons]
        have := @ih 0
        rw [List.drop_zero] at this
        omega
      | some marker =>
        have rest := @ih (marker.length - 1)
        rw [numbers_some h, replace_some h, List.count_append, List.count_cons]
        by_cases same : marker.number = number
        · have first := count_percent_marker h
          have absent : '%' ∉ value.at marker := by
            rw [Value.at]
            split
            · exact locale
            · exact plain
          rw [if_pos same, List.count_eq_zero_of_not_mem absent]
          simp only [same, beq_self_eq_true, if_true]
          omega
        · have whole := congrArg (List.count '%') (take_drop_marker h)
          rw [List.count_append] at whole
          rw [if_neg same]
          simp only [beq_eq_false_iff_ne.mpr same, Bool.false_eq_true, if_false]
          omega

end Replace

end PlaceMarkers
