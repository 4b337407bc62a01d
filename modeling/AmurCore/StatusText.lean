import AmurCore.StatusMessage

/-!
# The text of the status message

The message about a robot is put together by two calls of `QString::arg`, and the
second one looks for place markers in what the first one has put in. The message
names the robot, its address and its port exactly when the name and the address
have no place marker with a number up to 3.
-/

namespace StatusText

open StatusMessage PlaceMarkers

/-- The message as it is meant. -/
def intendedMessage (displayName address : String) (port : UInt16) : String :=
  "Connected to " ++ displayName ++ " (" ++ address ++ ":" ++ toString port.toNat ++ ")"

/-- What is documented of `QChar::digitValue` on ASCII, and of numbers in a locale. -/
structure Documented (locale : QLocale) : Prop where
  ascii : ∀ c : Char, c.toNat < 128 →
    locale.digitValue c = if c.isDigit then some (c.toNat - 48) else none
  number : ∀ n : Nat, '%' ∉ (locale.number n).toList

/-- The text has a place marker that the call for the port takes for its own. -/
def HidesPort (locale : QLocale) (text : String) : Prop :=
  ∃ n ∈ numbers locale.digitValue 0 text.toList, n ≤ 3

/-! ### The pieces of the text -/

def connectedTo : List Char := ['C', 'o', 'n', 'n', 'e', 'c', 't', 'e', 'd', ' ', 't', 'o']

/-- The message with a name, an address and an end put in. -/
def message (name address ending : List Char) : List Char :=
  connectedTo ++ ' ' :: (name ++ ' ' :: ([] ++ '(' :: (address ++ ':' :: ending)))

/-- The place marker for the port, and what follows it. -/
def portMarker : List Char := ['%', '3', ')']

def portValue (locale : QLocale) (port : UInt16) : Value :=
  ⟨(toString port.toNat).toList, (locale.number port.toNat).toList⟩

theorem connectedMessage_eq (locale : QLocale) (displayName address : String) (port : UInt16) :
    connectedMessage locale displayName address port = String.ofList (arg locale.digitValue
      (portValue locale port) (message displayName.toList address.toList portMarker)) := by
  have first : "Connected to ".toList = connectedTo ++ [' '] := by decide
  have second : " (".toList = [' ', '('] := by decide
  have third : ":%3)".toList = ':' :: portMarker := by decide
  rw [connectedMessage, first, second, third, message, portValue]
  simp only [List.append_assoc, List.cons_append, List.nil_append]

theorem intendedMessage_toList (displayName address : String) (port : UInt16) :
    (intendedMessage displayName address port).toList
      = message displayName.toList address.toList ((toString port.toNat).toList ++ [')']) := by
  have first : "Connected to ".toList = connectedTo ++ [' '] := by decide
  have second : " (".toList = [' ', '('] := by decide
  have third : ":".toList = [':'] := by decide
  have fourth : ")".toList = [')'] := by decide
  unfold intendedMessage message
  simp only [String.toList_append, first, second, third, fourth,
    List.append_assoc, List.cons_append, List.nil_append]

theorem digits_of_toString (n : Nat) : ∀ c ∈ (toString n).toList, c.isDigit = true := by
  intro c mem
  rw [Nat.toString_eq_ofList_toDigits, String.toList_ofList] at mem
  exact Nat.isDigit_of_mem_toDigits (by decide) (by decide) mem

theorem toString_plain (n : Nat) : '%' ∉ (toString n).toList := by
  intro percent
  have digit : '%'.isDigit = true := digits_of_toString n '%' percent
  exact absurd digit (by decide)

/-! ### Place markers in the pieces -/

section Pieces
variable {locale : QLocale}

theorem numbers_plain {l : List Char} (plain : '%' ∉ l) :
    numbers locale.digitValue 0 l = [] := by
  induction l with
  | nil => rfl
  | cons c l ih =>
    rw [List.mem_cons, not_or] at plain
    have no_marker : markerAt locale.digitValue (c :: l) = none := if_neg (Ne.symm plain.1)
    rw [numbers_none no_marker, ih plain.2]

variable (documented : Documented locale)
include documented

theorem break_of_ascii {c : Char} (ascii : c.toNat < 128) (digit : c.isDigit = false)
    (percent : c ≠ '%') (isL : c ≠ 'L') : Break locale.digitValue c :=
  ⟨percent, isL, by rw [documented.ascii c ascii, digit]; rfl⟩

theorem breaks : Break locale.digitValue ' ' ∧ Break locale.digitValue '(' ∧
    Break locale.digitValue ':' := by
  refine ⟨?_, ?_, ?_⟩
  · exact break_of_ascii documented (by decide) (by decide) (by decide) (by decide)
  · exact break_of_ascii documented (by decide) (by decide) (by decide) (by decide)
  · exact break_of_ascii documented (by decide) (by decide) (by decide) (by decide)

theorem markerAt_port : markerAt locale.digitValue portMarker = some ⟨false, 3, 2⟩ := by
  have three : locale.digitValue '3' = some 3 :=
    (documented.ascii '3' (by decide)).trans (by decide)
  have closing : locale.digitValue ')' = none :=
    (documented.ascii ')' (by decide)).trans (by decide)
  simp [portMarker, markerAt, markerDigits, three, closing]

variable (name address : List Char)

theorem numbers_message : numbers locale.digitValue 0 (message name address portMarker)
    = numbers locale.digitValue 0 name ++ (numbers locale.digitValue 0 address ++ [3]) := by
  obtain ⟨space, opening, colon⟩ := breaks documented
  have start : numbers locale.digitValue 0 connectedTo = [] := numbers_plain (by decide)
  have closing : numbers locale.digitValue 1 ['3', ')'] = [] := by
    rw [numbers_skip]
    exact numbers_plain (by decide)
  have last : numbers locale.digitValue 0 portMarker = [3] :=
    (numbers_some (markerAt_port documented)).trans (congrArg (List.cons 3) closing)
  rw [message, numbers_break space _ _ (Nat.zero_le _), numbers_break space _ _ (Nat.zero_le _),
    numbers_break opening _ _ (Nat.zero_le _), numbers_break colon _ _ (Nat.zero_le _), start, last]
  rfl

theorem replace_message (number : Nat) (value : Value) :
    replace locale.digitValue number value 0 (message name address portMarker)
      = message (replace locale.digitValue number value 0 name)
          (replace locale.digitValue number value 0 address)
          ((if 3 = number then value.plain else ['%', '3']) ++ [')']) := by
  obtain ⟨space, opening, colon⟩ := breaks documented
  have start : replace locale.digitValue number value 0 connectedTo = connectedTo := by
    refine replace_absent ?_
    rw [numbers_plain (by decide)]
    exact List.not_mem_nil
  have closing : replace locale.digitValue number value 1 ['3', ')'] = [')'] := by
    refine replace_absent ?_
    rw [numbers_skip, numbers_plain (by decide)]
    exact List.not_mem_nil
  have last : replace locale.digitValue number value 0 portMarker
      = (if 3 = number then value.plain else ['%', '3']) ++ [')'] :=
    (replace_some (markerAt_port documented)).trans (congrArg _ closing)
  have nothing : replace locale.digitValue number value 0 [] = [] := rfl
  rw [message, replace_break space _ _ (Nat.zero_le _), replace_break space _ _ (Nat.zero_le _),
    replace_break opening _ _ (Nat.zero_le _), replace_break colon _ _ (Nat.zero_le _), start, last,
    nothing, message]

end Pieces

/-! ### The two calls -/

theorem message_count (name address ending : List Char) :
    (message name address ending).count '%'
      = name.count '%' + address.count '%' + ending.count '%' := by
  have start : connectedTo.count '%' = 0 := by decide
  simp only [message, List.count_append, start, List.count_nil, List.count_cons, Nat.zero_add,
    Char.reduceBEq, Bool.false_eq_true, if_false, Nat.add_zero, Nat.add_assoc]

/-- The place marker for the port is not at the end of the intended message. -/
theorem marker_not_last (name name' address address' : List Char) {number : List Char}
    (digits : ∀ c ∈ number, c.isDigit = true) :
    message name address portMarker ≠ message name' address' (number ++ [')']) := by
  intro equal
  have reversed := congrArg List.reverse equal
  simp only [message, portMarker, List.reverse_append, List.reverse_cons, List.append_assoc,
    List.cons_append, List.nil_append, List.reverse_nil, List.cons.injEq, true_and] at reversed
  cases shape : number.reverse with
  | nil => simp [shape] at reversed
  | cons c rest =>
    cases rest with
    | nil => simp [shape] at reversed
    | cons d rest =>
      have mem : d ∈ number := List.mem_reverse.mp (by rw [shape]; simp)
      rw [shape, List.cons_append, List.cons_append, List.cons.injEq, List.cons.injEq] at reversed
      have digit := digits d mem
      rw [← reversed.2.1] at digit
      exact absurd digit (by decide)

section Calls
variable {locale : QLocale}

/-- What the second call makes of the text, by the lowest number in it. -/
theorem arg_cases (documented : Documented locale) (name address : List Char) (value : Value) :
    ∃ lowest, lowest ≤ 3 ∧
      (lowest = 3 ∨ lowest ∈ numbers locale.digitValue 0 name ++
        numbers locale.digitValue 0 address) ∧
      (∀ n ∈ numbers locale.digitValue 0 name ++ numbers locale.digitValue 0 address, lowest ≤ n) ∧
      arg locale.digitValue value (message name address portMarker)
        = replace locale.digitValue lowest value 0 (message name address portMarker) := by
  have all := numbers_message documented name address
  rw [← List.append_assoc] at all
  cases found : (numbers locale.digitValue 0 (message name address portMarker)).min? with
  | none =>
    rw [List.min?_eq_none_iff, all] at found
    simp at found
  | some lowest =>
    obtain ⟨mem, least⟩ := List.min?_eq_some_iff.mp found
    rw [all] at mem least
    refine ⟨lowest, least 3 (by simp), ?_, ?_, by rw [arg, found]⟩
    · rcases List.mem_append.mp mem with inside | last
      · exact Or.inr inside
      · exact Or.inl (List.mem_singleton.mp last)
    · intro n inside
      exact least n (List.mem_append_left _ inside)

theorem not_hidden {text : String} {lowest : Nat} (shown : ¬HidesPort locale text)
    (bound : lowest ≤ 3) : lowest ∉ numbers locale.digitValue 0 text.toList :=
  fun mem => shown ⟨lowest, mem, bound⟩

/-- The message names the robot, its address and its port exactly when neither the
name nor the address has a place marker with a number up to 3. -/
theorem message_as_intended_iff (documented : Documented locale) (displayName address : String)
    (port : UInt16) :
    connectedMessage locale displayName address port = intendedMessage displayName address port ↔
      ¬HidesPort locale displayName ∧ ¬HidesPort locale address := by
  have plain : '%' ∉ (portValue locale port).plain := toString_plain _
  obtain ⟨lowest, bound, source, least, result⟩ :=
    arg_cases documented displayName.toList address.toList (portValue locale port)
  rw [← String.toList_inj, connectedMessage_eq, intendedMessage_toList, String.toList_ofList,
    result]
  constructor
  · intro equal
    have three : lowest = 3 := by
      by_contra other
      rw [replace_message documented, if_neg (Ne.symm other)] at equal
      exact marker_not_last _ _ _ _ (digits_of_toString _) equal
    rw [three] at equal least
    -- every place marker replaced would take its `%` away
    have fewer : (replace locale.digitValue 3 (portValue locale port) 0
        (message displayName.toList address.toList portMarker)).count '%' + _ ≤ _ :=
      replace_count plain (documented.number port.toNat)
    rw [equal, List.drop_zero, numbers_message documented, message_count, message_count,
      List.count_append, List.count_append, List.count_append,
      List.count_eq_zero_of_not_mem (toString_plain _)] at fewer
    have once : List.count 3 [3] = 1 := rfl
    have percents : portMarker.count '%' = 1 := by decide
    have closing : List.count '%' [')'] = 0 := by decide
    rw [once, percents, closing] at fewer
    refine ⟨?_, ?_⟩
    · rintro ⟨n, mem, small⟩
      have equals : n = 3 := Nat.le_antisymm small (least n (List.mem_append_left _ mem))
      rw [equals] at mem
      have := List.count_pos_iff.mpr mem
      omega
    · rintro ⟨n, mem, small⟩
      have equals : n = 3 := Nat.le_antisymm small (least n (List.mem_append_right _ mem))
      rw [equals] at mem
      have := List.count_pos_iff.mpr mem
      omega
  · rintro ⟨name_shown, address_shown⟩
    have three : lowest = 3 := by
      rcases source with three | inside
      · exact three
      · rcases List.mem_append.mp inside with mem | mem
        · exact absurd mem (not_hidden name_shown bound)
        · exact absurd mem (not_hidden address_shown bound)
    rw [replace_message documented, three, if_pos rfl,
      replace_absent (not_hidden name_shown (Nat.le_refl 3)),
      replace_absent (not_hidden address_shown (Nat.le_refl 3))]
    rfl

end Calls

/-- The locale that writes numbers as they are. -/
def plainLocale : QLocale where
  digitValue c := if c.isDigit then some (c.toNat - 48) else none
  number n := toString n

theorem plainLocale_documented : Documented plainLocale where
  ascii := fun _ _ => rfl
  number := toString_plain

/-- The scope of an address is taken for a place marker. -/
theorem scoped_address_not_shown :
    connectedMessage plainLocale "Rover" "fe80::1%2" 50051
      ≠ intendedMessage "Rover" "fe80::1%2" 50051 := by
  intro equal
  have shown := (message_as_intended_iff plainLocale_documented "Rover" "fe80::1%2" 50051).mp equal
  exact shown.2 ⟨2, by decide, by decide⟩

end StatusText
