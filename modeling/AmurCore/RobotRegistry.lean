import Mathlib.Data.List.Dedup
import AmurCore.ArpingService

/-!
# The registry of robots

The list that `runArpingService` keeps, in closed form: one entry for each
address that has sent a request, in the order of the first requests, made of
the first request of the address.
-/

namespace RobotRegistry

open EventRuns RobotRepository ArpingService

/-! ### First appearances -/

section FirstSeen
universe u v
variable {κ : Type u} {β : Type v} [DecidableEq κ]

/-- The values in the order of their first appearance, each once. -/
def firstSeen (l : List κ) : List κ := l.reverse.dedup.reverse

theorem firstSeen_concat (l : List κ) (k : κ) :
    firstSeen (l ++ [k]) = if k ∈ l then firstSeen l else firstSeen l ++ [k] := by
  rw [firstSeen, List.reverse_append, List.reverse_singleton, List.singleton_append]
  by_cases seen : k ∈ l
  · rw [List.dedup_cons_of_mem (List.mem_reverse.mpr seen), if_pos seen, firstSeen]
  · rw [List.dedup_cons_of_notMem (fun mem => seen (List.mem_reverse.mp mem)), if_neg seen,
      List.reverse_cons, firstSeen]

theorem mem_firstSeen {l : List κ} {k : κ} : k ∈ firstSeen l ↔ k ∈ l := by
  rw [firstSeen, List.mem_reverse, List.mem_dedup, List.mem_reverse]

theorem firstSeen_nodup (l : List κ) : (firstSeen l).Nodup :=
  List.nodup_reverse.mpr (List.nodup_dedup _)

end FirstSeen

/-! ### The list of robots -/

section Registry
variable {toInt : String → Option Int} {arpHeader : String} {gRPCPort : Int}

/-- The addresses of the requests, as they come. -/
def requestAddresses (arpHeader : String) (datagrams : List Datagram) : List String :=
  (datagrams.filter (accepted arpHeader)).map Datagram.senderAddress

/-- The number in the third field, if there is one. -/
def announcedPort (toInt : String → Option Int) (d : Datagram) : Option Int :=
  (parsed d)[2]?.bind toInt

/-- The port of the entry, as a number. -/
def portOf (toInt : String → Option Int) (d : Datagram) : Int :=
  match announcedPort toInt d with
  | some n => if 0 < n then n else d.senderBCastPort.toNat
  | none => d.senderBCastPort.toNat

theorem requestAddresses_concat (datagrams : List Datagram) (d : Datagram) :
    requestAddresses arpHeader (datagrams ++ [d])
      = requestAddresses arpHeader datagrams ++
        if accepted arpHeader d then [d.senderAddress] else [] := by
  rw [requestAddresses, List.filter_append, List.map_append, ← requestAddresses]
  cases asks : accepted arpHeader d <;> simp [asks]

theorem mem_requestAddresses {address : String} {datagrams : List Datagram} :
    address ∈ requestAddresses arpHeader datagrams ↔
      (firstRequest arpHeader address datagrams).isSome = true := by
  rw [requestAddresses, firstRequest, List.find?_isSome]
  simp [and_assoc]

/-- The registry as it grows: the handler appends the entry of a new address. -/
theorem registered_eq (robots : List RobotEntry) (d : Datagram) :
    registered toInt arpHeader gRPCPort robots d =
      if accepted arpHeader d = true ∧ clientAt d.senderAddress robots = none then
        robots ++ [newRobot toInt d]
      else robots := by
  unfold registered handleDatagram
  by_cases asks : accepted arpHeader d = true
  · cases known : clientAt d.senderAddress robots <;> simp [asks]
  · simp [asks]

/-- The registry in closed form. -/
theorem run_registered (datagrams : List Datagram) :
    run (registered toInt arpHeader gRPCPort) [] datagrams
      = (firstSeen (requestAddresses arpHeader datagrams)).filterMap fun address =>
          (firstRequest arpHeader address datagrams).map (newRobot toInt) := by
  induction datagrams using List.reverseRecOn with
  | nil => rfl
  | append_singleton before d ih =>
    -- a later datagram is not the first request of an address already seen
    have kept : (firstSeen (requestAddresses arpHeader before)).filterMap (fun address =>
          (firstRequest arpHeader address (before ++ [d])).map (newRobot toInt))
        = run (registered toInt arpHeader gRPCPort) [] before := by
      rw [ih]
      refine List.filterMap_congr fun address mem => ?_
      obtain ⟨first, found⟩ :=
        Option.isSome_iff_exists.mp (mem_requestAddresses.mp (mem_firstSeen.mp mem))
      rw [firstRequest_concat, found, Option.some_or]
    have known : clientAt d.senderAddress (run (registered toInt arpHeader gRPCPort) [] before)
        = none ↔ d.senderAddress ∉ requestAddresses arpHeader before := by
      rw [clientAt_run, Option.map_eq_none_iff, mem_requestAddresses, Option.not_isSome_iff_eq_none]
    rw [run_concat, registered_eq, requestAddresses_concat]
    by_cases asks : accepted arpHeader d = true
    · rw [if_pos asks, firstSeen_concat]
      by_cases seen : d.senderAddress ∈ requestAddresses arpHeader before
      · rw [if_neg (fun h => known.mp h.2 seen), if_pos seen, kept]
      · have unseen : firstRequest arpHeader d.senderAddress before = none := by
          rw [mem_requestAddresses] at seen
          exact Option.not_isSome_iff_eq_none.mp seen
        rw [if_pos ⟨asks, known.mpr seen⟩, if_neg seen, List.filterMap_append, kept]
        simp [firstRequest_concat, unseen, asks]
    · rw [if_neg (fun h => asks h.1), if_neg asks, List.append_nil, kept]

theorem run_addresses (datagrams : List Datagram) :
    (run (registered toInt arpHeader gRPCPort) [] datagrams).map RobotEntry.address
      = (firstSeen (requestAddresses arpHeader datagrams)).map some := by
  rw [run_registered, List.map_filterMap, ← List.filterMap_eq_map]
  refine List.filterMap_congr fun address mem => ?_
  obtain ⟨first, found⟩ :=
    Option.isSome_iff_exists.mp (mem_requestAddresses.mp (mem_firstSeen.mp mem))
  have sender := List.find?_some found
  simp only [Bool.and_eq_true, decide_eq_true_eq] at sender
  simp [found, newRobot, sender.2]

theorem arpingPort_eq (d : Datagram) :
    arpingPort toInt d = (announcedPort toInt d).getD 0 := by
  rw [arpingPort, announcedPort]
  cases (parsed d)[2]? <;> rfl

theorem entryPort_toNat {d : Datagram} (small : ∀ n, announcedPort toInt d = some n → n ≤ 65535) :
    ((entryPort toInt d).toNat : Int) = portOf toInt d := by
  rw [entryPort, portOf, arpingPort_eq]
  cases announced : announcedPort toInt d with
  | none => rfl
  | some n =>
    have bounded := small n announced
    dsimp only [Option.getD_some]
    by_cases positive : 0 < n
    · have fits : n.toNat < 2 ^ 16 := by omega
      rw [if_pos positive, if_pos positive, UInt16.toNat_ofNat_of_lt' fits]
      omega
    · rw [if_neg positive, if_neg positive]

theorem run_grows (before after : List Datagram) :
    run (registered toInt arpHeader gRPCPort) [] before <+:
      run (registered toInt arpHeader gRPCPort) [] (before ++ after) := by
  induction after using List.reverseRecOn with
  | nil => exact ⟨[], by rw [List.append_nil, List.append_nil]⟩
  | append_singleton after d ih =>
    rw [← List.append_assoc, run_concat, registered_eq]
    split
    · exact ih.trans (List.prefix_append _ _)
    · exact ih

theorem reply_count (robots : List RobotEntry) (d : Datagram) :
    (handleDatagram toInt arpHeader gRPCPort robots d).2.toList.length
      = if accepted arpHeader d then 1 else 0 := by
  unfold handleDatagram
  split
  · cases clientAt d.senderAddress robots <;> rfl
  · rfl

/-- The registry has one entry for each address that has sent a request, in the
order and with the data of their first requests; it only grows, and exactly the
requests are answered, each once. -/
theorem registry_exact (datagrams : List Datagram)
    (small : ∀ d ∈ datagrams, ∀ n, announcedPort toInt d = some n → n ≤ 65535) :
    (run (registered toInt arpHeader gRPCPort) [] datagrams).map RobotEntry.address
        = (firstSeen (requestAddresses arpHeader datagrams)).map some ∧
      ((run (registered toInt arpHeader gRPCPort) [] datagrams).map RobotEntry.address).Nodup ∧
      (∀ robot ∈ run (registered toInt arpHeader gRPCPort) [] datagrams, ∃ first,
        firstRequest arpHeader first.senderAddress datagrams = some first ∧
        robot.address = some first.senderAddress ∧
        robot.machineID.getD "" = ((parsed first)[1]?).getD "" ∧
        (robot.port.toNat : Int) = portOf toInt first) ∧
      (∀ before after, datagrams = before ++ after →
        run (registered toInt arpHeader gRPCPort) [] before <+:
          run (registered toInt arpHeader gRPCPort) [] datagrams) ∧
      Along (fun before d => (handleDatagram toInt arpHeader gRPCPort
          (run (registered toInt arpHeader gRPCPort) [] before) d).2.toList.length
        = if accepted arpHeader d then 1 else 0) datagrams := by
  refine ⟨run_addresses datagrams, ?_, ?_, ?_, ?_⟩
  · rw [run_addresses]
    exact (firstSeen_nodup _).map fun _ _ same => Option.some.inj same
  · intro robot mem
    rw [run_registered, List.mem_filterMap] at mem
    obtain ⟨address, -, made⟩ := mem
    obtain ⟨first, found, rfl⟩ := Option.map_eq_some_iff.mp made
    have sender := List.find?_some found
    simp only [Bool.and_eq_true, decide_eq_true_eq] at sender
    refine ⟨first, ?_, rfl, rfl, entryPort_toNat (small first (List.mem_of_find?_eq_some found))⟩
    rw [sender.2]
    exact found
  · rintro before after rfl
    exact run_grows before after
  · exact fun before d after _ => reply_count _ d

/-- `QString::toInt` on decimal digits. -/
def digitsToInt (field : String) : Option Int :=
  if field.isEmpty then none
  else field.toList.foldl (fun number c => number.bind fun n =>
    if c.isDigit then some (10 * n + (c.toNat - '0'.toNat)) else none) (some 0)

/-- The request of a robot that announces the port. -/
def announcing (port : String) : Datagram := ⟨"AMUR:r1:" ++ port, "10.0.0.7", 40001⟩

/-- A robot that has announced its port asks again from another one. -/
theorem restarted_robot_listed :
    (run (registered digitsToInt "AMUR" 50051) []
        [announcing "50000", requestFrom 40002]).map RobotEntry.address = [some "10.0.0.7"] := by
  have announced : announcedPort digitsToInt (announcing "50000") = some 50000 := by decide
  have silent : announcedPort digitsToInt (requestFrom 40002) = none := by decide
  have listed := @registry_exact digitsToInt "AMUR" 50051
    [announcing "50000", requestFrom 40002] (by simp [announced, silent])
  rw [listed.1]
  decide

/-! ### Announced ports -/

/-- The entry that registers the sender has the port that the datagram asks for,
which is not 0 unless it came from port 0. -/
def RegisteredAsAsked (toInt : String → Option Int) (arpHeader : String) (gRPCPort : Int)
    (robots : List RobotEntry) (d : Datagram) : Prop :=
  ∃ robot, clientAt d.senderAddress (registered toInt arpHeader gRPCPort robots d) = some robot ∧
    robot.port = requestedPort toInt d ∧ (d.senderBCastPort ≠ 0 → robot.port ≠ 0)

theorem clientAt_registered {robots : List RobotEntry} {d : Datagram}
    (asks : accepted arpHeader d = true) (unknown : clientAt d.senderAddress robots = none) :
    clientAt d.senderAddress (registered toInt arpHeader gRPCPort robots d)
      = some (newRobot toInt d) := by
  rw [registered_eq, if_pos ⟨asks, unknown⟩, clientAt_concat, unknown, if_pos rfl, Option.none_or]

/-- The conversion of a positive number to `quint16`. -/
theorem ofNat_eq_iff {n : Int} (positive : 0 < n) (port : UInt16) :
    UInt16.ofNat n.toNat = port ↔ n % 65536 = port.toNat := by
  rw [← UInt16.toNat_inj, UInt16.toNat_ofNat']
  omega

theorem entryPort_eq_requestedPort_iff (d : Datagram) :
    entryPort toInt d = requestedPort toInt d ↔
      ∀ n, announcedPort toInt d = some n → n ≤ 65535 ∨ n % 65536 = d.senderBCastPort.toNat := by
  have asked : requestedPort toInt d = match announcedPort toInt d with
      | some n => if 1 ≤ n ∧ n ≤ 65535 then UInt16.ofNat n.toNat else d.senderBCastPort
      | none => d.senderBCastPort := rfl
  rw [entryPort, arpingPort_eq, asked]
  cases announced : announcedPort toInt d with
  | none => simp
  | some n =>
    simp only [Option.getD_some, Option.some.injEq, forall_eq']
    by_cases positive : 0 < n
    · rw [if_pos positive]
      by_cases small : n ≤ 65535
      · rw [if_pos ⟨positive, small⟩]
        exact iff_of_true rfl (Or.inl small)
      · -- the setter keeps the low 16 bits of a number that is too large
        rw [if_neg (fun h => small h.2), ofNat_eq_iff positive]
        exact ⟨Or.inr, fun h => h.resolve_left small⟩
    · rw [if_neg positive, if_neg (fun h => positive h.1)]
      exact iff_of_true rfl (Or.inl (by omega))

/-- Only a port outside 1..65535 is replaced by the source port. -/
theorem requestedPort_ne_zero {d : Datagram} (source : d.senderBCastPort ≠ 0) :
    requestedPort toInt d ≠ 0 := by
  unfold requestedPort
  cases (parsed d)[2]?.bind toInt with
  | none => exact source
  | some n =>
    dsimp only
    split
    · rename_i inRange
      intro zero
      have narrowed := congrArg UInt16.toNat zero
      rw [UInt16.toNat_ofNat_of_lt' (by omega : n.toNat < 2 ^ 16)] at narrowed
      have none_left : n.toNat = 0 := narrowed
      omega
    · exact source

/-- The port of a new entry is as asked exactly when the announced number needs
no narrowing, or is narrowed to the source port. -/
theorem registeredAsAsked_iff (robots : List RobotEntry) {d : Datagram}
    (asks : accepted arpHeader d = true) (unknown : clientAt d.senderAddress robots = none) :
    RegisteredAsAsked toInt arpHeader gRPCPort robots d ↔
      ∀ n, announcedPort toInt d = some n → n ≤ 65535 ∨ n % 65536 = d.senderBCastPort.toNat := by
  rw [← entryPort_eq_requestedPort_iff, RegisteredAsAsked, clientAt_registered asks unknown]
  constructor
  · rintro ⟨robot, made, port, -⟩
    obtain rfl := Option.some.inj made
    exact port
  · intro port
    refine ⟨_, rfl, port, fun source => ?_⟩
    have nonzero : requestedPort toInt d ≠ 0 := requestedPort_ne_zero source
    rw [← port] at nonzero
    exact nonzero

theorem largest_port_registered :
    RegisteredAsAsked digitsToInt "AMUR" 50051 [] (announcing "65535") := by
  have asks : accepted "AMUR" (announcing "65535") = true := by decide
  exact (registeredAsAsked_iff [] asks rfl).mpr fun n announced => Or.inl (by
    have number : announcedPort digitsToInt (announcing "65535") = some 65535 := by decide
    rw [number] at announced
    cases announced
    decide)

/-- One more than the largest port is registered as port 0. -/
theorem larger_port_narrowed : accepted "AMUR" (announcing "65536") = true ∧
    announcedPort digitsToInt (announcing "65536") = some 65536 ∧
    (registered digitsToInt "AMUR" 50051 [] (announcing "65536")).map RobotEntry.port = [0] ∧
    ¬ RegisteredAsAsked digitsToInt "AMUR" 50051 [] (announcing "65536") := by
  have asks : accepted "AMUR" (announcing "65536") = true := by decide
  refine ⟨asks, by decide, by decide, ?_⟩
  rintro ⟨robot, made, -, nonzero⟩
  rw [clientAt_registered asks rfl] at made
  obtain rfl := Option.some.inj made
  exact nonzero (by decide) (by decide)

end Registry

end RobotRegistry
