import AmurCore.ConnectTable

/-!
# The arping service

`NetworkController::runArpingService` on the datagrams it reads, whose bytes are
already decoded. `toInt` is `QString::toInt`, undefined where the conversion
fails; the handler then sees 0. Nothing else changes the address or the ports of
an entry of `robots`, and nothing removes one.
-/

namespace ArpingService

open EventRuns RobotRepository

/-- What `readDatagram` returns. -/
structure Datagram where
  message : String
  senderAddress : String
  senderBCastPort : UInt16
  deriving DecidableEq

/-- What `writeDatagram` sends. -/
structure Reply where
  data : String
  address : Option String
  port : UInt16
  deriving DecidableEq

def sendData (data : String) (robot : RobotEntry) : Reply :=
  ⟨data, robot.address, if robot.portForAnswer > 0 then robot.portForAnswer else robot.port⟩

variable (toInt : String → Option Int) (arpHeader : String) (gRPCPort : Int)

/-! ### One datagram -/

/-- `message.split(u':')`, which is never empty. -/
def parsed (d : Datagram) : List String := (d.message.toList.splitOn ':').map String.ofList

def accepted (d : Datagram) : Bool := (parsed d)[0]? = some arpHeader

def machineID (d : Datagram) : Option String := (parsed d)[1]?

def arpingPort (d : Datagram) : Int :=
  match (parsed d)[2]? with
  | some field => (toInt field).getD 0
  | none => 0

/-- The port of the entry that is made for a datagram. -/
def entryPort (d : Datagram) : UInt16 :=
  if arpingPort toInt d > 0 then UInt16.ofNat (arpingPort toInt d).toNat else d.senderBCastPort

def newRobot (d : Datagram) : RobotEntry :=
  ⟨"", machineID d, some d.senderAddress, entryPort toInt d, 0, ""⟩

/-- The entry of the list that a datagram from the address finds. -/
def clientAt (address : String) (robots : List RobotEntry) : Option RobotEntry :=
  robots.find? fun robot => robot.address = some address

/-- The handler: the list of robots after it, and its reply. -/
def handleDatagram (robots : List RobotEntry) (d : Datagram) : List RobotEntry × Option Reply :=
  if accepted arpHeader d then
    let response := "OK:" ++ toString gRPCPort
    match clientAt d.senderAddress robots with
    | some robot => (robots, some (sendData response robot))
    | none =>
      let robot := newRobot toInt d
      (robots ++ [robot], some (sendData response robot))
  else (robots, none)

def registered (robots : List RobotEntry) (d : Datagram) : List RobotEntry :=
  (handleDatagram toInt arpHeader gRPCPort robots d).1

/-! ### What a request asks for -/

/-- The port announced in the third field when it is an integer in 1..65535,
and otherwise the source port. -/
def requestedPort (d : Datagram) : UInt16 :=
  match (parsed d)[2]?.bind toInt with
  | some n => if 1 ≤ n ∧ n ≤ 65535 then UInt16.ofNat n.toNat else d.senderBCastPort
  | none => d.senderBCastPort

/-- The datagram is a request, and its reply goes where it asked. -/
def AnsweredWhereAsked (before : List Datagram) (d : Datagram) : Prop :=
  accepted arpHeader d → ∃ reply,
    (handleDatagram toInt arpHeader gRPCPort
      (run (registered toInt arpHeader gRPCPort) [] before) d).2 = some reply ∧
    reply.address = some d.senderAddress ∧ reply.port = requestedPort toInt d

/-- The first request from the address. -/
def firstRequest (address : String) (datagrams : List Datagram) : Option Datagram :=
  datagrams.find? fun d => accepted arpHeader d && d.senderAddress = address

/-- The port that the first request of the sender fixed is the one this
datagram asks for. -/
def AsksForFixedPort (before : List Datagram) (d : Datagram) : Prop :=
  accepted arpHeader d → ∀ first,
    firstRequest arpHeader d.senderAddress (before ++ [d]) = some first →
    entryPort toInt first = requestedPort toInt d

/-! ### The list of robots after a run -/

variable {toInt arpHeader gRPCPort}

theorem clientAt_concat (address : String) (robots : List RobotEntry) (d : Datagram) :
    clientAt address (robots ++ [newRobot toInt d])
      = (clientAt address robots).or
        (if d.senderAddress = address then some (newRobot toInt d) else none) := by
  by_cases same : d.senderAddress = address <;>
    simp [clientAt, List.find?_append, newRobot, same]

theorem firstRequest_concat (address : String) (before : List Datagram) (d : Datagram) :
    firstRequest arpHeader address (before ++ [d])
      = (firstRequest arpHeader address before).or
        (if accepted arpHeader d ∧ d.senderAddress = address then some d else none) := by
  by_cases asks : accepted arpHeader d = true ∧ d.senderAddress = address
  · simp [firstRequest, List.find?_append, asks]
  · have refused : (accepted arpHeader d && decide (d.senderAddress = address)) = false := by
      simpa using asks
    simp [firstRequest, List.find?_append, asks, refused]

/-- A sender is known by the entry that its first request made. -/
theorem clientAt_run (address : String) (datagrams : List Datagram) :
    clientAt address (run (registered toInt arpHeader gRPCPort) [] datagrams)
      = (firstRequest arpHeader address datagrams).map (newRobot toInt) := by
  induction datagrams using List.reverseRecOn with
  | nil => rfl
  | append_singleton before d ih =>
    rw [run_concat, firstRequest_concat]
    generalize run (registered toInt arpHeader gRPCPort) [] before = robots at ih
    by_cases asks : accepted arpHeader d = true
    · cases known : clientAt d.senderAddress robots with
      | some robot =>
        have kept : registered toInt arpHeader gRPCPort robots d = robots := by
          simp [registered, handleDatagram, asks, known]
        rw [kept, ih]
        by_cases same : d.senderAddress = address
        · rw [same, ih] at known
          obtain ⟨first, found, -⟩ := Option.map_eq_some_iff.mp known
          simp [found]
        · simp [same]
      | none =>
        have added :
            registered toInt arpHeader gRPCPort robots d = robots ++ [newRobot toInt d] := by
          simp [registered, handleDatagram, asks, known]
        rw [added, clientAt_concat, ih]
        by_cases same : d.senderAddress = address
        · simp [asks, same]
        · simp [same]
    · have kept : registered toInt arpHeader gRPCPort robots d = robots := by
        simp [registered, handleDatagram, asks]
      simp [kept, ih, asks]

/-- Every request is answered at its address, at the port that the first request
of the address fixed. -/
theorem handleDatagram_reply (before : List Datagram) {d first : Datagram}
    (asks : accepted arpHeader d = true)
    (found : firstRequest arpHeader d.senderAddress (before ++ [d]) = some first) :
    (handleDatagram toInt arpHeader gRPCPort
      (run (registered toInt arpHeader gRPCPort) [] before) d).2
      = some ⟨"OK:" ++ toString gRPCPort, some d.senderAddress, entryPort toInt first⟩ := by
  have known : clientAt d.senderAddress (run (registered toInt arpHeader gRPCPort) [] before)
      = (firstRequest arpHeader d.senderAddress before).map (newRobot toInt) := clientAt_run _ _
  rw [firstRequest_concat] at found
  cases earlier : firstRequest arpHeader d.senderAddress before with
  | some first' =>
    obtain rfl : first' = first := by simpa [earlier] using found
    have sender : first'.senderAddress = d.senderAddress := by
      have := List.find?_some earlier
      simp_all
    simp [handleDatagram, asks, known, earlier, sendData, newRobot, sender]
  | none =>
    obtain rfl : d = first := by simpa [earlier, asks] using found
    simp [handleDatagram, asks, known, earlier, sendData, newRobot]

/-- Exactly when every request is answered where it asked. -/
theorem answered_where_asked_iff (datagrams : List Datagram) :
    Along (AnsweredWhereAsked toInt arpHeader gRPCPort) datagrams ↔
      Along (AsksForFixedPort toInt arpHeader) datagrams := by
  refine along_congr (fun before d => ?_) datagrams
  refine imp_congr_right fun asks => ?_
  obtain ⟨first, found⟩ :
      ∃ first, firstRequest arpHeader d.senderAddress (before ++ [d]) = some first := by
    rw [firstRequest_concat]
    cases firstRequest arpHeader d.senderAddress before <;> simp [asks]
  rw [handleDatagram_reply before asks found]
  simp [found]

/-- The request of a robot, sent from a port of its choice. -/
def requestFrom (port : UInt16) : Datagram := ⟨"AMUR:r1", "10.0.0.7", port⟩

/-- A robot that restarts with a new source port is answered at its old one. -/
theorem restarted_robot_unanswered :
    ¬ Along (AnsweredWhereAsked String.toInt? "AMUR" 50051)
      [requestFrom 40001, requestFrom 40002] := by
  intro answered
  have asks : accepted "AMUR" (requestFrom 40002) = true := by decide
  obtain ⟨reply, sent, -, asked⟩ := answered [requestFrom 40001] (requestFrom 40002) [] rfl asks
  have atOldPort : (handleDatagram String.toInt? "AMUR" 50051
      (run (registered String.toInt? "AMUR" 50051) [] [requestFrom 40001])
      (requestFrom 40002)).2.map Reply.port = some 40001 := by decide
  have atNewPort : requestedPort String.toInt? (requestFrom 40002) = 40002 := by decide
  rw [sent, Option.map_some, asked, atNewPort] at atOldPort
  revert atOldPort
  decide

/-! ### The list of the connection dialog -/

theorem allocate_fresh (robot : RobotEntry) (heap : ConnectTable.Heap)
    (pointers : List ConnectTable.Pointer) (made : ∀ p ∈ pointers, p < heap.size) :
    pointers.map (heap.allocate robot).2.entry = pointers.map heap.entry := by
  exact List.map_congr_left fun p mem => heap.allocate_entry robot (made p mem)

/-- The robots that the dialog shares with the service are those that the
service registers. -/
theorem registerRobot_entries (s : ConnectTable.State) (made : ∀ p ∈ s.robots, p < s.heap.size)
    {d : Datagram} (asks : accepted arpHeader d = true) :
    let t := ConnectTable.registerRobot d.senderAddress d.senderBCastPort (machineID d)
      (arpingPort toInt d) s
    t.robots.map t.heap.entry =
      registered toInt arpHeader gRPCPort (s.robots.map s.heap.entry) d := by
  have search : clientAt d.senderAddress (s.robots.map s.heap.entry) = none ↔
      ¬ (s.robots.any fun robot => (s.heap.entry robot).address = some d.senderAddress) = true := by
    simp [clientAt]
  cases known : clientAt d.senderAddress (s.robots.map s.heap.entry) with
  | some robot =>
    have found : (s.robots.any fun robot =>
        (s.heap.entry robot).address = some d.senderAddress) = true := by
      by_contra absent
      rw [search.mpr absent] at known
      cases known
    simp [ConnectTable.registerRobot, registered, handleDatagram, found, asks, known]
  | none =>
    have absent := search.mp known
    have kept := allocate_fresh (newRobot toInt d) s.heap s.robots made
    simp only [ConnectTable.registerRobot, registered, handleDatagram, absent, asks, known,
      if_true]
    rw [← kept]
    simp [ConnectTable.Heap.allocate, newRobot, entryPort]

end ArpingService
