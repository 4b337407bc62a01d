import AmurCore.MapStaleness

/-!
# The zones that the refresh misses

Of the zones the dialog remembers a signature only. It leaves out the names, and
takes the points of a contour to thousandths; so zones that look different may have
the signature of the last ones, and then they are not drawn. All of it is shown for
any way of taking thousandths.
-/

namespace ZoneStaleness

open EventRuns MapMessages MapPainting MapRefresh MapGeometry MapStaleness

def zoneMapOf (response : GetMapResponse ℚ) : ZoneMap ℚ := response.zoneMap.getD .empty

/-- What the widget is to draw of the zones of a message. -/
def overlaysOf (response : GetMapResponse ℚ) : List MapWidget.ZoneOverlay :=
  (zoneMapOf response).zones.map overlay

/-- The message of the last call that passed the guards; before it, the empty one. -/
def lastMessage (events : List Event) : GetMapResponse ℚ :=
  ((lastPassed events).map Prod.snd).getD .empty

/-- Zones with the signature of the last ones look like them. -/
def ZonesRefreshed (thousandths : ℚ → UInt64) (before : List Event) (e : Event) : Prop :=
  ∀ response, passed before e = some response →
    buildZoneSignature thousandths (zoneMapOf response)
        = buildZoneSignature thousandths (zoneMapOf (lastMessage before)) →
    overlaysOf response = overlaysOf (lastMessage before)

theorem lastMessage_concat (before : List Event) (e : Event) :
    lastMessage (before ++ [e]) = (passed before e).getD (lastMessage before) := by
  rw [lastMessage, lastPassed_concat]
  cases passed before e with
  | some response => rfl
  | none => rfl

/-! ### What the signature leaves out -/

section Signature
variable (thousandths : ℚ → UInt64)

/-- The points are the same in thousandths. -/
def SamePoint (pt pt' : Point2D ℚ) : Prop :=
  thousandths pt.x = thousandths pt'.x ∧ thousandths pt.y = thousandths pt'.y

/-- The zones have the same number, type and colour, and the same points. -/
structure SameHashed (zone zone' : Zone ℚ) : Prop where
  id : zone.id = zone'.id
  typeId : zone.typeId = zone'.typeId
  color : colorOf zone = colorOf zone'
  chainCode : List.Forall₂ (SamePoint thousandths) zone.chainCode zone'.chainCode

variable {thousandths}

theorem hashPoints_congr {points points' : List (Point2D ℚ)}
    (same : List.Forall₂ (SamePoint thousandths) points points') (hash : UInt64) :
    points.foldl (hashPoint thousandths) hash = points'.foldl (hashPoint thousandths) hash := by
  induction same generalizing hash with
  | nil => rfl
  | cons samePoint _ ih =>
    rw [List.foldl_cons, List.foldl_cons, ih, hashPoint, hashPoint, samePoint.1, samePoint.2]

theorem hashZone_congr {zone zone' : Zone ℚ} (same : SameHashed thousandths zone zone')
    (hash : UInt64) : hashZone thousandths hash zone = hashZone thousandths hash zone' := by
  rw [hashZone, hashZone, same.id, same.typeId, same.color, same.chainCode.length_eq]
  exact hashPoints_congr same.chainCode _

theorem signature_congr {zoneMap zoneMap' : ZoneMap ℚ}
    (same : List.Forall₂ (SameHashed thousandths) zoneMap.zones zoneMap'.zones) :
    buildZoneSignature thousandths zoneMap = buildZoneSignature thousandths zoneMap' := by
  have folded : ∀ {zones zones' : List (Zone ℚ)},
      List.Forall₂ (SameHashed thousandths) zones zones' → ∀ hash,
        zones.foldl (hashZone thousandths) hash = zones'.foldl (hashZone thousandths) hash := by
    intro zones zones' same
    induction same with
    | nil => exact fun _ => rfl
    | cons sameZone _ ih =>
      intro hash
      rw [List.foldl_cons, List.foldl_cons, hashZone_congr sameZone, ih]
  rw [buildZoneSignature, buildZoneSignature, same.length_eq]
  exact folded same _

end Signature

variable {thousandths : ℚ → UInt64} {round : ℚ → ℤ} {toFloat : ℚ → ℚ} {enabled : Bool}
  {size : MapClicks.ImageSize} {originX originY : ℚ}

/-! ### The zones of the widget -/

theorem updateScaleOnResize_zones (width height : ℤ) (s : MapWidget.State) :
    (MapWidget.updateScaleOnResize width height s).zones = s.zones := by
  unfold MapWidget.updateScaleOnResize
  split <;> rfl

theorem setMapData_zones (data : List Int8) (width height : ℤ) (resolution x y : ℚ)
    (s : MapWidget.State) :
    (MapWidget.setMapData data width height resolution x y s).zones = s.zones := by
  dsimp only [MapWidget.setMapData]
  split
  · split
    · rfl
    · exact updateScaleOnResize_zones _ _ _
  · rfl

/-- Only `setZones` changes the zones. -/
theorem operator_zones {e : MapWidget.Event} (operator : FromOperator e) (s : MapWidget.State) :
    (MapWidget.step round toFloat s e).zones = s.zones := by
  cases e with
  | setMapData | setRobotPose | setZones => exact operator.elim
  | resize width height => exact updateScaleOnResize_zones _ _ _
  | wheel mousePos angleDeltaY =>
    simp only [MapWidget.step, MapWidget.wheelEvent]
    split
    · rfl
    · split <;> rfl
  | mousePress button pos =>
    simp only [MapWidget.step, MapWidget.mousePressEvent]
    split
    · rfl
    · split <;> split <;> rfl
  | mouseMove pos =>
    simp only [MapWidget.step, MapWidget.mouseMoveEvent]
    split <;> rfl
  | mouseRelease button =>
    simp only [MapWidget.step, MapWidget.mouseReleaseEvent]
    split <;> rfl
  | centerOnRobot =>
    simp only [MapWidget.step, MapWidget.centerOnRobot]
    split <;> rfl
  | goals goals => rfl

theorem mapCalls_zones (response : GetMapResponse ℚ) (dialog : Dialog) (s : MapWidget.State) :
    (run (MapWidget.step round toFloat) s (mapCalls response dialog)).zones = s.zones := by
  dsimp only [mapCalls]
  split
  · exact setMapData_zones _ _ _ _ _ _ _
  · rfl

theorem poseCalls_zones (response : GetMapResponse ℚ) (dialog : Dialog) (s : MapWidget.State) :
    (run (MapWidget.step round toFloat) s (poseCalls response dialog)).zones = s.zones := by
  dsimp only [poseCalls]
  split <;> rfl

/-! ### One call -/

section Step
variable {s : State} {visible : Bool} {now : Nat} {response : GetMapResponse ℚ}

/-- A call that passes the guards draws the zones if their signature is new. -/
theorem step_zones (passes : passesGuards visible now s.dialog.lastUpdateTimer = true) :
    (step thousandths round toFloat s (.mapUpdated visible now response)).widget.zones
      = if buildZoneSignature thousandths (zoneMapOf response) = s.dialog.previousZoneSignature
          then s.widget.zones else overlaysOf response := by
  simp only [step, calls, onMapUpdated_calls passes, run_append]
  dsimp only [zoneCalls]
  by_cases same : buildZoneSignature thousandths (zoneMapOf response)
      = s.dialog.previousZoneSignature
  · have unchanged : (buildZoneSignature thousandths (response.zoneMap.getD .empty) !=
        s.dialog.previousZoneSignature) = false := bne_eq_false_iff_eq.mpr same
    rw [unchanged, if_neg Bool.false_ne_true, if_pos same, run_nil, poseCalls_zones,
      mapCalls_zones]
  · have changed : (buildZoneSignature thousandths (response.zoneMap.getD .empty) !=
        s.dialog.previousZoneSignature) = true := bne_iff_ne.mpr same
    rw [changed, if_pos rfl, if_neg same]
    rfl

theorem step_signature (passes : passesGuards visible now s.dialog.lastUpdateTimer = true) :
    (step thousandths round toFloat s
        (.mapUpdated visible now response)).dialog.previousZoneSignature
      = buildZoneSignature thousandths (zoneMapOf response) := by
  simp only [step, onMapUpdated]
  rw [if_pos passes]
  dsimp only
  split
  · rfl
  · rename_i unchanged
    have same : s.dialog.previousZoneSignature
        = buildZoneSignature thousandths (zoneMapOf response) :=
      (bne_eq_false_iff_eq.mp (Bool.eq_false_iff.mpr unchanged)).symm
    split <;> exact same

end Step

/-! ### Runs -/

/-- An event that is no call past the guards leaves the zones and what is known of them. -/
theorem unpassed_zones {before : List Event} {e : Event} (unpassed : passed before e = none) :
    let s := reached thousandths round toFloat enabled size originX originY before
    let t := reached thousandths round toFloat enabled size originX originY (before ++ [e])
    t.dialog.previousZoneSignature = s.dialog.previousZoneSignature ∧
      t.widget.zones = s.widget.zones := by
  dsimp only
  cases e with
  | widget e =>
    rw [reached_concat]
    exact ⟨rfl, operator_zones e.2 _⟩
  | mapUpdated visible now response =>
    rw [reached_refused unpassed]
    exact ⟨rfl, rfl⟩

/-- The dialog remembers the signature of the last zones. -/
theorem reached_signature (events : List Event) :
    (reached thousandths round toFloat enabled size originX originY
        events).dialog.previousZoneSignature
      = buildZoneSignature thousandths (zoneMapOf (lastMessage events)) := by
  induction events using List.reverseRecOn with
  | nil => rfl
  | append_singleton before e ih =>
    rw [lastMessage_concat]
    cases pass : passed before e with
    | none => rw [(unpassed_zones pass).1, Option.getD_none, ih]
    | some response =>
      obtain ⟨visible, now, rfl, passes⟩ := passed_eq_some pass
      rw [reached_concat, step_signature (passed_guards passes), Option.getD_some]

/-- After a call that passes the guards the widget holds the current zones. -/
def ShowsCurrentZones (thousandths : ℚ → UInt64) (round : ℚ → ℤ) (toFloat : ℚ → ℚ)
    (enabled : Bool) (size : MapClicks.ImageSize) (originX originY : ℚ) (before : List Event)
    (e : Event) : Prop :=
  ∀ response, passed before e = some response →
    (reached thousandths round toFloat enabled size originX originY (before ++ [e])).widget.zones
      = overlaysOf response

/-- While all zones were shown, the widget still holds the last ones. -/
theorem zones_last {before : List Event}
    (shown : Along (ShowsCurrentZones thousandths round toFloat enabled size originX originY)
      before) :
    (reached thousandths round toFloat enabled size originX originY before).widget.zones
      = overlaysOf (lastMessage before) := by
  induction before using List.reverseRecOn with
  | nil => rfl
  | append_singleton before e ih =>
    obtain ⟨earlier, current⟩ := along_concat.mp shown
    rw [lastMessage_concat]
    cases pass : passed before e with
    | none => rw [(unpassed_zones pass).2, Option.getD_none, ih earlier]
    | some response => exact current response pass

theorem zones_current_step {before : List Event}
    (shown : Along (ShowsCurrentZones thousandths round toFloat enabled size originX originY)
      before)
    (e : Event) :
    ShowsCurrentZones thousandths round toFloat enabled size originX originY before e ↔
      ZonesRefreshed thousandths before e := by
  refine forall_congr' fun response => imp_congr_right fun pass => ?_
  obtain ⟨visible, now, rfl, passes⟩ := passed_eq_some pass
  rw [reached_concat, step_zones (passed_guards passes), reached_signature, zones_last shown]
  by_cases same : buildZoneSignature thousandths (zoneMapOf response)
      = buildZoneSignature thousandths (zoneMapOf (lastMessage before))
  · rw [if_pos same]
    exact ⟨fun h _ => h.symm, fun h => (h same).symm⟩
  · rw [if_neg same]
    exact iff_of_true rfl fun h => absurd h same

/-- Exactly when every call leaves the widget with the current zones. -/
theorem zones_current_iff (events : List Event) :
    Along (ShowsCurrentZones thousandths round toFloat enabled size originX originY) events ↔
      Along (ZonesRefreshed thousandths) events :=
  along_iff_along (fun _ e shown => zones_current_step shown e) events

/-- Zones that were only renamed, or moved by less than the rounding, are not
drawn anew. -/
theorem sameHashed_zones_stay {before : List Event} {visible : Bool} {now : Nat}
    {response : GetMapResponse ℚ}
    (same : List.Forall₂ (SameHashed thousandths) (zoneMapOf response).zones
      (zoneMapOf (lastMessage before)).zones) :
    (reached thousandths round toFloat enabled size originX originY
        (before ++ [.mapUpdated visible now response])).widget.zones
      = (reached thousandths round toFloat enabled size originX originY before).widget.zones := by
  cases pass : passed before (.mapUpdated visible now response) with
  | none => exact (unpassed_zones pass).2
  | some response' =>
    obtain ⟨visible', now', event, passes⟩ := passed_eq_some pass
    cases event
    rw [reached_concat, step_zones (passed_guards passes), reached_signature,
      if_pos (signature_congr same)]

/-- A message with one zone that has no contour. -/
def zoneNamed (name : String) : GetMapResponse ℚ :=
  { GetMapResponse.empty with zoneMap := some ⟨[⟨1, 1, name, "", none, none, [], []⟩]⟩ }

/-- A zone that is renamed keeps its old name on the map. -/
theorem renamed_zone_missed :
    ¬ Along (ShowsCurrentZones thousandthsOfDouble roundHalfUp id true ⟨1, 1⟩ 0 0)
      [.mapUpdated true 100 (zoneNamed "dock"), .mapUpdated true 300 (zoneNamed "hall")] := by
  intro shown
  have current := shown [.mapUpdated true 100 (zoneNamed "dock")]
    (.mapUpdated true 300 (zoneNamed "hall")) [] rfl (zoneNamed "hall") (by decide)
  have names := congrArg (List.map MapWidget.ZoneOverlay.name) current
  revert names
  decide +kernel

end ZoneStaleness
