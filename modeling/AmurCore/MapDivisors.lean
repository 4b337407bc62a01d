import AmurCore.MapStaleness

/-!
# The divisors of the map

Every conversion of coordinates divides by the scale or by the resolution of the
map. The scale is kept between its limits by whatever changes it. The resolution
comes from a message as it is, 0 where the message has none, and the checks of
`setMapData` do not look at it.
-/

namespace MapDivisors

open EventRuns MapMessages MapRefresh MapGeometry MapStaleness

/-- While there is a map, both divisors are positive. -/
def Divisible (widget : MapWidget.State) : Prop :=
  widget.mapImage.isSome = true → 0 < widget.mapResolution ∧ 0 < widget.scaleFactor

/-- While there is a map, its resolution is positive. -/
def Resolved (widget : MapWidget.State) : Prop :=
  widget.mapImage.isSome = true → 0 < widget.mapResolution

section Run
variable (thousandths : ℚ → UInt64) (round : ℚ → ℤ) (toFloat : ℚ → ℚ) (enabled : Bool)
  (size : MapClicks.ImageSize) (originX originY : ℚ)

/-- A map that the call hands on and the widget takes over has a positive resolution. -/
def GivesResolution (before : List Event) : Event → Prop
  | .mapUpdated visible now response =>
    let dialog := (reached thousandths round toFloat enabled size originX originY before).dialog
    let map := mapOf response
    passesGuards visible now dialog.lastUpdateTimer = true → hasMapChanged response dialog = true →
      MapWidget.accepts (cellsOf map) map.width.toInt32.toInt map.height.toInt32.toInt = true →
      0 < map.resolution
  | .widget _ => True

end Run

variable {thousandths : ℚ → UInt64} {round : ℚ → ℤ} {toFloat : ℚ → ℚ} {enabled : Bool}
  {size : MapClicks.ImageSize} {originX originY : ℚ}

/-! ### The scale -/

/-- The widget behind the dialog is one that the calls on it have led to. -/
theorem reached_widget (events : List Event) :
    MapWidget.Reaches round toFloat
      (widgetCalls thousandths round toFloat enabled size originX originY events)
      (reached thousandths round toFloat enabled size originX originY events).widget := by
  refine ⟨size, originX, originY, ?_⟩
  induction events using List.reverseRecOn with
  | nil => rfl
  | append_singleton before e ih =>
    rw [reached_concat, widgetCalls_concat, run_append, ← ih]
    cases e <;> rfl

theorem divisible_iff_resolved (events : List Event) :
    Divisible (reached thousandths round toFloat enabled size originX originY events).widget ↔
      Resolved (reached thousandths round toFloat enabled size originX originY events).widget := by
  have scale := reaches_scale_pos
    (@reached_widget thousandths round toFloat enabled size originX originY events)
  exact imp_congr_right fun _ => and_iff_left scale

/-! ### The resolution -/

theorem resolved_congr {widget widget' : MapWidget.State} (same : SameMap widget widget') :
    Resolved widget' ↔ Resolved widget := by
  rw [Resolved, Resolved, same.1, same.2.1]

theorem giveMap_resolved_iff (map : OccupancyGrid ℚ) (widget : MapWidget.State) :
    Resolved (giveMap map widget) ↔
      (MapWidget.accepts (cellsOf map) map.width.toInt32.toInt map.height.toInt32.toInt = true →
        0 < map.resolution) := by
  cases accepted : MapWidget.accepts (cellsOf map) map.width.toInt32.toInt
      map.height.toInt32.toInt with
  | true =>
    have shows := setMapData_shows accepted map.resolution (originOf map).positionX
      (originOf map).positionY widget
    rw [Resolved, giveMap, shows.image, shows.resolution]
    simp
  | false =>
    rw [Resolved, giveMap, setMapData_refused accepted]
    simp

/-- What one event does to a widget whose map is resolved. -/
theorem step_resolved_iff {before : List Event}
    (resolved : Resolved
      (reached thousandths round toFloat enabled size originX originY before).widget)
    (e : Event) :
    Resolved
        (reached thousandths round toFloat enabled size originX originY (before ++ [e])).widget ↔
      GivesResolution thousandths round toFloat enabled size originX originY before e := by
  rw [reached_concat]
  cases e with
  | widget e =>
    rw [resolved_congr (step_widget_sameMap e)]
    exact iff_of_true resolved trivial
  | mapUpdated visible now response =>
    rw [GivesResolution]
    generalize reached thousandths round toFloat enabled size originX originY before = s at resolved
    cases passes : passesGuards visible now s.dialog.lastUpdateTimer with
    | false =>
      rw [step_refused passes]
      exact iff_of_true resolved (fun passes => nomatch passes)
    | true =>
      cases changed : hasMapChanged response s.dialog with
      | false =>
        rw [resolved_congr (step_unchanged passes changed)]
        exact iff_of_true resolved (fun _ changed => nomatch changed)
      | true =>
        rw [resolved_congr (step_changed passes changed), giveMap_resolved_iff]
        exact ⟨fun given _ _ => given, fun given => given rfl rfl⟩

/-- The conversions divide by positive numbers throughout a run exactly when
every map that the widget takes over along it has a positive resolution. -/
theorem divisors_positive_iff (events : List Event) :
    Throughout
        (fun es => Divisible
          (reached thousandths round toFloat enabled size originX originY es).widget)
        events ↔
      Along (GivesResolution thousandths round toFloat enabled size originX originY) events := by
  have initial : Divisible
      (reached thousandths round toFloat enabled size originX originY []).widget :=
    fun shown => nomatch shown
  refine throughout_iff_along initial (fun before e throughout => ?_) events
  have resolved := (divisible_iff_resolved before).mp
    (throughout before [] (List.append_nil before).symm)
  rw [divisible_iff_resolved]
  exact step_resolved_iff resolved e

/-- A message that leaves the resolution out is taken over as a map. -/
theorem missing_resolution_divides :
    (reached thousandthsOfDouble roundHalfUp id true ⟨1, 1⟩ 0 0
        [.mapUpdated true 100 (oneCellAt 0)]).widget.mapResolution = 0 ∧
    ¬ Throughout
        (fun es => Divisible (reached thousandthsOfDouble roundHalfUp id true ⟨1, 1⟩ 0 0 es).widget)
        [.mapUpdated true 100 (oneCellAt 0)] := by
  refine ⟨by decide +kernel, fun throughout => ?_⟩
  have divisible := throughout [.mapUpdated true 100 (oneCellAt 0)] [] rfl
  have positive := (divisible (by decide +kernel)).1
  revert positive
  decide +kernel

end MapDivisors
