import TrafficLight.OverlayReturn

namespace TrafficLight.FailsafeLatch

open TrafficLight.Runs
open TrafficLight.Protocol
open TrafficLight.LocalData
open TrafficLight.LocalTraffic
open TrafficLight.LocalMessages
open TrafficLight.LocalCore
open TrafficLight.SignalMachine
open TrafficLight.SignalView
open TrafficLight.SignalRefinement
open TrafficLight.FailsafeAlarm
open TrafficLight.ModeRegime
open TrafficLight.OverlayReturn

variable {s : LocalState}

/-- Fail-safe mode, both lamps red and nobody walking. -/
structure Latched (s : LocalState) : Prop where
  mode : s.trafficMode = .failsafe
  lights : s.nsLight = .red ∧ s.ewLight = .red
  walks : s.pedNsWalk = false ∧ s.pedEwWalk = false

/-- What may release the latch: an accepted mode or coordination command, and two
keys of the console. -/
def releases (s : LocalState) : LocalOp → Bool
  | .frame msg _ => commands s msg
  | .input command _ => command ∈ [['m'], ['r']]
  | _ => false

/-- An overlay ends, and what it returns to is not fail-safe. -/
def Reopens (s : LocalState) : LocalOp → Prop
  | .temporaryMode => s.tempModeRemaining = 1 ∧ s.tempReturnMode ≠ .failsafe
  | _ => False

instance (s : LocalState) : DecidablePred (Reopens s)
  | .temporaryMode => inferInstanceAs (Decidable (_ ∧ _ ≠ _))
  | .linkTimeout | .timeOfDay | .trafficTick _ | .vehicleCounts _ | .markDirty | .frame _ _
  | .input _ _ | .links _ _ => inferInstanceAs (Decidable False)

/-- The road is held, and the lamps show it. -/
structure Dark (σ : Signal) : Prop where
  stage : σ.stage = .hold
  light : σ.light = fun _ => .red
  walk : σ.walk = fun _ => false

theorem dark_showLights {σ : Signal} (h : σ.stage = .hold) : Dark σ.showLights := by
  unfold Signal.showLights
  rw [if_pos (.inr (.inr h))]
  exact ⟨h, rfl, rfl⟩

theorem dark_startHold (σ : Signal) (duration : Int) : Dark (σ.startStage .hold duration) :=
  dark_showLights rfl

theorem Dark.startTrain {σ : Signal} (h : Dark σ) (waiting : Bool) (pass : Int) :
    Dark (σ.startTrain waiting pass) := by
  unfold Signal.startTrain
  split
  · exact h
  · dsimp only
    rw [h.stage]
    exact dark_startHold _ 0

theorem Dark.preempt {σ : Signal} (h : Dark σ) (eta : Int) : Dark (σ.preempt eta) := by
  unfold Signal.preempt
  dsimp only
  split_ifs
  · exact dark_startHold _ 0
  · exact ⟨h.stage, h.light, h.walk⟩
  · exact h.startTrain true eta

theorem Dark.clear {σ : Signal} (h : Dark σ) : Dark σ.clear := by
  unfold Signal.clear
  split
  · exact dark_startHold _ railwayRecoverySec
  · exact h

theorem Dark.lights (h : Dark (signalOf s)) : s.nsLight = .red ∧ s.ewLight = .red :=
  ⟨congrFun h.light .ns, congrFun h.light .ew⟩

theorem Dark.walks (h : Dark (signalOf s)) : s.pedNsWalk = false ∧ s.pedEwWalk = false :=
  ⟨congrFun h.walk .ns, congrFun h.walk .ew⟩

theorem Dark.addPedestrianRequest (h : Dark (signalOf s)) (d : Direction) :
    Dark (signalOf (addPedestrianRequestLocked s d)) := by
  have hphase : s.phase = .railwayHold := (stageOf_eq_hold _).mp h.stage
  have hcap : ∀ t : LocalState, t.phase = .railwayHold →
      capGreenForPedestrianLocked t d = t := by
    intro t ht
    unfold capGreenForPedestrianLocked
    rw [if_pos]
    left
    rw [ht]
    cases d <;> rfl
  unfold addPedestrianRequestLocked
  extract_lets requested t u
  have ht : t.phase = .railwayHold ∧ Dark (signalOf t) := by
    dsimp only [t]
    split
    · exact ⟨hphase, h.stage, h.light, h.walk⟩
    · exact ⟨hphase, h.stage, h.light, h.walk⟩
  have hu : u = t := by
    dsimp only [u]
    split
    · rfl
    · exact hcap t ht.1
  rw [signalOf_markStatusDirty, hu]
  exact ht.2

theorem Dark.railwayMessage (h : Dark (signalOf s)) (msg : TestMessage) (reply : Reply) :
    Dark (signalOf (handleRailwayMessage s msg reply).1) := by
  rw [signalOf_handleRailwayMessage]
  unfold railwaySignalOp
  dsimp only
  split_ifs
  · exact h.preempt _
  · exact h.clear
  · exact h
  · exact h

theorem Dark.dispatch (h : Dark (signalOf s)) (msg : TestMessage) (draws : Draws) :
    Dark (signalOf (localDispatchMessage s msg draws).1) := by
  rw [dispatch_eq]
  cases handlerOf msg with
  | none => exact h
  | some handler =>
      cases handler with
      | test => exact h
      | simulation =>
          dsimp only [Handler.run]
          rw [signalOf_handleSimulationMessage]
          exact h
      | mode =>
          dsimp only [Handler.run]
          rw [signalOf_handleModeCommand]
          exact h
      | coordination =>
          dsimp only [Handler.run]
          rw [signalOf_handleCoordinationCommand]
          unfold coordinationSignalOp
          dsimp only
          split
          · exact ⟨h.stage, h.light, h.walk⟩
          · exact h
      | sensor =>
          dsimp only [Handler.run]
          rw [signalOf_handleSensorUpdate]
          exact h
      | ped =>
          dsimp only [Handler.run]
          unfold handlePedRequest
          dsimp only
          split
          · exact h.addPedestrianRequest _
          · exact h
      | railway => exact h.railwayMessage msg _

theorem Dark.executeKey (h : Dark (signalOf s)) {key : Char} (hkey : key ≠ 'r')
    (draws : Draws) : Dark (signalOf (executeKey s key draws)) := by
  have hsensor : ∀ d, Dark (signalOf (toggleSensorLocked s d)) := by
    intro d
    rw [signalOf_toggleSensor]
    exact h
  have htrain : ∀ direction, Dark (signalOf (startTrainLocked s direction)) := by
    intro direction
    unfold startTrainLocked
    rw [signalOf_startTrainCommon]
    exact h.startTrain ..
  have hhour : ∀ hour, Dark (signalOf (setSimHourLocked s hour draws)) := by
    intro hour
    unfold setSimHourLocked
    rw [signalOf_setSimSeconds]
    exact h
  unfold LocalMessages.executeKey
  split
  · exact h
  · exact h.addPedestrianRequest .ns
  · exact h.addPedestrianRequest .ew
  · exact hsensor .ns
  · exact hsensor .ew
  · exact htrain 1
  · exact htrain 2
  · rw [signalOf_clearTrain]
    exact h.clear
  · exact absurd rfl hkey
  · exact hhour 7
  · exact hhour 12
  · exact hhour 22
  · exact h

theorem Dark.step (h : Dark (signalOf s)) (hmode : s.trafficMode = .failsafe) {op : LocalOp}
    (hop : releases s op = false) : Dark (signalOf (localStep s op)) := by
  cases op with
  | linkTimeout | markDirty | links => exact h
  | timeOfDay =>
      show Dark (signalOf (updateTimeOfDayLocked s))
      rw [signalOf_updateTimeOfDay]
      split
      · exact h.startTrain ..
      · exact h
  | temporaryMode =>
      show Dark (signalOf (updateTemporaryModeLocked s))
      rw [signalOf_updateTemporaryMode]
      exact h
  | trafficTick draws =>
      have hlights : ¬ (s.nsLight = .green ∧ s.ewLight = .green) := by
        rw [h.lights.1]
        exact fun hboth => LightState.noConfusion hboth.1
      show Dark (signalOf (trafficTickLocked s draws))
      unfold trafficTickLocked
      rw [if_neg hlights, if_pos hmode]
      unfold failsafeTick
      rw [signalOf_markStatusDirty, signalOf_updateLights]
      exact dark_showLights rfl
  | vehicleCounts draws =>
      show Dark (signalOf (updateVehicleCountsLocked s draws))
      rw [signalOf_updateVehicleCounts]
      exact h
  | frame msg draws => exact h.dispatch msg draws
  | input command draws =>
      unfold localStep executeCommand
      dsimp only
      split
      · rename_i hvalid
        refine Dark.executeKey h (fun hreset => ?_) draws
        rw [eq_of_validInput hvalid, hreset] at hop
        cases hop
      · exact h

theorem dayMode_ne_failsafe (seconds : Int) : dayMode seconds ≠ .failsafe := by
  unfold dayMode
  split
  · exact TrafficLightMode.noConfusion
  · exact TrafficLightMode.noConfusion

theorem byDay_lift (r : Regime) (seconds : Int) :
    (r.lift.byDay (dayMode seconds)).mode = .failsafe ↔ r.returnMode = .failsafe := by
  by_cases hreturn : r.returnMode = .failsafe
  · rw [Regime.byDay_of_failsafe hreturn]
    exact iff_of_true hreturn hreturn
  · refine iff_of_false ?_ hreturn
    unfold Regime.byDay
    split
    · exact dayMode_ne_failsafe seconds
    · exact hreturn

theorem failsafe_step (h : s.trafficMode = .failsafe) {op : LocalOp} (hop : releases s op = false) :
    (localStep s op).trafficMode = .failsafe ↔ ¬ Reopens s op := by
  have hcause := cause s op
  have hkept : ∀ op, op ≠ .temporaryMode → ¬ Reopens s op := by
    rintro op hne hreopens
    cases op with
    | temporaryMode => exact hne rfl
    | _ => exact hreopens
  rw [← regimeOf_mode, regimeOf_localStep]
  generalize regimeOp s op = rop at hcause
  cases hcause with
  | keep op hother => exact iff_of_true h (hkept op hother)
  | day day =>
      have hsame : regimeStep (regimeOf s) (.day day) = regimeOf s := Regime.byDay_of_failsafe h day
      rw [hsame]
      exact iff_of_true h (hkept _ nofun)
  | second =>
      show ((regimeOf s).second (dayMode s.simSeconds)).mode = .failsafe ↔ ¬ (_ ∧ _)
      unfold Regime.second
      rw [regimeOf_remaining]
      by_cases hnone : s.tempModeRemaining ≤ 0
      · rw [if_pos hnone]
        exact iff_of_true h fun hlast => by omega
      · rw [if_neg hnone]
        by_cases hlast : s.tempModeRemaining = 1
        · rw [if_pos hlast, byDay_lift, regimeOf_returnMode, and_iff_right hlast, not_not]
        · rw [if_neg hlast]
          exact iff_of_true h fun hreopens => hlast hreopens.1
  | conflict draws hlights => exact iff_of_true rfl (hkept _ nofun)
  | set msg draws haccepts | temporary msg draws haccepts | revert msg draws haccepts =>
      have hcommand := commands_of_accepts haccepts
      exact Bool.noConfusion (hop.symm.trans hcommand)
  | coordinate msg draws haccepts =>
      have hcommand : commands s msg = true := by
        unfold commands
        rw [haccepts, Bool.or_true]
      exact Bool.noConfusion (hop.symm.trans hcommand)
  | time msg draws htime day =>
      have hsame := @Regime.byDay_of_failsafe { regimeOf s with manual := false } h day
      show (Regime.byDay _ day).mode = _ ↔ _
      rw [hsame]
      exact iff_of_true h (hkept _ nofun)
  | toggle | reset => cases hop
  | hour command draws hkey day =>
      have hsame := @Regime.byDay_of_failsafe { regimeOf s with manual := false } h day
      show (Regime.byDay _ day).mode = _ ↔ _
      rw [hsame]
      exact iff_of_true h (hkept _ nofun)

theorem latched_of_dark (hmode : s.trafficMode = .failsafe) (h : Dark (signalOf s)) : Latched s :=
  ⟨hmode, h.lights, h.walks⟩

theorem dark_enterFailsafe (s : LocalState) : Dark (signalOf (enterFailsafe s)) where
  stage := rfl
  light := pair_ext rfl rfl
  walk := pair_ext rfl rfl

/-- Both lamps of any state turn green, and a traffic tick finds them so: without
a command the road stays dark in fail-safe exactly if no overlay ends that returns
to another mode. -/
theorem latched_iff (s : LocalState) (draws : Draws) {ops : List LocalOp} :
    let detected := trafficTickLocked { s with nsLight := .green, ewLight := .green } draws
    Along localStep (fun s op => releases s op = false) detected ops →
      (Throughout localStep Latched detected ops ↔
        Along localStep (fun s op => ¬ Reopens s op) detected ops) := by
  intro detected hops
  have hdetected : detected = enterFailsafe { s with nsLight := .green, ewLight := .green } :=
    if_pos ⟨rfl, rfl⟩
  refine @throughout_iff_of_invariant _ _ localStep _ _ _
    (fun s => s.trafficMode = .failsafe ∧ Dark (signalOf s)) ?_
    (fun s hs => latched_of_dark hs.1 hs.2) ?_ _ _ ?_ hops
  · rintro s op ⟨hmode, hdark⟩ hop hstays
    exact ⟨(failsafe_step hmode hop).mpr hstays, hdark.step hmode hop⟩
  · rintro s op ⟨hmode, -⟩ hop hlatched
    exact (failsafe_step hmode hop).mp hlatched.mode
  · rw [hdetected]
    exact ⟨rfl, dark_enterFailsafe _⟩

/-- With no overlay the latch holds over a tick and a train. -/
theorem latched_iff_train :
    Throughout localStep Latched
      (trafficTickLocked
        { localStateInit 0 Draws.zero with nsLight := .green, ewLight := .green } Draws.zero)
      ((CoreStep.tick false Draws.zero).ops ++ (CoreStep.input ['1'] Draws.zero).ops) :=
  (latched_iff (localStateInit 0 Draws.zero) Draws.zero (by decide)).mpr (by decide)

/-- The last second of an overlay is left when the lamps fail: the next core tick
gives a Green. -/
theorem overlay_reopens :
    let s := localStep (localStateInit 0 Draws.zero) (.frame (temporaryFrame .fixed 1) Draws.zero)
    let detected := trafficTickLocked { s with nsLight := .green, ewLight := .green } Draws.zero
    let ticked := coreStep detected (.tick false Draws.zero)
    detected.trafficMode = .failsafe ∧ ticked.trafficMode = .sensor ∧ ticked.nsLight = .green := by
  decide

end TrafficLight.FailsafeLatch
