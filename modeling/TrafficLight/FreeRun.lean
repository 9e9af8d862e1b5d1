import TrafficLight.GreenTransfer
import TrafficLight.LampSequence
import TrafficLight.OverlayReturn

namespace TrafficLight.FreeRun

open TrafficLight.Protocol
open TrafficLight.LocalData
open TrafficLight.LocalTraffic
open TrafficLight.LocalMessages
open TrafficLight.LocalCore
open TrafficLight.SignalMachine
open TrafficLight.SignalView
open TrafficLight.SignalRefinement
open TrafficLight.SignalInvariant
open TrafficLight.SignalChanges
open TrafficLight.LocalSafety
open TrafficLight.LocalCommands
open TrafficLight.OverlayReturn
open TrafficLight.GreenPlan
open TrafficLight.GreenTransfer

variable {s : LocalState} {σ : Signal}

/-- No train is near. -/
structure Free (σ : Signal) : Prop where
  pending : σ.pending = false
  active : σ.active = false
  recovery : σ.recovery = 0

/-- What a tick makes of free signals. -/
inductive FreeTick (σ : Signal) (nsGreen : Int) : Signal → Prop
  | second (hlong : 1 < σ.remaining) : FreeTick σ nsGreen (elapse σ)
  | yellow (d : Direction) (hgreen : σ.stage = .green d) (hlast : σ.remaining = 1) :
      FreeTick σ nsGreen ((elapse σ).startStage (.yellow d) 2)
  | green (d : Direction) (hyellow : σ.stage = .yellow d) (hlast : σ.remaining = 1)
      (hnone : σ.coordination = none) :
      FreeTick σ nsGreen ((elapse σ).startGreen nsGreen d.other)
  | coordinated (d base : Direction) (offset : Int) (hyellow : σ.stage = .yellow d)
      (hlast : σ.remaining = 1) (hsome : σ.coordination = some (base, offset)) :
      FreeTick σ nsGreen ((elapse σ).coordinate base offset)

theorem Free.not_recovering (h : Free σ) : ¬ 0 < σ.recovery := by
  rw [h.recovery]
  decide

theorem Free.road (h : Free σ) (hsafe : SignalSafe σ) : σ.stage ≠ .hold :=
  hsafe.running h.active h.not_recovering

theorem Free.tick (h : Free σ) (hsafe : SignalSafe σ) (nsGreen : Int) :
    FreeTick σ nsGreen (σ.tick nsGreen) := by
  have hroad := h.road hsafe
  have hremaining := (hsafe.remaining hroad).1
  have htick : σ.tick nsGreen = σ.runTick nsGreen := by
    simp [Signal.tick, h.pending, h.active, h.recovery]
  obtain ⟨hstage, -, -, -, -, -, -, -, -, hcoordination⟩ := elapse_frame σ
  rw [htick, runTick_eq hsafe h.active h.not_recovering]
  split
  · have hlast : σ.remaining = 1 := by omega
    unfold Signal.advance
    rw [hstage, hcoordination]
    cases hs : σ.stage with
    | hold => exact absurd hs hroad
    | green d => exact .yellow d hs hlast
    | yellow d =>
        cases hc : σ.coordination with
        | none => exact .green d hs hlast hc
        | some point => exact .coordinated d point.1 point.2 hs hlast hc
  · exact .second (by omega)

theorem Free.elapse (h : Free σ) : Free (elapse σ) := by
  obtain ⟨-, -, -, -, -, -, hp, ha, hr, -⟩ := elapse_frame σ
  exact ⟨hp.trans h.pending, ha.trans h.active, hr.trans h.recovery⟩

theorem Free.startStage (h : Free σ) (stage : Stage) (duration : Int) :
    Free (σ.startStage stage duration) :=
  ⟨(startStage_pending ..).trans h.pending, (startStage_active ..).trans h.active,
    (startStage_recovery ..).trans h.recovery⟩

theorem Free.startGreen (h : Free σ) (nsGreen : Int) (d : Direction) :
    Free (σ.startGreen nsGreen d) :=
  ⟨(startGreen_pending ..).trans h.pending, (startGreen_active ..).trans h.active,
    (startGreen_recovery ..).trans h.recovery⟩

theorem Free.coordinate (h : Free σ) (base : Direction) (offset : Int) :
    Free (σ.coordinate base offset) := by
  unfold Signal.coordinate
  generalize cyclePosition base (offset.tmod 44) = target
  exact ⟨(startStage_pending ..).trans h.pending, (startStage_active ..).trans h.active,
    (startStage_recovery ..).trans h.recovery⟩

theorem Free.press (h : Free σ) (d : Direction) : Free (σ.press d) :=
  ⟨(press_pending ..).trans h.pending, (press_active ..).trans h.active,
    (press_recovery ..).trans h.recovery⟩

theorem press_frame (σ : Signal) (d : Direction) :
    (σ.press d).stage = σ.stage ∧ (σ.press d).coordination = σ.coordination ∧
      (σ.press d).remaining ≤ σ.remaining := by
  unfold Signal.press Signal.cap
  split
  · exact ⟨rfl, rfl, le_rfl⟩
  · split
    · exact ⟨rfl, rfl, le_rfl⟩
    · rename_i hcond
      have hlong : 10 < σ.remaining := by
        dsimp only at hcond
        omega
      have hbounds := @transferable_bounds
        { σ with request := Function.update σ.request d true } hlong d
      refine ⟨rfl, rfl, ?_⟩
      dsimp only
      omega

theorem coordinate_frame (σ : Signal) (base : Direction) {offset : Int} (h0 : 0 ≤ offset)
    (h44 : offset < 44) :
    (σ.coordinate base offset).stage = (cyclePosition base offset).1 ∧
      (σ.coordinate base offset).remaining = (cyclePosition base offset).2 ∧
      (σ.coordinate base offset).duration = (cyclePosition base offset).2 ∧
      (σ.coordinate base offset).coordination = none ∧
      (σ.coordinate base offset).initial = σ.initial := by
  unfold Signal.coordinate
  rw [Int.tmod_eq_of_lt h0 h44]
  exact ⟨startStage_stage .., startStage_remaining ..,
    (started_startStage ..).full.trans (startStage_remaining ..),
    startStage_coordination .., startStage_initial ..⟩

theorem Free.tick_free (h : Free σ) (hsafe : SignalSafe σ) (nsGreen : Int) :
    Free (σ.tick nsGreen) := by
  have htick := h.tick hsafe nsGreen
  generalize σ.tick nsGreen = σ' at htick
  cases htick with
  | second => exact h.elapse
  | yellow => exact h.elapse.startStage ..
  | green => exact h.elapse.startGreen ..
  | coordinated => exact h.elapse.coordinate ..

theorem Free.clear (h : Free σ) : σ.clear = σ := by
  simp [Signal.clear, h.active, h.pending]

theorem Free.step (h : Free σ) (hsafe : SignalSafe σ) {op : SignalOp} (hop : Undisturbing op) :
    Free (signalStep σ op) := by
  cases op with
  | idle => exact h
  | tick nsGreen => exact h.tick_free hsafe nsGreen
  | press d => exact h.press d
  | clear =>
      show Free σ.clear
      rw [h.clear]
      exact h
  | demoTrain | preempt | coordinate | reset => exact hop.elim

/-- A coordination command that is accepted. -/
def coordinatesNow (s : LocalState) : LocalOp → Bool
  | .frame msg _ => acceptsCoordination s msg
  | _ => false

/-- No train, no accepted coordination command and no reset. -/
def Calm (s : LocalState) (op : LocalOp) : Prop :=
  startsTrain s op = false ∧ coordinatesNow s op = false ∧ resets op = false

instance (s : LocalState) (op : LocalOp) : Decidable (Calm s op) := by
  unfold Calm
  infer_instance

theorem coordinatesNow_of_signalOp {op : LocalOp} {base : Direction} {offset : Int}
    (h : signalOp s op = .coordinate base offset) : coordinatesNow s op = true := by
  have hcoordinates := coordinates_of_signalOp h
  cases op with
  | frame msg draws =>
      have hhandler : handlerOf msg = some .coordination := of_decide_eq_true hcoordinates
      have hop : frameSignalOp s msg = .coordinate base offset := h
      unfold frameSignalOp at hop
      rw [hhandler] at hop
      dsimp only at hop
      unfold coordinationSignalOp at hop
      dsimp only at hop
      split at hop
      · rename_i hvalid
        exact decide_eq_true ⟨hhandler, hvalid⟩
      · cases hop
  | _ => cases hcoordinates

theorem undisturbing_of_calm {op : LocalOp} (h : Calm s op) : Undisturbing (signalOp s op) := by
  obtain ⟨hstart, hcoordinates, hreset⟩ := h
  refine undisturbing_signalOp hstart (fun base offset hop => ?_) hreset
  exact absurd ((coordinatesNow_of_signalOp hop).symm.trans hcoordinates) (by decide)

theorem tick_of_signalOp {op : LocalOp} {nsGreen : Int} (h : signalOp s op = .tick nsGreen) :
    nsGreen = greenTimeForDirection s .ns := by
  have hticks := signalOp_ticks s op
  rw [h] at hticks
  cases op with
  | trafficTick draws => exact (SignalOp.tick.inj h).symm
  | _ => cases hticks

end TrafficLight.FreeRun
