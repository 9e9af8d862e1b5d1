import TrafficLight.ModeRegime
import TrafficLight.SimLanguage

namespace TrafficLight.SimulationControl

open TrafficLight.Runs
open TrafficLight.Protocol
open TrafficLight.LocalData
open TrafficLight.LocalTraffic
open TrafficLight.LocalMessages
open TrafficLight.LocalCore
open TrafficLight.SignalRefinement
open TrafficLight.ModeRegime
open TrafficLight.CommandAgreement
open TrafficLight.SimLanguage

variable {s : LocalState} {msg : TestMessage} {command : SimCommand} {minute : Nat}

/-- The SIM1 command that a frame carries, if it is accepted. -/
def acceptedSim (s : LocalState) (msg : TestMessage) : Option SimCommand :=
  (parseSimCommand msg.data).filter fun command =>
    handlerOf msg = some .simulation ∧ msg.header.src = controllerCentral ∧
      msg.header.dst = controllerLocal ∧ targetMatchesLocal s (UInt8.ofNat command.target)

/-- Nothing changes but the simulated traffic: its timers, whether it runs, and for
TIME the clock and a mode that the time of day decides. The number of the command
and of the status are new. -/
def SimulationOnly (s : LocalState) (action : SimAction) (s' : LocalState) : Prop :=
  match action with
  | .start | .stop =>
      s' = { s with
        simRunning := s'.simRunning
        nextCarInSeconds := s'.nextCarInSeconds
        nextTrainInSeconds := s'.nextTrainInSeconds
        nextTrainDirection := s'.nextTrainDirection
        lastAppliedCommandId := s'.lastAppliedCommandId
        statusSequence := s'.statusSequence }
  | .time minute =>
      s' = { s with
        simSeconds := minute * 60
        nextCarInSeconds := s'.nextCarInSeconds
        nextTrainInSeconds := s'.nextTrainInSeconds
        nextTrainDirection := s'.nextTrainDirection
        trafficMode :=
          if s.manualModeOverride = false ∧ s.trafficMode ≠ .failsafe then dayMode (minute * 60)
          else s.trafficMode
        lastAppliedCommandId := s'.lastAppliedCommandId
        statusSequence := s'.statusSequence }

theorem acceptedSim_step (h : acceptedSim s msg = some command) (draws : Draws) :
    localStep s (.frame msg draws) =
      applied (simActionLocked s command.action draws) (UInt16.ofNat command.commandId) := by
  obtain ⟨hparsed, haccepted⟩ := Option.filter_eq_some_iff.mp h
  obtain ⟨hhandler, hroute⟩ := of_decide_eq_true haccepted
  show (localDispatchMessage s msg draws).1 = _
  rw [dispatch_eq, hhandler]
  show (handleSimulationMessage s msg _ draws).1 = _
  unfold handleSimulationMessage
  rw [hparsed]
  dsimp only
  rw [if_pos hroute]

theorem acceptedSim_minute (h : acceptedSim s msg = some command)
    (htime : command.action = .time minute) : minute ≤ 1439 := by
  obtain ⟨hparsed, -⟩ := Option.filter_eq_some_iff.mp h
  obtain ⟨spelled, hvalid, -, -, -, rfl⟩ := parseSimCommand_some hparsed
  have hminute := hvalid.minute
  unfold localAction at htime
  cases haction : spelled.action with
  | start | stop =>
      rw [haction] at htime
      cases htime
  | time =>
      rw [haction] at htime
      obtain rfl := SimAction.time.inj htime
      exact hminute

theorem clockOf_minute (h : minute ≤ 1439) : clockOf (minute * 60 : Nat) = minute * 60 := by
  have hday : ((minute * 60 : Nat) : Int).tmod secondsPerDay = minute * 60 := by
    rw [Int.tmod_eq_emod_of_nonneg (by omega), Int.emod_eq_of_lt (by omega)]
    · omega
    · unfold secondsPerDay
      omega
  unfold clockOf
  rw [hday, if_neg (by omega)]

theorem setSimMinute_eq (s : LocalState) (h : minute ≤ 1439) (draws : Draws) :
    ∃ car train direction sequence,
      setSimMinuteLocked s minute draws =
        { s with
          manualModeOverride := false
          manualSensorOverride := false
          simSeconds := minute * 60
          trafficMode :=
            if s.trafficMode ≠ .failsafe then dayMode (minute * 60) else s.trafficMode
          nextCarInSeconds := car
          nextTrainInSeconds := train
          nextTrainDirection := direction
          statusSequence := sequence } := by
  have hclock := clockOf_minute h
  unfold setSimMinuteLocked setSimSecondsLocked
  extract_lets t u w
  have hu : u = { s with
      manualModeOverride := false, manualSensorOverride := false, simSeconds := minute * 60 } := by
    rw [← hclock]
    dsimp only [u, t]
    unfold clockOf
    split
    · rfl
    · rfl
  have hw : w = { u with
      trafficMode := if s.trafficMode ≠ .failsafe then dayMode (minute * 60) else s.trafficMode
      statusSequence := w.statusSequence } := by
    dsimp only [w]
    rw [hu]
    unfold applyTimeSettingsLocked
    by_cases hfailed : s.trafficMode ≠ .failsafe
    · rw [if_pos ⟨rfl, hfailed⟩, if_pos hfailed]
      rfl
    · rw [if_neg fun hboth => hfailed hboth.2, if_neg hfailed]
  refine ⟨randomCarGapSeconds w draws, randomTrainGapSeconds w draws, randomTrainDirection draws,
    w.statusSequence, ?_⟩
  generalize randomCarGapSeconds w draws = car
  generalize randomTrainGapSeconds w draws = train
  rw [hw, hu]

/-- START and STOP stay within the simulation; TIME does exactly if there is no
override that it could take away. -/
theorem simulation_only_iff {draws : Draws} (h : acceptedSim s msg = some command) :
    SimulationOnly s command.action (localStep s (.frame msg draws)) ↔
      ∀ minute, command.action = .time minute →
        s.manualModeOverride = false ∧ s.manualSensorOverride = false := by
  rw [acceptedSim_step h draws]
  cases haction : command.action with
  | start | stop => exact iff_of_true rfl nofun
  | time minute =>
      obtain ⟨car, train, direction, sequence, hset⟩ :=
        setSimMinute_eq s (acceptedSim_minute h haction) draws
      dsimp only [simActionLocked]
      rw [hset]
      constructor
      · rintro honly _ -
        exact ⟨(congrArg LocalState.manualModeOverride honly).symm,
          (congrArg LocalState.manualSensorOverride honly).symm⟩
      · intro hnone
        obtain ⟨hmode, hsensor⟩ := hnone minute rfl
        simp only [SimulationOnly, applied, markStatusDirtyLocked, hmode, hsensor, true_and]

/-- Central sets the clock of I1 to eight in the morning. -/
def eightFrame : TestMessage :=
  frameOf msgTest controllerCentral controllerLocal
    (Decimal.ascii ['S', 'I', 'M', '1', ' ', '0', ' ', '1', ' ', 'T', 'I', 'M', 'E', ' ',
      '4', '8', '0'])

/-- At boot there is no override. -/
theorem simulation_only_iff_boot :
    SimulationOnly (localStateInit 0 Draws.zero) (.time 480)
      (localStep (localStateInit 0 Draws.zero) (.frame eightFrame Draws.zero)) :=
  (@simulation_only_iff _ _ ⟨0, 1, .time 480⟩ Draws.zero (by decide)).mpr
    fun _ _ => ⟨rfl, rfl⟩

/-- The operator chose the mode on the console; the clock of Central takes it over. -/
theorem time_drops_override :
    let s := localStep (localStateInit 0 Draws.zero) (.input ['m'] Draws.zero)
    let s' := localStep s (.frame eightFrame Draws.zero)
    acceptedSim s eightFrame = some ⟨0, 1, .time 480⟩ ∧ s.manualModeOverride = true ∧
      s'.manualModeOverride = false := by
  decide

end TrafficLight.SimulationControl
