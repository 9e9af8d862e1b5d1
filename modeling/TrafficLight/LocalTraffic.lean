import TrafficLight.LocalData

/-!
Signal timing, from `local_traffic.c` and `local_pedestrian.c`, and the
simulated environment of `local_simulation.c`. The branches of
`traffic_tick_locked` are definitions of their own, in the order of the source.
-/

namespace TrafficLight.LocalTraffic

open TrafficLight.Protocol
open TrafficLight.LocalData

def clampGreenTime (seconds : Int) : Int :=
  if seconds < greenMinSec then greenMinSec
  else if seconds > greenMaxSec then greenMaxSec
  else seconds

def configuredGreenTimeForDirection (s : LocalState) (direction : Direction) : Int :=
  let seconds := if direction = .ns then s.nsGreenSec else s.ewGreenSec
  let seconds := if seconds ≤ 0 then greenBaseSec else seconds
  clampGreenTime seconds

def localFixedCycleSecondsLocked (s : LocalState) : Int :=
  configuredGreenTimeForDirection s .ns + yellowSec +
    configuredGreenTimeForDirection s .ew + yellowSec

def greenTimeForDirection (s : LocalState) (direction : Direction) : Int :=
  let nsHigh := s.sensorNsCount ≥ sensorCarThreshold
  let ewHigh := s.sensorEwCount ≥ sensorCarThreshold
  let seconds := configuredGreenTimeForDirection s direction
  let seconds :=
    if s.trafficMode = .sensor then
      if direction = .ns ∧ nsHigh ∧ ¬ ewHigh then seconds + sensorAdjustSec
      else if direction = .ns ∧ ewHigh ∧ ¬ nsHigh then seconds - sensorAdjustSec
      else if direction = .ew ∧ ewHigh ∧ ¬ nsHigh then seconds + sensorAdjustSec
      else if direction = .ew ∧ nsHigh ∧ ¬ ewHigh then seconds - sensorAdjustSec
      else seconds
    else seconds
  clampGreenTime seconds

/-- Room is reserved for pedestrian time carried across the cycle boundary. -/
def localPlanCycleLocked (s : LocalState) : LocalState :=
  let ns := greenTimeForDirection s .ns
  let minimum := greenMinSec + s.pedExtraEwGreen
  let maximum := greenMaxSec - s.pedExtraNsGreen
  let ns := if ns < minimum then minimum else ns
  let ns := if ns > maximum then maximum else ns
  { s with
    cycleNsGreen := ns
    cycleEwGreen := 2 * greenBaseSec - ns
    cyclePlanValid := true }

/-- The seconds of the next Green and the state with its extra consumed. -/
def nextGreenTimeForDirection (s : LocalState) (direction : Direction) : Int × LocalState :=
  let phase := if direction = .ns then Phase.nsGreen else Phase.ewGreen
  let s := if s.cyclePlanValid = false ∨ phase = s.initialPhase
    then localPlanCycleLocked s else s
  let seconds := if direction = .ns then s.cycleNsGreen else s.cycleEwGreen
  if direction = .ns then
    (clampGreenTime (seconds + s.pedExtraNsGreen), { s with pedExtraNsGreen := 0 })
  else
    (clampGreenTime (seconds + s.pedExtraEwGreen), { s with pedExtraEwGreen := 0 })

def updateLightsLocked (s : LocalState) : LocalState :=
  if s.trainActive ∨ s.trainRecoveryRemaining > 0 ∨ s.phase = .railwayHold then
    { s with nsLight := .red, ewLight := .red, pedNsWalk := false, pedEwWalk := false }
  else
    match s.phase with
    | .nsGreen => { s with nsLight := .green, ewLight := .red }
    | .nsYellow => { s with nsLight := .yellow, ewLight := .red }
    | .ewGreen => { s with nsLight := .red, ewLight := .green }
    | .ewYellow => { s with nsLight := .red, ewLight := .yellow }
    | .railwayHold => { s with nsLight := .red, ewLight := .red }

def setPhaseLocked (s : LocalState) (phase : Phase) (duration : Int) : LocalState :=
  markStatusDirtyLocked <| updateLightsLocked
    { s with
      phase := phase
      phaseDuration := duration
      timeRemaining := duration
      pedNsWalk := false
      pedEwWalk := false }

def setInitialPhaseLocked (s : LocalState) : LocalState :=
  let direction := if s.initialPhase = .ewGreen then Direction.ew else .ns
  let (seconds, s) := nextGreenTimeForDirection s direction
  setPhaseLocked s s.initialPhase seconds

def setCoordinationPhaseLocked (s : LocalState) (basePhase : Phase) (offsetSec : Int) :
    LocalState :=
  let s :=
    { s with
      pedExtraNsGreen := 0
      pedExtraEwGreen := 0
      cycleNsGreen := configuredGreenTimeForDirection s .ns
      cycleEwGreen := configuredGreenTimeForDirection s .ew
      cyclePlanValid := true }
  let firstDirection := if basePhase = .nsGreen then Direction.ns else .ew
  let secondDirection := if basePhase = .nsGreen then Direction.ew else .ns
  let firstGreenSec := configuredGreenTimeForDirection s firstDirection
  let secondGreenSec := configuredGreenTimeForDirection s secondDirection
  let cycleSec := firstGreenSec + secondGreenSec + 2 * yellowSec
  let offset := offsetSec.tmod cycleSec
  let firstGreen := basePhase
  let firstYellow := if basePhase = .nsGreen then Phase.nsYellow else .ewYellow
  let secondGreen := if basePhase = .nsGreen then Phase.ewGreen else .nsGreen
  let secondYellow := if basePhase = .nsGreen then Phase.ewYellow else .nsYellow
  if offset < firstGreenSec then
    setPhaseLocked s firstGreen (firstGreenSec - offset)
  else if offset < firstGreenSec + yellowSec then
    setPhaseLocked s firstYellow (firstGreenSec + yellowSec - offset)
  else if offset < firstGreenSec + yellowSec + secondGreenSec then
    setPhaseLocked s secondGreen (firstGreenSec + yellowSec + secondGreenSec - offset)
  else
    setPhaseLocked s secondYellow (cycleSec - offset)

def advancePhaseLocked (s : LocalState) : LocalState :=
  if s.coordinationPending ∧ (s.phase = .nsYellow ∨ s.phase = .ewYellow) then
    { setCoordinationPhaseLocked s s.coordinationPhase s.coordinationOffsetSec with
      coordinationPending := false }
  else
    match s.phase with
    | .nsGreen => setPhaseLocked s .nsYellow yellowSec
    | .nsYellow =>
        let (seconds, s) := nextGreenTimeForDirection s .ew
        setPhaseLocked s .ewGreen seconds
    | .ewGreen => setPhaseLocked s .ewYellow yellowSec
    | .ewYellow | .railwayHold =>
        let (seconds, s) := nextGreenTimeForDirection s .ns
        setPhaseLocked s .nsGreen seconds

def pedestrianServicePhase (phase : Phase) (direction : Direction) : Bool :=
  (phase = .ewGreen ∧ direction = .ns) ∨ (phase = .nsGreen ∧ direction = .ew)

/-- Both halves test the time that was elapsed at the start. -/
def updatePedestrianLocked (s : LocalState) : LocalState :=
  let elapsed := s.phaseDuration - s.timeRemaining
  if s.trainActive ∨ s.trainRecoveryRemaining > 0 then
    { s with pedNsWalk := false, pedEwWalk := false }
  else
    let s :=
      if pedestrianServicePhase s.phase .ns ∧ elapsed ≥ pedWalkStartSec ∧
          s.timeRemaining > pedWalkEndSec then
        { s with pedNsWalk := true, pedNsRequest := false }
      else { s with pedNsWalk := false }
    if pedestrianServicePhase s.phase .ew ∧ elapsed ≥ pedWalkStartSec ∧
        s.timeRemaining > pedWalkEndSec then
      { s with pedEwWalk := true, pedEwRequest := false }
    else { s with pedEwWalk := false }

/-- A transfer to the second phase must fit its already allocated Green. -/
def capGreenForPedestrianLocked (s : LocalState) (direction : Direction) : LocalState :=
  if pedestrianServicePhase s.phase direction = false ∨ s.timeRemaining ≤ pedGreenCapSec then s
  else
    let elapsed := s.phaseDuration - s.timeRemaining
    let removed := s.timeRemaining - pedGreenCapSec
    let capacity :=
      if s.phase = s.initialPhase ∧ s.cyclePlanValid then
        let next := if direction = .ns then s.cycleNsGreen else s.cycleEwGreen
        let extra := if direction = .ns then s.pedExtraNsGreen else s.pedExtraEwGreen
        greenMaxSec - next - extra
      else greenMaxSec - greenMinSec - s.pedExtraNsGreen - s.pedExtraEwGreen
    let capacity := if capacity < 0 then 0 else capacity
    let removed := if removed > capacity then capacity else removed
    let timeRemaining := s.timeRemaining - removed
    let s := { s with timeRemaining, phaseDuration := elapsed + timeRemaining }
    if direction = .ns then { s with pedExtraNsGreen := s.pedExtraNsGreen + removed }
    else { s with pedExtraEwGreen := s.pedExtraEwGreen + removed }

def addPedestrianRequestLocked (s : LocalState) (direction : Direction) : LocalState :=
  let alreadyRequested := if direction = .ns then s.pedNsRequest else s.pedEwRequest
  let s := if direction = .ns then { s with pedNsRequest := true }
    else { s with pedEwRequest := true }
  let s := if alreadyRequested then s else capGreenForPedestrianLocked s direction
  markStatusDirtyLocked s

/-! ### Trains -/

def startTrainCommonLocked (s : LocalState) (direction : Int) (waitForClear : Bool)
    (etaSeconds : Int) : LocalState :=
  if s.trainActive ∨ s.trainPending then s
  else
    let s :=
      { s with
        trainPending := true
        trainDirection := direction
        trainPassRemaining := if waitForClear then etaSeconds else trainPassingSeconds
        trainWaitingForClear := waitForClear
        trainRecoveryRemaining := 0
        nextTrainInSeconds := 0
        pedExtraNsGreen := 0
        pedExtraEwGreen := 0 }
    let s :=
      if s.phase = .nsGreen then setPhaseLocked s .nsYellow yellowSec
      else if s.phase = .ewGreen then setPhaseLocked s .ewYellow yellowSec
      else if s.phase ≠ .nsYellow ∧ s.phase ≠ .ewYellow then
        setPhaseLocked { s with trainPending := false, trainActive := true } .railwayHold 0
      else s
    markStatusDirtyLocked s

def startTrainLocked (s : LocalState) (direction : Int) : LocalState :=
  startTrainCommonLocked s direction false 0

/-- A repeated message must not skip or restart the clearing Yellow. -/
def startTrainMessageLocked (s : LocalState) (direction : Int) (etaSeconds : Int) :
    LocalState :=
  let etaSeconds := if etaSeconds < 0 then 0 else etaSeconds
  if s.trainActive ∨ s.trainPending then
    let s :=
      { s with
        trainDirection := direction
        trainWaitingForClear := true
        trainPassRemaining := etaSeconds
        nextTrainInSeconds := 0 }
    let s := if s.trainActive then setPhaseLocked s .railwayHold 0 else s
    markStatusDirtyLocked s
  else startTrainCommonLocked s direction true etaSeconds

def clearTrainLocked (s : LocalState) : LocalState :=
  if s.trainActive ∨ s.trainPending then
    let s :=
      { s with
        trainPending := false
        trainActive := false
        trainDirection := 0
        trainPassRemaining := 0
        trainWaitingForClear := false
        trainRecoveryRemaining := railwayRecoverySec
        pedExtraNsGreen := 0
        pedExtraEwGreen := 0 }
    markStatusDirtyLocked (setPhaseLocked s .railwayHold railwayRecoverySec)
  else s

/-! ### The simulated environment -/

def isPeakTime (seconds : Int) : Bool :=
  let hour := seconds.tdiv 3600
  (hour ≥ 7 ∧ hour < 9) ∨ (hour ≥ 16 ∧ hour < 18)

def isNightTime (seconds : Int) : Bool :=
  let hour := seconds.tdiv 3600
  hour ≥ 22 ∨ hour < 5

def randomTrainGapSeconds (s : LocalState) (draws : Draws) : Int :=
  if isPeakTime s.simSeconds then 120 + (draws.trainGap % 181 : Nat)
  else if isNightTime s.simSeconds then 1080 + (draws.trainGap % 361 : Nat)
  else 480 + (draws.trainGap % 421 : Nat)

def randomTrainDirection (draws : Draws) : Int :=
  (draws.trainDirection % 2 : Nat) + 1

def randomCarGapSeconds (s : LocalState) (draws : Draws) : Int :=
  if isPeakTime s.simSeconds then 2 + (draws.carGap % 3 : Nat)
  else if isNightTime s.simSeconds then 14 + (draws.carGap % 12 : Nat)
  else 5 + (draws.carGap % 6 : Nat)

def addCarLocked (s : LocalState) (direction : Direction) : LocalState :=
  if direction = .ns ∧ s.sensorNsCount < maxSensorCars then
    { s with sensorNsCount := s.sensorNsCount + 1 }
  else if direction = .ew ∧ s.sensorEwCount < maxSensorCars then
    { s with sensorEwCount := s.sensorEwCount + 1 }
  else s

def letCarsPassLocked (s : LocalState) (direction : Direction) : LocalState :=
  let carsToPass := if isPeakTime s.simSeconds then 2 else 1
  if direction = .ns then
    let carsToPass := if s.sensorNsCount < carsToPass then s.sensorNsCount else carsToPass
    { s with sensorNsCount := s.sensorNsCount - carsToPass }
  else
    let carsToPass := if s.sensorEwCount < carsToPass then s.sensorEwCount else carsToPass
    { s with sensorEwCount := s.sensorEwCount - carsToPass }

def applyTimeSettingsLocked (s : LocalState) : LocalState :=
  if s.manualModeOverride = false ∧ s.trafficMode ≠ .failsafe then
    markStatusDirtyLocked
      { s with trafficMode := if isPeakTime s.simSeconds then .fixed else .sensor }
  else s

def updateTemporaryModeLocked (s : LocalState) : LocalState :=
  if s.tempModeRemaining ≤ 0 then s
  else
    let s := { s with tempModeRemaining := s.tempModeRemaining - 1 }
    if s.tempModeRemaining = 0 then
      markStatusDirtyLocked <| applyTimeSettingsLocked
        { s with
          trafficMode := s.tempReturnMode
          manualModeOverride := s.tempReturnManualOverride }
    else s

/-- Green reduces the count; red keeps cars waiting. -/
def letTrafficPass (s : LocalState) : LocalState :=
  if s.trainPending = false ∧ s.trainActive = false ∧ s.trainRecoveryRemaining ≤ 0 then
    if s.phase = .nsGreen then letCarsPassLocked s .ns
    else if s.phase = .ewGreen then letCarsPassLocked s .ew
    else s
  else s

/-- Random arrivals increase NS (0), EW (1) or both (2). -/
def arriveCars (s : LocalState) (draws : Draws) : LocalState :=
  let arrival := draws.arrival % 3
  let s := if arrival = 0 ∨ arrival = 2 then addCarLocked s .ns else s
  let s := if arrival = 1 ∨ arrival = 2 then addCarLocked s .ew else s
  { s with nextCarInSeconds := randomCarGapSeconds s draws }

def countCar (s : LocalState) : LocalState :=
  if s.nextCarInSeconds > 0 then { s with nextCarInSeconds := s.nextCarInSeconds - 1 } else s

def updateVehicleCountsLocked (s : LocalState) (draws : Draws) : LocalState :=
  if s.simRunning = false then s
  else
    let s := letTrafficPass s
    if s.manualSensorOverride then s
    else
      let s := countCar s
      if s.nextCarInSeconds ≤ 0 then arriveCars s draws else s

/-- No train and no link to the Train controller. -/
def trainIdle (s : LocalState) : Bool :=
  s.trainPending = false ∧ s.trainActive = false ∧ s.trainRecoveryRemaining ≤ 0 ∧
    s.trainConnected = false

/-- The simulated clock and the countdown to the next train. -/
def advanceClock (s : LocalState) : LocalState :=
  let s := applyTimeSettingsLocked
    { s with simSeconds := (s.simSeconds + simSecondsPerTick).tmod secondsPerDay }
  if trainIdle s ∧ s.nextTrainInSeconds > 0 then
    { s with nextTrainInSeconds := s.nextTrainInSeconds - 1 }
  else s

def updateTimeOfDayLocked (s : LocalState) : LocalState :=
  if s.simRunning = false then s
  else
    let s := advanceClock s
    if s.nextTrainInSeconds ≤ 0 ∧ trainIdle s then
      { startTrainLocked s s.nextTrainDirection with nextTrainInSeconds := 0 }
    else s

def setSimSecondsLocked (s : LocalState) (seconds : Int) (draws : Draws) : LocalState :=
  let s := { s with simSeconds := seconds.tmod secondsPerDay }
  let s := if s.simSeconds < 0 then { s with simSeconds := s.simSeconds + secondsPerDay }
    else s
  let s := applyTimeSettingsLocked s
  { s with
    nextTrainInSeconds := randomTrainGapSeconds s draws
    nextTrainDirection := randomTrainDirection draws
    nextCarInSeconds := randomCarGapSeconds s draws }

def setSimHourLocked (s : LocalState) (hour : Int) (draws : Draws) : LocalState :=
  setSimSecondsLocked { s with manualModeOverride := false, manualSensorOverride := false }
    (hour * 3600) draws

def setSimMinuteLocked (s : LocalState) (minute : Nat) (draws : Draws) : LocalState :=
  setSimSecondsLocked { s with manualModeOverride := false, manualSensorOverride := false }
    (minute * 60 : Nat) draws

def toggleSensorLocked (s : LocalState) (direction : Direction) : LocalState :=
  let s := { s with manualSensorOverride := true }
  markStatusDirtyLocked <|
    if direction = .ns then
      { s with
        sensorNsCount := if s.sensorNsCount ≥ sensorCarThreshold then 0 else demoHighCarCount }
    else
      { s with
        sensorEwCount := if s.sensorEwCount ≥ sensorCarThreshold then 0 else demoHighCarCount }

def resetDemoInputsLocked (s : LocalState) (draws : Draws) : LocalState :=
  let s :=
    { s with
      sensorNsCount := 0
      sensorEwCount := 0
      pedNsRequest := false
      pedEwRequest := false
      pedNsWalk := false
      pedEwWalk := false
      manualModeOverride := false
      manualSensorOverride := false
      trainPending := false
      trainActive := false
      trainDirection := 0
      trainPassRemaining := 0
      trainWaitingForClear := false
      trainRecoveryRemaining := 0
      tempModeRemaining := 0
      coordinationPending := false
      coordinationOffsetSec := 0
      pedExtraNsGreen := 0
      pedExtraEwGreen := 0
      simRunning := true }
  let s := clearFaultLocked s
  let s :=
    { s with
      nextTrainInSeconds := randomTrainGapSeconds s draws
      nextTrainDirection := randomTrainDirection draws
      nextCarInSeconds := randomCarGapSeconds s draws }
  markStatusDirtyLocked (setInitialPhaseLocked (applyTimeSettingsLocked s))

/-! ### The traffic tick -/

/-- Both stored outputs are green. -/
def enterFailsafe (s : LocalState) : LocalState :=
  setFaultLocked
    { s with
      trafficMode := .failsafe
      phase := .railwayHold
      timeRemaining := 0
      nsLight := .red
      ewLight := .red
      pedNsWalk := false
      pedEwWalk := false }
    .notWorking .critical "conflicting green"

def failsafeTick (s : LocalState) : LocalState :=
  markStatusDirtyLocked (updateLightsLocked { s with phase := .railwayHold, timeRemaining := 0 })

/-- One second less of the running phase. -/
def countDown (s : LocalState) : LocalState :=
  if s.timeRemaining > 0 then { s with timeRemaining := s.timeRemaining - 1 } else s

/-- One second less until the train has passed. -/
def countPass (s : LocalState) : LocalState :=
  if s.trainPassRemaining > 0 then { s with trainPassRemaining := s.trainPassRemaining - 1 }
  else s

/-- The clearing Yellow before the hold. -/
def trainPendingTick (s : LocalState) : LocalState :=
  let s := updateLightsLocked (countDown s)
  if s.timeRemaining ≤ 0 then
    setPhaseLocked { s with trainPending := false, trainActive := true } .railwayHold 0
  else s

def trainActiveTick (s : LocalState) : LocalState :=
  let s := countPass s
  if s.trainWaitingForClear then
    markStatusDirtyLocked <| updateLightsLocked
      { s with phase := .railwayHold, timeRemaining := s.trainPassRemaining }
  else if s.trainPassRemaining ≤ 0 then clearTrainLocked s
  else setPhaseLocked s .railwayHold s.trainPassRemaining

def recoveryTick (s : LocalState) (draws : Draws) : LocalState :=
  let s := { s with trainRecoveryRemaining := s.trainRecoveryRemaining - 1 }
  let s := updateLightsLocked
    { s with phase := .railwayHold, timeRemaining := s.trainRecoveryRemaining }
  if s.trainRecoveryRemaining = 0 then
    let s := if s.simRunning ∧ s.trainConnected = false then
        { s with
          nextTrainInSeconds := randomTrainGapSeconds s draws
          nextTrainDirection := randomTrainDirection draws }
      else s
    setInitialPhaseLocked s
  else s

def normalTick (s : LocalState) : LocalState :=
  let s := updatePedestrianLocked (updateLightsLocked (countDown s))
  if s.timeRemaining ≤ 0 then advancePhaseLocked s else s

def trafficTickLocked (s : LocalState) (draws : Draws) : LocalState :=
  if s.nsLight = .green ∧ s.ewLight = .green then enterFailsafe s
  else if s.trafficMode = .failsafe then failsafeTick s
  else if s.trainPending then trainPendingTick s
  else if s.trainActive then trainActiveTick s
  else if s.trainRecoveryRemaining > 0 then recoveryTick s draws
  else normalTick s

end TrafficLight.LocalTraffic
