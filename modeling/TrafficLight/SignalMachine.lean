import TrafficLight.LocalTraffic

/-!
The purpose of a Local: one pair of signals that takes turns, serves
pedestrians and gives way to trains. The two directions are symmetric here and
the environment is reduced to what the signals depend on. Timing constants are
those of the protocol with equal Greens on both approaches.
-/

namespace TrafficLight.SignalMachine

open TrafficLight.Protocol
open TrafficLight.LocalData
open TrafficLight.LocalTraffic

/-- Which approach has the road. -/
inductive Stage
  | green (d : Direction)
  | yellow (d : Direction)
  | hold
  deriving DecidableEq

/-- The lamp of each direction in a stage. -/
def Stage.lamp : Stage → Direction → LightState
  | .green d, d' => if d' = d then .green else .red
  | .yellow d, d' => if d' = d then .yellow else .red
  | .hold, _ => .red

theorem lamp_green (stage : Stage) (d : Direction) : stage.lamp d = .green ↔ stage = .green d := by
  cases stage with
  | green d' | yellow d' => by_cases h : d = d' <;> simp [Stage.lamp, h, eq_comm]
  | hold => simp [Stage.lamp]

theorem lamp_yellow (stage : Stage) (d : Direction) :
    stage.lamp d = .yellow ↔ stage = .yellow d := by
  cases stage with
  | green d' | yellow d' => by_cases h : d = d' <;> simp [Stage.lamp, h, eq_comm]
  | hold => simp [Stage.lamp]

@[ext] structure Signal where
  stage : Stage
  initial : Direction
  light : Direction → LightState
  walk : Direction → Bool
  request : Direction → Bool
  remaining : Int
  duration : Int
  cycle : Direction → Int
  extra : Direction → Int
  planned : Bool
  pending : Bool
  active : Bool
  waiting : Bool
  pass : Int
  recovery : Int
  coordination : Option (Direction × Int)

def Signal.showLights (σ : Signal) : Signal :=
  if σ.active ∨ 0 < σ.recovery ∨ σ.stage = .hold then
    { σ with light := fun _ => .red, walk := fun _ => false }
  else { σ with light := σ.stage.lamp }

def Signal.startStage (σ : Signal) (stage : Stage) (duration : Int) : Signal :=
  { σ with stage, duration, remaining := duration, walk := fun _ => false }.showLights

/-- The Greens of the next pair, given the Green the sensors ask for on NS. -/
def Signal.plan (σ : Signal) (nsGreen : Int) : Signal :=
  let ns := min (max nsGreen (greenMinSec + σ.extra .ew)) (greenMaxSec - σ.extra .ns)
  { σ with
    cycle := fun
      | .ns => ns
      | .ew => 2 * greenBaseSec - ns
    planned := true }

/-- The pair is planned anew before the Green of the initial direction. -/
def Signal.planFor (σ : Signal) (nsGreen : Int) (d : Direction) : Signal :=
  if σ.planned = false ∨ d = σ.initial then σ.plan nsGreen else σ

def Signal.startGreen (σ : Signal) (nsGreen : Int) (d : Direction) : Signal :=
  let σ := σ.planFor nsGreen d
  { σ with extra := Function.update σ.extra d 0 }.startStage (.green d)
    (clampGreenTime (σ.cycle d + σ.extra d))

/-- The stage and remaining time at a position of the 44-second cycle. -/
def cyclePosition (base : Direction) (position : Int) : Stage × Int :=
  if position < 20 then (.green base, 20 - position)
  else if position < 22 then (.yellow base, 22 - position)
  else if position < 42 then (.green base.other, 42 - position)
  else (.yellow base.other, 44 - position)

def Signal.coordinate (σ : Signal) (base : Direction) (offset : Int) : Signal :=
  let (stage, remaining) := cyclePosition base (offset.tmod 44)
  { σ with
    extra := fun _ => 0, cycle := fun _ => 20, planned := true
    coordination := none }.startStage stage remaining

def Signal.advance (σ : Signal) (nsGreen : Int) : Signal :=
  match σ.stage, σ.coordination with
  | .green d, _ => σ.startStage (.yellow d) 2
  | .yellow _, some (base, offset) => σ.coordinate base offset
  | .yellow d, none => σ.startGreen nsGreen d.other
  | .hold, _ => σ.startGreen nsGreen .ns

/-- Pedestrians cross a direction in the Green of the other one. -/
def Signal.serves (σ : Signal) (d : Direction) : Bool :=
  σ.stage = .green d.other ∧ 1 ≤ σ.duration - σ.remaining ∧ 5 < σ.remaining

def Signal.serveWalk (σ : Signal) : Signal :=
  if σ.active ∨ 0 < σ.recovery then { σ with walk := fun _ => false }
  else
    { σ with
      walk := σ.serves
      request := fun d => if σ.serves d then false else σ.request d }

/-- The seconds that can move from the running Green to the direction's own. -/
def Signal.transferable (σ : Signal) (d : Direction) : Int :=
  let capacity :=
    if d.other = σ.initial ∧ σ.planned then greenMaxSec - σ.cycle d - σ.extra d
    else greenMaxSec - greenMinSec - σ.extra .ns - σ.extra .ew
  min (σ.remaining - 10) (max capacity 0)

def Signal.cap (σ : Signal) (d : Direction) : Signal :=
  if σ.stage ≠ .green d.other ∨ σ.remaining ≤ 10 then σ
  else
    { σ with
      remaining := σ.remaining - σ.transferable d
      duration := σ.duration - σ.transferable d
      extra := Function.update σ.extra d (σ.extra d + σ.transferable d) }

def Signal.press (σ : Signal) (d : Direction) : Signal :=
  if σ.request d then σ
  else { σ with request := Function.update σ.request d true }.cap d

def Signal.startTrain (σ : Signal) (waiting : Bool) (pass : Int) : Signal :=
  if σ.active ∨ σ.pending then σ
  else
    let σ := { σ with pending := true, waiting, pass, recovery := 0, extra := fun _ => 0 }
    match σ.stage with
    | .green d => σ.startStage (.yellow d) 2
    | .yellow _ => σ
    | .hold => { σ with pending := false, active := true }.startStage .hold 0

def Signal.preempt (σ : Signal) (eta : Int) : Signal :=
  if σ.active ∨ σ.pending then
    let σ := { σ with waiting := true, pass := eta }
    if σ.active then σ.startStage .hold 0 else σ
  else σ.startTrain true eta

def Signal.clear (σ : Signal) : Signal :=
  if σ.active ∨ σ.pending then
    { σ with
      pending := false, active := false, waiting := false, pass := 0
      recovery := railwayRecoverySec, extra := fun _ => 0 }.startStage .hold railwayRecoverySec
  else σ

def Signal.reset (σ : Signal) : Signal :=
  { σ with
    request := fun _ => false, walk := fun _ => false, extra := fun _ => 0
    pending := false, active := false, waiting := false, pass := 0, recovery := 0
    coordination := none }.startGreen 20 σ.initial

def Signal.countDown (σ : Signal) : Signal :=
  { σ with remaining := if 0 < σ.remaining then σ.remaining - 1 else σ.remaining }

def Signal.pendingTick (σ : Signal) : Signal :=
  let σ := σ.countDown.showLights
  if σ.remaining ≤ 0 then { σ with pending := false, active := true }.startStage .hold 0
  else σ

def Signal.countPass (σ : Signal) : Signal :=
  { σ with pass := if 0 < σ.pass then σ.pass - 1 else σ.pass }

def Signal.activeTick (σ : Signal) : Signal :=
  let σ := σ.countPass
  if σ.waiting then { σ with stage := .hold, remaining := σ.pass }.showLights
  else if σ.pass ≤ 0 then σ.clear
  else σ.startStage .hold σ.pass

def Signal.recoveryTick (σ : Signal) (nsGreen : Int) : Signal :=
  let σ := { σ with
    recovery := σ.recovery - 1, stage := .hold, remaining := σ.recovery - 1 }.showLights
  if σ.recovery = 0 then σ.startGreen nsGreen σ.initial else σ

def Signal.runTick (σ : Signal) (nsGreen : Int) : Signal :=
  let σ := σ.countDown.showLights.serveWalk
  if σ.remaining ≤ 0 then σ.advance nsGreen else σ

def Signal.tick (σ : Signal) (nsGreen : Int) : Signal :=
  if σ.pending then σ.pendingTick
  else if σ.active then σ.activeTick
  else if 0 < σ.recovery then σ.recoveryTick nsGreen
  else σ.runTick nsGreen

/-- What can happen to the signals. -/
inductive SignalOp
  | idle
  | tick (nsGreen : Int)
  | press (d : Direction)
  | demoTrain
  | preempt (eta : Int)
  | clear
  | coordinate (base : Direction) (offset : Int)
  | reset

def SignalOp.ticks : SignalOp → Nat
  | .tick _ => 1
  | _ => 0

def signalStep (σ : Signal) : SignalOp → Signal
  | .idle => σ
  | .tick nsGreen => σ.tick nsGreen
  | .press d => σ.press d
  | .demoTrain => σ.startTrain false trainPassingSeconds
  | .preempt eta => σ.preempt eta
  | .clear => σ.clear
  | .coordinate base offset => { σ with coordination := some (base, offset) }
  | .reset => σ.reset

end TrafficLight.SignalMachine
