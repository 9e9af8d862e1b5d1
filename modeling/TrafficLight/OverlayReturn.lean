import TrafficLight.FailsafeAlarm
import TrafficLight.ModeRegime
import TrafficLight.LocalSafety

namespace TrafficLight.OverlayReturn

open TrafficLight.Runs
open TrafficLight.Protocol
open TrafficLight.LocalData
open TrafficLight.LocalTraffic
open TrafficLight.LocalMessages
open TrafficLight.LocalCore
open TrafficLight.SignalRefinement
open TrafficLight.LocalSafety
open TrafficLight.FailsafeAlarm
open TrafficLight.ModeRegime

variable {s : LocalState} {msg : TestMessage}

/-- A mode command that is accepted, with its action. -/
def acceptsAction (s : LocalState) (msg : TestMessage) (action : UInt8) : Bool :=
  let command := ModeCmdMsg.ofData msg.data
  handlerOf msg = some .mode ∧ modeCommandValid s msg command ∧
    (modeActionLocked s command).isSome ∧ command.action = action

def acceptsCoordination (s : LocalState) (msg : TestMessage) : Bool :=
  handlerOf msg = some .coordination ∧
    coordinationCommandValid s msg (CoordinationCommandMsg.ofData msg.data)

theorem acceptsAction_iff {action : UInt8} :
    acceptsAction s msg action = true ↔
      handlerOf msg = some .mode ∧ modeCommandValid s msg (ModeCmdMsg.ofData msg.data) = true ∧
        (modeActionLocked s (ModeCmdMsg.ofData msg.data)).isSome = true ∧
          (ModeCmdMsg.ofData msg.data).action = action := by
  simp only [acceptsAction, decide_eq_true_eq]

/-- The reply says OK exactly when the command is accepted. -/
theorem accepted_iff (s : LocalState) (reply : Reply) (h : handlerOf msg = some .mode) :
    (handleModeCommand s msg reply).2.status = 0 ↔
      acceptsAction s msg (ModeCmdMsg.ofData msg.data).action = true := by
  rw [acceptsAction_iff]
  unfold handleModeCommand
  dsimp only
  by_cases hvalid : modeCommandValid s msg (ModeCmdMsg.ofData msg.data) = true
  · rw [if_pos hvalid]
    cases haction : modeActionLocked s (ModeCmdMsg.ofData msg.data) with
    | none => simp [replyStatus]
    | some s' => simp [replyStatus, h, hvalid]
  · rw [if_neg hvalid]
    simp [replyStatus, hvalid]

theorem modeAction_isSome {command : ModeCmdMsg} :
    (modeActionLocked s command).isSome = true ↔
      (command.action = cmdSetMode ∧ command.durationSec = 0) ∨
        (command.action = cmdTemporary ∧ command.durationSec > 0) ∨
          (command.action = cmdRevert ∧ command.durationSec = 0) := by
  unfold modeActionLocked
  split
  · simp_all
  · split
    · simp_all
    · split
      · simp_all
      · simp_all

theorem frameRegimeOp_accepts {action : UInt8} (h : acceptsAction s msg action = true) :
    frameRegimeOp s msg =
      if action = cmdSetMode then .set (trafficModeOfByte (ModeCmdMsg.ofData msg.data).newMode)
      else if action = cmdTemporary then
        .temporary (trafficModeOfByte (ModeCmdMsg.ofData msg.data).newMode)
          (ModeCmdMsg.ofData msg.data).durationSec.toNat
      else .revert := by
  obtain ⟨hhandler, hvalid, haction, rfl⟩ := acceptsAction_iff.mp h
  unfold frameRegimeOp
  rw [hhandler]
  dsimp only
  unfold modeRegimeOp
  dsimp only
  rw [if_pos hvalid]
  rcases modeAction_isSome.mp haction with hset | htemporary | hrevert
  · rw [if_pos hset, if_pos hset.1]
  · have hnot : ¬ (ModeCmdMsg.ofData msg.data).action = cmdSetMode := by
      rw [htemporary.1]
      decide
    rw [if_neg fun hset => hnot hset.1, if_pos htemporary, if_neg hnot, if_pos htemporary.1]
  · have hset : ¬ (ModeCmdMsg.ofData msg.data).action = cmdSetMode := by
      rw [hrevert.1]
      decide
    have htemporary : ¬ (ModeCmdMsg.ofData msg.data).action = cmdTemporary := by
      rw [hrevert.1]
      decide
    rw [if_neg fun h => hset h.1, if_neg fun h => htemporary h.1, if_pos hrevert, if_neg hset,
      if_neg htemporary]

/-- An accepted SIM1 TIME. -/
def setsTime (s : LocalState) (msg : TestMessage) : Bool :=
  match parseSimCommand msg.data with
  | some { target, commandId := _, action := .time _ } =>
      handlerOf msg = some .simulation ∧ msg.header.src = controllerCentral ∧
        msg.header.dst = controllerLocal ∧ targetMatchesLocal s (UInt8.ofNat target)
  | _ => false

/-- What an operation can be for the regime, and what it is then as an operation. -/
inductive Cause (s : LocalState) : LocalOp → RegimeOp → Prop
  | keep (op : LocalOp) (h : op ≠ .temporaryMode) : Cause s op .keep
  | day (day : TrafficLightMode) : Cause s .timeOfDay (.day day)
  | second : Cause s .temporaryMode (.second (dayMode s.simSeconds))
  | conflict (draws : Draws) (h : s.nsLight = .green ∧ s.ewLight = .green) :
      Cause s (.trafficTick draws) .conflict
  | set (msg : TestMessage) (draws : Draws) (h : acceptsAction s msg cmdSetMode = true)
      (mode : TrafficLightMode) : Cause s (.frame msg draws) (.set mode)
  | temporary (msg : TestMessage) (draws : Draws) (h : acceptsAction s msg cmdTemporary = true)
      (mode : TrafficLightMode) (seconds : Int) :
      Cause s (.frame msg draws) (.temporary mode seconds)
  | revert (msg : TestMessage) (draws : Draws) (h : acceptsAction s msg cmdRevert = true) :
      Cause s (.frame msg draws) .revert
  | coordinate (msg : TestMessage) (draws : Draws) (h : acceptsCoordination s msg = true) :
      Cause s (.frame msg draws) .coordinate
  | time (msg : TestMessage) (draws : Draws) (h : setsTime s msg = true)
      (day : TrafficLightMode) : Cause s (.frame msg draws) (.retime day)
  | toggle (draws : Draws) : Cause s (.input ['m'] draws) .toggle
  | reset (draws : Draws) (day : TrafficLightMode) : Cause s (.input ['r'] draws) (.reset day)
  | hour (command : List Char) (draws : Draws) (h : command ∈ [['p'], ['o'], ['l']])
      (day : TrafficLightMode) : Cause s (.input command draws) (.retime day)

theorem cause_mode (draws : Draws) (hhandler : handlerOf msg = some .mode) :
    Cause s (.frame msg draws) (modeRegimeOp s msg) := by
  have haccepts : ∀ action, modeCommandValid s msg (ModeCmdMsg.ofData msg.data) = true →
      (modeActionLocked s (ModeCmdMsg.ofData msg.data)).isSome = true →
        (ModeCmdMsg.ofData msg.data).action = action → acceptsAction s msg action = true :=
    fun action hvalid hsome haction => acceptsAction_iff.mpr ⟨hhandler, hvalid, hsome, haction⟩
  unfold modeRegimeOp
  dsimp only
  split_ifs with hvalid hset htemporary hrevert
  · exact .set msg draws (haccepts _ hvalid (modeAction_isSome.mpr (.inl hset)) hset.1) _
  · exact .temporary msg draws
      (haccepts _ hvalid (modeAction_isSome.mpr (.inr (.inl htemporary))) htemporary.1) _ _
  · exact .revert msg draws
      (haccepts _ hvalid (modeAction_isSome.mpr (.inr (.inr hrevert))) hrevert.1)
  · exact .keep _ nofun
  · exact .keep _ nofun

theorem cause_frame (s : LocalState) (msg : TestMessage) (draws : Draws) :
    Cause s (.frame msg draws) (frameRegimeOp s msg) := by
  unfold frameRegimeOp
  split
  case h_1 hhandler => exact cause_mode draws hhandler
  case h_2 hhandler =>
    unfold coordinationRegimeOp
    split
    · rename_i hvalid
      exact .coordinate msg draws (decide_eq_true ⟨hhandler, hvalid⟩)
    · exact .keep _ nofun
  case h_3 hhandler =>
    unfold simRegimeOp
    split
    · rename_i hparse
      split
      · rename_i hroute
        refine .time msg draws ?_ _
        unfold setsTime
        rw [hparse]
        exact decide_eq_true ⟨hhandler, hroute⟩
      · exact .keep _ nofun
    · exact .keep _ nofun
  case h_4 => exact .keep _ nofun

theorem cause_key (s : LocalState) (key : Char) (draws : Draws) :
    Cause s (.input [key] draws) (keyRegimeOp s key) := by
  unfold keyRegimeOp
  split
  · exact .toggle draws
  · exact .reset draws _
  · exact .hour _ draws (by decide) _
  · exact .hour _ draws (by decide) _
  · exact .hour _ draws (by decide) _
  · exact .keep _ nofun

theorem cause (s : LocalState) (op : LocalOp) : Cause s op (regimeOp s op) := by
  cases op with
  | linkTimeout | vehicleCounts | markDirty | links => exact .keep _ nofun
  | temporaryMode => exact .second
  | frame msg draws => exact cause_frame s msg draws
  | timeOfDay =>
      unfold regimeOp
      dsimp only
      split
      · exact .day _
      · exact .keep _ nofun
  | trafficTick draws =>
      unfold regimeOp
      dsimp only
      split
      · rename_i hlights
        exact .conflict draws hlights
      · exact .keep _ nofun
  | input command draws =>
      unfold regimeOp
      dsimp only
      split
      · rename_i hvalid
        have hkey := cause_key s (command.headD ' ') draws
        rw [← eq_of_validInput hvalid] at hkey
        exact hkey
      · exact .keep _ nofun

/-- The mode in force before the first of nested overlays, and whether it was a
manual one. -/
structure Baseline where
  mode : TrafficLightMode
  manual : Bool

/-- A temporary request with no overlay running lies over what is in force. -/
def noteBaseline (s : LocalState) (step : AlarmStep) (_ : LocalState) (b : Baseline) : Baseline :=
  match step with
  | .op (.frame msg _) =>
      if acceptsAction s msg cmdTemporary ∧ s.tempModeRemaining ≤ 0 then
        ⟨s.trafficMode, s.manualModeOverride⟩
      else b
  | _ => b

/-- A running overlay remembers its baseline. -/
def Remembers (w : LocalState × Baseline) : Prop :=
  0 < w.1.tempModeRemaining →
    w.1.tempReturnMode = w.2.mode ∧ w.1.tempReturnManualOverride = w.2.manual

theorem remembers_step {w : LocalState × Baseline} (h : Remembers w) (step : AlarmStep) :
    Remembers (watch alarmStep noteBaseline w step) := by
  obtain ⟨s, b⟩ := w
  cases step with
  | greens => exact h
  | op op =>
      intro hrunning
      have hregime := regimeOf_localStep s op
      have hreturnMode := congrArg Regime.returnMode hregime
      have hreturnManual := congrArg Regime.returnManual hregime
      have hremaining := congrArg Regime.remaining hregime
      rw [regimeOf_returnMode] at hreturnMode
      rw [regimeOf_returnManual] at hreturnManual
      rw [regimeOf_remaining] at hremaining
      dsimp only [watch, alarmStep] at hrunning ⊢
      by_cases hop : ∃ mode seconds, regimeOp s op = .temporary mode seconds
      · obtain ⟨mode, seconds, hop⟩ := hop
        have hcause := cause s op
        rw [hop] at hcause hreturnMode hreturnManual
        cases hcause with
        | temporary msg draws haccepts =>
            rw [hreturnMode, hreturnManual]
            unfold noteBaseline regimeStep Regime.temporary
            dsimp only
            rw [regimeOf_remaining, haccepts]
            by_cases hfirst : s.tempModeRemaining ≤ 0
            · rw [if_pos hfirst, if_pos hfirst, if_pos ⟨rfl, hfirst⟩]
              exact ⟨rfl, rfl⟩
            · rw [if_neg hfirst, if_neg hfirst, if_neg fun hnew => hfirst hnew.2]
              exact h (by dsimp only; omega)
      · push Not at hop
        obtain ⟨hmode, hmanual, hbefore⟩ := @regimeStep_overlay (regimeOf s) (regimeOp s op) hop
        rw [← hremaining] at hbefore
        have hkept : noteBaseline s (.op op) (localStep s op) b = b := by
          cases op with
          | frame msg draws =>
              refine if_neg fun hnew => ?_
              exact hop _ _ (frameRegimeOp_accepts hnew.1)
          | linkTimeout | timeOfDay | temporaryMode | trafficTick | vehicleCounts | markDirty
          | input | links => rfl
        rw [hkept, hreturnMode, hreturnManual, hmode, hmanual]
        exact h (hbefore hrunning)

/-- The overlay expires at this instant: its countdown is in its last second. -/
def expireNow (s : LocalState) : LocalState :=
  updateTemporaryModeLocked { s with tempModeRemaining := 1 }

/-- Mode, override flag and countdown are the same. -/
def Alike (s s' : LocalState) : Prop :=
  s.trafficMode = s'.trafficMode ∧ s.manualModeOverride = s'.manualModeOverride ∧
    s.tempModeRemaining = s'.tempModeRemaining

/-- The baseline is back: a manual mode as it was, otherwise the mode of the time. -/
def BackTo (b : Baseline) (seconds : Int) (s : LocalState) : Prop :=
  s.trafficMode = (if b.manual then b.mode else dayMode seconds) ∧
    s.manualModeOverride = b.manual ∧ s.tempModeRemaining = 0

theorem tempModeRemaining_booted (h : Booted s) : s.tempModeRemaining = 0 := by
  obtain ⟨intersectionId, draws, rfl⟩ := h
  unfold localStateInit
  generalize intersectionOf intersectionId = id
  fin_cases id <;> rfl

/-- After any history, a revert does what the expiry would do at the same instant,
and both lead back to the baseline, exactly if the remembered mode is a manual one
or the mode of the present time of day. -/
theorem revert_iff_expire {s₀ : LocalState} (hboot : Booted s₀) (b₀ : Baseline)
    (steps : List AlarmStep) (msg : TestMessage) (draws : Draws) :
    let w := run (watch alarmStep noteBaseline) (s₀, b₀) steps
    let s := w.1
    let reverted := localStep s (.frame msg draws)
    0 < s.tempModeRemaining → s.tempReturnMode ≠ .failsafe →
      acceptsAction s msg cmdRevert = true →
        ((Alike reverted (expireNow s) ∧ BackTo w.2 s.simSeconds reverted ∧
            BackTo w.2 s.simSeconds (expireNow s)) ↔
          s.tempReturnManualOverride = true ∨ s.tempReturnMode = dayMode s.simSeconds) := by
  intro w s reverted hrunning hmode haccepts
  have hremembers : Remembers w := by
    refine @run_invariant _ _ (watch alarmStep noteBaseline) Remembers
      (fun w step hw => remembers_step hw step) (s₀, b₀) ?_ steps
    intro hearly
    have hnone : s₀.tempModeRemaining = 0 := tempModeRemaining_booted hboot
    rw [hnone] at hearly
    exact absurd hearly (by decide)
  obtain ⟨hreturnMode, hreturnManual⟩ :
      s.tempReturnMode = w.2.mode ∧ s.tempReturnManualOverride = w.2.manual := hremembers hrunning
  have hreverted : regimeOf reverted = (regimeOf s).lift := by
    have hop : regimeOp s (.frame msg draws) = .revert := frameRegimeOp_accepts haccepts
    rw [regimeOf_localStep, hop]
    show (regimeOf s).revert = _
    unfold Regime.revert
    rw [regimeOf_remaining, if_pos hrunning]
    exact if_neg hmode
  have hexpired : regimeOf (expireNow s) = (regimeOf s).lift.byDay (dayMode s.simSeconds) :=
    regimeOf_updateTemporaryMode { s with tempModeRemaining := 1 }
  have hexpiredMode : (expireNow s).trafficMode =
      if s.tempReturnManualOverride then s.tempReturnMode else dayMode s.simSeconds := by
    refine (congrArg Regime.mode hexpired).trans ?_
    cases hmanual : s.tempReturnManualOverride with
    | true => exact congrArg Regime.mode (Regime.byDay_of_manual hmanual _)
    | false => exact congrArg Regime.mode (if_pos ⟨hmanual, hmode⟩)
  have hexpiredManual : (expireNow s).manualModeOverride = s.tempReturnManualOverride :=
    (congrArg Regime.manual hexpired).trans (Regime.byDay_manual ..)
  have hexpiredRemaining : (expireNow s).tempModeRemaining = 0 :=
    (congrArg Regime.remaining hexpired).trans (Regime.byDay_remaining ..)
  have hrevertedMode : reverted.trafficMode = s.tempReturnMode := congrArg Regime.mode hreverted
  have hrevertedManual : reverted.manualModeOverride = s.tempReturnManualOverride :=
    congrArg Regime.manual hreverted
  have hrevertedRemaining : reverted.tempModeRemaining = 0 := congrArg Regime.remaining hreverted
  unfold Alike BackTo
  rw [hexpiredMode, hexpiredManual, hexpiredRemaining, hrevertedMode, hrevertedManual,
    hrevertedRemaining, ← hreturnMode, ← hreturnManual]
  cases s.tempReturnManualOverride with
  | true => simp
  | false => simp

def temporaryFrame (mode : TrafficLightMode) (seconds : UInt16) : TestMessage :=
  frameOf msgModeCommand controllerCentral controllerLocal
    (ModeCmdMsg.toBytes ⟨0, mode.toByte, cmdTemporary, cmdPrioOperator, seconds, 1⟩)

def revertFrame : TestMessage :=
  frameOf msgModeCommand controllerCentral controllerLocal
    (ModeCmdMsg.toBytes ⟨0, 0, cmdRevert, cmdPrioOperator, 0, 2⟩)

/-- Fixed mode for a minute, requested at boot. -/
def overlayRun : List AlarmStep := [.op (.frame (temporaryFrame .fixed 60) Draws.zero)]

theorem revert_iff_expire_overlay :
    let s := run alarmStep (localStateInit 0 Draws.zero) overlayRun
    Alike (localStep s (.frame revertFrame Draws.zero)) (expireNow s) := by
  have h := revert_iff_expire ⟨0, Draws.zero, rfl⟩ ⟨.fixed, false⟩ overlayRun revertFrame Draws.zero
    (by decide) (by decide) (by decide)
  exact (h.mpr (by decide)).1

/-- The morning peak begins during the overlay: a revert brings back sensor mode,
the expiry would bring fixed mode. -/
theorem revert_ignores_day :
    let s := run alarmStep (localStateInit 0 Draws.zero)
      (overlayRun ++ [.op (.input ['p'] Draws.zero)])
    let reverted := localStep s (.frame revertFrame Draws.zero)
    0 < s.tempModeRemaining ∧ s.tempReturnMode = .sensor ∧
      acceptsAction s revertFrame cmdRevert = true ∧ reverted.trafficMode = .sensor ∧
        (expireNow s).trafficMode = .fixed := by
  decide

/-- An accepted mode or coordination command. -/
def commands (s : LocalState) (msg : TestMessage) : Bool :=
  acceptsAction s msg (ModeCmdMsg.ofData msg.data).action || acceptsCoordination s msg

/-- What may decide the mode anew. -/
def redecides (s : LocalState) : LocalOp → Bool
  | .frame msg _ => commands s msg || setsTime s msg
  | .input command _ => command ∈ [['m'], ['r'], ['p'], ['o'], ['l']]
  | _ => false

/-- The mode that a persistent request asks for. -/
def requestedMode (s : LocalState) (msg : TestMessage) : Option TrafficLightMode :=
  if acceptsAction s msg cmdSetMode then
    some (trafficModeOfByte (ModeCmdMsg.ofData msg.data).newMode)
  else if acceptsCoordination s msg then some .fixed
  else none

def Holds (mode : TrafficLightMode) (s : LocalState) : Prop :=
  s.trafficMode = mode ∧ s.manualModeOverride = true

/-- The old overlay expires, and what it returns to is not the request. -/
def ExpiresOver (mode : TrafficLightMode) (s : LocalState) : LocalOp → Prop
  | .temporaryMode => s.tempModeRemaining = 1 ∧
      ¬ (s.tempReturnMode = mode ∧ s.tempReturnManualOverride = true)
  | _ => False

instance (mode : TrafficLightMode) (s : LocalState) : DecidablePred (ExpiresOver mode s)
  | .temporaryMode => inferInstanceAs (Decidable (_ ∧ ¬ (_ ∧ _)))
  | .linkTimeout | .timeOfDay | .trafficTick _ | .vehicleCounts _ | .markDirty | .frame _ _
  | .input _ _ | .links _ _ => inferInstanceAs (Decidable False)

theorem commands_of_accepts {action : UInt8} (h : acceptsAction s msg action = true) :
    commands s msg = true := by
  have haction := (acceptsAction_iff.mp h).2.2.2
  unfold commands
  rw [haction, h, Bool.true_or]

theorem holds_step {mode : TrafficLightMode} (h : Holds mode s) (hsafe : LocalSafe s)
    {op : LocalOp} (hop : redecides s op = false) :
    Holds mode (localStep s op) ↔ ¬ ExpiresOver mode s op := by
  obtain ⟨hmode, hmanual⟩ := h
  have hcause := cause s op
  have hregime := regimeOf_localStep s op
  have hkept : ∀ op, op ≠ .temporaryMode → ¬ ExpiresOver mode s op := by
    rintro op hne hexpires
    cases op with
    | temporaryMode => exact hne rfl
    | _ => exact hexpires
  show (regimeOf (localStep s op)).mode = mode ∧ (regimeOf (localStep s op)).manual = true ↔ _
  rw [hregime]
  generalize regimeOp s op = rop at hcause
  cases hcause with
  | keep op hother => exact iff_of_true ⟨hmode, hmanual⟩ (hkept op hother)
  | day day =>
      have hsame : regimeStep (regimeOf s) (.day day) = regimeOf s :=
        Regime.byDay_of_manual hmanual day
      rw [hsame]
      exact iff_of_true ⟨hmode, hmanual⟩ (hkept _ nofun)
  | second =>
      show ((regimeOf s).second (dayMode s.simSeconds)).mode = mode ∧
        ((regimeOf s).second (dayMode s.simSeconds)).manual = true ↔ ¬ (_ ∧ _)
      unfold Regime.second
      rw [regimeOf_remaining]
      by_cases hnone : s.tempModeRemaining ≤ 0
      · rw [if_pos hnone]
        exact iff_of_true ⟨hmode, hmanual⟩ fun hlast => by omega
      · rw [if_neg hnone]
        -- the last second is the only one in which the overlay may take the mode away
        by_cases hlast : s.tempModeRemaining = 1
        · rw [if_pos hlast, Regime.byDay_manual]
          constructor
          · rintro ⟨hback, hbackManual⟩ ⟨-, hdiffers⟩
            rw [Regime.byDay_of_manual hbackManual] at hback
            exact hdiffers ⟨hback, hbackManual⟩
          · intro hsame
            obtain ⟨hback, hbackManual⟩ := not_not.mp fun hdiffers => hsame ⟨hlast, hdiffers⟩
            rw [Regime.byDay_of_manual hbackManual]
            exact ⟨hback, hbackManual⟩
        · rw [if_neg hlast]
          exact iff_of_true ⟨hmode, hmanual⟩ fun hover => hlast hover.1
  | conflict draws hlights => exact absurd hlights hsafe.lights
  | set msg draws haccepts | temporary msg draws haccepts | revert msg draws haccepts =>
      have hcommand := (Bool.or_eq_false_iff.mp hop).1
      rw [commands_of_accepts haccepts] at hcommand
      cases hcommand
  | coordinate msg draws haccepts =>
      have hcommand := (Bool.or_eq_false_iff.mp (Bool.or_eq_false_iff.mp hop).1).2
      rw [haccepts] at hcommand
      cases hcommand
  | time msg draws htime =>
      have hsets := (Bool.or_eq_false_iff.mp hop).2
      rw [htime] at hsets
      cases hsets
  | toggle | reset => cases hop
  | hour command draws hkey =>
      refine absurd ?_ (of_decide_eq_false hop)
      exact List.mem_cons_of_mem _ (List.mem_cons_of_mem _ hkey)

theorem none_step (h : s.tempModeRemaining ≤ 0) {op : LocalOp} (hop : redecides s op = false) :
    (localStep s op).tempModeRemaining ≤ 0 := by
  have hcause := cause s op
  have hother : ∀ mode seconds, regimeOp s op ≠ .temporary mode seconds := by
    intro mode seconds heq
    rw [heq] at hcause
    cases hcause with
    | temporary msg draws haccepts =>
        have hcommand := (Bool.or_eq_false_iff.mp hop).1
        rw [commands_of_accepts haccepts] at hcommand
        cases hcommand
  have hbefore := (@regimeStep_overlay (regimeOf s) (regimeOp s op) hother).2.2
  rw [← regimeOf_localStep] at hbefore
  by_contra hrunning
  exact absurd (hbefore (not_le.mp hrunning)) (not_lt.mpr h)

theorem holds_request {mode : TrafficLightMode} (h : requestedMode s msg = some mode)
    (draws : Draws) :
    Holds mode (localStep s (.frame msg draws)) ∧
      (acceptsAction s msg cmdSetMode = true →
        (localStep s (.frame msg draws)).tempModeRemaining = 0) := by
  have hregime := regimeOf_localStep s (.frame msg draws)
  unfold requestedMode at h
  by_cases hset : acceptsAction s msg cmdSetMode = true
  · rw [if_pos hset] at h
    obtain rfl := Option.some.inj h
    rw [show regimeOp s (.frame msg draws) = .set _ from frameRegimeOp_accepts hset] at hregime
    exact ⟨⟨congrArg Regime.mode hregime, congrArg Regime.manual hregime⟩,
      fun _ => congrArg Regime.remaining hregime⟩
  · rw [if_neg hset] at h
    split at h
    · rename_i hcoordination
      obtain rfl := Option.some.inj h
      obtain ⟨hhandler, hvalid⟩ := of_decide_eq_true hcoordination
      have hop : regimeOp s (.frame msg draws) = .coordinate := by
        show frameRegimeOp s msg = _
        unfold frameRegimeOp
        rw [hhandler]
        exact if_pos hvalid
      rw [hop] at hregime
      exact ⟨⟨congrArg Regime.mode hregime, congrArg Regime.manual hregime⟩,
        fun haccepts => absurd haccepts hset⟩
    · cases h

/-- Until the mode is decided anew, a persistent request holds in every state
exactly if no older overlay expires over it; a CMD_SET_MODE always holds. -/
theorem request_holds_iff (h : Reachable Booted localStep s) {mode : TrafficLightMode}
    (hrequest : requestedMode s msg = some mode) (draws : Draws) {ops : List LocalOp}
    (hops : Along localStep (fun s op => redecides s op = false)
      (localStep s (.frame msg draws)) ops) :
    (Throughout localStep (Holds mode) (localStep s (.frame msg draws)) ops ↔
        Along localStep (fun s op => ¬ ExpiresOver mode s op)
          (localStep s (.frame msg draws)) ops) ∧
      (acceptsAction s msg cmdSetMode = true →
        Throughout localStep (Holds mode) (localStep s (.frame msg draws)) ops) := by
  obtain ⟨hholds, hnone⟩ := holds_request hrequest draws
  have hsafe := localSafe_reachable (h.step (.frame msg draws))
  constructor
  · refine @throughout_iff_of_invariant _ _ localStep _ _ _ (fun s => Holds mode s ∧ LocalSafe s)
      ?_ (fun s hs => hs.1) ?_ _ _ ⟨hholds, hsafe⟩ hops
    · rintro s op ⟨hs, hsafe⟩ hop hkeeps
      exact ⟨(holds_step hs hsafe hop).mpr hkeeps, hsafe.step op⟩
    · rintro s op ⟨hs, hsafe⟩ hop hkept
      exact (holds_step hs hsafe hop).mp hkept
  · intro hset
    refine hops.throughout (J := fun s => (Holds mode s ∧ LocalSafe s) ∧ s.tempModeRemaining ≤ 0)
      ?_ (fun s hs => hs.1.1) ⟨⟨hholds, hsafe⟩, (hnone hset).le⟩
    rintro s op ⟨⟨hs, hsafe⟩, hzero⟩ hop
    refine ⟨⟨(holds_step hs hsafe hop).mpr ?_, hsafe.step op⟩, none_step hzero hop⟩
    intro hexpires
    cases op with
    | temporaryMode =>
        rw [hexpires.1] at hzero
        exact absurd hzero (by decide)
    | _ => exact hexpires

def coordinationFrame (base : Phase) (offset : UInt16) : TestMessage :=
  frameOf msgCoordinationCommand controllerCentral controllerLocal
    (CoordinationCommandMsg.toBytes ⟨0, TrafficLightMode.fixed.toByte, base.toByte, 0, offset, 3⟩)

/-- Two core ticks in a minute of overlay leave a coordination command in force. -/
theorem request_holds_ticks :
    let s := localStep (localStateInit 0 Draws.zero) (.frame (temporaryFrame .sensor 60) Draws.zero)
    Throughout localStep (Holds .fixed)
      (localStep s (.frame (coordinationFrame .nsGreen 0) Draws.zero))
      ((CoreStep.tick false Draws.zero).ops ++ (CoreStep.tick false Draws.zero).ops) :=
  (request_holds_iff (Reachable.step (.init ⟨0, Draws.zero, rfl⟩) _) (by decide) Draws.zero
    (by decide)).1.mpr (by decide)

/-- A second of overlay is left when the coordination command arrives; a core
tick later the time of day decides again. -/
theorem overlay_undoes_coordination :
    let s := localStep (localStateInit 0 Draws.zero) (.frame (temporaryFrame .fixed 1) Draws.zero)
    let coordinated := localStep s (.frame (coordinationFrame .nsGreen 0) Draws.zero)
    let ticked := coreStep coordinated (.tick false Draws.zero)
    0 < s.tempModeRemaining ∧ requestedMode s (coordinationFrame .nsGreen 0) = some .fixed ∧
      coordinated.trafficMode = .fixed ∧ coordinated.manualModeOverride = true ∧
        ticked.trafficMode = .sensor ∧ ticked.manualModeOverride = false := by
  decide

end TrafficLight.OverlayReturn
