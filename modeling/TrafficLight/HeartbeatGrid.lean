import TrafficLight.FixedRate
import TrafficLight.PeerThreads

namespace TrafficLight.HeartbeatGrid

open TrafficLight.Runs
open TrafficLight.CentralMonitor
open TrafficLight.CommandQueue
open TrafficLight.PeerThreads
open TrafficLight.FixedRate

variable {routes : Routes}

/-- When the heartbeats of a peer were released, newest first. -/
def releaseTimes (peer : Fin 8) (log : List PeerEvent) : List Nat :=
  log.filterMap fun event =>
    match event with
    | .released other time => if other = peer then some time else none
    | _ => none

theorem period_pos : 0 < period := by decide

theorem releaseTimes_cons_released (peer other : Fin 8) (time : Nat) (log : List PeerEvent) :
    releaseTimes peer (.released other time :: log) =
      if other = peer then time :: releaseTimes peer log else releaseTimes peer log := by
  unfold releaseTimes
  rw [List.filterMap_cons]
  split <;> simp_all

/-- The thread and the releases of a peer lie on its grid. -/
def Punctual (start : Nat) (peer : Fin 8) (t : Threads) : Prop :=
  OnGrid period start (t.thread peer).nextTick (releaseTimes peer t.log)

theorem Punctual.put {start : Nat} {peer : Fin 8} {t : Threads} (h : Punctual start peer t)
    {other : Fin 8} (next : PeerThread) (central : Central) (log : List PeerEvent)
    (hnext : next.nextTick = (t.thread other).nextTick)
    (htimes : releaseTimes peer log = releaseTimes peer t.log) :
    Punctual start peer ⟨central, Function.update t.thread other next, log⟩ := by
  unfold Punctual
  dsimp only
  rw [htimes]
  by_cases hpeer : peer = other
  · rw [hpeer, Function.update_self, hnext, ← hpeer]
    exact h
  · rw [Function.update_of_ne hpeer]
    exact h

theorem Punctual.wake {start : Nat} {peer : Fin 8} {t : Threads} (h : Punctual start peer t)
    (other : Fin 8) (turn : Turn) :
    Punctual start peer
      { t.put other (wake t.central other (t.thread other) turn).1 with
        log := (wake t.central other (t.thread other) turn).2 ++ t.log } := by
  unfold PeerThreads.wake
  split
  · exact h.put _ _ _ rfl rfl
  · split
    · exact h.put _ _ _ rfl rfl
    · split
      · exact h.put _ _ _ rfl rfl
      · rename_i hdue
        unfold Punctual
        dsimp only [Threads.put]
        rw [List.singleton_append, releaseTimes_cons_released]
        by_cases hpeer : other = peer
        · subst hpeer
          rw [if_pos rfl, Function.update_self]
          exact h.release period_pos (Nat.not_lt.mp hdue)
        · rw [if_neg hpeer, Function.update_of_ne (Ne.symm hpeer)]
          exact h

theorem Punctual.threadStep {start : Nat} {peer : Fin 8} {t : Threads}
    (h : Punctual start peer t) (a : ThreadAction) :
    Punctual start peer (threadStep routes t a) := by
  cases a with
  | request r => exact h
  | receive report now =>
      have htimes : releaseTimes peer (report.events ++ t.log) = releaseTimes peer t.log := by
        cases report with
        | status s =>
            simp only [Report.events]
            split <;> rfl
        | railway s => rfl
        | heartbeat source beat => rfl
      simp only [PeerThreads.threadStep, Punctual, htimes]
      exact h
  | turn other turn =>
      simp only [PeerThreads.threadStep, peerStep]
      split
      · exact h.wake other turn
      · exact h.put _ _ _ rfl rfl
      · exact h.put _ _ _ rfl rfl
      · unfold probed
        split
        · exact h.put _ _ _ rfl rfl
        · split
          · exact h.put _ _ _ rfl rfl
          · exact h.put _ _ _ rfl rfl
      · exact h.put _ _ _ rfl rfl
      · exact h.put _ _ _ rfl rfl
      · refine h.put _ _ _ rfl ?_
        split <;> rfl
      · exact h.put _ _ _ rfl rfl
      · exact h

/-- Over any window of some periods the heartbeats of a peer are released at
most once more than the window has periods; the next one is due on the grid of
the thread, less than a period and more than nothing after the last. -/
theorem heartbeats_without_bursts (maxAgeSeconds : Nat) (starts : Fin 8 → Nat)
    (as : List ThreadAction) (peer : Fin 8) :
    let t := run (threadStep routes) (threadsStart routes maxAgeSeconds starts) as
    (∀ since periods, ((releaseTimes peer t.log).filter fun time =>
        since ≤ time ∧ time < since + periods * period).length ≤ periods + 1) ∧
      (∃ k, (t.thread peer).nextTick = starts peer + k * period) ∧
      ∀ time ∈ (releaseTimes peer t.log).head?,
        time < (t.thread peer).nextTick ∧ (t.thread peer).nextTick ≤ time + period := by
  intro t
  have hpunctual : Punctual (starts peer) peer t := by
    apply run_invariant (I := Punctual (starts peer) peer) (fun t a ht => ht.threadStep a)
    exact onGrid_start period (starts peer)
  refine ⟨fun since periods => hpunctual.window period_pos since periods, hpunctual.aligned, ?_⟩
  intro time htime
  exact ⟨(hpunctual.past time (List.mem_of_head? htime)).2, hpunctual.soon time htime⟩

end TrafficLight.HeartbeatGrid
