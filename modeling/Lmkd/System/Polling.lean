import Lmkd.System.KillWait

/-!
# The polling state machine

`mainloop` polls one handler at a time.  The pair `poll_handler`,
`paused_handler` is meant to be one of three states: idle, polling `h`, or
paused with `h` to resume; `call_handler` moves between them by the update
the handler asked for, and the kill-timeout branch of `mainloop` resumes a
paused poll.  `PollState.next` is that machine, and `pollState` reads the
pair as a state of it.

`call_handler` follows the machine except in three cases
(`Deviates`): `resume_polling` copies `paused_handler` even while polling,
which turns polling off, and a start or a critical upgrade while paused sets
`poll_handler` and leaves `paused_handler` set, a pair that is no state of
the machine.  The last case is reachable: a pressure event that ends a
timed-out kill wait by itself asks for a start while the poll is paused.
-/

namespace Lmkd

open Transition

inductive PollState where
  | idle
  | polling (h : HandlerInfo)
  | paused (h : HandlerInfo)
deriving DecidableEq, Repr

/-- The machine state of `(poll_handler, paused_handler)`, `none` when both
are set. -/
def pollState (poll : PollingParams) : Option PollState :=
  match poll.pollHandler, poll.pausedHandler with
  | none, none => some .idle
  | some h, none => some (.polling h)
  | none, some h => some (.paused h)
  | some _, some _ => none

def PollState.pointers : PollState → Option HandlerInfo × Option HandlerInfo
  | .idle => (none, none)
  | .polling h => (some h, none)
  | .paused h => (none, some h)

theorem pollState_eq_some {poll : PollingParams} {s : PollState} :
    pollState poll = some s ↔ (poll.pollHandler, poll.pausedHandler) = s.pointers := by
  unfold pollState
  cases poll.pollHandler <;> cases poll.pausedHandler <;> cases s <;> simp [PollState.pointers]

/-- The intended effect of the update `u` asked for by the handler `info`;
`expired` says that the PSI window of the current poll is over. -/
def PollState.next (info : HandlerInfo) (expired : Bool) : PollingUpdate → PollState → PollState
  | .start, _ => .polling info
  | .pause, _ => .paused info
  | .critUpgrade, s =>
    if info.data ≤ vmpressLevelCritical then .polling (.vmpressure vmpressLevelCritical) else s
  | .resume, .paused h => .polling h
  | .resume, s => s
  | .doNotChange, .polling h => if expired then .idle else .polling h
  | .doNotChange, s => s

/-- The updates on which `call_handler` leaves the machine. -/
def Deviates (u : PollingUpdate) (info : HandlerInfo) : PollState → Prop
  | .idle => False
  | .polling _ => u = .resume
  | .paused _ => u = .start ∨ (u = .critUpgrade ∧ info.data ≤ vmpressLevelCritical)

theorem applyPollingUpdate_next {cfg : Config} {info : HandlerInfo} {currTm : Timespec}
    {poll : PollingParams} {s : PollState} (hs : pollState poll = some s)
    (hdev : ¬ Deviates poll.update info s) :
    pollState (applyPollingUpdate cfg info currTm poll) =
      some (s.next info (decide (getTimeDiffMs poll.pollStartTm currTm > cfg.psiWindowSizeMs))
        poll.update) := by
  have hptr := pollState_eq_some.mp hs
  cases s with
  | idle =>
    simp only [PollState.pointers, Prod.mk.injEq] at hptr
    cases hu : poll.update
    · simp [applyPollingUpdate, hu, hptr, pollState, PollState.next]
    · simp [applyPollingUpdate, hu, hptr, pollState, PollState.next]
    · by_cases hc : info.data ≤ vmpressLevelCritical <;>
        simp [applyPollingUpdate, hu, hptr, pollState, PollState.next, hc]
    · simp [applyPollingUpdate, hu, pollState, PollState.next]
    · simp [applyPollingUpdate, hu, hptr, pollState, PollState.next, resumePolling]
  | polling h =>
    simp only [PollState.pointers, Prod.mk.injEq] at hptr
    cases hu : poll.update
    · by_cases hexp : getTimeDiffMs poll.pollStartTm currTm > cfg.psiWindowSizeMs <;>
        simp [applyPollingUpdate, hu, hptr, pollState, PollState.next, hexp]
    · simp [applyPollingUpdate, hu, hptr, pollState, PollState.next]
    · by_cases hc : info.data ≤ vmpressLevelCritical <;>
        simp [applyPollingUpdate, hu, hptr, pollState, PollState.next, hc]
    · simp [applyPollingUpdate, hu, pollState, PollState.next]
    · simp [Deviates, hu] at hdev
  | paused h =>
    simp only [PollState.pointers, Prod.mk.injEq] at hptr
    cases hu : poll.update
    · simp [applyPollingUpdate, hu, hptr, pollState, PollState.next]
    · simp [Deviates, hu] at hdev
    · simp only [Deviates, hu, false_or, true_and, reduceCtorEq] at hdev
      simp [applyPollingUpdate, hu, hptr, pollState, PollState.next, hdev]
    · simp [applyPollingUpdate, hu, pollState, PollState.next]
    · simp [applyPollingUpdate, hu, hptr, pollState, PollState.next, resumePolling]

example :
    pollState (applyPollingUpdate exampleConfig (.vmpressure vmpressLevelCritical) ⟨20, 0⟩
        ⟨none, none, ⟨0, 0⟩, ⟨0, 0⟩, 0, .start⟩) = some (.polling (.vmpressure vmpressLevelCritical)) := by
  decide

theorem applyPollingUpdate_deviates {cfg : Config} {info : HandlerInfo} {currTm : Timespec}
    {poll : PollingParams} {s : PollState} (hs : pollState poll = some s)
    (hdev : Deviates poll.update info s) :
    (∀ h, s = .polling h → pollState (applyPollingUpdate cfg info currTm poll) = some .idle) ∧
      (∀ h, s = .paused h →
        (applyPollingUpdate cfg info currTm poll).pollHandler =
            some (if poll.update = .start then info else .vmpressure vmpressLevelCritical) ∧
          (applyPollingUpdate cfg info currTm poll).pausedHandler = some h) := by
  have hptr := pollState_eq_some.mp hs
  refine ⟨fun h hsh => ?_, fun h hsh => ?_⟩
  · subst hsh
    simp only [PollState.pointers, Prod.mk.injEq] at hptr
    have hu : poll.update = .resume := hdev
    simp [applyPollingUpdate, hu, resumePolling, pollState, hptr]
  · subst hsh
    simp only [PollState.pointers, Prod.mk.injEq] at hptr
    rcases hdev with hu | ⟨hu, hc⟩
    · simp [applyPollingUpdate, hu, hptr]
    · simp [applyPollingUpdate, hu, hc, hptr]

theorem callHandler_poll {cfg : Config} {info : HandlerInfo} {events : UInt32} {env : CallEnv}
    {g : Globals}
    (hx : (runHandler cfg info events env { g with poll := { g.poll with update := .doNotChange } }).exited = false) :
    (callHandler cfg info events env g).poll =
      applyPollingUpdate cfg info env.now
        (if (runHandler cfg info events env
              { g with poll := { g.poll with update := .doNotChange } }).poll.pollHandler = some info then
          { (runHandler cfg info events env { g with poll := { g.poll with update := .doNotChange } }).poll with
            lastPollTm := env.now }
        else (runHandler cfg info events env { g with poll := { g.poll with update := .doNotChange } }).poll) := by
  simp only [callHandler, hx, Bool.false_eq_true, if_false]

theorem mainloopKillTimeout_pollState {cfg : Config} {currTm : Timespec} {g : Globals}
    {s : PollState} (hs : pollState g.poll = some s) :
    pollState (mainloopKillTimeout cfg currTm g).poll = some (s.next .killDone false .resume) := by
  have hpoll : (stopWaitForProcKill cfg g false).poll = g.poll := by
    unfold stopWaitForProcKill
    split
    · rfl
    · split <;> rfl
  have hptr := pollState_eq_some.mp hs
  simp only [mainloopKillTimeout, pollingPaused, hpoll]
  cases s with
  | idle =>
    simp only [PollState.pointers, Prod.mk.injEq] at hptr
    simp [hpoll, hptr, pollState, PollState.next]
  | polling h =>
    simp only [PollState.pointers, Prod.mk.injEq] at hptr
    simp [hpoll, hptr, pollState, PollState.next]
  | paused h =>
    simp only [PollState.pointers, Prod.mk.injEq] at hptr
    simp [hptr, pollState, PollState.next, resumePolling]

/-! ## Both handlers set -/

def laterCallEnv : CallEnv :=
  { idleCallEnv with now := ⟨20, 100000000⟩, psi := quietPsiSample (some ⟨20, 100000000⟩) }

def laterPsiEvent : Action :=
  .event (.vmpressure vmpressLevelCritical) 1 ⟨20, 100000000⟩ laterCallEnv

/-- After a kill of an app of 4000 kB the poll is paused on the critical
handler; the event 100 ms later finds the wait timed out, ends it, and asks
for a start, so both `poll_handler` and `paused_handler` point to the
critical handler. -/
theorem psiEvent_sets_both_handlers :
    ∃ g₀ g, lmkdInit exampleConfig exampleInitEnv = some g₀ ∧
      (lmkdSystem exampleConfig g₀).Reachable g ∧
      g.poll.pollHandler = some (.vmpressure vmpressLevelCritical) ∧
      g.poll.pausedHandler = some (.vmpressure vmpressLevelCritical) := by
  -- the handler of the second event returns on a paused poll, asking for a start
  have hrun : ((lmkdInit exampleConfig exampleInitEnv).bind fun g₀ =>
      ((lmkdSystem exampleConfig g₀).runFrom g₀
          (registerTwoApps ++ [criticalPsiEvent (appsKillEnv 4000 true)])).bind fun g =>
        (lmkdStep exampleConfig g laterPsiEvent).map fun _ =>
          let g₂ := checkContLmkdEvents exampleConfig vmpressLevelCritical ⟨20, 100000000⟩ g
          let g₃ := runHandler exampleConfig (.vmpressure vmpressLevelCritical) 1 laterCallEnv
            { g₂ with poll := { g₂.poll with update := .doNotChange } }
          let poll := if g₃.poll.pollHandler = some (.vmpressure vmpressLevelCritical) then
            { g₃.poll with lastPollTm := laterCallEnv.now } else g₃.poll
          (g₃.exited, pollState poll, poll.update)) =
      some (false, some (.paused (.vmpressure vmpressLevelCritical)), .start) := by
    decide +kernel
  obtain ⟨g₀, g, g', h₀, hg, hstep, hobs⟩ := exists_run_step hrun
  simp only [Prod.mk.injEq] at hobs
  obtain ⟨hx, hs, hu⟩ := hobs
  have hg' : (lmkdSystem exampleConfig g₀).Reachable g' :=
    hg.step (show (lmkdSystem exampleConfig g₀).step g laterPsiEvent = some g' from hstep)
  have hcall : g' = callHandler exampleConfig (.vmpressure vmpressLevelCritical) 1 laterCallEnv
      (checkContLmkdEvents exampleConfig vmpressLevelCritical ⟨20, 100000000⟩ g) := by
    simp only [lmkdStep, laterPsiEvent] at hstep
    split at hstep
    · cases hstep
    · cases hstep
      simp [handleEvent]
  obtain ⟨hpoll, hpaused⟩ := (@applyPollingUpdate_deviates exampleConfig _ laterCallEnv.now _ _ hs
    (Or.inl hu)).2 _ rfl
  rw [hu, if_pos rfl] at hpoll
  refine ⟨g₀, g', h₀, hg', ?_, ?_⟩
  · rw [hcall, callHandler_poll hx]
    exact hpoll
  · rw [hcall, callHandler_poll hx]
    exact hpaused

end Lmkd
