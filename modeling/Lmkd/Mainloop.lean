import Lmkd.Psi
import Lmkd.Control
import Lmkd.Lib.Transition

/-!
# `call_handler` and `mainloop`

`callHandler` runs the handler of an `event_handler_info` and then applies
the polling update it asked for.  `mainloop` does four things: it calls the
poll handler when a polling period is over, ends a kill wait whose timeout
expired, closes the data connections that hung up, and calls the handler of
every other ready descriptor.  Each is an `Action`, and `lmkdSystem` is the
transition system whose steps are single actions: any interleaving of
connections, commands, pressure events, polling, death and failure
notifications and timeouts is a run of it.  `mainloopIteration` is one turn
of the loop as the source writes it, and it is a run of actions
(`mainloopIteration_run`), so what holds of every reachable state of
`lmkdSystem` holds after every turn of the loop.

The world a handler call reads is a `CallEnv`; what `epoll_wait` returns is a
`Wakeup`.  Once a handler calls `exit(1)` the process is gone: nothing is
enabled in an exited state.
-/

namespace Lmkd

def pollingPaused (poll : PollingParams) : Bool := poll.pausedHandler.isSome

def resumePolling (poll : PollingParams) (currTm : Timespec) : PollingParams :=
  { poll with
    pollStartTm := currTm
    pollHandler := poll.pausedHandler
    pollingIntervalMs := psiPollPeriodShortMs
    pausedHandler := none }

/-- What a handler call reads from outside the process. -/
structure CallEnv where
  /-- `clock_gettime` in `call_handler` after the handler returns -/
  now : Timespec
  /-- what `accept` returns, and whether its `epoll_ctl` succeeds -/
  accept : Int32
  acceptAddOk : Bool
  recv : Recv
  cmd : CmdEnv
  psi : PsiSample
  kill : KillEnv

def epollin : UInt32 := 0x001

/-- `handler_info->handler(handler_info->data, events, poll_params)`.
`kernel_event_handler` and `memevent_listener_notification` change nothing
this model keeps. -/
def runHandler (cfg : Config) (info : HandlerInfo) (events : UInt32) (env : CallEnv)
    (g : Globals) : Globals :=
  match info with
  | .vmpressure level => mpEventPsi cfg env.kill level events env.psi g
  | .dataSock i => if events &&& epollin ≠ 0 then ctrlCommandHandler cfg env.cmd i env.recv g else g
  | .ctrlSock => ctrlConnectHandler env.accept env.acceptAddOk g
  | .killDone => killDoneHandler cfg g
  | .killFailed => killFailHandler cfg g
  | .kernelPoll => g
  | .directReclaimPoll => g

/-- The switch of `call_handler` on `poll_params->update`. -/
def applyPollingUpdate (cfg : Config) (info : HandlerInfo) (currTm : Timespec)
    (poll : PollingParams) : PollingParams :=
  match poll.update with
  | .start => { poll with pollStartTm := currTm, pollHandler := some info }
  | .pause => { poll with pausedHandler := some info, pollHandler := none }
  | .resume => resumePolling poll currTm
  | .doNotChange =>
    if poll.pollHandler.isSome ∧ getTimeDiffMs poll.pollStartTm currTm > cfg.psiWindowSizeMs then
      { poll with pollHandler := none, pausedHandler := none }
    else poll
  | .critUpgrade =>
    let poll := { poll with pollStartTm := currTm }
    if info.data ≤ vmpressLevelCritical then
      { poll with pollHandler := some (.vmpressure vmpressLevelCritical) }
    else poll

def callHandler (cfg : Config) (info : HandlerInfo) (events : UInt32) (env : CallEnv)
    (g : Globals) : Globals :=
  let g := runHandler cfg info events env { g with poll := { g.poll with update := .doNotChange } }
  if g.exited then g
  else
    let poll := if g.poll.pollHandler = some info then { g.poll with lastPollTm := env.now }
      else g.poll
    { g with poll := applyPollingUpdate cfg info env.now poll }

/-- The kill-timeout branch of `mainloop`: stop waiting, and resume a
paused poll at time `currTm`. -/
def mainloopKillTimeout (cfg : Config) (currTm : Timespec) (g : Globals) : Globals :=
  let g := stopWaitForProcKill cfg g false
  if pollingPaused g.poll then
    { g with poll := resumePolling { g.poll with update := .resume } currTm }
  else g

/-- The first pass over the events: `ctrl_data_close(handler_info->data)`.
A `data` outside the connection array is not modelled and closes nothing. -/
def hupClose (info : HandlerInfo) (g : Globals) : Globals :=
  if h : info.data.toNat < maxDataConn ∧ 0 ≤ info.data then ctrlDataClose g ⟨info.data.toNat, h.1⟩
  else g

/-- The second pass: `check_cont_lmkd_events` for the medium and critical
handlers, read at `contNow`, then `call_handler`. -/
def handleEvent (cfg : Config) (info : HandlerInfo) (events : UInt32) (contNow : Timespec)
    (env : CallEnv) (g : Globals) : Globals :=
  let g := match info with
    | .vmpressure level =>
      if level = vmpressLevelMedium ∨ level = vmpressLevelCritical then
        checkContLmkdEvents cfg level contNow g
      else g
    | _ => g
  callHandler cfg info events env g

/-! ## The actions of the main thread -/

inductive Action where
  /-- the call of the poll handler at the top of the loop -/
  | poll (env : CallEnv)
  /-- the end of a kill wait whose timeout expired, with the clock read then -/
  | killTimeout (now : Timespec)
  /-- a hang-up reported on `info` -/
  | hup (info : HandlerInfo)
  /-- `info` ready with `events`; `contNow` is the clock `check_cont_lmkd_events` reads -/
  | event (info : HandlerInfo) (events : UInt32) (contNow : Timespec) (env : CallEnv)

def lmkdStep (cfg : Config) (g : Globals) : Action → Option Globals
  | .poll env =>
    if g.exited then none
    else match g.poll.pollHandler with
      | some h => some (callHandler cfg h 0 env g)
      | none => none
  | .killTimeout now =>
    if g.exited ∨ g.poll.pollHandler.isSome ∨ cfg.killTimeoutMs = 0 ∨ !isWaitingForKill cfg g then none
    else some (mainloopKillTimeout cfg now g)
  | .hup info => if g.exited then none else some (hupClose info g)
  | .event info events contNow env =>
    if g.exited then none else some (handleEvent cfg info events contNow env g)

/-- The main thread from the state `g₀` that start-up left. -/
def lmkdSystem (cfg : Config) (g₀ : Globals) : Transition.System Globals Action :=
  ⟨g₀, lmkdStep cfg⟩

/-! ## One turn of `mainloop` -/

/-- A descriptor `epoll_wait` reports ready: its handler, whether the report
includes `EPOLLHUP`, the events, the clock for `check_cont_lmkd_events`, and
what its handler call reads. -/
structure Ready where
  info : HandlerInfo
  hup : Bool
  events : UInt32
  contNow : Timespec
  env : CallEnv

/-- What one turn of the loop reads: the clock before and after the wait,
what `epoll_wait` returns (`none` for -1), and what a poll call reads. -/
structure Wakeup where
  now : Timespec
  ready : Option (List Ready)
  afterWait : Timespec
  pollEnv : CallEnv

def noEvents : Option (List Ready) → Bool
  | some [] => true
  | _ => false

/-- The top of the loop, up to and including `epoll_wait`: the state after
a poll call or a kill timeout, and the events to handle. -/
def mainloopWait (cfg : Config) (w : Wakeup) (g : Globals) : Globals × Option (List Ready) :=
  match g.poll.pollHandler with
  | some h =>
    if g.poll.update = .resume then (callHandler cfg h 0 w.pollEnv g, some [])
    else if g.poll.pollingIntervalMs ≤ getTimeDiffMs g.poll.lastPollTm w.afterWait then
      (callHandler cfg h 0 w.pollEnv g, w.ready)
    else (g, w.ready)
  | none =>
    if cfg.killTimeoutMs ≠ 0 ∧ isWaitingForKill cfg g then
      let delay := (cfg.killTimeoutMs : Int) - getTimeDiffMs g.lastKillTm w.now
      let ready := if delay > 0 then w.ready else some []
      if noEvents ready then (mainloopKillTimeout cfg w.afterWait g, ready) else (g, ready)
    else (g, w.ready)

def hupPass (evs : List Ready) (g : Globals) : Globals :=
  evs.foldl (fun g e => if g.exited ∨ !e.hup then g else hupClose e.info g) g

def eventPass (cfg : Config) (evs : List Ready) (g : Globals) : Globals :=
  evs.foldl
    (fun g e => if g.exited ∨ e.hup then g else handleEvent cfg e.info e.events e.contNow e.env g) g

def mainloopIteration (cfg : Config) (w : Wakeup) (g : Globals) : Globals :=
  match (mainloopWait cfg w g).2 with
  | none => (mainloopWait cfg w g).1
  | some evs => eventPass cfg evs (hupPass evs (mainloopWait cfg w g).1)

/-- `mainloop` from the state `g₀`, for the turns `ws`. -/
def mainloop (cfg : Config) (g₀ : Globals) (ws : List Wakeup) : Globals :=
  ws.foldl (fun g w => if g.exited then g else mainloopIteration cfg w g) g₀

theorem mainloopWait_cases (cfg : Config) (w : Wakeup) (g : Globals) :
    (mainloopWait cfg w g).1 = g ∨
      (∃ h, g.poll.pollHandler = some h ∧ (mainloopWait cfg w g).1 = callHandler cfg h 0 w.pollEnv g) ∨
      (g.poll.pollHandler = none ∧ cfg.killTimeoutMs ≠ 0 ∧ isWaitingForKill cfg g ∧
        (mainloopWait cfg w g).1 = mainloopKillTimeout cfg w.afterWait g) := by
  cases hp : g.poll.pollHandler with
  | some h =>
    have hcall : (mainloopWait cfg w g).1 = g ∨ (mainloopWait cfg w g).1 = callHandler cfg h 0 w.pollEnv g := by
      simp only [mainloopWait, hp]
      split_ifs <;> simp
    rcases hcall with hcall | hcall
    · exact .inl hcall
    · exact .inr (.inl ⟨h, rfl, hcall⟩)
  | none =>
    by_cases hwait : cfg.killTimeoutMs ≠ 0 ∧ isWaitingForKill cfg g
    · have htimeout : (mainloopWait cfg w g).1 = g ∨
          (mainloopWait cfg w g).1 = mainloopKillTimeout cfg w.afterWait g := by
        simp only [mainloopWait, hp, if_pos hwait]
        split_ifs <;> simp
      rcases htimeout with h | h
      · exact .inl h
      · exact .inr (.inr ⟨rfl, hwait.1, hwait.2, h⟩)
    · left
      simp only [mainloopWait, hp, if_neg hwait]

/-! ## Every turn of the loop is a run of actions -/

section Runs

open Transition

variable (cfg : Config) (g₀ : Globals)

theorem runFrom_of_step {g g' : Globals} {a : Action} (h : lmkdStep cfg g a = some g')
    {acts : List Action} {g'' : Globals} (hr : (lmkdSystem cfg g₀).runFrom g' acts = some g'') :
    (lmkdSystem cfg g₀).runFrom g (a :: acts) = some g'' := by
  rw [System.runFrom_cons]
  exact (congrArg (fun o => o.bind fun s => (lmkdSystem cfg g₀).runFrom s acts) h).trans hr

theorem runFrom_append {g g' g'' : Globals} {acts acts' : List Action}
    (h : (lmkdSystem cfg g₀).runFrom g acts = some g')
    (h' : (lmkdSystem cfg g₀).runFrom g' acts' = some g'') :
    (lmkdSystem cfg g₀).runFrom g (acts ++ acts') = some g'' := by
  induction acts generalizing g with
  | nil =>
    rw [System.runFrom_nil, Option.some_inj] at h
    subst h
    exact h'
  | cons a acts ih =>
    rw [System.runFrom_cons] at h
    cases ha : lmkdStep cfg g a with
    | none =>
      change (lmkdSystem cfg g₀).step g a = none at ha
      simp [ha] at h
    | some g₁ =>
      change (lmkdSystem cfg g₀).step g a = some g₁ at ha
      rw [ha, Option.bind_some] at h
      exact runFrom_of_step cfg g₀ ha (ih h)

theorem foldl_run (f : Globals → Ready → Globals) (act : Ready → Action)
    (skip : Globals → Ready → Prop) [∀ g e, Decidable (skip g e)]
    (hact : ∀ g e, ¬ g.exited → ¬ skip g e → lmkdStep cfg g (act e) = some (f g e)) :
    ∀ (evs : List Ready) (g : Globals), ∃ acts, (lmkdSystem cfg g₀).runFrom g acts =
      some (evs.foldl (fun g e => if g.exited ∨ skip g e then g else f g e) g)
  | [], g => ⟨[], rfl⟩
  | e :: evs, g => by
    obtain ⟨acts, hacts⟩ := foldl_run f act skip hact evs
      (if g.exited ∨ skip g e then g else f g e)
    rw [List.foldl_cons]
    by_cases hs : g.exited ∨ skip g e
    · rw [if_pos hs] at hacts ⊢
      exact ⟨acts, hacts⟩
    · rw [if_neg hs] at hacts ⊢
      rw [not_or] at hs
      exact ⟨act e :: acts, runFrom_of_step cfg g₀ (hact g e hs.1 hs.2) hacts⟩

theorem hupPass_run (evs : List Ready) (g : Globals) :
    ∃ acts, (lmkdSystem cfg g₀).runFrom g acts = some (hupPass evs g) :=
  foldl_run cfg g₀ (fun g e => hupClose e.info g) (fun e => .hup e.info)
    (fun _ e => (!e.hup) = true) (by
      intro g e hx _
      simp [lmkdStep, hx]) evs g

theorem eventPass_run (evs : List Ready) (g : Globals) :
    ∃ acts, (lmkdSystem cfg g₀).runFrom g acts = some (eventPass cfg evs g) :=
  foldl_run cfg g₀ (fun g e => handleEvent cfg e.info e.events e.contNow e.env g)
    (fun e => .event e.info e.events e.contNow e.env) (fun _ e => e.hup = true) (by
      intro g e hx _
      simp [lmkdStep, hx]) evs g

theorem mainloopWait_run {g : Globals} (hx : ¬ g.exited) (w : Wakeup) :
    ∃ acts, (lmkdSystem cfg g₀).runFrom g acts = some (mainloopWait cfg w g).1 := by
  rcases mainloopWait_cases cfg w g with h | ⟨h, hpoll, hcall⟩ | ⟨hpoll, hk, hwait, htime⟩
  · exact ⟨[], by rw [h]; rfl⟩
  · have hstep : lmkdStep cfg g (.poll w.pollEnv) = some (callHandler cfg h 0 w.pollEnv g) := by
      simp [lmkdStep, hx, hpoll]
    exact ⟨[.poll w.pollEnv], runFrom_of_step cfg g₀ hstep (by rw [hcall]; rfl)⟩
  · have hstep : lmkdStep cfg g (.killTimeout w.afterWait) =
        some (mainloopKillTimeout cfg w.afterWait g) := by
      simp [lmkdStep, hx, hpoll, hk, hwait]
    exact ⟨[.killTimeout w.afterWait], runFrom_of_step cfg g₀ hstep (by rw [htime]; rfl)⟩

theorem mainloopIteration_run {g : Globals} (hx : ¬ g.exited) (w : Wakeup) :
    ∃ acts, (lmkdSystem cfg g₀).runFrom g acts = some (mainloopIteration cfg w g) := by
  obtain ⟨acts, hacts⟩ := mainloopWait_run cfg g₀ hx w
  unfold mainloopIteration
  split
  · exact ⟨acts, hacts⟩
  · rename_i evs _
    obtain ⟨acts₁, h₁⟩ := hupPass_run cfg g₀ evs (mainloopWait cfg w g).1
    obtain ⟨acts₂, h₂⟩ := eventPass_run cfg g₀ evs (hupPass evs (mainloopWait cfg w g).1)
    exact ⟨acts ++ (acts₁ ++ acts₂),
      runFrom_append cfg g₀ hacts (runFrom_append cfg g₀ h₁ h₂)⟩

theorem mainloop_reachable (ws : List Wakeup) : (lmkdSystem cfg g₀).Reachable (mainloop cfg g₀ ws) := by
  unfold mainloop
  suffices h : ∀ (ws : List Wakeup) (g : Globals), (lmkdSystem cfg g₀).Reachable g →
      (lmkdSystem cfg g₀).Reachable
        (ws.foldl (fun g w => if g.exited then g else mainloopIteration cfg w g) g) from
    h ws g₀ System.Reachable.init
  intro ws
  induction ws with
  | nil => exact fun _ hg => hg
  | cons w ws ih =>
    intro g hg
    rw [List.foldl_cons]
    apply ih
    split
    · exact hg
    · rename_i hx
      obtain ⟨acts, hacts⟩ := mainloopIteration_run cfg g₀ hx w
      exact (lmkdSystem cfg g₀).reachable_of_runFrom hg acts hacts

end Runs

end Lmkd
