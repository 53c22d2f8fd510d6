import Lmkd.State

/-!
# Pressure monitors and start-up

The functions that register descriptors on `epollfd` outside the data
connections and the kill wait: the PSI monitors (`init_mp_psi`,
`destroy_mp_psi`, `init_psi_monitors`), the vmpressure fallback
(`init_mp_common`, `destroy_mp_common`), `init_monitors` and
`destroy_monitors`, the memevent listener, `init_reaper`, and `init` as
`main` runs it before the main loop.

The kernel's answers are inputs: `MonitorEnv` for the monitor calls,
`InitEnv` for start-up.  A monitor's setup that fails before its
`epoll_ctl` registers nothing, so only its outcome and descriptor are kept.
-/

namespace Lmkd

def vmpressLevelLow : Nat := 0

/-- What the monitor set-up calls return. -/
structure MonitorEnv where
  /-- `init_psi_monitor` for a level: the trigger descriptor, or `none` -/
  psiMonitor : Nat → Option Int32
  /-- whether `register_psi_monitor`, an `epoll_ctl` ADD, succeeds -/
  psiRegisterOk : Nat → Bool
  /-- `init_mp_common` up to its `epoll_ctl`: the event descriptor, or `none`
  when the memcg version check, an `open`, `eventfd` or the control write fails -/
  commonEventFd : Nat → Option Int32
  commonAddOk : Nat → Bool

/-- `psi_thresholds[level].threshold_ms` as `init_psi_monitors` sets it. -/
def psiThresholdMs (cfg : Config) (level : Nat) : Nat :=
  if level = vmpressLevelMedium then cfg.psiPartialStallMs
  else if level = vmpressLevelCritical then cfg.psiCompleteStallMs
  else if level = vmpressLevelSuperCritical then cfg.psiCompleteStallScritMs
  else 0

/-! ## Monitors -/

/-- The common end of `destroy_mp_psi` and `destroy_mp_common`: unregister
and close the level's descriptor, if it has one. -/
def destroyMpFd (level : Nat) (g : Globals) : Globals :=
  let fd := g.mpevfd level
  if fd < 0 then g
  else { g.epollUnregister fd with mpevfd := Function.update g.mpevfd level (-1) }

def destroyMpPsi (level : Nat) (g : Globals) : Globals := destroyMpFd level g

def destroyMpCommon (level : Nat) (g : Globals) : Globals := destroyMpFd level g

/-- A level's descriptor registered by a successful `init_mp_psi` or
`init_mp_common`. -/
def registerMpFd (level : Nat) (fd : Int32) (g : Globals) : Globals :=
  { g.epollRegister fd with mpevfd := Function.update g.mpevfd level fd }

/-- `init_mp_psi(level)`: a level without a threshold registers nothing and
succeeds. -/
def initMpPsi (cfg : Config) (menv : MonitorEnv) (level : Nat) (g : Globals) : Globals × Bool :=
  if psiThresholdMs cfg level = 0 then (g, true)
  else
    match menv.psiMonitor level with
    | none => (g, false)
    | some fd => if !menv.psiRegisterOk level then (g, false) else (registerMpFd level fd g, true)

/-- `init_psi_monitors`: a failure undoes the levels registered before it. -/
def initPsiMonitors (cfg : Config) (menv : MonitorEnv) (g : Globals) : Globals × Bool :=
  let med := initMpPsi cfg menv vmpressLevelMedium g
  if !med.2 then med
  else
    let crit := initMpPsi cfg menv vmpressLevelCritical med.1
    if !crit.2 then (destroyMpPsi vmpressLevelMedium crit.1, false)
    else
      let scrit := initMpPsi cfg menv vmpressLevelSuperCritical crit.1
      if !scrit.2 then
        (destroyMpPsi vmpressLevelMedium (destroyMpPsi vmpressLevelCritical scrit.1), false)
      else scrit

def initMpCommon (menv : MonitorEnv) (level : Nat) (g : Globals) : Globals × Bool :=
  match menv.commonEventFd level with
  | none => (g, false)
  | some evfd => if !menv.commonAddOk level then (g, false) else (registerMpFd level evfd g, true)

/-- The vmpressure fallback of `init_monitors`, the low, medium and critical
levels in turn: a failed level leaves the levels before it registered. -/
def initVmpressureMonitors (menv : MonitorEnv) (g : Globals) : Globals × Bool :=
  let low := initMpCommon menv vmpressLevelLow g
  if !low.2 then low
  else
    let med := initMpCommon menv vmpressLevelMedium low.1
    if !med.2 then med else initMpCommon menv vmpressLevelCritical med.1

/-- `init_monitors`: PSI when `ro.lmk.use_psi` is set and its monitors come
up, otherwise vmpressure. -/
def initMonitors (cfg : Config) (menv : MonitorEnv) (g : Globals) : Globals × Bool :=
  let psi := if cfg.usePsi then initPsiMonitors cfg menv g else (g, false)
  let g := { psi.1 with usePsiMonitors := psi.2 }
  if psi.2 then ({ g with monitorsInitialized := true }, true)
  else
    let vmp := initVmpressureMonitors menv g
    if vmp.2 then ({ vmp.1 with monitorsInitialized := true }, true) else vmp

def destroyMonitors (g : Globals) : Globals :=
  if g.usePsiMonitors then
    destroyMpPsi vmpressLevelMedium
      (destroyMpPsi vmpressLevelCritical (destroyMpPsi vmpressLevelSuperCritical g))
  else
    destroyMpCommon vmpressLevelLow
      (destroyMpCommon vmpressLevelMedium (destroyMpCommon vmpressLevelCritical g))

/-- What `init_memevent_listener_monitoring` finds: the ring buffer
descriptor of a listener that came up with its four events registered, and
whether its `epoll_ctl` ADD succeeds. -/
structure MemeventEnv where
  listenerFd : Option Int32
  addOk : Bool

def initMemeventListenerMonitoring (menv : MemeventEnv) (g : Globals) : Globals × Bool :=
  if g.memeventListener then (g, true)
  else
    match menv.listenerFd with
    | none => (g, false)
    | some fd =>
      if !menv.addOk then (g, false) else ({ g.epollRegister fd with memeventListener := true }, true)

/-! ## Start-up -/

/-- What the start-up calls return. -/
structure InitEnv where
  epollCreateOk : Bool
  /-- `android_get_control_socket("lmkd")`, `none` when negative -/
  ctrlSock : Option Int32
  listenOk : Bool
  ctrlAddOk : Bool
  /-- `init_poll_kernel`: the in-kernel event file, `none` when it fails -/
  kpollFd : Option Int32
  kpollAddOk : Bool
  /-- `sys.boot_completed` at start-up -/
  bootCompleted : Bool
  monitors : MonitorEnv
  initHookOk : Bool
  reapingSupported : Bool
  /-- `reaper_comm_fd[0]` when `pipe` and `fcntl` succeed -/
  reaperPipe : Option Int32
  reaperAddOk : Bool
  reaperInitOk : Bool

/-- The globals when `init` starts: the initialisers of `lmkd.cpp`, zero
for the rest, together with what `init` sets up without a failure path: the
data connections marked unused, the empty slot rings and `killcnt_idx`
filled with `KILLCNT_INVALID_IDX`. -/
def Globals.boot : Globals where
  reg := .initial
  lastKillPidOrFd := -1
  lastKillTm := ⟨0, 0⟩
  maxevents := 0
  dataSock := fun _ => ⟨-1, 0, 0⟩
  mpevfd := fun _ => -1
  monitorsInitialized := false
  usePsiMonitors := false
  killcntIdx := fun i => if 0 ≤ i ∧ i < adjToSlotCount then 0xFF else 0
  killcnt := fun _ => 0
  killcntFreeIdx := 0
  killcntTotal := 0
  poll := ⟨none, none, ⟨0, 0⟩, ⟨0, 0⟩, 0, .doNotChange⟩
  killing := false
  firstKill := true
  countUpgradedEvent := 0
  lastEventUpgraded := false
  tmed := ⟨0, 0⟩
  tcrit := ⟨0, 0⟩
  tupgrad := ⟨0, 0⟩
  bootCompletedHandled := false
  memeventListener := false
  lowmemMinfree := fun _ => 0
  lowmemAdj := fun _ => 0
  lowmemTargetsSize := 0
  lastReqTm := ⟨0, 0⟩
  script := ⟨none, false, false, ⟨0, 0⟩⟩
  exited := false
  epollFds := []
  fdLog := []
  kills := []
  adjWrites := []
  taskOps := []
  minfreeLevels := []
  replies := []

/-- `init_reaper`: the pipe's read end is counted only once the reaper
threads are up. -/
def initReaper (ienv : InitEnv) (g : Globals) : Globals :=
  if !ienv.reapingSupported then g
  else
    match ienv.reaperPipe with
    | none => g
    | some fd =>
      if !ienv.reaperAddOk then g
      else if !ienv.reaperInitOk then g
      else g.epollRegister fd

/-- The part of `init` that sets up the source of pressure events: the
in-kernel event file, or the monitors unless they wait for the end of boot. -/
def initPressureSource (cfg : Config) (ienv : InitEnv) (g : Globals) : Globals × Bool :=
  if cfg.useInkernelInterface then
    match ienv.kpollFd with
    | some fd => (if ienv.kpollAddOk then g.epollRegister fd else g, true)
    | none => (g, true)
  else if !cfg.delayMonitorsUntilBoot ∨ ienv.bootCompleted then initMonitors cfg ienv.monitors g
  else (g, true)

/-- `init` followed by `init_reaper`, as `main` runs them: `none` when
`init` fails and lmkd exits without entering the main loop. -/
def lmkdInit (cfg : Config) (ienv : InitEnv) : Option Globals :=
  if !ienv.epollCreateOk then none
  else
    match ienv.ctrlSock with
    | none => none
    | some sock =>
      if !ienv.listenOk ∨ !ienv.ctrlAddOk then none
      else
        let source := initPressureSource cfg ienv (Globals.boot.epollRegister sock)
        if !source.2 ∨ !ienv.initHookOk then none
        else some (initReaper ienv source.1)

/-! ## Nothing here touches the registry -/

@[simp] theorem destroyMpFd_reg (level : Nat) (g : Globals) : (destroyMpFd level g).reg = g.reg := by
  simp only [destroyMpFd]
  split <;> rfl

@[simp] theorem registerMpFd_reg (level : Nat) (fd : Int32) (g : Globals) :
    (registerMpFd level fd g).reg = g.reg := rfl

@[simp] theorem initMpPsi_reg (cfg : Config) (menv : MonitorEnv) (level : Nat) (g : Globals) :
    (initMpPsi cfg menv level g).1.reg = g.reg := by
  unfold initMpPsi
  split
  · rfl
  · split
    · rfl
    · split <;> rfl

@[simp] theorem initMpCommon_reg (menv : MonitorEnv) (level : Nat) (g : Globals) :
    (initMpCommon menv level g).1.reg = g.reg := by
  unfold initMpCommon
  split
  · rfl
  · split <;> rfl

@[simp] theorem initPsiMonitors_reg (cfg : Config) (menv : MonitorEnv) (g : Globals) :
    (initPsiMonitors cfg menv g).1.reg = g.reg := by
  simp only [initPsiMonitors]
  split
  · simp
  · split
    · simp [destroyMpPsi]
    · split <;> simp [destroyMpPsi]

@[simp] theorem initVmpressureMonitors_reg (menv : MonitorEnv) (g : Globals) :
    (initVmpressureMonitors menv g).1.reg = g.reg := by
  simp only [initVmpressureMonitors]
  split
  · simp
  · split <;> simp

@[simp] theorem initMonitors_reg (cfg : Config) (menv : MonitorEnv) (g : Globals) :
    (initMonitors cfg menv g).1.reg = g.reg := by
  have hpsi : (if cfg.usePsi then initPsiMonitors cfg menv g else (g, false)).1.reg = g.reg := by
    split <;> simp
  simp only [initMonitors]
  generalize (if cfg.usePsi then initPsiMonitors cfg menv g else (g, false)) = psi at hpsi ⊢
  split
  · exact hpsi
  · split <;> simpa using hpsi

@[simp] theorem destroyMonitors_reg (g : Globals) : (destroyMonitors g).reg = g.reg := by
  unfold destroyMonitors
  split <;> simp [destroyMpPsi, destroyMpCommon]

@[simp] theorem initMemeventListenerMonitoring_reg (menv : MemeventEnv) (g : Globals) :
    (initMemeventListenerMonitoring menv g).1.reg = g.reg := by
  unfold initMemeventListenerMonitoring
  split
  · rfl
  · split
    · rfl
    · split <;> rfl

@[simp] theorem initReaper_reg (ienv : InitEnv) (g : Globals) : (initReaper ienv g).reg = g.reg := by
  unfold initReaper
  split
  · rfl
  · split
    · rfl
    · split
      · rfl
      · split <;> rfl

@[simp] theorem initPressureSource_reg (cfg : Config) (ienv : InitEnv) (g : Globals) :
    (initPressureSource cfg ienv g).1.reg = g.reg := by
  unfold initPressureSource
  split
  · split
    · split <;> rfl
    · rfl
  · split
    · simp
    · rfl

theorem lmkdInit_reg {cfg : Config} {ienv : InitEnv} {g : Globals} (h : lmkdInit cfg ienv = some g) :
    g.reg = Registry.initial := by
  simp only [lmkdInit] at h
  split at h
  · cases h
  · split at h
    · cases h
    · split at h
      · cases h
      · split at h
        · cases h
        · rw [Option.some_inj] at h
          subst h
          simp [Globals.boot]

end Lmkd
