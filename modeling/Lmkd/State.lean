import Lmkd.Lib.IntrusiveList

/-!
# The state of lmkd's main thread

lmkd keeps its state in the file-level globals of `lmkd.cpp`.  `Globals`
gathers those that the modelled handlers read or write: the process registry
(the `pidhash` chains, the `proc` records and the `procadjslot_list` rings),
the kill wait (`last_kill_pid_or_fd`, `last_kill_tm`), `maxevents`, the data
connections, the kill counters, the pressure monitors, the statics of
`mp_event_psi` and `check_cont_lmkd_events` that the polling logic reads,
and the polling parameters that `mainloop` hands to every handler.  A few
fields are observations of the outside world rather than program state: the
descriptors registered on `epollfd`, the pidfds opened and closed, the kills
issued, the values written to `oom_score_adj` files and the calls into the
task-name table of `statslog.cpp`.

C `int` and `pid_t` values are `Int32`, `uid_t` and `uint32_t` are `UInt32`,
and `long` (64-bit) values that are only compared are `Int`.  Time is a
`Timespec` as `clock_gettime` returns it.

Configuration that the handlers only read (`pidfd_supported`, the
`ro.lmk.*` properties) is a `Config`, fixed for a run.
-/

namespace Lmkd

open IntrusiveList

/-! ## Constants

`adjToSlot` is `ADJTOSLOT` (`adj + 1000`, used as an array index), and
`pidHashfn` is `pid_hashfn`, `((x >> 8) ^ x) & (PIDHASH_SZ - 1)`.
`maxEpollEvents` counts the listen socket, the data connections, the four
pressure levels, the in-kernel event file, the kill wait, the reaper pipe and
the memevent listener.
-/

def oomScoreAdjMin : Int32 := -1000

def oomScoreAdjMax : Int32 := 1000

def perceptibleAppAdj : Int32 := 200

def adjToSlot (adj : Int32) : Nat := (adj.toInt + 1000).toNat

def adjToSlotCount : Nat := 2001

def pidhashSz : Nat := 1024

def pidHashfn (x : Int32) : Nat := (((x >>> 8) ^^^ x) &&& 1023).toNatClampNeg

def nativePidFd : Int32 := -128

def maxDataConn : Nat := 3

def maxEpollEvents : Nat := 1 + maxDataConn + 4 + 1 + 1 + 1 + 1

/-! ## Records and the registry -/

/-- `struct proc` without its `asl` links, which are kept in `Registry.links`.
The default value is the all-zero record that `calloc` returns. -/
structure Proc where
  pid : Int32
  pidfd : Int32
  uid : UInt32
  oomadj : Int32
  regPid : Int32
  valid : Bool
deriving DecidableEq, Repr, Inhabited

/-- A node of the slot lists: the head `procadjslot_list[i]`, or the `asl`
link of the record at address `a`. -/
inductive Loc where
  | slot (i : Nat)
  | proc (a : Nat)
deriving DecidableEq, Repr

/-- The process registry: the `pidhash` table, the records it links, and the
`procadjslot_list` rings threaded through them. -/
structure Registry where
  pidhash : Nat → List Nat
  procs : Nat → Proc
  links : Links Loc
  brk : Nat

/-- The registry after `init`: empty chains and every slot head linked to
itself. -/
def Registry.initial : Registry where
  pidhash := fun _ => []
  procs := fun _ => default
  links := ⟨id, id⟩
  brk := 0

/-! ## Time

`getTimeDiffMs` is `get_time_diff_ms`; its division truncates as C's does.
-/

structure Timespec where
  sec : Int
  nsec : Int
deriving DecidableEq, Repr, Inhabited

def getTimeDiffMs (fromTm toTm : Timespec) : Int :=
  (toTm.sec - fromTm.sec) * 1000 + (toTm.nsec - fromTm.nsec).tdiv 1000000

/-! ## Event handlers and polling -/

/-- The `event_handler_info` objects that lmkd registers on `epollfd`. -/
inductive HandlerInfo where
  | vmpressure (level : Nat)
  | dataSock (i : Fin maxDataConn)
  | ctrlSock
  | killDone
  | killFailed
  | kernelPoll
  | directReclaimPoll
deriving DecidableEq, Repr

def HandlerInfo.data : HandlerInfo → Int
  | .vmpressure level => level
  | .dataSock i => i.val
  | _ => 0

inductive PollingUpdate where
  | doNotChange
  | start
  | critUpgrade
  | pause
  | resume
deriving DecidableEq, Repr

structure PollingParams where
  pollHandler : Option HandlerInfo
  pausedHandler : Option HandlerInfo
  pollStartTm : Timespec
  lastPollTm : Timespec
  pollingIntervalMs : Int
  update : PollingUpdate
deriving DecidableEq, Repr

def vmpressLevelMedium : Nat := 1
def vmpressLevelCritical : Nat := 2
def vmpressLevelSuperCritical : Nat := 3

/-! ## Data connections -/

/-- `struct sock_event_handler_info` of a data connection; its handler is
fixed by the slot. -/
structure SockInfo where
  sock : Int32
  pid : Int32
  asyncEventMask : UInt32
deriving DecidableEq, Repr, Inhabited

/-! ## Observations -/

/-- Calls on pidfds: `pidfd_open` returning `fd`, and `close(fd)`. -/
inductive FdEvent where
  | pidfdOpen (fd : Int32)
  | close (fd : Int32)
deriving DecidableEq, Repr

inductive TaskOp where
  | store (pid : Int32) (name : Option (List Char))
  | remove (pid : Int32)
  | purge
deriving DecidableEq, Repr

/-- The static locals of `proc_get_script`. -/
structure ScriptState where
  /-- `d`: `none` when the listing is closed, otherwise the index of the entry
  the next `readdir` returns -/
  dir : Option Nat
  retryEligible : Bool
  checkTime : Bool
  lastTraverseTime : Timespec
deriving DecidableEq, Repr

/-! ## The globals -/

/-- The globals of `lmkd.cpp` that the modelled handlers use.  The last seven
fields are observations, each latest first: the descriptors registered on
`epollfd`, pidfd opens and closes, the kills issued, the accepted
`oom_score_adj` writes, the calls into the task-name table, the values set to
`sys.lmk.minfree_levels`, and the replies written to data connections. -/
structure Globals where
  reg : Registry
  lastKillPidOrFd : Int32
  lastKillTm : Timespec
  maxevents : Int32
  dataSock : Fin maxDataConn → SockInfo
  mpevfd : Nat → Int32
  monitorsInitialized : Bool
  usePsiMonitors : Bool
  /-- `killcnt_idx`, indexed by slot; entries outside `[0, ADJTOSLOT_COUNT)` are
  the memory around the array -/
  killcntIdx : Int → UInt8
  killcnt : Nat → UInt16
  killcntFreeIdx : Int32
  killcntTotal : UInt32
  poll : PollingParams
  /-- the static `killing` of `mp_event_psi` -/
  killing : Bool
  /-- the static `first_kill` of `mp_event_psi` -/
  firstKill : Bool
  countUpgradedEvent : Int32
  lastEventUpgraded : Bool
  tmed : Timespec
  tcrit : Timespec
  tupgrad : Timespec
  bootCompletedHandled : Bool
  /-- whether `memevent_listener` holds a listener -/
  memeventListener : Bool
  lowmemMinfree : Nat → Int32
  lowmemAdj : Nat → Int32
  lowmemTargetsSize : Nat
  /-- the static `last_req_tm` of `cmd_target` -/
  lastReqTm : Timespec
  /-- the statics of `proc_get_script` -/
  script : ScriptState
  /-- set by `exit(1)`; the main loop stops -/
  exited : Bool
  epollFds : List Int32
  fdLog : List FdEvent
  kills : List (Int32 × Timespec)
  adjWrites : List (Int32 × Int32)
  taskOps : List TaskOp
  minfreeLevels : List (List Char)
  replies : List (Nat × List UInt32)

namespace Globals

/-- A successful `epoll_ctl(EPOLL_CTL_ADD)` of `fd` and the `maxevents++`
that follows it. -/
def epollRegister (g : Globals) (fd : Int32) : Globals :=
  { g with epollFds := fd :: g.epollFds, maxevents := g.maxevents + 1 }

/-- `epoll_ctl(EPOLL_CTL_DEL)` of `fd`, which fails and changes nothing when
`fd` is not registered, and the `maxevents--` that follows it either way. -/
def epollUnregister (g : Globals) (fd : Int32) : Globals :=
  { g with epollFds := g.epollFds.erase fd, maxevents := g.maxevents - 1 }

@[simp] theorem epollRegister_reg (g : Globals) (fd : Int32) : (g.epollRegister fd).reg = g.reg :=
  rfl

@[simp] theorem epollUnregister_reg (g : Globals) (fd : Int32) :
    (g.epollUnregister fd).reg = g.reg := rfl

end Globals

/-- The configuration the handlers read: `pidfd_supported`,
`use_inkernel_interface`, `isIoUringSupported`, `has_inkernel_module` and the
`ro.lmk.*` properties, which `update_props` reads again with the same
values. -/
structure Config where
  pidfdSupported : Bool
  useInkernelInterface : Bool
  isIoUringSupported : Bool
  hasInkernelModule : Bool
  usePsi : Bool
  delayMonitorsUntilBoot : Bool
  psiPartialStallMs : Nat
  psiCompleteStallMs : Nat
  psiCompleteStallScritMs : Nat
  perAppMemcg : Bool
  killHeaviestTask : Bool
  killTimeoutMs : Nat
  enablePreferredApps : Bool
  preferredApps : List Char
  isUserdebugOrEngBuild : Bool
  pageK : Int
  psiContEventThresh : Int32
  psiWindowSizeMs : Int
  psiPollPeriodScritMs : Int

end Lmkd
