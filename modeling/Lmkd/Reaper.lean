import Lmkd.Lib.Transition
import Mathlib.Logic.Function.Basic

/-!
# The reaper thread pool

`Reaper::kill` runs on the main thread of lmkd, `reaper_main` on each of the
`thread_cnt_` threads that `Reaper::init` started.  They share `queue_` and
`active_requests_`, which are only touched under `mutex_`.  Each section
under the mutex is one step here: the admission and push of `async_kill`,
the pop of `dequeue_request`, `request_complete` and `notify_kill_failure`.
So is each system call a reaper thread makes on its request outside the
mutex.  `reaperSystem n` lets these steps interleave in any order.

`queue_` is a vector used as a stack (`push_back`, then `back` and
`pop_back`); the list here holds it newest first.  `async_kill` queues a
`dup` of the target's pidfd.  The duplicate made for the `k`-th accepted
request is named `k`, so that the closes of `reaper_main` can be told apart;
`dequeued` and `closed` log the duplicates taken off the queue and closed,
newest first.
-/

namespace Lmkd

/-- `Reaper::target_proc`. -/
structure TargetProc where
  pidfd : Int32
  pid : Int32
  uid : UInt32
deriving DecidableEq, Repr

/-- A `target_proc` on `queue_`, whose pidfd is the duplicate `dupFd`. -/
structure ReapRequest where
  dupFd : Nat
  pid : Int32
  uid : UInt32
deriving DecidableEq, Repr

/-- Where a thread of `reaper_main` is, with the request it took. -/
inductive ReaperPc where
  /-- in `dequeue_request`, waiting on `cond_` while `queue_` is empty -/
  | dequeue
  /-- before `pidfd_send_signal` -/
  | signal (target : ReapRequest)
  /-- before `set_process_group_and_prio` and `process_mrelease` -/
  | release (target : ReapRequest)
  /-- before `notify_kill_failure` -/
  | notify (target : ReapRequest)
  /-- at `done:`, before `close(target.pidfd)` -/
  | close (target : ReapRequest)
  /-- before `request_complete` -/
  | complete (target : ReapRequest)
deriving DecidableEq, Repr

structure Reaper (threadCnt : Nat) where
  queue : List ReapRequest
  activeRequests : Int
  threads : Fin threadCnt → ReaperPc
  /-- the duplicates made so far -/
  dups : Nat
  dequeued : List Nat
  closed : List Nat
  /-- the pids written to `comm_fd_`, newest first -/
  commPipe : List Int32
  /-- the pids the main thread signalled itself, newest first -/
  signalled : List Int32

namespace Reaper

variable {n : Nat}

/-- The constructor, with every thread started in `reaper_main`. -/
def initial : Reaper n := ⟨[], 0, fun _ => .dequeue, 0, [], [], [], []⟩

/-- The push of `async_kill`: one more active request, and the target on
the queue with a new duplicate of its pidfd. -/
def enqueue (s : Reaper n) (target : TargetProc) : Reaper n :=
  { s with
    queue := ⟨s.dups, target.pid, target.uid⟩ :: s.queue
    activeRequests := s.activeRequests + 1
    dups := s.dups + 1 }

/-- `Reaper::async_kill`. -/
def asyncKill (s : Reaper n) (target : TargetProc) : Reaper n × Bool :=
  if target.pidfd = -1 then (s, false)
  else if n = 0 then (s, false)
  else if s.activeRequests ≥ n then (s, false)
  else (s.enqueue target, true)

/-- A signal the main thread sends itself, by `kill` or `pidfd_send_signal`. -/
def signalDirect (s : Reaper n) (pid : Int32) : Reaper n :=
  { s with signalled := pid :: s.signalled }

/-- `Reaper::kill`; `result` is what the system call that sends the signal
returns.  An `async_kill` that returns false has changed nothing. -/
def kill (s : Reaper n) (target : TargetProc) (synchronous : Bool) (result : Int32) :
    Reaper n × Int32 :=
  if target.pidfd < 0 then (s.signalDirect target.pid, result)
  else if !synchronous && (s.asyncKill target).2 then ((s.asyncKill target).1, 0)
  else (s.signalDirect target.pid, if result ≠ 0 then result else 0)

def setThread (s : Reaper n) (t : Fin n) (pc : ReaperPc) : Reaper n :=
  { s with threads := Function.update s.threads t pc }

/-- `Reaper::dequeue_request`: a waiting thread takes the newest request. -/
def dequeueRequest (s : Reaper n) (t : Fin n) : Option (Reaper n) :=
  match s.threads t, s.queue with
  | .dequeue, target :: rest =>
    some { s.setThread t (.signal target) with queue := rest, dequeued := target.dupFd :: s.dequeued }
  | _, _ => none

/-- `pidfd_send_signal(target.pidfd, SIGKILL)` on the duplicate, which
succeeds when `ok`. -/
def sendSignal (s : Reaper n) (t : Fin n) (ok : Bool) : Option (Reaper n) :=
  match s.threads t with
  | .signal target => some (s.setThread t (if ok then .release target else .notify target))
  | _ => none

/-- `set_process_group_and_prio` and `process_mrelease`: whether or not the
release succeeds, the thread goes on to `done`. -/
def processMrelease (s : Reaper n) (t : Fin n) : Option (Reaper n) :=
  match s.threads t with
  | .release target => some (s.setThread t (.close target))
  | _ => none

/-- `Reaper::notify_kill_failure`: the pid goes to `comm_fd_` when the write
succeeds, and the thread goes on to `done`. -/
def notifyKillFailure (s : Reaper n) (t : Fin n) (written : Bool) : Option (Reaper n) :=
  match s.threads t with
  | .notify target =>
    some { s.setThread t (.close target) with
      commPipe := if written then target.pid :: s.commPipe else s.commPipe }
  | _ => none

/-- `close(target.pidfd)` at `done`. -/
def closeTarget (s : Reaper n) (t : Fin n) : Option (Reaper n) :=
  match s.threads t with
  | .close target => some { s.setThread t (.complete target) with closed := target.dupFd :: s.closed }
  | _ => none

/-- `Reaper::request_complete`, after which the loop of `reaper_main` goes
back to `dequeue_request`. -/
def requestComplete (s : Reaper n) (t : Fin n) : Option (Reaper n) :=
  match s.threads t with
  | .complete _ => some { s.setThread t .dequeue with activeRequests := s.activeRequests - 1 }
  | _ => none

end Reaper

/-- A call of `Reaper::kill` on the main thread, or a step of reaper thread
`t`, with what the system calls return. -/
inductive ReaperEvent (n : Nat) where
  | kill (target : TargetProc) (synchronous : Bool) (result : Int32)
  | dequeue (t : Fin n)
  | signal (t : Fin n) (ok : Bool)
  | release (t : Fin n)
  | notify (t : Fin n) (written : Bool)
  | close (t : Fin n)
  | complete (t : Fin n)

namespace Reaper

variable {n : Nat}

def step (s : Reaper n) : ReaperEvent n → Option (Reaper n)
  | .kill target synchronous result => some (s.kill target synchronous result).1
  | .dequeue t => s.dequeueRequest t
  | .signal t ok => s.sendSignal t ok
  | .release t => s.processMrelease t
  | .notify t written => s.notifyKillFailure t written
  | .close t => s.closeTarget t
  | .complete t => s.requestComplete t

end Reaper

def reaperSystem (n : Nat) : Transition.System (Reaper n) (ReaperEvent n) :=
  ⟨Reaper.initial, Reaper.step⟩

end Lmkd
