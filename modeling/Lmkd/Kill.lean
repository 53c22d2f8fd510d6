import Lmkd.Commands

/-!
# The kill path

The kill wait (`is_kill_pending`, `is_waiting_for_kill`,
`start_wait_for_proc_kill`, `stop_wait_for_proc_kill` and the two handlers
that end a wait), the kill counters (`inc_killcnt`, `get_killcnt`), and the
victim search: `proc_adj_tail`, `proc_get_heaviest`, `kill_one_process` and
`find_and_kill_process`.

A call of `find_and_kill_process` sees the system through a `KillEnv`: the
`/proc` files, the current time, and per pid the answers of the kill hook,
of `reaper.kill` and of the `epoll_ctl` that registers the kill wait.
`proc_get_script`, the userdebug fallback that scans `/proc` for unregistered
processes, reads the listing of the environment, and its kill is logged with
the others.

The loops walk the slot rings and retry kills; they take fuel, and
`killFuel` gives them one round per record below the allocation frontier
plus one, which is enough on a consistent registry.
-/

namespace Lmkd

open IntrusiveList Registry

/-- One entry of the `/proc` listing as `proc_get_script` reads it. -/
structure ProcDirent where
  /-- `sscanf(de->d_name, "%u", &pid)`, `none` when the name is not a number -/
  pid : Option UInt32
  /-- `proc_get_vm(pid)` -/
  totalVm : Int
  /-- what `sscanf(line, "%d", &oomadj)` reads from `/proc/<pid>/oom_score_adj`,
  `none` when the file does not open, the read fails or nothing parses -/
  oomScoreAdj : Option Int
  /-- `proc_get_size(pid)` -/
  tasksize : Int
  /-- whether `kill(pid, SIGKILL)` returns 0 -/
  killOk : Bool
deriving DecidableEq, Repr

structure ScriptEnv where
  /-- whether `opendir("/proc")` succeeds -/
  opendirOk : Bool
  /-- the entries `readdir` returns, in order -/
  procDir : List ProcDirent
  /-- `clock_gettime(CLOCK_MONOTONIC_COARSE)` -/
  now : Timespec

structure KillEnv where
  proc : ProcEnv
  now : Timespec
  /-- `lmkd_free_memory_before_kill_hook` for the record of a pid -/
  hook : Int32 → Int
  /-- whether `reaper.kill({pidfd, pid, uid}, false)` returns 0 -/
  reaperKill : Int32 → Bool
  /-- whether `epoll_ctl(EPOLL_CTL_ADD)` of a kill wait's descriptor succeeds -/
  epollAdd : Int32 → Bool
  /-- whether `/proc/<pid>/` exists -/
  procExists : Int32 → Bool
  /-- what `proc_get_script()` reads -/
  script : ScriptEnv

/-! ## The kill wait -/

def isKillPending (cfg : Config) (env : KillEnv) (g : Globals) : Bool :=
  if g.lastKillPidOrFd < 0 then false
  else if cfg.pidfdSupported then true
  else env.procExists g.lastKillPidOrFd

def isWaitingForKill (cfg : Config) (g : Globals) : Bool :=
  cfg.pidfdSupported && 0 ≤ g.lastKillPidOrFd

/-- `stop_wait_for_proc_kill(finished)`: `finished` only selects a log line. -/
def stopWaitForProcKill (cfg : Config) (g : Globals) (_finished : Bool) : Globals :=
  if g.lastKillPidOrFd < 0 then g
  else
    let g := if cfg.pidfdSupported then
        { g.epollUnregister g.lastKillPidOrFd with fdLog := .close g.lastKillPidOrFd :: g.fdLog }
      else g
    { g with lastKillPidOrFd := -1 }

/-- `start_wait_for_proc_kill(pid_or_fd)`; `addOk` is the result of the
`epoll_ctl` that registers the descriptor. -/
def startWaitForProcKill (cfg : Config) (addOk : Bool) (g : Globals) (pidOrFd : Int32) :
    Globals :=
  let g := if 0 ≤ g.lastKillPidOrFd then stopWaitForProcKill cfg g false else g
  let g := { g with lastKillPidOrFd := pidOrFd }
  if !cfg.pidfdSupported then g
  else if !addOk then { g with fdLog := .close pidOrFd :: g.fdLog, lastKillPidOrFd := -1 }
  else g.epollRegister pidOrFd

def killDoneHandler (cfg : Config) (g : Globals) : Globals :=
  let g := stopWaitForProcKill cfg g true
  { g with poll := { g.poll with update := .resume } }

/-- `kill_fail_handler`: the pid read from the reaper's pipe is not looked
at; whatever wait is in progress ends. -/
def killFailHandler (cfg : Config) (g : Globals) : Globals :=
  let g := stopWaitForProcKill cfg g false
  { g with poll := { g.poll with update := .resume } }

/-! ## Kill counters -/

def maxDistinctOomAdj : Nat := 32

def killcntInvalidIdx : UInt8 := 0xFF

def incKillcnt (g : Globals) (oomadj : Int32) : Globals :=
  let slot : Int := oomadj.toInt + 1000
  let idx := g.killcntIdx slot
  let g :=
    if idx = killcntInvalidIdx then
      if g.killcntFreeIdx.toInt < maxDistinctOomAdj then
        { g with
          killcntIdx := Function.update g.killcntIdx slot g.killcntFreeIdx.toUInt32.toUInt8
          killcnt := Function.update g.killcnt g.killcntFreeIdx.toNatClampNeg 1
          killcntFreeIdx := g.killcntFreeIdx + 1 }
      else g
    else { g with killcnt := Function.update g.killcnt idx.toNat (g.killcnt idx.toNat + 1) }
  { g with killcntTotal := g.killcntTotal + 1 }

/-- The loop of `get_killcnt` from `minOomadj` up; `fuel` bounds its rounds. -/
def getKillcntLoop (g : Globals) (maxOomadj : Int) : Nat → Int → Int → Int
  | 0, _, count => count
  | fuel + 1, minOomadj, count =>
    if minOomadj ≤ maxOomadj ∧ minOomadj + 1000 < adjToSlotCount then
      let idx := g.killcntIdx (minOomadj + 1000)
      getKillcntLoop g maxOomadj fuel (minOomadj + 1)
        (if idx ≠ killcntInvalidIdx then count + (g.killcnt idx.toNat).toNat else count)
    else count

def getKillcnt (g : Globals) (minOomadj maxOomadj : Int32) : Int :=
  if minOomadj > maxOomadj then 0
  -- the int return value converts the uint32_t total, negative from 2^31
  else if minOomadj > oomScoreAdjMax then g.killcntTotal.toInt32.toInt
  else getKillcntLoop g maxOomadj.toInt (1001 - minOomadj.toInt).toNat minOomadj.toInt 0

/-- The slots of `killcnt_idx` that the loop of `get_killcnt` reads, in the
order it reads them. -/
def getKillcntLoopSlots (maxOomadj : Int) : Nat → Int → List Int
  | 0, _ => []
  | fuel + 1, minOomadj =>
    if minOomadj ≤ maxOomadj ∧ minOomadj + 1000 < adjToSlotCount then
      (minOomadj + 1000) :: getKillcntLoopSlots maxOomadj fuel (minOomadj + 1)
    else []

def getKillcntSlots (minOomadj maxOomadj : Int32) : List Int :=
  if minOomadj > maxOomadj then []
  else if minOomadj > oomScoreAdjMax then []
  else getKillcntLoopSlots maxOomadj.toInt (1001 - minOomadj.toInt).toNat minOomadj.toInt

/-! ## Choosing a victim -/

/-- One round of fuel per record below the allocation frontier, and one more. -/
def killFuel (g : Globals) : Nat := g.reg.brk + 1

def better (best : Option Nat × Int) (a : Nat) (tasksize : Int) : Option Nat × Int :=
  if tasksize > best.2 then (some a, tasksize) else best

/-- Whether a task name is listed in `preferred_apps`. -/
def isPreferredApp (cfg : Config) (taskname : Option (List Char)) : Bool :=
  cfg.enablePreferredApps &&
    match taskname with
    | some name => (strstr cfg.preferredApps name 0).isSome
    | none => false

/-- The walk of `proc_get_heaviest` from `curr` to the slot head `head`: a
record whose size cannot be read is removed and the walk goes on from its
successor; the others compete for the largest size, preferred apps
separately. -/
def procGetHeaviestLoop (cfg : Config) (env : KillEnv) (head : Loc) :
    Nat → Globals → Loc → Option Nat × Int → Option Nat × Int →
      Globals × (Option Nat × Int) × (Option Nat × Int)
  | 0, g, _, best, bestPa => (g, best, bestPa)
  | fuel + 1, g, curr, best, bestPa =>
    if curr = head then (g, best, bestPa)
    else
      match curr with
      | .slot _ => (g, best, bestPa)
      | .proc a =>
        let pid := (g.reg.procs a).pid
        let tasksize := env.proc.size pid
        let next := g.reg.links.next curr
        if tasksize < 0 then
          procGetHeaviestLoop cfg env head fuel (pidRemove g pid).1 next best bestPa
        else if isPreferredApp cfg (procGetName env.proc pid lineMax) then
          procGetHeaviestLoop cfg env head fuel g next best (better bestPa a tasksize)
        else procGetHeaviestLoop cfg env head fuel g next (better best a tasksize) bestPa

def procGetHeaviest (cfg : Config) (env : KillEnv) (g : Globals) (oomadj : Int32) :
    Globals × Option Nat :=
  let head := Loc.slot (adjToSlot oomadj)
  let walk :=
    procGetHeaviestLoop cfg env head (killFuel g) g (g.reg.links.next head) (none, 0) (none, 0)
  (walk.1, if walk.2.1.2 > 0 then walk.2.1.1 else walk.2.2.1)

/-! ## Killing -/

/-- The end of `kill_one_process`: the record is removed, killed or not. -/
def killOut (g : Globals) (pid : Int32) (result : Int) : Globals × Int :=
  ((pidRemove g pid).1, result)

/-- `kill_one_process` once the status, the sizes and the name were read:
the hook may free memory instead, otherwise the wait starts and the reaper
kills.  A failed kill returns what the hook returned. -/
def killIssue (cfg : Config) (env : KillEnv) (g : Globals) (a : Nat) (rssKb : Int) :
    Globals × Int :=
  let p := g.reg.procs a
  let result := env.hook p.pid
  if result > 0 then (g, result)
  else
    let g := startWaitForProcKill cfg (env.epollAdd (if p.pidfd < 0 then p.pid else p.pidfd)) g
      (if p.pidfd < 0 then p.pid else p.pidfd)
    if !env.reaperKill p.pid then killOut (stopWaitForProcKill cfg g false) p.pid result
    else
      let g := { g with lastKillTm := env.now, kills := (p.pid, env.now) :: g.kills }
      killOut (incKillcnt g p.oomadj) p.pid (rssKb.tdiv cfg.pageK)

def killOneProcess (cfg : Config) (env : KillEnv) (g : Globals) (a : Nat) : Globals × Int :=
  let p := g.reg.procs a
  if !p.valid then killOut g p.pid (-1)
  else
    match readProcStatus env.proc p.pid bufMax with
    | none => killOut g p.pid (-1)
    | some buf =>
      match parseStatusTag buf procStatusTgidField with
      | none => killOut g p.pid (-1)
      | some tgid =>
        if tgid ≠ p.pid.toInt then killOut g p.pid (-1)
        else
          match parseStatusTag buf procStatusRssField, parseStatusTag buf procStatusSwapField,
            procGetName env.proc p.pid bufMax with
          | some rssKb, some _, some _ => killIssue cfg env g a rssKb
          | _, _, _ => killOut g p.pid (-1)

/-- `choose_heaviest_task ? proc_get_heaviest(i) : proc_adj_tail(i)`. -/
def pickVictim (cfg : Config) (env : KillEnv) (chooseHeaviest : Bool) (g : Globals) (i : Int32) :
    Globals × Option Nat :=
  if chooseHeaviest then procGetHeaviest cfg env g i else (g, g.reg.procAdjTail i)

/-- The inner `while (true)` of `find_and_kill_process` at slot `i`: pick a
victim and kill it, again while the kill reports a failure before the kill. -/
def killAtSlot (cfg : Config) (env : KillEnv) (chooseHeaviest : Bool) (i : Int32) :
    Nat → Globals → Int → Globals × Int
  | 0, g, killedSize => (g, killedSize)
  | fuel + 1, g, killedSize =>
    match pickVictim cfg env chooseHeaviest g i with
    | (g, none) => (g, killedSize)
    | (g, some a) =>
      let killed := killOneProcess cfg env g a
      if killed.2 ≥ 0 then killed else killAtSlot cfg env chooseHeaviest i fuel killed.1 killed.2

/-- The outer loop of `find_and_kill_process`, from slot score `i` down to
`minScoreAdj`; `killedSize` carries over from slot to slot. -/
def killFromSlot (cfg : Config) (env : KillEnv) (minScoreAdj : Int32) :
    Nat → Globals → Int32 → Bool → Int → Globals × Int
  | 0, g, _, _, killedSize => (g, killedSize)
  | fuel + 1, g, i, chooseHeaviest, killedSize =>
    if i < minScoreAdj then (g, killedSize)
    else
      let chooseHeaviest := chooseHeaviest || i ≤ perceptibleAppAdj
      let atSlot := killAtSlot cfg env chooseHeaviest i (killFuel g) g killedSize
      if atSlot.2 ≠ 0 then atSlot
      else killFromSlot cfg env minScoreAdj fuel atSlot.1 (i - 1) chooseHeaviest atSlot.2

/-! ## The userdebug fallback

`proc_get_script` scans `/proc` for processes lmkd was never told about.
Each entry is seen through the answers of the reads it makes. -/

def psiProcTraverseDelayMs : Int := 200

/-- The checks of the `readdir` loop: not init, not a kernel thread, a
non-negative score and a positive size. -/
def scriptEligible (e : ProcDirent) : Bool :=
  match e.pid, e.oomScoreAdj with
  | some pid, some oomadj =>
    pid != 1 && decide (0 < e.totalVm) && decide (0 ≤ oomadj) && decide (0 < e.tasksize)
  | _, _ => false

/-- The `readdir` loop over the entries `es`, the first of which has index
`pos`: the first eligible entry and its index. -/
def scriptScan : List ProcDirent → Nat → Option (Nat × ProcDirent)
  | [], _ => none
  | e :: es, pos => if scriptEligible e then some (pos, e) else scriptScan es (pos + 1)

/-- `proc_get_script` from its label `repeat`, with `fuel` bounding the jumps
back to it: the new static state, the value returned and the entry that
`kill` was called on. -/
def procGetScriptFrom (env : ScriptEnv) : Nat → ScriptState → ScriptState × Int × Option ProcDirent
  | 0, st => (st, 0, none)
  | fuel + 1, st =>
    let pos := match st.dir with
      | some pos => some pos
      | none => if env.opendirOk then some 0 else none
    match pos with
    | none => (st, 0, none)
    | some pos =>
      match scriptScan (env.procDir.drop pos) pos with
      | some (k, e) =>
        -- the listing stays open after the kill, at the entry that follows
        ({ st with dir := some (k + 1), retryEligible := true, checkTime := false },
          if e.killOk then e.tasksize else 0, some e)
      | none =>
        if st.retryEligible then
          procGetScriptFrom env fuel { st with dir := none, retryEligible := false }
        else ({ st with dir := none, checkTime := true, lastTraverseTime := env.now }, 0, none)

/-- `proc_get_script()`: within 200 ms of a traversal that found nothing it
does not look; otherwise it goes on through the listing from where the last
call stopped, and starts it over once when the traversal it ends had killed.
Two rounds of fuel are enough: the second starts with `retry_eligible`
false. -/
def procGetScript (env : ScriptEnv) (st : ScriptState) : ScriptState × Int × Option ProcDirent :=
  if st.checkTime ∧ getTimeDiffMs st.lastTraverseTime env.now < psiProcTraverseDelayMs then
    (st, 0, none)
  else procGetScriptFrom env 2 st

/-- The kill `proc_get_script` signalled, logged when `kill` returned 0. -/
def logScriptKill (now : Timespec) (victim : Option ProcDirent) (kills : List (Int32 × Timespec)) :
    List (Int32 × Timespec) :=
  match victim with
  | some e =>
    match e.pid with
    | some pid => if e.killOk then (pid.toInt32, now) :: kills else kills
    | none => kills
  | none => kills

def findAndKillProcess (cfg : Config) (env : KillEnv) (g : Globals) (minScoreAdj : Int32) :
    Globals × Int :=
  let slots := killFromSlot cfg env minScoreAdj (1001 - minScoreAdj.toInt).toNat g oomScoreAdjMax
    cfg.killHeaviestTask 0
  if slots.2 = 0 ∧ minScoreAdj = 0 ∧ cfg.isUserdebugOrEngBuild then
    let script := procGetScript env.script slots.1.script
    ({ slots.1 with script := script.1, kills := logScriptKill env.now script.2.2 slots.1.kills },
      script.2.1)
  else slots

/-! ## The kill path keeps the registry consistent

Only `pid_remove` touches the registry on the kill path; every other store
is to the kill wait, the counters or the observations. -/

@[simp] theorem stopWaitForProcKill_reg (cfg : Config) (g : Globals) (finished : Bool) :
    (stopWaitForProcKill cfg g finished).reg = g.reg := by
  unfold stopWaitForProcKill
  split
  · rfl
  · split <;> rfl

@[simp] theorem stopWaitForProcKill_kills (cfg : Config) (g : Globals) (finished : Bool) :
    (stopWaitForProcKill cfg g finished).kills = g.kills := by
  unfold stopWaitForProcKill
  split
  · rfl
  · split <;> rfl

@[simp] theorem startWaitForProcKill_reg (cfg : Config) (addOk : Bool) (g : Globals)
    (pidOrFd : Int32) : (startWaitForProcKill cfg addOk g pidOrFd).reg = g.reg := by
  unfold startWaitForProcKill
  have h : (if 0 ≤ g.lastKillPidOrFd then stopWaitForProcKill cfg g false else g).reg = g.reg := by
    split <;> simp
  simp only
  split
  · exact h
  · split
    · exact h
    · exact h

@[simp] theorem incKillcnt_reg (g : Globals) (oomadj : Int32) : (incKillcnt g oomadj).reg = g.reg := by
  unfold incKillcnt
  simp only
  split
  · split <;> rfl
  · rfl

theorem killOut_inv {g g' : Globals} (h : g'.reg = g.reg) (hi : g.reg.Inv) (pid : Int32)
    (result : Int) : (killOut g' pid result).1.reg.Inv :=
  pidRemove_inv (h ▸ hi) pid

theorem killIssue_inv {g : Globals} (hi : g.reg.Inv) (cfg : Config) (env : KillEnv) (a : Nat)
    (rssKb : Int) : (killIssue cfg env g a rssKb).1.reg.Inv := by
  simp only [killIssue]
  split
  · exact hi
  · split
    · exact killOut_inv (by simp) hi _ _
    · exact killOut_inv (by simp) hi _ _

theorem killOneProcess_inv {g : Globals} (hi : g.reg.Inv) (cfg : Config) (env : KillEnv)
    (a : Nat) : (killOneProcess cfg env g a).1.reg.Inv := by
  simp only [killOneProcess]
  split
  · exact killOut_inv rfl hi _ _
  · split
    · exact killOut_inv rfl hi _ _
    · split
      · exact killOut_inv rfl hi _ _
      · split
        · exact killOut_inv rfl hi _ _
        · split
          · exact killIssue_inv hi cfg env a _
          · exact killOut_inv rfl hi _ _

theorem procGetHeaviestLoop_inv (cfg : Config) (env : KillEnv) (head : Loc) :
    ∀ (fuel : Nat) (g : Globals) (curr : Loc) (best bestPa : Option Nat × Int), g.reg.Inv →
      (procGetHeaviestLoop cfg env head fuel g curr best bestPa).1.reg.Inv
  | 0, _, _, _, _, hi => hi
  | fuel + 1, g, curr, best, bestPa, hi => by
    simp only [procGetHeaviestLoop]
    split
    · exact hi
    · split
      · exact hi
      · split
        · exact procGetHeaviestLoop_inv cfg env head fuel _ _ _ _ (pidRemove_inv hi _)
        · split
          · exact procGetHeaviestLoop_inv cfg env head fuel _ _ _ _ hi
          · exact procGetHeaviestLoop_inv cfg env head fuel _ _ _ _ hi

theorem procGetHeaviest_inv {g : Globals} (hi : g.reg.Inv) (cfg : Config) (env : KillEnv)
    (oomadj : Int32) : (procGetHeaviest cfg env g oomadj).1.reg.Inv := by
  simp only [procGetHeaviest]
  exact procGetHeaviestLoop_inv cfg env _ _ g _ _ _ hi

theorem pickVictim_inv {g : Globals} (hi : g.reg.Inv) (cfg : Config) (env : KillEnv)
    (chooseHeaviest : Bool) (i : Int32) : (pickVictim cfg env chooseHeaviest g i).1.reg.Inv := by
  unfold pickVictim
  split
  · exact procGetHeaviest_inv hi cfg env i
  · exact hi

theorem killAtSlot_inv (cfg : Config) (env : KillEnv) (chooseHeaviest : Bool) (i : Int32) :
    ∀ (fuel : Nat) (g : Globals) (killedSize : Int), g.reg.Inv →
      (killAtSlot cfg env chooseHeaviest i fuel g killedSize).1.reg.Inv
  | 0, _, _, hi => hi
  | fuel + 1, g, killedSize, hi => by
    have hpick := pickVictim_inv hi cfg env chooseHeaviest i
    simp only [killAtSlot]
    split
    · rename_i g' h
      rw [h] at hpick
      exact hpick
    · rename_i g' a h
      rw [h] at hpick
      have hkill := killOneProcess_inv hpick cfg env a
      split
      · exact hkill
      · exact killAtSlot_inv cfg env chooseHeaviest i fuel _ _ hkill

theorem killFromSlot_inv (cfg : Config) (env : KillEnv) (minScoreAdj : Int32) :
    ∀ (fuel : Nat) (g : Globals) (i : Int32) (chooseHeaviest : Bool) (killedSize : Int),
      g.reg.Inv → (killFromSlot cfg env minScoreAdj fuel g i chooseHeaviest killedSize).1.reg.Inv
  | 0, _, _, _, _, hi => hi
  | fuel + 1, g, i, chooseHeaviest, killedSize, hi => by
    have hslot := killAtSlot_inv cfg env (chooseHeaviest || decide (i ≤ perceptibleAppAdj)) i
      (killFuel g) g killedSize hi
    simp only [killFromSlot]
    split
    · exact hi
    · split
      · exact hslot
      · exact killFromSlot_inv cfg env minScoreAdj fuel _ _ _ _ hslot

theorem findAndKillProcess_inv {g : Globals} (hi : g.reg.Inv) (cfg : Config) (env : KillEnv)
    (minScoreAdj : Int32) : (findAndKillProcess cfg env g minScoreAdj).1.reg.Inv := by
  have hloop := killFromSlot_inv cfg env minScoreAdj (1001 - minScoreAdj.toInt).toNat g
    oomScoreAdjMax cfg.killHeaviestTask 0 hi
  simp only [findAndKillProcess]
  split
  · exact hloop
  · exact hloop

end Lmkd
