import Lmkd.Mainloop
import Mathlib

/-!
# The registry stays consistent

From the empty registry that start-up leaves, every action of the main
thread keeps `Registry.Inv`: the commands and the batched path only insert a
new pid, reslot a registered record with a valid score, remove the record
`pid_lookup` found or edit registrants; the kill path only removes; the
connection closes only clear registrants; everything else leaves the
registry alone.  So every reachable state, and every state `mainloop`
reaches, has a well-formed registry, and in particular its slot lists are
doubly linked rings.
-/

namespace Lmkd

open Registry Transition

/-! ## One action -/

theorem runHandler_inv {g : Globals} (hi : g.reg.Inv) (cfg : Config) (info : HandlerInfo)
    (events : UInt32) (env : CallEnv) : (runHandler cfg info events env g).reg.Inv := by
  cases info with
  | vmpressure level => exact mpEventPsi_inv hi cfg env.kill level events env.psi
  | dataSock i =>
    simp only [runHandler]
    split
    · exact ctrlCommandHandler_inv hi cfg env.cmd i env.recv
    · exact hi
  | ctrlSock => exact ctrlConnectHandler_inv hi env.accept env.acceptAddOk
  | killDone => simpa [runHandler, killDoneHandler] using hi
  | killFailed => simpa [runHandler, killFailHandler] using hi
  | kernelPoll => exact hi
  | directReclaimPoll => exact hi

theorem callHandler_reg (cfg : Config) (info : HandlerInfo) (events : UInt32) (env : CallEnv)
    (g : Globals) : (callHandler cfg info events env g).reg =
      (runHandler cfg info events env { g with poll := { g.poll with update := .doNotChange } }).reg := by
  simp only [callHandler]
  split <;> rfl

theorem callHandler_inv {g : Globals} (hi : g.reg.Inv) (cfg : Config) (info : HandlerInfo)
    (events : UInt32) (env : CallEnv) : (callHandler cfg info events env g).reg.Inv := by
  rw [callHandler_reg]
  apply runHandler_inv
  exact hi

@[simp] theorem mainloopKillTimeout_reg (cfg : Config) (currTm : Timespec) (g : Globals) :
    (mainloopKillTimeout cfg currTm g).reg = g.reg := by
  simp only [mainloopKillTimeout]
  split <;> simp

theorem hupClose_inv {g : Globals} (hi : g.reg.Inv) (info : HandlerInfo) : (hupClose info g).reg.Inv := by
  unfold hupClose
  split
  · exact ctrlDataClose_inv hi _
  · exact hi

theorem handleEvent_inv {g : Globals} (hi : g.reg.Inv) (cfg : Config) (info : HandlerInfo)
    (events : UInt32) (contNow : Timespec) (env : CallEnv) :
    (handleEvent cfg info events contNow env g).reg.Inv := by
  simp only [handleEvent]
  apply callHandler_inv
  split
  · split
    · simpa using hi
    · exact hi
  · exact hi

theorem lmkdStep_inv {cfg : Config} {g g' : Globals} {a : Action} (h : lmkdStep cfg g a = some g')
    (hi : g.reg.Inv) : g'.reg.Inv := by
  cases a with
  | poll env =>
    simp only [lmkdStep] at h
    split at h
    · cases h
    · split at h
      · cases h
        exact callHandler_inv hi cfg _ 0 env
      · cases h
  | killTimeout now =>
    simp only [lmkdStep] at h
    split at h
    · cases h
    · cases h
      simpa using hi
  | hup info =>
    simp only [lmkdStep] at h
    split at h
    · cases h
    · cases h
      exact hupClose_inv hi info
  | event info events contNow env =>
    simp only [lmkdStep] at h
    split at h
    · cases h
    · cases h
      exact handleEvent_inv hi cfg info events contNow env

/-! ## Every run -/

theorem lmkdSystem_inv {cfg : Config} {ienv : InitEnv} {g₀ : Globals}
    (h₀ : lmkdInit cfg ienv = some g₀) {g : Globals} (hg : (lmkdSystem cfg g₀).Reachable g) :
    g.reg.Inv := by
  apply System.Reachable.induction (lmkdSystem cfg g₀) _ _ hg
  · exact ⟨_, (lmkdInit_reg h₀).symm ▸ wellFormed_initial⟩
  · intro s a s' hs hstep
    exact lmkdStep_inv hstep hs

/-- The registry of every reachable state is well formed for some contents of
the slot lists: every chain entry hashes to its chain, no two records share
a pid, every record has a score in `[-1000, 1000]` and lies in exactly the
slot list of its score, every slot-list element is a registered record, and
each slot list is a ring with `next->prev` and `prev->next` the identity. -/
theorem registry_consistent {cfg : Config} {ienv : InitEnv} {g₀ : Globals}
    (h₀ : lmkdInit cfg ienv = some g₀) {g : Globals} (hg : (lmkdSystem cfg g₀).Reachable g) :
    ∃ slots, g.reg.WellFormed slots ∧
      ∀ i < adjToSlotCount, ∀ y ∈ Loc.slot i :: (slots i).map Loc.proc,
        g.reg.links.prev (g.reg.links.next y) = y ∧ g.reg.links.next (g.reg.links.prev y) = y := by
  obtain ⟨slots, hw⟩ := lmkdSystem_inv h₀ hg
  exact ⟨slots, hw, fun i hi y hy => hw.links_inverse hi hy⟩

/-- `mainloop` refines the main thread's actions: every state it reaches
from start-up, over any turns, is a reachable state of `lmkdSystem`, so its
registry is consistent. -/
theorem mainloop_refines {cfg : Config} {ienv : InitEnv} {g₀ : Globals}
    (h₀ : lmkdInit cfg ienv = some g₀) (ws : List Wakeup) :
    (lmkdSystem cfg g₀).Reachable (mainloop cfg g₀ ws) ∧ (mainloop cfg g₀ ws).reg.Inv :=
  ⟨mainloop_reachable cfg g₀ ws, lmkdSystem_inv h₀ (mainloop_reachable cfg g₀ ws)⟩

/-! ## A start-up that succeeds -/

def exampleConfig : Config where
  pidfdSupported := true
  useInkernelInterface := false
  isIoUringSupported := true
  hasInkernelModule := false
  usePsi := true
  delayMonitorsUntilBoot := false
  psiPartialStallMs := 70
  psiCompleteStallMs := 700
  psiCompleteStallScritMs := 800
  perAppMemcg := false
  killHeaviestTask := false
  killTimeoutMs := 100
  enablePreferredApps := false
  preferredApps := []
  isUserdebugOrEngBuild := false
  pageK := 4
  psiContEventThresh := 2
  psiWindowSizeMs := 1000
  psiPollPeriodScritMs := 10

def exampleInitEnv : InitEnv where
  epollCreateOk := true
  ctrlSock := some 3
  listenOk := true
  ctrlAddOk := true
  kpollFd := none
  kpollAddOk := false
  bootCompleted := true
  monitors := ⟨fun level => some (Int32.ofNat (9 + level)), fun _ => true, fun _ => none, fun _ => false⟩
  initHookOk := true
  reapingSupported := true
  reaperPipe := some 20
  reaperAddOk := true
  reaperInitOk := true

/-! ## Two apps registered -/

def appStatus (pid rssKb : Nat) : FileRead :=
  .contents ("Name:\tapp\nTgid:\t" ++ toString pid ++ "\nVmRSS:\t" ++ toString rssKb ++
    " kB\nVmSwap:\t0 kB\n").toList

def appsProcEnv (rssKb : Nat) : ProcEnv where
  status := fun pid => if pid = 100 ∨ pid = 101 then appStatus pid.toNatClampNeg rssKb else .openFailed
  cmdline := fun _ => .contents "app".toList
  oomScoreAdj := fun pid => if pid = 100 ∨ pid = 101 then .written else .openFailed
  size := fun _ => 0
  pidfdOpen := fun pid => some (pid - 70)
  softLimitPath := fun _ => true
  callocOk := true

def appsKillEnv (rssKb : Nat) (reaperOk : Bool) : KillEnv :=
  ⟨appsProcEnv rssKb, ⟨20, 0⟩, fun _ => 0, fun _ => reaperOk, fun _ => true, fun _ => true,
    ⟨false, [], ⟨20, 0⟩⟩⟩

def quietPsiSample (now : Option Timespec) : PsiSample :=
  ⟨now, true, true, .noReclaim, true, false, ⟨true, none, false⟩, ⟨true, none, false⟩⟩

def idleCallEnv : CallEnv where
  now := ⟨10, 0⟩
  accept := -1
  acceptAddOk := false
  recv := .failed
  cmd := ⟨appsProcEnv 0, ⟨false, false, false, [], []⟩, none, false, false,
    ⟨fun _ => none, fun _ => false, fun _ => none, fun _ => false⟩, true, ⟨none, false⟩⟩
  psi := quietPsiSample none
  kill := appsKillEnv 0 true

theorem zero_lt_maxDataConn : 0 < maxDataConn := by decide

theorem one_lt_maxDataConn : 1 < maxDataConn := by decide

def procprioMessage (client : Int32) (params : LmkProcprio) : Recv :=
  .received 16 (WordArray.ofList (lmkdPackSetProcprio params) fun _ => 0) (some client)

def registerTwoApps : List Action :=
  [.event .ctrlSock epollin ⟨10, 0⟩ { idleCallEnv with accept := 5, acceptAddOk := true },
   .event (.dataSock ⟨0, zero_lt_maxDataConn⟩) epollin ⟨10, 0⟩
     { idleCallEnv with recv := procprioMessage 1 ⟨100, 10100, 1000, procTypeApp⟩ },
   .event (.dataSock ⟨0, zero_lt_maxDataConn⟩) epollin ⟨10, 0⟩
     { idleCallEnv with recv := procprioMessage 1 ⟨101, 10101, 999, procTypeApp⟩ }]

def registerWakeups : List Wakeup :=
  [⟨⟨10, 0⟩, some [⟨.ctrlSock, false, epollin, ⟨10, 0⟩, { idleCallEnv with accept := 5, acceptAddOk := true }⟩],
      ⟨10, 0⟩, idleCallEnv⟩,
    ⟨⟨10, 0⟩, some [⟨.dataSock ⟨0, zero_lt_maxDataConn⟩, false, epollin, ⟨10, 0⟩,
      { idleCallEnv with recv := procprioMessage 1 ⟨100, 10100, 1000, procTypeApp⟩ }⟩], ⟨10, 0⟩, idleCallEnv⟩,
    ⟨⟨10, 0⟩, some [⟨.dataSock ⟨0, zero_lt_maxDataConn⟩, false, epollin, ⟨10, 0⟩,
      { idleCallEnv with recv := procprioMessage 1 ⟨101, 10101, 999, procTypeApp⟩ }⟩], ⟨10, 0⟩, idleCallEnv⟩]

set_option maxRecDepth 100000 in
/-- Three turns of `mainloop` register apps 100 and 101 into a consistent
registry. -/
theorem mainloop_refines_registerWakeups :
    ∃ g₀, lmkdInit exampleConfig exampleInitEnv = some g₀ ∧
      ((lmkdSystem exampleConfig g₀).Reachable (mainloop exampleConfig g₀ registerWakeups) ∧
        (mainloop exampleConfig g₀ registerWakeups).reg.Inv) ∧
      ((mainloop exampleConfig g₀ registerWakeups).reg.pidLookup 100).isSome ∧
      ((mainloop exampleConfig g₀ registerWakeups).reg.pidLookup 101).isSome := by
  have hrun : (lmkdInit exampleConfig exampleInitEnv).map (fun g₀ =>
      ((mainloop exampleConfig g₀ registerWakeups).reg.pidLookup 100).isSome &&
        ((mainloop exampleConfig g₀ registerWakeups).reg.pidLookup 101).isSome) = some true := by
    decide +kernel
  obtain ⟨g₀, h₀, hobs⟩ := Option.map_eq_some_iff.mp hrun
  rw [Bool.and_eq_true] at hobs
  exact ⟨g₀, h₀, mainloop_refines h₀ registerWakeups, hobs.1, hobs.2⟩

theorem exists_run_then {cfg : Config} {ienv : InitEnv} {acts acts' : List Action} {β : Type}
    {f : Globals → Globals → β} {b : β}
    (h : ((lmkdInit cfg ienv).bind fun g₀ => ((lmkdSystem cfg g₀).runFrom g₀ acts).bind fun g =>
      ((lmkdSystem cfg g₀).runFrom g acts').map (f g)) = some b) :
    ∃ g₀ g g', lmkdInit cfg ienv = some g₀ ∧ (lmkdSystem cfg g₀).Reachable g ∧
      (lmkdSystem cfg g₀).runFrom g acts' = some g' ∧ f g g' = b := by
  obtain ⟨g₀, h₀, h⟩ := Option.bind_eq_some_iff.mp h
  obtain ⟨g, hrun, h⟩ := Option.bind_eq_some_iff.mp h
  obtain ⟨g', hrun', hf⟩ := Option.map_eq_some_iff.mp h
  exact ⟨g₀, g, g', h₀, (lmkdSystem cfg g₀).reachable_of_run hrun, hrun', hf⟩

set_option maxRecDepth 100000 in
/-- After client 1 registers apps 100 and 101, the registry holds both and
is consistent. -/
theorem registry_consistent_twoApps :
    ∃ g₀ g, lmkdInit exampleConfig exampleInitEnv = some g₀ ∧ (lmkdSystem exampleConfig g₀).Reachable g ∧
      (g.reg.pidLookup 100).isSome ∧ (g.reg.pidLookup 101).isSome ∧
      ∃ slots, g.reg.WellFormed slots ∧
        ∀ i < adjToSlotCount, ∀ y ∈ Loc.slot i :: (slots i).map Loc.proc,
          g.reg.links.prev (g.reg.links.next y) = y ∧ g.reg.links.next (g.reg.links.prev y) = y := by
  have hrun : ((lmkdInit exampleConfig exampleInitEnv).bind fun g₀ =>
      ((lmkdSystem exampleConfig g₀).runFrom g₀ registerTwoApps).bind fun g =>
        ((lmkdSystem exampleConfig g₀).runFrom g []).map fun _ =>
          ((g.reg.pidLookup 100).isSome, (g.reg.pidLookup 101).isSome)) = some (true, true) := by
    decide +kernel
  obtain ⟨g₀, g, -, h₀, hg, -, hobs⟩ := exists_run_then hrun
  rw [Prod.mk.injEq] at hobs
  exact ⟨g₀, g, h₀, hg, hobs.1, hobs.2, registry_consistent h₀ hg⟩

end Lmkd
