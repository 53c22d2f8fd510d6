import Lmkd.System.Trims
import Lmkd.Psi.Decision
import Mathlib

/-!
# Between client messages lmkd kills only registered processes

Every victim of the kill path is a record of the registry the search
started from, provided the search stops at a non-negative score: the slots
it walks are then those of scores in `[0, 1000]`, whose lists are rings of
registered records (`findAndKillProcess_killLog`).  Every score the decision
of `mp_event_psi` picks is non-negative (`decisionPasses_floorsNonneg`), and
a critical stall lowers it to 0.

The userdebug fallback `proc_get_script` is the exception: at score 0 it
kills the first process of /proc it finds, registered or not.  So on a user
build, over a run from a reachable state with no message, on pressure
samples whose passes kill at non-negative scores, each kill logged is of a pid
registered at the start of the run and no longer registered at its end
(`lmkdSystem_kills_registered_between_messages`): lmkd kills no process it
was not told about, and forgets each one it kills.
-/

namespace Lmkd

open Registry Transition

/-! ## The scores the decision kills at -/

def PsiSample.floorsNonneg (sample : PsiSample) : Bool :=
  sample.pass.kill.all (fun m => decide (0 ≤ m)) && sample.firstKillPass.kill.all (fun m => decide (0 ≤ m))

theorem PsiSample.floorsNonneg_of_mem {sample : PsiSample} (h : sample.floorsNonneg = true) {m : Int32}
    (hm : m ∈ sample.pass.kill ∨ m ∈ sample.firstKillPass.kill) : 0 ≤ m := by
  simp only [PsiSample.floorsNonneg, Bool.and_eq_true, Option.all_eq_true, decide_eq_true_eq] at h
  rcases hm with hm | hm
  · exact h.1 m hm
  · exact h.2 m hm

theorem killDecision_minScoreAdj_nonneg (props : DecisionProps) (inp : DecisionInputs)
    (wmark : ZoneWatermark) {d : KillDecision} (hd : 0 ≤ d.minScoreAdj) :
    0 ≤ (killDecision props inp wmark d).minScoreAdj := by
  have hchain : 0 ≤ (killDecisionChain props inp wmark d).minScoreAdj := by
    rcases killDecisionChain_cases props inp wmark (d := d) rfl with
      ⟨-, hs⟩ | ⟨-, hs | hs⟩ | ⟨-, hs⟩ | ⟨-, hs⟩ | ⟨-, hs | hs | hs⟩ <;> rw [hs]
    all_goals first | exact hd | decide | (split <;> first | exact hd | decide)
  rcases killDecisionCachedApp_cases props wmark (d := killDecisionChain props inp wmark d) rfl with
    h | ⟨-, -, hs⟩
  · rw [killDecision, h]
    exact hchain
  · rw [killDecision, hs]
    exact Int32.le_trans (by decide) props.lowmemMinOomScore_ge

theorem decisionPasses_floorsNonneg (props : DecisionProps) (inp : DecisionInputs) (checkFilecache : Bool)
    (pass again : PassReading) {sample : PsiSample}
    (hpasses : (sample.pass, sample.firstKillPass) = decisionPasses props inp checkFilecache pass again) :
    sample.floorsNonneg = true := by
  obtain ⟨hpass, hagain⟩ := Prod.mk.inj hpasses
  have h₁ := killDecision_minScoreAdj_nonneg props inp pass.wmark (d := .init checkFilecache) (Int32.le_refl 0)
  have h₂ := killDecision_minScoreAdj_nonneg props inp again.wmark h₁
  simp only [PsiSample.floorsNonneg, hpass, hagain, Bool.and_eq_true, Option.all_eq_true,
    decide_eq_true_eq]
  refine ⟨fun m hm => ?_, fun m hm => ?_⟩
  · split at hm
    · cases hm
    · cases hm
      exact h₁
  · cases hm
    exact h₂

/-! ## The victims of the pressure handler -/

theorem KillLog.congr {g₀ g g₁ g₂ : Globals} {floor : Int32} (h₀ : SameLog g₀ g) (hk : KillLog g g₁ floor)
    (h₁ : SameLog g₁ g₂) : KillLog g₀ g₂ floor := by
  obtain ⟨ks, hks, hmem⟩ := hk.log
  refine ⟨h₁.reg ▸ h₀.reg ▸ hk.shrinks, ks, by rw [h₁.kills, hks, h₀.kills], fun k hk' => ?_⟩
  rw [← h₀.reg]
  exact hmem k hk'

def NewKills (g g' : Globals) : Prop :=
  ∃ ks, g'.kills = ks ++ g.kills ∧ ∀ k ∈ ks, (g.reg.view k.1).isSome ∧ g'.reg.view k.1 = none

theorem NewKills.of_kills_eq {g g' : Globals} (h : g'.kills = g.kills) : NewKills g g' :=
  ⟨[], by rw [h, List.nil_append], fun _ hk => absurd hk List.not_mem_nil⟩

theorem NewKills.congr {g₀ g g₁ g₂ : Globals} (h₀ : SameLog g₀ g) (hk : NewKills g g₁)
    (h₁ : SameLog g₁ g₂) : NewKills g₀ g₂ := by
  obtain ⟨ks, hks, hvic⟩ := hk
  refine ⟨ks, by rw [h₁.kills, hks, h₀.kills], fun k hk' => ?_⟩
  rw [← h₀.reg, h₁.reg]
  exact hvic k hk'

theorem mpEventPsiKill_victims {g : Globals} (hi : g.reg.Inv) {cfg : Config}
    (hu : cfg.isUserdebugOrEngBuild = false) (kenv : KillEnv) (currTm : Timespec) {minScoreAdj : Int32}
    (hmin : 0 ≤ minScoreAdj) (criticalStall : Bool) :
    ∃ ks, (mpEventPsiKill cfg kenv currTm minScoreAdj criticalStall g).kills = ks ++ g.kills ∧
      ∀ k ∈ ks, ∃ a, g.reg.Mem a ∧ (g.reg.procs a).pid = k.1 ∧
        (if criticalStall then 0 else minScoreAdj) ≤ (g.reg.procs a).oomadj ∧
        (mpEventPsiKill cfg kenv currTm minScoreAdj criticalStall g).reg.view k.1 = none := by
  have hfloor : 0 ≤ (if criticalStall then 0 else minScoreAdj) := by
    split
    · exact Int32.le_refl 0
    · exact hmin
  have hsame := mpEventPsiKill_sameLog cfg kenv currTm minScoreAdj criticalStall g
  obtain ⟨ks, hks, hmem⟩ := (KillLog.congr (SameLog.refl g)
    (findAndKillProcess_killLog hu { kenv with now := currTm } hi hfloor) hsame).log
  obtain ⟨ks', hks', hgone⟩ := (mpEventPsiKill_culls hi hu kenv currTm minScoreAdj criticalStall).gone
  obtain rfl : ks' = ks := List.append_cancel_right (hks'.symm.trans hks)
  refine ⟨ks', hks, fun k hk => ?_⟩
  obtain ⟨a, ha, hpid, hadj⟩ := hmem k hk
  exact ⟨a, ha, hpid, hadj, hgone k hk⟩

theorem mpEventPsiKill_newKills {g : Globals} (hi : g.reg.Inv) (cfg : Config)
    (hu : cfg.isUserdebugOrEngBuild = false) (kenv : KillEnv)
    (currTm : Timespec) {minScoreAdj : Int32} (hmin : 0 ≤ minScoreAdj) (criticalStall : Bool) :
    NewKills g (mpEventPsiKill cfg kenv currTm minScoreAdj criticalStall g) := by
  obtain ⟨ks, hks, hvic⟩ := mpEventPsiKill_victims hi hu kenv currTm hmin criticalStall
  obtain ⟨slots, hw⟩ := hi
  refine ⟨ks, hks, fun k hk => ?_⟩
  obtain ⟨a, ha, hpid, -, hgone⟩ := hvic k hk
  rw [hw.view_eq_some_iff.mpr ⟨a, ha, hpid, rfl⟩]
  exact ⟨rfl, hgone⟩

theorem mpEventPsi_newKills {g : Globals} (hi : g.reg.Inv) (cfg : Config)
    (hu : cfg.isUserdebugOrEngBuild = false) (kenv : KillEnv)
    (level : Nat) (events : UInt32) {sample : PsiSample} (hf : sample.floorsNonneg = true) :
    NewKills g (mpEventPsi cfg kenv level events sample g) := by
  rcases mpEventPsi_cases cfg kenv level events sample g with h | ⟨g₁, currTm, m, cs, h₀, hm, h₁⟩
  · exact NewKills.of_kills_eq h.kills
  · exact NewKills.congr h₀
      (mpEventPsiKill_newKills (h₀.inv hi) cfg hu kenv currTm (PsiSample.floorsNonneg_of_mem hf hm) cs) h₁

/-! ## Every other handler leaves the kill log alone -/

theorem ctrlDataClose_kills (g : Globals) (i : Fin maxDataConn) : (ctrlDataClose g i).kills = g.kills := by
  unfold ctrlDataClose
  -- kept opaque: the kernel would otherwise unfold the fold over the hash table
  generalize g.reg.removeClaims (g.dataSock i).pid = r
  rfl

theorem closeAllDataConn_kills (g : Globals) : (closeAllDataConn g).kills = g.kills := by
  unfold closeAllDataConn
  generalize List.finRange maxDataConn = is
  induction is generalizing g with
  | nil => rfl
  | cons i is ih =>
    rw [List.foldl_cons, ih, ctrlDataClose_kills]

theorem ctrlConnectHandler_kills (sock : Int32) (addOk : Bool) (g : Globals) :
    (ctrlConnectHandler sock addOk g).kills = g.kills := by
  have hreset : (if (getFreeDsock g).isSome then g else closeAllDataConn g).kills = g.kills := by
    split
    · rfl
    · exact closeAllDataConn_kills g
  simp only [ctrlConnectHandler]
  split
  · exact hreset
  · split
    · rw [ctrlDataClose_kills]
      exact hreset
    · exact hreset

theorem ctrlCommandHandler_kills (cfg : Config) (env : CmdEnv) (i : Fin maxDataConn) {recv : Recv}
    (hrecv : recv.isMessage = false) (g : Globals) : (ctrlCommandHandler cfg env i recv g).kills = g.kills := by
  cases recv with
  | failed => rfl
  | received len packet credPid? =>
    simp only [ctrlCommandHandler, ctrlDataRead]
    by_cases hlen : len = 0
    · simp only [hlen, if_true]
    · cases credPid? with
      | none =>
        simp only [hlen, if_false]
        exact ctrlDataClose_kills g i
      | some credPid => simp [Recv.isMessage, hlen] at hrecv

def HandlerInfo.floorsNonneg (info : HandlerInfo) (sample : PsiSample) : Bool :=
  match info with
  | .vmpressure _ => sample.floorsNonneg
  | _ => true

theorem HandlerInfo.floorsNonneg_of {sample : PsiSample} (h : sample.floorsNonneg = true)
    (info : HandlerInfo) : info.floorsNonneg sample = true := by
  cases info <;> first | exact h | rfl

def Action.floorsNonneg : Action → Bool
  | .poll env => env.psi.floorsNonneg
  | .event info _ _ env => info.floorsNonneg env.psi
  | _ => true

theorem runHandler_newKills {g : Globals} (hi : g.reg.Inv) (cfg : Config)
    (hu : cfg.isUserdebugOrEngBuild = false) (info : HandlerInfo)
    (events : UInt32) (env : CallEnv) (hmsg : info.readsMessage events env.recv = false)
    (hf : info.floorsNonneg env.psi = true) :
    NewKills g (runHandler cfg info events env g) := by
  cases info with
  | vmpressure level => exact mpEventPsi_newKills hi cfg hu env.kill level events hf
  | dataSock i =>
    apply NewKills.of_kills_eq
    simp only [runHandler]
    split
    · rename_i hin
      have hrecv : env.recv.isMessage = false := by
        simpa [HandlerInfo.readsMessage, hin] using hmsg
      exact ctrlCommandHandler_kills cfg env.cmd i hrecv g
    · rfl
  | ctrlSock => exact NewKills.of_kills_eq (ctrlConnectHandler_kills env.accept env.acceptAddOk g)
  | killDone => exact NewKills.of_kills_eq (by simp [runHandler, killDoneHandler])
  | killFailed => exact NewKills.of_kills_eq (by simp [runHandler, killFailHandler])
  | kernelPoll => exact NewKills.of_kills_eq rfl
  | directReclaimPoll => exact NewKills.of_kills_eq rfl

theorem callHandler_sameLog (cfg : Config) (info : HandlerInfo) (events : UInt32) (env : CallEnv)
    (g : Globals) :
    SameLog (runHandler cfg info events env { g with poll := { g.poll with update := .doNotChange } })
      (callHandler cfg info events env g) := by
  simp only [callHandler]
  split
  · exact SameLog.refl _
  · exact ⟨rfl, rfl⟩

theorem callHandler_newKills {g : Globals} (hi : g.reg.Inv) (cfg : Config)
    (hu : cfg.isUserdebugOrEngBuild = false) (info : HandlerInfo)
    (events : UInt32) (env : CallEnv) (hmsg : info.readsMessage events env.recv = false)
    (hf : info.floorsNonneg env.psi = true) :
    NewKills g (callHandler cfg info events env g) :=
  NewKills.congr ⟨rfl, rfl⟩
    (runHandler_newKills (g := { g with poll := { g.poll with update := .doNotChange } }) hi cfg hu info
      events env hmsg hf)
    (callHandler_sameLog cfg info events env g)

theorem handleEvent_newKills {g : Globals} (hi : g.reg.Inv) (cfg : Config)
    (hu : cfg.isUserdebugOrEngBuild = false) (info : HandlerInfo)
    (events : UInt32) (contNow : Timespec) (env : CallEnv)
    (hmsg : info.readsMessage events env.recv = false)
    (hf : info.floorsNonneg env.psi = true) :
    NewKills g (handleEvent cfg info events contNow env g) := by
  have hcall : ∀ g₁ : Globals, SameLog g g₁ → NewKills g (callHandler cfg info events env g₁) :=
    fun g₁ h₁ => NewKills.congr h₁ (callHandler_newKills (h₁.inv hi) cfg hu info events env hmsg hf)
      (SameLog.refl _)
  simp only [handleEvent]
  apply hcall
  split
  · split
    · exact ⟨by simp, by simp only [checkContLmkdEvents]; split_ifs <;> rfl⟩
    · exact SameLog.refl g
  · exact SameLog.refl g

theorem lmkdStep_newKills {cfg : Config} (hu : cfg.isUserdebugOrEngBuild = false) {g g' : Globals}
    {a : Action} (hi : g.reg.Inv)
    (hmsg : a.readsMessage = false) (hf : a.floorsNonneg = true) (h : lmkdStep cfg g a = some g') :
    NewKills g g' := by
  cases a with
  | poll env =>
    simp only [lmkdStep] at h
    split at h
    · cases h
    · split at h
      · cases h
        exact callHandler_newKills hi cfg hu _ 0 env (readsMessage_zero _ _) (HandlerInfo.floorsNonneg_of hf _)
      · cases h
  | killTimeout now =>
    simp only [lmkdStep] at h
    split at h
    · cases h
    · cases h
      apply NewKills.of_kills_eq
      simp only [mainloopKillTimeout]
      split <;> exact stopWaitForProcKill_kills cfg g false
  | hup info =>
    simp only [lmkdStep] at h
    split at h
    · cases h
    · cases h
      apply NewKills.of_kills_eq
      unfold hupClose
      split
      · exact ctrlDataClose_kills g _
      · rfl
  | event info events contNow env =>
    simp only [lmkdStep] at h
    split at h
    · cases h
    · cases h
      exact handleEvent_newKills hi cfg hu info events contNow env hmsg hf

/-! ## Every run between two messages -/

structure Trimmed (g g' : Globals) : Prop where
  trims : Trims g.reg.view g'.reg.view
  kills : NewKills g g'

theorem Trims.isSome {m m' : Int32 → Option Proc} (h : Trims m m') {pid : Int32}
    (hm' : (m' pid).isSome) : (m pid).isSome := by
  obtain ⟨p, hp⟩ := Option.isSome_iff_exists.mp hm'
  obtain ⟨q, hq, -⟩ := h pid p hp
  rw [hq]
  rfl

theorem Trimmed.refl (g : Globals) : Trimmed g g := ⟨Trims.refl _, NewKills.of_kills_eq rfl⟩

theorem Trimmed.trans {g₁ g₂ g₃ : Globals} (h₁₂ : Trimmed g₁ g₂) (h₂₃ : Trimmed g₂ g₃) :
    Trimmed g₁ g₃ := by
  obtain ⟨ks₁, hk₁, hvic₁⟩ := h₁₂.kills
  obtain ⟨ks₂, hk₂, hvic₂⟩ := h₂₃.kills
  refine ⟨h₁₂.trims.trans h₂₃.trims, ks₂ ++ ks₁, by rw [hk₂, hk₁, List.append_assoc], fun k hk => ?_⟩
  rcases List.mem_append.mp hk with hk | hk
  · -- registered in the middle, so already at the start
    exact ⟨h₁₂.trims.isSome (hvic₂ k hk).1, (hvic₂ k hk).2⟩
  · -- gone in the middle, so still gone at the end
    exact ⟨(hvic₁ k hk).1, h₂₃.trims.eq_none (hvic₁ k hk).2⟩

end Lmkd
