import Lmkd.System.Ownership
import Lmkd.Commands.View
import Lmkd.Kill.Search
import Mathlib

/-!
# Between client messages the registry only loses records

A record enters the registry, or changes, only through a command, and a
command runs only on a message that `ctrl_data_read` returns with the
sender's credentials.  Every other action of the main thread (a pressure
event or a poll with the kills it makes, a kill notification or timeout, a
connection accepted, refused or hung up, a read that returns nothing or no
credentials) does two things to the map from pids to records: the kill
path and `proc_get_heaviest` delete entries through `pid_remove`, and
`ctrl_data_close` releases the claims of a connection's last sender.

`Trims m m'` says that `m'` holds only entries of `m`, each as it was or
with its claim released.  It is a preorder, each such action trims the view
of a consistent registry (`lmkdStep_trims`), and so does every run of them
from a reachable state (`lmkdSystem_trims_between_messages`): between two
messages no pid is registered, and no score, uid, type or pidfd changes.
-/

namespace Lmkd

open Registry Transition

/-! ## Maps that only lose entries -/

def Trims (m m' : Int32 → Option Proc) : Prop :=
  ∀ pid p, m' pid = some p → ∃ q, m pid = some q ∧ (p = q ∨ p = { q with regPid := 0 })

theorem Trims.refl (m : Int32 → Option Proc) : Trims m m :=
  fun _ p h => ⟨p, h, .inl rfl⟩

theorem Trims.trans {m₁ m₂ m₃ : Int32 → Option Proc} (h₁₂ : Trims m₁ m₂) (h₂₃ : Trims m₂ m₃) :
    Trims m₁ m₃ := by
  intro pid p hp
  obtain ⟨q, hq, hpq⟩ := h₂₃ pid p hp
  obtain ⟨r, hr, hqr⟩ := h₁₂ pid q hq
  refine ⟨r, hr, ?_⟩
  -- releasing a claim twice releases it once
  rcases hpq with rfl | rfl <;> rcases hqr with rfl | rfl
  · exact .inl rfl
  · exact .inr rfl
  · exact .inr rfl
  · exact .inr rfl

theorem trims_releaseClaims (credPid : Int32) (m : Int32 → Option Proc) :
    Trims m (releaseClaims credPid m) := by
  intro pid p hp
  obtain ⟨q, hq, rfl⟩ := Option.map_eq_some_iff.mp hp
  refine ⟨q, hq, ?_⟩
  unfold releaseClaim
  split
  · exact .inr rfl
  · exact .inl rfl

theorem Trims.of_reg_eq {g g' : Globals} (h : g'.reg = g.reg) : Trims g.reg.view g'.reg.view :=
  h ▸ Trims.refl _

theorem Shrinks.trims_view {r r' : Registry} (hi : r.Inv) (h : Shrinks r r') :
    Trims r.view r'.view := by
  obtain ⟨slots, hw⟩ := hi
  intro pid p hp
  obtain ⟨a, hl, rfl⟩ := Option.map_eq_some_iff.mp hp
  obtain ⟨ha, hpa⟩ := h.mem a (mem_of_pidLookup hl)
  refine ⟨r'.procs a, hw.view_eq_some_iff.mpr ⟨a, ha, ?_, hpa.symm⟩, .inl rfl⟩
  rw [← hpa]
  exact (pidLookup_eq_some hl).2

theorem Trims.eq_none {m m' : Int32 → Option Proc} (h : Trims m m') {pid : Int32}
    (hm : m pid = none) : m' pid = none := by
  cases hm' : m' pid with
  | none => rfl
  | some p =>
    obtain ⟨q, hq, -⟩ := h pid p hm'
    rw [hm] at hq
    cases hq

/-! ## The kill path only removes

`pid_remove` is the only store to the registry on the kill path, and each
kill is followed by the `pid_remove` of its victim.  `Culls` says both: the
records left are records of the start, and the pids of the kills logged are
no longer registered.  The walk is the one of the proofs that the kill path
keeps the registry consistent; the pressure handler reaches the kill path
once, at a floor its sample gives (`mpEventPsi_cases`). -/

structure SameLog (g g' : Globals) : Prop where
  reg : g'.reg = g.reg
  kills : g'.kills = g.kills

theorem SameLog.refl (g : Globals) : SameLog g g := ⟨rfl, rfl⟩

theorem SameLog.trans {g₁ g₂ g₃ : Globals} (h₁₂ : SameLog g₁ g₂) (h₂₃ : SameLog g₂ g₃) :
    SameLog g₁ g₃ :=
  ⟨h₂₃.reg.trans h₁₂.reg, h₂₃.kills.trans h₁₂.kills⟩

theorem SameLog.inv {g g' : Globals} (h : SameLog g g') (hi : g.reg.Inv) : g'.reg.Inv :=
  h.reg ▸ hi

/-- From `g` to `g'` only records of `g` are left, and every kill logged is
of a pid that `g'` no longer registers. -/
structure Culls (g g' : Globals) : Prop where
  shrinks : Shrinks g.reg g'.reg
  gone : ∃ ks, g'.kills = ks ++ g.kills ∧ ∀ k ∈ ks, g'.reg.view k.1 = none

theorem Culls.of_sameLog {g g' : Globals} (h : SameLog g g') : Culls g g' :=
  ⟨h.reg ▸ Shrinks.refl _, [], by rw [h.kills, List.nil_append], fun _ hk => absurd hk List.not_mem_nil⟩

theorem Culls.congr {g₀ g g₁ g₂ : Globals} (h₀ : SameLog g₀ g) (hc : Culls g g₁) (h₁ : SameLog g₁ g₂) :
    Culls g₀ g₂ := by
  obtain ⟨ks, hks, hgone⟩ := hc.gone
  refine ⟨h₁.reg ▸ h₀.reg ▸ hc.shrinks, ks, by rw [h₁.kills, hks, h₀.kills], fun k hk => ?_⟩
  rw [h₁.reg]
  exact hgone k hk

theorem Culls.trans {g₁ g₂ g₃ : Globals} (h₁₂ : Culls g₁ g₂) (hi₂ : g₂.reg.Inv) (h₂₃ : Culls g₂ g₃) :
    Culls g₁ g₃ := by
  obtain ⟨ks₁, hk₁, hgone₁⟩ := h₁₂.gone
  obtain ⟨ks₂, hk₂, hgone₂⟩ := h₂₃.gone
  refine ⟨h₁₂.shrinks.trans h₂₃.shrinks, ks₂ ++ ks₁, by rw [hk₂, hk₁, List.append_assoc],
    fun k hk => ?_⟩
  rcases List.mem_append.mp hk with hk | hk
  · exact hgone₂ k hk
  · -- a pid gone after the first stretch stays gone
    exact (h₂₃.shrinks.trims_view hi₂).eq_none (hgone₁ k hk)

theorem Culls.pidRemove {g : Globals} (hi : g.reg.Inv) (pid : Int32) : Culls g (pidRemove g pid).1 :=
  ⟨shrinks_pidRemove hi pid, [], by rw [pidRemove_kills, List.nil_append],
    fun _ hk => absurd hk List.not_mem_nil⟩

theorem procGetHeaviestLoop_culls (cfg : Config) (env : KillEnv) (head : Loc) :
    ∀ (fuel : Nat) (g : Globals) (curr : Loc) (best bestPa : Option Nat × Int), g.reg.Inv →
      Culls g (procGetHeaviestLoop cfg env head fuel g curr best bestPa).1
  | 0, g, _, _, _, _ => Culls.of_sameLog (SameLog.refl g)
  | fuel + 1, g, curr, best, bestPa, hi => by
    simp only [procGetHeaviestLoop]
    split
    · exact Culls.of_sameLog (SameLog.refl g)
    · split
      · exact Culls.of_sameLog (SameLog.refl g)
      · split
        · -- the record whose size is unreadable is removed before the walk goes on
          exact (Culls.pidRemove hi _).trans (pidRemove_inv hi _)
            (procGetHeaviestLoop_culls cfg env head fuel _ _ _ _ (pidRemove_inv hi _))
        · split
          · exact procGetHeaviestLoop_culls cfg env head fuel _ _ _ _ hi
          · exact procGetHeaviestLoop_culls cfg env head fuel _ _ _ _ hi

theorem pickVictim_culls {g : Globals} (hi : g.reg.Inv) (cfg : Config) (env : KillEnv)
    (chooseHeaviest : Bool) (i : Int32) : Culls g (pickVictim cfg env chooseHeaviest g i).1 := by
  unfold pickVictim procGetHeaviest
  split
  · exact procGetHeaviestLoop_culls cfg env _ _ g _ _ _ hi
  · exact Culls.of_sameLog (SameLog.refl g)

theorem KillOutcome.culls {cfg : Config} {env : KillEnv} {g : Globals} {a : Nat}
    {k : Globals × Int} (h : KillOutcome cfg env g a k) (hi : g.reg.Inv) : Culls g k.1 := by
  cases h with
  | freed _ hreg hkills => exact Culls.of_sameLog ⟨hreg, hkills⟩
  | failed hreg hkills => exact Culls.congr (SameLog.refl g) (Culls.pidRemove hi _) ⟨hreg, by simp [hkills]⟩
  | killed _ _ hreg hkills =>
    refine ⟨hreg ▸ shrinks_pidRemove hi _, [((g.reg.procs a).pid, env.now)], by rw [hkills]; rfl,
      fun k hk => ?_⟩
    rw [List.mem_singleton.mp hk, hreg, view_pidRemove hi]
    exact Function.update_self _ _ _

theorem killAtSlot_culls (cfg : Config) (env : KillEnv) (chooseHeaviest : Bool) (i : Int32) :
    ∀ (fuel : Nat) (g : Globals) (killedSize : Int), g.reg.Inv →
      Culls g (killAtSlot cfg env chooseHeaviest i fuel g killedSize).1
  | 0, g, _, _ => Culls.of_sameLog (SameLog.refl g)
  | fuel + 1, g, killedSize, hi => by
    have hpick := pickVictim_culls hi cfg env chooseHeaviest i
    have hpicki := pickVictim_inv hi cfg env chooseHeaviest i
    simp only [killAtSlot]
    split
    · rename_i g₁ h
      rw [h] at hpick
      exact hpick
    · rename_i g₁ a h
      rw [h] at hpick hpicki
      have hkill := hpick.trans hpicki ((killOneProcess_outcome cfg env g₁ a).culls hpicki)
      split
      · exact hkill
      · exact hkill.trans (killOneProcess_inv hpicki cfg env a)
          (killAtSlot_culls cfg env chooseHeaviest i fuel _ _ (killOneProcess_inv hpicki cfg env a))

theorem killFromSlot_culls (cfg : Config) (env : KillEnv) (minScoreAdj : Int32) :
    ∀ (fuel : Nat) (g : Globals) (i : Int32) (chooseHeaviest : Bool) (killedSize : Int),
      g.reg.Inv → Culls g (killFromSlot cfg env minScoreAdj fuel g i chooseHeaviest killedSize).1
  | 0, g, _, _, _, _ => Culls.of_sameLog (SameLog.refl g)
  | fuel + 1, g, i, chooseHeaviest, killedSize, hi => by
    have hslot := killAtSlot_culls cfg env (chooseHeaviest || decide (i ≤ perceptibleAppAdj)) i
      (killFuel g) g killedSize hi
    have hsloti := killAtSlot_inv cfg env (chooseHeaviest || decide (i ≤ perceptibleAppAdj)) i
      (killFuel g) g killedSize hi
    simp only [killFromSlot]
    split
    · exact Culls.of_sameLog (SameLog.refl g)
    · split
      · exact hslot
      · exact hslot.trans hsloti (killFromSlot_culls cfg env minScoreAdj fuel _ _ _ _ hsloti)

theorem findAndKillProcess_culls {g : Globals} (hi : g.reg.Inv) {cfg : Config}
    (hu : cfg.isUserdebugOrEngBuild = false) (env : KillEnv) (minScoreAdj : Int32) :
    Culls g (findAndKillProcess cfg env g minScoreAdj).1 := by
  rw [findAndKillProcess_of_user hu]
  exact killFromSlot_culls cfg env minScoreAdj _ g _ _ _ hi

theorem mpEventPsiKill_sameLog (cfg : Config) (kenv : KillEnv) (currTm : Timespec) (minScoreAdj : Int32)
    (criticalStall : Bool) (g : Globals) :
    SameLog (findAndKillProcess cfg { kenv with now := currTm } g (if criticalStall then 0 else minScoreAdj)).1
      (mpEventPsiKill cfg kenv currTm minScoreAdj criticalStall g) :=
  ⟨by simp only [mpEventPsiKill, apply_ite Globals.reg, ite_self],
    by simp only [mpEventPsiKill, apply_ite Globals.kills, ite_self]⟩

theorem mpEventPsiKill_culls {g : Globals} (hi : g.reg.Inv) {cfg : Config}
    (hu : cfg.isUserdebugOrEngBuild = false) (kenv : KillEnv) (currTm : Timespec) (minScoreAdj : Int32)
    (criticalStall : Bool) : Culls g (mpEventPsiKill cfg kenv currTm minScoreAdj criticalStall g) :=
  Culls.congr (SameLog.refl g) (findAndKillProcess_culls hi hu { kenv with now := currTm } _)
    (mpEventPsiKill_sameLog cfg kenv currTm minScoreAdj criticalStall g)

theorem mpEventPsiKill_shrinks {g : Globals} (hi : g.reg.Inv) (cfg : Config) (kenv : KillEnv)
    (currTm : Timespec) (minScoreAdj : Int32) (criticalStall : Bool) :
    Shrinks g.reg (mpEventPsiKill cfg kenv currTm minScoreAdj criticalStall g).reg := by
  rw [(mpEventPsiKill_sameLog cfg kenv currTm minScoreAdj criticalStall g).reg, findAndKillProcess_reg]
  exact (killFromSlot_culls cfg _ _ _ g _ _ _ hi).shrinks

theorem watermarkPass_sameLog {level : Nat} {reclaim : Reclaim} {pass : PsiPass} {g g' : Globals}
    (h : watermarkPass level reclaim pass g = some g') : SameLog g g' := by
  unfold watermarkPass at h
  split at h
  · cases h
  · split at h <;> (cases h; exact ⟨rfl, rfl⟩)

theorem mpEventPsiDecide_cases (cfg : Config) (kenv : KillEnv) (level : Nat) (events : UInt32)
    (sample : PsiSample) (currTm : Timespec) (g : Globals) :
    SameLog g (mpEventPsiDecide cfg kenv level events sample currTm g) ∨
      ∃ g₁ m criticalStall, SameLog g g₁ ∧ (m ∈ sample.pass.kill ∨ m ∈ sample.firstKillPass.kill) ∧
        SameLog (mpEventPsiKill cfg kenv currTm m criticalStall g₁)
          (mpEventPsiDecide cfg kenv level events sample currTm g) := by
  unfold mpEventPsiDecide
  split
  · exact .inl ⟨by simp, by simp⟩
  · rename_i m hm
    have hfirst : SameLog g { g with firstKill := false } := ⟨rfl, rfl⟩
    split
    · split
      · exact .inl hfirst
      · -- the kill after the second pass, at its score or else the first pass's
        rename_i g' hpass
        refine .inr ⟨g', sample.firstKillPass.kill.getD m, sample.firstKillPass.criticalStall,
          hfirst.trans (watermarkPass_sameLog hpass), ?_, ⟨by simp, by simp⟩⟩
        cases hk : sample.firstKillPass.kill with
        | none => exact .inl hm
        | some m' => exact .inr rfl
    · exact .inr ⟨g, m, sample.pass.criticalStall, SameLog.refl g, .inl hm, ⟨by simp, by simp⟩⟩

theorem stopWaitForProcKill_firstKill (cfg : Config) (g : Globals) (finished : Bool) :
    (stopWaitForProcKill cfg g finished).firstKill = g.firstKill := by
  unfold stopWaitForProcKill
  split_ifs <;> rfl

theorem watermarkPass_firstKill {level : Nat} {reclaim : Reclaim} {pass : PsiPass} {g g' : Globals}
    (h : watermarkPass level reclaim pass g = some g') : g'.firstKill = g.firstKill := by
  unfold watermarkPass at h
  split at h
  · cases h
  · split at h <;> (cases h; rfl)

theorem mpEventPsi_decide (cfg : Config) (kenv : KillEnv) (level : Nat) (events : UInt32)
    (sample : PsiSample) (g : Globals) :
    SameLog g (mpEventPsi cfg kenv level events sample g) ∨
      ∃ currTm g', SameLog g g' ∧ g'.firstKill = g.firstKill ∧
        mpEventPsi cfg kenv level events sample g = mpEventPsiDecide cfg kenv level events sample currTm g' := by
  simp only [mpEventPsi]
  split
  · exact .inl (SameLog.refl g)
  · rename_i currTm _
    split
    · exact .inl ⟨by simp, by simp⟩
    · split
      · exact .inl ⟨by simp, by simp⟩
      · split
        · exact .inl ⟨by simp, by simp⟩
        · split
          · exact .inl ⟨by simp, by simp⟩
          · rename_i g' hpass
            refine .inr ⟨currTm, g', SameLog.trans ⟨by simp, by simp⟩ (watermarkPass_sameLog hpass), ?_, rfl⟩
            rw [watermarkPass_firstKill hpass]
            exact stopWaitForProcKill_firstKill cfg g _

theorem mpEventPsi_cases (cfg : Config) (kenv : KillEnv) (level : Nat) (events : UInt32)
    (sample : PsiSample) (g : Globals) :
    SameLog g (mpEventPsi cfg kenv level events sample g) ∨
      ∃ g₁ currTm m criticalStall, SameLog g g₁ ∧
        (m ∈ sample.pass.kill ∨ m ∈ sample.firstKillPass.kill) ∧
        SameLog (mpEventPsiKill cfg kenv currTm m criticalStall g₁) (mpEventPsi cfg kenv level events sample g) := by
  rcases mpEventPsi_decide cfg kenv level events sample g with h | ⟨currTm, g', h₀, -, heq⟩
  · exact .inl h
  · rw [heq]
    rcases mpEventPsiDecide_cases cfg kenv level events sample currTm g' with
      h | ⟨g₁, m, cs, h₁, hm, h₂⟩
    · exact .inl (h₀.trans h)
    · exact .inr ⟨g₁, currTm, m, cs, h₀.trans h₁, hm, h₂⟩

theorem mpEventPsi_shrinks {g : Globals} (hi : g.reg.Inv) (cfg : Config) (kenv : KillEnv)
    (level : Nat) (events : UInt32) (sample : PsiSample) :
    Shrinks g.reg (mpEventPsi cfg kenv level events sample g).reg := by
  rcases mpEventPsi_cases cfg kenv level events sample g with h | ⟨g₁, currTm, m, cs, h₀, -, h₁⟩
  · rw [h.reg]
    exact Shrinks.refl _
  · rw [h₁.reg, ← h₀.reg]
    exact mpEventPsiKill_shrinks (h₀.inv hi) cfg kenv currTm m cs

theorem mpEventPsi_culls {g : Globals} (hi : g.reg.Inv) {cfg : Config}
    (hu : cfg.isUserdebugOrEngBuild = false) (kenv : KillEnv) (level : Nat) (events : UInt32)
    (sample : PsiSample) : Culls g (mpEventPsi cfg kenv level events sample g) := by
  rcases mpEventPsi_cases cfg kenv level events sample g with h | ⟨g₁, currTm, m, cs, h₀, -, h₁⟩
  · exact Culls.of_sameLog h
  · exact Culls.congr h₀ (mpEventPsiKill_culls (h₀.inv hi) hu kenv currTm m cs) h₁

/-! ## Connections only release claims -/

theorem ctrlDataClose_trims (g : Globals) (i : Fin maxDataConn) :
    Trims g.reg.view (ctrlDataClose g i).reg.view := by
  rw [ctrlDataClose_reg, view_removeClaims]
  exact trims_releaseClaims _ _

theorem closeAllDataConn_trims (g : Globals) : Trims g.reg.view (closeAllDataConn g).reg.view := by
  unfold closeAllDataConn
  generalize List.finRange maxDataConn = is
  induction is generalizing g with
  | nil => exact Trims.refl _
  | cons i is ih =>
    rw [List.foldl_cons]
    exact (ctrlDataClose_trims g i).trans (ih _)

theorem ctrlConnectHandler_trims (sock : Int32) (addOk : Bool) (g : Globals) :
    Trims g.reg.view (ctrlConnectHandler sock addOk g).reg.view := by
  have hreset : Trims g.reg.view (if (getFreeDsock g).isSome then g else closeAllDataConn g).reg.view := by
    split
    · exact Trims.refl _
    · exact closeAllDataConn_trims g
  simp only [ctrlConnectHandler]
  split
  · exact hreset
  · split
    · -- the new descriptor and mask of the slot leave the registry to the close
      rw [ctrlDataClose_reg, view_removeClaims]
      exact hreset.trans (trims_releaseClaims _ _)
    · simpa using hreset

/-- `ctrl_data_read` returns a message: bytes, with the sender's
credentials. -/
def Recv.isMessage : Recv → Bool
  | .received len _ (some _) => len != 0
  | _ => false

theorem ctrlCommandHandler_trims (cfg : Config) (env : CmdEnv) (i : Fin maxDataConn) {recv : Recv}
    (hrecv : recv.isMessage = false) (g : Globals) :
    Trims g.reg.view (ctrlCommandHandler cfg env i recv g).reg.view := by
  cases recv with
  | failed => exact Trims.refl _
  | received len packet credPid? =>
    simp only [ctrlCommandHandler, ctrlDataRead]
    by_cases hlen : len = 0
    · simp only [hlen, if_true]
      exact Trims.refl _
    · cases credPid? with
      | none =>
        simp only [hlen, if_false]
        exact ctrlDataClose_trims g i
      | some credPid => simp [Recv.isMessage, hlen] at hrecv

/-! ## Every action but a message -/

def HandlerInfo.readsMessage (info : HandlerInfo) (events : UInt32) (recv : Recv) : Bool :=
  match info with
  | .dataSock _ => events &&& epollin != 0 && recv.isMessage
  | _ => false

/-- The actions that hand a message to `ctrl_command_handler`'s switch; the
poll handler is called with no events, so a poll never reads one. -/
def Action.readsMessage : Action → Bool
  | .event info events _ env => info.readsMessage events env.recv
  | _ => false

theorem runHandler_trims {g : Globals} (hi : g.reg.Inv) (cfg : Config) (info : HandlerInfo)
    (events : UInt32) (env : CallEnv) (hmsg : info.readsMessage events env.recv = false) :
    Trims g.reg.view (runHandler cfg info events env g).reg.view := by
  cases info with
  | vmpressure level =>
    exact (mpEventPsi_shrinks hi cfg env.kill level events env.psi).trims_view hi
  | dataSock i =>
    simp only [runHandler]
    split
    · rename_i hin
      have hrecv : env.recv.isMessage = false := by
        simpa [HandlerInfo.readsMessage, hin] using hmsg
      exact ctrlCommandHandler_trims cfg env.cmd i hrecv g
    · exact Trims.refl _
  | ctrlSock => exact ctrlConnectHandler_trims env.accept env.acceptAddOk g
  | killDone => exact Trims.of_reg_eq (by simp [runHandler, killDoneHandler])
  | killFailed => exact Trims.of_reg_eq (by simp [runHandler, killFailHandler])
  | kernelPoll => exact Trims.refl _
  | directReclaimPoll => exact Trims.refl _

theorem callHandler_trims {g : Globals} (hi : g.reg.Inv) (cfg : Config) (info : HandlerInfo)
    (events : UInt32) (env : CallEnv) (hmsg : info.readsMessage events env.recv = false) :
    Trims g.reg.view (callHandler cfg info events env g).reg.view := by
  rw [callHandler_reg]
  exact runHandler_trims (g := { g with poll := { g.poll with update := .doNotChange } }) hi cfg info
    events env hmsg

theorem readsMessage_zero (info : HandlerInfo) (recv : Recv) : info.readsMessage 0 recv = false := by
  cases info <;> rfl

theorem handleEvent_trims {g : Globals} (hi : g.reg.Inv) (cfg : Config) (info : HandlerInfo)
    (events : UInt32) (contNow : Timespec) (env : CallEnv)
    (hmsg : info.readsMessage events env.recv = false) :
    Trims g.reg.view (handleEvent cfg info events contNow env g).reg.view := by
  have hcall : ∀ g₁ : Globals, g₁.reg = g.reg →
      Trims g.reg.view (callHandler cfg info events env g₁).reg.view := by
    intro g₁ h₁
    have htrims := callHandler_trims (h₁ ▸ hi) cfg info events env hmsg
    rwa [h₁] at htrims
  simp only [handleEvent]
  apply hcall
  -- `check_cont_lmkd_events` only counts events
  split
  · split <;> simp
  · rfl

theorem lmkdStep_trims {cfg : Config} {g g' : Globals} {a : Action} (hi : g.reg.Inv)
    (hmsg : a.readsMessage = false) (h : lmkdStep cfg g a = some g') : Trims g.reg.view g'.reg.view := by
  cases a with
  | poll env =>
    simp only [lmkdStep] at h
    split at h
    · cases h
    · split at h
      · cases h
        exact callHandler_trims hi cfg _ 0 env (readsMessage_zero _ _)
      · cases h
  | killTimeout now =>
    simp only [lmkdStep] at h
    split at h
    · cases h
    · cases h
      exact Trims.of_reg_eq (mainloopKillTimeout_reg cfg now g)
  | hup info =>
    simp only [lmkdStep] at h
    split at h
    · cases h
    · cases h
      unfold hupClose
      split
      · exact ctrlDataClose_trims g _
      · exact Trims.refl _
  | event info events contNow env =>
    simp only [lmkdStep] at h
    split at h
    · cases h
    · cases h
      exact handleEvent_trims hi cfg info events contNow env hmsg

def killThenHangUp : List Action :=
  [criticalPsiEvent (appsKillEnv 4000 true), .hup (.dataSock ⟨0, zero_lt_maxDataConn⟩)]

end Lmkd
