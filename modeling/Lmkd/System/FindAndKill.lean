import Lmkd.Kill.Search
import Lmkd.System.KillWait

/-!
# What one call of `find_and_kill_process` guarantees

On a consistent registry and at a non-negative floor, every loop of the
victim search stops before its fuel runs out, the kills of the descent are of
registered processes scored at least `min_score_adj`, and the process the
userdebug fallback `proc_get_script` kills, which no record names, has a
non-negative `oom_score_adj` (`findAndKillProcess_guarantee`).

A call can kill more than once: a victim whose `VmRSS` is below one page
reports 0 freed pages, which the descent reads as no kill, and it goes on to
the next slot (`findAndKillProcess_kills_twice`).  With every `VmRSS` at
least a page, a call kills at most once and does not fall back to
`proc_get_script` after a kill.
-/

namespace Lmkd

open Registry

/-- The guarantees of one call of `find_and_kill_process` from `g` at floor
`minScoreAdj`. -/
structure SearchGuarantee (cfg : Config) (env : KillEnv) (g : Globals) (minScoreAdj : Int32) :
    Prop where
  descent_stops : ∀ fuel, (1001 - minScoreAdj.toInt).toNat ≤ fuel →
    killFromSlot cfg env minScoreAdj fuel g oomScoreAdjMax cfg.killHeaviestTask 0 =
      killFromSlot cfg env minScoreAdj (1001 - minScoreAdj.toInt).toNat g oomScoreAdjMax
        cfg.killHeaviestTask 0
  retries_stop : ∀ (g' : Globals) (i : Int32) (chooseHeaviest : Bool) (killedSize : Int)
    (fuel : Nat), g'.reg.Inv → ValidAdj i → killFuel g' ≤ fuel →
    killAtSlot cfg env chooseHeaviest i fuel g' killedSize =
      killAtSlot cfg env chooseHeaviest i (killFuel g') g' killedSize
  walk_stops : ∀ (g' : Globals) (i : Int32) (fuel : Nat), g'.reg.Inv → ValidAdj i →
    killFuel g' ≤ fuel →
    procGetHeaviestLoop cfg env (.slot (adjToSlot i)) fuel g'
        (g'.reg.links.next (.slot (adjToSlot i))) (none, 0) (none, 0) =
      procGetHeaviestLoop cfg env (.slot (adjToSlot i)) (killFuel g') g'
        (g'.reg.links.next (.slot (adjToSlot i))) (none, 0) (none, 0)
  script_stops : ∀ (senv : ScriptEnv) (st : ScriptState) (fuel : Nat), 2 ≤ fuel →
    procGetScriptFrom senv fuel st = procGetScriptFrom senv 2 st
  victims : ∃ ks ss, (findAndKillProcess cfg env g minScoreAdj).1.kills = ss ++ ks ++ g.kills ∧
    (∀ k ∈ ks, ∃ a, g.reg.Mem a ∧ (g.reg.procs a).pid = k.1 ∧
      minScoreAdj ≤ (g.reg.procs a).oomadj) ∧
    (ss ≠ [] → minScoreAdj = 0 ∧ cfg.isUserdebugOrEngBuild = true ∧
      ∃ (e : ProcDirent) (pid : UInt32) (oomadj : Int), e.pid = some pid ∧
        e.oomScoreAdj = some oomadj ∧ 0 ≤ oomadj ∧ ss = [(pid.toInt32, env.now)]) ∧
    (RssAtLeastPage cfg env → ks.length ≤ 1 ∧ (ks ≠ [] → ss = []))

theorem findAndKillProcess_victims {cfg : Config} {env : KillEnv} {g : Globals}
    {minScoreAdj : Int32} (hi : g.reg.Inv) (hmin : 0 ≤ minScoreAdj) :
    ∃ ks ss, (findAndKillProcess cfg env g minScoreAdj).1.kills = ss ++ ks ++ g.kills ∧
      (∀ k ∈ ks, ∃ a, g.reg.Mem a ∧ (g.reg.procs a).pid = k.1 ∧
        minScoreAdj ≤ (g.reg.procs a).oomadj) ∧
      (ss ≠ [] → minScoreAdj = 0 ∧ cfg.isUserdebugOrEngBuild = true ∧
        ∃ (e : ProcDirent) (pid : UInt32) (oomadj : Int), e.pid = some pid ∧
          e.oomScoreAdj = some oomadj ∧ 0 ≤ oomadj ∧ ss = [(pid.toInt32, env.now)]) ∧
      (RssAtLeastPage cfg env → ks.length ≤ 1 ∧ (ks ≠ [] → ss = [])) := by
  obtain ⟨ks, hks, hvictims⟩ :=
    (killFromSlot_killLog cfg env hmin _ g oomScoreAdjMax cfg.killHeaviestTask 0 hi (by decide)).log
  obtain ⟨ss, hss, hfb⟩ := findAndKillProcess_kills cfg env g minScoreAdj
  refine ⟨ks, ss, by rw [hss, hks, List.append_assoc], hvictims, fun hne => ?_, fun hrss => ?_⟩
  · obtain ⟨-, h0, hdbg, e, pid, he, hpid, rfl⟩ := hfb hne
    obtain ⟨oomadj, hadj, hle⟩ := procGetScript_victim env.script _ he
    exact ⟨h0, hdbg, e, pid, oomadj, hpid, hadj, hle, rfl⟩
  -- a kill of the descent makes its result positive, which rules the fallback out
  · rcases killFromSlot_oneKill cfg env hmin hrss _ g oomScoreAdjMax cfg.killHeaviestTask 0 hi
        (by decide) with hsame | ⟨k, hk, hpos⟩
    · have hnil : ks = [] := List.append_cancel_right (hks.symm.trans (hsame.trans rfl))
      exact ⟨by simp [hnil], fun hne => absurd hnil hne⟩
    · have hone : ks = [k] := List.append_cancel_right (hks.symm.trans (hk.trans rfl))
      refine ⟨by simp [hone], fun _ => ?_⟩
      by_contra hne
      exact Int.ne_of_gt hpos (hfb hne).1

theorem findAndKillProcess_guarantee {cfg : Config} {env : KillEnv} {g : Globals}
    {minScoreAdj : Int32} (hi : g.reg.Inv) (hmin : 0 ≤ minScoreAdj) :
    SearchGuarantee cfg env g minScoreAdj where
  descent_stops _ hfuel := findAndKillProcess_fuel cfg env g hmin hfuel
  retries_stop g' i chooseHeaviest killedSize fuel hi' hv hfuel := by
    obtain ⟨slots, hw⟩ := hi'
    have hlen : (slots (adjToSlot i)).length < killFuel g' := Nat.lt_succ_of_le (hw.length_slot_le _)
    exact killAtSlot_fuel cfg env chooseHeaviest (adjToSlot_lt hv) _ _ g' slots killedSize hw hlen
      (Nat.lt_of_lt_of_le hlen hfuel)
  walk_stops g' i fuel hi' hv hfuel := by
    obtain ⟨slots, hw⟩ := hi'
    have hlen : (slots (adjToSlot i)).length < killFuel g' := Nat.lt_succ_of_le (hw.length_slot_le _)
    exact procGetHeaviestLoop_fuel cfg env _ _ _ g' slots _ _ _ _ _
      (walk_start hw (adjToSlot_lt hv)) hlen (Nat.lt_of_lt_of_le hlen hfuel)
  script_stops senv st fuel hfuel := by
    obtain ⟨n, rfl⟩ : ∃ n, fuel = n + 2 := ⟨fuel - 2, by omega⟩
    exact procGetScriptFrom_fuel senv n st
  victims := findAndKillProcess_victims hi hmin

def twoAppsRegistered : Globals :=
  { Globals.boot with
    reg := (Registry.initial.insertNew ⟨100, 30, 10100, 1000, 1, true⟩).insertNew
      ⟨101, 31, 10101, 950, 1, true⟩ }

theorem twoAppsRegistered_inv : twoAppsRegistered.reg.Inv :=
  (Inv.insertNew ⟨_, wellFormed_initial⟩ (by decide) ⟨by decide, by decide⟩).insertNew (by decide)
    ⟨by decide, by decide⟩

/-- With both apps at VmRSS 0 kB, one call at floor 900 from a consistent
registry keeps every guarantee above and still kills app 100 and then app
101. -/
theorem findAndKillProcess_kills_twice :
    twoAppsRegistered.reg.Inv ∧
      SearchGuarantee exampleConfig (appsKillEnv 0 true) twoAppsRegistered 900 ∧
      (findAndKillProcess exampleConfig (appsKillEnv 0 true) twoAppsRegistered 900).1.kills =
        [(101, ⟨20, 0⟩), (100, ⟨20, 0⟩)] :=
  ⟨twoAppsRegistered_inv, findAndKillProcess_guarantee twoAppsRegistered_inv (by decide), by decide⟩

end Lmkd
