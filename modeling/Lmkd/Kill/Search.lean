import Lmkd.Kill
import Mathlib.Data.List.Perm.Subperm

/-!
# The victim search stops, and kills only above its floor

A failed `kill_one_process` removes the record it was given, and
`proc_get_heaviest` removes the records whose size it cannot read, so the
slot list under search only gets shorter; every victim both strategies
return is a member of it.  That gives each loop of `find_and_kill_process`
a measure below its fuel: the length of the slot list for `killAtSlot` and
the heaviest walk, the distance to `min_score_adj` for the outer loop.

The kills a search adds to the log are of records of the registry it
started from whose score is at least the slot's, so at least
`min_score_adj` (`KillLog`).  A kill stops the search only when it reports
a positive size: with every `VmRSS` at least one page, a search kills at
most once (`OneKill`).
-/

namespace Lmkd

open IntrusiveList IntrusiveList.Links Registry

/-! ## Registries that only lose records -/

structure Shrinks (r r' : Registry) : Prop where
  brk : r'.brk = r.brk
  mem : ∀ a, r'.Mem a → r.Mem a ∧ r'.procs a = r.procs a

theorem Shrinks.refl (r : Registry) : Shrinks r r := ⟨rfl, fun _ ha => ⟨ha, rfl⟩⟩

theorem Shrinks.trans {r₁ r₂ r₃ : Registry} (h₁₂ : Shrinks r₁ r₂) (h₂₃ : Shrinks r₂ r₃) :
    Shrinks r₁ r₃ := by
  refine ⟨h₂₃.brk.trans h₁₂.brk, fun a ha => ?_⟩
  obtain ⟨ha₂, hp₃⟩ := h₂₃.mem a ha
  obtain ⟨ha₁, hp₂⟩ := h₁₂.mem a ha₂
  exact ⟨ha₁, hp₃.trans hp₂⟩

@[simp] theorem pidRemove_kills (g : Globals) (pid : Int32) : (pidRemove g pid).1.kills = g.kills := by
  unfold pidRemove
  split <;> rfl

theorem pidRemove_reg_congr {g g' : Globals} (h : g'.reg = g.reg) (pid : Int32) :
    (pidRemove g' pid).1.reg = (pidRemove g pid).1.reg := by
  rw [pidRemove_reg, pidRemove_reg, h]

theorem shrinks_pidRemove {g : Globals} (hi : g.reg.Inv) (pid : Int32) :
    Shrinks g.reg (pidRemove g pid).1.reg := by
  obtain ⟨slots, hw⟩ := hi
  rw [pidRemove_reg]
  split
  · exact Shrinks.refl _
  · rename_i a h
    refine ⟨removeAt_brk _ _ _, fun c hc => ?_⟩
    have hc' := (hw.mem_removeAt h).mp hc
    exact ⟨hc'.1, removeAt_procs_of_ne g.reg pid hc'.2⟩

theorem Registry.WellFormed.pidRemove_of_mem {g : Globals} {slots : Nat → List Nat}
    (hw : g.reg.WellFormed slots) {a s : Nat} (ha : a ∈ slots s) :
    (pidRemove g (g.reg.procs a).pid).1.reg.WellFormed
      (Function.update slots s ((slots s).erase a)) := by
  have hmem := hw.mem_of_slot ha
  have hs : adjToSlot (g.reg.procs a).oomadj = s := ((hw.mem_slots a s).mp ha).2
  rw [pidRemove_reg, hw.pidLookup_of_mem hmem]
  subst hs
  exact hw.removeAt (hw.pidLookup_of_mem hmem)

theorem Registry.WellFormed.length_slot_le {r : Registry} {slots : Nat → List Nat} (hw : r.WellFormed slots)
    (s : Nat) : (slots s).length ≤ r.brk := by
  have hsub : slots s ⊆ List.range r.brk := fun a ha =>
    List.mem_range.mpr (hw.lt_brk a (hw.mem_of_slot ha))
  simpa using (List.subperm_of_subset (hw.rings.nodup s) hsub).length_le

theorem le_of_adjToSlot_eq {adj i : Int32} (hv : ValidAdj adj) (h : adjToSlot adj = adjToSlot i) :
    i ≤ adj := by
  rw [validAdj_iff] at hv
  unfold adjToSlot at h
  rw [Int32.le_iff_toInt_le]
  omega

/-! ## Picking a victim -/

structure Pruned (g g₁ : Globals) (slots slots₁ : Nat → List Nat) (s : Nat) : Prop where
  shrinks : Shrinks g.reg g₁.reg
  kills : g₁.kills = g.kills
  wf : g₁.reg.WellFormed slots₁
  length_le : (slots₁ s).length ≤ (slots s).length

theorem Pruned.refl {g : Globals} {slots : Nat → List Nat} (hw : g.reg.WellFormed slots) (s : Nat) :
    Pruned g g slots slots s :=
  ⟨Shrinks.refl _, rfl, hw, Nat.le_refl _⟩

theorem Pruned.trans {g g₁ g₂ : Globals} {slots slots₁ slots₂ : Nat → List Nat} {s : Nat}
    (h₁ : Pruned g g₁ slots slots₁ s) (h₂ : Pruned g₁ g₂ slots₁ slots₂ s) :
    Pruned g g₂ slots slots₂ s :=
  ⟨h₁.shrinks.trans h₂.shrinks, h₂.kills.trans h₁.kills, h₂.wf, Nat.le_trans h₂.length_le h₁.length_le⟩

theorem Pruned.pidRemove {g : Globals} {slots : Nat → List Nat} (hw : g.reg.WellFormed slots)
    {a s : Nat} (ha : a ∈ slots s) :
    Pruned g (pidRemove g (g.reg.procs a).pid).1 slots (Function.update slots s ((slots s).erase a)) s := by
  refine ⟨shrinks_pidRemove ⟨_, hw⟩ _, pidRemove_kills _ _, hw.pidRemove_of_mem ha, ?_⟩
  rw [Function.update_self, List.length_erase_of_mem ha]
  exact Nat.sub_le _ _

/-- Halfway through the walk of `proc_get_heaviest` over slot `s`: the walk
has visited `pre` and has `rest` ahead, `curr` is the first of `rest` or the
slot head, and both candidates were visited. -/
structure Walk (r : Registry) (slots : Nat → List Nat) (s : Nat) (pre rest : List Nat) (curr : Loc)
    (best bestPa : Option Nat × Int) : Prop where
  wf : r.WellFormed slots
  slot_lt : s < adjToSlotCount
  split : slots s = pre ++ rest
  curr_eq : curr = (rest.map Loc.proc).headD (.slot s)
  best_mem : ∀ a, best.1 = some a → a ∈ pre
  bestPa_mem : ∀ a, bestPa.1 = some a → a ∈ pre

variable {r : Registry} {slots : Nat → List Nat} {s : Nat} {pre rest : List Nat} {curr : Loc}
  {best bestPa : Option Nat × Int}

theorem walk_start (hw : r.WellFormed slots) (hs : s < adjToSlotCount) :
    Walk r slots s [] (slots s) (r.links.next (.slot s)) (none, 0) (none, 0) :=
  ⟨hw, hs, rfl, (hw.rings.ring s hs).next_eq, (fun _ h => nomatch h), (fun _ h => nomatch h)⟩

theorem Walk.next_eq {a : Nat} (hw : Walk r slots s pre (a :: rest) curr best bestPa) :
    r.links.next (.proc a) = (rest.map Loc.proc).headD (.slot s) := by
  have hring := hw.wf.rings.ring s hw.slot_lt
  rw [hw.split, List.map_append, List.map_cons] at hring
  exact (path_append_iff.mp hring).2.next_eq

theorem better_mem {l : List Nat} (hb : ∀ x, best.1 = some x → x ∈ l) {a : Nat} (ha : a ∈ l)
    (tasksize : Int) : ∀ x, (better best a tasksize).1 = some x → x ∈ l := by
  intro x hx
  unfold better at hx
  split at hx
  · rw [← Option.some_inj.mp hx]
    exact ha
  · exact hb x hx

theorem Walk.advance {a : Nat} (hw : Walk r slots s pre (a :: rest) curr best bestPa)
    {best' bestPa' : Option Nat × Int} (hb : ∀ x, best'.1 = some x → x ∈ pre ++ [a])
    (hpa : ∀ x, bestPa'.1 = some x → x ∈ pre ++ [a]) :
    Walk r slots s (pre ++ [a]) rest (r.links.next (.proc a)) best' bestPa' := by
  refine ⟨hw.wf, hw.slot_lt, ?_, hw.next_eq, hb, hpa⟩
  rw [hw.split, List.append_assoc, List.singleton_append]

theorem Walk.advance_best {a : Nat} (hw : Walk r slots s pre (a :: rest) curr best bestPa)
    (tasksize : Int) :
    Walk r slots s (pre ++ [a]) rest (r.links.next (.proc a)) (better best a tasksize) bestPa :=
  hw.advance (better_mem (fun x hx => List.mem_append_left _ (hw.best_mem x hx))
    (List.mem_append_right _ (List.mem_singleton_self a)) tasksize)
    (fun x hx => List.mem_append_left _ (hw.bestPa_mem x hx))

theorem Walk.advance_pa {a : Nat} (hw : Walk r slots s pre (a :: rest) curr best bestPa)
    (tasksize : Int) :
    Walk r slots s (pre ++ [a]) rest (r.links.next (.proc a)) best (better bestPa a tasksize) :=
  hw.advance (fun x hx => List.mem_append_left _ (hw.best_mem x hx))
    (better_mem (fun x hx => List.mem_append_left _ (hw.bestPa_mem x hx))
      (List.mem_append_right _ (List.mem_singleton_self a)) tasksize)

theorem Walk.head_mem {a : Nat} (hw : Walk r slots s pre (a :: rest) curr best bestPa) :
    a ∈ slots s := by
  rw [hw.split]
  exact List.mem_append_right _ List.mem_cons_self

theorem Walk.remove {g : Globals} {a : Nat}
    (hw : Walk g.reg slots s pre (a :: rest) curr best bestPa) :
    Walk (pidRemove g (g.reg.procs a).pid).1.reg (Function.update slots s ((slots s).erase a)) s pre
      rest (g.reg.links.next (.proc a)) best bestPa := by
  have hnd : (pre ++ a :: rest).Nodup := hw.split ▸ hw.wf.rings.nodup s
  have hpre : a ∉ pre := fun h => (List.nodup_append.mp hnd).2.2 a h a List.mem_cons_self rfl
  refine ⟨hw.wf.pidRemove_of_mem hw.head_mem, hw.slot_lt, ?_, hw.next_eq, hw.best_mem,
    hw.bestPa_mem⟩
  rw [Function.update_self, hw.split, List.erase_append_right _ hpre, List.erase_cons_head]

theorem procGetHeaviestLoop_proc (cfg : Config) (env : KillEnv) (fuel : Nat) (g : Globals)
    (a s : Nat) (best bestPa : Option Nat × Int) :
    procGetHeaviestLoop cfg env (.slot s) (fuel + 1) g (.proc a) best bestPa =
      if env.proc.size (g.reg.procs a).pid < 0 then
        procGetHeaviestLoop cfg env (.slot s) fuel (pidRemove g (g.reg.procs a).pid).1
          (g.reg.links.next (.proc a)) best bestPa
      else if isPreferredApp cfg (procGetName env.proc (g.reg.procs a).pid lineMax) then
        procGetHeaviestLoop cfg env (.slot s) fuel g (g.reg.links.next (.proc a)) best
          (better bestPa a (env.proc.size (g.reg.procs a).pid))
      else
        procGetHeaviestLoop cfg env (.slot s) fuel g (g.reg.links.next (.proc a))
          (better best a (env.proc.size (g.reg.procs a).pid)) bestPa := rfl

theorem procGetHeaviestLoop_head (cfg : Config) (env : KillEnv) (fuel : Nat) (g : Globals)
    (s : Nat) (best bestPa : Option Nat × Int) :
    procGetHeaviestLoop cfg env (.slot s) (fuel + 1) g (.slot s) best bestPa = (g, best, bestPa) := by
  simp [procGetHeaviestLoop]

theorem procGetHeaviestLoop_fuel (cfg : Config) (env : KillEnv) (s : Nat) :
    ∀ (fuel fuel' : Nat) (g : Globals) (slots : Nat → List Nat) (pre rest : List Nat) (curr : Loc)
      (best bestPa : Option Nat × Int), Walk g.reg slots s pre rest curr best bestPa →
      rest.length < fuel → rest.length < fuel' →
      procGetHeaviestLoop cfg env (.slot s) fuel' g curr best bestPa =
        procGetHeaviestLoop cfg env (.slot s) fuel g curr best bestPa
  | 0, _, _, _, _, _, _, _, _, _, hf, _ => absurd hf (Nat.not_lt_zero _)
  | _ + 1, 0, _, _, _, _, _, _, _, _, _, hf' => absurd hf' (Nat.not_lt_zero _)
  | fuel + 1, fuel' + 1, g, slots, pre, [], curr, best, bestPa, hw, _, _ => by
    have hc : curr = .slot s := hw.curr_eq
    subst hc
    rw [procGetHeaviestLoop_head, procGetHeaviestLoop_head]
  | fuel + 1, fuel' + 1, g, slots, pre, a :: rest, curr, best, bestPa, hw, hf, hf' => by
    have hc : curr = .proc a := hw.curr_eq
    subst hc
    have hlt : rest.length < fuel := by simp only [List.length_cons] at hf; omega
    have hlt' : rest.length < fuel' := by simp only [List.length_cons] at hf'; omega
    rw [procGetHeaviestLoop_proc, procGetHeaviestLoop_proc]
    split_ifs
    · exact procGetHeaviestLoop_fuel cfg env s fuel fuel' _ _ _ _ _ _ _ hw.remove hlt hlt'
    · exact procGetHeaviestLoop_fuel cfg env s fuel fuel' _ _ _ _ _ _ _ (hw.advance_pa _) hlt hlt'
    · exact procGetHeaviestLoop_fuel cfg env s fuel fuel' _ _ _ _ _ _ _ (hw.advance_best _) hlt
        hlt'

theorem procGetHeaviestLoop_pruned (cfg : Config) (env : KillEnv) (s : Nat) :
    ∀ (fuel : Nat) (g : Globals) (slots : Nat → List Nat) (pre rest : List Nat) (curr : Loc)
      (best bestPa : Option Nat × Int), Walk g.reg slots s pre rest curr best bestPa →
      rest.length < fuel →
      ∃ slots', Pruned g (procGetHeaviestLoop cfg env (.slot s) fuel g curr best bestPa).1 slots
          slots' s ∧
        (∀ x, (procGetHeaviestLoop cfg env (.slot s) fuel g curr best bestPa).2.1.1 = some x →
          x ∈ slots' s) ∧
        (∀ x, (procGetHeaviestLoop cfg env (.slot s) fuel g curr best bestPa).2.2.1 = some x →
          x ∈ slots' s)
  | 0, _, _, _, _, _, _, _, _, hf => absurd hf (Nat.not_lt_zero _)
  | fuel + 1, g, slots, pre, [], curr, best, bestPa, hw, _ => by
    have hc : curr = .slot s := hw.curr_eq
    subst hc
    have hpre : slots s = pre := by rw [hw.split, List.append_nil]
    rw [procGetHeaviestLoop_head]
    exact ⟨slots, Pruned.refl hw.wf s, fun x hx => hpre ▸ hw.best_mem x hx,
      fun x hx => hpre ▸ hw.bestPa_mem x hx⟩
  | fuel + 1, g, slots, pre, a :: rest, curr, best, bestPa, hw, hf => by
    have hc : curr = .proc a := hw.curr_eq
    subst hc
    have hlt : rest.length < fuel := by simp only [List.length_cons] at hf; omega
    rw [procGetHeaviestLoop_proc]
    split_ifs
    · -- the size is unreadable: the record leaves the slot list
      obtain ⟨slots', hp, hb⟩ := procGetHeaviestLoop_pruned cfg env s fuel _ _ _ _ _ _ _ hw.remove hlt
      exact ⟨slots', (Pruned.pidRemove hw.wf hw.head_mem).trans hp, hb⟩
    · exact procGetHeaviestLoop_pruned cfg env s fuel _ _ _ _ _ _ _ (hw.advance_pa _) hlt
    · exact procGetHeaviestLoop_pruned cfg env s fuel _ _ _ _ _ _ _ (hw.advance_best _) hlt

theorem Registry.WellFormed.procAdjTail_mem (hw : r.WellFormed slots) {i : Int32}
    (hs : adjToSlot i < adjToSlotCount) {a : Nat} (h : r.procAdjTail i = some a) :
    a ∈ slots (adjToSlot i) := by
  have hprev := (hw.rings.ring _ hs).prev_mem (y := Loc.slot (adjToSlot i))
    (List.mem_append_right _ (List.mem_singleton_self _))
  unfold procAdjTail at h
  split at h
  · rename_i b hb
    cases h
    rw [hb] at hprev
    simpa using hprev
  · cases h

theorem procGetHeaviest_pruned (cfg : Config) (env : KillEnv) {g : Globals}
    (hw : g.reg.WellFormed slots) {oomadj : Int32} (hs : adjToSlot oomadj < adjToSlotCount) :
    ∃ slots', Pruned g (procGetHeaviest cfg env g oomadj).1 slots slots' (adjToSlot oomadj) ∧
      ∀ x, (procGetHeaviest cfg env g oomadj).2 = some x → x ∈ slots' (adjToSlot oomadj) := by
  have hlt : (slots (adjToSlot oomadj)).length < killFuel g :=
    Nat.lt_succ_of_le (hw.length_slot_le _)
  obtain ⟨slots', hp, hb, hpa⟩ :=
    procGetHeaviestLoop_pruned cfg env _ _ g slots _ _ _ _ _ (walk_start hw hs) hlt
  refine ⟨slots', hp, fun x hx => ?_⟩
  dsimp only [procGetHeaviest] at hx
  split at hx
  · exact hb x hx
  · exact hpa x hx

theorem pickVictim_pruned (cfg : Config) (env : KillEnv) (chooseHeaviest : Bool) {g : Globals}
    (hw : g.reg.WellFormed slots) {i : Int32} (hs : adjToSlot i < adjToSlotCount) :
    ∃ slots', Pruned g (pickVictim cfg env chooseHeaviest g i).1 slots slots' (adjToSlot i) ∧
      ∀ x, (pickVictim cfg env chooseHeaviest g i).2 = some x → x ∈ slots' (adjToSlot i) := by
  unfold pickVictim
  split
  · exact procGetHeaviest_pruned cfg env hw hs
  · exact ⟨slots, Pruned.refl hw _, fun x hx => hw.procAdjTail_mem hs hx⟩

/-! ## One kill attempt -/

@[simp] theorem startWaitForProcKill_kills (cfg : Config) (addOk : Bool) (g : Globals)
    (pidOrFd : Int32) : (startWaitForProcKill cfg addOk g pidOrFd).kills = g.kills := by
  unfold startWaitForProcKill
  have h : (if 0 ≤ g.lastKillPidOrFd then stopWaitForProcKill cfg g false else g).kills = g.kills := by
    split <;> simp
  simp only
  split
  · exact h
  · split
    · exact h
    · exact h

@[simp] theorem incKillcnt_kills (g : Globals) (oomadj : Int32) :
    (incKillcnt g oomadj).kills = g.kills := by
  unfold incKillcnt
  simp only
  split
  · split <;> rfl
  · rfl

/-- What `kill_one_process` on record `a` can leave, as the registry and the
kill log see it: the hook freed memory and nothing changed, or the record is
gone, after a kill of its pid that returns the resident size in pages or
after no kill. -/
inductive KillOutcome (cfg : Config) (env : KillEnv) (g : Globals) (a : Nat) :
    Globals × Int → Prop
  | freed {g' : Globals} {result : Int} : 0 < result → g'.reg = g.reg → g'.kills = g.kills →
      KillOutcome cfg env g a (g', result)
  | failed {g' : Globals} {result : Int} : g'.reg = (pidRemove g (g.reg.procs a).pid).1.reg →
      g'.kills = g.kills → KillOutcome cfg env g a (g', result)
  | killed {g' : Globals} {buf : List Char} {rssKb : Int} :
      readProcStatus env.proc (g.reg.procs a).pid bufMax = some buf →
      parseStatusTag buf procStatusRssField = some rssKb →
      g'.reg = (pidRemove g (g.reg.procs a).pid).1.reg →
      g'.kills = ((g.reg.procs a).pid, env.now) :: g.kills →
      KillOutcome cfg env g a (g', rssKb.tdiv cfg.pageK)

theorem killOut_failed {cfg : Config} {env : KillEnv} {g g' : Globals} {a : Nat}
    (hreg : g'.reg = g.reg) (hkills : g'.kills = g.kills) (result : Int) :
    KillOutcome cfg env g a (killOut g' (g.reg.procs a).pid result) :=
  .failed (pidRemove_reg_congr hreg _) (by simp only [pidRemove_kills, hkills])

theorem killIssue_outcome (cfg : Config) (env : KillEnv) (g : Globals) (a : Nat) {buf : List Char}
    {rssKb : Int} (hbuf : readProcStatus env.proc (g.reg.procs a).pid bufMax = some buf)
    (hrss : parseStatusTag buf procStatusRssField = some rssKb) :
    KillOutcome cfg env g a (killIssue cfg env g a rssKb) := by
  simp only [killIssue]
  split
  · exact .freed ‹_› rfl rfl
  · split
    · exact killOut_failed (by simp) (by simp) _
    · exact .killed hbuf hrss (pidRemove_reg_congr (by simp) _) (by simp)

theorem killOneProcess_outcome (cfg : Config) (env : KillEnv) (g : Globals) (a : Nat) :
    KillOutcome cfg env g a (killOneProcess cfg env g a) := by
  simp only [killOneProcess]
  split
  · exact killOut_failed rfl rfl _
  · split
    · exact killOut_failed rfl rfl _
    · rename_i buf hbuf
      split
      · exact killOut_failed rfl rfl _
      · split
        · exact killOut_failed rfl rfl _
        · split
          · rename_i rssKb _ _ hrss _ _
            exact killIssue_outcome cfg env g a hbuf hrss
          · exact killOut_failed rfl rfl _

theorem KillOutcome.reg_of_neg {cfg : Config} {env : KillEnv} {g : Globals} {a : Nat}
    {k : Globals × Int} (h : KillOutcome cfg env g a k) (hk : k.2 < 0) :
    k.1.reg = (pidRemove g (g.reg.procs a).pid).1.reg := by
  cases h with
  | freed hpos _ _ => exact absurd hpos (Int.not_lt.mpr (Int.le_of_lt hk))
  | failed hreg _ => exact hreg
  | killed _ _ hreg _ => exact hreg

theorem KillOutcome.wellFormed_of_neg {cfg : Config} {env : KillEnv} {g : Globals} {a : Nat}
    {k : Globals × Int} (h : KillOutcome cfg env g a k) (hk : k.2 < 0) (hw : g.reg.WellFormed slots)
    (ha : a ∈ slots s) : k.1.reg.WellFormed (Function.update slots s ((slots s).erase a)) :=
  h.reg_of_neg hk ▸ hw.pidRemove_of_mem ha

theorem length_update_erase {l : Nat → List Nat} {a s : Nat} (ha : a ∈ l s) :
    (Function.update l s ((l s).erase a) s).length + 1 = (l s).length := by
  rw [Function.update_self, List.length_erase_of_mem ha]
  have := List.length_pos_of_mem ha
  omega

/-! ## The kill log of a search -/

/-- The kills that lead from `g` to `g'` are of records of `g` scored at
least `floor`, and `g'` keeps only records of `g`. -/
structure KillLog (g g' : Globals) (floor : Int32) : Prop where
  shrinks : Shrinks g.reg g'.reg
  log : ∃ ks, g'.kills = ks ++ g.kills ∧
    ∀ k ∈ ks, ∃ a, g.reg.Mem a ∧ (g.reg.procs a).pid = k.1 ∧ floor ≤ (g.reg.procs a).oomadj

theorem KillLog.of_shrinks {g g' : Globals} {floor : Int32} (h : Shrinks g.reg g'.reg)
    (hk : g'.kills = g.kills) : KillLog g g' floor :=
  ⟨h, [], by rw [hk, List.nil_append], fun _ hk => absurd hk List.not_mem_nil⟩

theorem KillLog.trans {g₁ g₂ g₃ : Globals} {floor : Int32} (h₁₂ : KillLog g₁ g₂ floor)
    (h₂₃ : KillLog g₂ g₃ floor) : KillLog g₁ g₃ floor := by
  obtain ⟨ks₁, hk₁, hks₁⟩ := h₁₂.log
  obtain ⟨ks₂, hk₂, hks₂⟩ := h₂₃.log
  refine ⟨h₁₂.shrinks.trans h₂₃.shrinks, ks₂ ++ ks₁, by rw [hk₂, hk₁, List.append_assoc],
    fun k hk => ?_⟩
  rcases List.mem_append.mp hk with hk | hk
  · -- a kill of the second stretch is of a record the first one kept
    obtain ⟨a, ha, hpid, hle⟩ := hks₂ k hk
    obtain ⟨ha₁, hp⟩ := h₁₂.shrinks.mem a ha
    rw [hp] at hpid hle
    exact ⟨a, ha₁, hpid, hle⟩
  · exact hks₁ k hk

theorem KillLog.mono {g g' : Globals} {floor floor' : Int32} (h : KillLog g g' floor)
    (hle : floor' ≤ floor) : KillLog g g' floor' := by
  obtain ⟨ks, hk, hks⟩ := h.log
  refine ⟨h.shrinks, ks, hk, fun k hk' => ?_⟩
  obtain ⟨a, ha, hpid, hfl⟩ := hks k hk'
  exact ⟨a, ha, hpid, Int32.le_trans hle hfl⟩

theorem KillOutcome.killLog {cfg : Config} {env : KillEnv} {g : Globals} {a : Nat}
    {k : Globals × Int} (h : KillOutcome cfg env g a k) (hw : g.reg.WellFormed slots) {i : Int32}
    (ha : a ∈ slots (adjToSlot i)) : KillLog g k.1 i := by
  cases h with
  | freed _ hreg hkills => exact KillLog.of_shrinks (hreg ▸ Shrinks.refl _) hkills
  | failed hreg hkills => exact KillLog.of_shrinks (hreg ▸ shrinks_pidRemove ⟨_, hw⟩ _) hkills
  | killed _ _ hreg hkills =>
    refine ⟨hreg ▸ shrinks_pidRemove ⟨_, hw⟩ _, [((g.reg.procs a).pid, env.now)],
      by rw [hkills]; rfl, fun k hk => ?_⟩
    rw [List.mem_singleton.mp hk]
    have hslot := (hw.mem_slots a _).mp ha
    exact ⟨a, hslot.1, rfl, le_of_adjToSlot_eq (hw.valid_adj a hslot.1) hslot.2⟩

/-- Every `VmRSS` that `kill_one_process` can read is at least one page. -/
def RssAtLeastPage (cfg : Config) (env : KillEnv) : Prop :=
  0 < cfg.pageK ∧ ∀ pid buf rssKb, readProcStatus env.proc pid bufMax = some buf →
    parseStatusTag buf procStatusRssField = some rssKb → cfg.pageK ≤ rssKb

/-- From `g` to `g'` the log gained at most one kill, and a kill made the
`result` positive. -/
def OneKill (g g' : Globals) (result : Int) : Prop :=
  g'.kills = g.kills ∨ ∃ k, g'.kills = k :: g.kills ∧ 0 < result

theorem OneKill.of_kills_eq {g g₁ g' : Globals} {result : Int} (h : OneKill g₁ g' result)
    (hk : g₁.kills = g.kills) : OneKill g g' result := by
  unfold OneKill at *
  rwa [hk] at h

theorem OneKill.kills_eq_of_nonpos {g g' : Globals} {result : Int} (h : OneKill g g' result)
    (hr : result ≤ 0) : g'.kills = g.kills :=
  h.elim id fun ⟨_, _, hpos⟩ => absurd hpos (Int.not_lt.mpr hr)

theorem tdiv_pos_of_le {a b : Int} (hb : 0 < b) (h : b ≤ a) : 0 < a.tdiv b := by
  rw [Int.tdiv_eq_ediv_of_nonneg (by omega)]
  have h1 : 1 ≤ a / b := (Int.le_ediv_iff_mul_le hb).mpr (by omega)
  omega

theorem KillOutcome.oneKill {cfg : Config} {env : KillEnv} {g : Globals} {a : Nat}
    {k : Globals × Int} (hrss : RssAtLeastPage cfg env) (h : KillOutcome cfg env g a k) :
    OneKill g k.1 k.2 := by
  cases h with
  | freed _ _ hkills => exact .inl hkills
  | failed _ hkills => exact .inl hkills
  | killed hbuf hrssKb _ hkills =>
    exact .inr ⟨_, hkills, tdiv_pos_of_le hrss.1 (hrss.2 _ _ _ hbuf hrssKb)⟩

/-! ## The retries at one slot -/

theorem killAtSlot_fuel (cfg : Config) (env : KillEnv) (chooseHeaviest : Bool) {i : Int32}
    (hs : adjToSlot i < adjToSlotCount) :
    ∀ (fuel fuel' : Nat) (g : Globals) (slots : Nat → List Nat) (killedSize : Int),
      g.reg.WellFormed slots → (slots (adjToSlot i)).length < fuel →
      (slots (adjToSlot i)).length < fuel' →
      killAtSlot cfg env chooseHeaviest i fuel' g killedSize =
        killAtSlot cfg env chooseHeaviest i fuel g killedSize
  | 0, _, _, _, _, _, hf, _ => absurd hf (Nat.not_lt_zero _)
  | _ + 1, 0, _, _, _, _, _, hf' => absurd hf' (Nat.not_lt_zero _)
  | fuel + 1, fuel' + 1, g, slots, killedSize, hw, hf, hf' => by
    obtain ⟨slots₁, hp, hv⟩ := pickVictim_pruned cfg env chooseHeaviest hw hs
    simp only [killAtSlot]
    cases hpick : pickVictim cfg env chooseHeaviest g i with
    | mk g₁ v =>
      rw [hpick] at hp hv
      cases v with
      | none => rfl
      | some a =>
        have ha := hv a rfl
        have ho := killOneProcess_outcome cfg env g₁ a
        dsimp only
        split_ifs with hk
        · rfl
        · -- the attempt failed and took `a` off the slot
          have hw' := ho.wellFormed_of_neg (Int.not_le.mp hk) hp.wf ha
          have hlen := length_update_erase ha
          have hle := hp.length_le
          exact killAtSlot_fuel cfg env chooseHeaviest hs fuel fuel' _ _ _ hw' (by omega) (by omega)

theorem killAtSlot_killLog (cfg : Config) (env : KillEnv) (chooseHeaviest : Bool) {i : Int32}
    (hs : adjToSlot i < adjToSlotCount) :
    ∀ (fuel : Nat) (g : Globals) (killedSize : Int), g.reg.Inv →
      KillLog g (killAtSlot cfg env chooseHeaviest i fuel g killedSize).1 i
  | 0, _, _, _ => KillLog.of_shrinks (Shrinks.refl _) rfl
  | fuel + 1, g, killedSize, ⟨slots, hw⟩ => by
    obtain ⟨slots₁, hp, hv⟩ := pickVictim_pruned cfg env chooseHeaviest hw hs
    simp only [killAtSlot]
    cases hpick : pickVictim cfg env chooseHeaviest g i with
    | mk g₁ v =>
      rw [hpick] at hp hv
      have hpicked : KillLog g g₁ i := KillLog.of_shrinks hp.shrinks hp.kills
      cases v with
      | none => exact hpicked
      | some a =>
        have hlog := hpicked.trans ((killOneProcess_outcome cfg env g₁ a).killLog hp.wf (hv a rfl))
        dsimp only
        split_ifs
        · exact hlog
        · exact hlog.trans (killAtSlot_killLog cfg env chooseHeaviest hs fuel _ _
            (killOneProcess_inv ⟨_, hp.wf⟩ cfg env a))

theorem killAtSlot_oneKill (cfg : Config) (env : KillEnv) (chooseHeaviest : Bool) {i : Int32}
    (hs : adjToSlot i < adjToSlotCount) (hrss : RssAtLeastPage cfg env) :
    ∀ (fuel : Nat) (g : Globals) (killedSize : Int), g.reg.Inv →
      OneKill g (killAtSlot cfg env chooseHeaviest i fuel g killedSize).1
        (killAtSlot cfg env chooseHeaviest i fuel g killedSize).2
  | 0, _, _, _ => .inl rfl
  | fuel + 1, g, killedSize, ⟨slots, hw⟩ => by
    obtain ⟨slots₁, hp, _⟩ := pickVictim_pruned cfg env chooseHeaviest hw hs
    simp only [killAtSlot]
    cases hpick : pickVictim cfg env chooseHeaviest g i with
    | mk g₁ v =>
      rw [hpick] at hp
      cases v with
      | none => exact .inl hp.kills
      | some a =>
        have hone := ((killOneProcess_outcome cfg env g₁ a).oneKill hrss).of_kills_eq hp.kills
        dsimp only
        split_ifs with hk
        · exact hone
        · -- a failure reports no kill, and the retries go on from the same log
          have hsame := hone.kills_eq_of_nonpos (by omega)
          exact (killAtSlot_oneKill cfg env chooseHeaviest hs hrss fuel _ _
            (killOneProcess_inv ⟨_, hp.wf⟩ cfg env a)).of_kills_eq hsame

/-! ## The descent over the slots -/

theorem toInt_sub_one {i : Int32} (h : 0 ≤ i) : (i - 1).toInt = i.toInt - 1 := by
  rw [Int32.le_iff_toInt_le, Int32.toInt_zero] at h
  have := i.toInt_lt
  rw [Int32.toInt_sub, Int32.toInt_one, Int.bmod_eq_of_le] <;> omega

theorem adjToSlot_lt_of_floor {minScoreAdj i : Int32} (hmin : 0 ≤ minScoreAdj)
    (hge : ¬ i < minScoreAdj) (hle : i ≤ oomScoreAdjMax) : adjToSlot i < adjToSlotCount :=
  adjToSlot_lt ⟨Int32.le_trans (by decide) (Int32.le_trans hmin (Int32.not_lt.mp hge)), hle⟩

theorem sub_one_le_max {minScoreAdj i : Int32} (hmin : 0 ≤ minScoreAdj) (hge : ¬ i < minScoreAdj)
    (hle : i ≤ oomScoreAdjMax) : i - 1 ≤ oomScoreAdjMax := by
  have hi : 0 ≤ i := Int32.le_trans hmin (Int32.not_lt.mp hge)
  have hmax : oomScoreAdjMax.toInt = 1000 := by decide
  rw [Int32.le_iff_toInt_le, hmax] at hle ⊢
  rw [toInt_sub_one hi]
  omega

theorem killFromSlot_fuel (cfg : Config) (env : KillEnv) {minScoreAdj : Int32} (hmin : 0 ≤ minScoreAdj) :
    ∀ (fuel fuel' : Nat) (g : Globals) (i : Int32) (chooseHeaviest : Bool) (killedSize : Int),
      (i.toInt - minScoreAdj.toInt + 1).toNat ≤ fuel →
      (i.toInt - minScoreAdj.toInt + 1).toNat ≤ fuel' →
      killFromSlot cfg env minScoreAdj fuel' g i chooseHeaviest killedSize =
        killFromSlot cfg env minScoreAdj fuel g i chooseHeaviest killedSize
  | 0, 0, _, _, _, _, _, _ => rfl
  | 0, _ + 1, g, i, chooseHeaviest, killedSize, hf, _ => by
    have hlt : i < minScoreAdj := by rw [Int32.lt_iff_toInt_lt]; omega
    simp only [killFromSlot, if_pos hlt]
  | _ + 1, 0, g, i, chooseHeaviest, killedSize, _, hf' => by
    have hlt : i < minScoreAdj := by rw [Int32.lt_iff_toInt_lt]; omega
    simp only [killFromSlot, if_pos hlt]
  | fuel + 1, fuel' + 1, g, i, chooseHeaviest, killedSize, hf, hf' => by
    simp only [killFromSlot]
    by_cases hlt : i < minScoreAdj
    · rw [if_pos hlt, if_pos hlt]
    · rw [if_neg hlt, if_neg hlt]
      have hi : (i - 1).toInt = i.toInt - 1 :=
        toInt_sub_one (Int32.le_trans hmin (Int32.not_lt.mp hlt))
      split_ifs
      · rfl
      · exact killFromSlot_fuel cfg env hmin fuel fuel' _ _ _ _ (by omega) (by omega)

theorem killFromSlot_killLog (cfg : Config) (env : KillEnv) {minScoreAdj : Int32}
    (hmin : 0 ≤ minScoreAdj) :
    ∀ (fuel : Nat) (g : Globals) (i : Int32) (chooseHeaviest : Bool) (killedSize : Int),
      g.reg.Inv → i ≤ oomScoreAdjMax →
      KillLog g (killFromSlot cfg env minScoreAdj fuel g i chooseHeaviest killedSize).1 minScoreAdj
  | 0, _, _, _, _, _, _ => KillLog.of_shrinks (Shrinks.refl _) rfl
  | fuel + 1, g, i, chooseHeaviest, killedSize, hi, hle => by
    simp only [killFromSlot]
    by_cases hlt : i < minScoreAdj
    · rw [if_pos hlt]
      exact KillLog.of_shrinks (Shrinks.refl _) rfl
    · rw [if_neg hlt]
      have hs := adjToSlot_lt_of_floor hmin hlt hle
      -- the kills at slot `i` are above the floor because `i` is
      have hslot := (killAtSlot_killLog cfg env (chooseHeaviest || decide (i ≤ perceptibleAppAdj)) hs
        (killFuel g) g killedSize hi).mono (Int32.not_lt.mp hlt)
      split_ifs
      · exact hslot
      · exact hslot.trans (killFromSlot_killLog cfg env hmin fuel _ _ _ _
          (killAtSlot_inv cfg env _ i _ g killedSize hi) (sub_one_le_max hmin hlt hle))

theorem killFromSlot_oneKill (cfg : Config) (env : KillEnv) {minScoreAdj : Int32}
    (hmin : 0 ≤ minScoreAdj) (hrss : RssAtLeastPage cfg env) :
    ∀ (fuel : Nat) (g : Globals) (i : Int32) (chooseHeaviest : Bool) (killedSize : Int),
      g.reg.Inv → i ≤ oomScoreAdjMax →
      OneKill g (killFromSlot cfg env minScoreAdj fuel g i chooseHeaviest killedSize).1
        (killFromSlot cfg env minScoreAdj fuel g i chooseHeaviest killedSize).2
  | 0, _, _, _, _, _, _ => .inl rfl
  | fuel + 1, g, i, chooseHeaviest, killedSize, hi, hle => by
    simp only [killFromSlot]
    by_cases hlt : i < minScoreAdj
    · rw [if_pos hlt]
      exact .inl rfl
    · rw [if_neg hlt]
      have hone := killAtSlot_oneKill cfg env (chooseHeaviest || decide (i ≤ perceptibleAppAdj))
        (adjToSlot_lt_of_floor hmin hlt hle) hrss (killFuel g) g killedSize hi
      split_ifs with h0
      · exact hone
      · -- the slot reported 0, so it killed nothing
        have hsame := hone.kills_eq_of_nonpos (by omega)
        exact (killFromSlot_oneKill cfg env hmin hrss fuel _ _ _ _
          (killAtSlot_inv cfg env _ i _ g killedSize hi) (sub_one_le_max hmin hlt hle)).of_kills_eq hsame

/-! ## A whole call -/

theorem findAndKillProcess_fuel (cfg : Config) (env : KillEnv) (g : Globals) {minScoreAdj : Int32}
    (hmin : 0 ≤ minScoreAdj) {fuel : Nat} (hfuel : (1001 - minScoreAdj.toInt).toNat ≤ fuel) :
    killFromSlot cfg env minScoreAdj fuel g oomScoreAdjMax cfg.killHeaviestTask 0 =
      killFromSlot cfg env minScoreAdj (1001 - minScoreAdj.toInt).toNat g oomScoreAdjMax
        cfg.killHeaviestTask 0 := by
  have hmax : oomScoreAdjMax.toInt = 1000 := by decide
  exact killFromSlot_fuel cfg env hmin _ _ g _ _ _ (by omega) (by omega)

theorem findAndKillProcess_reg (cfg : Config) (env : KillEnv) (g : Globals) (minScoreAdj : Int32) :
    (findAndKillProcess cfg env g minScoreAdj).1.reg =
      (killFromSlot cfg env minScoreAdj (1001 - minScoreAdj.toInt).toNat g oomScoreAdjMax
        cfg.killHeaviestTask 0).1.reg := by
  simp only [findAndKillProcess]
  split <;> rfl

theorem findAndKillProcess_of_user {cfg : Config} (hu : cfg.isUserdebugOrEngBuild = false) (env : KillEnv)
    (g : Globals) (minScoreAdj : Int32) :
    findAndKillProcess cfg env g minScoreAdj =
      killFromSlot cfg env minScoreAdj (1001 - minScoreAdj.toInt).toNat g oomScoreAdjMax
        cfg.killHeaviestTask 0 := by
  simp [findAndKillProcess, hu]

theorem logScriptKill_cases (now : Timespec) (victim : Option ProcDirent) (kills : List (Int32 × Timespec)) :
    logScriptKill now victim kills = kills ∨
      ∃ e pid, victim = some e ∧ e.pid = some pid ∧ logScriptKill now victim kills = (pid.toInt32, now) :: kills := by
  unfold logScriptKill
  split
  · rename_i e
    split
    · rename_i pid hpid
      split
      · exact .inr ⟨e, pid, rfl, hpid, rfl⟩
      · exact .inl rfl
    · exact .inl rfl
  · exact .inl rfl

theorem findAndKillProcess_kills (cfg : Config) (env : KillEnv) (g : Globals) (minScoreAdj : Int32) :
    let descent := killFromSlot cfg env minScoreAdj (1001 - minScoreAdj.toInt).toNat g oomScoreAdjMax
      cfg.killHeaviestTask 0
    ∃ ss, (findAndKillProcess cfg env g minScoreAdj).1.kills = ss ++ descent.1.kills ∧
      (ss ≠ [] → descent.2 = 0 ∧ minScoreAdj = 0 ∧ cfg.isUserdebugOrEngBuild = true ∧
        ∃ e pid, (procGetScript env.script descent.1.script).2.2 = some e ∧ e.pid = some pid ∧
          ss = [(pid.toInt32, env.now)]) := by
  intro descent
  by_cases hfb : descent.2 = 0 ∧ minScoreAdj = 0 ∧ cfg.isUserdebugOrEngBuild = true
  · have hcall : (findAndKillProcess cfg env g minScoreAdj).1.kills =
        logScriptKill env.now (procGetScript env.script descent.1.script).2.2 descent.1.kills := by
      simp only [findAndKillProcess]
      rw [if_pos hfb]
    rcases logScriptKill_cases env.now (procGetScript env.script descent.1.script).2.2 descent.1.kills with
      hsame | ⟨e, pid, he, hpid, hlog⟩
    · exact ⟨[], by rw [hcall, hsame, List.nil_append], fun h => absurd rfl h⟩
    · exact ⟨[(pid.toInt32, env.now)], by rw [hcall, hlog]; rfl, fun _ => ⟨hfb.1, hfb.2.1, hfb.2.2, e, pid, he, hpid, rfl⟩⟩
  · have hcall : findAndKillProcess cfg env g minScoreAdj = descent := by
      simp only [findAndKillProcess]
      rw [if_neg hfb]
    exact ⟨[], by rw [hcall, List.nil_append], fun h => absurd rfl h⟩

theorem findAndKillProcess_killLog {cfg : Config} (hu : cfg.isUserdebugOrEngBuild = false) (env : KillEnv)
    {g : Globals} {minScoreAdj : Int32} (hi : g.reg.Inv) (hmin : 0 ≤ minScoreAdj) :
    KillLog g (findAndKillProcess cfg env g minScoreAdj).1 minScoreAdj := by
  rw [findAndKillProcess_of_user hu]
  exact killFromSlot_killLog cfg env hmin _ g _ _ _ hi (by decide)

/-! ## The userdebug fallback -/

theorem scriptScan_eligible :
    ∀ (es : List ProcDirent) (pos k : Nat) (e : ProcDirent), scriptScan es pos = some (k, e) →
      scriptEligible e = true
  | [], _, _, _, h => nomatch h
  | e' :: es, pos, k, e, h => by
    unfold scriptScan at h
    split at h
    · cases h
      assumption
    · exact scriptScan_eligible es (pos + 1) k e h

theorem scriptEligible_spec {e : ProcDirent} (h : scriptEligible e = true) :
    ∃ pid oomadj, e.pid = some pid ∧ pid ≠ 1 ∧ 0 < e.totalVm ∧ e.oomScoreAdj = some oomadj ∧
      0 ≤ oomadj ∧ 0 < e.tasksize := by
  unfold scriptEligible at h
  split at h
  · rename_i pid oomadj hpid hadj
    simp only [Bool.and_eq_true, bne_iff_ne, ne_eq, decide_eq_true_eq] at h
    exact ⟨pid, oomadj, hpid, h.1.1.1, h.1.1.2, hadj, h.1.2, h.2⟩
  · cases h

theorem procGetScriptFrom_victim (env : ScriptEnv) :
    ∀ (fuel : Nat) (st : ScriptState) (e : ProcDirent),
      (procGetScriptFrom env fuel st).2.2 = some e → scriptEligible e = true
  | 0, _, _, h => nomatch h
  | fuel + 1, st, e, h => by
    simp only [procGetScriptFrom] at h
    split at h
    · exact nomatch h
    · split at h
      · rename_i k e' hscan
        cases h
        exact scriptScan_eligible _ _ _ _ hscan
      · split at h
        · exact procGetScriptFrom_victim env fuel _ e h
        · exact nomatch h

theorem procGetScriptFrom_noRetry (env : ScriptEnv) (fuel : Nat) (st : ScriptState)
    (hst : st.retryEligible = false) : procGetScriptFrom env (fuel + 1) st = procGetScriptFrom env 1 st := by
  simp only [procGetScriptFrom, hst, Bool.false_eq_true, if_false]

theorem procGetScriptFrom_fuel (env : ScriptEnv) (fuel : Nat) (st : ScriptState) :
    procGetScriptFrom env (fuel + 2) st = procGetScriptFrom env 2 st := by
  rw [procGetScriptFrom.eq_2 env st (fuel + 1), procGetScriptFrom.eq_2 env st 1]
  split
  · rfl
  · split
    · rfl
    · split
      · refine procGetScriptFrom_noRetry env fuel _ ?_
        rfl
      · rfl

theorem procGetScript_victim (env : ScriptEnv) (st : ScriptState) {e : ProcDirent}
    (h : (procGetScript env st).2.2 = some e) :
    ∃ oomadj, e.oomScoreAdj = some oomadj ∧ 0 ≤ oomadj := by
  unfold procGetScript at h
  split at h
  · exact nomatch h
  · obtain ⟨_, oomadj, _, _, _, hadj, hle, _⟩ := scriptEligible_spec (procGetScriptFrom_victim env 2 st e h)
    exact ⟨oomadj, hadj, hle⟩

end Lmkd
