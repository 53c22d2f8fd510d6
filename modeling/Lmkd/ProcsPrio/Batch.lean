import Lmkd.ProcsPrio.Refine

/-!
# The batched path, completion by completion

When every completion reports success, the loops of
`handle_io_uring_procs_prio` are folds over the completion orders: the read
loop leaves in `fds[i]` what `readDecision` says (`readLoop_ok`) and the
write loop registers the records in the order their writes complete
(`writeLoop_ok`).  `readsAt` says which status files the first loop opens.

`BatchOk` collects what makes every completion succeed: the status file of
every valid record opens and reads, and no `oom_score_adj` file that opens
rejects the write.  Under it the batch is `recordBatchWrites` over the
records whose write is submitted, followed by `registerRecord` over them in
the kernel's order (`handleIoUringProcsPrio_eq`).
-/

namespace Lmkd

open Reorder

/-- Whether the first loop opens the status file of record `i` and submits
its read. -/
def readsAt (env : ProcEnv) (procs : List LmkProcprio) (i : Nat) : Bool :=
  match procs[i]? with
  | some p => decide (procPrioValid p) && env.status p.pid != .openFailed
  | none => false

/-- What the read loop leaves in `fds[i]` once record `i`'s read completes:
the `oom_score_adj` file of a thread-group leader, when it opens. -/
def readDecision (env : ProcEnv) (procs : List LmkProcprio) (i : Nat) : Option BatchFd :=
  let p := procs.getD i default
  if notThreadGroupLeader (statusBuffer env p.pid) p.pid then none
  else
    match env.oomScoreAdj p.pid with
    | .openFailed => none
    | _ => some .adj

structure UniformRecord (env : ProcEnv) (p : LmkProcprio) : Prop where
  status_read : ∃ bytes, env.status p.pid = .contents bytes
  same_verdict : notThreadGroupLeader (statusBuffer env p.pid) p.pid =
    notThreadGroupLeader (readProcStatus env p.pid bufMax) p.pid
  no_write_error : env.oomScoreAdj p.pid ≠ .writeFailed

def BatchOk (env : ProcEnv) (procs : List LmkProcprio) : Prop :=
  ∀ p ∈ procs, procPrioValid p → UniformRecord env p

/-! ## The first loop -/

def statusFdsUpTo (R : Nat → Bool) (k : Nat) (i : Nat) : Option BatchFd :=
  if i < k ∧ R i then some .status else none

theorem statusFdsUpTo_succ (R : Nat → Bool) (k : Nat) :
    statusFdsUpTo R (k + 1) =
      if R k then Function.update (statusFdsUpTo R k) k (some .status) else statusFdsUpTo R k := by
  funext i
  by_cases hik : i = k
  · subst hik
    by_cases hr : R i <;> simp [statusFdsUpTo, hr]
  · have hlt : i < k + 1 ↔ i < k := by omega
    by_cases hr : R k
    · rw [if_pos hr, Function.update_of_ne hik]
      simp [statusFdsUpTo, hlt]
    · rw [if_neg hr]
      simp [statusFdsUpTo, hlt]

theorem prepReads_spec (env : ProcEnv) (procs : List LmkProcprio) :
    ∀ (k : Nat) (ps : List LmkProcprio), ps = procs.drop k → k ≤ procs.length →
      prepReads env k ps (statusFdsUpTo (readsAt env procs) k)
          ((List.range k).filter (readsAt env procs)).length =
        (statusFdsUpTo (readsAt env procs) procs.length,
          ((List.range procs.length).filter (readsAt env procs)).length)
  | k, [], hps, hk => by
    have hlen : k = procs.length := by
      have := congrArg List.length hps
      simp only [List.length_nil, List.length_drop] at this
      omega
    subst hlen
    rfl
  | k, p :: ps, hps, hk => by
    have hdrop : ps = procs.drop (k + 1) := by
      rw [← List.drop_drop, ← hps, List.drop_one, List.tail_cons]
    have hkp : procs[k]? = some p := by
      rw [← List.head?_drop, ← hps, List.head?_cons]
    have hk' : k + 1 ≤ procs.length := by
      have := congrArg List.length hps
      simp only [List.length_cons, List.length_drop] at this
      omega
    have hread : readsAt env procs k =
        (decide (procPrioValid p) && env.status p.pid != .openFailed) := by
      simp [readsAt, hkp]
    have hcount : ((List.range (k + 1)).filter (readsAt env procs)).length =
        ((List.range k).filter (readsAt env procs)).length + if readsAt env procs k then 1 else 0 := by
      rw [List.range_succ, List.filter_append, List.length_append]
      by_cases hr : readsAt env procs k <;> simp [hr]
    have hnext := prepReads_spec env procs (k + 1) ps hdrop hk'
    rw [statusFdsUpTo_succ, hcount] at hnext
    simp only [prepReads]
    -- each branch of the first loop is the step `readsAt` predicts for record `k`
    split
    · rename_i hv
      have hr : readsAt env procs k = false := by simp [hread, hv]
      simpa [hr] using hnext
    · rename_i hv
      split
      · rename_i hst
        have hr : readsAt env procs k = false := by simp [hread, hst]
        simpa [hr] using hnext
      · rename_i hst
        have hne : env.status p.pid ≠ .openFailed := hst
        have hr : readsAt env procs k = true := by simp [hread, not_not.mp hv, hne]
        simpa [hr] using hnext

theorem prepReads_eq (env : ProcEnv) (procs : List LmkProcprio) :
    prepReads env 0 procs (fun _ => none) 0 =
      (fun i => if readsAt env procs i then some .status else none,
        ((List.range procs.length).filter (readsAt env procs)).length) := by
  have hzero : statusFdsUpTo (readsAt env procs) 0 = fun _ => none := by
    funext i
    simp [statusFdsUpTo]
  have hlen : statusFdsUpTo (readsAt env procs) procs.length =
      fun i => if readsAt env procs i then some .status else none := by
    funext i
    by_cases hr : readsAt env procs i
    · have hi : i < procs.length := by
        by_contra hge
        simp [readsAt, List.getElem?_eq_none (Nat.le_of_not_lt hge)] at hr
      simp [statusFdsUpTo, hi, hr]
    · simp [statusFdsUpTo, hr]
  have h := prepReads_spec env procs 0 procs rfl (Nat.zero_le _)
  rwa [hzero, hlen] at h

theorem submittedReads_eq (env : ProcEnv) (procs : List LmkProcprio) :
    submittedReads (fun i => if readsAt env procs i then some .status else none) procs.length =
      (List.range procs.length).filter (readsAt env procs) := by
  unfold submittedReads
  congr 1
  funext i
  by_cases hr : readsAt env procs i <;> simp [hr]

/-! ## The read completions -/

theorem readLoop_step (env : ProcEnv) (procs : List LmkProcprio) {i : Nat}
    (hi : i < procs.length) (hres : (readCqe env procs i).res = 0) (k : Nat)
    (fds : Nat → Option BatchFd) (rest : List Cqe) :
    readLoop env procs (k + 1) fds (readCqe env procs i :: rest) =
      readLoop env procs k (Function.update fds i (readDecision env procs i)) rest := by
  have hok : ¬ ((readCqe env procs i).res < 0 ∨ (readCqe env procs i).userData > procs.length) := by
    rw [hres]
    simp only [readCqe]
    omega
  rw [readLoop, if_neg hok]
  simp only [readCqe, readDecision]
  by_cases hl : notThreadGroupLeader (statusBuffer env (procs.getD i default).pid)
      (procs.getD i default).pid = true
  · simp only [hl, if_true]
  · simp only [hl, Bool.false_eq_true, if_false]
    cases env.oomScoreAdj (procs.getD i default).pid with
    | openFailed => rfl
    | writeFailed => rw [Function.update_idem]
    | written => rw [Function.update_idem]

theorem readLoop_ok (env : ProcEnv) (procs : List LmkProcprio) :
    ∀ (is : List Nat) (fds : Nat → Option BatchFd),
      (∀ i ∈ is, i < procs.length ∧ (readCqe env procs i).res = 0) →
      readLoop env procs is.length fds (is.map (readCqe env procs)) =
        some (is.foldl (fun m i => Function.update m i (readDecision env procs i)) fds, [])
  | [], _, _ => rfl
  | i :: is, fds, h => by
    obtain ⟨hi, hres⟩ := h i List.mem_cons_self
    rw [List.length_cons, List.map_cons, readLoop_step env procs hi hres, List.foldl_cons]
    exact readLoop_ok env procs is _ fun j hj => h j (List.mem_cons_of_mem _ hj)

theorem readsAt_eq_true {env : ProcEnv} {procs : List LmkProcprio} {i : Nat} :
    readsAt env procs i = true ↔
      ∃ p, procs[i]? = some p ∧ procPrioValid p ∧ env.status p.pid ≠ .openFailed := by
  unfold readsAt
  cases procs[i]? with
  | none => simp
  | some p => simp

def fdsAfterRead (env : ProcEnv) (procs : List LmkProcprio) (i : Nat) : Option BatchFd :=
  if readsAt env procs i then readDecision env procs i else none

def batchWrites (env : ProcEnv) (procs : List LmkProcprio) : List Nat :=
  (List.range procs.length).filter fun j => applyPasses env (procs.getD j default)

theorem readCqe_res_of_readsAt {env : ProcEnv} {procs : List LmkProcprio} (hok : BatchOk env procs)
    {i : Nat} (hr : readsAt env procs i = true) : (readCqe env procs i).res = 0 := by
  obtain ⟨p, hp, hv, _⟩ := readsAt_eq_true.mp hr
  obtain ⟨bytes, hst⟩ := (hok p (List.mem_of_getElem? hp) hv).status_read
  simp [readCqe, List.getD_eq_getElem?_getD, hp, hst]

theorem readLoop_batch {env : ProcEnv} {procs : List LmkProcprio} (hok : BatchOk env procs)
    (order : List Nat) :
    readLoop env procs ((List.range procs.length).filter (readsAt env procs)).length
        (fun i => if readsAt env procs i then some .status else none)
        ((permuteBy order ((List.range procs.length).filter (readsAt env procs))).map (readCqe env procs)) =
      some (fdsAfterRead env procs, []) := by
  have hperm := permuteBy_perm order ((List.range procs.length).filter (readsAt env procs))
  have hmem : ∀ j, j ∈ permuteBy order ((List.range procs.length).filter (readsAt env procs)) ↔
      j < procs.length ∧ readsAt env procs j = true := by
    intro j
    rw [hperm.mem_iff, List.mem_filter, List.mem_range]
  rw [← hperm.length_eq, readLoop_ok env procs _ _ fun i hi =>
    ⟨((hmem i).mp hi).1, readCqe_res_of_readsAt hok ((hmem i).mp hi).2⟩]
  congr 2
  funext j
  rw [foldl_update_apply, fdsAfterRead]
  by_cases hr : readsAt env procs j
  · have hj : j < procs.length := by
      obtain ⟨p, hp, _⟩ := readsAt_eq_true.mp hr
      exact (List.getElem?_eq_some_iff.mp hp).1
    simp [hmem, hj, hr]
  · simp [hmem, hr]

theorem fdsAfterRead_eq {env : ProcEnv} {procs : List LmkProcprio} (hok : BatchOk env procs)
    {j : Nat} (hj : j < procs.length) :
    fdsAfterRead env procs j = if applyPasses env (procs.getD j default) then some .adj else none := by
  have hp : procs[j]? = some procs[j] := List.getElem?_eq_getElem hj
  have hget : procs.getD j default = procs[j] := by
    rw [List.getD_eq_getElem?_getD, hp, Option.getD_some]
  rw [fdsAfterRead, readDecision, hget]
  by_cases hv : procPrioValid procs[j]
  · have hu := hok procs[j] (List.getElem_mem hj) hv
    obtain ⟨bytes, hst⟩ := hu.status_read
    have hr : readsAt env procs j = true := readsAt_eq_true.mpr ⟨_, hp, hv, by rw [hst]; simp⟩
    rw [if_pos hr, hu.same_verdict]
    have hw := hu.no_write_error
    by_cases hl : notThreadGroupLeader (readProcStatus env procs[j].pid bufMax) procs[j].pid = true
    · simp [hl, applyPasses]
    · cases hadj : env.oomScoreAdj procs[j].pid with
      | openFailed => simp [hl, applyPasses, hadj, writefilestring]
      | writeFailed => exact absurd hadj hw
      | written => simp [hl, applyPasses, hadj, writefilestring, hv]
  · have hr : readsAt env procs j = false := by
      cases h : readsAt env procs j
      · rfl
      · obtain ⟨p, hp', hv', _⟩ := readsAt_eq_true.mp h
        rw [hp] at hp'
        cases hp'
        exact absurd hv' hv
    simp [hr, applyPasses, hv]

theorem pendingWrites_eq {env : ProcEnv} {procs : List LmkProcprio} (hok : BatchOk env procs) :
    pendingWrites (fdsAfterRead env procs) procs.length = batchWrites env procs := by
  unfold pendingWrites batchWrites
  apply List.filter_congr
  intro j hj
  rw [fdsAfterRead_eq hok (List.mem_range.mp hj)]
  cases applyPasses env (procs.getD j default) <;> rfl

theorem written_of_applyPasses {env : ProcEnv} {procs : List LmkProcprio} (hok : BatchOk env procs)
    {p : LmkProcprio} (hmem : p ∈ procs) (hp : applyPasses env p = true) :
    env.oomScoreAdj p.pid = .written := by
  have hv : procPrioValid p := by
    simp only [applyPasses, Bool.and_eq_true, decide_eq_true_eq] at hp
    exact hp.1.1
  have hw := (hok p hmem hv).no_write_error
  have hopen : writefilestring (env.oomScoreAdj p.pid) = true := by
    simp only [applyPasses, Bool.and_eq_true] at hp
    exact hp.2
  cases hadj : env.oomScoreAdj p.pid with
  | openFailed => rw [hadj] at hopen; cases hopen
  | writeFailed => exact absurd hadj hw
  | written => rfl

/-! ## The write completions -/

theorem writeLoop_step (cfg : Config) (env : ProcEnv) (procs : List LmkProcprio) (credPid : Int32)
    {fds : Nat → Option BatchFd} {i : Nat} (hi : i < procs.length)
    (hres : (writeCqe env procs fds i).res = 0) (k : Nat) (g : Globals) (rest : List Cqe) :
    writeLoop cfg env procs credPid (k + 1) g (writeCqe env procs fds i :: rest) =
      writeLoop cfg env procs credPid k (registerRecord cfg env credPid g (procs.getD i default)) rest := by
  have hok : ¬ ((writeCqe env procs fds i).res < 0 ∨
      (writeCqe env procs fds i).userData > procs.length) := by
    rw [hres]
    simp only [writeCqe]
    omega
  rw [writeLoop, if_neg hok]
  simp only [writeCqe, registerRecord]
  split <;> rfl

theorem writeLoop_ok (cfg : Config) (env : ProcEnv) (procs : List LmkProcprio) (credPid : Int32)
    (fds : Nat → Option BatchFd) :
    ∀ (is : List Nat) (g : Globals),
      (∀ i ∈ is, i < procs.length ∧ (writeCqe env procs fds i).res = 0) →
      writeLoop cfg env procs credPid is.length g (is.map (writeCqe env procs fds)) =
        is.foldl (fun g i => registerRecord cfg env credPid g (procs.getD i default)) g
  | [], _, _ => rfl
  | i :: is, g, h => by
    obtain ⟨hi, hres⟩ := h i List.mem_cons_self
    rw [List.length_cons, List.map_cons, writeLoop_step cfg env procs credPid hi hres, List.foldl_cons]
    exact writeLoop_ok cfg env procs credPid fds is _ fun j hj => h j (List.mem_cons_of_mem _ hj)

theorem getD_mem_of_lt {procs : List LmkProcprio} {j : Nat} (hj : j < procs.length) :
    procs.getD j default ∈ procs := by
  rw [List.getD_eq_getElem?_getD, List.getElem?_eq_getElem hj, Option.getD_some]
  exact List.getElem_mem hj

theorem mem_batchWrites {env : ProcEnv} {procs : List LmkProcprio} {j : Nat} :
    j ∈ batchWrites env procs ↔ j < procs.length ∧ applyPasses env (procs.getD j default) = true := by
  rw [batchWrites, List.mem_filter, List.mem_range]

theorem batchWrite_ok {env : ProcEnv} {procs : List LmkProcprio} (hok : BatchOk env procs) {j : Nat}
    (hj : j ∈ batchWrites env procs) :
    fdsAfterRead env procs j = some .adj ∧ env.oomScoreAdj (procs.getD j default).pid = .written := by
  obtain ⟨hlt, hp⟩ := mem_batchWrites.mp hj
  exact ⟨by rw [fdsAfterRead_eq hok hlt, if_pos hp],
    written_of_applyPasses hok (getD_mem_of_lt hlt) hp⟩

theorem writeCqe_res_of_mem {env : ProcEnv} {procs : List LmkProcprio} (hok : BatchOk env procs)
    {j : Nat} (hj : j ∈ batchWrites env procs) :
    (writeCqe env procs (fdsAfterRead env procs) j).res = 0 := by
  simp only [writeCqe]
  rw [if_pos (batchWrite_ok hok hj)]

theorem recordBatchWrites_adjWrites (env : ProcEnv) (procs : List LmkProcprio)
    (fds : Nat → Option BatchFd) :
    ∀ (is : List Nat) (g : Globals),
      (∀ i ∈ is, fds i = some .adj ∧ env.oomScoreAdj (procs.getD i default).pid = .written) →
      (recordBatchWrites env procs fds g is).adjWrites =
        (is.map fun i => adjWriteOf (procs.getD i default)).reverse ++ g.adjWrites
  | [], _, _ => rfl
  | i :: is, g, h => by
    obtain ⟨hfd, hw⟩ := h i List.mem_cons_self
    rw [recordBatchWrites, if_pos hfd,
      recordBatchWrites_adjWrites env procs fds is _ fun j hj => h j (List.mem_cons_of_mem _ hj)]
    simp only [recordAdjWrite, hw, if_true, List.map_cons, List.reverse_cons, adjWriteOf,
      List.append_assoc, List.singleton_append]

theorem adjWrites_foldl_registerRecord (cfg : Config) (env : ProcEnv) (credPid : Int32)
    (f : Nat → LmkProcprio) :
    ∀ (is : List Nat) (g : Globals),
      (is.foldl (fun g i => registerRecord cfg env credPid g (f i)) g).adjWrites = g.adjWrites
  | [], _ => rfl
  | i :: is, g => by
    rw [List.foldl_cons, adjWrites_foldl_registerRecord cfg env credPid f is, registerRecord_adjWrites]

theorem map_getD_batchWrites (env : ProcEnv) (procs : List LmkProcprio) :
    (batchWrites env procs).map (fun j => procs.getD j default) = procs.filter (applyPasses env) := by
  have hrange : (List.range procs.length).map (fun j => procs.getD j default) = procs := by
    apply List.ext_getElem (by simp)
    intro n h₁ h₂
    rw [List.getElem_map, List.getElem_range, List.getD_eq_getElem?_getD,
      List.getElem?_eq_getElem h₂, Option.getD_some]
  calc (batchWrites env procs).map (fun j => procs.getD j default)
      _ = ((List.range procs.length).map (fun j => procs.getD j default)).filter (applyPasses env) := by
        rw [batchWrites, List.filter_map]
        rfl
      _ = procs.filter (applyPasses env) := by rw [hrange]

/-! ## The whole batch -/

theorem permuteBy_nil (cs : List Nat) : permuteBy cs ([] : List Nat) = [] := by
  cases cs <;> rfl

theorem handleIoUringProcsPrio_eq {cfg : Config} {env : ProcEnv} {uenv : UringEnv}
    {procs : List LmkProcprio} (hok : BatchOk env procs) (hinit : uenv.queueInitOk = true)
    (hread : uenv.readSubmitOk = true) (hwrite : uenv.writeSubmitOk = true) (g : Globals)
    (credPid : Int32) :
    handleIoUringProcsPrio cfg env uenv g procs credPid =
      (permuteBy uenv.writeOrder (batchWrites env procs)).foldl
        (fun g i => registerRecord cfg env credPid g (procs.getD i default))
        (recordBatchWrites env procs (fdsAfterRead env procs) g (batchWrites env procs)) := by
  have hsub : ∀ j ∈ batchWrites env procs, j ∈ (List.range procs.length).filter (readsAt env procs) := by
    intro j hj
    obtain ⟨hlt, hp⟩ := mem_batchWrites.mp hj
    have hv : procPrioValid procs[j] := by
      rw [List.getD_eq_getElem?_getD, List.getElem?_eq_getElem hlt, Option.getD_some] at hp
      simp only [applyPasses, Bool.and_eq_true, decide_eq_true_eq] at hp
      exact hp.1.1
    obtain ⟨bytes, hst⟩ := (hok _ (List.getElem_mem hlt) hv).status_read
    refine List.mem_filter.mpr ⟨List.mem_range.mpr hlt, readsAt_eq_true.mpr ⟨_, ?_, hv, ?_⟩⟩
    · exact List.getElem?_eq_getElem hlt
    · rw [hst]
      simp
  have hempty : batchWrites env procs = [] →
      (permuteBy uenv.writeOrder (batchWrites env procs)).foldl
        (fun g i => registerRecord cfg env credPid g (procs.getD i default))
        (recordBatchWrites env procs (fdsAfterRead env procs) g (batchWrites env procs)) = g := by
    intro h
    rw [h, permuteBy_nil]
    rfl
  unfold handleIoUringProcsPrio
  simp only [hinit, hread, hwrite, Bool.not_true, Bool.false_eq_true, if_false, or_false, prepReads_eq]
  split
  · rename_i hzero
    refine (hempty ?_).symm
    apply List.eq_nil_iff_forall_not_mem.mpr
    intro j hj
    rw [List.length_eq_zero_iff] at hzero
    exact absurd (hzero ▸ hsub j hj) List.not_mem_nil
  · rw [submittedReads_eq, readLoop_batch hok]
    simp only [pendingWrites_eq hok, List.nil_append]
    split
    · rename_i hzero
      exact (hempty (List.length_eq_zero_iff.mp hzero)).symm
    · rw [← (permuteBy_perm uenv.writeOrder (batchWrites env procs)).length_eq]
      exact writeLoop_ok cfg env procs credPid _ _ _ fun i hi =>
        ⟨(mem_batchWrites.mp ((permuteBy_perm _ _).subset hi)).1,
          writeCqe_res_of_mem hok ((permuteBy_perm _ _).subset hi)⟩

end Lmkd
