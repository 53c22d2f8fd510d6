import Lmkd.System.ProcsPrio

/-!
# The completions and the descriptors of a batch

`handle_io_uring_procs_prio` closes a record's descriptor when it marks the
record's completion seen, and on the `err` path it closes every descriptor
still open; the return after the write loop closes none.  `BatchExit` is
what the handler leaves behind: the descriptors still open and the
completions never marked seen.

When every read and write succeeds the handler leaves neither
(`handleIoUringProcsPrioExit_ok`).  A completion that fails is never marked
seen, so it stays at the head of the queue and each later round of the loop
returns it again.  One status read that fails therefore holds the read loop
and then the write loop for all their rounds: the handler returns with that
record's status file open and its completion on the queue, and registers no
record of the batch (`handleIoUringProcsPrio_failedRead`).
-/

namespace Lmkd

open Registry Reorder

/-- Where the handler leaves its descriptors and its completion queue:
`closedAll` for the returns before any descriptor is opened and for the
`err` path, which closes every descriptor still open, and `returned` for the
return after the write loop. -/
inductive BatchExit where
  | closedAll
  | returned (fds : Nat → Option BatchFd) (cq : List Cqe)

namespace BatchExit

def openFds (n : Nat) : BatchExit → List Nat
  | closedAll => []
  | returned fds _ => pendingWrites fds n

def unseen : BatchExit → List Cqe
  | closedAll => []
  | returned _ cq => cq

end BatchExit

def writeLoopExit (procs : List LmkProcprio) :
    Nat → (Nat → Option BatchFd) → List Cqe → BatchExit
  | 0, fds, cq => .returned fds cq
  | _ + 1, _, [] => .closedAll
  | k + 1, fds, cqe :: rest =>
    if cqe.res < 0 ∨ cqe.userData > procs.length then writeLoopExit procs k fds (cqe :: rest)
    else writeLoopExit procs k (Function.update fds cqe.userData none) rest

/-- The exit of `handle_io_uring_procs_prio`, along the branches of
`handleIoUringProcsPrio`. -/
def handleIoUringProcsPrioExit (env : ProcEnv) (uenv : UringEnv) (procs : List LmkProcprio) :
    BatchExit :=
  if !uenv.queueInitOk then .closedAll
  else
    let reads := prepReads env 0 procs (fun _ => none) 0
    if reads.2 = 0 ∨ !uenv.readSubmitOk then .closedAll
    else
      let readCq := (permuteBy uenv.readOrder (submittedReads reads.1 procs.length)).map
        (readCqe env procs)
      match readLoop env procs reads.2 reads.1 readCq with
      | none => .closedAll
      | some (fds, leftover) =>
        let writes := pendingWrites fds procs.length
        if writes.length = 0 ∨ !uenv.writeSubmitOk then .closedAll
        else
          writeLoopExit procs writes.length fds
            (leftover ++ (permuteBy uenv.writeOrder writes).map (writeCqe env procs fds))

/-! ## One round of each loop -/

section Rounds

variable {env : ProcEnv} {procs : List LmkProcprio} {cqe : Cqe}

theorem readLoop_rejected (h : cqe.res < 0 ∨ cqe.userData > procs.length) :
    ∀ (k : Nat) (fds : Nat → Option BatchFd) (rest : List Cqe),
      readLoop env procs k fds (cqe :: rest) = some (fds, cqe :: rest)
  | 0, _, _ => rfl
  | k + 1, fds, rest => by
    rw [readLoop, if_pos h]
    exact readLoop_rejected h k fds rest

theorem readLoop_accepted (h : ¬ (cqe.res < 0 ∨ cqe.userData > procs.length)) (k : Nat)
    (fds : Nat → Option BatchFd) (rest : List Cqe) :
    ∃ v, readLoop env procs (k + 1) fds (cqe :: rest) =
      readLoop env procs k (Function.update fds cqe.userData v) rest := by
  rw [readLoop, if_neg h]
  dsimp only
  split
  · exact ⟨none, rfl⟩
  · split
    · exact ⟨none, rfl⟩
    · exact ⟨some .adj, by rw [Function.update_idem]⟩

theorem writeLoopExit_rejected (h : cqe.res < 0 ∨ cqe.userData > procs.length) :
    ∀ (k : Nat) (fds : Nat → Option BatchFd) (rest : List Cqe),
      writeLoopExit procs k fds (cqe :: rest) = .returned fds (cqe :: rest)
  | 0, _, _ => rfl
  | k + 1, fds, rest => by
    rw [writeLoopExit, if_pos h]
    exact writeLoopExit_rejected h k fds rest

theorem writeLoop_rejected (cfg : Config) (credPid : Int32)
    (h : cqe.res < 0 ∨ cqe.userData > procs.length) :
    ∀ (k : Nat) (g : Globals) (rest : List Cqe),
      writeLoop cfg env procs credPid k g (cqe :: rest) = g
  | 0, _, _ => rfl
  | k + 1, g, rest => by
    rw [writeLoop, if_pos h]
    exact writeLoop_rejected cfg credPid h k g rest

end Rounds

/-! ## Whole loops -/

section Runs

variable {env : ProcEnv} {procs : List LmkProcprio}

theorem readLoop_leftover :
    ∀ (k : Nat) (fds : Nat → Option BatchFd) (cq : List Cqe), cq.length = k →
      ∃ fds' leftover, readLoop env procs k fds cq = some (fds', leftover) ∧
        (leftover = [] ∨ ∃ cqe rest, leftover = cqe :: rest ∧
          (cqe.res < 0 ∨ cqe.userData > procs.length))
  | 0, fds, [], _ => ⟨fds, [], rfl, .inl rfl⟩
  | k + 1, fds, cqe :: rest, hlen => by
    by_cases hc : cqe.res < 0 ∨ cqe.userData > procs.length
    · exact ⟨fds, cqe :: rest, readLoop_rejected hc _ _ _, .inr ⟨cqe, rest, rfl, hc⟩⟩
    · obtain ⟨v, hv⟩ := @readLoop_accepted env procs _ hc k fds rest
      rw [hv]
      exact readLoop_leftover k _ rest (Nat.succ.inj hlen)

theorem readLoop_keeps_rejected {cqe : Cqe} (hrej : cqe.res < 0 ∨ cqe.userData > procs.length) :
    ∀ (k : Nat) (fds fds' : Nat → Option BatchFd) (cq leftover : List Cqe),
      readLoop env procs k fds cq = some (fds', leftover) → (cq.map Cqe.userData).Nodup →
      cqe ∈ cq → cqe ∈ leftover ∧ fds' cqe.userData = fds cqe.userData
  | 0, fds, fds', cq, leftover, hrun, _, hmem => by
    obtain ⟨rfl, rfl⟩ := Prod.mk.inj (Option.some.inj hrun).symm
    exact ⟨hmem, rfl⟩
  | k + 1, fds, fds', [], leftover, hrun, _, _ => nomatch hrun
  | k + 1, fds, fds', c :: rest, leftover, hrun, hnd, hmem => by
    by_cases hc : c.res < 0 ∨ c.userData > procs.length
    · rw [readLoop_rejected hc] at hrun
      obtain ⟨rfl, rfl⟩ := Prod.mk.inj (Option.some.inj hrun).symm
      exact ⟨hmem, rfl⟩
    · -- `c` is accepted and `cqe` is not, so `cqe` is further down the queue
      have hne : cqe ≠ c := fun heq => hc (heq ▸ hrej)
      have hrest : cqe ∈ rest := (List.mem_cons.mp hmem).resolve_left hne
      rw [List.map_cons, List.nodup_cons] at hnd
      have hidx : cqe.userData ≠ c.userData := fun heq =>
        hnd.1 (heq ▸ List.mem_map_of_mem hrest)
      obtain ⟨v, hv⟩ := @readLoop_accepted env procs _ hc k fds rest
      rw [hv] at hrun
      obtain ⟨hleft, hslot⟩ := readLoop_keeps_rejected hrej k _ fds' rest leftover hrun hnd.2 hrest
      exact ⟨hleft, by rw [hslot, Function.update_of_ne hidx]⟩

theorem writeLoopExit_ok (fds₀ : Nat → Option BatchFd) :
    ∀ (is : List Nat) (fds : Nat → Option BatchFd),
      (∀ i ∈ is, i < procs.length ∧ (writeCqe env procs fds₀ i).res = 0) →
      writeLoopExit procs is.length fds (is.map (writeCqe env procs fds₀)) =
        .returned (is.foldl (fun m i => Function.update m i none) fds) []
  | [], _, _ => rfl
  | i :: is, fds, h => by
    obtain ⟨hi, hres⟩ := h i List.mem_cons_self
    have hok : ¬ ((writeCqe env procs fds₀ i).res < 0 ∨
        (writeCqe env procs fds₀ i).userData > procs.length) := by
      rw [hres]
      simp only [writeCqe]
      omega
    rw [List.length_cons, List.map_cons, writeLoopExit, if_neg hok, List.foldl_cons]
    exact writeLoopExit_ok fds₀ is _ fun j hj => h j (List.mem_cons_of_mem _ hj)

end Runs

/-! ## The handler -/

section Handler

variable {env : ProcEnv} {uenv : UringEnv} {procs : List LmkProcprio}
  {fds : Nat → Option BatchFd} {leftover : List Cqe}
  (hinit : uenv.queueInitOk = true) (hread : uenv.readSubmitOk = true)
  (hwrite : uenv.writeSubmitOk = true)
  (hreads : (List.range procs.length).filter (readsAt env procs) ≠ [])
  (hrun : readLoop env procs ((List.range procs.length).filter (readsAt env procs)).length
    (fun i => if readsAt env procs i then some .status else none)
    ((permuteBy uenv.readOrder ((List.range procs.length).filter (readsAt env procs))).map
      (readCqe env procs)) = some (fds, leftover))
  (hwrites : pendingWrites fds procs.length ≠ [])
include hinit hread hwrite hreads hrun hwrites

theorem handleIoUringProcsPrio_of_readLoop (cfg : Config) (g : Globals) (credPid : Int32) :
    handleIoUringProcsPrio cfg env uenv g procs credPid =
      writeLoop cfg env procs credPid (pendingWrites fds procs.length).length
        (recordBatchWrites env procs fds g (pendingWrites fds procs.length))
        (leftover ++ (permuteBy uenv.writeOrder (pendingWrites fds procs.length)).map
          (writeCqe env procs fds)) := by
  unfold handleIoUringProcsPrio
  simp only [hinit, hread, hwrite, Bool.not_true, Bool.false_eq_true, if_false, or_false,
    prepReads_eq, List.length_eq_zero_iff, hreads, submittedReads_eq, hrun, hwrites]

theorem handleIoUringProcsPrioExit_of_readLoop :
    handleIoUringProcsPrioExit env uenv procs =
      writeLoopExit procs (pendingWrites fds procs.length).length fds
        (leftover ++ (permuteBy uenv.writeOrder (pendingWrites fds procs.length)).map
          (writeCqe env procs fds)) := by
  unfold handleIoUringProcsPrioExit
  simp only [hinit, hread, hwrite, Bool.not_true, Bool.false_eq_true, if_false, or_false,
    prepReads_eq, List.length_eq_zero_iff, hreads, submittedReads_eq, hrun, hwrites]

end Handler

/-! ## A failed status read -/

section FailedRead

variable {env : ProcEnv} {procs : List LmkProcprio}

theorem map_userData_readCqe (l : List Nat) : (l.map (readCqe env procs)).map Cqe.userData = l := by
  rw [List.map_map]
  exact List.map_id' l

theorem handleIoUringProcsPrio_failedRead {uenv : UringEnv} {i : Nat} {p : LmkProcprio}
    (hinit : uenv.queueInitOk = true) (hread : uenv.readSubmitOk = true)
    (hwrite : uenv.writeSubmitOk = true) (hp : procs[i]? = some p) (hv : procPrioValid p)
    (hfail : env.status p.pid = .readFailed) (cfg : Config) (g : Globals) (credPid : Int32) :
    (∃ fds cq, handleIoUringProcsPrioExit env uenv procs = .returned fds cq ∧
      fds i = some .status ∧ readCqe env procs i ∈ cq) ∧
      (handleIoUringProcsPrio cfg env uenv g procs credPid).reg = g.reg := by
  have hr : readsAt env procs i = true := readsAt_eq_true.mpr ⟨p, hp, hv, by rw [hfail]; nofun⟩
  have hsub : i ∈ (List.range procs.length).filter (readsAt env procs) :=
    List.mem_filter.mpr ⟨List.mem_range.mpr (List.getElem?_eq_some_iff.mp hp).1, hr⟩
  have hperm := permuteBy_perm uenv.readOrder ((List.range procs.length).filter (readsAt env procs))
  have hlen : ((permuteBy uenv.readOrder ((List.range procs.length).filter (readsAt env procs))).map
      (readCqe env procs)).length = ((List.range procs.length).filter (readsAt env procs)).length := by
    rw [List.length_map, hperm.length_eq]
  obtain ⟨fds, leftover, hrun, hshape⟩ := @readLoop_leftover env procs _
    (fun j => if readsAt env procs j then some .status else none) _ hlen
  -- the failed read stays on the queue and its slot keeps the status descriptor
  have hres : (readCqe env procs i).res < 0 := by
    simp [readCqe, List.getD_eq_getElem?_getD, hp, hfail]
  have hnd : (((permuteBy uenv.readOrder ((List.range procs.length).filter (readsAt env procs))).map
      (readCqe env procs)).map Cqe.userData).Nodup := by
    rw [map_userData_readCqe]
    exact hperm.nodup_iff.mpr (List.nodup_range.filter _)
  obtain ⟨hleft, hslot⟩ := readLoop_keeps_rejected (Or.inl hres) _ _ _ _ _ hrun hnd
    (List.mem_map_of_mem (hperm.mem_iff.mpr hsub))
  have hfd : fds i = some .status := hslot.trans (if_pos hr)
  obtain ⟨c, rest, rfl, hc⟩ := hshape.resolve_left (List.ne_nil_of_mem hleft)
  have hwrites : pendingWrites fds procs.length ≠ [] := List.ne_nil_of_mem
    (List.mem_filter.mpr ⟨List.mem_range.mpr (List.getElem?_eq_some_iff.mp hp).1, by rw [hfd]; rfl⟩)
  refine ⟨⟨fds, c :: rest ++ (permuteBy uenv.writeOrder (pendingWrites fds procs.length)).map
    (writeCqe env procs fds), ?_, hfd, List.mem_append_left _ hleft⟩, ?_⟩
  · rw [handleIoUringProcsPrioExit_of_readLoop hinit hread hwrite (List.ne_nil_of_mem hsub) hrun
      hwrites, List.cons_append, writeLoopExit_rejected hc]
  · rw [handleIoUringProcsPrio_of_readLoop hinit hread hwrite (List.ne_nil_of_mem hsub) hrun
      hwrites, List.cons_append, writeLoop_rejected cfg credPid hc, recordBatchWrites_reg]

end FailedRead

def failedReadEnv : ProcEnv :=
  { appsProcEnv 4000 with
    status := fun pid => if pid = 100 then .readFailed else (appsProcEnv 4000).status pid }

/-- App 101's read completes first: the handler opens its `oom_score_adj`
file and the kernel takes its score, but the failed read of app 100 then
holds both loops.  The handler registers neither app and returns with both
descriptors open and three completions on the queue. -/
theorem handleIoUringProcsPrio_failedRead_twoApps :
    (handleIoUringProcsPrioExit failedReadEnv (uringOk [1] [1]) twoAppsBatch).openFds 2 = [0, 1] ∧
      (handleIoUringProcsPrioExit failedReadEnv (uringOk [1] [1]) twoAppsBatch).unseen =
        [⟨0, -1⟩, ⟨1, 0⟩, ⟨0, -1⟩] ∧
      (handleIoUringProcsPrio exampleConfig failedReadEnv (uringOk [1] [1]) Globals.boot
        twoAppsBatch 1).reg.view 101 = none ∧
      (handleIoUringProcsPrio exampleConfig failedReadEnv (uringOk [1] [1]) Globals.boot
        twoAppsBatch 1).adjWrites = [(101, 800)] := by
  decide

/-! ## Every completion succeeding -/

theorem handleIoUringProcsPrioExit_ok {env : ProcEnv} {uenv : UringEnv} {procs : List LmkProcprio}
    (hok : BatchOk env procs) (hinit : uenv.queueInitOk = true) (hread : uenv.readSubmitOk = true)
    (hwrite : uenv.writeSubmitOk = true) :
    (handleIoUringProcsPrioExit env uenv procs).openFds procs.length = [] ∧
      (handleIoUringProcsPrioExit env uenv procs).unseen = [] := by
  have hperm := permuteBy_perm uenv.writeOrder (batchWrites env procs)
  unfold handleIoUringProcsPrioExit
  simp only [hinit, hread, hwrite, Bool.not_true, Bool.false_eq_true, if_false, or_false,
    prepReads_eq]
  split
  · exact ⟨rfl, rfl⟩
  · rw [submittedReads_eq, readLoop_batch hok]
    simp only [pendingWrites_eq hok, List.nil_append]
    split
    · exact ⟨rfl, rfl⟩
    · rw [← hperm.length_eq, writeLoopExit_ok _ _ _ fun i hi =>
        ⟨(mem_batchWrites.mp (hperm.subset hi)).1, writeCqe_res_of_mem hok (hperm.subset hi)⟩]
      refine ⟨List.filter_eq_nil_iff.mpr fun j hj => ?_, rfl⟩
      have hclosed := foldl_update_apply (fun _ => (none : Option BatchFd)) j
        (permuteBy uenv.writeOrder (batchWrites env procs)) (fdsAfterRead env procs)
      rw [hclosed]
      split
      · exact Bool.false_ne_true
      · -- a descriptor still open after the read loop has its write in the batch
        rename_i hnot
        intro hsome
        exact hnot (hperm.mem_iff.mpr (pendingWrites_eq hok ▸ List.mem_filter.mpr ⟨hj, hsome⟩))

end Lmkd
