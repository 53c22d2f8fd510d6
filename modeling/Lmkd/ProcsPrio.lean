import Lmkd.Commands
import Lmkd.Lib.Reorder

/-!
# `LMK_PROCS_PRIO`: the batched and the sequential path

`cmd_procs_prio` applies a batch of records either one by one with
`apply_proc_prio` (`procsPrioSequential`) or, when io_uring is supported,
with `handle_io_uring_procs_prio` (`handleIoUringProcsPrio`): one submission
that reads every record's status file, then one that writes every
`oom_score_adj` file, each followed by a loop over the completions.

The completion queue follows liburing: `io_uring_wait_cqe` returns the head
entry without removing it and `io_uring_cqe_seen` removes it.  The handler
marks an entry seen only after its result and index checks pass, so a
failed completion stays at the head.  The kernel posts one completion for
each submitted request, in an order the environment chooses: `UringEnv`
holds the choices, and `Reorder.permuteBy` turns them into a permutation of
the requests, so that every order and only those can occur.  A read fails
when the status file cannot be read, and a write fails when the file does
not accept it or when the descriptor is still the status file opened for
reading.  The ring has `PROCS_PRIO_MAX_RECORD_COUNT` entries, so
`io_uring_get_sqe` always has one.

The status buffer of a record is 256 bytes and is not terminated; the model
reads it as the C string of its first 256 bytes.  The kernel performs every
submitted write, whether or not the handler later looks at its completion:
`adjWrites` records the accepted writes when the write submission succeeds.
-/

namespace Lmkd

open Registry

/-- What `fds[i]` holds: the status file opened for the read, or the
`oom_score_adj` file opened for the write. -/
inductive BatchFd where
  | status
  | adj
deriving DecidableEq, Repr

structure Cqe where
  userData : Nat
  res : Int
deriving DecidableEq, Repr

/-- The outcomes of the io_uring calls: queue setup, the two submissions,
and the choices that order each submission's completions. -/
structure UringEnv where
  queueInitOk : Bool
  readSubmitOk : Bool
  writeSubmitOk : Bool
  readOrder : List Nat
  writeOrder : List Nat

def prepReads (env : ProcEnv) : Nat → List LmkProcprio → (Nat → Option BatchFd) → Nat →
    (Nat → Option BatchFd) × Nat
  | _, [], fds, num => (fds, num)
  | k, p :: ps, fds, num =>
    if ¬ procPrioValid p then prepReads env (k + 1) ps fds num
    else
      match env.status p.pid with
      | .openFailed => prepReads env (k + 1) ps fds num
      | _ => prepReads env (k + 1) ps (Function.update fds k (some .status)) (num + 1)

def submittedReads (fds : Nat → Option BatchFd) (n : Nat) : List Nat :=
  (List.range n).filter fun i => fds i = some .status

def readCqe (env : ProcEnv) (procs : List LmkProcprio) (i : Nat) : Cqe :=
  ⟨i, match env.status (procs.getD i default).pid with
    | .readFailed => -1
    | _ => 0⟩

def statusBuffer (env : ProcEnv) (pid : Int32) : Option (List Char) :=
  match env.status pid with
  | .contents bytes => some (cString (bytes.take 256))
  | _ => none

/-- The loop over the read completions, `num` rounds: `none` when
`io_uring_wait_cqe` finds nothing to return. -/
def readLoop (env : ProcEnv) (procs : List LmkProcprio) :
    Nat → (Nat → Option BatchFd) → List Cqe → Option ((Nat → Option BatchFd) × List Cqe)
  | 0, fds, cq => some (fds, cq)
  | k + 1, fds, cq =>
    match cq with
    | [] => none
    | cqe :: rest =>
      if cqe.res < 0 ∨ cqe.userData > procs.length then readLoop env procs k fds cq
      else
        let idx := cqe.userData
        let p := procs.getD idx default
        let fds := Function.update fds idx none
        if notThreadGroupLeader (statusBuffer env p.pid) p.pid then readLoop env procs k fds rest
        else
          match env.oomScoreAdj p.pid with
          | .openFailed => readLoop env procs k fds rest
          | _ => readLoop env procs k (Function.update fds idx (some .adj)) rest

def pendingWrites (fds : Nat → Option BatchFd) (n : Nat) : List Nat :=
  (List.range n).filter fun i => (fds i).isSome

def writeCqe (env : ProcEnv) (procs : List LmkProcprio) (fds : Nat → Option BatchFd) (i : Nat) :
    Cqe :=
  ⟨i, if fds i = some .adj ∧ env.oomScoreAdj (procs.getD i default).pid = .written then 0
    else -1⟩

def recordBatchWrites (env : ProcEnv) (procs : List LmkProcprio) (fds : Nat → Option BatchFd)
    (g : Globals) : List Nat → Globals
  | [] => g
  | i :: is =>
    let p := procs.getD i default
    recordBatchWrites env procs fds
      (if fds i = some .adj then recordAdjWrite g p.pid p.oomadj (env.oomScoreAdj p.pid) else g) is

def writeLoop (cfg : Config) (env : ProcEnv) (procs : List LmkProcprio) (credPid : Int32) :
    Nat → Globals → List Cqe → Globals
  | 0, g, _ => g
  | k + 1, g, cq =>
    match cq with
    | [] => g
    | cqe :: rest =>
      if cqe.res < 0 ∨ cqe.userData > procs.length then writeLoop cfg env procs credPid k g cq
      else
        let p := procs.getD cqe.userData default
        if cfg.useInkernelInterface then
          writeLoop cfg env procs credPid k
            { g with taskOps := .store p.pid (procGetName env p.pid procfsPathMax) :: g.taskOps } rest
        else writeLoop cfg env procs credPid k (registerOomAdjProc cfg env g p credPid) rest

def handleIoUringProcsPrio (cfg : Config) (env : ProcEnv) (uenv : UringEnv) (g : Globals)
    (procs : List LmkProcprio) (credPid : Int32) : Globals :=
  if !uenv.queueInitOk then g
  else
    let reads := prepReads env 0 procs (fun _ => none) 0
    if reads.2 = 0 ∨ !uenv.readSubmitOk then g
    else
      let readCq := (Reorder.permuteBy uenv.readOrder (submittedReads reads.1 procs.length)).map
        (readCqe env procs)
      match readLoop env procs reads.2 reads.1 readCq with
      | none => g
      | some (fds, leftover) =>
        let writes := pendingWrites fds procs.length
        if writes.length = 0 ∨ !uenv.writeSubmitOk then g
        else
          let g := recordBatchWrites env procs fds g writes
          writeLoop cfg env procs credPid writes.length g
            (leftover ++ (Reorder.permuteBy uenv.writeOrder writes).map (writeCqe env procs fds))

/-- The fallback of `cmd_procs_prio`: `apply_proc_prio` on each record in
packet order. -/
def procsPrioSequential (cfg : Config) (env : ProcEnv) (credPid : Int32) :
    Globals → List LmkProcprio → Globals
  | g, [] => g
  | g, p :: ps => procsPrioSequential cfg env credPid (applyProcPrio cfg env g p credPid) ps

def cmdProcsPrio (cfg : Config) (env : ProcEnv) (uenv : UringEnv) (g : Globals)
    (procs? : Option (List LmkProcprio)) (credPid : Int32) : Globals :=
  match procs? with
  | none => g
  | some procs =>
    if cfg.isIoUringSupported then handleIoUringProcsPrio cfg env uenv g procs credPid
    else procsPrioSequential cfg env credPid g procs

/-! ## The batched path keeps the registry consistent

Every descriptor in `fds`, and every completion that reports success, belongs
to a record that passed `procPrioValid`: the status reads are submitted for
valid records only, and a write completes only on a descriptor the read loop
opened.  So each record the write loop registers has a valid score. -/

def RecordValid (env : ProcEnv) (procs : List LmkProcprio) (i : Nat) : Prop :=
  ∃ p, procs[i]? = some p ∧ procPrioValid p ∧ env.status p.pid ≠ .openFailed

theorem RecordValid.getD {env : ProcEnv} {procs : List LmkProcprio} {i : Nat} (h : RecordValid env procs i) :
    procPrioValid (procs.getD i default) ∧ env.status (procs.getD i default).pid ≠ .openFailed := by
  obtain ⟨p, hp, hv⟩ := h
  rw [List.getD_eq_getElem?_getD, hp, Option.getD_some]
  exact hv

def FdsValid (env : ProcEnv) (procs : List LmkProcprio) (fds : Nat → Option BatchFd) : Prop :=
  ∀ i, (fds i).isSome → RecordValid env procs i

def CqValid (env : ProcEnv) (procs : List LmkProcprio) (cq : List Cqe) : Prop :=
  ∀ c ∈ cq, 0 ≤ c.res → RecordValid env procs c.userData

theorem prepReads_fdsValid (env : ProcEnv) (procs : List LmkProcprio) :
    ∀ (k : Nat) (ps : List LmkProcprio) (fds : Nat → Option BatchFd) (num : Nat),
      ps = procs.drop k → FdsValid env procs fds → FdsValid env procs (prepReads env k ps fds num).1
  | _, [], _, _, _, hf => hf
  | k, p :: ps, fds, num, hps, hf => by
    have hdrop : ps = procs.drop (k + 1) := by
      rw [← List.drop_drop, ← hps, List.drop_one, List.tail_cons]
    have hk : procs[k]? = some p := by
      rw [← List.head?_drop, ← hps, List.head?_cons]
    simp only [prepReads]
    split
    · exact prepReads_fdsValid env procs (k + 1) ps fds num hdrop hf
    · rename_i hv
      split
      · exact prepReads_fdsValid env procs (k + 1) ps fds num hdrop hf
      · rename_i hst
        apply prepReads_fdsValid env procs (k + 1) ps _ _ hdrop
        intro i hi
        by_cases hik : i = k
        · subst hik
          exact ⟨p, hk, not_not.mp hv, hst⟩
        · rw [Function.update_of_ne hik] at hi
          exact hf i hi

theorem fdsValid_none (env : ProcEnv) (procs : List LmkProcprio) : FdsValid env procs fun _ => none := by
  intro i hi
  simp at hi

theorem readCq_valid (env : ProcEnv) (procs : List LmkProcprio) {fds : Nat → Option BatchFd}
    (hf : FdsValid env procs fds) (choices : List Nat) :
    ∀ c ∈ (Reorder.permuteBy choices (submittedReads fds procs.length)).map (readCqe env procs),
      RecordValid env procs c.userData := by
  intro c hc
  obtain ⟨i, hi, rfl⟩ := List.mem_map.mp hc
  have hsub : i ∈ submittedReads fds procs.length := (Reorder.permuteBy_perm _ _).subset hi
  simp only [submittedReads, List.mem_filter, decide_eq_true_eq] at hsub
  exact hf i (by simp [hsub.2])

theorem readLoop_valid (env : ProcEnv) (procs : List LmkProcprio) :
    ∀ (k : Nat) (fds : Nat → Option BatchFd) (cq : List Cqe) {fds' : Nat → Option BatchFd}
      {leftover : List Cqe}, readLoop env procs k fds cq = some (fds', leftover) →
      FdsValid env procs fds → (∀ c ∈ cq, RecordValid env procs c.userData) →
      FdsValid env procs fds' ∧ ∀ c ∈ leftover, RecordValid env procs c.userData
  | 0, fds, cq, fds', leftover, h, hf, hc => by
    simp only [readLoop, Option.some_inj, Prod.mk.injEq] at h
    obtain ⟨rfl, rfl⟩ := h
    exact ⟨hf, hc⟩
  | k + 1, fds, cq, fds', leftover, h, hf, hc => by
    simp only [readLoop] at h
    split at h
    · cases h
    · rename_i cqe rest
      have hcqe := hc cqe (by simp)
      have hrest : ∀ c ∈ rest, RecordValid env procs c.userData := fun c hc' => hc c (by simp [hc'])
      -- clearing the entry just read, then opening its `oom_score_adj` file, keeps `fds` valid
      have hclear : FdsValid env procs (Function.update fds cqe.userData none) := by
        intro i hi
        by_cases hik : i = cqe.userData
        · subst hik
          simp at hi
        · rw [Function.update_of_ne hik] at hi
          exact hf i hi
      have hopen : FdsValid env procs
          (Function.update (Function.update fds cqe.userData none) cqe.userData (some .adj)) := by
        intro i hi
        by_cases hik : i = cqe.userData
        · subst hik
          exact hcqe
        · rw [Function.update_of_ne hik] at hi
          exact hclear i hi
      split at h
      · exact readLoop_valid env procs k fds _ h hf hc
      · split at h
        · exact readLoop_valid env procs k _ rest h hclear hrest
        · split at h
          · exact readLoop_valid env procs k _ rest h hclear hrest
          · exact readLoop_valid env procs k _ rest h hopen hrest

theorem writeCq_valid (env : ProcEnv) (procs : List LmkProcprio) {fds : Nat → Option BatchFd}
    (hf : FdsValid env procs fds) (is : List Nat) :
    CqValid env procs (is.map (writeCqe env procs fds)) := by
  intro c hc hres
  obtain ⟨i, _, rfl⟩ := List.mem_map.mp hc
  simp only [writeCqe] at hres ⊢
  split at hres
  · rename_i hadj
    exact hf i (by simp [hadj.1])
  · simp at hres

@[simp] theorem recordBatchWrites_reg (env : ProcEnv) (procs : List LmkProcprio)
    (fds : Nat → Option BatchFd) : ∀ (g : Globals) (is : List Nat),
      (recordBatchWrites env procs fds g is).reg = g.reg
  | _, [] => rfl
  | g, i :: is => by
    rw [recordBatchWrites, recordBatchWrites_reg env procs fds _ is]
    split <;> simp

section Preserves

/-! ### What every registration keeps, the batch keeps

A property of the registry that `register_oom_adj_proc` keeps for every
valid score and every pid whose /proc files opened holds after either path
of `cmd_procs_prio`. -/

variable (P : Registry → Prop) {cfg : Config} {env : ProcEnv} {credPid : Int32}
  (hreg : ∀ (g : Globals) (p : LmkProcprio), ValidAdj p.oomadj → ProcSeen env p.pid → P g.reg →
    P (registerOomAdjProc cfg env g p credPid).reg)
include hreg

theorem writeLoop_preserves (procs : List LmkProcprio) :
    ∀ (k : Nat) (g : Globals) (cq : List Cqe), P g.reg → CqValid env procs cq →
      P (writeLoop cfg env procs credPid k g cq).reg
  | 0, _, _, h, _ => h
  | k + 1, g, cq, h, hc => by
    simp only [writeLoop]
    split
    · exact h
    · rename_i cqe rest
      have hrest : CqValid env procs rest := fun c hc' => hc c (by simp [hc'])
      split
      · exact writeLoop_preserves procs k g _ h hc
      · rename_i hok
        have hres : 0 ≤ cqe.res := by omega
        obtain ⟨hvalid, hst⟩ := (hc cqe (by simp) hres).getD
        split
        · exact writeLoop_preserves procs k _ rest h hrest
        · exact writeLoop_preserves procs k _ rest (hreg g _ hvalid.1 (.inr hst) h) hrest

theorem handleIoUringProcsPrio_preserves (uenv : UringEnv) (procs : List LmkProcprio)
    {g : Globals} (h : P g.reg) : P (handleIoUringProcsPrio cfg env uenv g procs credPid).reg := by
  have hreads := prepReads_fdsValid env procs 0 procs (fun _ => none) 0 rfl (fdsValid_none env procs)
  simp only [handleIoUringProcsPrio]
  split
  · exact h
  · split
    · exact h
    · split
      · exact h
      · rename_i fds leftover hloop
        obtain ⟨hfds, hleft⟩ := readLoop_valid env procs _ _ _ hloop hreads
          (readCq_valid env procs hreads uenv.readOrder)
        split
        · exact h
        · apply writeLoop_preserves P hreg procs _ _ _ (by simpa using h)
          intro c hc hres
          rcases List.mem_append.mp hc with hc | hc
          · exact hleft c hc
          · exact writeCq_valid env procs hfds _ c hc hres

theorem procsPrioSequential_preserves :
    ∀ (g : Globals) (procs : List LmkProcprio), P g.reg →
      P (procsPrioSequential cfg env credPid g procs).reg
  | _, [], h => h
  | _, p :: ps, h =>
    procsPrioSequential_preserves _ ps (applyProcPrio_preserves P hreg h p)

theorem cmdProcsPrio_preserves (uenv : UringEnv) (procs? : Option (List LmkProcprio))
    {g : Globals} (h : P g.reg) : P (cmdProcsPrio cfg env uenv g procs? credPid).reg := by
  unfold cmdProcsPrio
  split
  · exact h
  · split
    · exact handleIoUringProcsPrio_preserves P hreg uenv _ h
    · exact procsPrioSequential_preserves P hreg g _ h

end Preserves

theorem cmdProcsPrio_inv {g : Globals} (hi : g.reg.Inv) (cfg : Config) (env : ProcEnv)
    (uenv : UringEnv) (procs? : Option (List LmkProcprio)) (credPid : Int32) :
    (cmdProcsPrio cfg env uenv g procs? credPid).reg.Inv :=
  cmdProcsPrio_preserves Registry.Inv (fun _ _ hadj _ hi => registerOomAdjProc_inv hi cfg env hadj credPid)
    uenv procs? hi

theorem cmdProcsPrio_keeps {g : Globals} {a : Nat} {credPid : Int32} (hi : g.reg.Inv)
    (hf : ForeignRecord g.reg a credPid) (cfg : Config) (env : ProcEnv) (uenv : UringEnv)
    (procs? : Option (List LmkProcprio)) :
    Keeps g.reg (cmdProcsPrio cfg env uenv g procs? credPid).reg a := by
  have h := cmdProcsPrio_preserves (fun r => r.Inv ∧ Keeps g.reg r a)
    (fun g' p hadj _ h' => ⟨registerOomAdjProc_inv h'.1 cfg env hadj credPid,
      h'.2.trans (registerOomAdjProc_keeps h'.1 (hf.of_keeps h'.2) cfg env p)⟩)
    uenv procs? ⟨hi, Keeps.refl g.reg a⟩
  exact h.2

end Lmkd
