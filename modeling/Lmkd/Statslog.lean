import Lmkd.Proc
import Lmkd.Lib.HashChains
import Mathlib.Data.List.TakeWhile

/-!
# The task-name table of `statslog.cpp`

`statslog.cpp` keeps its own `pidhash` of `struct proc { pid; taskname;
pidhash_next }`, allocated by the first `proc_insert`, to name the process in
a kill report.  A chain is the list of entries its `pidhash_next` links visit;
an entry is its pid and the C string in its `taskname`.  `malloc` and
`calloc` are taken to succeed.

`stats_store_taskname` is a lookup, a compare, a removal and a re-insert at the
head of the chain.  Over every sequence of stores, removals and purges, the
table refines the map that stores, removes and clears names, read through
`stats_get_task_name` with the name cut to `MAX_TASKNAME_LEN - 1` characters
(`TaskTableRefines`, `taskOpsRun_refines`).
-/

namespace Lmkd

open HashChains

def maxTasknameLen : Nat := 128

abbrev TaskTable := Option (Buckets Int32 (List Char))

namespace Statslog

def pidLookup (pidhash : TaskTable) (pid : Int32) : Option (List Char) :=
  match pidhash with
  | none => none
  | some t => lookup pidHashfn t pid

def procInsert (pidhash : TaskTable) (pid : Int32) (taskname : List Char) : TaskTable :=
  some (pushFront pidHashfn (pidhash.getD empty) pid taskname)

end Statslog

/-- What `strncpy(procp->taskname, taskname, MAX_TASKNAME_LEN - 1)` and the
closing NUL leave in the entry. -/
def storedTaskname (taskname : List Char) : List Char :=
  (cString taskname).take (maxTasknameLen - 1)

def statsRemoveTaskname (enableStatsLog : Bool) (pidhash : TaskTable) (pid : Int32) : TaskTable :=
  if !enableStatsLog then pidhash
  else
    match pidhash with
    | none => none
    | some t => some (erase pidHashfn t pid)

def statsStoreTaskname (enableStatsLog : Bool) (pidhash : TaskTable) (pid : Int32)
    (taskname : Option (List Char)) : TaskTable :=
  match enableStatsLog, taskname with
  | false, _ => pidhash
  | true, none => pidhash
  | true, some name =>
    match Statslog.pidLookup pidhash pid with
    | some old =>
      -- `strcmp(procp->taskname, taskname) == 0`
      if cString old = cString name then pidhash
      else Statslog.procInsert (statsRemoveTaskname true pidhash pid) pid (storedTaskname name)
    | none => Statslog.procInsert pidhash pid (storedTaskname name)

def statsPurgeTasknames (enableStatsLog : Bool) (pidhash : TaskTable) : TaskTable :=
  if !enableStatsLog then pidhash else pidhash.map fun _ => empty

def statsGetTaskName (pidhash : TaskTable) (pid : Int32) : Option (List Char) :=
  Statslog.pidLookup pidhash pid

def taskOpApply (enableStatsLog : Bool) (pidhash : TaskTable) : TaskOp → TaskTable
  | .store pid taskname => statsStoreTaskname enableStatsLog pidhash pid taskname
  | .remove pid => statsRemoveTaskname enableStatsLog pidhash pid
  | .purge => statsPurgeTasknames enableStatsLog pidhash

def taskOpsRun (enableStatsLog : Bool) (ops : List TaskOp) (pidhash : TaskTable) : TaskTable :=
  ops.foldl (taskOpApply enableStatsLog) pidhash

/-! ## The map the table stands for -/

def taskNamesApply (m : Int32 → Option (List Char)) : TaskOp → Int32 → Option (List Char)
  | .store pid (some name) => Function.update m pid (some name)
  | .store _ none => m
  | .remove pid => Function.update m pid none
  | .purge => fun _ => none

def taskNamesRun (ops : List TaskOp) (m : Int32 → Option (List Char)) : Int32 → Option (List Char) :=
  ops.foldl taskNamesApply m

/-- The table is consistent and `stats_get_task_name` reads `m` through the
truncation of `stats_store_taskname`. -/
structure TaskTableRefines (pidhash : TaskTable) (m : Int32 → Option (List Char)) : Prop where
  wf : ∀ t, pidhash = some t → WellFormed pidHashfn t
  get : ∀ pid, statsGetTaskName pidhash pid = (m pid).map storedTaskname

/-! ## Stored names -/

theorem cString_storedTaskname (name : List Char) :
    cString (storedTaskname name) = storedTaskname name := by
  rw [cString, List.takeWhile_eq_self_iff]
  intro c hc
  have hc' := List.mem_takeWhile_imp (List.mem_of_mem_take hc)
  simpa using hc'

theorem length_storedTaskname_le (name : List Char) :
    (storedTaskname name).length ≤ maxTasknameLen - 1 := by
  rw [storedTaskname, List.length_take]
  exact Nat.min_le_left _ _

theorem storedTaskname_of_cString_eq {old name : List Char}
    (h : cString (storedTaskname old) = cString name) :
    storedTaskname name = storedTaskname old := by
  rw [cString_storedTaskname] at h
  rw [storedTaskname, ← h, List.take_of_length_le (length_storedTaskname_le old)]

/-! ## The operations against the map -/

theorem statsRemoveTaskname_some (t : Buckets Int32 (List Char)) (pid : Int32) :
    statsRemoveTaskname true (some t) pid = some (erase pidHashfn t pid) := rfl

section Refines

variable {pidhash : TaskTable} {m : Int32 → Option (List Char)}

theorem TaskTableRefines.lookup_eq (h : TaskTableRefines pidhash m) (pid : Int32) :
    Statslog.pidLookup pidhash pid = (m pid).map storedTaskname :=
  h.get pid

theorem TaskTableRefines.eq_none_of_none (h : TaskTableRefines none m) (pid : Int32) :
    m pid = none := by
  have hget := h.get pid
  simp only [statsGetTaskName, Statslog.pidLookup] at hget
  exact Option.map_eq_none_iff.mp hget.symm

theorem wf_getD (h : TaskTableRefines pidhash m) : WellFormed pidHashfn (pidhash.getD empty) := by
  cases pidhash with
  | none => exact wellFormed_empty
  | some t => exact h.wf t rfl

theorem TaskTableRefines.procInsert (h : TaskTableRefines pidhash m) {pid : Int32}
    (hpid : Statslog.pidLookup pidhash pid = none) (name : List Char) :
    TaskTableRefines (Statslog.procInsert pidhash pid (storedTaskname name))
      (Function.update m pid (some name)) := by
  have hnone : lookup pidHashfn (pidhash.getD empty) pid = none := by
    cases pidhash with
    | none => rfl
    | some t => exact hpid
  refine ⟨fun t ht => ?_, fun pid' => ?_⟩
  · cases ht
    exact (wf_getD h).pushFront hnone _
  · rw [statsGetTaskName, Statslog.procInsert, Statslog.pidLookup, lookup_pushFront,
      Function.update_apply]
    split
    · rfl
    · rw [← h.get pid']
      cases pidhash <;> rfl

theorem TaskTableRefines.remove (h : TaskTableRefines pidhash m) (pid : Int32) :
    TaskTableRefines (statsRemoveTaskname true pidhash pid) (Function.update m pid none) := by
  cases pidhash with
  | none =>
    refine ⟨(fun _ ht => nomatch ht), fun pid' => ?_⟩
    rw [Function.update_apply]
    split
    · rfl
    · rw [h.eq_none_of_none pid']
      rfl
  | some t =>
    have hw := h.wf t rfl
    refine ⟨fun t' ht => ?_, fun pid' => ?_⟩
    · cases ht
      exact hw.erase pid
    · rw [statsRemoveTaskname_some, statsGetTaskName, Statslog.pidLookup, lookup_erase hw,
        Function.update_apply]
      split
      · rfl
      · exact h.get pid'

theorem TaskTableRefines.purge (h : TaskTableRefines pidhash m) :
    TaskTableRefines (statsPurgeTasknames true pidhash) fun _ => none := by
  refine ⟨fun t ht => ?_, fun pid => ?_⟩
  · cases pidhash <;> cases ht
    exact wellFormed_empty
  · cases pidhash <;> rfl

theorem TaskTableRefines.store (h : TaskTableRefines pidhash m) (pid : Int32) (name : List Char) :
    TaskTableRefines (statsStoreTaskname true pidhash pid (some name))
      (Function.update m pid (some name)) := by
  unfold statsStoreTaskname
  cases hold : Statslog.pidLookup pidhash pid with
  | none => exact h.procInsert hold name
  | some old =>
    obtain ⟨prev, hprev, rfl⟩ : ∃ prev, m pid = some prev ∧ storedTaskname prev = old := by
      rw [h.lookup_eq] at hold
      exact Option.map_eq_some_iff.mp hold
    simp only
    split
    · -- the same name: nothing changes, and the map's new name stores the same
      rename_i hsame
      refine ⟨h.wf, fun pid' => ?_⟩
      rw [h.get pid', Function.update_apply]
      split
      · rename_i hpid
        rw [hpid, hprev, Option.map_some, Option.map_some, storedTaskname_of_cString_eq hsame]
      · rfl
    · -- remove, then insert the new name
      have hremoved := h.remove pid
      have hgone : Statslog.pidLookup (statsRemoveTaskname true pidhash pid) pid = none := by
        rw [hremoved.lookup_eq, Function.update_self]
        rfl
      have hins := hremoved.procInsert hgone name
      rwa [Function.update_idem] at hins

theorem TaskTableRefines.apply (h : TaskTableRefines pidhash m) :
    ∀ op, TaskTableRefines (taskOpApply true pidhash op) (taskNamesApply m op)
  | .store pid (some name) => h.store pid name
  | .store _ none => h
  | .remove pid => h.remove pid
  | .purge => h.purge

theorem TaskTableRefines.run (h : TaskTableRefines pidhash m) (ops : List TaskOp) :
    TaskTableRefines (taskOpsRun true ops pidhash) (taskNamesRun ops m) := by
  induction ops generalizing pidhash m with
  | nil => exact h
  | cons op ops ih => exact ih (h.apply op)

end Refines

theorem taskTableRefines_initial : TaskTableRefines none fun _ => none :=
  ⟨(fun _ ht => nomatch ht), fun _ => rfl⟩

/-- From the unallocated table and with `enable_stats_log` set, over every
sequence of calls: `stats_get_task_name(pid)` is `NULL` exactly when the map
that stores, removes and clears names has none for `pid`, and otherwise that
name cut to `MAX_TASKNAME_LEN - 1` characters; and in all the chains together
no pid has two entries. -/
theorem taskOpsRun_refines (ops : List TaskOp) :
    (∀ pid, statsGetTaskName (taskOpsRun true ops none) pid =
        (taskNamesRun ops (fun _ => none) pid).map fun name =>
          (cString name).take (maxTasknameLen - 1)) ∧
      ∀ pid, ((List.range pidhashSz).flatMap ((taskOpsRun true ops none).getD empty)).countP
        (fun e => e.1 = pid) ≤ 1 := by
  have h := taskTableRefines_initial.run ops
  exact ⟨h.get, fun pid => (wf_getD h).countP_range_le_one pid pidhashSz⟩

example : statsGetTaskName (taskOpsRun true
    [.store 7 (some "com.android.chrome".toList), .store 7 (some "system_server".toList)] none) 7 =
      some "system_server".toList := by
  decide

end Lmkd
