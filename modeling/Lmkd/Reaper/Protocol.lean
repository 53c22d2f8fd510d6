import Lmkd.Reaper
import Lmkd.Lib.Reorder

/-!
# The reaper's request protocol

Every duplicate `async_kill` made is in exactly one place: on the queue,
held open by one thread, or closed (`Inv.owned`).  Each was taken off the
queue at most once (`Inv.taken`).  `active_requests_` counts the requests on
the queue and those the threads hold until `request_complete`
(`Inv.active`), and the admission check of `async_kill` keeps it at most
`thread_cnt_` (`Inv.active_le`).

One lemma per kind of step shows it keeps the invariant, so every state of
every interleaving satisfies it (`reachable_inv`).
-/

namespace Lmkd

namespace ReaperPc

def openFd : ReaperPc → List Nat
  | .dequeue | .complete _ => []
  | .signal r | .release r | .notify r | .close r => [r.dupFd]

/-- The request a thread holds until `request_complete`. -/
def heldFd : ReaperPc → List Nat
  | .dequeue => []
  | .signal r | .release r | .notify r | .close r | .complete r => [r.dupFd]

end ReaperPc

namespace Reaper

variable {n : Nat} {s s' : Reaper n}

def queuedFds (s : Reaper n) : List Nat := s.queue.map ReapRequest.dupFd

def openFds (s : Reaper n) : List Nat := (List.finRange n).flatMap fun t => (s.threads t).openFd

def heldFds (s : Reaper n) : List Nat := (List.finRange n).flatMap fun t => (s.threads t).heldFd

structure Inv (s : Reaper n) : Prop where
  active : s.activeRequests = s.queue.length + s.heldFds.length
  active_le : s.activeRequests ≤ n
  taken : (s.queuedFds ++ s.dequeued).Perm (List.range s.dups)
  owned : (s.queuedFds ++ s.openFds ++ s.closed).Perm (List.range s.dups)

/-! ## The thread table -/

theorem openFds_setThread (s : Reaper n) (t : Fin n) (pc : ReaperPc) :
    ((s.setThread t pc).openFds ++ (s.threads t).openFd).Perm (s.openFds ++ pc.openFd) :=
  Reorder.flatMap_update_perm s.threads ReaperPc.openFd pc (List.nodup_finRange n) (List.mem_finRange t)

theorem heldFds_setThread (s : Reaper n) (t : Fin n) (pc : ReaperPc) :
    ((s.setThread t pc).heldFds ++ (s.threads t).heldFd).Perm (s.heldFds ++ pc.heldFd) :=
  Reorder.flatMap_update_perm s.threads ReaperPc.heldFd pc (List.nodup_finRange n) (List.mem_finRange t)

theorem length_heldFds_setThread (s : Reaper n) (t : Fin n) (pc : ReaperPc) :
    (s.setThread t pc).heldFds.length + (s.threads t).heldFd.length = s.heldFds.length + pc.heldFd.length := by
  have h := (heldFds_setThread s t pc).length_eq
  rwa [List.length_append, List.length_append] at h

theorem openFds_eq_nil_of_idle (hidle : ∀ t, s.threads t = .dequeue) : s.openFds = [] :=
  List.flatMap_eq_nil_iff.mpr fun t _ => by rw [hidle t, ReaperPc.openFd]

/-! ## What each step does -/

theorem asyncKill_snd_iff (s : Reaper n) (target : TargetProc) :
    (s.asyncKill target).2 = true ↔ target.pidfd ≠ -1 ∧ 0 < n ∧ s.activeRequests < n := by
  unfold asyncKill
  split_ifs <;> simp_all
  omega

theorem asyncKill_fst (s : Reaper n) (target : TargetProc) :
    (s.asyncKill target).1 = if (s.asyncKill target).2 then s.enqueue target else s := by
  unfold asyncKill
  split_ifs <;> simp_all

theorem kill_eq (s : Reaper n) (target : TargetProc) (synchronous : Bool) (result : Int32) :
    s.kill target synchronous result =
      if 0 ≤ target.pidfd ∧ synchronous = false ∧ (s.asyncKill target).2 = true then
        (s.enqueue target, 0)
      else (s.signalDirect target.pid, result) := by
  have hres : (if result ≠ 0 then result else 0) = result := by
    by_cases h : result = 0 <;> simp [h]
  by_cases hneg : target.pidfd < 0
  · have hnot : ¬ 0 ≤ target.pidfd := Int32.not_le.mpr hneg
    simp [kill, hneg, hnot]
  · have hpos : 0 ≤ target.pidfd := Int32.not_lt.mp hneg
    cases synchronous with
    | false =>
      by_cases ha : (s.asyncKill target).2 = true
      · simp [kill, hneg, hpos, ha, asyncKill_fst s target]
      · simp [kill, hneg, ha, hres]
    | true => simp [kill, hneg, hres]

theorem kill_fst_cases (s : Reaper n) (target : TargetProc) (synchronous : Bool) (result : Int32) :
    (s.kill target synchronous result).1 = s.signalDirect target.pid ∨
      (s.activeRequests < n ∧ (s.kill target synchronous result).1 = s.enqueue target) := by
  rw [kill_eq]
  split_ifs with h
  · exact Or.inr ⟨((asyncKill_snd_iff s target).mp h.2.2).2.2, rfl⟩
  · exact Or.inl rfl

theorem dequeueRequest_spec {t : Fin n} (h : s.dequeueRequest t = some s') :
    ∃ r rest, s.threads t = .dequeue ∧ s.queue = r :: rest ∧
      s' = { s.setThread t (.signal r) with queue := rest, dequeued := r.dupFd :: s.dequeued } := by
  unfold dequeueRequest at h
  split at h
  · rename_i r rest hpc hq
    exact ⟨r, rest, hpc, hq, (Option.some_inj.mp h).symm⟩
  · cases h

theorem sendSignal_spec {t : Fin n} {ok : Bool} (h : s.sendSignal t ok = some s') :
    ∃ r, s.threads t = .signal r ∧ s' = s.setThread t (if ok then .release r else .notify r) := by
  unfold sendSignal at h
  split at h
  · rename_i r hpc
    exact ⟨r, hpc, (Option.some_inj.mp h).symm⟩
  · cases h

theorem processMrelease_spec {t : Fin n} (h : s.processMrelease t = some s') :
    ∃ r, s.threads t = .release r ∧ s' = s.setThread t (.close r) := by
  unfold processMrelease at h
  split at h
  · rename_i r hpc
    exact ⟨r, hpc, (Option.some_inj.mp h).symm⟩
  · cases h

theorem notifyKillFailure_spec {t : Fin n} {written : Bool} (h : s.notifyKillFailure t written = some s') :
    ∃ r pids, s.threads t = .notify r ∧ s' = { s.setThread t (.close r) with commPipe := pids } := by
  unfold notifyKillFailure at h
  split at h
  · rename_i r hpc
    exact ⟨r, _, hpc, (Option.some_inj.mp h).symm⟩
  · cases h

theorem closeTarget_spec {t : Fin n} (h : s.closeTarget t = some s') :
    ∃ r, s.threads t = .close r ∧
      s' = { s.setThread t (.complete r) with closed := r.dupFd :: s.closed } := by
  unfold closeTarget at h
  split at h
  · rename_i r hpc
    exact ⟨r, hpc, (Option.some_inj.mp h).symm⟩
  · cases h

theorem requestComplete_spec {t : Fin n} (h : s.requestComplete t = some s') :
    ∃ r, s.threads t = .complete r ∧
      s' = { s.setThread t .dequeue with activeRequests := s.activeRequests - 1 } := by
  unfold requestComplete at h
  split at h
  · rename_i r hpc
    exact ⟨r, hpc, (Option.some_inj.mp h).symm⟩
  · cases h

/-! ## The invariant, step by step -/

theorem initial_inv : Inv (initial : Reaper n) := by
  have hheld : (initial : Reaper n).heldFds = [] :=
    List.flatMap_eq_nil_iff.mpr fun _ _ => rfl
  have hopen : (initial : Reaper n).openFds = [] :=
    List.flatMap_eq_nil_iff.mpr fun _ _ => rfl
  refine ⟨?_, ?_, ?_, ?_⟩
  · rw [hheld]
    rfl
  · show (0 : Int) ≤ n
    omega
  · exact List.Perm.refl _
  · rw [hopen]
    exact List.Perm.refl _

theorem Inv.signalDirect (h : Inv s) (pid : Int32) : Inv (s.signalDirect pid) :=
  ⟨h.active, h.active_le, h.taken, h.owned⟩

theorem Inv.commPipe (h : Inv s) (pids : List Int32) : Inv { s with commPipe := pids } :=
  ⟨h.active, h.active_le, h.taken, h.owned⟩

theorem Inv.enqueue (h : Inv s) (hlt : s.activeRequests < n) (target : TargetProc) :
    Inv (s.enqueue target) := by
  have hfresh : (s.dups :: (s.queuedFds ++ s.dequeued)).Perm (List.range (s.dups + 1)) := by
    rw [List.range_succ]
    exact (h.taken.cons _).trans (List.perm_append_singleton _ _).symm
  have hfresh' : (s.dups :: (s.queuedFds ++ s.openFds ++ s.closed)).Perm (List.range (s.dups + 1)) := by
    rw [List.range_succ]
    exact (h.owned.cons _).trans (List.perm_append_singleton _ _).symm
  refine ⟨?_, ?_, hfresh, hfresh'⟩
  · show s.activeRequests + 1 = (s.queue.length + 1 : Nat) + s.heldFds.length
    have := h.active
    omega
  · show s.activeRequests + 1 ≤ n
    omega

theorem Inv.setThread (h : Inv s) {t : Fin n} {pc : ReaperPc}
    (ho : pc.openFd = (s.threads t).openFd) (hh : pc.heldFd = (s.threads t).heldFd) :
    Inv (s.setThread t pc) := by
  have hopen : (s.setThread t pc).openFds.Perm s.openFds := by
    have := openFds_setThread s t pc
    rwa [ho, List.perm_append_right_iff] at this
  have hheld := length_heldFds_setThread s t pc
  rw [hh] at hheld
  refine ⟨?_, h.active_le, h.taken, ?_⟩
  · show s.activeRequests = s.queue.length + (s.setThread t pc).heldFds.length
    have := h.active
    omega
  · exact ((hopen.append_left _).append_right _).trans h.owned

theorem Inv.dequeue (h : Inv s) {t : Fin n} {r : ReapRequest} {rest : List ReapRequest}
    (hpc : s.threads t = .dequeue) (hq : s.queue = r :: rest) :
    Inv { s.setThread t (.signal r) with queue := rest, dequeued := r.dupFd :: s.dequeued } := by
  have hopen := openFds_setThread s t (.signal r)
  have hheld := length_heldFds_setThread s t (.signal r)
  rw [hpc] at hopen hheld
  have hqd : s.queuedFds = r.dupFd :: rest.map ReapRequest.dupFd := by
    rw [queuedFds, hq, List.map_cons]
  refine ⟨?_, h.active_le, ?_, ?_⟩
  · show s.activeRequests = rest.length + (s.setThread t (.signal r)).heldFds.length
    have := h.active
    simp only [hq, List.length_cons, ReaperPc.heldFd, List.length_nil] at this hheld
    omega
  · show (rest.map ReapRequest.dupFd ++ r.dupFd :: s.dequeued).Perm (List.range s.dups)
    have := h.taken
    rw [hqd] at this
    exact List.perm_middle.trans this
  · show (rest.map ReapRequest.dupFd ++ (s.setThread t (.signal r)).openFds ++ s.closed).Perm
      (List.range s.dups)
    have howned := h.owned
    rw [hqd] at howned
    refine List.perm_iff_count.mpr fun d => ?_
    have h₁ := howned.count_eq d
    have h₂ := hopen.count_eq d
    simp only [List.count_append, List.count_cons, ReaperPc.openFd, List.count_nil] at h₁ h₂ ⊢
    omega

theorem Inv.close (h : Inv s) {t : Fin n} {r : ReapRequest} (hpc : s.threads t = .close r) :
    Inv { s.setThread t (.complete r) with closed := r.dupFd :: s.closed } := by
  have hopen := openFds_setThread s t (.complete r)
  have hheld := length_heldFds_setThread s t (.complete r)
  rw [hpc] at hopen hheld
  refine ⟨?_, h.active_le, h.taken, ?_⟩
  · show s.activeRequests = s.queue.length + (s.setThread t (.complete r)).heldFds.length
    have := h.active
    simp only [ReaperPc.heldFd, List.length_singleton] at hheld
    omega
  · show (s.queuedFds ++ (s.setThread t (.complete r)).openFds ++ r.dupFd :: s.closed).Perm
      (List.range s.dups)
    refine List.perm_iff_count.mpr fun d => ?_
    have h₁ := h.owned.count_eq d
    have h₂ := hopen.count_eq d
    simp only [List.count_append, List.count_cons, ReaperPc.openFd, List.count_nil] at h₁ h₂ ⊢
    omega

theorem Inv.complete (h : Inv s) {t : Fin n} {r : ReapRequest} (hpc : s.threads t = .complete r) :
    Inv { s.setThread t .dequeue with activeRequests := s.activeRequests - 1 } := by
  have hopen := openFds_setThread s t .dequeue
  have hheld := length_heldFds_setThread s t .dequeue
  rw [hpc] at hopen hheld
  simp only [ReaperPc.openFd, List.append_nil] at hopen
  refine ⟨?_, ?_, h.taken, ((hopen.append_left _).append_right _).trans h.owned⟩
  · show s.activeRequests - 1 = s.queue.length + (s.setThread t .dequeue).heldFds.length
    have := h.active
    simp only [ReaperPc.heldFd, List.length_singleton, List.length_nil] at hheld
    omega
  · show s.activeRequests - 1 ≤ n
    have := h.active_le
    omega

theorem step_inv {e : ReaperEvent n} (h : Inv s) (hs : s.step e = some s') : Inv s' := by
  cases e with
  | kill target synchronous result =>
    cases Option.some_inj.mp hs
    rcases kill_fst_cases s target synchronous result with heq | ⟨hlt, heq⟩
    · rw [heq]
      exact h.signalDirect _
    · rw [heq]
      exact h.enqueue hlt target
  | dequeue t =>
    obtain ⟨r, rest, hpc, hq, rfl⟩ := dequeueRequest_spec hs
    exact h.dequeue hpc hq
  | signal t ok =>
    obtain ⟨r, hpc, rfl⟩ := sendSignal_spec hs
    cases ok <;> exact h.setThread (by simp [hpc, ReaperPc.openFd]) (by simp [hpc, ReaperPc.heldFd])
  | release t =>
    obtain ⟨r, hpc, rfl⟩ := processMrelease_spec hs
    exact h.setThread (by simp [hpc, ReaperPc.openFd]) (by simp [hpc, ReaperPc.heldFd])
  | notify t written =>
    obtain ⟨r, pids, hpc, rfl⟩ := notifyKillFailure_spec hs
    exact (h.setThread (by simp [hpc, ReaperPc.openFd]) (by simp [hpc, ReaperPc.heldFd])).commPipe pids
  | close t =>
    obtain ⟨r, hpc, rfl⟩ := closeTarget_spec hs
    exact h.close hpc
  | complete t =>
    obtain ⟨r, hpc, rfl⟩ := requestComplete_spec hs
    exact h.complete hpc

theorem reachable_inv (hs : (reaperSystem n).Reachable s) : Inv s :=
  Transition.System.Reachable.induction (reaperSystem n) initial_inv
    (fun _ _ _ h hstep => step_inv h hstep) hs

/-! ## What every reachable state satisfies -/

theorem Inv.queue_le_active (h : Inv s) : (s.queue.length : Int) ≤ s.activeRequests := by
  have := h.active
  omega

theorem Inv.dequeued_nodup (h : Inv s) : s.dequeued.Nodup :=
  (List.nodup_append.mp (h.taken.nodup_iff.mpr List.nodup_range)).2.1

theorem Inv.closed_nodup (h : Inv s) : s.closed.Nodup :=
  (List.nodup_append.mp (h.owned.nodup_iff.mpr List.nodup_range)).2.1

theorem Inv.dequeued_of_closed (h : Inv s) {d : Nat} (hd : d ∈ s.closed) : d ∈ s.dequeued := by
  have hnd := List.nodup_append.mp (h.owned.nodup_iff.mpr List.nodup_range)
  have hmade : d ∈ List.range s.dups := h.owned.subset (List.mem_append_right _ hd)
  rcases List.mem_append.mp (h.taken.symm.subset hmade) with hq | hdq
  · exact absurd rfl (hnd.2.2 d (List.mem_append_left _ hq) d hd)
  · exact hdq

theorem Inv.closed_of_idle (h : Inv s) (hq : s.queue = []) (hidle : ∀ t, s.threads t = .dequeue) :
    s.closed.Perm (List.range s.dups) := by
  have howned := h.owned
  rwa [queuedFds, hq, openFds_eq_nil_of_idle hidle, List.map_nil, List.nil_append,
    List.nil_append] at howned

theorem Inv.kill_queued (h : Inv s) {target : TargetProc} (hfd : 0 ≤ target.pidfd)
    (hlt : s.activeRequests < n) (result : Int32) :
    s.kill target false result = (s.enqueue target, 0) := by
  have hne : target.pidfd ≠ -1 := by
    intro he
    rw [he] at hfd
    exact absurd hfd (by decide)
  have hpos : 0 < n := by
    have := h.queue_le_active
    omega
  rw [kill_eq, if_pos ⟨hfd, rfl, (asyncKill_snd_iff s target).mpr ⟨hne, hpos, hlt⟩⟩]

theorem kill_of_full {target : TargetProc} (hge : ¬ s.activeRequests < n) (synchronous : Bool)
    (result : Int32) : s.kill target synchronous result = (s.signalDirect target.pid, result) := by
  rw [kill_eq, if_neg fun hq => hge ((asyncKill_snd_iff s target).mp hq.2.2).2.2]

/-- The request protocol over every interleaving of the main thread and the
reaper threads. -/
theorem reaper_request_protocol (hs : (reaperSystem n).Reachable s) :
    (s.queue.length : Int) ≤ s.activeRequests ∧ s.activeRequests ≤ n ∧
      (∀ (target : TargetProc) (result : Int32), 0 ≤ target.pidfd →
        (s.activeRequests < n → s.kill target false result = (s.enqueue target, 0)) ∧
        (¬ s.activeRequests < n →
          s.kill target false result = (s.signalDirect target.pid, result))) ∧
      (s.queuedFds ++ s.dequeued).Perm (List.range s.dups) ∧
      (s.queuedFds ++ s.openFds ++ s.closed).Perm (List.range s.dups) ∧ s.dequeued.Nodup ∧
      s.closed.Nodup ∧ (∀ d ∈ s.closed, d ∈ s.dequeued) ∧
      (s.queue = [] → (∀ t, s.threads t = .dequeue) → s.closed.Perm (List.range s.dups)) := by
  have h := reachable_inv hs
  refine ⟨h.queue_le_active, h.active_le, fun target result hfd => ?_, h.taken, h.owned,
    h.dequeued_nodup, h.closed_nodup, fun d hd => h.dequeued_of_closed hd, h.closed_of_idle⟩
  exact ⟨fun hlt => h.kill_queued hfd hlt result, fun hge => kill_of_full hge false result⟩

def oneKill : List (ReaperEvent 2) :=
  [.kill ⟨30, 100, 10100⟩ false 0, .dequeue 0, .signal 0 true, .release 0, .close 0, .complete 0]

/-- After the one kill every thread waits on an empty queue, and the one
duplicate made has been closed. -/
theorem reaper_request_protocol_oneKillClosed :
    ∃ s, (reaperSystem 2).run oneKill = some s ∧ s.queue = [] ∧ (∀ t, s.threads t = .dequeue) ∧
      s.closed = [0] ∧ s.dups = 1 ∧
      (s.queue.length : Int) ≤ s.activeRequests ∧ s.activeRequests ≤ (2 : Nat) ∧
      (∀ (target : TargetProc) (result : Int32), 0 ≤ target.pidfd →
        (s.activeRequests < (2 : Nat) → s.kill target false result = (s.enqueue target, 0)) ∧
        (¬ s.activeRequests < (2 : Nat) →
          s.kill target false result = (s.signalDirect target.pid, result))) ∧
      (s.queuedFds ++ s.dequeued).Perm (List.range s.dups) ∧
      (s.queuedFds ++ s.openFds ++ s.closed).Perm (List.range s.dups) ∧ s.dequeued.Nodup ∧
      s.closed.Nodup ∧ (∀ d ∈ s.closed, d ∈ s.dequeued) ∧
      (s.queue = [] → (∀ t, s.threads t = .dequeue) → s.closed.Perm (List.range s.dups)) := by
  obtain ⟨s, hrun, hq, hidle, hclosed, hdups⟩ : ∃ s, (reaperSystem 2).run oneKill = some s ∧ s.queue = [] ∧
      (∀ t, s.threads t = .dequeue) ∧ s.closed = [0] ∧ s.dups = 1 :=
    ⟨_, rfl, rfl, by decide, rfl, rfl⟩
  exact ⟨s, hrun, hq, hidle, hclosed, hdups,
    reaper_request_protocol ((reaperSystem 2).reachable_of_run hrun)⟩

end Reaper

end Lmkd
