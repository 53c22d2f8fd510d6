import Lmkd.Registry.Frame
import Mathlib.Data.List.Find

/-!
# The registry as a map from pids to records

`view r pid` is the record that `pid_lookup(pid)` finds.  The chains, the
slot rings and the record addresses are how the registry stores that map;
two registries built by the same registrations in different orders differ
in all three and agree on the view.

The mutators of `register_oom_adj_proc` change the view at one pid: a store
into a record that keeps its pid rewrites the entry of that pid
(`view_setProc`, and so `view_reslot` and `view_claimRecord`), and
`insertNew` on a consistent registry adds the entry of a new pid
(`view_insertNew`).
-/

namespace Lmkd

namespace Registry

def view (r : Registry) (pid : Int32) : Option Proc := (r.pidLookup pid).map r.procs

variable {r : Registry} {slots : Nat → List Nat}

theorem view_congr {r' : Registry} (hh : r'.pidhash = r.pidhash) (hp : r'.procs = r.procs) :
    r'.view = r.view := by
  have hpid : r'.hasPid = r.hasPid := by
    funext pid c
    simp only [hasPid, hp]
  funext pid
  simp only [view, pidLookup, hh, hpid, hp]

theorem pidLookup_setProc {a : Nat} {p : Proc} (hp : p.pid = (r.procs a).pid) :
    (r.setProc a p).pidLookup = r.pidLookup := by
  have hpid : (r.setProc a p).hasPid = r.hasPid := by
    funext pid c
    by_cases hc : c = a
    · subst hc
      simp [hasPid, setProc_procs, hp]
    · simp [hasPid, setProc_procs, hc]
  funext pid
  simp only [pidLookup, setProc_pidhash, hpid]

theorem view_setProc {pid : Int32} {a : Nat} (h : r.pidLookup pid = some a) {p : Proc}
    (hp : p.pid = (r.procs a).pid) : (r.setProc a p).view = Function.update r.view pid (some p) := by
  have hpa : (r.procs a).pid = pid := (pidLookup_eq_some h).2
  funext pid'
  simp only [view, pidLookup_setProc hp, Function.update_apply]
  cases hl : r.pidLookup pid' with
  | none =>
    have hne : pid' ≠ pid := by
      rintro rfl
      rw [h] at hl
      cases hl
    simp [hne]
  | some c =>
    have hcpid : (r.procs c).pid = pid' := (pidLookup_eq_some hl).2
    by_cases hpp : pid' = pid
    · subst hpp
      rw [h] at hl
      cases hl
      simp [setProc_procs]
    · have hca : c ≠ a := by
        rintro rfl
        exact hpp (hcpid.symm.trans hpa)
      simp [setProc_procs, hca, hpp]

theorem view_reslot {pid : Int32} {a : Nat} (h : r.pidLookup pid = some a) (oomadj : Int32) :
    (r.reslot a oomadj).view = Function.update r.view pid (some { r.procs a with oomadj := oomadj }) := by
  have hcongr : (r.reslot a oomadj).view = (r.setProc a { r.procs a with oomadj := oomadj }).view :=
    view_congr (by simp) (by rw [reslot_procs]; rfl)
  rw [hcongr]
  exact view_setProc h rfl

theorem view_claimRecord {pid : Int32} {a : Nat} (h : r.pidLookup pid = some a) (q : Int32) :
    (r.claimRecord a q).1.view = Function.update r.view pid (some ((r.claimRecord a q).1.procs a)) := by
  dsimp only [claimRecord]
  split_ifs with h₁ h₂
  · have hv : r.view pid = some (r.procs a) := by simp [view, h]
    rw [← hv, Function.update_eq_self]
  · have hv := view_setProc h (show ({ r.procs a with regPid := q } : Proc).pid = (r.procs a).pid from rfl)
    dsimp only
    rw [hv, setProc_procs, if_pos rfl]
  · have hv : r.view pid = some (r.procs a) := by simp [view, h]
    rw [← hv, Function.update_eq_self]

theorem find?_hasPid_insertNew (hw : r.WellFormed slots) (p : Proc) (pid : Int32) (b : Nat) :
    (r.pidhash b).find? ((r.insertNew p).hasPid pid) = (r.pidhash b).find? (r.hasPid pid) := by
  apply List.find?_congr
  intro c hc
  have hlt : c < r.brk := hw.lt_brk c ⟨b, hc⟩
  simp [hasPid, insertNew_procs, Function.update_of_ne (Nat.ne_of_lt hlt)]

theorem pidLookup_insertNew (hw : r.WellFormed slots) {p : Proc} (pid : Int32) :
    (r.insertNew p).pidLookup pid = if pid = p.pid then some r.brk else r.pidLookup pid := by
  unfold pidLookup
  rw [insertNew_pidhash]
  by_cases hb : pidHashfn pid = pidHashfn p.pid
  · rw [if_pos hb, List.find?_cons]
    by_cases hpid : pid = p.pid
    · simp [hasPid, insertNew_procs, hpid]
    · have hne : (p.pid == pid) = false := by simpa using Ne.symm hpid
      simp only [hasPid, insertNew_procs, Function.update_self, hne, if_neg hpid]
      exact find?_hasPid_insertNew hw p pid _
  · have hpid : pid ≠ p.pid := fun he => hb (congrArg pidHashfn he)
    rw [if_neg hb, if_neg hpid]
    exact find?_hasPid_insertNew hw p pid _

theorem view_insertNew (hw : r.WellFormed slots) (p : Proc) :
    (r.insertNew p).view = Function.update r.view p.pid (some p) := by
  funext pid
  simp only [view, pidLookup_insertNew hw pid, Function.update_apply]
  by_cases hpid : pid = p.pid
  · simp [hpid, insertNew_procs]
  · rw [if_neg hpid, if_neg hpid]
    cases hl : r.pidLookup pid with
    | none => rfl
    | some c =>
      have hlt : c < r.brk := hw.lt_brk c (mem_of_pidLookup hl)
      simp [insertNew_procs, Function.update_of_ne (Nat.ne_of_lt hlt)]

end Registry

end Lmkd
