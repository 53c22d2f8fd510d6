import Lmkd.State
import Mathlib.Data.List.Basic

/-!
# The process registry

`pid_lookup`, `proc_slot`, `proc_unslot`, `proc_insert`, `pid_remove`,
`claim_record` and `remove_claims` of `lmkd.cpp`.  A `pidhash` chain is the
list of the records its `pidhash_next` links visit; the slot lists are rings
of `Links Loc`, edited by `insertAfter` (`adjslot_insert`) and `unlink`
(`adjslot_remove`).  `pid_remove` is a function of `Globals`, because it
reads `last_kill_pid_or_fd` and closes the record's pidfd.
-/

namespace Lmkd

open IntrusiveList IntrusiveList.Links

namespace Registry

/-- The test `procp->pid == pid` of the chain walks. -/
def hasPid (r : Registry) (pid : Int32) (a : Nat) : Bool := (r.procs a).pid == pid

def pidLookup (r : Registry) (pid : Int32) : Option Nat :=
  (r.pidhash (pidHashfn pid)).find? (r.hasPid pid)

def setProc (r : Registry) (a : Nat) (p : Proc) : Registry :=
  { r with procs := Function.update r.procs a p }

def procSlot (r : Registry) (a : Nat) : Registry :=
  { r with links := r.links.insertAfter (.slot (adjToSlot (r.procs a).oomadj)) (.proc a) }

def procUnslot (r : Registry) (a : Nat) : Registry :=
  { r with links := r.links.unlink (.proc a) }

/-- `proc_insert`: push the record on the front of its chain, then slot it. -/
def procInsert (r : Registry) (a : Nat) : Registry :=
  let h := pidHashfn (r.procs a).pid
  procSlot { r with pidhash := Function.update r.pidhash h (a :: r.pidhash h) } a

/-- `proc_adj_tail(oomadj)`: the `prev` link of the slot head, or `NULL` when
it points back to the head. -/
def procAdjTail (r : Registry) (oomadj : Int32) : Option Nat :=
  match r.links.prev (.slot (adjToSlot oomadj)) with
  | .proc a => some a
  | .slot _ => none

/-- `claim_record(procp, pid)` -/
def claimRecord (r : Registry) (a : Nat) (pid : Int32) : Registry × Bool :=
  let p := r.procs a
  if p.regPid = pid then (r, true)
  else if p.regPid = 0 then (r.setProc a { p with regPid := pid }, true)
  else (r, false)

/-- The inner loop of `remove_claims`, over one chain. -/
def clearClaims (pid : Int32) : Registry → List Nat → Registry
  | r, [] => r
  | r, a :: chain =>
    clearClaims pid
      (if (r.procs a).regPid = pid then r.setProc a { r.procs a with regPid := 0 } else r) chain

/-- The outer loop of `remove_claims`, over the buckets `buckets`. -/
def clearClaimsIn (pid : Int32) : Registry → List Nat → Registry
  | r, [] => r
  | r, i :: buckets => clearClaimsIn pid (clearClaims pid r (r.pidhash i)) buckets

/-- `remove_claims(pid)`: every record of `pid`'s, bucket by bucket and chain
entry by chain entry, loses its registrant. -/
def removeClaims (r : Registry) (pid : Int32) : Registry :=
  clearClaimsIn pid r (List.range pidhashSz)

/-- The new-record branch of `register_oom_adj_proc` from `calloc` on:
the fresh record lives at `brk`, gets the fields of `p`, and is inserted. -/
def insertNew (r : Registry) (p : Proc) : Registry :=
  ({ r with brk := r.brk + 1 }.setProc r.brk p).procInsert r.brk

/-- The existing-record branch of `register_oom_adj_proc` once the claim
succeeded: `proc_unslot`, the store of `oomadj`, `proc_slot`. -/
def reslot (r : Registry) (a : Nat) (oomadj : Int32) : Registry :=
  ((r.procUnslot a).setProc a { r.procs a with oomadj := oomadj }).procSlot a

/-- The registry side of `pid_remove` once the record `a` of `pid` is found:
unlink it from its chain and its slot list; a `NATIVE_PID_FD` record is
zeroed rather than freed. -/
def removeAt (r : Registry) (pid : Int32) (a : Nat) : Registry :=
  let b := pidHashfn pid
  let r₁ := procUnslot
    { r with pidhash := Function.update r.pidhash b ((r.pidhash b).eraseP (r.hasPid pid)) } a
  if (r.procs a).pidfd ≠ nativePidFd then r₁ else r₁.setProc a default

@[simp] theorem setProc_pidhash (r : Registry) (a : Nat) (p : Proc) :
    (r.setProc a p).pidhash = r.pidhash := rfl

@[simp] theorem setProc_links (r : Registry) (a : Nat) (p : Proc) :
    (r.setProc a p).links = r.links := rfl

@[simp] theorem setProc_brk (r : Registry) (a : Nat) (p : Proc) :
    (r.setProc a p).brk = r.brk := rfl

theorem setProc_procs (r : Registry) (a : Nat) (p : Proc) (c : Nat) :
    (r.setProc a p).procs c = if c = a then p else r.procs c := by
  simp [setProc, Function.update_apply]

@[simp] theorem procSlot_pidhash (r : Registry) (a : Nat) : (r.procSlot a).pidhash = r.pidhash :=
  rfl

@[simp] theorem procSlot_procs (r : Registry) (a : Nat) : (r.procSlot a).procs = r.procs := rfl

@[simp] theorem procSlot_brk (r : Registry) (a : Nat) : (r.procSlot a).brk = r.brk := rfl

@[simp] theorem procUnslot_pidhash (r : Registry) (a : Nat) :
    (r.procUnslot a).pidhash = r.pidhash := rfl

@[simp] theorem procUnslot_procs (r : Registry) (a : Nat) : (r.procUnslot a).procs = r.procs :=
  rfl

@[simp] theorem procUnslot_brk (r : Registry) (a : Nat) : (r.procUnslot a).brk = r.brk := rfl

theorem procInsert_pidhash (r : Registry) (a b : Nat) :
    (r.procInsert a).pidhash b =
      if b = pidHashfn (r.procs a).pid then a :: r.pidhash b else r.pidhash b := by
  simp only [procInsert, procSlot_pidhash, Function.update_apply]
  split <;> simp_all

@[simp] theorem procInsert_procs (r : Registry) (a : Nat) : (r.procInsert a).procs = r.procs :=
  rfl

@[simp] theorem procInsert_brk (r : Registry) (a : Nat) : (r.procInsert a).brk = r.brk := rfl

theorem procInsert_links (r : Registry) (a : Nat) :
    (r.procInsert a).links =
      r.links.insertAfter (.slot (adjToSlot (r.procs a).oomadj)) (.proc a) := rfl

theorem insertNew_procs (r : Registry) (p : Proc) :
    (r.insertNew p).procs = Function.update r.procs r.brk p := rfl

theorem insertNew_pidhash (r : Registry) (p : Proc) (b : Nat) :
    (r.insertNew p).pidhash b =
      if b = pidHashfn p.pid then r.brk :: r.pidhash b else r.pidhash b := by
  rw [insertNew, procInsert_pidhash]
  simp [setProc_procs]

theorem insertNew_links (r : Registry) (p : Proc) :
    (r.insertNew p).links = r.links.insertAfter (.slot (adjToSlot p.oomadj)) (.proc r.brk) := by
  rw [insertNew, procInsert_links]
  simp [setProc_procs]

@[simp] theorem insertNew_brk (r : Registry) (p : Proc) : (r.insertNew p).brk = r.brk + 1 := rfl

theorem reslot_procs (r : Registry) (a : Nat) (oomadj : Int32) :
    (r.reslot a oomadj).procs = Function.update r.procs a { r.procs a with oomadj := oomadj } :=
  rfl

@[simp] theorem reslot_pidhash (r : Registry) (a : Nat) (oomadj : Int32) :
    (r.reslot a oomadj).pidhash = r.pidhash := rfl

@[simp] theorem reslot_brk (r : Registry) (a : Nat) (oomadj : Int32) :
    (r.reslot a oomadj).brk = r.brk := rfl

theorem reslot_links (r : Registry) (a : Nat) (oomadj : Int32) :
    (r.reslot a oomadj).links =
      (r.links.unlink (.proc a)).insertAfter (.slot (adjToSlot oomadj)) (.proc a) := by
  simp [reslot, procSlot, procUnslot, setProc_procs]

theorem removeAt_pidhash (r : Registry) (pid : Int32) (a b : Nat) :
    (r.removeAt pid a).pidhash b =
      if b = pidHashfn pid then (r.pidhash b).eraseP (r.hasPid pid) else r.pidhash b := by
  unfold removeAt
  by_cases hb : b = pidHashfn pid
  · subst hb
    split <;> simp
  · split <;> simp [hb]

theorem removeAt_links (r : Registry) (pid : Int32) (a : Nat) :
    (r.removeAt pid a).links = r.links.unlink (.proc a) := by
  unfold removeAt
  split <;> rfl

@[simp] theorem removeAt_brk (r : Registry) (pid : Int32) (a : Nat) :
    (r.removeAt pid a).brk = r.brk := by
  unfold removeAt
  split <;> rfl

theorem removeAt_procs_of_ne (r : Registry) (pid : Int32) {a c : Nat} (hc : c ≠ a) :
    (r.removeAt pid a).procs c = r.procs c := by
  unfold removeAt
  split
  · rfl
  · simp [setProc_procs, hc]

/-- `r'` differs from `r` at most in the `reg_pid` and `valid` fields of its
records. -/
structure SameShape (r' r : Registry) : Prop where
  pidhash : r'.pidhash = r.pidhash
  links : r'.links = r.links
  brk : r'.brk = r.brk
  proc : ∀ c, (r'.procs c).pid = (r.procs c).pid ∧ (r'.procs c).pidfd = (r.procs c).pidfd ∧
    (r'.procs c).uid = (r.procs c).uid ∧ (r'.procs c).oomadj = (r.procs c).oomadj

theorem SameShape.refl (r : Registry) : SameShape r r :=
  ⟨rfl, rfl, rfl, fun _ => ⟨rfl, rfl, rfl, rfl⟩⟩

theorem SameShape.trans {r₁ r₂ r₃ : Registry} (h₁₂ : SameShape r₁ r₂) (h₂₃ : SameShape r₂ r₃) :
    SameShape r₁ r₃ := by
  refine ⟨h₁₂.pidhash.trans h₂₃.pidhash, h₁₂.links.trans h₂₃.links, h₁₂.brk.trans h₂₃.brk,
    fun c => ?_⟩
  obtain ⟨a₁, a₂, a₃, a₄⟩ := h₁₂.proc c
  obtain ⟨b₁, b₂, b₃, b₄⟩ := h₂₃.proc c
  exact ⟨a₁.trans b₁, a₂.trans b₂, a₃.trans b₃, a₄.trans b₄⟩

theorem sameShape_setRegPid (r : Registry) (a : Nat) (pid : Int32) :
    SameShape (r.setProc a { r.procs a with regPid := pid }) r := by
  refine ⟨rfl, rfl, rfl, fun c => ?_⟩
  rw [setProc_procs]
  by_cases hc : c = a
  · subst hc
    simp
  · simp [hc]

theorem sameShape_claimRecord (r : Registry) (a : Nat) (pid : Int32) :
    SameShape (r.claimRecord a pid).1 r := by
  dsimp only [claimRecord]
  split_ifs
  · exact SameShape.refl r
  · exact sameShape_setRegPid r a pid
  · exact SameShape.refl r

theorem claimRecord_snd (r : Registry) (a : Nat) (pid : Int32) :
    (r.claimRecord a pid).2 = true ↔ (r.procs a).regPid = pid ∨ (r.procs a).regPid = 0 := by
  dsimp only [claimRecord]
  split_ifs with h₁ h₂
  · simp [h₁]
  · simp [h₂]
  · simp [h₁, h₂]

theorem sameShape_clearClaims (pid : Int32) :
    ∀ (r : Registry) (chain : List Nat), SameShape (clearClaims pid r chain) r
  | r, [] => SameShape.refl r
  | r, a :: chain => by
    rw [clearClaims]
    split
    · exact (sameShape_clearClaims pid _ chain).trans (sameShape_setRegPid r a 0)
    · exact sameShape_clearClaims pid r chain

theorem sameShape_clearClaimsIn (pid : Int32) :
    ∀ (r : Registry) (buckets : List Nat), SameShape (clearClaimsIn pid r buckets) r
  | r, [] => SameShape.refl r
  | r, i :: buckets =>
    (sameShape_clearClaimsIn pid _ buckets).trans (sameShape_clearClaims pid r (r.pidhash i))

theorem sameShape_removeClaims (r : Registry) (pid : Int32) :
    SameShape (r.removeClaims pid) r :=
  sameShape_clearClaimsIn pid r _

end Registry

/-- `pid_remove(pid)`: returns 0, or -1 when no record has `pid`.  The pidfd
is closed here unless the kill wait holds it, in which case
`stop_wait_for_proc_kill` closes it later. -/
def pidRemove (g : Globals) (pid : Int32) : Globals × Int32 :=
  match (g.reg.pidhash (pidHashfn pid)).find? (g.reg.hasPid pid) with
  | none => (g, -1)
  | some a =>
    let p := g.reg.procs a
    ({ g with
        reg := g.reg.removeAt pid a
        fdLog := if 0 ≤ p.pidfd ∧ p.pidfd ≠ g.lastKillPidOrFd then .close p.pidfd :: g.fdLog
          else g.fdLog }, 0)

theorem pidRemove_reg (g : Globals) (pid : Int32) :
    (pidRemove g pid).1.reg =
      match g.reg.pidLookup pid with
      | none => g.reg
      | some a => g.reg.removeAt pid a := by
  unfold pidRemove Registry.pidLookup
  split <;> simp_all

end Lmkd
