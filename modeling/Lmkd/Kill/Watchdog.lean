import Lmkd.Kill.Search
import Lmkd.Lib.FirstTry
import Mathlib.Data.List.Induction

/-!
# The watchdog's victim scan

`watchdog_callback` runs on the watchdog thread when the main loop stalls.
It walks the slot lists from `OOM_SCORE_ADJ_MAX` down to 0, each from its
tail to its head, and kills the first valid record whose synchronous kill
succeeds.  It keeps no cursor: `find_victim` finds its place again by looking
up the pid it tried last with `proc_adj_prev`, and a `prev_pid` of 0 means
"start at the tail".

The loop is a step function on `(oom_score, prev_pid)`, run with fuel, over a
registry that no other thread changes meanwhile.  On a consistent registry in
which no record has pid 0 the scan is `tryFirst` of the slot lists, each
reversed, from score 1000 down (`watchdogOrder`): every record is tried once,
in that order, until a kill succeeds.  A record of pid 0 breaks the scan:
after trying it the loop is back in the state it started the slot in, and
it never ends (`watchdogRun_pidZero`).

`reaper.kill` is an arbitrary function of the record it is given.  As no
record is tried twice and pids are unique, every sequence of answers of the
reaper is such a function.
-/

namespace Lmkd

open IntrusiveList IntrusiveList.Links Registry FirstTry

/-- What `proc_adj_prev(oomadj, pid)` comes to: the `prev` link of the record
with the pid, `NULL`, or a fault, when its walk reads `pid` through `NULL`
(an empty slot list) or through a node that is not a record. -/
inductive AdjPrev where
  | prev (l : Loc)
  | null
  | fault
deriving DecidableEq, Repr

/-- The walk of `proc_adj_prev` from `curr` back to `head`; `none` is `NULL`.
On a ring the walk meets `head` within the fuel `procAdjPrev` gives it. -/
def procAdjPrevLoop (r : Registry) (head : Loc) (pid : Int32) : Nat → Option Loc → AdjPrev
  | 0, _ => .fault
  | _ + 1, none => .fault
  | fuel + 1, some curr =>
    if curr = head then .null
    else
      match curr with
      | .proc a =>
        if (r.procs a).pid = pid then .prev (r.links.prev curr)
        else procAdjPrevLoop r head pid fuel (some (r.links.prev curr))
      | .slot _ => .fault

def procAdjPrev (r : Registry) (oomadj pid : Int32) : AdjPrev :=
  procAdjPrevLoop r (.slot (adjToSlot oomadj)) pid (r.brk + 1)
    ((r.procAdjTail oomadj).map Loc.proc)

/-- `find_victim(oom_score, prev_pid, target_proc)`: the record to copy,
`none` for `false`, or a fault of the walk.  A link to another slot's head
would be copied as a record; that faults too. -/
def findVictim (r : Registry) (oomScore prevPid : Int32) : Except Unit (Option Nat) :=
  let tail := (r.procAdjTail oomScore).map Loc.proc
  let procp : Except Unit (Option Loc) :=
    if prevPid = 0 then .ok tail
    else
      match procAdjPrev r oomScore prevPid with
      | .prev l => .ok (some l)
      -- pid was removed, restart at the tail
      | .null => .ok tail
      | .fault => .error ()
  match procp with
  | .error e => .error e
  | .ok none => .ok none
  | .ok (some (.slot i)) => if i = adjToSlot oomScore then .ok none else .error ()
  | .ok (some (.proc a)) => .ok (some a)

/-- The variables of the loop of `watchdog_callback`. -/
structure WatchdogState where
  oomScore : Int32
  prevPid : Int32
deriving DecidableEq, Repr

/-- How `watchdog_callback` ends. -/
inductive WatchdogEnd where
  | killed (a : Nat)
  | exhausted
  | fault
deriving DecidableEq, Repr

inductive WatchdogStep where
  | next (tried : Option Nat) (s : WatchdogState)
  | stop (e : WatchdogEnd)
deriving DecidableEq, Repr

/-- `target.valid && reaper.kill({ target.pidfd, target.pid, target.uid }, true) == 0` -/
def killSucceeds (r : Registry) (kill : Proc → Int) (a : Nat) : Bool :=
  (r.procs a).valid && kill (r.procs a) == 0

def watchdogStep (r : Registry) (kill : Proc → Int) (s : WatchdogState) : WatchdogStep :=
  if s.oomScore < 0 then .stop .exhausted
  else
    match findVictim r s.oomScore s.prevPid with
    | .error _ => .stop .fault
    | .ok none => .next none ⟨s.oomScore - 1, 0⟩
    | .ok (some a) =>
      if killSucceeds r kill a then .stop (.killed a)
      else .next (some a) ⟨s.oomScore, (r.procs a).pid⟩

def watchdogRun (r : Registry) (kill : Proc → Int) :
    Nat → WatchdogState → List Nat × Option WatchdogEnd
  | 0, _ => ([], none)
  | fuel + 1, s =>
    match watchdogStep r kill s with
    | .next tried s' => (tried.toList ++ (watchdogRun r kill fuel s').1, (watchdogRun r kill fuel s').2)
    | .stop (.killed a) => ([a], some (.killed a))
    | .stop e => ([], some e)

/-- `pid_invalidate(pid)` -/
def Registry.pidInvalidate (r : Registry) (pid : Int32) : Registry :=
  match r.pidLookup pid with
  | some a => r.setProc a { r.procs a with valid := false }
  | none => r

def watchdogFuel (r : Registry) : Nat := r.brk + 1002

/-- `watchdog_callback()`: the registry after it, the records it tried and
how it ended. -/
def watchdogCallback (r : Registry) (kill : Proc → Int) :
    Registry × List Nat × Option WatchdogEnd :=
  let run := watchdogRun r kill (watchdogFuel r) ⟨oomScoreAdjMax, 0⟩
  match run.2 with
  | some (.killed a) => (r.pidInvalidate (r.procs a).pid, run)
  | _ => (r, run)

/-! ## The order of the scan -/

def scanFrom (slots : Nat → List Nat) (k : Nat) : List Nat :=
  (List.range (k + 1)).reverse.flatMap fun j => (slots (adjToSlot (Int32.ofNat j))).reverse

/-- The order the watchdog tries records in: scores from `OOM_SCORE_ADJ_MAX`
down to 0, each slot list from its tail. -/
def watchdogOrder (slots : Nat → List Nat) : List Nat := scanFrom slots 1000

theorem scanFrom_zero (slots : Nat → List Nat) :
    scanFrom slots 0 = (slots (adjToSlot (Int32.ofNat 0))).reverse := by
  simp [scanFrom]

theorem scanFrom_succ (slots : Nat → List Nat) (k : Nat) :
    scanFrom slots (k + 1) = (slots (adjToSlot (Int32.ofNat (k + 1)))).reverse ++ scanFrom slots k := by
  rw [scanFrom, List.range_succ, List.reverse_append, List.reverse_singleton, List.singleton_append,
    List.flatMap_cons]
  rfl

theorem mem_scanFrom {slots : Nat → List Nat} {k a : Nat} :
    a ∈ scanFrom slots k ↔ ∃ j ≤ k, a ∈ slots (adjToSlot (Int32.ofNat j)) := by
  simp only [scanFrom, List.mem_flatMap, List.mem_reverse, List.mem_range]
  exact ⟨fun ⟨j, hj, h⟩ => ⟨j, Nat.lt_succ_iff.mp hj, h⟩, fun ⟨j, hj, h⟩ => ⟨j, Nat.lt_succ_iff.mpr hj, h⟩⟩

/-! ## Scores -/

theorem toInt_ofNat_score {k : Nat} (hk : k ≤ 1000) : (Int32.ofNat k).toInt = k :=
  Int32.toInt_ofNat_of_lt (by omega)

theorem not_ofNat_score_lt_zero {k : Nat} (hk : k ≤ 1000) : ¬ Int32.ofNat k < 0 := by
  rw [Int32.lt_iff_toInt_lt, toInt_ofNat_score hk, Int32.toInt_zero]
  omega

theorem adjToSlot_ofNat_score {k : Nat} (hk : k ≤ 1000) : adjToSlot (Int32.ofNat k) = k + 1000 := by
  unfold adjToSlot
  rw [toInt_ofNat_score hk]
  omega

theorem adjToSlot_ofNat_score_lt {k : Nat} (hk : k ≤ 1000) :
    adjToSlot (Int32.ofNat k) < adjToSlotCount := by
  rw [adjToSlot_ofNat_score hk, adjToSlotCount]
  omega

theorem ofNat_succ_sub_one (k : Nat) : Int32.ofNat (k + 1) - 1 = Int32.ofNat k := by
  rw [Int32.ofNat_add, show Int32.ofNat 1 = 1 from rfl, Int32.add_sub_cancel]

/-! ## `proc_adj_prev` and `find_victim` on a ring -/

section Ring

variable {r : Registry} {slots : Nat → List Nat}

theorem procAdjPrevLoop_of_path {c : Nat} {pid : Int32} (hc : (r.procs c).pid = pid) (i : Nat)
    (post : List Nat) :
    ∀ (b : Loc) (fuel : Nat), r.links.Path (.proc c) (post.map .proc) b →
      (∀ x ∈ post, (r.procs x).pid ≠ pid) → post.length < fuel →
      procAdjPrevLoop r (.slot i) pid fuel (some (r.links.prev b)) = .prev (r.links.prev (.proc c)) := by
  induction post using List.reverseRecOn with
  | nil =>
    rintro b (_ | fuel) hpath - hfuel
    · simp at hfuel
    · cases hpath with
      | last _ hp => simp [procAdjPrevLoop, hp, hc]
  | append_singleton post d ih =>
    rintro b (_ | fuel) hpath hpids hfuel
    · simp at hfuel
    · rw [List.map_append, List.map_singleton, path_append_iff] at hpath
      obtain ⟨hpre, _ | _⟩ := hpath
      rename_i hp
      have hd : (r.procs d).pid ≠ pid := hpids d (by simp)
      simp only [procAdjPrevLoop, hp, reduceCtorEq, if_false, hd]
      refine ih (.proc d) fuel hpre (fun x hx => hpids x (by simp [hx])) ?_
      simp at hfuel
      omega

theorem procAdjTail_map_of_prev {score : Int32} {a : Nat}
    (h : r.links.prev (.slot (adjToSlot score)) = .proc a) :
    (r.procAdjTail score).map Loc.proc = some (.proc a) := by
  simp [procAdjTail, h]

theorem Registry.WellFormed.pid_ne_of_mem_post (hw : r.WellFormed slots) {s c x : Nat} {pre post : List Nat}
    (hsplit : slots s = pre ++ c :: post) (hx : x ∈ post) : (r.procs x).pid ≠ (r.procs c).pid := by
  have hnd := hw.rings.nodup s
  rw [hsplit] at hnd
  have hcx : c ∉ post := (List.nodup_cons.mp (List.nodup_append.mp hnd).2.1).1
  intro hpid
  have hmem : ∀ y ∈ pre ++ c :: post, r.Mem y := fun y hy => hw.mem_of_slot (hsplit ▸ hy)
  exact hcx (hw.pid_unique x c (hmem x (by simp [hx])) (hmem c (by simp)) hpid ▸ hx)

theorem Registry.WellFormed.findVictim_zero (hw : r.WellFormed slots) {score : Int32}
    (hs : adjToSlot score < adjToSlotCount) :
    findVictim r score 0 = .ok (slots (adjToSlot score)).getLast? := by
  have hprev := (hw.rings.ring _ hs).prev_head
  rcases List.eq_nil_or_concat (slots (adjToSlot score)) with hnil | ⟨pre, c, hpc⟩
  · rw [hnil] at hprev ⊢
    simp [findVictim, procAdjTail, hprev]
  · rw [List.concat_eq_append] at hpc
    rw [hpc] at hprev ⊢
    simp [findVictim, procAdjTail, hprev]

theorem Registry.WellFormed.findVictim_after (hw : r.WellFormed slots) {score : Int32}
    (hs : adjToSlot score < adjToSlotCount) {pre post : List Nat} {c : Nat}
    (hsplit : slots (adjToSlot score) = pre ++ c :: post) (h0 : (r.procs c).pid ≠ 0) :
    findVictim r score (r.procs c).pid = .ok pre.getLast? := by
  have hring := hw.rings.ring _ hs
  rw [hsplit, List.map_append, List.map_cons] at hring
  obtain ⟨hpre, hpost⟩ := path_append_iff.mp hring
  have hlen : post.length < r.brk + 1 := by
    have := hw.length_slot_le (adjToSlot score)
    rw [hsplit, List.length_append, List.length_cons] at this
    omega
  have htail : (r.procAdjTail score).map Loc.proc = some (r.links.prev (.slot (adjToSlot score))) := by
    have hmem := hpost.prev_mem (List.mem_append_right _ (List.mem_singleton_self _))
    obtain ⟨a, -, ha⟩ := List.mem_map.mp (show _ ∈ (c :: post).map Loc.proc from hmem)
    rw [← ha]
    exact procAdjTail_map_of_prev ha.symm
  have hwalk := procAdjPrevLoop_of_path rfl (adjToSlot score) post _ (r.brk + 1) hpost
    (fun x hx => hw.pid_ne_of_mem_post hsplit hx) hlen
  simp only [findVictim, procAdjPrev, h0, if_false, htail, hwalk, hpre.prev_eq]
  rcases List.eq_nil_or_concat pre with rfl | ⟨pre', b, rfl⟩
  · simp
  · simp [List.concat_eq_append]

end Ring

/-! ## The scan -/

section Scan

variable {r : Registry} {slots : Nat → List Nat}

theorem Registry.WellFormed.toInt_oomadj_of_mem_score (hw : r.WellFormed slots) {j a : Nat}
    (hj : j ≤ 1000) (ha : a ∈ slots (adjToSlot (Int32.ofNat j))) : (r.procs a).oomadj.toInt = j := by
  obtain ⟨hmem, hslot⟩ := (hw.mem_slots a _).mp ha
  have hv := (validAdj_iff _).mp (hw.valid_adj a hmem)
  rw [adjToSlot_ofNat_score hj] at hslot
  unfold adjToSlot at hslot
  omega

theorem Registry.WellFormed.scanFrom_nodup (hw : r.WellFormed slots) {k : Nat} (hk : k ≤ 1000) :
    (scanFrom slots k).Nodup := by
  rw [scanFrom, List.nodup_flatMap]
  refine ⟨fun j _ => List.nodup_reverse.mpr (hw.rings.nodup _), ?_⟩
  refine List.Pairwise.imp_of_mem ?_ (List.pairwise_reverse.mpr List.pairwise_lt_range)
  intro j j' hj hj' hlt
  rw [List.mem_reverse, List.mem_range] at hj hj'
  simp only [Function.onFun, List.disjoint_reverse_left, List.disjoint_reverse_right]
  -- records of two different scores are in two different slots
  intro a ha ha'
  have hslots := hw.rings.disjoint _ _ a ha ha'
  rw [adjToSlot_ofNat_score (by omega), adjToSlot_ofNat_score (by omega)] at hslots
  omega

theorem Registry.WellFormed.length_scanFrom_le (hw : r.WellFormed slots) {k : Nat} (hk : k ≤ 1000) :
    (scanFrom slots k).length ≤ r.brk := by
  have hsub : scanFrom slots k ⊆ List.range r.brk := fun a ha => by
    obtain ⟨j, -, hj⟩ := mem_scanFrom.mp ha
    exact List.mem_range.mpr (hw.lt_brk a (hw.mem_of_slot hj))
  simpa using (List.subperm_of_subset (hw.scanFrom_nodup hk) hsub).length_le

theorem Registry.WellFormed.mem_watchdogOrder (hw : r.WellFormed slots) {a : Nat} :
    a ∈ watchdogOrder slots ↔ r.Mem a ∧ 0 ≤ (r.procs a).oomadj := by
  rw [watchdogOrder, mem_scanFrom, Int32.le_iff_toInt_le, Int32.toInt_zero]
  constructor
  · rintro ⟨j, hj, ha⟩
    rw [hw.toInt_oomadj_of_mem_score hj ha]
    exact ⟨hw.mem_of_slot ha, Int.natCast_nonneg j⟩
  · rintro ⟨hmem, h0⟩
    have hv := (validAdj_iff _).mp (hw.valid_adj a hmem)
    have hslot : adjToSlot (Int32.ofNat (r.procs a).oomadj.toInt.toNat) = adjToSlot (r.procs a).oomadj := by
      rw [adjToSlot_ofNat_score (by omega)]
      unfold adjToSlot
      omega
    exact ⟨_, by omega, hslot ▸ hw.slot_of_mem hmem⟩

theorem Registry.WellFormed.oomadj_le_of_mem_score (hw : r.WellFormed slots) {j j' a b : Nat}
    (hj : j ≤ 1000) (hle : j' ≤ j) (ha : a ∈ slots (adjToSlot (Int32.ofNat j)))
    (hb : b ∈ slots (adjToSlot (Int32.ofNat j'))) : (r.procs b).oomadj ≤ (r.procs a).oomadj := by
  have hja := hw.toInt_oomadj_of_mem_score hj ha
  have hjb := hw.toInt_oomadj_of_mem_score (Nat.le_trans hle hj) hb
  rw [Int32.le_iff_toInt_le]
  omega

theorem Registry.WellFormed.watchdogOrder_pairwise (hw : r.WellFormed slots) :
    (watchdogOrder slots).Pairwise fun a b => (r.procs b).oomadj ≤ (r.procs a).oomadj := by
  rw [watchdogOrder, scanFrom, List.pairwise_flatMap]
  constructor
  · -- within a slot all scores are equal
    intro j hj
    rw [List.mem_reverse, List.mem_range] at hj
    refine List.Pairwise.imp_of_mem ?_ (List.pairwise_of_forall (R := fun _ _ => True) fun _ _ => trivial)
    intro a b ha hb _
    rw [List.mem_reverse] at ha hb
    exact hw.oomadj_le_of_mem_score (by omega) (Nat.le_refl j) ha hb
  · -- from one slot to the next the score goes down
    refine List.Pairwise.imp_of_mem ?_ (List.pairwise_reverse.mpr List.pairwise_lt_range)
    intro j j' hj hj' hlt a ha b hb
    rw [List.mem_reverse, List.mem_range] at hj hj'
    rw [List.mem_reverse] at ha hb
    exact hw.oomadj_le_of_mem_score (by omega) (Nat.le_of_lt hlt) ha hb

end Scan

/-! ## The loop -/

section Run

variable (r : Registry) (kill : Proc → Int)

theorem watchdogRun_succ_of_lt (s : WatchdogState) (h : s.oomScore < 0) (fuel : Nat) :
    watchdogRun r kill (fuel + 1) s = ([], some .exhausted) := by
  simp [watchdogRun, watchdogStep, h]

theorem watchdogRun_succ_of_none (s : WatchdogState) (h : ¬ s.oomScore < 0)
    (hv : findVictim r s.oomScore s.prevPid = .ok none) (fuel : Nat) :
    watchdogRun r kill (fuel + 1) s = watchdogRun r kill fuel ⟨s.oomScore - 1, 0⟩ := by
  simp [watchdogRun, watchdogStep, h, hv]

theorem watchdogRun_succ_of_some (s : WatchdogState) (h : ¬ s.oomScore < 0) {a : Nat}
    (hv : findVictim r s.oomScore s.prevPid = .ok (some a)) (fuel : Nat) :
    watchdogRun r kill (fuel + 1) s =
      tryFirst (killSucceeds r kill) .killed [a] (watchdogRun r kill fuel ⟨s.oomScore, (r.procs a).pid⟩) := by
  cases ha : killSucceeds r kill a
  · rw [tryFirst_cons_of_not_ok ha]
    simp [watchdogRun, watchdogStep, h, hv, ha]
  · rw [tryFirst_cons_of_ok ha]
    simp [watchdogRun, watchdogStep, h, hv, ha]

theorem watchdogRun_of_step_self {s : WatchdogState} {a : Nat}
    (h : watchdogStep r kill s = .next (some a) s) :
    ∀ fuel, watchdogRun r kill fuel s = (List.replicate fuel a, none)
  | 0 => rfl
  | fuel + 1 => by
    rw [watchdogRun, h]
    dsimp only
    rw [watchdogRun_of_step_self h fuel]
    rfl

variable {r} {slots : Nat → List Nat} (hw : r.WellFormed slots)
  (hpid : ∀ a, r.Mem a → (r.procs a).pid ≠ 0)
include hw hpid

theorem findVictim_of_tried {score : Int32} (hs : adjToSlot score < adjToSlotCount)
    {pre post : List Nat} {c : Nat} (hsplit : slots (adjToSlot score) = pre ++ c :: post) :
    findVictim r score (r.procs c).pid = .ok pre.getLast? := by
  have hc : c ∈ slots (adjToSlot score) := by simp [hsplit]
  exact hw.findVictim_after hs hsplit (hpid c (hw.mem_of_slot hc))

theorem watchdogRun_after {score : Int32} (hs : adjToSlot score < adjToSlotCount)
    (h0 : ¬ score < 0) (fuel : Nat) :
    ∀ (left : List Nat) (c : Nat) (post : List Nat), slots (adjToSlot score) = left.reverse ++ c :: post →
      watchdogRun r kill (fuel + left.length + 1) ⟨score, (r.procs c).pid⟩ =
        tryFirst (killSucceeds r kill) .killed left (watchdogRun r kill fuel ⟨score - 1, 0⟩)
  | [], c, post, hsplit => by
    have hv := findVictim_of_tried hw hpid hs hsplit
    rw [List.length_nil, Nat.add_zero, tryFirst_nil]
    exact watchdogRun_succ_of_none r kill ⟨score, _⟩ h0 hv fuel
  | b :: left, c, post, hsplit => by
    have hv := findVictim_of_tried hw hpid hs hsplit
    rw [List.reverse_cons, List.getLast?_concat] at hv
    have hsplit' : slots (adjToSlot score) = left.reverse ++ b :: c :: post := by simp [hsplit]
    rw [List.length_cons, show fuel + (left.length + 1) + 1 = fuel + left.length + 1 + 1 by omega,
      watchdogRun_succ_of_some r kill ⟨score, _⟩ h0 hv,
      watchdogRun_after hs h0 fuel left b (c :: post) hsplit', ← tryFirst_append]
    rfl

theorem watchdogRun_slot {score : Int32} (hs : adjToSlot score < adjToSlotCount)
    (h0 : ¬ score < 0) (fuel : Nat) :
    watchdogRun r kill (fuel + (slots (adjToSlot score)).length + 1) ⟨score, 0⟩ =
      tryFirst (killSucceeds r kill) .killed (slots (adjToSlot score)).reverse
        (watchdogRun r kill fuel ⟨score - 1, 0⟩) := by
  have hv := hw.findVictim_zero hs
  rcases List.eq_nil_or_concat (slots (adjToSlot score)) with hnil | ⟨pre, c, hpc⟩
  · rw [hnil] at hv ⊢
    rw [List.length_nil, Nat.add_zero, List.reverse_nil, tryFirst_nil]
    exact watchdogRun_succ_of_none r kill ⟨score, _⟩ h0 hv fuel
  · rw [List.concat_eq_append] at hpc
    rw [hpc, List.getLast?_concat] at hv
    have hafter := watchdogRun_after kill hw hpid hs h0 fuel pre.reverse c []
      (by rw [hpc, List.reverse_reverse])
    rw [List.length_reverse] at hafter
    rw [hpc, List.length_append, List.length_singleton, ← Nat.add_assoc,
      watchdogRun_succ_of_some r kill ⟨score, _⟩ h0 hv, hafter, List.reverse_append, List.reverse_singleton,
      ← tryFirst_append]

theorem watchdogRun_scanFrom (fuel : Nat) :
    ∀ k ≤ 1000, watchdogRun r kill (fuel + (scanFrom slots k).length + k + 1) ⟨Int32.ofNat k, 0⟩ =
      tryFirst (killSucceeds r kill) .killed (scanFrom slots k) (watchdogRun r kill fuel ⟨-1, 0⟩)
  | 0, _ => by
    have hslot := watchdogRun_slot kill hw hpid (adjToSlot_ofNat_score_lt (Nat.zero_le _))
      (not_ofNat_score_lt_zero (Nat.zero_le _)) fuel
    rw [scanFrom_zero, List.length_reverse]
    exact hslot
  | k + 1, hk => by
    have hslot := watchdogRun_slot kill hw hpid (adjToSlot_ofNat_score_lt hk)
      (not_ofNat_score_lt_zero hk) (fuel + (scanFrom slots k).length + k + 1)
    rw [ofNat_succ_sub_one, watchdogRun_scanFrom fuel k (by omega)] at hslot
    rw [scanFrom_succ, tryFirst_append, ← hslot, List.length_append, List.length_reverse]
    congr 1
    omega

theorem watchdogRun_order :
    watchdogRun r kill (watchdogFuel r) ⟨oomScoreAdjMax, 0⟩ =
      tryFirst (killSucceeds r kill) .killed (watchdogOrder slots) ([], some .exhausted) := by
  have hlen := hw.length_scanFrom_le (Nat.le_refl 1000)
  have hfuel : watchdogFuel r =
      r.brk - (scanFrom slots 1000).length + 1 + (scanFrom slots 1000).length + 1000 + 1 := by
    unfold watchdogFuel
    omega
  rw [hfuel, show oomScoreAdjMax = Int32.ofNat 1000 from rfl,
    watchdogRun_scanFrom kill hw hpid _ 1000 (Nat.le_refl _),
    watchdogRun_succ_of_lt r kill ⟨-1, 0⟩ (by decide)]
  rfl

end Run

/-! ## `watchdog_callback` -/

/-- What `watchdog_callback` does on the registry `r` with slot lists
`slots`: it tries the records of `watchdogOrder` in turn, none twice, up to
the first valid one whose kill succeeds, and ends there, having invalidated
that record and changed nothing else; when none succeeds it ends after the
last, with the registry unchanged. -/
structure WatchdogScan (r : Registry) (slots : Nat → List Nat) (kill : Proc → Int) : Prop where
  tried : (watchdogCallback r kill).2.1 =
    (watchdogOrder slots).takeWhile (fun a => !killSucceeds r kill a) ++
      (((watchdogOrder slots).find? (killSucceeds r kill)).map fun a => [a]).getD []
  nodup : (watchdogCallback r kill).2.1.Nodup
  ends : (watchdogCallback r kill).2.2 =
    some ((((watchdogOrder slots).find? (killSucceeds r kill)).map .killed).getD .exhausted)
  reg : (watchdogCallback r kill).1 =
    (((watchdogOrder slots).find? (killSucceeds r kill)).map fun a =>
      r.setProc a { r.procs a with valid := false }).getD r

theorem watchdogCallback_spec (r : Registry) (slots : Nat → List Nat) (kill : Proc → Int)
    (hw : r.WellFormed slots) (hpid : ∀ a, r.Mem a → (r.procs a).pid ≠ 0) :
    WatchdogScan r slots kill := by
  have hrun := watchdogRun_order kill hw hpid
  have hcb : (watchdogCallback r kill).2 = watchdogRun r kill (watchdogFuel r) ⟨oomScoreAdjMax, 0⟩ := by
    unfold watchdogCallback
    dsimp only
    split <;> rfl
  have hnodup : (watchdogCallback r kill).2.1.Nodup := by
    have horder : (watchdogOrder slots).Nodup := hw.scanFrom_nodup (Nat.le_refl 1000)
    rw [hcb, hrun]
    refine horder.sublist ?_
    simpa using @tryFirst_sublist _ _ (killSucceeds r kill) WatchdogEnd.killed
      (watchdogOrder slots) ([], some .exhausted)
  rw [tryFirst_eq] at hrun
  have hends : (watchdogRun r kill (watchdogFuel r) ⟨oomScoreAdjMax, 0⟩).2 =
      some ((((watchdogOrder slots).find? (killSucceeds r kill)).map .killed).getD .exhausted) := by
    rw [hrun]
    cases (watchdogOrder slots).find? (killSucceeds r kill) <;> rfl
  refine ⟨by rw [hcb, hrun], hnodup, by rw [hcb, hends], ?_⟩
  cases hfind : (watchdogOrder slots).find? (killSucceeds r kill) with
  | none =>
    simp only [watchdogCallback, hends, hfind, Option.map_none, Option.getD_none]
  | some a =>
    -- the record killed is registered, so `pid_invalidate` finds it by its pid
    have ha : r.Mem a := (hw.mem_watchdogOrder.mp (List.mem_of_find?_eq_some hfind)).1
    simp only [watchdogCallback, hends, hfind, Option.map_some, Option.getD_some, Registry.pidInvalidate,
      hw.pidLookup_of_mem ha]

/-- The registry holding the one record `p`, registered after `init`. -/
def Registry.single (p : Proc) : Registry := Registry.initial.insertNew p

theorem wellFormed_single {p : Proc} (hadj : ValidAdj p.oomadj) :
    (Registry.single p).WellFormed (Function.update (fun _ => []) (adjToSlot p.oomadj) [0]) :=
  wellFormed_initial.insertNew (fun _ ha => absurd ha (by simp [Mem, Registry.initial])) hadj

theorem mem_single {p : Proc} {a : Nat} : (Registry.single p).Mem a ↔ a = 0 := by
  rw [Registry.single, mem_insertNew]
  simp [Mem, Registry.initial]

theorem single_procs_zero (p : Proc) : (Registry.single p).procs 0 = p := by
  simp [Registry.single, insertNew_procs, Registry.initial]

def watchdogApp : Proc := ⟨7, -1, 10007, 1000, 7, true⟩

theorem watchdogCallback_spec_app :
    (watchdogCallback (Registry.single watchdogApp) fun _ => 0).2 = ([0], some (.killed 0)) := by
  have hw := wellFormed_single (p := watchdogApp) (by decide)
  have hpid : ∀ a, (Registry.single watchdogApp).Mem a →
      ((Registry.single watchdogApp).procs a).pid ≠ 0 := by
    intro a ha
    rw [mem_single.mp ha, single_procs_zero]
    decide
  obtain ⟨htried, -, hend, -⟩ := watchdogCallback_spec _ _ (fun _ => 0) hw hpid
  have horder : watchdogOrder (Function.update (fun _ => []) (adjToSlot watchdogApp.oomadj) [0]) = [0] := by
    decide +kernel
  have hok : killSucceeds (Registry.single watchdogApp) (fun _ => 0) 0 = true := by
    simp [killSucceeds, single_procs_zero, watchdogApp]
  rw [Prod.ext_iff, htried, hend, horder]
  simp [hok]

def pidZeroProc : Proc := ⟨0, -1, 0, 1000, 0, false⟩

theorem watchdogRun_pidZero :
    (Registry.single pidZeroProc).WellFormed
        (Function.update (fun _ => []) (adjToSlot pidZeroProc.oomadj) [0]) ∧
      ∀ kill fuel, watchdogRun (Registry.single pidZeroProc) kill fuel ⟨oomScoreAdjMax, 0⟩ =
        (List.replicate fuel 0, none) := by
  have hw := wellFormed_single (p := pidZeroProc) (by decide)
  refine ⟨hw, fun kill => watchdogRun_of_step_self _ kill ?_⟩
  have hs : adjToSlot oomScoreAdjMax < adjToSlotCount := by decide
  have hv := hw.findVictim_zero hs
  have hlast : (Function.update (fun _ => ([] : List Nat)) (adjToSlot pidZeroProc.oomadj) [0]
      (adjToSlot oomScoreAdjMax)).getLast? = some 0 := by decide
  rw [hlast] at hv
  have hmax : ¬ oomScoreAdjMax < 0 := by decide
  rw [watchdogStep, if_neg hmax, hv]
  simp only [killSucceeds, single_procs_zero]
  simp [pidZeroProc]

end Lmkd
