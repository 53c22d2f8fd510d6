import Lmkd.Registry

/-!
# The registry invariant

`WellFormed r slots` is the consistency of the registry `r` whose slot list
`i` holds the records `slots i`: every chain entry hashes to its chain, chains
repeat no record, no two registered records share a pid, every registered
record has a valid `oomadj` and sits in exactly the slot list `ADJTOSLOT` of
it, the slot lists hold registered records only and are well-formed rings,
and every record lies below the allocation frontier.

The mutators of `Registry` keep it: `insertNew` when the pid is new and the
score valid, `reslot` for a registered record and a valid score, `removeAt`
at the record `pid_lookup` found, and every edit of registrants
(`SameShape`).  The slot contents change as each mutator says.
-/

namespace Lmkd

open IntrusiveList IntrusiveList.Links

/-- A score `register_oom_adj_proc` accepts: within
`[OOM_SCORE_ADJ_MIN, OOM_SCORE_ADJ_MAX]`. -/
def ValidAdj (adj : Int32) : Prop := oomScoreAdjMin ≤ adj ∧ adj ≤ oomScoreAdjMax

instance (adj : Int32) : Decidable (ValidAdj adj) := inferInstanceAs (Decidable (_ ∧ _))

theorem validAdj_iff (adj : Int32) : ValidAdj adj ↔ -1000 ≤ adj.toInt ∧ adj.toInt ≤ 1000 := by
  unfold ValidAdj
  rw [Int32.le_iff_toInt_le, Int32.le_iff_toInt_le]
  rfl

theorem adjToSlot_lt {adj : Int32} (h : ValidAdj adj) : adjToSlot adj < adjToSlotCount := by
  rw [validAdj_iff] at h
  unfold adjToSlot adjToSlotCount
  omega

theorem slot_injective : Function.Injective Loc.slot := fun _ _ h => Loc.slot.inj h

theorem proc_injective : Function.Injective Loc.proc := fun _ _ h => Loc.proc.inj h

theorem slot_ne_proc (i a : Nat) : Loc.slot i ≠ Loc.proc a := fun h => Loc.noConfusion h

theorem mem_update_cons {m : Nat → List Nat} {s x c i : Nat} :
    c ∈ Function.update m s (x :: m s) i ↔ (c = x ∧ i = s) ∨ c ∈ m i := by
  by_cases hi : i = s
  · subst hi
    simp
  · simp [hi]

theorem mem_update_erase {m : Nat → List Nat} {s a c i : Nat} (hnd : (m s).Nodup)
    (ha : ∀ j, a ∈ m j → j = s) :
    c ∈ Function.update m s ((m s).erase a) i ↔ c ∈ m i ∧ c ≠ a := by
  by_cases hi : i = s
  · subst hi
    rw [Function.update_self, hnd.mem_erase_iff, and_comm]
  · rw [Function.update_of_ne hi]
    constructor
    · intro hc
      refine ⟨hc, fun hca => hi (ha i (hca ▸ hc))⟩
    · exact fun h => h.1

theorem eraseP_eq_erase_of_find? {p : Nat → Bool} {a : Nat} :
    ∀ {l : List Nat}, l.find? p = some a → l.eraseP p = l.erase a
  | [], h => by simp at h
  | x :: l, h => by
    by_cases hx : p x
    · rw [List.find?_cons_of_pos hx] at h
      cases h
      rw [List.eraseP_cons_of_pos hx, List.erase_cons_head]
    · rw [List.find?_cons_of_neg hx] at h
      have hxa : x ≠ a := fun hxa => hx (hxa ▸ List.find?_some h)
      rw [List.eraseP_cons_of_neg hx, List.erase_cons_tail (by simpa using hxa),
        eraseP_eq_erase_of_find? h]

namespace Registry

def Mem (r : Registry) (a : Nat) : Prop := ∃ b, a ∈ r.pidhash b

structure WellFormed (r : Registry) (slots : Nat → List Nat) : Prop where
  hashed : ∀ b a, a ∈ r.pidhash b → pidHashfn (r.procs a).pid = b
  chain_nodup : ∀ b, (r.pidhash b).Nodup
  pid_unique : ∀ a a', r.Mem a → r.Mem a' → (r.procs a).pid = (r.procs a').pid → a = a'
  valid_adj : ∀ a, r.Mem a → ValidAdj (r.procs a).oomadj
  mem_slots : ∀ a i, a ∈ slots i ↔ r.Mem a ∧ adjToSlot (r.procs a).oomadj = i
  rings : r.links.Family Loc.slot Loc.proc slots (· < adjToSlotCount)
  lt_brk : ∀ a, r.Mem a → a < r.brk

def Inv (r : Registry) : Prop := ∃ slots, r.WellFormed slots

theorem wellFormed_initial : initial.WellFormed fun _ => [] where
  hashed _ _ h := absurd h List.not_mem_nil
  chain_nodup _ := List.nodup_nil
  pid_unique _ _ h := absurd h (by simp [Mem, initial])
  valid_adj _ h := absurd h (by simp [Mem, initial])
  mem_slots _ _ := by simp [Mem, initial]
  rings := ⟨fun _ _ => .last rfl rfl, fun _ => List.nodup_nil, fun _ _ _ h => absurd h List.not_mem_nil⟩
  lt_brk _ h := absurd h (by simp [Mem, initial])

section Lemmas

variable {r : Registry} {slots : Nat → List Nat}

theorem WellFormed.slot_of_mem (hw : r.WellFormed slots) {a : Nat} (ha : r.Mem a) :
    a ∈ slots (adjToSlot (r.procs a).oomadj) :=
  (hw.mem_slots a _).mpr ⟨ha, rfl⟩

theorem WellFormed.mem_of_slot (hw : r.WellFormed slots) {a i : Nat} (ha : a ∈ slots i) :
    r.Mem a :=
  ((hw.mem_slots a i).mp ha).1

theorem WellFormed.of_sameShape {r' : Registry} (hw : r.WellFormed slots) (h : SameShape r' r) :
    r'.WellFormed slots := by
  have hmem : ∀ a, r'.Mem a ↔ r.Mem a := fun a => by simp only [Mem, h.pidhash]
  have hpid c := (h.proc c).1
  have hadj c := (h.proc c).2.2.2
  refine ⟨fun b a ha => ?_, fun b => ?_, fun a a' ha ha' hp => ?_, fun a ha => ?_,
    fun a i => ?_, ?_, fun a ha => ?_⟩
  · rw [h.pidhash] at ha
    rw [hpid]
    exact hw.hashed b a ha
  · rw [h.pidhash]
    exact hw.chain_nodup b
  · rw [hpid, hpid] at hp
    exact hw.pid_unique a a' ((hmem a).mp ha) ((hmem a').mp ha') hp
  · rw [hadj]
    exact hw.valid_adj a ((hmem a).mp ha)
  · rw [hmem, hadj]
    exact hw.mem_slots a i
  · rw [h.links]
    exact hw.rings
  · rw [h.brk]
    exact hw.lt_brk a ((hmem a).mp ha)

theorem Inv.of_sameShape {r' : Registry} (hi : r.Inv) (h : SameShape r' r) : r'.Inv := by
  obtain ⟨slots, hw⟩ := hi
  exact ⟨slots, hw.of_sameShape h⟩

/-! ### Lookup -/

theorem pidLookup_eq_some {pid : Int32} {a : Nat} (h : r.pidLookup pid = some a) :
    a ∈ r.pidhash (pidHashfn pid) ∧ (r.procs a).pid = pid := by
  unfold pidLookup at h
  refine ⟨List.mem_of_find?_eq_some h, ?_⟩
  simpa [hasPid] using List.find?_some h

theorem WellFormed.pid_ne_of_pidLookup_eq_none (hw : r.WellFormed slots) {pid : Int32}
    (h : r.pidLookup pid = none) {a : Nat} (ha : r.Mem a) : (r.procs a).pid ≠ pid := by
  intro hpid
  obtain ⟨b, hb⟩ := ha
  have hbkt : b = pidHashfn pid := by rw [← hw.hashed b a hb, hpid]
  unfold pidLookup at h
  rw [List.find?_eq_none] at h
  subst hbkt
  exact h a hb (by simp [hasPid, hpid])

theorem WellFormed.pidLookup_of_mem (hw : r.WellFormed slots) {a : Nat} (ha : r.Mem a) :
    r.pidLookup (r.procs a).pid = some a := by
  cases hl : r.pidLookup (r.procs a).pid with
  | none => exact absurd rfl (hw.pid_ne_of_pidLookup_eq_none hl ha)
  | some a' =>
    obtain ⟨hmem, hpid⟩ := pidLookup_eq_some hl
    rw [hw.pid_unique a' a ⟨_, hmem⟩ ha hpid]

/-! ### Insertion of a new record -/

theorem mem_insertNew {p : Proc} {c : Nat} : (r.insertNew p).Mem c ↔ c = r.brk ∨ r.Mem c := by
  simp only [Mem, insertNew_pidhash]
  constructor
  · rintro ⟨b, hb⟩
    split at hb
    · rcases List.mem_cons.mp hb with hc | hc
      · exact .inl hc
      · exact .inr ⟨b, hc⟩
    · exact .inr ⟨b, hb⟩
  · rintro (rfl | ⟨b, hb⟩)
    · exact ⟨pidHashfn p.pid, by simp⟩
    · refine ⟨b, ?_⟩
      split
      · exact List.mem_cons_of_mem _ hb
      · exact hb

theorem WellFormed.insertNew (hw : r.WellFormed slots) {p : Proc}
    (hfresh : ∀ a, r.Mem a → (r.procs a).pid ≠ p.pid) (hadj : ValidAdj p.oomadj) :
    (r.insertNew p).WellFormed
      (Function.update slots (adjToSlot p.oomadj) (r.brk :: slots (adjToSlot p.oomadj))) := by
  have hbrk : ¬ r.Mem r.brk := fun h => Nat.lt_irrefl _ (hw.lt_brk _ h)
  have hold : ∀ c, r.Mem c → (r.insertNew p).procs c = r.procs c := fun c hc => by
    rw [insertNew_procs, Function.update_of_ne (Nat.ne_of_lt (hw.lt_brk c hc))]
  have hnew : (r.insertNew p).procs r.brk = p := by rw [insertNew_procs, Function.update_self]
  refine ⟨fun b a ha => ?_, fun b => ?_, fun a a' ha ha' hp => ?_, fun a ha => ?_,
    fun a i => ?_, ?_, fun a ha => ?_⟩
  · rw [insertNew_pidhash] at ha
    split at ha
    · rename_i hb
      rcases List.mem_cons.mp ha with rfl | ha
      · rw [hnew, hb]
      · rw [hold a ⟨b, ha⟩]
        exact hw.hashed b a ha
    · rw [hold a ⟨b, ha⟩]
      exact hw.hashed b a ha
  · rw [insertNew_pidhash]
    split
    · exact List.nodup_cons.mpr ⟨fun h => hbrk ⟨b, h⟩, hw.chain_nodup b⟩
    · exact hw.chain_nodup b
  · rcases mem_insertNew.mp ha with rfl | ha <;> rcases mem_insertNew.mp ha' with rfl | ha'
    · rfl
    · rw [hnew, hold a' ha'] at hp
      exact absurd hp.symm (hfresh a' ha')
    · rw [hnew, hold a ha] at hp
      exact absurd hp (hfresh a ha)
    · rw [hold a ha, hold a' ha'] at hp
      exact hw.pid_unique a a' ha ha' hp
  · rcases mem_insertNew.mp ha with rfl | ha
    · rw [hnew]
      exact hadj
    · rw [hold a ha]
      exact hw.valid_adj a ha
  · rw [mem_update_cons, mem_insertNew]
    by_cases ha : a = r.brk
    · subst ha
      rw [hnew, hw.mem_slots]
      simp [hbrk, eq_comm]
    · by_cases ham : r.Mem a
      · rw [hold a ham, hw.mem_slots]
        simp [ha, ham]
      · rw [hw.mem_slots]
        simp [ha, ham]
  · rw [insertNew_links]
    exact hw.rings.insertAfter slot_injective proc_injective slot_ne_proc (adjToSlot_lt hadj)
      (fun i h => hbrk (hw.mem_of_slot h))
  · rcases mem_insertNew.mp ha with rfl | ha
    · exact Nat.lt_succ_self _
    · exact Nat.lt_succ_of_lt (hw.lt_brk a ha)

/-! ### Moving a record to another slot -/

theorem WellFormed.reslot (hw : r.WellFormed slots) {a : Nat} (ha : r.Mem a) {oomadj : Int32}
    (hadj : ValidAdj oomadj) :
    let s₀ := adjToSlot (r.procs a).oomadj
    let slots₁ := Function.update slots s₀ ((slots s₀).erase a)
    (r.reslot a oomadj).WellFormed
      (Function.update slots₁ (adjToSlot oomadj) (a :: slots₁ (adjToSlot oomadj))) := by
  intro s₀ slots₁
  have hprocs : ∀ c, (r.reslot a oomadj).procs c =
      if c = a then { r.procs a with oomadj := oomadj } else r.procs c := fun c => by
    rw [reslot_procs, Function.update_apply]
  have hpid : ∀ c, ((r.reslot a oomadj).procs c).pid = (r.procs c).pid := fun c => by
    rw [hprocs]
    split <;> simp_all
  have hmem : ∀ c, (r.reslot a oomadj).Mem c ↔ r.Mem c := fun c => by simp [Mem]
  have hone : ∀ j, a ∈ slots j → j = s₀ := fun j h => ((hw.mem_slots a j).mp h).2.symm
  have hslots₁ : ∀ c i, c ∈ slots₁ i ↔ c ∈ slots i ∧ c ≠ a := fun c i =>
    mem_update_erase (hw.rings.nodup s₀) hone
  have hfam₁ : (r.links.unlink (.proc a)).Family Loc.slot Loc.proc slots₁ (· < adjToSlotCount) :=
    hw.rings.unlink slot_injective proc_injective slot_ne_proc (adjToSlot_lt (hw.valid_adj a ha))
      (hw.slot_of_mem ha)
  refine ⟨fun b c hc => ?_, hw.chain_nodup, fun c c' hc hc' hp => ?_, fun c hc => ?_,
    fun c i => ?_, ?_, fun c hc => ?_⟩
  · rw [hpid]
    exact hw.hashed b c hc
  · rw [hpid, hpid] at hp
    exact hw.pid_unique c c' ((hmem c).mp hc) ((hmem c').mp hc') hp
  · rw [hprocs]
    split
    · exact hadj
    · exact hw.valid_adj c ((hmem c).mp hc)
  · rw [mem_update_cons, hslots₁, hmem, hprocs, hw.mem_slots]
    by_cases hca : c = a
    · subst hca
      simp [ha, eq_comm]
    · simp [hca]
  · rw [reslot_links]
    exact hfam₁.insertAfter slot_injective proc_injective slot_ne_proc (adjToSlot_lt hadj)
      (fun i h => ((hslots₁ a i).mp h).2 rfl)
  · exact hw.lt_brk c ((hmem c).mp hc)

/-! ### Removal -/

theorem WellFormed.mem_removeAt_pidhash (hw : r.WellFormed slots) {pid : Int32} {a : Nat}
    (h : r.pidLookup pid = some a) {b c : Nat} :
    c ∈ (r.removeAt pid a).pidhash b ↔ c ∈ r.pidhash b ∧ c ≠ a := by
  obtain ⟨hmem, _⟩ := pidLookup_eq_some h
  rw [removeAt_pidhash]
  split
  · rename_i hb
    subst hb
    rw [eraseP_eq_erase_of_find? h, (hw.chain_nodup _).mem_erase_iff, and_comm]
  · rename_i hb
    constructor
    · intro hc
      refine ⟨hc, fun hca => hb ?_⟩
      rw [← hw.hashed b c hc, ← hw.hashed _ a hmem, hca]
    · exact fun h => h.1

theorem WellFormed.mem_removeAt (hw : r.WellFormed slots) {pid : Int32} {a : Nat}
    (h : r.pidLookup pid = some a) {c : Nat} : (r.removeAt pid a).Mem c ↔ r.Mem c ∧ c ≠ a := by
  simp only [Mem, hw.mem_removeAt_pidhash h]
  constructor
  · rintro ⟨b, hb, hca⟩
    exact ⟨⟨b, hb⟩, hca⟩
  · rintro ⟨⟨b, hb⟩, hca⟩
    exact ⟨b, hb, hca⟩

theorem WellFormed.removeAt (hw : r.WellFormed slots) {pid : Int32} {a : Nat}
    (h : r.pidLookup pid = some a) :
    (r.removeAt pid a).WellFormed (Function.update slots (adjToSlot (r.procs a).oomadj)
      ((slots (adjToSlot (r.procs a).oomadj)).erase a)) := by
  have ha : r.Mem a := ⟨_, (pidLookup_eq_some h).1⟩
  have hold : ∀ c, (r.removeAt pid a).Mem c → (r.removeAt pid a).procs c = r.procs c :=
    fun c hc => removeAt_procs_of_ne r pid ((hw.mem_removeAt h).mp hc).2
  have hone : ∀ j, a ∈ slots j → j = adjToSlot (r.procs a).oomadj :=
    fun j hj => ((hw.mem_slots a j).mp hj).2.symm
  refine ⟨fun b c hc => ?_, fun b => ?_, fun c c' hc hc' hp => ?_, fun c hc => ?_,
    fun c i => ?_, ?_, fun c hc => ?_⟩
  · rw [hold c ⟨b, hc⟩]
    exact hw.hashed b c ((hw.mem_removeAt_pidhash h).mp hc).1
  · rw [removeAt_pidhash]
    split
    · exact (hw.chain_nodup b).sublist (List.eraseP_sublist)
    · exact hw.chain_nodup b
  · rw [hold c hc, hold c' hc'] at hp
    exact hw.pid_unique c c' ((hw.mem_removeAt h).mp hc).1 ((hw.mem_removeAt h).mp hc').1 hp
  · rw [hold c hc]
    exact hw.valid_adj c ((hw.mem_removeAt h).mp hc).1
  · rw [mem_update_erase (hw.rings.nodup _) hone, hw.mem_removeAt h]
    by_cases hca : c = a
    · simp [hca]
    · rw [removeAt_procs_of_ne r pid hca, hw.mem_slots]
      simp [hca]
  · rw [removeAt_links]
    exact hw.rings.unlink slot_injective proc_injective slot_ne_proc
      (adjToSlot_lt (hw.valid_adj a ha)) (hw.slot_of_mem ha)
  · rw [removeAt_brk]
    exact hw.lt_brk c ((hw.mem_removeAt h).mp hc).1

theorem WellFormed.links_inverse (hw : r.WellFormed slots) {i : Nat} (hi : i < adjToSlotCount)
    {y : Loc} (hy : y ∈ Loc.slot i :: (slots i).map Loc.proc) :
    r.links.prev (r.links.next y) = y ∧ r.links.next (r.links.prev y) = y :=
  ⟨(hw.rings.ring i hi).prev_next hy, (hw.rings.ring i hi).next_prev hy⟩

/-! ### The invariant without its slot contents -/

theorem Inv.insertNew (hi : r.Inv) {p : Proc} (hnone : r.pidLookup p.pid = none)
    (hadj : ValidAdj p.oomadj) : (r.insertNew p).Inv := by
  obtain ⟨slots, hw⟩ := hi
  exact ⟨_, hw.insertNew (fun a ha => hw.pid_ne_of_pidLookup_eq_none hnone ha) hadj⟩

theorem Inv.reslot (hi : r.Inv) {a : Nat} (ha : r.Mem a) {oomadj : Int32}
    (hadj : ValidAdj oomadj) : (r.reslot a oomadj).Inv := by
  obtain ⟨slots, hw⟩ := hi
  exact ⟨_, hw.reslot ha hadj⟩

theorem Inv.removeAt (hi : r.Inv) {pid : Int32} {a : Nat} (h : r.pidLookup pid = some a) :
    (r.removeAt pid a).Inv := by
  obtain ⟨slots, hw⟩ := hi
  exact ⟨_, hw.removeAt h⟩

theorem mem_of_pidLookup {pid : Int32} {a : Nat} (h : r.pidLookup pid = some a) : r.Mem a :=
  ⟨_, (pidLookup_eq_some h).1⟩

theorem SameShape.mem_iff {r' : Registry} (h : SameShape r' r) {a : Nat} : r'.Mem a ↔ r.Mem a := by
  simp only [Mem, h.pidhash]

end Lemmas

end Registry

open Registry

theorem pidRemove_inv {g : Globals} (hi : g.reg.Inv) (pid : Int32) :
    (pidRemove g pid).1.reg.Inv := by
  rw [pidRemove_reg]
  split
  · exact hi
  · rename_i a h
    exact hi.removeAt h

end Lmkd
