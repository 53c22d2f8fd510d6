import Lmkd.Registry.Invariant

/-!
# What the registry mutators leave alone

`Keeps r r' a` says that `r'` still holds record `a` as `r` did: the same
contents, linked from every chain that linked it.  An edit of another
record keeps `a`; so does `claim_record` on any record when `a` has a
registrant, because a claimed record is only ever claimed again by its own
registrant.  `remove_claims(pid)` clears exactly the registrant `pid` of
the chained records.
-/

namespace Lmkd

namespace Registry

structure Keeps (r r' : Registry) (a : Nat) : Prop where
  procs : r'.procs a = r.procs a
  chains : ∀ b, a ∈ r.pidhash b → a ∈ r'.pidhash b

variable {r r' r'' : Registry} {a : Nat}

theorem Keeps.refl (r : Registry) (a : Nat) : Keeps r r a := ⟨rfl, fun _ h => h⟩

theorem Keeps.trans (h₁ : Keeps r r' a) (h₂ : Keeps r' r'' a) : Keeps r r'' a :=
  ⟨h₂.procs.trans h₁.procs, fun b hb => h₂.chains b (h₁.chains b hb)⟩

theorem Keeps.mem (h : Keeps r r' a) (ha : r.Mem a) : r'.Mem a := by
  obtain ⟨b, hb⟩ := ha
  exact ⟨b, h.chains b hb⟩

theorem SameShape.keeps (h : SameShape r' r) (hp : r'.procs a = r.procs a) : Keeps r r' a :=
  ⟨hp, fun _ hb => h.pidhash ▸ hb⟩

theorem keeps_setProc {c : Nat} (hc : c ≠ a) (p : Proc) : Keeps r (r.setProc c p) a :=
  ⟨by rw [setProc_procs, if_neg (Ne.symm hc)], fun _ h => h⟩

theorem claimRecord_ne {c : Nat} {pid : Int32} (hq₀ : (r.procs a).regPid ≠ 0)
    (hq : (r.procs a).regPid ≠ pid) (h : (r.claimRecord c pid).2 = true) : c ≠ a := by
  rintro rfl
  rcases (claimRecord_snd r c pid).mp h with h | h
  · exact hq h
  · exact hq₀ h

theorem keeps_claimRecord (hq₀ : (r.procs a).regPid ≠ 0) (c : Nat) (pid : Int32) :
    Keeps r (r.claimRecord c pid).1 a := by
  dsimp only [claimRecord]
  split_ifs with h₁ h₂
  · exact Keeps.refl r a
  · exact keeps_setProc (fun hca => hq₀ (by rw [← hca]; exact h₂)) _
  · exact Keeps.refl r a

theorem keeps_reslot {c : Nat} (hc : c ≠ a) (oomadj : Int32) : Keeps r (r.reslot c oomadj) a :=
  ⟨by rw [reslot_procs, Function.update_of_ne (Ne.symm hc)], fun b h => by rwa [reslot_pidhash]⟩

theorem keeps_insertNew (ha : a < r.brk) (p : Proc) : Keeps r (r.insertNew p) a := by
  refine ⟨by rw [insertNew_procs, Function.update_of_ne (Nat.ne_of_lt ha)], fun b hb => ?_⟩
  rw [insertNew_pidhash]
  split
  · exact List.mem_cons_of_mem _ hb
  · exact hb

theorem keeps_removeAt {pid : Int32} {c : Nat}
    (hc : (r.pidhash (pidHashfn pid)).find? (r.hasPid pid) = some c) (hca : c ≠ a) :
    Keeps r (r.removeAt pid c) a := by
  refine ⟨removeAt_procs_of_ne r pid (Ne.symm hca), fun b hb => ?_⟩
  rw [removeAt_pidhash]
  split
  · rename_i hbkt
    subst hbkt
    rw [eraseP_eq_erase_of_find? hc]
    exact (List.mem_erase_of_ne (Ne.symm hca)).mpr hb
  · exact hb

theorem SameShape.pidLookup (h : SameShape r' r) (pid : Int32) : r'.pidLookup pid = r.pidLookup pid := by
  have hpid : r'.hasPid pid = r.hasPid pid := by
    funext c
    simp only [hasPid, (h.proc c).1]
  simp only [Registry.pidLookup, h.pidhash, hpid]

/-! ## `remove_claims` -/

theorem clearClaims_procs (pid : Int32) :
    ∀ (r : Registry) (chain : List Nat) (c : Nat), (clearClaims pid r chain).procs c =
      if c ∈ chain ∧ (r.procs c).regPid = pid then { r.procs c with regPid := 0 } else r.procs c
  | r, [], c => by simp [clearClaims]
  | r, x :: chain, c => by
    rw [clearClaims, clearClaims_procs pid _ chain c]
    by_cases hcx : c = x
    · subst hcx
      by_cases hq : (r.procs c).regPid = pid
      · simp [hq, setProc_procs]
      · simp [hq]
    · by_cases hq : (r.procs x).regPid = pid
      · simp [hq, setProc_procs, hcx]
      · simp [hq, hcx]

theorem clearClaimsIn_procs (pid : Int32) :
    ∀ (r : Registry) (buckets : List Nat) (c : Nat), (clearClaimsIn pid r buckets).procs c =
      if (∃ b ∈ buckets, c ∈ r.pidhash b) ∧ (r.procs c).regPid = pid then
        { r.procs c with regPid := 0 }
      else r.procs c
  | r, [], c => by simp [clearClaimsIn]
  | r, i :: buckets, c => by
    have hshape := sameShape_clearClaims pid r (r.pidhash i)
    rw [clearClaimsIn, clearClaimsIn_procs pid _ buckets c, hshape.pidhash, clearClaims_procs]
    by_cases hi : c ∈ r.pidhash i
    · by_cases hq : (r.procs c).regPid = pid
      · by_cases hrest : ∃ b ∈ buckets, c ∈ r.pidhash b <;> simp [hi, hq, hrest]
      · simp [hi, hq]
    · by_cases hrest : ∃ b ∈ buckets, c ∈ r.pidhash b <;> simp [hi, hrest]

theorem removeClaims_procs_of_mem {pid : Int32} {b c : Nat} (hb : b < pidhashSz)
    (hc : c ∈ r.pidhash b) (hq : (r.procs c).regPid = pid) :
    (r.removeClaims pid).procs c = { r.procs c with regPid := 0 } := by
  have h := clearClaimsIn_procs pid r (List.range pidhashSz) c
  rw [if_pos ⟨⟨b, List.mem_range.mpr hb, hc⟩, hq⟩] at h
  rw [removeClaims]
  exact h

theorem removeClaims_procs_of_ne {pid : Int32} {c : Nat} (hq : (r.procs c).regPid ≠ pid) :
    (r.removeClaims pid).procs c = r.procs c := by
  have h := clearClaimsIn_procs pid r (List.range pidhashSz) c
  rw [if_neg fun h => hq h.2] at h
  rw [removeClaims]
  exact h

theorem keeps_removeClaims {pid : Int32} (hq : (r.procs a).regPid ≠ pid) :
    Keeps r (r.removeClaims pid) a :=
  (sameShape_removeClaims r pid).keeps (removeClaims_procs_of_ne hq)

end Registry

end Lmkd
