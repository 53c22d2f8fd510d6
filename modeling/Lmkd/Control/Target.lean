import Lmkd.Control
import Mathlib

/-!
# What `cmd_target` stores

`cmd_target` copies target `i` into `lowmem_minfree[i]` and `lowmem_adj[i]`
and then prints it as `"%d:%d,"` into `minfree_str[PROPERTY_VALUE_MAX]`, and
its loop ends when a text reaches the end of that buffer.  It sets
`lowmem_targets_size` to the packet's count either way.  So target `j` is
stored exactly when the texts of the targets before it fit in the buffer
(`TargetStored`), and the targets after the first text that does not fit keep
the values of an earlier command.

A text is at most 24 characters, so the first three texts always fit and a
packet of at most four targets is applied whole (`targetsStored_of_le_four`).
Five or six targets whose texts before the last need 92 characters or more
are not (`cmdTarget_intMinTargets_stale`).  The
text set as `sys.lmk.minfree_levels` always stays within the buffer.
-/

namespace Lmkd

section Text

variable (packet : Nat → UInt32)

def targetTextPrefix (i : Nat) : Nat :=
  ((List.range i).map fun j => (targetText (lmkdPackGetTarget packet j)).length).sum

/-- The loop of `cmd_target` over `ntargets` targets reaches target `j`: the
texts printed before it leave room in `minfree_str`. -/
def TargetStored (ntargets j : Nat) : Prop :=
  j < ntargets ∧ targetTextPrefix packet j < propertyValueMax

instance (ntargets j : Nat) : Decidable (TargetStored packet ntargets j) :=
  inferInstanceAs (Decidable (_ ∧ _))

theorem targetTextPrefix_succ (i : Nat) :
    targetTextPrefix packet (i + 1) =
      targetTextPrefix packet i + (targetText (lmkdPackGetTarget packet i)).length := by
  rw [targetTextPrefix, targetTextPrefix, List.range_succ, List.map_append, List.sum_append,
    List.map_singleton, List.sum_singleton]

theorem targetTextPrefix_mono {i j : Nat} (h : i ≤ j) :
    targetTextPrefix packet i ≤ targetTextPrefix packet j := by
  induction j with
  | zero => exact (Nat.le_zero.mp h) ▸ Nat.le_refl _
  | succ j ih =>
    rcases Nat.lt_or_eq_of_le h with hlt | rfl
    · rw [targetTextPrefix_succ]
      have := ih (by omega)
      omega
    · exact Nat.le_refl _

theorem int32Text_length_le (x : Int32) : (toString x.toInt).toList.length ≤ 11 := by
  have hlo := Int32.le_toInt x
  have hhi := Int32.toInt_lt x
  generalize x.toInt = v at hlo hhi
  have hten : ∀ m : Nat, m ≤ 2147483648 → (Nat.repr m).toList.length ≤ 10 := fun m hm => by
    rw [Nat.toList_repr, Nat.length_toDigits_le_iff (by decide) (by decide)]
    omega
  cases v with
  | ofNat m =>
    show (Nat.repr m).toList.length ≤ 11
    have := hten m (by simp at hhi; omega)
    omega
  | negSucc m =>
    show ("-" ++ Nat.repr (m + 1)).toList.length ≤ 11
    have hsign : ("-" : String).toList = ['-'] := rfl
    rw [String.toList_append, List.length_append, hsign, List.length_singleton]
    have := hten (m + 1) (by simp [Int.negSucc_eq] at hlo; omega)
    omega

theorem targetText_length_le (t : LmkTarget) : (targetText t).length ≤ 24 := by
  have h₁ := int32Text_length_le t.minfree
  have h₂ := int32Text_length_le t.oomAdjScore
  simp only [targetText, List.length_append, List.length_cons, List.length_nil]
  omega

theorem targetTextPrefix_le (i : Nat) : targetTextPrefix packet i ≤ 24 * i := by
  induction i with
  | zero => simp [targetTextPrefix]
  | succ i ih =>
    rw [targetTextPrefix_succ]
    have := targetText_length_le (lmkdPackGetTarget packet i)
    omega

theorem targetText_length_pos (t : LmkTarget) : 0 < (targetText t).length := by
  simp only [targetText, List.length_append, List.length_cons]
  omega

theorem not_targetStored_of_le {ntargets i j : Nat} (h : ntargets ≤ i) (hij : i ≤ j) :
    ¬TargetStored packet ntargets j := fun hs => by
  have := hs.1
  omega

end Text

/-! ## The copy loop -/

/-- What the loop of `cmd_target` from target `i` leaves when started on `g`
with the texts of the targets before `i` printed: only `lowmem_minfree` and
`lowmem_adj` change, and they take the values of the stored targets from `i`
on; fewer than `PROPERTY_VALUE_MAX` characters are printed, and `pstr` ends
at most at the end of the buffer, past the first text when one was printed. -/
structure TargetsCopied (packet : Nat → UInt32) (ntargets i : Nat) (g : Globals)
    (r : Globals × Nat × List Char) : Prop where
  frame : r.1 = { g with lowmemMinfree := r.1.lowmemMinfree, lowmemAdj := r.1.lowmemAdj }
  minfree : ∀ j, r.1.lowmemMinfree j =
    if i ≤ j ∧ TargetStored packet ntargets j then (lmkdPackGetTarget packet j).minfree
    else g.lowmemMinfree j
  adj : ∀ j, r.1.lowmemAdj j =
    if i ≤ j ∧ TargetStored packet ntargets j then (lmkdPackGetTarget packet j).oomAdjScore
    else g.lowmemAdj j
  printed : r.2.2.length ≤ r.2.1 ∧ r.2.2.length < propertyValueMax
  pos : targetTextPrefix packet i ≤ r.2.1 ∧ r.2.1 ≤ propertyValueMax
  pos_pos : i < ntargets → 0 < r.2.1

theorem TargetsCopied.minfreeLevels {packet : Nat → UInt32} {ntargets i : Nat} {g : Globals}
    {r : Globals × Nat × List Char} (h : TargetsCopied packet ntargets i g r) :
    r.1.minfreeLevels = g.minfreeLevels := by
  rw [h.frame]

section Loop

variable (packet : Nat → UInt32) (ntargets : Nat)

theorem targetsCopied_stop {i : Nat} (g : Globals) {buf : List Char} (h : ntargets ≤ i)
    (hpos : targetTextPrefix packet i < propertyValueMax)
    (hbuf : buf.length = targetTextPrefix packet i) :
    TargetsCopied packet ntargets i g (g, targetTextPrefix packet i, buf) where
  frame := rfl
  minfree j := by
    by_cases hij : i ≤ j
    · rw [if_neg fun hs => not_targetStored_of_le packet h hij hs.2]
    · rw [if_neg fun hs => hij hs.1]
  adj j := by
    by_cases hij : i ≤ j
    · rw [if_neg fun hs => not_targetStored_of_le packet h hij hs.2]
    · rw [if_neg fun hs => hij hs.1]
  printed := ⟨Nat.le_of_eq hbuf, show buf.length < propertyValueMax by omega⟩
  pos := ⟨Nat.le_refl _, Nat.le_of_lt hpos⟩
  pos_pos hi := absurd h (by omega)

theorem targetStored_self {i : Nat} (hi : i < ntargets)
    (hpos : targetTextPrefix packet i < propertyValueMax) : TargetStored packet ntargets i :=
  ⟨hi, hpos⟩

theorem cmdTargetLoop_spec :
    ∀ fuel i (g : Globals) (buf : List Char), ntargets ≤ i + fuel →
      targetTextPrefix packet i < propertyValueMax → buf.length = targetTextPrefix packet i →
      TargetsCopied packet ntargets i g
        (cmdTargetLoop packet ntargets fuel i g (targetTextPrefix packet i) buf)
  | 0, i, g, buf, hfuel, hpos, hbuf => targetsCopied_stop packet ntargets g (by omega) hpos hbuf
  | fuel + 1, i, g, buf, hfuel, hpos, hbuf => by
    simp only [cmdTargetLoop]
    by_cases hi : ntargets ≤ i
    · rw [if_pos hi]
      exact targetsCopied_stop packet ntargets g hi hpos hbuf
    rw [if_neg hi]
    have hstored := targetStored_self packet ntargets (by omega) hpos
    have hnext := targetTextPrefix_succ packet i
    have hlen := targetText_length_pos (lmkdPackGetTarget packet i)
    by_cases hstop : propertyValueMax ≤
        targetTextPrefix packet i + (targetText (lmkdPackGetTarget packet i)).length
    · -- the text of target `i` reaches the end of `minfree_str`: the loop ends
      rw [if_pos hstop]
      have hlater : ∀ j, i < j → ¬TargetStored packet ntargets j := fun j hij hs => by
        have := targetTextPrefix_mono packet (show i + 1 ≤ j by omega)
        have := hs.2
        omega
      refine ⟨rfl, fun j => ?_, fun j => ?_, ?_, ⟨show _ ≤ propertyValueMax by omega, Nat.le_refl _⟩,
        fun _ => show 0 < propertyValueMax by decide⟩
      · dsimp only
        by_cases hj : j = i
        · subst hj
          simp [hstored]
        · rw [Function.update_of_ne hj, if_neg fun hs => hlater j (by omega) hs.2]
      · dsimp only
        by_cases hj : j = i
        · subst hj
          simp [hstored]
        · rw [Function.update_of_ne hj, if_neg fun hs => hlater j (by omega) hs.2]
      · dsimp only
        simp only [List.length_append, List.length_take]
        unfold propertyValueMax at hpos ⊢
        omega
    · rw [if_neg hstop, ← hnext]
      have hbuf' : (buf ++ (targetText (lmkdPackGetTarget packet i)).take
          (propertyValueMax - targetTextPrefix packet i - 1)).length =
            targetTextPrefix packet (i + 1) := by
        rw [List.length_append, List.take_of_length_le (by omega), hbuf, hnext]
      have ih := cmdTargetLoop_spec fuel (i + 1)
        { g with
          lowmemMinfree := Function.update g.lowmemMinfree i (lmkdPackGetTarget packet i).minfree
          lowmemAdj := Function.update g.lowmemAdj i (lmkdPackGetTarget packet i).oomAdjScore }
        _ (by omega) (by omega) hbuf'
      refine ⟨by rw [ih.frame], fun j => ?_, fun j => ?_, ih.printed,
        ⟨by have := ih.pos.1; omega, ih.pos.2⟩, fun _ => by have := ih.pos.1; omega⟩
      · rw [ih.minfree j]
        dsimp only
        by_cases hj : j = i
        · subst hj
          simp [hstored]
        · rw [Function.update_of_ne hj]
          by_cases hij : i + 1 ≤ j
          · simp only [hij, show i ≤ j by omega, true_and]
          · rw [if_neg fun hs => hij hs.1, if_neg fun hs => hj (by have := hs.1; omega)]
      · rw [ih.adj j]
        dsimp only
        by_cases hj : j = i
        · subst hj
          simp [hstored]
        · rw [Function.update_of_ne hj]
          by_cases hij : i + 1 ≤ j
          · simp only [hij, show i ≤ j by omega, true_and]
          · rw [if_neg fun hs => hij hs.1, if_neg fun hs => hj (by have := hs.1; omega)]

end Loop

/-! ## `cmd_target` -/

theorem cmdTarget_stores (g : Globals) (now : Timespec) (ntargets : Nat) (packet : Nat → UInt32)
    (hn : 1 ≤ ntargets ∧ ntargets ≤ maxTargets)
    (hrate : targetUpdateMinIntervalMs ≤ getTimeDiffMs g.lastReqTm now) :
    (cmdTarget g (some now) ntargets packet).lowmemTargetsSize = ntargets ∧
      (∀ j, (cmdTarget g (some now) ntargets packet).lowmemMinfree j =
        if TargetStored packet ntargets j then (lmkdPackGetTarget packet j).minfree
        else g.lowmemMinfree j) ∧
      (∀ j, (cmdTarget g (some now) ntargets packet).lowmemAdj j =
        if TargetStored packet ntargets j then (lmkdPackGetTarget packet j).oomAdjScore
        else g.lowmemAdj j) ∧
      ∃ s, (cmdTarget g (some now) ntargets packet).minfreeLevels = s :: g.minfreeLevels ∧
        s.length < propertyValueMax := by
  have h0 : targetTextPrefix packet 0 = 0 := rfl
  have hloop := cmdTargetLoop_spec packet ntargets maxTargets 0 { g with lastReqTm := now } []
    (by omega) (by rw [h0]; decide) rfl
  rw [h0] at hloop
  unfold cmdTarget
  rw [if_neg (by omega)]
  simp only
  rw [if_neg (by omega)]
  refine ⟨rfl, fun j => ?_, fun j => ?_, ?_⟩
  · simp [hloop.minfree j]
  · simp [hloop.adj j]
  · refine ⟨_, congrArg (List.cons _) hloop.minfreeLevels, ?_⟩
    rw [List.length_take]
    have := hloop.printed.2
    omega

theorem targetsStored_iff (packet : Nat → UInt32) {ntargets : Nat} (hn : 1 ≤ ntargets) :
    (∀ j < ntargets, TargetStored packet ntargets j) ↔
      targetTextPrefix packet (ntargets - 1) < propertyValueMax := by
  constructor
  · intro h
    exact (h (ntargets - 1) (by omega)).2
  · intro h j hj
    exact ⟨hj, Nat.lt_of_le_of_lt (targetTextPrefix_mono packet (by omega)) h⟩

theorem targetsStored_of_le_four (packet : Nat → UInt32) {ntargets : Nat} (hn : 1 ≤ ntargets)
    (h4 : ntargets ≤ 4) : ∀ j < ntargets, TargetStored packet ntargets j := by
  rw [targetsStored_iff packet hn]
  have := targetTextPrefix_le packet (ntargets - 1)
  unfold propertyValueMax
  omega

def intMinTargetsPacket : Nat → UInt32 :=
  WordArray.ofList (Request.pack (.target (List.replicate 6 ⟨-2147483648, -2147483648⟩))) fun _ => 0

/-- The six-target packet passes the length checks, and `cmd_target` from
boot sets `lowmem_targets_size = 6`, but its fourth text ends the loop at 96
characters: `lowmem_minfree[4]` and `lowmem_adj[5]` keep their boot values. -/
theorem cmdTarget_intMinTargets_stale :
    ctrlCommandDispatch 52 intMinTargetsPacket = .target 6 ∧
      (cmdTarget Globals.boot (some ⟨1, 0⟩) 6 intMinTargetsPacket).lowmemTargetsSize = 6 ∧
      (lmkdPackGetTarget intMinTargetsPacket 4).minfree = -2147483648 ∧
      (cmdTarget Globals.boot (some ⟨1, 0⟩) 6 intMinTargetsPacket).lowmemMinfree 4 = 0 ∧
      (lmkdPackGetTarget intMinTargetsPacket 5).oomAdjScore = -2147483648 ∧
      (cmdTarget Globals.boot (some ⟨1, 0⟩) 6 intMinTargetsPacket).lowmemAdj 5 = 0 := by
  obtain ⟨hsize, hmin, hadj, -⟩ := cmdTarget_stores Globals.boot ⟨1, 0⟩ 6 intMinTargetsPacket
    (by decide) (by decide)
  -- the texts of targets 0 to 3 already take 96 characters
  have h4 : ¬ TargetStored intMinTargetsPacket 6 4 := by decide +kernel
  have h5 : ¬ TargetStored intMinTargetsPacket 6 5 := by decide +kernel
  refine ⟨by decide +kernel, hsize, by decide +kernel, ?_, by decide +kernel, ?_⟩
  · rw [hmin 4, if_neg h4]
    rfl
  · rw [hadj 5, if_neg h5]
    rfl

end Lmkd
