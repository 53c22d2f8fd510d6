import Mathlib.Data.List.Perm.Basic
import Mathlib.Data.List.Nodup

/-!
# Orders chosen by an environment, and folds that do not see them

`permuteBy cs xs` is `xs` in the order that the choices `cs` pick: each
choice takes the element at its index, modulo what is left, and once the
choices run out the rest follows in order.  Every choice list gives a
permutation of `xs` and every permutation is given by some choice list, so a
model that takes its order as `permuteBy cs` covers exactly the orders a
scheduler can produce.

`keyedUpdate` is a step that rewrites one entry of a map, the one of the
item's key, from that entry alone.  A fold of such steps over items with
distinct keys gives the same map in any order (`foldl_keyedUpdate_perm`),
and items whose update is the identity can be dropped from it
(`foldl_keyedUpdate_filter`).  `foldl_simulation` carries a fold of a
concrete step to a fold of its abstraction.

A family of lists indexed by `κ`, listed over a duplicate-free list of
indices, changes by one entry's difference when that entry is updated
(`flatMap_update_perm`): a pool of workers that each hold some tokens trades
the tokens of the worker that moved, and no others.  Writes of values fixed
by their index leave the last value at each index, in any order
(`foldl_update_apply`).
-/

namespace Reorder

variable {α β γ κ σ τ : Type}

def permuteBy : List Nat → List α → List α
  | [], xs => xs
  | _ :: _, [] => []
  | c :: cs, x :: xs =>
    let i := c % (xs.length + 1)
    have hi : i < (x :: xs).length := Nat.mod_lt _ (Nat.succ_pos _)
    (x :: xs)[i] :: permuteBy cs ((x :: xs).eraseIdx i)

theorem permuteBy_perm : ∀ (cs : List Nat) (xs : List α), (permuteBy cs xs).Perm xs
  | [], _ => List.Perm.refl _
  | _ :: _, [] => List.Perm.refl _
  | c :: cs, x :: xs => by
    have hi : c % (xs.length + 1) < (x :: xs).length := Nat.mod_lt _ (Nat.succ_pos _)
    rw [permuteBy]
    exact ((permuteBy_perm cs _).cons _).trans (List.getElem_cons_eraseIdx_perm hi)

theorem permuteBy_cons_idxOf [DecidableEq α] (cs : List Nat) {y : α} {xs : List α}
    (hy : y ∈ xs) :
    permuteBy (xs.idxOf y :: cs) xs = y :: permuteBy cs (xs.eraseIdx (xs.idxOf y)) := by
  cases xs with
  | nil => simp at hy
  | cons x xs =>
    have hlt : (x :: xs).idxOf y < (x :: xs).length := List.idxOf_lt_length_iff.mpr hy
    have hmod : (x :: xs).idxOf y % (xs.length + 1) = (x :: xs).idxOf y :=
      Nat.mod_eq_of_lt hlt
    simp only [permuteBy, hmod, List.getElem_idxOf]

theorem exists_permuteBy_eq [DecidableEq α] :
    ∀ {ys xs : List α}, ys.Perm xs → ∃ cs, permuteBy cs xs = ys
  | [], _, h => ⟨[], by rw [permuteBy]; exact List.perm_nil.mp h.symm⟩
  | y :: ys, xs, h => by
    have hy : y ∈ xs := h.subset (List.mem_cons_self)
    have hlt : xs.idxOf y < xs.length := List.idxOf_lt_length_iff.mpr hy
    have hrest : ys.Perm (xs.eraseIdx (xs.idxOf y)) := by
      have hcons : (y :: ys).Perm (y :: xs.eraseIdx (xs.idxOf y)) := by
        have hget := List.getElem_cons_eraseIdx_perm hlt
        rw [List.getElem_idxOf] at hget
        exact h.trans hget.symm
      exact List.perm_cons y |>.mp hcons
    obtain ⟨cs, hcs⟩ := exists_permuteBy_eq hrest
    exact ⟨xs.idxOf y :: cs, by rw [permuteBy_cons_idxOf cs hy, hcs]⟩

/-! ## Keyed updates -/

section Keyed

variable [DecidableEq κ] (key : β → κ) (f : β → γ → γ)

/-- Rewrite the entry of `b`'s key from that entry. -/
def keyedUpdate (m : κ → γ) (b : β) : κ → γ := Function.update m (key b) (f b (m (key b)))

theorem keyedUpdate_apply (m : κ → γ) (b : β) (k : κ) :
    keyedUpdate key f m b k = if k = key b then f b (m k) else m k := by
  by_cases hk : k = key b
  · subst hk
    simp [keyedUpdate]
  · simp [keyedUpdate, hk]

theorem keyedUpdate_comm {b b' : β} (hne : key b ≠ key b') (m : κ → γ) :
    keyedUpdate key f (keyedUpdate key f m b) b' = keyedUpdate key f (keyedUpdate key f m b') b := by
  funext k
  simp only [keyedUpdate_apply]
  by_cases h : k = key b
  · have h' : k ≠ key b' := fun h' => hne (h.symm.trans h')
    simp [h, hne]
  · by_cases h' : k = key b'
    · subst h'
      simp [h]
    · simp [h, h']

theorem foldl_keyedUpdate_perm {l₁ l₂ : List β} (hp : l₁.Perm l₂) (hnd : (l₁.map key).Nodup)
    (m : κ → γ) : l₁.foldl (keyedUpdate key f) m = l₂.foldl (keyedUpdate key f) m := by
  apply hp.foldl_eq'
  intro x hx y hy z
  by_cases hxy : key x = key y
  · rw [List.inj_on_of_nodup_map hnd hx hy hxy]
  · exact keyedUpdate_comm key f hxy z

theorem foldl_keyedUpdate_of_not_mem {k : κ} :
    ∀ (l : List β) (m : κ → γ), (∀ b ∈ l, key b ≠ k) → l.foldl (keyedUpdate key f) m k = m k
  | [], _, _ => rfl
  | b :: l, m, h => by
    rw [List.foldl_cons, foldl_keyedUpdate_of_not_mem l _ fun b' hb' => h b' (by simp [hb']),
      keyedUpdate_apply, if_neg (Ne.symm (h b (by simp)))]

theorem foldl_keyedUpdate_filter (q : β → Bool) (hid : ∀ b, q b = false → ∀ x, f b x = x) :
    ∀ (l : List β) (m : κ → γ), l.foldl (keyedUpdate key f) m = (l.filter q).foldl (keyedUpdate key f) m
  | [], _ => rfl
  | b :: l, m => by
    by_cases hb : q b
    · rw [List.filter_cons_of_pos hb, List.foldl_cons, List.foldl_cons,
        foldl_keyedUpdate_filter q hid l]
    · have hkeep : keyedUpdate key f m b = m := by
        rw [keyedUpdate, hid b (by simpa using hb), Function.update_eq_self]
      rw [List.filter_cons_of_neg hb, List.foldl_cons, hkeep, foldl_keyedUpdate_filter q hid l]

theorem foldl_keyedUpdate_congr {f' : β → γ → γ} :
    ∀ (l : List β), (∀ b ∈ l, f b = f' b) → ∀ (m : κ → γ),
      l.foldl (keyedUpdate key f) m = l.foldl (keyedUpdate key f') m
  | [], _, _ => rfl
  | b :: l, h, m => by
    have hb : keyedUpdate key f m b = keyedUpdate key f' m b := by
      rw [keyedUpdate, keyedUpdate, h b List.mem_cons_self]
    rw [List.foldl_cons, List.foldl_cons, hb,
      foldl_keyedUpdate_congr l (fun b' hb' => h b' (List.mem_cons_of_mem _ hb'))]

end Keyed

/-! ## Simulation of a fold -/

theorem foldl_simulation (P : σ → Prop) (view : σ → τ) {F : σ → β → σ} {G : τ → β → τ} :
    ∀ (l : List β), (∀ s b, b ∈ l → P s → P (F s b) ∧ view (F s b) = G (view s) b) →
      ∀ (s : σ), P s → P (l.foldl F s) ∧ view (l.foldl F s) = l.foldl G (view s)
  | [], _, _, hs => ⟨hs, rfl⟩
  | b :: l, hstep, s, hs => by
    obtain ⟨hP, hv⟩ := hstep s b List.mem_cons_self hs
    obtain ⟨hP', hv'⟩ := foldl_simulation P view l
      (fun s' b' hb' => hstep s' b' (List.mem_cons_of_mem _ hb')) (F s b) hP
    exact ⟨hP', by rw [List.foldl_cons, hv', hv, List.foldl_cons]⟩

theorem foldl_view_eq (view : σ → τ) {F : σ → β → σ} (hF : ∀ s b, view (F s b) = view s) :
    ∀ (l : List β) (s : σ), view (l.foldl F s) = view s
  | [], _ => rfl
  | b :: l, s => by rw [List.foldl_cons, foldl_view_eq view hF l, hF]

/-! ## One entry of a family -/

section Family

variable [DecidableEq κ]

theorem flatMap_update_perm {k : κ} (f : κ → α) (g : α → List β) (v : α) :
    ∀ {l : List κ}, l.Nodup → k ∈ l →
      ((l.flatMap fun i => g (Function.update f k v i)) ++ g (f k)).Perm
        ((l.flatMap fun i => g (f i)) ++ g v)
  | [], _, hk => absurd hk List.not_mem_nil
  | x :: xs, hnd, hk => by
    obtain ⟨hx, hxs⟩ := List.nodup_cons.mp hnd
    simp only [List.flatMap_cons, List.append_assoc]
    by_cases hxk : x = k
    · subst hxk
      have hrest : (xs.flatMap fun i => g (Function.update f x v i)) = xs.flatMap fun i => g (f i) :=
        List.flatMap_congr fun i hi => by rw [Function.update_of_ne fun h : i = x => hx (h ▸ hi)]
      rw [Function.update_self, hrest]
      refine (List.perm_append_comm_assoc _ _ _).trans ?_
      refine (List.perm_append_comm.append_left _).trans ?_
      exact List.perm_append_comm_assoc _ _ _
    · have hk' : k ∈ xs := (List.mem_cons.mp hk).resolve_left (Ne.symm hxk)
      rw [Function.update_of_ne hxk]
      exact (flatMap_update_perm f g v hxs hk').append_left _

theorem foldl_update_apply (d : κ → α) (j : κ) :
    ∀ (l : List κ) (m : κ → α),
      (l.foldl (fun m i => Function.update m i (d i)) m) j = if j ∈ l then d j else m j
  | [], _ => by simp
  | i :: l, m => by
    rw [List.foldl_cons, foldl_update_apply d j l]
    by_cases hj : j ∈ l
    · simp [hj]
    · by_cases hji : j = i
      · subst hji
        simp
      · simp [hj, hji]

end Family

end Reorder
