import Mathlib.Logic.Function.Basic
import Mathlib.Data.List.Nodup

/-!
# Chained hash tables

A chained hash table keeps the entries of key `k` in bucket `hash k`; a
bucket is the list of entries its chain visits, first to last.  `pushFront`
links a new entry at the head of its chain, `erase` unlinks the first entry of
a key and `lookup` walks the chain to the first entry of a key.

`WellFormed` says every entry sits in the bucket of its key and no bucket
repeats a key.  Then the table stands for the partial map `lookup`: `erase` is
a deletion (`lookup_erase`), `pushFront` of an absent key an update
(`lookup_pushFront`), `empty` the empty map, and no key has two entries in
all the chains together (`WellFormed.countP_range_le_one`).
-/

namespace HashChains

variable {κ ν : Type} [DecidableEq κ]

abbrev Buckets (κ ν : Type) := Nat → List (κ × ν)

def empty : Buckets κ ν := fun _ => []

def lookup (hash : κ → Nat) (t : Buckets κ ν) (k : κ) : Option ν :=
  ((t (hash k)).find? fun e => e.1 = k).map Prod.snd

def pushFront (hash : κ → Nat) (t : Buckets κ ν) (k : κ) (v : ν) : Buckets κ ν :=
  Function.update t (hash k) ((k, v) :: t (hash k))

def erase (hash : κ → Nat) (t : Buckets κ ν) (k : κ) : Buckets κ ν :=
  Function.update t (hash k) ((t (hash k)).eraseP fun e => e.1 = k)

structure WellFormed (hash : κ → Nat) (t : Buckets κ ν) : Prop where
  hashed : ∀ b e, e ∈ t b → hash e.1 = b
  nodup : ∀ b, ((t b).map Prod.fst).Nodup

variable {hash : κ → Nat}

/-! ## Chains -/

theorem find?_eraseP_self {k : κ} :
    ∀ {l : List (κ × ν)}, (l.map Prod.fst).Nodup →
      (l.eraseP fun e => e.1 = k).find? (fun e => e.1 = k) = none
  | [], _ => rfl
  | e :: l, hnd => by
    rw [List.map_cons, List.nodup_cons] at hnd
    by_cases he : e.1 = k
    · rw [List.eraseP_cons_of_pos (by simpa using he), List.find?_eq_none]
      intro x hx hxk
      exact hnd.1 (he ▸ (of_decide_eq_true hxk) ▸ List.mem_map_of_mem hx)
    · rw [List.eraseP_cons_of_neg (by simpa using he), List.find?_cons_of_neg (by simpa using he)]
      exact find?_eraseP_self hnd.2

theorem find?_eraseP_of_ne {k k' : κ} (hne : k' ≠ k) :
    ∀ l : List (κ × ν), (l.eraseP fun e => e.1 = k).find? (fun e => e.1 = k') =
      l.find? fun e => e.1 = k'
  | [] => rfl
  | e :: l => by
    by_cases he : e.1 = k
    · have he' : ¬e.1 = k' := fun h => hne (h ▸ he)
      rw [List.eraseP_cons_of_pos (by simpa using he), List.find?_cons_of_neg (by simpa using he')]
    · rw [List.eraseP_cons_of_neg (by simpa using he)]
      by_cases he' : e.1 = k'
      · rw [List.find?_cons_of_pos (by simpa using he'), List.find?_cons_of_pos (by simpa using he')]
      · rw [List.find?_cons_of_neg (by simpa using he'), List.find?_cons_of_neg (by simpa using he'),
          find?_eraseP_of_ne hne l]

/-! ## Lookups -/

@[simp] theorem lookup_empty (k : κ) : lookup hash (empty : Buckets κ ν) k = none := rfl

theorem lookup_pushFront (t : Buckets κ ν) (k k' : κ) (v : ν) :
    lookup hash (pushFront hash t k v) k' = if k' = k then some v else lookup hash t k' := by
  by_cases hk : k' = k
  · subst hk
    simp [lookup, pushFront]
  · rw [if_neg hk]
    by_cases hb : hash k' = hash k
    · have hk' : ¬k = k' := fun h => hk h.symm
      simp [lookup, pushFront, hb, hk']
    · simp [lookup, pushFront, hb]

theorem lookup_erase {t : Buckets κ ν} (hw : WellFormed hash t) (k k' : κ) :
    lookup hash (erase hash t k) k' = if k' = k then none else lookup hash t k' := by
  by_cases hk : k' = k
  · subst hk
    simp only [lookup, erase, Function.update_self, find?_eraseP_self (hw.nodup _), if_true,
      Option.map_none]
  · rw [if_neg hk]
    by_cases hb : hash k' = hash k
    · simp only [lookup, erase, hb, Function.update_self, find?_eraseP_of_ne hk]
    · simp only [lookup, erase, Function.update_of_ne hb]

theorem lookup_eq_none_iff {t : Buckets κ ν} {k : κ} :
    lookup hash t k = none ↔ ∀ e ∈ t (hash k), e.1 ≠ k := by
  simp [lookup, List.find?_eq_none]

/-! ## Keeping the invariant -/

omit [DecidableEq κ] in
theorem wellFormed_empty : WellFormed hash (empty : Buckets κ ν) :=
  ⟨fun _ _ h => absurd h List.not_mem_nil, fun _ => List.nodup_nil⟩

theorem WellFormed.pushFront {t : Buckets κ ν} (hw : WellFormed hash t) {k : κ}
    (hk : lookup hash t k = none) (v : ν) : WellFormed hash (pushFront hash t k v) := by
  constructor
  · intro b e he
    by_cases hb : b = hash k
    · subst hb
      rw [HashChains.pushFront, Function.update_self] at he
      rcases List.mem_cons.mp he with rfl | he
      · rfl
      · exact hw.hashed _ e he
    · rw [HashChains.pushFront, Function.update_of_ne hb] at he
      exact hw.hashed b e he
  · intro b
    by_cases hb : b = hash k
    · subst hb
      rw [HashChains.pushFront, Function.update_self, List.map_cons, List.nodup_cons]
      refine ⟨fun hmem => ?_, hw.nodup _⟩
      obtain ⟨e, he, hek⟩ := List.mem_map.mp hmem
      exact lookup_eq_none_iff.mp hk e he hek
    · rw [HashChains.pushFront, Function.update_of_ne hb]
      exact hw.nodup b

theorem WellFormed.erase {t : Buckets κ ν} (hw : WellFormed hash t) (k : κ) :
    WellFormed hash (erase hash t k) := by
  have hsub : ∀ b, List.Sublist ((HashChains.erase hash t k) b) (t b) := by
    intro b
    by_cases hb : b = hash k
    · subst hb
      rw [HashChains.erase, Function.update_self]
      exact List.eraseP_sublist
    · rw [HashChains.erase, Function.update_of_ne hb]
  exact ⟨fun b e he => hw.hashed b e ((hsub b).subset he),
    fun b => (hw.nodup b).sublist ((hsub b).map Prod.fst)⟩

/-! ## One entry per key -/

theorem WellFormed.countP_eq_zero {t : Buckets κ ν} (hw : WellFormed hash t) {k : κ} {b : Nat}
    (hb : b ≠ hash k) : (t b).countP (fun e => e.1 = k) = 0 := by
  rw [List.countP_eq_zero]
  intro e he hek
  exact hb ((hw.hashed b e he).symm.trans (by rw [of_decide_eq_true hek]))

theorem WellFormed.countP_le_one {t : Buckets κ ν} (hw : WellFormed hash t) (k : κ) (b : Nat) :
    (t b).countP (fun e => e.1 = k) ≤ 1 := by
  have hcount := List.nodup_iff_count_le_one.mp (hw.nodup b) k
  rwa [List.count_eq_countP, List.countP_map] at hcount

theorem WellFormed.countP_range_le_one {t : Buckets κ ν} (hw : WellFormed hash t) (k : κ) :
    ∀ n, ((List.range n).flatMap t).countP (fun e => e.1 = k) ≤ 1
  | 0 => by simp
  | n + 1 => by
    rw [List.range_succ, List.flatMap_append, List.countP_append, List.flatMap_singleton]
    by_cases hn : n = hash k
    · -- the chain of `k` is the last; the ones before hold no entry of `k`
      have hbefore : ((List.range n).flatMap t).countP (fun e => e.1 = k) = 0 := by
        rw [List.countP_eq_zero]
        intro e he hek
        obtain ⟨b, hb, he⟩ := List.mem_flatMap.mp he
        have hbe := hw.hashed b e he
        rw [of_decide_eq_true hek] at hbe
        rw [List.mem_range] at hb
        omega
      rw [hbefore, Nat.zero_add]
      exact hw.countP_le_one k n
    · rw [hw.countP_eq_zero hn, Nat.add_zero]
      exact hw.countP_range_le_one k n

end HashChains
