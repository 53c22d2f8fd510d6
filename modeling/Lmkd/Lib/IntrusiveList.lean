import Mathlib.Logic.Function.Basic
import Mathlib.Data.List.Nodup

/-!
# Intrusive circular doubly linked lists

An intrusive list threads its `next` and `prev` links through the nodes
themselves and closes into a ring at a sentinel head, which is a node too.
The links of every node form one heap value, `Links α`: two total functions
on an arbitrary node type.  `insertAfter` and `unlink` are the two pointer
edits of the classic implementation, written store by store in the order the
stores are made, so that aliasing (an empty ring, whose head is its own
neighbour) is handled by the edit and not by the proof.

`Path l a xs b` says that `a`, the nodes of `xs` and `b` are consecutive in
both directions, and `IsRing l h xs` is the ring with head `h` and members
`xs`, in `next` order.  `IsRing.insertAfter` and `IsRing.unlink` say what an
edit does to its own ring; `Path.insertAfter` and `Path.unlink` are the frame
theorems: a path that avoids the nodes an edit writes is kept.
-/

namespace IntrusiveList

structure Links (α : Type) where
  next : α → α
  prev : α → α

namespace Links

variable {α : Type}

/-- From `a` the `next` links run through `xs` to `b`, and the `prev` links
run back from `b` to `a`. -/
inductive Path (l : Links α) : α → List α → α → Prop
  | last {a b : α} : l.next a = b → l.prev b = a → Path l a [] b
  | cons {a x b : α} {xs : List α} :
      l.next a = x → l.prev x = a → Path l x xs b → Path l a (x :: xs) b

/-- The ring with sentinel `head` and members `xs`, listed in `next` order. -/
def IsRing (l : Links α) (head : α) (xs : List α) : Prop := l.Path head xs head

/-! ## Reading a path -/

theorem Path.next_eq {l : Links α} {a b : α} {xs : List α} (h : l.Path a xs b) :
    l.next a = xs.headD b := by
  cases h with
  | last hn _ => exact hn
  | cons hn _ _ => exact hn

theorem Path.prev_eq {l : Links α} {a b : α} {xs : List α} (h : l.Path a xs b) :
    l.prev b = (a :: xs).getLast (List.cons_ne_nil a xs) := by
  induction h with
  | last _ hp => exact hp
  | cons _ _ _ ih => rw [ih, List.getLast_cons_cons]

theorem path_append_iff {l : Links α} {a b m : α} :
    ∀ {xs ys : List α}, l.Path a (xs ++ m :: ys) b ↔ l.Path a xs m ∧ l.Path m ys b
  | [], ys => by
    constructor
    · rintro (_ | ⟨hn, hp, rest⟩)
      exact ⟨.last hn hp, rest⟩
    · rintro ⟨(_ | _) , rest⟩
      rename_i hn hp
      exact .cons hn hp rest
  | x :: xs, ys => by
    constructor
    · rintro (_ | ⟨hn, hp, rest⟩)
      obtain ⟨h₁, h₂⟩ := path_append_iff.mp rest
      exact ⟨.cons hn hp h₁, h₂⟩
    · rintro ⟨(_ | ⟨hn, hp, rest⟩), h₂⟩
      exact .cons hn hp (path_append_iff.mpr ⟨rest, h₂⟩)

theorem Path.next_mem {l : Links α} {a b y : α} {xs : List α} (h : l.Path a xs b)
    (hy : y ∈ a :: xs) : l.next y ∈ xs ++ [b] := by
  induction h with
  | last hn _ =>
    rw [List.mem_singleton.mp hy, hn]
    exact List.mem_singleton_self _
  | @cons a x b xs hn _ _ ih =>
    rcases List.mem_cons.mp hy with rfl | hy
    · rw [hn]
      exact List.mem_cons_self
    · exact List.mem_cons_of_mem _ (ih hy)

theorem Path.prev_mem {l : Links α} {a b y : α} {xs : List α} (h : l.Path a xs b)
    (hy : y ∈ xs ++ [b]) : l.prev y ∈ a :: xs := by
  induction h with
  | last _ hp =>
    rw [List.mem_singleton.mp hy, hp]
    exact List.mem_singleton_self _
  | @cons a x b xs _ hp _ ih =>
    rcases List.mem_cons.mp hy with rfl | hy
    · rw [hp]
      exact List.mem_cons_self
    · exact List.mem_cons_of_mem _ (ih hy)

theorem Path.prev_next {l : Links α} {a b y : α} {xs : List α} (h : l.Path a xs b)
    (hy : y ∈ a :: xs) : l.prev (l.next y) = y := by
  induction h with
  | last hn hp =>
    rw [List.mem_singleton.mp hy, hn, hp]
  | @cons a x b xs hn hp _ ih =>
    rcases List.mem_cons.mp hy with rfl | hy
    · rw [hn, hp]
    · exact ih hy

theorem Path.next_prev {l : Links α} {a b y : α} {xs : List α} (h : l.Path a xs b)
    (hy : y ∈ xs ++ [b]) : l.next (l.prev y) = y := by
  induction h with
  | last hn hp =>
    rw [List.mem_singleton.mp hy, hp, hn]
  | @cons a x b xs hn hp _ ih =>
    rcases List.mem_cons.mp hy with rfl | hy
    · rw [hp, hn]
    · exact ih hy

/-! ## Frames -/

theorem Path.frame {l l' : Links α} {a b : α} {xs : List α} (h : l.Path a xs b)
    (hnext : ∀ y ∈ a :: xs, l'.next y = l.next y)
    (hprev : ∀ y ∈ xs ++ [b], l'.prev y = l.prev y) : l'.Path a xs b := by
  induction h with
  | last hn hp =>
    exact .last ((hnext _ List.mem_cons_self).trans hn)
      ((hprev _ (List.mem_singleton_self _)).trans hp)
  | @cons a x b xs hn hp _ ih =>
    refine .cons ((hnext _ List.mem_cons_self).trans hn)
      ((hprev _ List.mem_cons_self).trans hp) (ih ?_ ?_)
    · exact fun y hy => hnext y (List.mem_cons_of_mem _ hy)
    · exact fun y hy => hprev y (List.mem_cons_of_mem _ hy)

/-! ## Reading a ring -/

theorem IsRing.next_mem {l : Links α} {head y : α} {xs : List α} (h : l.IsRing head xs)
    (hy : y ∈ head :: xs) : l.next y ∈ xs ++ [head] :=
  Path.next_mem h hy

theorem IsRing.prev_mem {l : Links α} {head y : α} {xs : List α} (h : l.IsRing head xs)
    (hy : y ∈ xs ++ [head]) : l.prev y ∈ head :: xs :=
  Path.prev_mem h hy

theorem IsRing.prev_head {l : Links α} {head : α} {xs : List α} (h : l.IsRing head xs) :
    l.prev head = (head :: xs).getLast (List.cons_ne_nil head xs) :=
  Path.prev_eq h

theorem IsRing.prev_next {l : Links α} {head y : α} {xs : List α} (h : l.IsRing head xs)
    (hy : y ∈ head :: xs) : l.prev (l.next y) = y :=
  Path.prev_next h hy

theorem IsRing.next_prev {l : Links α} {head y : α} {xs : List α} (h : l.IsRing head xs)
    (hy : y ∈ head :: xs) : l.next (l.prev y) = y := by
  apply Path.next_prev h
  rcases List.mem_cons.mp hy with rfl | hy
  · exact List.mem_append_right _ (List.mem_singleton_self _)
  · exact List.mem_append_left _ hy

/-! ## Arrays of rings

An array of rings has a sentinel `head i` for every index `i` of its domain
and ring `i` has the members `(members i).map node`.  Heads and member nodes
are different nodes; member lists are duplicate-free and pairwise disjoint.
An edit of one ring keeps every other ring, because the nodes it writes are
on its own ring. -/

section Family

variable {ι κ : Type}

/-- The rings `i ∈ D` of an array, with heads `head i` and members
`members i`. -/
structure Family (l : Links α) (head : ι → α) (node : κ → α) (members : ι → List κ)
    (D : ι → Prop) : Prop where
  ring : ∀ i, D i → l.IsRing (head i) ((members i).map node)
  nodup : ∀ i, (members i).Nodup
  disjoint : ∀ i j c, c ∈ members i → c ∈ members j → i = j

variable {head : ι → α} {node : κ → α}

theorem Family.node_ne {l : Links α} {members : ι → List κ} {D : ι → Prop}
    (hf : Family l head node members D) (hhead : Function.Injective head)
    (hnode : Function.Injective node) (hne : ∀ i c, head i ≠ node c) {i j : ι} (hij : i ≠ j)
    {y : α} (hy : y = head i ∨ ∃ c ∈ members i, node c = y)
    (hz : y = head j ∨ ∃ c ∈ members j, node c = y) : False := by
  rcases hy with rfl | ⟨c, hc, rfl⟩ <;> rcases hz with hz | ⟨d, hd, hz⟩
  · exact hij (hhead hz)
  · exact hne i d hz.symm
  · exact hne j c hz.symm
  · rw [← hnode hz] at hc
    exact hij (hf.disjoint i j d hc hd)

theorem mem_ring_nodes {ms : List κ} {h y : α} :
    y ∈ h :: ms.map node ↔ y = h ∨ ∃ c ∈ ms, node c = y := by
  simp

theorem mem_ring_nodes' {ms : List κ} {h y : α} :
    y ∈ ms.map node ++ [h] ↔ y = h ∨ ∃ c ∈ ms, node c = y := by
  simp [or_comm]

end Family

/-! ## Edits -/

variable [DecidableEq α]

def setNext (l : Links α) (a b : α) : Links α := { l with next := Function.update l.next a b }

def setPrev (l : Links α) (a b : α) : Links α := { l with prev := Function.update l.prev a b }

@[simp] theorem setNext_next (l : Links α) (a b c : α) :
    (l.setNext a b).next c = if c = a then b else l.next c := by
  simp [setNext, Function.update_apply]

@[simp] theorem setNext_prev (l : Links α) (a b : α) : (l.setNext a b).prev = l.prev := rfl

@[simp] theorem setPrev_prev (l : Links α) (a b c : α) :
    (l.setPrev a b).prev c = if c = a then b else l.prev c := by
  simp [setPrev, Function.update_apply]

@[simp] theorem setPrev_next (l : Links α) (a b : α) : (l.setPrev a b).next = l.next := rfl

/-- Link `x` right after `head`:
`x->prev = head; x->next = head->next; head->next->prev = x; head->next = x`. -/
def insertAfter (l : Links α) (head x : α) : Links α :=
  let n := l.next head
  (((l.setPrev x head).setNext x n).setPrev n x).setNext head x

/-- Take `x` out of the ring it is on:
`x->next->prev = x->prev; x->prev->next = x->next`.  The links of `x` itself
are left as they were. -/
def unlink (l : Links α) (x : α) : Links α :=
  let p := l.prev x
  let n := l.next x
  (l.setPrev n p).setNext p n

theorem insertAfter_next (l : Links α) (head x c : α) :
    (l.insertAfter head x).next c =
      if c = head then x else if c = x then l.next head else l.next c := by
  simp [insertAfter]

theorem insertAfter_prev (l : Links α) (head x c : α) :
    (l.insertAfter head x).prev c =
      if c = l.next head then x else if c = x then head else l.prev c := by
  simp [insertAfter]

theorem unlink_next (l : Links α) (x c : α) :
    (l.unlink x).next c = if c = l.prev x then l.next x else l.next c := by
  simp [unlink]

theorem unlink_prev (l : Links α) (x c : α) :
    (l.unlink x).prev c = if c = l.next x then l.prev x else l.prev c := by
  simp [unlink]

theorem Path.insertAfter {l : Links α} {a b head x : α} {ys : List α} (h : l.Path a ys b)
    (hnext : ∀ y ∈ a :: ys, y ≠ head ∧ y ≠ x)
    (hprev : ∀ y ∈ ys ++ [b], y ≠ l.next head ∧ y ≠ x) :
    (l.insertAfter head x).Path a ys b := by
  refine h.frame (fun y hy => ?_) (fun y hy => ?_)
  · obtain ⟨h₁, h₂⟩ := hnext y hy
    simp [insertAfter_next, h₁, h₂]
  · obtain ⟨h₁, h₂⟩ := hprev y hy
    simp [insertAfter_prev, h₁, h₂]

theorem Path.unlink {l : Links α} {a b x : α} {ys : List α} (h : l.Path a ys b)
    (hnext : ∀ y ∈ a :: ys, y ≠ l.prev x)
    (hprev : ∀ y ∈ ys ++ [b], y ≠ l.next x) :
    (l.unlink x).Path a ys b := by
  refine h.frame (fun y hy => ?_) (fun y hy => ?_)
  · simp [unlink_next, hnext y hy]
  · simp [unlink_prev, hprev y hy]

theorem Path.unlink_mid {l : Links α} {a b x : α} :
    ∀ {xs ys : List α}, l.Path a (xs ++ x :: ys) b →
      (a :: (xs ++ x :: ys)).Nodup → ((xs ++ x :: ys) ++ [b]).Nodup →
      (l.unlink x).Path a (xs ++ ys) b
  | [], [], h, _, _ => by
    obtain _ | ⟨hn, hp, ⟨hn', hp'⟩⟩ := h
    exact .last (by simp [unlink_next, hp, hn']) (by simp [unlink_prev, hp, hn'])
  | [], z :: ys, h, hnd₁, hnd₂ => by
    obtain _ | ⟨hn, hp, _ | ⟨hn', hp', rest⟩⟩ := h
    have ha : a ∉ z :: ys := fun hmem => (List.nodup_cons.mp hnd₁).1 (List.mem_cons_of_mem _ hmem)
    have hz : z ∉ ys ++ [b] := by
      simpa using (List.nodup_cons.mp (List.nodup_cons.mp hnd₂).2).1
    refine .cons (by simp [unlink_next, hp, hn']) (by simp [unlink_prev, hp, hn']) ?_
    refine rest.unlink (fun y hy => ?_) (fun y hy => ?_)
    · rw [hp]
      exact fun hya => ha (hya ▸ hy)
    · rw [hn']
      exact fun hyz => hz (hyz ▸ hy)
  | w :: xs, ys, h, hnd₁, hnd₂ => by
    obtain _ | ⟨hn, hp, rest⟩ := h
    have ih := Path.unlink_mid rest (List.nodup_cons.mp hnd₁).2 (List.nodup_cons.mp hnd₂).2
    have hpx : l.prev x ≠ a := by
      have hmem := rest.prev_mem (y := x) (by simp)
      exact fun hxa => (List.nodup_cons.mp hnd₁).1 (hxa ▸ hmem)
    have hnx : l.next x ≠ w := by
      have hsuffix := (path_append_iff.mp rest).2
      have hmem : l.next x ∈ ys ++ [b] := hsuffix.next_mem List.mem_cons_self
      intro hxw
      rw [hxw] at hmem
      have hw := (List.nodup_cons.mp hnd₂).1
      exact hw (by simp_all)
    exact .cons (by simp [unlink_next, Ne.symm hpx, hn])
      (by simp [unlink_prev, Ne.symm hnx, hp]) ih

/-! ## Editing a ring -/

theorem IsRing.insertAfter {l : Links α} {head x : α} {xs : List α} (h : l.IsRing head xs)
    (hxh : x ≠ head) (hx : x ∉ xs) (hh : head ∉ xs) (hnd : xs.Nodup) :
    (l.insertAfter head x).IsRing head (x :: xs) := by
  unfold IsRing at h ⊢
  cases h with
  | last hn hp =>
    refine .cons (by simp [insertAfter_next]) (by simp [insertAfter_prev, hn, hxh]) (.last ?_ ?_)
    · simp [insertAfter_next, hxh, hn]
    · simp [insertAfter_prev, hn]
  | @cons _ y _ ys hn hp rest =>
    have hyx : x ≠ y := fun hxy => hx (hxy ▸ List.mem_cons_self)
    refine .cons (by simp [insertAfter_next]) (by simp [insertAfter_prev, hn, hyx]) ?_
    refine .cons (by simp [insertAfter_next, hxh, hn]) (by simp [insertAfter_prev, hn]) ?_
    refine rest.insertAfter (fun z hz => ⟨?_, ?_⟩) (fun z hz => ⟨?_, ?_⟩)
    · exact fun hzh => hh (hzh ▸ hz)
    · exact fun hzx => hx (hzx ▸ hz)
    · rw [hn]
      rcases List.mem_append.mp hz with hz | hz
      · exact fun hzy => (List.nodup_cons.mp hnd).1 (hzy ▸ hz)
      · rw [List.mem_singleton.mp hz]
        exact fun hhy => hh (hhy ▸ List.mem_cons_self)
    · rcases List.mem_append.mp hz with hz | hz
      · exact fun hzx => hx (hzx ▸ List.mem_cons_of_mem _ hz)
      · rw [List.mem_singleton.mp hz]
        exact Ne.symm hxh

theorem IsRing.unlink {l : Links α} {head x : α} {xs : List α} (h : l.IsRing head xs)
    (hx : x ∈ xs) (hh : head ∉ xs) (hnd : xs.Nodup) :
    (l.unlink x).IsRing head (xs.erase x) := by
  obtain ⟨pre, post, rfl⟩ := List.append_of_mem hx
  have hpre : x ∉ pre := by
    intro hmem
    exact (List.nodup_append.mp hnd).2.2 x hmem x List.mem_cons_self rfl
  rw [List.erase_append_right _ hpre, List.erase_cons_head]
  have hnd' : ((pre ++ x :: post) ++ [head]).Nodup := by
    rw [List.nodup_append]
    exact ⟨hnd, by simp,
      fun a ha b hb => by rw [List.mem_singleton.mp hb]; exact fun hab => hh (hab ▸ ha)⟩
  exact Path.unlink_mid h (List.nodup_cons.mpr ⟨hh, hnd⟩) hnd'


/-! ## Editing an array of rings -/

section FamilyEdits

variable {ι κ : Type} [DecidableEq ι] {head : ι → α} {node : κ → α}

theorem Family.insertAfter {l : Links α} {members : ι → List κ} {D : ι → Prop}
    (hf : Family l head node members D) (hhead : Function.Injective head)
    (hnode : Function.Injective node) (hne : ∀ i c, head i ≠ node c) {s : ι} {c : κ}
    (hs : D s) (hc : ∀ i, c ∉ members i) :
    Family (l.insertAfter (head s) (node c)) head node
      (Function.update members s (c :: members s)) D := by
  have hcs : node c ∉ (members s).map node := fun hmem => by
    obtain ⟨d, hd, hdc⟩ := List.mem_map.mp hmem
    exact hc s (hnode hdc ▸ hd)
  refine ⟨fun i hi => ?_, fun i => ?_, fun i j d hdi hdj => ?_⟩
  · by_cases his : i = s
    · subst his
      rw [Function.update_self, List.map_cons]
      exact (hf.ring i hi).insertAfter (Ne.symm (hne i c)) hcs
        (fun hmem => by obtain ⟨d, _, hd⟩ := List.mem_map.mp hmem; exact hne i d hd.symm)
        (List.Nodup.map hnode (hf.nodup i))
    · rw [Function.update_of_ne his]
      -- ring `i` reads neither the nodes written at ring `s` nor the new node
      have hnext_s := (hf.ring s hs).next_mem (y := head s) List.mem_cons_self
      rw [mem_ring_nodes'] at hnext_s
      refine Path.insertAfter (hf.ring i hi) (fun y hy => ⟨?_, ?_⟩) (fun y hy => ⟨?_, ?_⟩)
      · intro hys
        exact hf.node_ne hhead hnode hne his (mem_ring_nodes.mp hy) (.inl hys)
      · intro hyc
        rcases mem_ring_nodes.mp hy with rfl | ⟨d, hd, rfl⟩
        · exact hne i c hyc
        · exact hc i (hnode hyc ▸ hd)
      · intro hys
        rw [hys] at hy
        exact hf.node_ne hhead hnode hne his (mem_ring_nodes'.mp hy) hnext_s
      · intro hyc
        rcases mem_ring_nodes'.mp hy with rfl | ⟨d, hd, rfl⟩
        · exact hne i c hyc
        · exact hc i (hnode hyc ▸ hd)
  · by_cases his : i = s
    · subst his
      rw [Function.update_self]
      exact List.nodup_cons.mpr ⟨hc i, hf.nodup i⟩
    · rw [Function.update_of_ne his]
      exact hf.nodup i
  · have hmem : ∀ k, d ∈ Function.update members s (c :: members s) k →
        (d = c ∧ k = s) ∨ d ∈ members k := by
      intro k hk
      by_cases hks : k = s
      · subst hks
        rw [Function.update_self] at hk
        rcases List.mem_cons.mp hk with rfl | hk
        · exact .inl ⟨rfl, rfl⟩
        · exact .inr hk
      · rw [Function.update_of_ne hks] at hk
        exact .inr hk
    rcases hmem i hdi with ⟨rfl, rfl⟩ | hi <;> rcases hmem j hdj with ⟨hdc, rfl⟩ | hj
    · rfl
    · exact absurd hj (hc j)
    · exact absurd (hdc ▸ hi) (hc i)
    · exact hf.disjoint i j d hi hj

theorem Family.unlink [DecidableEq κ] {l : Links α} {members : ι → List κ} {D : ι → Prop}
    (hf : Family l head node members D) (hhead : Function.Injective head)
    (hnode : Function.Injective node) (hne : ∀ i c, head i ≠ node c) {s : ι} {c : κ}
    (hs : D s) (hc : c ∈ members s) :
    Family (l.unlink (node c)) head node
      (Function.update members s ((members s).erase c)) D := by
  have hcs : node c ∈ (members s).map node := List.mem_map_of_mem hc
  refine ⟨fun i hi => ?_, fun i => ?_, fun i j d hdi hdj => ?_⟩
  · by_cases his : i = s
    · subst his
      rw [Function.update_self, List.map_erase hnode]
      exact (hf.ring i hi).unlink hcs
        (fun hmem => by obtain ⟨d, _, hd⟩ := List.mem_map.mp hmem; exact hne i d hd.symm)
        (List.Nodup.map hnode (hf.nodup i))
    · rw [Function.update_of_ne his]
      have hprev := (hf.ring s hs).prev_mem (y := node c) (List.mem_append_left _ hcs)
      have hnext := (hf.ring s hs).next_mem (y := node c) (List.mem_cons_of_mem _ hcs)
      rw [mem_ring_nodes] at hprev
      rw [mem_ring_nodes'] at hnext
      refine Path.unlink (hf.ring i hi) (fun y hy hyp => ?_) (fun y hy hyn => ?_)
      · rw [hyp] at hy
        exact hf.node_ne hhead hnode hne his (mem_ring_nodes.mp hy) hprev
      · rw [hyn] at hy
        exact hf.node_ne hhead hnode hne his (mem_ring_nodes'.mp hy) hnext
  · by_cases his : i = s
    · subst his
      rw [Function.update_self]
      exact (hf.nodup i).erase c
    · rw [Function.update_of_ne his]
      exact hf.nodup i
  · have hmem : ∀ k, d ∈ Function.update members s ((members s).erase c) k → d ∈ members k := by
      intro k hk
      by_cases hks : k = s
      · subst hks
        rw [Function.update_self] at hk
        exact List.mem_of_mem_erase hk
      · rwa [Function.update_of_ne hks] at hk
    exact hf.disjoint i j d (hmem i hdi) (hmem j hdj)

end FamilyEdits

end Links

end IntrusiveList
