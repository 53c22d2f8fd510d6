/-!
# Folds in `Except`

A computation in `Except` that succeeds took every bind with a success
(`bind_eq_ok`); a bind on a known result reduces (`ok_bind`, `error_bind`).  Two folds over one list, related at the start, stay
related when each step of the second that succeeds, on an element of the
list, is matched by a step of the first that succeeds (`foldlM_rel`): the rule for comparing two runs of
one loop under different settings.
-/

namespace ExceptFold

variable {ε α β γ : Type}

@[simp] theorem ok_bind (a : α) (f : α → Except ε β) : (Except.ok a >>= f) = f a := rfl

@[simp] theorem error_bind (e : ε) (f : α → Except ε β) : (Except.error e >>= f) = .error e := rfl

theorem bind_eq_ok {x : Except ε α} {f : α → Except ε β} {b : β} (h : x >>= f = .ok b) :
    ∃ a, x = .ok a ∧ f a = .ok b := by
  cases x with
  | error e => cases h
  | ok a => exact ⟨a, rfl, h⟩

theorem foldlM_rel {f : α → γ → Except ε α} {g : β → γ → Except ε β} (R : α → β → Prop) :
    ∀ (l : List γ), (∀ x ∈ l, ∀ a b b', R a b → g b x = .ok b' → ∃ a', f a x = .ok a' ∧ R a' b') →
      ∀ (a : α) (b b' : β), R a b → l.foldlM g b = .ok b' → ∃ a', l.foldlM f a = .ok a' ∧ R a' b'
  | [], _, a, b, b', hab, h => by
    cases h
    exact ⟨a, rfl, hab⟩
  | x :: l, hstep, a, b, b', hab, h => by
    rw [List.foldlM_cons] at h
    obtain ⟨b₁, hb₁, hrest⟩ := bind_eq_ok h
    obtain ⟨a₁, ha₁, hrel⟩ := hstep x List.mem_cons_self a b b₁ hab hb₁
    have hstep' := fun y hy => hstep y (List.mem_cons_of_mem x hy)
    obtain ⟨a', ha', hrel'⟩ := foldlM_rel R l hstep' a₁ b₁ b' hrel hrest
    refine ⟨a', ?_, hrel'⟩
    rw [List.foldlM_cons, ha₁]
    exact ha'

end ExceptFold
