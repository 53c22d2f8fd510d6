/-!
# Guarded transition systems

A system is an initial state and a step function that returns `none` for an
event the state does not enable.  `runFrom` replays a list of events, so a
concrete run can be evaluated; `Reachable` is the set of states some run
reaches, and `Reachable.induction` is the rule that proves an invariant of
all of them; `runFrom_rel` is the rule for a relation between the two ends
of a run.

`restrict` strengthens the guard with an assumption about the environment:
its reachable states are reachable in the original system, so every
invariant of the original holds of them.  `Refines` says that a map into a
second system sends every step to a step or to no move at all; it then sends
reachable states to reachable states.
-/

namespace Transition

structure System (σ ε : Type) where
  init : σ
  step : σ → ε → Option σ

namespace System

variable {σ ε τ η : Type} (sys : System σ ε)

def runFrom (s : σ) (es : List ε) : Option σ := es.foldlM sys.step s

def run (es : List ε) : Option σ := sys.runFrom sys.init es

inductive Reachable : σ → Prop
  | init : Reachable sys.init
  | step {s s' : σ} {e : ε} : Reachable s → sys.step s e = some s' → Reachable s'

@[simp] theorem runFrom_nil (s : σ) : sys.runFrom s [] = some s := rfl

theorem runFrom_cons (s : σ) (e : ε) (es : List ε) :
    sys.runFrom s (e :: es) = (sys.step s e).bind fun s' => sys.runFrom s' es := rfl

theorem runFrom_append (s : σ) (es es' : List ε) :
    sys.runFrom s (es ++ es') = (sys.runFrom s es).bind fun s' => sys.runFrom s' es' := by
  unfold runFrom
  rw [List.foldlM_append]
  rfl

theorem Reachable.induction {P : σ → Prop} (hinit : P sys.init)
    (hstep : ∀ s e s', P s → sys.step s e = some s' → P s') {s : σ} (h : sys.Reachable s) :
    P s := by
  induction h with
  | init => exact hinit
  | step _ hse ih => exact hstep _ _ _ ih hse

theorem reachable_of_runFrom {s : σ} (hs : sys.Reachable s) :
    ∀ (es : List ε) {s' : σ}, sys.runFrom s es = some s' → sys.Reachable s'
  | [], s', h => by
    rw [runFrom_nil, Option.some_inj] at h
    exact h ▸ hs
  | e :: es, s', h => by
    rw [runFrom_cons] at h
    cases hse : sys.step s e with
    | none => simp [hse] at h
    | some s₁ =>
      rw [hse, Option.bind_some] at h
      exact reachable_of_runFrom (Reachable.step hs hse) es h

theorem reachable_of_run {es : List ε} {s : σ} (h : sys.run es = some s) : sys.Reachable s :=
  sys.reachable_of_runFrom Reachable.init es h

theorem runFrom_rel {R : σ → σ → Prop} {ok : ε → Prop} (hrefl : ∀ s, R s s)
    (htrans : ∀ s₁ s₂ s₃, R s₁ s₂ → R s₂ s₃ → R s₁ s₃)
    (hstep : ∀ s e s', sys.Reachable s → ok e → sys.step s e = some s' → R s s') :
    ∀ {s : σ} (es : List ε) {s' : σ}, sys.Reachable s → (∀ e ∈ es, ok e) →
      sys.runFrom s es = some s' → R s s'
  | s, [], s', _, _, h => by
    rw [runFrom_nil, Option.some_inj] at h
    exact h ▸ hrefl s
  | s, e :: es, s', hs, hok, h => by
    rw [runFrom_cons] at h
    cases hse : sys.step s e with
    | none => simp [hse] at h
    | some s₁ =>
      rw [hse, Option.bind_some] at h
      exact htrans _ _ _ (hstep s e s₁ hs (hok e List.mem_cons_self) hse)
        (runFrom_rel hrefl htrans hstep es (Reachable.step hs hse)
          (fun e' he' => hok e' (List.mem_cons_of_mem _ he')) h)

/-! ## Assumptions on the environment -/

/-- The system whose events are further required to satisfy `ok`. -/
def restrict (ok : σ → ε → Prop) [∀ s e, Decidable (ok s e)] : System σ ε where
  init := sys.init
  step s e := if ok s e then sys.step s e else none

theorem Reachable.of_restrict {ok : σ → ε → Prop} [∀ s e, Decidable (ok s e)] {s : σ}
    (h : (sys.restrict ok).Reachable s) : sys.Reachable s := by
  induction h with
  | init => exact Reachable.init
  | step _ hse ih =>
    simp only [restrict] at hse
    split at hse
    · exact Reachable.step ih hse
    · cases hse

theorem runFrom_restrict {ok : σ → ε → Prop} [∀ s e, Decidable (ok s e)] :
    ∀ (s : σ) (es : List ε), (∀ e ∈ es, ∀ s, ok s e) →
      (sys.restrict ok).runFrom s es = sys.runFrom s es
  | _, [], _ => rfl
  | s, e :: es, h => by
    rw [runFrom_cons, runFrom_cons]
    simp only [restrict, if_pos (h e List.mem_cons_self s)]
    cases sys.step s e with
    | none => rfl
    | some s' => exact runFrom_restrict s' es fun e' he' => h e' (List.mem_cons_of_mem _ he')

/-! ## Refinement -/

/-- `f` maps each step of `sys` from a state satisfying `P` to a step of `spec` or to no move. -/
structure Refines (spec : System τ η) (P : σ → Prop) (f : σ → τ) : Prop where
  init : f sys.init = spec.init
  step : ∀ s e s', P s → sys.step s e = some s' → f s' = f s ∨ ∃ e', spec.step (f s) e' = some (f s')

theorem Refines.reachable {spec : System τ η} {P : σ → Prop} {f : σ → τ}
    (hr : sys.Refines spec P f) (hP : ∀ s, sys.Reachable s → P s) {s : σ}
    (h : sys.Reachable s) : spec.Reachable (f s) := by
  induction h with
  | init => exact hr.init ▸ Reachable.init
  | step hs hse ih =>
    rcases hr.step _ _ _ (hP _ hs) hse with heq | ⟨e', he'⟩
    · exact heq ▸ ih
    · exact Reachable.step ih he'

end System

end Transition
