import Lmkd.Proc

/-!
# What `parse_status_tag` finds

`parse_status_tag(buf, tag, &out)` is the pid-reuse guard of `kill_one_process`
and `apply_proc_prio`: it reads the `Tgid:` line of `/proc/<pid>/status`.  Its
loop calls `strstr` from `pos`, stops at an occurrence at the start of the
buffer or right after a newline, and otherwise searches again one character
further.  The spec says which occurrence that is: the first one of all that
starts a line.  An occurrence inside a line, as in a process name holding
`Tgid:`, is never the one parsed.

The buffer is the string `read_proc_status` leaves, up to its NUL.  The loop
is run with `buf.length + 1` rounds of fuel; `statusTagPos_spec` shows that
they are enough, so the model's answer is the loop's.
-/

namespace Lmkd

def OccursAt (buf tag : List Char) (p : Nat) : Prop := tag <+: buf.drop p

instance (buf tag : List Char) (p : Nat) : Decidable (OccursAt buf tag p) :=
  inferInstanceAs (Decidable (tag <+: buf.drop p))

def LineStart (buf : List Char) (p : Nat) : Prop := p = 0 ∨ buf[p - 1]? = some '\n'

instance (buf : List Char) (p : Nat) : Decidable (LineStart buf p) :=
  inferInstanceAs (Decidable (_ ∨ _))

def FirstLineTag (buf tag : List Char) (p : Nat) : Prop :=
  OccursAt buf tag p ∧ LineStart buf p ∧ ∀ q < p, OccursAt buf tag q → ¬LineStart buf q

instance (buf tag : List Char) (p : Nat) : Decidable (FirstLineTag buf tag p) :=
  inferInstanceAs (Decidable (_ ∧ _ ∧ ∀ q < p, _))

def FirstLineTagFrom (buf tag : List Char) (pos : Nat) : Option Nat → Prop
  | some p => pos ≤ p ∧ OccursAt buf tag p ∧ LineStart buf p ∧
      ∀ q, pos ≤ q → q < p → OccursAt buf tag q → ¬LineStart buf q
  | none => ∀ q, pos ≤ q → OccursAt buf tag q → ¬LineStart buf q

theorem not_lineStart_of_length_lt {buf : List Char} {q : Nat} (h : buf.length < q) :
    ¬LineStart buf q := by
  rintro (hq | hq)
  · omega
  · rw [List.getElem?_eq_none (by omega)] at hq
    cases hq

/-! ## `strstr` -/

theorem strstrFrom_eq_some {tag : List Char} :
    ∀ {s : List Char} {k p : Nat}, strstrFrom tag s k = some p →
      k ≤ p ∧ tag <+: s.drop (p - k) ∧ ∀ i < p - k, ¬tag <+: s.drop i
  | [], k, p, h => by
    simp only [strstrFrom] at h
    split at h
    · next hpre =>
      cases h
      exact ⟨Nat.le_refl k, by simpa using List.isPrefixOf_iff_prefix.mp hpre, fun i hi => by omega⟩
    · cases h
  | c :: t, k, p, h => by
    simp only [strstrFrom] at h
    split at h
    · next hpre =>
      cases h
      exact ⟨Nat.le_refl k, by simpa using List.isPrefixOf_iff_prefix.mp hpre, fun i hi => by omega⟩
    · next hpre =>
      obtain ⟨hkp, hmatch, hfirst⟩ := strstrFrom_eq_some h
      have hidx : p - k = p - (k + 1) + 1 := by omega
      refine ⟨by omega, by rwa [hidx, List.drop_succ_cons], ?_⟩
      intro i hi
      cases i with
      | zero => simpa [List.isPrefixOf_iff_prefix] using hpre
      | succ i => simpa using hfirst i (by omega)

theorem strstrFrom_eq_none {tag : List Char} :
    ∀ {s : List Char} {k : Nat}, strstrFrom tag s k = none → ∀ i, ¬tag <+: s.drop i
  | [], k, h, i => by
    simp only [strstrFrom] at h
    split at h
    · cases h
    · next hpre => simpa [List.isPrefixOf_iff_prefix] using hpre
  | c :: t, k, h, i => by
    simp only [strstrFrom] at h
    split at h
    · cases h
    · next hpre =>
      cases i with
      | zero => simpa [List.isPrefixOf_iff_prefix] using hpre
      | succ i => simpa using strstrFrom_eq_none h i

theorem strstr_eq_some {buf tag : List Char} {pos p : Nat} (h : strstr buf tag pos = some p) :
    pos ≤ p ∧ OccursAt buf tag p ∧ ∀ q, pos ≤ q → q < p → ¬OccursAt buf tag q := by
  obtain ⟨hle, hmatch, hfirst⟩ := strstrFrom_eq_some h
  refine ⟨hle, ?_, fun q hq hqp => ?_⟩
  · rwa [List.drop_drop, Nat.add_sub_cancel' hle] at hmatch
  · have := hfirst (q - pos) (by omega)
    rwa [List.drop_drop, Nat.add_sub_cancel' hq] at this

theorem strstr_eq_none {buf tag : List Char} {pos : Nat} (h : strstr buf tag pos = none) :
    ∀ q, pos ≤ q → ¬OccursAt buf tag q := by
  intro q hq
  have := strstrFrom_eq_none h (q - pos)
  rwa [List.drop_drop, Nat.add_sub_cancel' hq] at this

/-! ## The loop -/

theorem statusTagPos_spec (buf tag : List Char) :
    ∀ fuel pos, buf.length + 1 ≤ fuel + pos →
      FirstLineTagFrom buf tag pos (statusTagPos buf tag fuel pos)
  | 0, pos, hfuel => fun q hq _ => not_lineStart_of_length_lt (by omega)
  | fuel + 1, pos, hfuel => by
    simp only [statusTagPos]
    cases hs : strstr buf tag pos with
    | none => exact fun q hq hocc => absurd hocc (strstr_eq_none hs q hq)
    | some p =>
      obtain ⟨hle, hocc, hfirst⟩ := strstr_eq_some hs
      simp only
      by_cases hline : p = 0 ∨ buf[p - 1]? = some '\n'
      · rw [if_pos hline]
        exact ⟨hle, hocc, hline, fun q hq hqp hq' => absurd hq' (hfirst q hq hqp)⟩
      · rw [if_neg hline]
        -- the next round starts at `p + 1`, past an occurrence inside a line
        have hrest := statusTagPos_spec buf tag fuel (p + 1) (by omega)
        have hskip : ∀ q, pos ≤ q → q < p + 1 → OccursAt buf tag q → ¬LineStart buf q := by
          intro q hq hqp hq'
          rcases Nat.lt_succ_iff_lt_or_eq.mp hqp with hlt | rfl
          · exact absurd hq' (hfirst q hq hlt)
          · exact hline
        cases hr : statusTagPos buf tag fuel (p + 1) with
        | none =>
          rw [hr] at hrest
          intro q hq hq'
          by_cases hqp : q < p + 1
          · exact hskip q hq hqp hq'
          · exact hrest q (by omega) hq'
        | some p' =>
          rw [hr] at hrest
          obtain ⟨hle', hocc', hline', hfirst'⟩ := hrest
          refine ⟨by omega, hocc', hline', fun q hq hqp' hq' => ?_⟩
          by_cases hqp : q < p + 1
          · exact hskip q hq hqp hq'
          · exact hfirst' q (by omega) hqp' hq'

/-- `parse_status_tag` parses the text after the first occurrence of `tag`
that starts a line, past the spaces that follow it, and only that text.  The
search rounds `parseStatusTag` gives the loop are enough, so it always ends
with this answer. -/
theorem parseStatusTag_eq_some_iff (buf tag : List Char) (v : Int) :
    parseStatusTag buf tag = some v ↔
      ∃ p, FirstLineTag buf tag p ∧
        parseInt64 ((buf.drop (p + tag.length)).dropWhile (· = ' ')) = some v := by
  have hspec := statusTagPos_spec buf tag (buf.length + 1) 0 (by omega)
  unfold parseStatusTag
  cases hpos : statusTagPos buf tag (buf.length + 1) 0 with
  | none =>
    rw [hpos] at hspec
    simp only [reduceCtorEq, false_iff, not_exists, not_and]
    exact fun p hp _ => hspec p (Nat.zero_le p) hp.1 hp.2.1
  | some p =>
    rw [hpos] at hspec
    obtain ⟨-, hocc, hline, hfirst⟩ := hspec
    have hp : FirstLineTag buf tag p := ⟨hocc, hline, fun q hq => hfirst q (Nat.zero_le q) hq⟩
    constructor
    · exact fun h => ⟨p, hp, h⟩
    · rintro ⟨p', hp', hv⟩
      have hpp' : p' = p := by
        rcases Nat.lt_trichotomy p' p with hlt | heq | hgt
        · exact absurd hp'.2.1 (hp.2.2 p' hlt hp'.1)
        · exact heq
        · exact absurd hp.2.1 (hp'.2.2 p hgt hp.1)
      rwa [hpp'] at hv

example : FirstLineTag "Name:\tTgid: 7\nTgid:\t1234\n".toList procStatusTgidField 14 := by decide

end Lmkd
