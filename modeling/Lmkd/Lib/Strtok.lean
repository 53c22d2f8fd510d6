import Mathlib.Data.List.Basic

/-!
# `strtok_r`

A call of `strtok_r` skips the delimiters at the save point, returns the
token up to the next delimiter, and saves the point after that delimiter;
it returns `NULL` when only delimiters are left.  A string is a list of
characters without its terminating NUL.

Each call that returns a token consumes at least one character
(`strtokNext_length_lt`), so `n + 1` successive calls on a string of length
`n` return every token it has (`strtokCalls_fuel`).  A token between
delimiters comes back whole (`strtokNext_append`), and so do the lines of a
text that ends each of them with a delimiter (`strtokCalls_flatMap`).
-/

namespace Strtok

variable (delims : List Char)

/-- `strtok_r` at the save point `s`: the token and the new save point. -/
def strtokNext (s : List Char) : Option (List Char × List Char) :=
  match s.dropWhile (· ∈ delims) with
  | [] => none
  | c :: t => some ((c :: t).takeWhile (· ∉ delims), ((c :: t).dropWhile (· ∉ delims)).drop 1)

/-- At most `n` successive calls of `strtok_r` from `s`, with the same
delimiters: the tokens they return. -/
def strtokCalls : Nat → List Char → List (List Char)
  | 0, _ => []
  | n + 1, s =>
    match strtokNext delims s with
    | none => []
    | some (tok, rest) => tok :: strtokCalls n rest

theorem strtokNext_length_lt {s tok rest : List Char} (h : strtokNext delims s = some (tok, rest)) :
    rest.length < s.length := by
  unfold strtokNext at h
  split at h
  · cases h
  · rename_i c t ht
    obtain ⟨-, rfl⟩ := Prod.mk.inj (Option.some.inj h)
    have hsuffix : (c :: t).length ≤ s.length := by
      rw [← ht]
      exact (List.dropWhile_suffix _).length_le
    have hdrop : ((c :: t).dropWhile (· ∉ delims)).length ≤ (c :: t).length :=
      (List.dropWhile_suffix _).length_le
    rw [List.length_drop]
    simp only [List.length_cons] at hsuffix hdrop
    omega

theorem strtokCalls_fuel : ∀ (n m : Nat) (s : List Char), s.length < n → s.length < m →
    strtokCalls delims n s = strtokCalls delims m s
  | 0, _, _, hn, _ => absurd hn (Nat.not_lt_zero _)
  | _ + 1, 0, _, _, hm => absurd hm (Nat.not_lt_zero _)
  | n + 1, m + 1, s, hn, hm => by
    simp only [strtokCalls]
    split
    · rfl
    · rename_i tok rest hnext
      have hlt := strtokNext_length_lt delims hnext
      rw [strtokCalls_fuel n m rest (by omega) (by omega)]

theorem strtokNext_append {pre tok rest : List Char} (hpre : ∀ c ∈ pre, c ∈ delims)
    (htok : tok ≠ []) (hword : ∀ c ∈ tok, c ∉ delims) (hrest : ∀ c ∈ rest.head?, c ∈ delims) :
    strtokNext delims (pre ++ tok ++ rest) = some (tok, rest.drop 1) := by
  obtain ⟨c, t, rfl⟩ := List.exists_cons_of_ne_nil htok
  have hc : c ∉ delims := hword c List.mem_cons_self
  have hdrop : (pre ++ c :: t ++ rest).dropWhile (· ∈ delims) = c :: (t ++ rest) := by
    rw [List.append_assoc, List.dropWhile_append_of_pos (by simpa using hpre)]
    exact List.dropWhile_cons_of_neg (by simpa using hc)
  have hstop : rest.takeWhile (· ∉ delims) = [] ∧ rest.dropWhile (· ∉ delims) = rest := by
    cases rest with
    | nil => simp
    | cons d ds =>
      have hd : d ∈ delims := hrest d rfl
      exact ⟨List.takeWhile_cons_of_neg (by simpa using hd),
        List.dropWhile_cons_of_neg (by simpa using hd)⟩
  have hall : ∀ a ∈ c :: t, decide (a ∉ delims) = true := by simpa using hword
  rw [strtokNext, hdrop]
  dsimp only
  rw [← List.cons_append, List.takeWhile_append_of_pos hall, List.dropWhile_append_of_pos hall,
    hstop.1, hstop.2, List.append_nil]

theorem strtokCalls_flatMap {sep : Char} (hsep : sep ∈ delims) :
    ∀ (lines : List (List Char)) (n : Nat), (∀ l ∈ lines, l ≠ [] ∧ ∀ c ∈ l, c ∉ delims) →
      lines.length ≤ n → strtokCalls delims n (lines.flatMap (· ++ [sep])) = lines
  | [], 0, _, _ => rfl
  | [], _ + 1, _, _ => by simp [strtokCalls, strtokNext]
  | l :: ls, n + 1, hl, hn => by
    obtain ⟨hne, hword⟩ := hl l List.mem_cons_self
    have hnext := @strtokNext_append delims [] l (sep :: ls.flatMap (· ++ [sep])) (by simp) hne hword
      (by simpa using hsep)
    rw [List.nil_append, List.drop_one, List.tail_cons] at hnext
    rw [List.flatMap_cons, List.append_assoc, List.singleton_append, strtokCalls, hnext]
    dsimp only
    rw [strtokCalls_flatMap hsep ls n (fun l' hl' => hl l' (List.mem_cons_of_mem l hl'))
        (by simpa using hn)]

end Strtok
