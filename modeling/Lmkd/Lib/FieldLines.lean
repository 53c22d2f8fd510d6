import Lmkd.Lib.Strtok
import Mathlib

/-!
# Files of key-value lines

A file such as `/proc/meminfo` or `/proc/vmstat` is a sequence of lines, each
a key, spaces, a value and maybe a unit (`render`).  The value is written as
`strtoll` reads it: other white space, an optional sign and decimal digits,
leading zeros allowed, of any magnitude.  A reader that splits the file with
`strtok_r` on newlines, and each line on spaces, gets back the lines
(`strtokCalls_render`), then each line's key (`strtokNext_render_key`) and a
token that starts with the text of its value (`strtokNext_render_value`),
whose digits stop where the unit starts (`takeWhile_isDigit_digits`).

A table that each line overwrites at the entry of its key holds, at every
key, the value of the last line with that key (`foldl_overwrite`, and
`table` for a table indexed by a list of names); a write at the index of the
key in a list of names that do not repeat is such an overwrite
(`update_idxOf`).
-/

namespace FieldLines

open Strtok

/-- A line: a key, `pad + 1` spaces, the text of the value (white space, a
sign, digits), and what follows the digits. -/
structure Line where
  key : List Char
  pad : Nat
  lead : List Char
  sign : List Char
  digits : List Char
  unit : List Char

def Line.valueText (l : Line) : List Char := l.lead ++ l.sign ++ l.digits

def Line.render (l : Line) : List Char :=
  l.key ++ List.replicate (l.pad + 1) ' ' ++ l.valueText ++ l.unit

/-- The digits read most significant first. -/
def digitsNat (ds : List Char) : Nat := ds.foldl (fun acc d => acc * 10 + (d.toNat - '0'.toNat)) 0

/-- The value the text stands for, before any saturation. -/
def Line.value (l : Line) : Int := if l.sign = ['-'] then -(digitsNat l.digits : Int) else digitsNat l.digits

/-- A file of lines, each ended by a newline. -/
def render (lines : List Line) : List Char := lines.flatMap fun l => l.render ++ ['\n']

/-- The white space `strtoll` skips other than the space, which splits the
tokens, and the newline, which splits the lines. -/
def leadSpaces : List Char := ['\t', '\x0b', '\x0c', '\r']

/-- The key is a word, the value is white space, a sign and at least one
digit, and the unit neither continues the digits nor ends the line. -/
structure Line.WellFormed (l : Line) : Prop where
  key_ne_nil : l.key ≠ []
  key_word : ∀ c ∈ l.key, c ≠ ' ' ∧ c ≠ '\n' ∧ c ≠ '\x00'
  lead_space : ∀ c ∈ l.lead, c ∈ leadSpaces
  sign_cases : l.sign = [] ∨ l.sign = ['+'] ∨ l.sign = ['-']
  digits_ne_nil : l.digits ≠ []
  digits_digit : ∀ c ∈ l.digits, c.isDigit = true
  unit_nondigit : ∀ c ∈ l.unit.head?, c.isDigit = false
  unit_line : ∀ c ∈ l.unit, c ≠ '\n' ∧ c ≠ '\x00'

theorem Line.wellFormed_iff (l : Line) : l.WellFormed ↔
    (l.key ≠ [] ∧ l.key.all (fun c => c ≠ ' ' ∧ c ≠ '\n' ∧ c ≠ '\x00') = true ∧
      l.lead.all (· ∈ leadSpaces) = true ∧ (l.sign = [] ∨ l.sign = ['+'] ∨ l.sign = ['-']) ∧
      l.digits ≠ [] ∧ l.digits.all Char.isDigit = true ∧
      l.unit.head?.all (fun c => !c.isDigit) = true ∧ l.unit.all (fun c => c ≠ '\n' ∧ c ≠ '\x00') = true) := by
  have hhead : l.unit.head?.all (fun c => !c.isDigit) = true ↔ ∀ c ∈ l.unit.head?, c.isDigit = false := by
    cases l.unit.head? <;> simp
  simp only [List.all_eq_true, decide_eq_true_eq, hhead]
  exact ⟨fun ⟨h₁, h₂, h₃, h₄, h₅, h₆, h₇, h₈⟩ => ⟨h₁, h₂, h₃, h₄, h₅, h₆, h₇, h₈⟩,
    fun ⟨h₁, h₂, h₃, h₄, h₅, h₆, h₇, h₈⟩ => ⟨h₁, h₂, h₃, h₄, h₅, h₆, h₇, h₈⟩⟩

instance (l : Line) : Decidable l.WellFormed := decidable_of_iff _ l.wellFormed_iff.symm

/-- The value of the last line with key `k`. -/
def lastValue (lines : List Line) (k : List Char) : Option Int :=
  (lines.reverse.find? fun l => l.key = k).map Line.value

/-- The table a file describes over a list of names: at each name, what `g`
makes of the last value given for it, or the entry of `init`. -/
def table {β : Type} {n : Nat} (names : List (List Char)) (g : Int → β) (init : Fin n → β)
    (lines : List Line) : Fin n → β :=
  fun j => ((lastValue lines (names.getD j.val [])).map g).getD (init j)

theorem lastValue_cons (l : Line) (lines : List Line) (k : List Char) :
    lastValue (l :: lines) k = (lastValue lines k).or (if l.key = k then some l.value else none) := by
  unfold lastValue
  rw [List.reverse_cons, List.find?_append, Option.map_or]
  by_cases h : l.key = k <;> simp [h]

/-! ## Digits -/

theorem takeWhile_isDigit_digits {ds u : List Char} (hds : ∀ c ∈ ds, c.isDigit = true)
    (hu : ∀ c ∈ u.head?, c.isDigit = false) : (ds ++ u).takeWhile Char.isDigit = ds := by
  rw [List.takeWhile_append_of_pos hds]
  cases u with
  | nil => simp
  | cons c cs =>
    rw [List.takeWhile_cons_of_neg (by simpa using hu c rfl), List.append_nil]

/-! ## Splitting the file -/

section Render

variable {l : Line}

theorem Line.render_ne_nil (l : Line) : l.render ≠ [] := by
  simp [Line.render]

theorem Line.WellFormed.mem_valueText (hl : l.WellFormed) {c : Char} (hc : c ∈ l.valueText) :
    c ≠ ' ' ∧ c ≠ '\n' ∧ c ≠ '\x00' := by
  simp only [Line.valueText, List.mem_append] at hc
  rcases hc with (hw | hs) | hd
  · have := hl.lead_space c hw
    simp only [leadSpaces, List.mem_cons, List.not_mem_nil, or_false] at this
    rcases this with rfl | rfl | rfl | rfl <;> decide
  · rcases hl.sign_cases with h | h | h <;> rw [h] at hs <;> simp at hs <;> (subst hs; decide)
  · have := hl.digits_digit c hd
    refine ⟨?_, ?_, ?_⟩ <;> (rintro rfl; cases this)

theorem Line.WellFormed.mem_render (hl : l.WellFormed) {c : Char} (hc : c ∈ l.render) :
    c ≠ '\n' ∧ c ≠ '\x00' := by
  simp only [Line.render, List.mem_append, List.mem_replicate] at hc
  rcases hc with ((hk | ⟨-, rfl⟩) | hv) | hu
  · exact ⟨(hl.key_word c hk).2.1, (hl.key_word c hk).2.2⟩
  · exact ⟨by decide, by decide⟩
  · exact (hl.mem_valueText hv).2
  · exact hl.unit_line c hu

theorem mem_render {lines : List Line} (hl : ∀ l ∈ lines, l.WellFormed) {c : Char}
    (hc : c ∈ render lines) : c ≠ '\x00' := by
  simp only [render, List.mem_flatMap, List.mem_append, List.mem_singleton] at hc
  obtain ⟨l, hmem, hc | rfl⟩ := hc
  · exact ((hl l hmem).mem_render hc).2
  · decide

theorem strtokCalls_render {lines : List Line} (hl : ∀ l ∈ lines, l.WellFormed) {n : Nat}
    (hn : lines.length ≤ n) : strtokCalls ['\n'] n (render lines) = lines.map Line.render := by
  have hsplit : render lines = (lines.map Line.render).flatMap (· ++ ['\n']) := by
    simp [render, List.flatMap_map]
  rw [hsplit]
  refine strtokCalls_flatMap ['\n'] List.mem_cons_self _ n ?_ (by simpa using hn)
  intro r hr
  obtain ⟨l, hmem, rfl⟩ := List.mem_map.mp hr
  exact ⟨l.render_ne_nil, fun c hc => by simpa using ((hl l hmem).mem_render hc).1⟩

theorem length_le_length_render (lines : List Line) : lines.length ≤ (render lines).length := by
  induction lines with
  | nil => simp
  | cons l ls ih =>
    simp only [render, List.flatMap_cons, List.length_append, List.length_cons] at ih ⊢
    omega

theorem strtokNext_render_key (hl : l.WellFormed) :
    strtokNext [' '] l.render =
      some (l.key, List.replicate l.pad ' ' ++ l.valueText ++ l.unit) := by
  have h := @strtokNext_append [' '] [] l.key (List.replicate (l.pad + 1) ' ' ++ l.valueText ++ l.unit)
    (by simp) hl.key_ne_nil (fun c hc => by simpa using (hl.key_word c hc).1) (by simp [List.replicate_succ])
  rw [List.nil_append, ← List.append_assoc, ← List.append_assoc] at h
  rw [Line.render, h, List.replicate_succ, List.cons_append, List.cons_append, List.drop_one,
    List.tail_cons]

/-- The second token of a line: the text of the value and what of the unit
comes before a space. -/
def Line.valueToken (l : Line) : List Char := l.valueText ++ l.unit.takeWhile (· ∉ [' '])

theorem strtokNext_render_value (hl : l.WellFormed) :
    ∃ rest, strtokNext [' '] (List.replicate l.pad ' ' ++ l.valueText ++ l.unit) =
      some (l.valueToken, rest) := by
  have hword : ∀ c ∈ l.valueToken, c ∉ [' '] := by
    intro c hc
    rcases List.mem_append.mp hc with hv | hu
    · simpa using (hl.mem_valueText hv).1
    · simpa using List.mem_takeWhile_imp hu
  have hstop : ∀ c ∈ (l.unit.dropWhile (· ∉ [' '])).head?, c ∈ [' '] := by
    intro c hc
    have := List.head?_dropWhile_not (· ∉ [' ']) l.unit
    rw [hc] at this
    simpa using this
  have h := @strtokNext_append [' '] (List.replicate l.pad ' ') l.valueToken (l.unit.dropWhile (· ∉ [' ']))
    (fun c hc => by simp [(List.mem_replicate.mp hc).2]) (by simp [Line.valueToken, Line.valueText, hl.digits_ne_nil])
    hword hstop
  simp only [Line.valueToken, List.append_assoc, List.takeWhile_append_dropWhile] at h ⊢
  exact ⟨_, h⟩

theorem Line.WellFormed.unitToken_head (hl : l.WellFormed) :
    ∀ c ∈ (l.unit.takeWhile (· ∉ [' '])).head?, c.isDigit = false := by
  intro c hc
  rw [List.head?_takeWhile] at hc
  cases hu : l.unit.head? with
  | none => simp [hu] at hc
  | some d =>
    rw [hu] at hc
    simp only [Option.mem_def, Option.filter_eq_some_iff, Option.some.injEq] at hc
    obtain ⟨rfl, -⟩ := hc
    exact hl.unit_nondigit _ hu

end Render

/-! ## The table -/

section Table

variable {κ β : Type}

theorem update_idxOf [BEq κ] [LawfulBEq κ] [DecidableEq κ] {n : Nat} {names : List κ}
    (hlen : names.length = n) (hnodup : names.Nodup) (d : κ) {k : κ} {i : Nat}
    (hi : names.idxOf? k = some i) (h : i < n) (t : Fin n → β) (v : β) :
    Function.update t ⟨i, h⟩ v = fun j : Fin n => if names.getD j.val d = k then v else t j := by
  obtain ⟨hi', hget, -⟩ := List.idxOf?_eq_some_iff.mp hi
  have hgetD : names.getD i d = k := by
    rw [List.getD_eq_getElem?_getD, List.getElem?_eq_getElem hi', Option.getD_some, hget]
  funext j
  by_cases hj : j = ⟨i, h⟩
  · subst hj
    rw [Function.update_self, if_pos hgetD]
  · have hne : names.getD j.val d ≠ k := fun hjk =>
      hj (Fin.ext ((List.getD_inj (hlen ▸ j.isLt) hi' hnodup).mp (hjk.trans hgetD.symm)))
    rw [Function.update_of_ne hj, if_neg hne]

theorem getD_ne_of_idxOf_none [BEq κ] [LawfulBEq κ] {n : Nat} {names : List κ}
    (hlen : names.length = n) (d : κ) {k : κ} (hk : names.idxOf? k = none) (j : Fin n) :
    names.getD j.val d ≠ k := by
  have hj' : j.val < names.length := hlen ▸ j.isLt
  rw [List.getD_eq_getElem?_getD, List.getElem?_eq_getElem hj', Option.getD_some]
  intro hjk
  exact (List.idxOf?_eq_none_iff.mp hk) (hjk ▸ List.getElem_mem hj')

theorem foldl_overwrite {ι : Type} (name : ι → List Char) (g : Int → β) :
    ∀ (lines : List Line) (t : ι → β) (i : ι),
      lines.foldl (fun t l j => if name j = l.key then g l.value else t j) t i =
        ((lastValue lines (name i)).map g).getD (t i)
  | [], t, i => rfl
  | l :: ls, t, i => by
    rw [List.foldl_cons, foldl_overwrite name g ls, lastValue_cons]
    cases lastValue ls (name i) with
    | some v => rfl
    | none => by_cases h : l.key = name i <;> simp [h, eq_comm]

theorem foldl_overwrite_table {n : Nat} (names : List (List Char)) (g : Int → β) (init : Fin n → β)
    (lines : List Line) :
    lines.foldl (fun t l j => if names.getD j.val [] = l.key then g l.value else t j) init =
      table names g init lines := by
  funext j
  exact foldl_overwrite (fun j : Fin n => names.getD j.val []) g lines init j

end Table

theorem foldlM_some {α β : Type} {f : β → α → Option β} {g : β → α → β} :
    ∀ (xs : List α) (b : β), (∀ x ∈ xs, ∀ b, f b x = some (g b x)) → xs.foldlM f b = some (xs.foldl g b)
  | [], _, _ => rfl
  | x :: xs, b, h => by
    rw [List.foldlM_cons, h x List.mem_cons_self b, Option.bind_eq_bind, Option.bind_some,
      foldlM_some xs (g b x) fun y hy => h y (List.mem_cons_of_mem x hy), List.foldl_cons]

end FieldLines
