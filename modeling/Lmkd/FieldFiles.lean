import Lmkd.Meminfo
import Lmkd.Watermarks
import Lmkd.Lib.FieldLines

/-!
# Reading `/proc/meminfo` and `/proc/vmstat` back

Both files are lines of a field name, spaces, a value and maybe a unit, and
both parsers are the shared line parser in a loop over the lines of the
buffer `reread_file` leaves.  `parse_int64` accepts every value `strtoll`
reads a digit of, white space, sign and leading zeros included, and, as
`strtoll` saturates, whatever its magnitude.  On a file of well-formed lines
(`FieldLines.Line.WellFormed`) the parsers return the table the file
describes (`FieldLines.table`): each field holds what the parser stores of
the saturated value of the last line naming it, and a field no line names
keeps its start.  The lines that name no field are skipped, whatever their
position.

The proof goes through the tokens of one line (`strtokNext_lineTokens`),
their match against the field names (`matchField_of_idxOf_some`), the effect
of the line (`parseFieldLine_render`) and the loop
(`foldlM_parseFieldLine_render`); `vmstat_parse` and `meminfo_parse` then
differ only in what they store and where they start.
-/

namespace Lmkd

open Strtok FieldLines

/-! ## Numbers -/

theorem digitsValue_eq_foldl : ∀ (ds : List Char) (acc : Nat),
    digitsValue ds acc = ds.foldl (fun acc d => acc * 10 + (d.toNat - '0'.toNat)) acc
  | [], _ => rfl
  | _ :: ds, _ => digitsValue_eq_foldl ds _

theorem isSpace_of_isDigit {c : Char} (h : c.isDigit = true) : isSpace c = false := by
  refine Bool.eq_false_iff.mpr fun hs => ?_
  simp only [isSpace, Bool.or_eq_true, decide_eq_true_eq] at hs
  rcases hs with ((((hs | hs) | hs) | hs) | hs) | hs <;> (subst hs; revert h; decide)

/-- What `strtoll` returns for the number `v`: `v` saturated to
`[LLONG_MIN, LLONG_MAX]`. -/
def llongSat (v : Int) : Int := max llongMin (min llongMax v)

theorem dropWhile_isSpace_valueToken {l : Line} (hl : l.WellFormed) :
    l.valueToken.dropWhile isSpace = l.sign ++ l.digits ++ l.unit.takeWhile (· ∉ [' ']) := by
  have hlead : ∀ c ∈ l.lead, isSpace c = true := by
    intro c hc
    have := hl.lead_space c hc
    simp only [leadSpaces, List.mem_cons, List.not_mem_nil, or_false] at this
    rcases this with rfl | rfl | rfl | rfl <;> decide
  have hfirst : ∀ c ∈ (l.sign ++ l.digits).head?, isSpace c = false := by
    intro c hc
    rcases hl.sign_cases with hs | hs | hs <;> rw [hs] at hc
    · obtain ⟨d, ds, hds⟩ := List.exists_cons_of_ne_nil hl.digits_ne_nil
      rw [List.nil_append, hds] at hc
      cases hc
      exact isSpace_of_isDigit (hl.digits_digit _ (hds ▸ List.mem_cons_self))
    all_goals
      cases hc
      decide
  obtain ⟨c, cs, hcs⟩ := List.exists_cons_of_ne_nil (l := l.sign ++ l.digits)
    (by simp [hl.digits_ne_nil])
  rw [Line.valueToken, Line.valueText, List.append_assoc, List.append_assoc,
    List.dropWhile_append_of_pos hlead, ← List.append_assoc, hcs, List.cons_append,
    List.dropWhile_cons_of_neg (by simpa using hfirst c (by rw [hcs]; rfl))]

theorem strtoll_valueToken {l : Line} (hl : l.WellFormed) :
    strtoll l.valueToken = some (llongSat l.value) := by
  obtain ⟨d, ds, hds⟩ := List.exists_cons_of_ne_nil hl.digits_ne_nil
  have hd : d.isDigit = true := hl.digits_digit d (hds ▸ List.mem_cons_self)
  have hread : ∀ neg : Bool, (neg = true ↔ l.sign = ['-']) →
      (if (List.takeWhile Char.isDigit (l.digits ++ l.unit.takeWhile (· ∉ [' ']))).isEmpty = true then none
        else some (max llongMin (min llongMax
          (if neg = true then -(digitsValue (List.takeWhile Char.isDigit
              (l.digits ++ l.unit.takeWhile (· ∉ [' ']))) 0 : Int)
            else (digitsValue (List.takeWhile Char.isDigit (l.digits ++ l.unit.takeWhile (· ∉ [' ']))) 0 :
              Int))))) = some (llongSat l.value) := by
    intro neg hneg
    rw [takeWhile_isDigit_digits hl.digits_digit hl.unitToken_head, digitsValue_eq_foldl,
      if_neg (by simp [hl.digits_ne_nil])]
    cases neg <;> simp [Line.value, llongSat, digitsNat, ← hneg]
  unfold strtoll
  rw [dropWhile_isSpace_valueToken hl]
  rcases hl.sign_cases with hs | hs | hs <;> rw [hs]
  · -- no sign: the text starts with a digit
    rw [List.nil_append, hds, List.cons_append]
    dsimp only
    split
    · rename_i h
      obtain ⟨rfl, -⟩ := h
      exact absurd hd (by decide)
    · rename_i h
      obtain ⟨rfl, -⟩ := h
      exact absurd hd (by decide)
    · rw [← List.cons_append, ← hds]
      exact hread false (by simp [hs])
  · rw [List.singleton_append]
    dsimp only
    split
    · rename_i h
      exact absurd (List.cons.inj h).1 (by decide)
    · rename_i h
      obtain ⟨-, rfl⟩ := List.cons.inj h
      exact hread false (by simp [hs])
    · rename_i h
      exact (h _ rfl).elim
  · rw [List.singleton_append]
    dsimp only
    split
    · rename_i h
      obtain ⟨-, rfl⟩ := List.cons.inj h
      exact hread true (by simp [hs])
    · rename_i h
      exact absurd (List.cons.inj h).1 (by decide)
    · rename_i h _
      exact (h _ rfl).elim

theorem parseInt64_valueToken {l : Line} (hl : l.WellFormed) :
    parseInt64 l.valueToken = some (llongSat l.value) := by
  rw [parseInt64, strtoll_valueToken hl]
  exact if_neg (by unfold llongSat llongMin llongMax; omega)

/-! ## One line -/

section Line

variable {l : Line}

theorem strtokNext_lineTokens (hl : l.WellFormed) :
    ∃ rest rest', strtokNext " ".toList l.render = some (l.key, rest) ∧
      strtokNext " ".toList rest = some (l.valueToken, rest') := by
  obtain ⟨rest', h⟩ := strtokNext_render_value hl
  exact ⟨_, rest', strtokNext_render_key hl, h⟩

theorem matchField_of_idxOf_none {names : List (List Char)} (hk : names.idxOf? l.key = none) :
    matchField l.key l.valueToken names = .noMatch := by
  rw [matchField, findField, hk]

theorem matchField_of_idxOf_some (hl : l.WellFormed) {names : List (List Char)} {i : Nat}
    (hk : names.idxOf? l.key = some i) :
    matchField l.key l.valueToken names =
      .parseSuccess i (Int64.ofInt (llongSat l.value)) := by
  rw [matchField, findField, hk]
  dsimp only
  rw [parseInt64_valueToken hl]

end Line

/-! ## The two files -/

theorem cString_render {lines : List Line} (hl : ∀ l ∈ lines, l.WellFormed) :
    cString (render lines) = render lines :=
  List.takeWhile_eq_self_iff.mpr fun _ hc => by simpa using mem_render hl hc

theorem strtokCalls_cString_render {lines : List Line} (hl : ∀ l ∈ lines, l.WellFormed) :
    strtokCalls ['\n'] ((cString (render lines)).length + 1) (cString (render lines)) =
      lines.map Line.render := by
  rw [cString_render hl]
  exact strtokCalls_render hl (by have := length_le_length_render lines; omega)

theorem length_vmstatFieldNames : vmstatFieldNames.length = vsFieldCount := by decide

theorem nodup_vmstatFieldNames : vmstatFieldNames.Nodup := by decide

theorem length_meminfoFieldNames : meminfoFieldNames.length = miFieldCount := by decide

theorem nodup_meminfoFieldNames : meminfoFieldNames.Nodup := by decide

theorem vmstatParseLine_eq (line : List Char) (vs : Fin vsFieldCount → Int64) :
    vmstatParseLine line vs = parseFieldLine vmstatFieldNames id line vs := rfl

section Parser

variable {n : Nat} {fieldNames : List (List Char)} (hlen : fieldNames.length = n)
  (hnodup : fieldNames.Nodup) (store : Int64 → Int64)

include hlen hnodup

theorem parseFieldLine_render {l : Line} (hl : l.WellFormed) (arr : Fin n → Int64) :
    parseFieldLine fieldNames store l.render arr =
      some fun j => if fieldNames.getD j.val [] = l.key then
        store (Int64.ofInt (llongSat l.value)) else arr j := by
  obtain ⟨rest, rest', h1, h2⟩ := strtokNext_lineTokens hl
  rw [parseFieldLine, h1]
  dsimp only
  rw [h2]
  dsimp only
  cases hk : fieldNames.idxOf? l.key with
  | none =>
    rw [matchField_of_idxOf_none hk]
    dsimp only
    congr 1
    funext j
    rw [if_neg (getD_ne_of_idxOf_none hlen [] hk j)]
  | some i =>
    have hi : i < n := hlen ▸ (List.idxOf?_eq_some_iff.mp hk).1
    rw [matchField_of_idxOf_some hl hk]
    dsimp only
    rw [dif_pos hi, update_idxOf hlen hnodup [] hk hi]

theorem foldlM_parseFieldLine_render {lines : List Line} (hl : ∀ l ∈ lines, l.WellFormed)
    (init : Fin n → Int64) :
    (lines.map Line.render).foldlM (fun arr line => parseFieldLine fieldNames store line arr) init =
      some (table fieldNames (fun v => store (Int64.ofInt (llongSat v))) init lines) := by
  rw [List.foldlM_map,
    foldlM_some lines _ fun l hmem arr => parseFieldLine_render hlen hnodup store (hl l hmem) arr]
  exact congrArg some (foldl_overwrite_table fieldNames (fun v => store (Int64.ofInt (llongSat v))) init lines)

end Parser

/-- `vmstat_parse` reads back every file of well-formed lines: each field
holds the value of the last line that names it, and a field that no line
names keeps its start, `-EINVAL` for a `pgskip` counter. -/
theorem vmstatParse_render {lines : List Line} (hl : ∀ l ∈ lines, l.WellFormed) :
    vmstatParse (some (render lines)) =
      some (table vmstatFieldNames (fun v => Int64.ofInt (llongSat v))
        (fun i => if vsPgskipFirstZone ≤ i.val ∧ i.val ≤ vsPgskipLastZone then -eINVAL else 0) lines) := by
  simp only [vmstatParse, strtokCalls_cString_render hl, vmstatParseLine_eq]
  exact foldlM_parseFieldLine_render length_vmstatFieldNames nodup_vmstatFieldNames id hl _

def sampleVmstat : List Line :=
  [⟨"nr_free_pages".toList, 0, [], [], "40000".toList, []⟩,
    ⟨"nr_zone_write_pending".toList, 0, [], [], "3".toList, []⟩,
    ⟨"nr_free_pages".toList, 0, [], [], "039000".toList, []⟩]

theorem vmstatParse_render_sample :
    (∀ l ∈ sampleVmstat, l.WellFormed) ∧
      vmstatParse (some (render sampleVmstat)) =
        some (table vmstatFieldNames (fun v => Int64.ofInt (llongSat v))
          (fun i => if vsPgskipFirstZone ≤ i.val ∧ i.val ≤ vsPgskipLastZone then -eINVAL else 0)
          sampleVmstat) :=
  have hl : ∀ l ∈ sampleVmstat, l.WellFormed := by decide
  ⟨hl, vmstatParse_render hl⟩

/-- `meminfo_parse` reads back every file of well-formed lines: each field
holds, in pages, the value of the last line that names it, or 0. -/
theorem meminfoParse_render (pageK : Int) {lines : List Line} (hl : ∀ l ∈ lines, l.WellFormed) :
    ∃ mi, meminfoParse pageK (some (render lines)) = some mi ∧
      mi.arr = table meminfoFieldNames (fun v => Int64.ofInt (llongSat v) / Int64.ofInt pageK) (fun _ => 0)
        lines ∧
      mi.easyAvailable = mi.arr miNrFreePages + mi.arr miInactiveFile := by
  let t : Fin miFieldCount → Int64 :=
    table meminfoFieldNames (fun v => Int64.ofInt (llongSat v) / Int64.ofInt pageK) (fun _ => 0) lines
  refine ⟨⟨t, t miNrFreePages + t miInactiveFile⟩, ?_, rfl, rfl⟩
  rw [meminfoParse, strtokCalls_cString_render hl]
  simp only [meminfoParseLine]
  rw [foldlM_parseFieldLine_render length_meminfoFieldNames nodup_meminfoFieldNames _ hl]

def sampleMeminfo : List Line :=
  [⟨"MemTotal:".toList, 7, [], [], "3843064".toList, " kB".toList⟩,
    ⟨"MemFree:".toList, 8, [], [], "163412".toList, " kB".toList⟩,
    ⟨"SwapFree:".toList, 7, ['\t'], ['+'], "0001048576".toList, " kB".toList⟩,
    ⟨"MemFree:".toList, 8, [], [], "150000".toList, " kB".toList⟩,
    ⟨"Shmem:".toList, 1, [], [], "99999999999999999999".toList, " kB".toList⟩]

theorem meminfoParse_render_sample :
    (∀ l ∈ sampleMeminfo, l.WellFormed) ∧
      ∃ mi, meminfoParse 4 (some (render sampleMeminfo)) = some mi ∧
        mi.arr = table meminfoFieldNames (fun v => Int64.ofInt (llongSat v) / Int64.ofInt 4) (fun _ => 0)
          sampleMeminfo ∧
        mi.easyAvailable = mi.arr miNrFreePages + mi.arr miInactiveFile :=
  have hl : ∀ l ∈ sampleMeminfo, l.WellFormed := by decide
  ⟨hl, meminfoParse_render 4 hl⟩

example : table meminfoFieldNames (fun v => Int64.ofInt (llongSat v) / Int64.ofInt 4) (fun _ => 0)
    sampleMeminfo miNrFreePages = 37500 ∧
    table meminfoFieldNames (fun v => Int64.ofInt (llongSat v) / Int64.ofInt 4) (fun _ => 0)
      sampleMeminfo miShmem = Int64.ofInt llongMax / 4 := by decide

end Lmkd
