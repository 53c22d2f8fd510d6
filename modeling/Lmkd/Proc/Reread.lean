import Lmkd.Proc
import Mathlib

/-!
# `read_all` and `reread_file`

`read_all(fd, buf, max_len)` reads a file from its start with `pread` until
the end of the file, an error, or `max_len` bytes.  `reread_file(data)` reads
a `/proc` file into a buffer that every caller shares: the statics `buf` and
`buf_size` live across calls, and a read that fills `buf_size - 1` bytes
doubles the buffer and reads again, since the size of a `/proc` file is not
known before it is read.

The file's contents do not change between reads; `pread` may still copy fewer
bytes than asked (`PreadAnswers`).  Memory is a function from the index into
the buffer to the byte there, and the loops take fuel they are shown never to
run out of (`readAllLoop_spec`, `rereadLoop_spec`).  `rereadFile_spec` says
what a call returns: the whole file and a NUL, with `buf_size` the first
double of the old size whose buffer holds both, or `NULL`, after a read error
with the descriptor closed and `data->fd` reset to `-1`.
-/

namespace Lmkd

/-- The answers of `pread(fd, buf, count, offset)` on a file whose contents are
`content`: `none` for `-1`, or the number of bytes copied from `offset`.  The
kernel copies at most `count` bytes and no more than the file has from
`offset` on, and copies none with `count > 0` only at the end of the file.
Within one call of `read_all` the offsets grow, so a function of the
arguments can answer each `pread` as the kernel did. -/
structure PreadAnswers (content : List Char) where
  pread : Nat → Nat → Option Nat
  le_count : ∀ count offset r, pread count offset = some r → r ≤ count
  le_remaining : ∀ count offset r, pread count offset = some r → r ≤ content.length - offset
  eof : ∀ count offset, pread count offset = some 0 → 0 < count → content.length ≤ offset

def PreadAnswers.whole (content : List Char) : PreadAnswers content where
  pread count offset := some (min count (content.length - offset))
  le_count _ _ _ h := by
    cases h
    exact Nat.min_le_left _ _
  le_remaining _ _ _ h := by
    cases h
    exact Nat.min_le_right _ _
  eof _ _ h hcount := by
    simp only [Option.some.injEq] at h
    omega

/-- `pread` at `offset` writes the `r` bytes of the file from `offset` to
`buf + offset`. -/
def copyIn (content : List Char) (buf : Nat → Char) (offset r : Nat) : Nat → Char :=
  fun i => if offset ≤ i ∧ i < offset + r then content.getD i '\x00' else buf i

/-- The loop of `read_all` once `ret` bytes are read.  Its `buf`, `offset` and
`ret` advance by the same `r`, so the one index `ret` stands for all three;
`max_len` is what is left to read. -/
def readAllLoop (content : List Char) (pr : PreadAnswers content) :
    Nat → (Nat → Char) → Nat → Nat → (Nat → Char) × Option Nat
  | 0, buf, ret, _ => (buf, some ret)
  | fuel + 1, buf, ret, maxLen =>
    if maxLen = 0 then (buf, some ret)
    else
      match pr.pread maxLen ret with
      | none => (buf, none)
      | some 0 => (buf, some ret)
      | some (r + 1) =>
        readAllLoop content pr fuel (copyIn content buf ret (r + 1)) (ret + (r + 1))
          (maxLen - (r + 1))

/-- `read_all(fd, buf, max_len)`: the buffer afterwards, and the count read or
`none` for `-1`.  Each round reads a byte at least, so `max_len + 1` rounds
are enough. -/
def readAll (content : List Char) (pr : PreadAnswers content) (buf : Nat → Char)
    (maxLen : Nat) : (Nat → Char) × Option Nat :=
  readAllLoop content pr (maxLen + 1) buf 0 maxLen

/-- The statics of `reread_file`: `buf_size`, which starts at the page size
and only doubles, whether `buf` was allocated, and the bytes it holds. -/
structure RereadStatics where
  bufSize : Nat
  bufSize_pos : 0 < bufSize
  allocated : Bool
  buf : Nat → Char

/-- `realloc(buf, buf_size * 2)` and `buf_size *= 2`, with `buf` holding `bytes`. -/
def RereadStatics.grow (st : RereadStatics) (bytes : Nat → Char) : RereadStatics :=
  { st with bufSize := st.bufSize * 2, bufSize_pos := Nat.mul_pos st.bufSize_pos (by decide),
            buf := bytes }

@[simp] theorem RereadStatics.grow_bufSize (st : RereadStatics) (bytes : Nat → Char) :
    (st.grow bytes).bufSize = st.bufSize * 2 := rfl

/-- What the system answers during one call of `reread_file` on a file whose
contents are `content`. -/
structure RereadEnv (content : List Char) where
  /-- the result of `open(data->filename, ...)` -/
  openFd : Int
  mallocOk : Bool
  /-- whether `realloc(buf, size)` succeeds -/
  reallocOk : Nat → Bool
  pr : PreadAnswers content

/-- The state `reread_file` leaves: its statics, `data->fd`, the descriptor it
closed, if any, and the bytes of the buffer it returned, `none` for `NULL`. -/
structure RereadOutcome where
  statics : RereadStatics
  fd : Int
  closed : Option Int
  result : Option (Nat → Char)

/-- The `while (true)` of `reread_file` on descriptor `fd`: read at most
`buf_size - 1` bytes; on an error close the file; when fewer came, end the
string and return the buffer; otherwise double the buffer and read again. -/
def rereadLoop (content : List Char) (env : RereadEnv content) :
    Nat → RereadStatics → Int → RereadOutcome
  | 0, st, fd => ⟨st, fd, none, none⟩
  | fuel + 1, st, fd =>
    let read := readAll content env.pr st.buf (st.bufSize - 1)
    match read.2 with
    | none => ⟨{ st with buf := read.1 }, -1, some fd, none⟩
    | some size =>
      if size < st.bufSize - 1 then
        let buf := Function.update read.1 size '\x00'
        ⟨{ st with buf := buf }, fd, none, some buf⟩
      else if !env.reallocOk (st.bufSize * 2) then ⟨{ st with buf := read.1 }, fd, none, none⟩
      else rereadLoop content env fuel (st.grow read.1) fd

/-- `reread_file(data)` with `data->fd = fd`.  A descriptor of `-1` means the
file is not open: the first call allocates `buf`, and the file is opened.
The loop runs at most `content.length + 2` rounds. -/
def rereadFile (content : List Char) (env : RereadEnv content) (st : RereadStatics) (fd : Int) :
    RereadOutcome :=
  if fd = -1 then
    if !st.allocated && !env.mallocOk then ⟨st, fd, none, none⟩
    else
      let st := { st with allocated := true }
      if env.openFd < 0 then ⟨st, env.openFd, none, none⟩
      else rereadLoop content env (content.length + 2) st env.openFd
  else rereadLoop content env (content.length + 2) st fd

/-! ## `read_all` -/

section ReadAll

variable {content : List Char} (pr : PreadAnswers content)

/-- What a `read_all` loop that ends without an error leaves: the count is
`ret + max_len` cut at the end of the file, the buffer holds the file's bytes
from `ret` up to the count, and nothing else changed. -/
def ReadAllOk (content : List Char) (buf buf' : Nat → Char) (ret maxLen size : Nat) : Prop :=
  size = min (ret + maxLen) content.length ∧
    (∀ i, ret ≤ i → i < size → buf' i = content.getD i '\x00') ∧
    ∀ i, (i < ret ∨ size ≤ i) → buf' i = buf i

theorem copyIn_of_mem {buf : Nat → Char} {offset r i : Nat} (h₁ : offset ≤ i)
    (h₂ : i < offset + r) : copyIn content buf offset r i = content.getD i '\x00' := by
  simp [copyIn, h₁, h₂]

theorem copyIn_of_not_mem {buf : Nat → Char} {offset r i : Nat} (h : i < offset ∨ offset + r ≤ i) :
    copyIn content buf offset r i = buf i := by
  unfold copyIn
  rw [if_neg (by omega)]

theorem readAllLoop_spec :
    ∀ fuel (buf : Nat → Char) ret maxLen, maxLen < fuel → ret ≤ content.length →
      (readAllLoop content pr fuel buf ret maxLen).2 = none ∨
        ∃ size, (readAllLoop content pr fuel buf ret maxLen).2 = some size ∧
          ReadAllOk content buf (readAllLoop content pr fuel buf ret maxLen).1 ret
            maxLen size
  | 0, _, _, _, hfuel, _ => absurd hfuel (Nat.not_lt_zero _)
  | fuel + 1, buf, ret, maxLen, hfuel, hret => by
    simp only [readAllLoop]
    by_cases hmax : maxLen = 0
    · rw [if_pos hmax]
      exact .inr ⟨ret, rfl, by omega, fun i h₁ h₂ => by omega, fun i _ => rfl⟩
    rw [if_neg hmax]
    cases hr : pr.pread maxLen ret with
    | none => exact .inl rfl
    | some r =>
      cases r with
      | zero =>
        have heof := pr.eof maxLen ret hr (by omega)
        exact .inr ⟨ret, rfl, by omega, fun i h₁ h₂ => by omega, fun i _ => rfl⟩
      | succ r =>
        have hle := pr.le_count maxLen ret (r + 1) hr
        have hrem := pr.le_remaining maxLen ret (r + 1) hr
        rcases readAllLoop_spec fuel (copyIn content buf ret (r + 1)) (ret + (r + 1))
          (maxLen - (r + 1)) (by omega) (by omega) with h | ⟨size, hsize, hsz, hin, hout⟩
        · exact .inl h
        · refine .inr ⟨size, hsize, by omega, fun i h₁ h₂ => ?_, fun i hi => ?_⟩
          · by_cases hi : i < ret + (r + 1)
            · rw [hout i (.inl hi), copyIn_of_mem h₁ hi]
            · exact hin i (by omega) h₂
          · rw [hout i (by omega), copyIn_of_not_mem (by omega)]

theorem readAll_spec (buf : Nat → Char) (maxLen : Nat) :
    (readAll content pr buf maxLen).2 = none ∨
      ∃ size, (readAll content pr buf maxLen).2 = some size ∧
        ReadAllOk content buf (readAll content pr buf maxLen).1 0 maxLen size :=
  readAllLoop_spec pr (maxLen + 1) buf 0 maxLen (Nat.lt_succ_self _) (Nat.zero_le _)

theorem readAllLoop_ne_none (hok : ∀ count offset, pr.pread count offset ≠ none) :
    ∀ fuel (buf : Nat → Char) ret maxLen, (readAllLoop content pr fuel buf ret maxLen).2 ≠ none
  | 0, _, _, _ => by simp [readAllLoop]
  | fuel + 1, buf, ret, maxLen => by
    simp only [readAllLoop]
    split
    · simp
    · cases hr : pr.pread maxLen ret with
      | none => exact absurd hr (hok maxLen ret)
      | some r =>
        cases r with
        | zero => simp
        | succ r => exact readAllLoop_ne_none hok fuel _ _ _

theorem readAllLoop_failed {fuel : Nat} {buf : Nat → Char} {ret maxLen : Nat}
    (h : (readAllLoop content pr fuel buf ret maxLen).2 = none) :
    ∃ count offset, pr.pread count offset = none :=
  Classical.byContradiction fun hno =>
    readAllLoop_ne_none pr (fun count offset hco => hno ⟨count, offset, hco⟩) fuel buf ret maxLen h

theorem ReadAllOk.bytes {buf buf' : Nat → Char} {maxLen size : Nat}
    (h : ReadAllOk content buf buf' 0 maxLen size) :
    (List.range size).map buf' = content.take maxLen := by
  obtain ⟨hsize, hin, -⟩ := h
  apply List.ext_getElem
  · simp only [List.length_map, List.length_range, List.length_take]
    omega
  · intro i h₁ h₂
    simp only [List.length_map, List.length_range] at h₁
    rw [List.getElem_map, List.getElem_range, hin i (Nat.zero_le i) h₁, List.getElem_take,
      List.getD_eq_getElem?_getD, List.getElem?_eq_getElem (by omega), Option.getD_some]

end ReadAll

/-! ## `reread_file` -/

def HoldsFile (content : List Char) (buf : Nat → Char) : Prop :=
  (∀ i (h : i < content.length), buf i = content[i]) ∧ buf content.length = '\x00'

/-- `buf_size` grew from `bufSize` by doubling to the first size whose buffer
holds `n` bytes and the NUL: `n < size - 1`, and the size before the last
doubling did not hold them. -/
def GrownFor (bufSize n size : Nat) : Prop :=
  ∃ k, size = bufSize * 2 ^ k ∧ n + 1 < size ∧ (k = 0 ∨ size ≤ 2 * (n + 1))

/-- How the loop of `reread_file` on descriptor `fd` ends, for a file of
contents `content`: with the whole file in the shared buffer, or with `NULL`
after a read error, which closes `fd` and resets `data->fd`, or after a failed
`realloc`. -/
inductive RereadEnds (content : List Char) (env : RereadEnv content) (bufSize : Nat) (fd : Int) :
    RereadOutcome → Prop
  | whole {o : RereadOutcome} {buf : Nat → Char} : o.result = some buf → HoldsFile content buf →
      GrownFor bufSize content.length o.statics.bufSize → o.statics.buf = buf → o.fd = fd →
      o.closed = none → RereadEnds content env bufSize fd o
  | readError {o : RereadOutcome} : o.result = none → o.fd = -1 → o.closed = some fd →
      (∃ count offset, env.pr.pread count offset = none) → RereadEnds content env bufSize fd o
  | reallocFailed {o : RereadOutcome} : o.result = none → o.fd = fd → o.closed = none →
      (∃ size, env.reallocOk size = false) → RereadEnds content env bufSize fd o

theorem GrownFor.of_double {bufSize n size : Nat} (hsmall : bufSize ≤ n + 1)
    (h : GrownFor (bufSize * 2) n size) : GrownFor bufSize n size := by
  obtain ⟨k, hsize, hfits, hfirst⟩ := h
  refine ⟨k + 1, by rw [hsize, Nat.pow_succ, Nat.mul_assoc, Nat.mul_comm 2], hfits, .inr ?_⟩
  rcases hfirst with rfl | hle
  · rw [hsize, Nat.pow_zero, Nat.mul_one]
    omega
  · exact hle

theorem holdsFile_update {content : List Char} {buf : Nat → Char}
    (hin : ∀ i, i < content.length → buf i = content.getD i '\x00') :
    HoldsFile content (Function.update buf content.length '\x00') := by
  refine ⟨fun i hi => ?_, Function.update_self ..⟩
  rw [Function.update_of_ne (Nat.ne_of_lt hi), hin i hi, List.getD_eq_getElem?_getD,
    List.getElem?_eq_getElem hi, Option.getD_some]

theorem cString_append_nul : ∀ l : List Char, cString (l ++ ['\x00']) = cString l
  | [] => by decide
  | c :: l => by
    have ih := cString_append_nul l
    unfold cString at ih ⊢
    rw [List.cons_append, List.takeWhile_cons, List.takeWhile_cons, ih]

theorem HoldsFile.text {content : List Char} {buf : Nat → Char} (h : HoldsFile content buf) :
    cString ((List.range (content.length + 1)).map buf) = cString content := by
  have hbytes : (List.range (content.length + 1)).map buf = content ++ ['\x00'] := by
    apply List.ext_getElem
    · simp
    · intro i h₁ h₂
      simp only [List.length_map, List.length_range] at h₁
      rw [List.getElem_map, List.getElem_range]
      by_cases hi : i < content.length
      · rw [h.1 i hi, List.getElem_append_left hi]
      · have hn : i = content.length := by omega
        subst hn
        rw [h.2, List.getElem_append_right (Nat.le_refl _)]
        simp
  rw [hbytes, cString_append_nul]

section Loop

variable {content : List Char} (env : RereadEnv content)

theorem rereadLoop_spec :
    ∀ fuel (st : RereadStatics) fd, content.length + 1 < st.bufSize * 2 ^ fuel →
      RereadEnds content env st.bufSize fd (rereadLoop content env (fuel + 1) st fd)
  | fuel, st, fd, hfuel => by
    simp only [rereadLoop]
    rcases readAll_spec env.pr st.buf (st.bufSize - 1) with hnone | ⟨size, hsize, hsz, hin, -⟩
    · rw [hnone]
      exact .readError rfl rfl rfl (readAllLoop_failed env.pr hnone)
    rw [hsize]
    simp only
    by_cases hlt : size < st.bufSize - 1
    · -- fewer bytes than asked: the whole file was read
      rw [if_pos hlt]
      have hn : size = content.length := by omega
      subst hn
      have hgrown : GrownFor st.bufSize content.length st.bufSize :=
        ⟨0, by rw [Nat.pow_zero, Nat.mul_one], by omega, .inl rfl⟩
      exact .whole rfl (holdsFile_update fun i hi => hin i (Nat.zero_le i) hi) hgrown rfl rfl rfl
    rw [if_neg hlt]
    cases hre : env.reallocOk (st.bufSize * 2) with
    | false => exact .reallocFailed rfl rfl rfl ⟨_, hre⟩
    | true =>
      simp only [Bool.not_true, Bool.false_eq_true, if_false]
      have hsmall : st.bufSize ≤ content.length + 1 := by omega
      cases fuel with
      | zero => omega
      | succ fuel =>
        have hnext : content.length + 1 <
            (st.grow (readAll content env.pr st.buf (st.bufSize - 1)).1).bufSize * 2 ^ fuel := by
          rw [RereadStatics.grow_bufSize]
          rw [Nat.pow_succ] at hfuel
          calc content.length + 1 < st.bufSize * (2 ^ fuel * 2) := hfuel
            _ = st.bufSize * 2 * 2 ^ fuel := by rw [Nat.mul_comm _ 2, Nat.mul_assoc]
        cases rereadLoop_spec fuel _ fd hnext with
        | whole hres hholds hgrown hbuf hfd hclosed =>
          exact .whole hres hholds (hgrown.of_double hsmall) hbuf hfd hclosed
        | readError hres hfd hclosed hread => exact .readError hres hfd hclosed hread
        | reallocFailed hres hfd hclosed hre' => exact .reallocFailed hres hfd hclosed hre'

theorem RereadEnds.whole_of_ok {bufSize : Nat} {fd : Int} {o : RereadOutcome}
    (h : RereadEnds content env bufSize fd o)
    (hread : ∀ count offset, env.pr.pread count offset ≠ none)
    (hre : ∀ size, env.reallocOk size = true) :
    ∃ buf, o.result = some buf ∧ HoldsFile content buf ∧
      GrownFor bufSize content.length o.statics.bufSize := by
  cases h with
  | whole hres hholds hgrown => exact ⟨_, hres, hholds, hgrown⟩
  | readError _ _ _ hfail =>
    obtain ⟨count, offset, h⟩ := hfail
    exact absurd h (hread count offset)
  | reallocFailed _ _ _ hfail =>
    obtain ⟨size, h⟩ := hfail
    rw [hre size] at h
    cases h

end Loop

theorem rereadFile_ends (content : List Char) (env : RereadEnv content) (st : RereadStatics)
    (fd : Int) :
    ((rereadFile content env st fd).result = none ∧ fd = -1 ∧
        (st.allocated = false ∧ env.mallocOk = false ∨ env.openFd < 0)) ∨
      RereadEnds content env st.bufSize (if fd = -1 then env.openFd else fd)
        (rereadFile content env st fd) := by
  have hfuel : ∀ st : RereadStatics,
      content.length + 1 < st.bufSize * 2 ^ (content.length + 1) := fun st =>
    calc content.length + 1 < 2 ^ (content.length + 1) := Nat.lt_two_pow_self
      _ ≤ st.bufSize * 2 ^ (content.length + 1) := Nat.le_mul_of_pos_left _ st.bufSize_pos
  unfold rereadFile
  by_cases hfd : fd = -1
  · rw [if_pos hfd, if_pos hfd]
    by_cases halloc : (!st.allocated && !env.mallocOk) = true
    · rw [if_pos halloc]
      simp only [Bool.and_eq_true, Bool.not_eq_true'] at halloc
      exact .inl ⟨rfl, hfd, .inl halloc⟩
    rw [if_neg halloc]
    by_cases hopen : env.openFd < 0
    · rw [if_pos hopen]
      exact .inl ⟨rfl, hfd, .inr hopen⟩
    · rw [if_neg hopen]
      exact .inr (rereadLoop_spec env _ { st with allocated := true } env.openFd (hfuel _))
  · rw [if_neg hfd, if_neg hfd]
    exact .inr (rereadLoop_spec env _ st fd (hfuel _))

/-- `reread_file` on a file of `n` bytes that do not change: it ends for every
`buf_size` earlier calls left, with the file's `n` bytes and a NUL in the
shared buffer and `buf_size` doubled to the first size above `n + 1`, or with
`NULL`: after a read error, with the descriptor closed and `data->fd = -1`,
so that the next call opens the file again; after a failed `realloc`; or when
`buf` cannot be allocated or the file cannot be opened.  When no `pread`,
`malloc`, `open` or `realloc` fails, it returns the whole file. -/
theorem rereadFile_spec (content : List Char) (env : RereadEnv content) (st : RereadStatics)
    (fd : Int) :
    (((rereadFile content env st fd).result = none ∧ fd = -1 ∧
        (st.allocated = false ∧ env.mallocOk = false ∨ env.openFd < 0)) ∨
      RereadEnds content env st.bufSize (if fd = -1 then env.openFd else fd)
        (rereadFile content env st fd)) ∧
    ((∀ count offset, env.pr.pread count offset ≠ none) → (∀ size, env.reallocOk size = true) →
      (fd = -1 → (st.allocated = true ∨ env.mallocOk = true) ∧ 0 ≤ env.openFd) →
      ∃ buf, (rereadFile content env st fd).result = some buf ∧ HoldsFile content buf ∧
        GrownFor st.bufSize content.length (rereadFile content env st fd).statics.bufSize) := by
  refine ⟨rereadFile_ends content env st fd, fun hread hre hopen => ?_⟩
  rcases rereadFile_ends content env st fd with ⟨-, hfd, hfail⟩ | hends
  · obtain ⟨halloc, hopenFd⟩ := hopen hfd
    rcases hfail with ⟨hst, hmalloc⟩ | hneg
    · rcases halloc with h | h
      · rw [hst] at h
        cases h
      · rw [hmalloc] at h
        cases h
    · omega
  · exact hends.whole_of_ok env hread hre

theorem rereadFile_spec_firstCall :
    ∃ buf, (rereadFile "abc".toList ⟨3, true, fun _ => true, .whole _⟩
        ⟨1, Nat.one_pos, false, fun _ => '\x00'⟩ (-1)).result = some buf ∧
      HoldsFile "abc".toList buf ∧
      GrownFor 1 "abc".toList.length (rereadFile "abc".toList ⟨3, true, fun _ => true, .whole _⟩
        ⟨1, Nat.one_pos, false, fun _ => '\x00'⟩ (-1)).statics.bufSize :=
  (rereadFile_spec "abc".toList ⟨3, true, fun _ => true, .whole _⟩
    ⟨1, Nat.one_pos, false, fun _ => '\x00'⟩ (-1)).2 (fun _ _ => Option.some_ne_none _)
    (fun _ => rfl) (fun _ => ⟨.inr rfl, by decide⟩)

example : (rereadFile "abc".toList ⟨3, true, fun _ => true, .whole _⟩
    ⟨1, Nat.one_pos, false, fun _ => '\x00'⟩ (-1)).statics.bufSize = 8 := by decide

end Lmkd
