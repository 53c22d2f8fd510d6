import Lmkd.State

/-!
# Reading `/proc`

The files lmkd reads and writes about a process, as they are at the moment
of a call (`ProcEnv`), and the functions of `lmkd.cpp` that read them:
`read_all` into a buffer, `read_proc_status`, `proc_get_name`,
`writefilestring`, and the status parser `parse_status_tag` with
`parse_int64`, which is `strtoll` in base 10.

A file read is the bytes of the file.  `read_all(fd, buf, n)` keeps the first
`n` of them and the caller terminates the buffer; what C then sees is the
string up to the first NUL (`cString`).  `proc_get_size` is a value of the
environment: its parse of `statm` and of the `VmSwap` line is not modelled.
-/

namespace Lmkd

/-- A whole-file read: `open` failed, `read` failed, or the bytes read. -/
inductive FileRead where
  | openFailed
  | readFailed
  | contents (bytes : List Char)
deriving DecidableEq, Repr

inductive FileWrite where
  | openFailed
  | writeFailed
  | written
deriving DecidableEq, Repr

/-- The `/proc` files of every pid, and the other per-pid answers the
registration path gets from the system. -/
structure ProcEnv where
  status : Int32 → FileRead
  cmdline : Int32 → FileRead
  oomScoreAdj : Int32 → FileWrite
  /-- the value of `proc_get_size(pid)` -/
  size : Int32 → Int
  /-- `pidfd_open(pid, 0)`, `none` when it fails -/
  pidfdOpen : Int32 → Option Int32
  /-- whether `CgroupGetAttributePathForTask("MemSoftLimit", pid, ...)` succeeds -/
  softLimitPath : Int32 → Bool
  /-- whether `calloc` of a new record succeeds -/
  callocOk : Bool

def bufMax : Nat := 4096

def lineMax : Nat := 2048

def procfsPathMax : Nat := 64

/-- The C string a buffer holds: its bytes up to the first NUL. -/
def cString (s : List Char) : List Char := s.takeWhile (· ≠ '\x00')

/-- `read_proc_status(pid, buf, buf_sz)`: the string it leaves in `buf`, or
`none` when it returns false. -/
def readProcStatus (env : ProcEnv) (pid : Int32) (bufSz : Nat) : Option (List Char) :=
  match env.status pid with
  | .contents bytes => some (cString (bytes.take (bufSz - 1)))
  | _ => none

/-- `proc_get_name(pid, buf, buf_size)`: the command line up to its first NUL
or space. -/
def procGetName (env : ProcEnv) (pid : Int32) (bufSize : Nat) : Option (List Char) :=
  match env.cmdline pid with
  | .contents bytes => some ((cString (bytes.take (bufSize - 1))).takeWhile (· ≠ ' '))
  | _ => none

/-- `writefilestring`: false only when the file does not open; a failed or
short write still returns true. -/
def writefilestring (w : FileWrite) : Bool :=
  match w with
  | .openFailed => false
  | _ => true

/-! ## `strtoll` and `parse_status_tag` -/

def isSpace (c : Char) : Bool :=
  c = ' ' || c = '\t' || c = '\n' || c = '\x0b' || c = '\x0c' || c = '\r'

def digitsValue : List Char → Nat → Nat
  | [], acc => acc
  | d :: ds, acc => digitsValue ds (acc * 10 + (d.toNat - '0'.toNat))

def llongMin : Int := -9223372036854775808

def llongMax : Int := 9223372036854775807

/-- `strtoll(str, &endptr, 10)`, or `none` when it reads no digit
(`endptr == str`); out-of-range values saturate. -/
def strtoll (str : List Char) : Option Int :=
  let s := str.dropWhile isSpace
  let (neg, s) := match s with
    | '-' :: t => (true, t)
    | '+' :: t => (false, t)
    | t => (false, t)
  let ds := s.takeWhile Char.isDigit
  if ds.isEmpty then none
  else
    let v : Int := digitsValue ds 0
    some (max llongMin (min llongMax (if neg then -v else v)))

def parseInt64 (str : List Char) : Option Int :=
  match strtoll str with
  | none => none
  | some v => if v > llongMax then none else some v

/-- `strstr(buf + pos, tag)` as an index into `buf`: scanning the suffix `s`
whose first character is at index `k`. -/
def strstrFrom (tag : List Char) : List Char → Nat → Option Nat
  | [], k => if tag.isPrefixOf [] then some k else none
  | c :: t, k => if tag.isPrefixOf (c :: t) then some k else strstrFrom tag t (k + 1)

def strstr (buf tag : List Char) (pos : Nat) : Option Nat := strstrFrom tag (buf.drop pos) pos

/-- The loop of `parse_status_tag`: search from `pos`, stop at an occurrence
at the start of `buf` or right after a newline, otherwise go on one past it.
Each round moves `pos` forward, so `buf.length + 1` rounds are enough. -/
def statusTagPos (buf tag : List Char) : Nat → Nat → Option Nat
  | 0, _ => none
  | fuel + 1, pos =>
    match strstr buf tag pos with
    | none => none
    | some p =>
      if p = 0 ∨ buf[p - 1]? = some '\n' then some p else statusTagPos buf tag fuel (p + 1)

/-- `parse_status_tag(buf, tag, &out)`: `none` when it returns false. -/
def parseStatusTag (buf tag : List Char) : Option Int :=
  match statusTagPos buf tag (buf.length + 1) 0 with
  | none => none
  | some p => parseInt64 ((buf.drop (p + tag.length)).dropWhile (· = ' '))

def procStatusTgidField : List Char := "Tgid:".toList

def procStatusRssField : List Char := "VmRSS:".toList

def procStatusSwapField : List Char := "VmSwap:".toList

example : parseStatusTag "Name:\tTgid: 7\nTgid:\t1234\nPid:\t1234\n".toList procStatusTgidField =
    some 1234 := by decide

end Lmkd
