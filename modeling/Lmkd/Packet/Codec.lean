import Lmkd.Lib.ByteOrder
import Lmkd.Lib.WordArray

/-!
# The control packet codec of `lmkd.h`

An `LMKD_CTRL_PACKET` is an array of `int` words in network byte order: the
command word, then the payload.  An `lmkd_pack_set_*` function writes the
first words of the array and returns their size in bytes; here it returns
the words it writes, and the size is four bytes a word.  An
`lmkd_pack_get_*` function reads words of the array that received the
packet, a function from index to word, since the array also holds whatever
it held past the words that were read.

`htonl` and `ntohl` are the byte swap of a little-endian host.  The casts
`(pid_t)`, `(int)` and the `enum` casts between `int` and `uint32_t` are
`UInt32.toInt32` and `Int32.toUInt32`.
-/

namespace Lmkd

open ByteOrder WordArray

def htonl (x : UInt32) : UInt32 := swap32 x

def ntohl (x : UInt32) : UInt32 := swap32 x

@[simp] theorem ntohl_htonl (x : UInt32) : ntohl (htonl x) = x := swap32_swap32 x

/-! ## Commands and payloads -/

/-- `enum lmk_cmd`. -/
inductive LmkCmd where
  | target
  | procprio
  | procremove
  | procpurge
  | getkillcnt
  | subscribe
  | prockill
  | updateProps
  | statKillOccurred
  | startMonitoring
  | bootCompleted
  | procsPrio
deriving DecidableEq, Repr

def LmkCmd.toInt32 : LmkCmd → Int32
  | .target => 0
  | .procprio => 1
  | .procremove => 2
  | .procpurge => 3
  | .getkillcnt => 4
  | .subscribe => 5
  | .prockill => 6
  | .updateProps => 7
  | .statKillOccurred => 8
  | .startMonitoring => 9
  | .bootCompleted => 10
  | .procsPrio => 11

/-- The command a value of the `enum lmk_cmd` cast names, if any. -/
def LmkCmd.ofInt32? (v : Int32) : Option LmkCmd :=
  [LmkCmd.target, .procprio, .procremove, .procpurge, .getkillcnt, .subscribe, .prockill,
    .updateProps, .statKillOccurred, .startMonitoring, .bootCompleted, .procsPrio].find?
    (·.toInt32 == v)

@[simp] theorem LmkCmd.ofInt32?_toInt32 (c : LmkCmd) : LmkCmd.ofInt32? c.toInt32 = some c := by
  cases c <;> decide

def maxTargets : Nat := 6

def ctrlPacketMaxSize : Nat := 4 * (maxTargets * 2 + 1)

def lmkProcprioFieldCount : Nat := 4

def procsPrioMaxRecordCount : Nat := ctrlPacketMaxSize / (lmkProcprioFieldCount * 4)

/-- `enum proc_type`: `PROC_TYPE_APP`, `PROC_TYPE_SERVICE`, `PROC_TYPE_COUNT`. -/
def procTypeApp : Int32 := 0

def procTypeService : Int32 := 1

def procTypeCount : Int32 := 2

structure LmkTarget where
  minfree : Int32
  oomAdjScore : Int32
deriving DecidableEq, Repr

structure LmkProcprio where
  pid : Int32
  uid : UInt32
  oomadj : Int32
  ptype : Int32
deriving DecidableEq, Repr, Inhabited

structure LmkProcremove where
  pid : Int32
deriving DecidableEq, Repr

structure LmkGetkillcnt where
  minOomadj : Int32
  maxOomadj : Int32
deriving DecidableEq, Repr

def wordOf (x : Int32) : UInt32 := htonl x.toUInt32

def intOf (w : UInt32) : Int32 := (ntohl w).toInt32

@[simp] theorem intOf_wordOf (x : Int32) : intOf (wordOf x) = x := by
  simp [intOf, wordOf]

/-! ## Encoders -/

/-- The two words `lmkd_pack_set_target` writes for one target. -/
def targetWords (t : LmkTarget) : List UInt32 := [wordOf t.minfree, wordOf t.oomAdjScore]

/-- The four words `lmkd_pack_set_procs_prio` writes for one record, which are
also the payload of `lmkd_pack_set_procprio`. -/
def procprioWords (p : LmkProcprio) : List UInt32 :=
  [wordOf p.pid, htonl p.uid, wordOf p.oomadj, wordOf p.ptype]

def lmkdPackSetTarget (targets : List LmkTarget) : List UInt32 :=
  wordOf LmkCmd.target.toInt32 :: layout targetWords targets

def lmkdPackSetProcprio (params : LmkProcprio) : List UInt32 :=
  [wordOf LmkCmd.procprio.toInt32, wordOf params.pid, htonl params.uid, wordOf params.oomadj,
    wordOf params.ptype]

def lmkdPackSetProcremove (params : LmkProcremove) : List UInt32 :=
  [wordOf LmkCmd.procremove.toInt32, wordOf params.pid]

def lmkdPackSetProcpurge : List UInt32 := [wordOf LmkCmd.procpurge.toInt32]

def lmkdPackSetGetkillcnt (params : LmkGetkillcnt) : List UInt32 :=
  [wordOf LmkCmd.getkillcnt.toInt32, wordOf params.minOomadj, wordOf params.maxOomadj]

def lmkdPackSetGetkillcntRepl (killCnt : Int32) : List UInt32 :=
  [wordOf LmkCmd.getkillcnt.toInt32, wordOf killCnt]

def lmkdPackSetSubscribe (evtType : Int32) : List UInt32 :=
  [wordOf LmkCmd.subscribe.toInt32, wordOf evtType]

def lmkdPackSetProckills (pid : Int32) (uid : UInt32) : List UInt32 :=
  [wordOf LmkCmd.prockill.toInt32, wordOf pid, htonl uid]

def lmkdPackSetUpdateProps : List UInt32 := [wordOf LmkCmd.updateProps.toInt32]

def lmkdPackStartMonitoring : List UInt32 := [wordOf LmkCmd.startMonitoring.toInt32]

def lmkdPackSetUpdatePropsRepl (result : Int32) : List UInt32 :=
  [wordOf LmkCmd.updateProps.toInt32, wordOf result]

def lmkdPackSetBootCompletedNotif : List UInt32 := [wordOf LmkCmd.bootCompleted.toInt32]

def lmkdPackSetBootCompletedNotifRepl (result : Int32) : List UInt32 :=
  [wordOf LmkCmd.bootCompleted.toInt32, wordOf result]

def lmkdPackSetProcsPrio (procs : List LmkProcprio) : List UInt32 :=
  wordOf LmkCmd.procsPrio.toInt32 :: layout procprioWords procs

/-! ## Decoders -/

section Decoders

variable (packet : Nat → UInt32)

def lmkdPackGetCmd : Int32 := intOf (packet 0)

def lmkdPackGetTarget (targetIdx : Nat) : LmkTarget :=
  ⟨intOf (packet (targetIdx * 2 + 1)), intOf (packet (targetIdx * 2 + 2))⟩

def lmkdPackGetProcprio (fieldCount : Nat) : LmkProcprio where
  pid := intOf (packet 1)
  uid := ntohl (packet 2)
  oomadj := intOf (packet 3)
  ptype := if fieldCount > 3 then intOf (packet 4) else procTypeApp

def lmkdPackGetProcremove : LmkProcremove := ⟨intOf (packet 1)⟩

def lmkdPackGetGetkillcnt : LmkGetkillcnt := ⟨intOf (packet 1), intOf (packet 2)⟩

def lmkdPackGetSubscribe : Int32 := intOf (packet 1)

def lmkdPackGetUpdatePropsRepl : Int32 := intOf (packet 1)

def lmkdPackGetBootCompletedNotifRepl : Int32 := intOf (packet 1)

/-- Record `procsIdx` of an `LMK_PROCS_PRIO` packet, read from the four
words at `1 + 4 * procsIdx`. -/
def procsPrioRecord (procsIdx : Nat) : LmkProcprio where
  pid := intOf (packet (1 + procsIdx * 4))
  uid := ntohl (packet (1 + procsIdx * 4 + 1))
  oomadj := intOf (packet (1 + procsIdx * 4 + 2))
  ptype := intOf (packet (1 + procsIdx * 4 + 3))

/-- `lmkd_pack_get_procs_prio`: `none` is its return value -1. -/
def lmkdPackGetProcsPrio (fieldCount : Nat) : Option (List LmkProcprio) :=
  if fieldCount < lmkProcprioFieldCount ∨ fieldCount % lmkProcprioFieldCount ≠ 0 then none
  else some ((List.range (fieldCount / lmkProcprioFieldCount)).map (procsPrioRecord packet))

end Decoders

/-! ## Record round trips -/

theorem length_targetWords (t : LmkTarget) : (targetWords t).length = 2 := rfl

theorem length_procprioWords (p : LmkProcprio) : (procprioWords p).length = 4 := rfl

theorem lmkdPackGetTarget_eq_readRecords (packet : Nat → UInt32) (n : Nat) :
    (List.range n).map (lmkdPackGetTarget packet) =
      readRecords (fun w => ⟨intOf (w 0), intOf (w 1)⟩) 2 1 packet n := by
  unfold readRecords
  apply List.map_congr_left
  intro i _
  have h₁ : i * 2 + 1 = 1 + i * 2 + 0 := by omega
  have h₂ : i * 2 + 2 = 1 + i * 2 + 1 := by omega
  rw [lmkdPackGetTarget, h₁, h₂]

theorem procsPrioRecord_eq_readRecords (packet : Nat → UInt32) (n : Nat) :
    (List.range n).map (procsPrioRecord packet) =
      readRecords (fun w => ⟨intOf (w 0), ntohl (w 1), intOf (w 2), intOf (w 3)⟩) 4 1
        packet n := by
  unfold readRecords
  apply List.map_congr_left
  intro i _
  rfl

theorem decodeTargets_layout (targets : List LmkTarget) (stale : Nat → UInt32) :
    (List.range targets.length).map
        (lmkdPackGetTarget (ofList (lmkdPackSetTarget targets) stale)) = targets := by
  rw [lmkdPackGetTarget_eq_readRecords]
  have h := readRecords_layout length_targetWords (fun w => ⟨intOf (w 0), intOf (w 1)⟩)
    (fun t w hw => by
      obtain ⟨h₀, h₁⟩ := And.intro (hw 0 (by decide)) (hw 1 (by decide))
      simp only [targetWords, List.getElem?_cons_zero, List.getElem?_cons_succ,
        Option.some.injEq] at h₀ h₁
      rw [h₀, h₁]
      simp)
    [wordOf LmkCmd.target.toInt32] targets [] stale
  simpa [lmkdPackSetTarget] using h

theorem decodeProcs_layout (procs : List LmkProcprio) (stale : Nat → UInt32) :
    (List.range procs.length).map
        (procsPrioRecord (ofList (lmkdPackSetProcsPrio procs) stale)) = procs := by
  rw [procsPrioRecord_eq_readRecords]
  have h := readRecords_layout length_procprioWords
    (fun w => ⟨intOf (w 0), ntohl (w 1), intOf (w 2), intOf (w 3)⟩)
    (fun p w hw => by
      have h₀ := hw 0 (by decide)
      have h₁ := hw 1 (by decide)
      have h₂ := hw 2 (by decide)
      have h₃ := hw 3 (by decide)
      simp only [procprioWords, List.getElem?_cons_zero, List.getElem?_cons_succ,
        Option.some.injEq] at h₀ h₁ h₂ h₃
      rw [h₀, h₁, h₂, h₃]
      simp)
    [wordOf LmkCmd.procsPrio.toInt32] procs [] stale
  simpa [lmkdPackSetProcsPrio] using h

end Lmkd
