import Lmkd.Statslog
import Lmkd.Lib.Bytes
import Lmkd.Packet.Codec
import Lmkd.Psi.Decision

/-!
# The kill-occurred report of `statslog.cpp`

`lmkd_pack_set_kill_occurred` fills an `LMK_KILL_OCCURRED_PACKET`, a
`LMKD_REPLY_MAX_SIZE`-byte array, for `LmkdStatsReporter.java` to read with a
`DataInputStream`.  `pack_int32` and `pack_int64` store `htonl` and `htonq` of
the value through an `int32_t *` and an `int64_t *` on a little-endian host;
`pack_string` stores the `htons` of the name length, `strncpy`s the name into
the next `MAX_TASKNAME_LEN - 1` bytes and writes a NUL after them.  A name is
the bytes of its C string.

The writes of the packer are adjacent, so together they are one write of a
214-byte image (`lmkdPackSetKillOccurred_eq`); its first `87 + len` bytes are
the `DataOutput` encoding of the fields (`killOccurredBytes`), from which the
reader that follows the same sequence gets every field back
(`readKillOccurred_killOccurredBytes`).  With `enable_stats_log` unset the
packer writes nothing and returns 0.
-/

namespace Lmkd

open Bytes

def lmkdReplyMaxSize : Nat := 222

structure MemoryStat where
  pgfault : Int64
  pgmajfault : Int64
  rssInBytes : Int64
  cacheInBytes : Int64
  swapInBytes : Int64
  processStartTimeNs : Int64
deriving DecidableEq, Repr

structure KillStat where
  uid : Int32
  taskname : List UInt8
  killReason : KillReason
  oomScore : Int32
  minOomScore : Int32
  freeMemKb : Int64
  freeSwapKb : Int64
  thrashing : Int32
  maxThrashing : Int32
deriving DecidableEq, Repr

/-- The values of `enum kill_reasons`. -/
def KillReason.toInt32 : KillReason → Int32
  | .none => -1
  | .pressureAfterKill => 0
  | .notResponding => 1
  | .lowSwapAndThrashing => 2
  | .lowMemAndSwap => 3
  | .lowMemAndThrashing => 4
  | .directReclAndThrashing => 5
  | .lowMemAndSwapUtil => 6
  | .lowFilecacheAfterThrashing => 7
  | .lowMem => 8
  | .compaction => 9
  | .directReclAndThrot => 10
  | .directReclAndLowMem => 11
  | .directReclStuck => 12

/-! ## The packer -/

def cStringBytes (s : List UInt8) : List UInt8 := s.takeWhile (· ≠ 0)

def strlen (s : List UInt8) : Nat := (cStringBytes s).length

/-- `strncpy(dst, src, n)`: the bytes of `src` up to its NUL, at most `n` of
them, and NULs up to `n`. -/
def strncpy (src : List UInt8) (n : Nat) : List UInt8 :=
  (cStringBytes src).take n ++ List.replicate (n - strlen src) 0

def htons (x : UInt16) : UInt16 := UInt16.ofNat (byteSwap 2 x.toNat)

def htonq (x : UInt64) : UInt64 := UInt64.ofNat (byteSwap 8 x.toNat)

def packInt32 (packet : Nat → UInt8) (index : Nat) (value : Int32) : (Nat → UInt8) × Nat :=
  (writeBytes packet index (leBytes 4 (htonl value.toUInt32).toNat), index + 4)

def packInt64 (packet : Nat → UInt8) (index : Nat) (value : Int64) : (Nat → UInt8) × Nat :=
  (writeBytes packet index (leBytes 8 (htonq value.toUInt64).toNat), index + 8)

def packString (packet : Nat → UInt8) (index : Nat) (value : List UInt8) : (Nat → UInt8) × Nat :=
  let lenProcName := min (strlen value) (maxTasknameLen - 1)
  let packet := writeBytes packet index (leBytes 2 (htons (Int16.ofNat lenProcName).toUInt16).toNat)
  let packet := writeBytes packet (index + 2) (strncpy value (maxTasknameLen - 1))
  let packet := writeBytes packet (index + 2 + (maxTasknameLen - 1)) [0]
  (packet, index + 2 + lenProcName + 1)

/-- `pack_int32` of the values in turn. -/
def packInt32s (packet : Nat → UInt8) (index : Nat) : List Int32 → (Nat → UInt8) × Nat
  | [] => (packet, index)
  | v :: vs => packInt32s (packInt32 packet index v).1 (packInt32 packet index v).2 vs

def packInt64s (packet : Nat → UInt8) (index : Nat) : List Int64 → (Nat → UInt8) × Nat
  | [] => (packet, index)
  | v :: vs => packInt64s (packInt64 packet index v).1 (packInt64 packet index v).2 vs

/-- The six `int64` fields: those of the `memory_stat`, or -1 each for `NULL`. -/
def memStatFields : Option MemoryStat → List Int64
  | some m => [m.pgfault, m.pgmajfault, m.rssInBytes, m.cacheInBytes, m.swapInBytes,
      m.processStartTimeNs]
  | none => List.replicate 6 (-1)

/-- The eight `int32` fields, with the casts of `free_mem_kb`, `free_swap_kb`
and `kill_reason`. -/
def killStatFields (k : KillStat) : List Int32 :=
  [k.uid, k.oomScore, k.minOomScore, k.freeMemKb.toInt32, k.freeSwapKb.toInt32,
    k.killReason.toInt32, k.thrashing, k.maxThrashing]

def lmkdPackSetKillOccurred (enableStatsLog : Bool) (packet : Nat → UInt8) (killStat : KillStat)
    (memStat : Option MemoryStat) : (Nat → UInt8) × Nat :=
  if !enableStatsLog then (packet, 0)
  else
    let r := packInt32 packet 0 LmkCmd.statKillOccurred.toInt32
    let r := packInt64s r.1 r.2 (memStatFields memStat)
    let r := packInt32s r.1 r.2 (killStatFields killStat)
    packString r.1 r.2 killStat.taskname

/-! ## The encoding and its reader -/

/-- `DataOutput.writeInt` and `writeLong`. -/
def int32Be (v : Int32) : List UInt8 := beBytes 4 v.toUInt32.toNat

def int64Be (v : Int64) : List UInt8 := beBytes 8 v.toUInt64.toNat

def killOccurredFields (killStat : KillStat) (memStat : Option MemoryStat) : List UInt8 :=
  int32Be LmkCmd.statKillOccurred.toInt32 ++ (memStatFields memStat).flatMap int64Be ++
    (killStatFields killStat).flatMap int32Be

/-- The report: the fields, the 16-bit name length, the name and a NUL. -/
def killOccurredBytes (killStat : KillStat) (memStat : Option MemoryStat) : List UInt8 :=
  let len := min (strlen killStat.taskname) (maxTasknameLen - 1)
  killOccurredFields killStat memStat ++ beBytes 2 len ++ (cStringBytes killStat.taskname).take len ++ [0]

def readInt (bs : List UInt8) : Int32 × List UInt8 :=
  ((UInt32.ofNat (beValue (bs.take 4))).toInt32, bs.drop 4)

def readLong (bs : List UInt8) : Int64 × List UInt8 :=
  ((UInt64.ofNat (beValue (bs.take 8))).toInt64, bs.drop 8)

def readUnsignedShort (bs : List UInt8) : Nat × List UInt8 := (beValue (bs.take 2), bs.drop 2)

def readInts : Nat → List UInt8 → List Int32 × List UInt8
  | 0, bs => ([], bs)
  | n + 1, bs =>
    ((readInt bs).1 :: (readInts n (readInt bs).2).1, (readInts n (readInt bs).2).2)

def readLongs : Nat → List UInt8 → List Int64 × List UInt8
  | 0, bs => ([], bs)
  | n + 1, bs =>
    ((readLong bs).1 :: (readLongs n (readLong bs).2).1, (readLongs n (readLong bs).2).2)

structure KillOccurredReport where
  cmd : Int32
  memStat : List Int64
  killStat : List Int32
  taskname : List UInt8
deriving DecidableEq, Repr

def readKillOccurred (bs : List UInt8) : KillOccurredReport :=
  let cmd := readInt bs
  let mem := readLongs 6 cmd.2
  let kill := readInts 8 mem.2
  let len := readUnsignedShort kill.2
  ⟨cmd.1, mem.1, kill.1, len.2.take len.1⟩

/-! ## Fields -/

@[simp] theorem length_int32Be (v : Int32) : (int32Be v).length = 4 := length_beBytes _ _

@[simp] theorem length_int64Be (v : Int64) : (int64Be v).length = 8 := length_beBytes _ _

theorem length_memStatFields (m : Option MemoryStat) : (memStatFields m).length = 6 := by
  cases m <;> rfl

theorem length_killStatFields (k : KillStat) : (killStatFields k).length = 8 := rfl

theorem length_flatMap_int32Be (vs : List Int32) : (vs.flatMap int32Be).length = 4 * vs.length :=
  length_flatMap_of_length length_int32Be vs

theorem length_flatMap_int64Be (vs : List Int64) : (vs.flatMap int64Be).length = 8 * vs.length :=
  length_flatMap_of_length length_int64Be vs

theorem strlen_min_lt (s : List UInt8) : min (strlen s) (maxTasknameLen - 1) < 65536 := by
  unfold maxTasknameLen
  omega

/-! ## The stores of the packer -/

theorem packInt32_eq (packet : Nat → UInt8) (index : Nat) (value : Int32) :
    packInt32 packet index value = (writeBytes packet index (int32Be value), index + 4) := by
  rw [packInt32, htonl, ByteOrder.toNat_swap32, swap32Nat_eq_byteSwap, leBytes_byteSwap]
  rfl

theorem packInt64_eq (packet : Nat → UInt8) (index : Nat) (value : Int64) :
    packInt64 packet index value = (writeBytes packet index (int64Be value), index + 8) := by
  have hlt := byteSwap_lt 8 value.toUInt64.toNat
  rw [packInt64, htonq, UInt64.toNat_ofNat', Nat.mod_eq_of_lt (by simpa using hlt),
    leBytes_byteSwap]
  rfl

theorem packInt32s_eq (vs : List Int32) :
    ∀ (packet : Nat → UInt8) (index : Nat),
      packInt32s packet index vs = (writeBytes packet index (vs.flatMap int32Be), index + 4 * vs.length) := by
  induction vs with
  | nil => intro _ _; rfl
  | cons v vs ih =>
    intro packet index
    rw [packInt32s, packInt32_eq, ih, List.flatMap_cons, writeBytes_append, length_int32Be,
      List.length_cons]
    congr 1
    omega

theorem packInt64s_eq (vs : List Int64) :
    ∀ (packet : Nat → UInt8) (index : Nat),
      packInt64s packet index vs = (writeBytes packet index (vs.flatMap int64Be), index + 8 * vs.length) := by
  induction vs with
  | nil => intro _ _; rfl
  | cons v vs ih =>
    intro packet index
    rw [packInt64s, packInt64_eq, ih, List.flatMap_cons, writeBytes_append, length_int64Be,
      List.length_cons]
    congr 1
    omega

theorem length_strncpy (src : List UInt8) (n : Nat) : (strncpy src n).length = n := by
  rw [strncpy, List.length_append, List.length_take, List.length_replicate, strlen]
  omega

theorem packString_eq (packet : Nat → UInt8) (index : Nat) (value : List UInt8) :
    packString packet index value =
      (writeBytes packet index
          (beBytes 2 (min (strlen value) (maxTasknameLen - 1)) ++
            strncpy value (maxTasknameLen - 1) ++ [0]),
        index + 2 + min (strlen value) (maxTasknameLen - 1) + 1) := by
  have hlen := strlen_min_lt value
  have hshort : ((Int16.ofNat (min (strlen value) (maxTasknameLen - 1))).toUInt16).toNat =
      min (strlen value) (maxTasknameLen - 1) := by
    simp only [Int16.ofNat, UInt16.toNat, BitVec.toNat_ofNat]
    omega
  have hswap := byteSwap_lt 2 (min (strlen value) (maxTasknameLen - 1))
  rw [packString, htons, hshort, UInt16.toNat_ofNat', Nat.mod_eq_of_lt (by simpa using hswap),
    leBytes_byteSwap, writeBytes_append, writeBytes_append, List.length_append, length_beBytes,
    length_strncpy, Nat.add_assoc index 2]

/-- The bytes the packer writes from offset 0: the fields, the name length,
the name padded to `MAX_TASKNAME_LEN - 1` bytes, and a NUL. -/
def killOccurredImage (killStat : KillStat) (memStat : Option MemoryStat) : List UInt8 :=
  killOccurredFields killStat memStat ++
    (beBytes 2 (min (strlen killStat.taskname) (maxTasknameLen - 1)) ++
      strncpy killStat.taskname (maxTasknameLen - 1) ++ [0])

theorem length_killOccurredFields (killStat : KillStat) (memStat : Option MemoryStat) :
    (killOccurredFields killStat memStat).length = 84 := by
  rw [killOccurredFields, List.length_append, List.length_append, length_int32Be,
    length_flatMap_int64Be, length_flatMap_int32Be, length_memStatFields, length_killStatFields]

theorem length_killOccurredImage (killStat : KillStat) (memStat : Option MemoryStat) :
    (killOccurredImage killStat memStat).length = 214 := by
  rw [killOccurredImage, List.length_append, length_killOccurredFields, List.length_append,
    List.length_append, length_beBytes, length_strncpy, List.length_singleton]
  rfl

theorem lmkdPackSetKillOccurred_eq (packet : Nat → UInt8) (killStat : KillStat)
    (memStat : Option MemoryStat) :
    lmkdPackSetKillOccurred true packet killStat memStat =
      (writeBytes packet 0 (killOccurredImage killStat memStat),
        87 + min (strlen killStat.taskname) (maxTasknameLen - 1)) := by
  rw [lmkdPackSetKillOccurred, if_neg (by decide)]
  simp only [packInt32_eq, packInt64s_eq, packInt32s_eq, packString_eq, killOccurredImage,
    killOccurredFields, writeBytes_append, length_int32Be, length_flatMap_int64Be,
    length_flatMap_int32Be, length_memStatFields, length_killStatFields, length_beBytes,
    List.append_assoc]
  congr 1
  omega

theorem take_strncpy_append_nul (s : List UInt8) (n : Nat) :
    (strncpy s n ++ [0]).take (min (strlen s) n + 1) = (cStringBytes s).take (min (strlen s) n) ++ [0] := by
  rw [strncpy, List.append_assoc]
  unfold strlen
  by_cases hlt : (cStringBytes s).length < n
  · -- the name fits: the NUL read is the first of the padding
    have hpad : n - (cStringBytes s).length = (n - (cStringBytes s).length - 1) + 1 := by omega
    rw [Nat.min_eq_left (Nat.le_of_lt hlt), List.take_of_length_le (Nat.le_of_lt hlt), hpad,
      List.replicate_succ, List.cons_append, List.take_length_add_append, List.take_length]
    rfl
  · -- the name is cut: the NUL read is the one after the padding
    have hlen : ((cStringBytes s).take n).length = n := by
      rw [List.length_take]
      omega
    have hcut : ((cStringBytes s).take n ++ [(0 : UInt8)]).take (((cStringBytes s).take n).length + 1) =
        (cStringBytes s).take n ++ [(0 : UInt8)].take 1 :=
      List.take_length_add_append 1
    rw [hlen] at hcut
    rw [Nat.min_eq_right (by omega), Nat.sub_eq_zero_of_le (by omega), List.replicate_zero,
      List.nil_append, hcut]
    rfl

theorem take_killOccurredImage (killStat : KillStat) (memStat : Option MemoryStat) :
    (killOccurredImage killStat memStat).take (87 + min (strlen killStat.taskname) (maxTasknameLen - 1)) =
      killOccurredBytes killStat memStat := by
  have hsplit : 87 + min (strlen killStat.taskname) (maxTasknameLen - 1) =
      (killOccurredFields killStat memStat).length +
        ((beBytes 2 (min (strlen killStat.taskname) (maxTasknameLen - 1))).length +
          (min (strlen killStat.taskname) (maxTasknameLen - 1) + 1)) := by
    rw [length_killOccurredFields, length_beBytes]
    omega
  rw [killOccurredImage, killOccurredBytes, hsplit, List.take_length_add_append, List.append_assoc,
    List.take_length_add_append, take_strncpy_append_nul]
  simp only [List.append_assoc]

/-! ## Reading the report back -/

theorem readInt_int32Be (v : Int32) (rest : List UInt8) : readInt (int32Be v ++ rest) = (v, rest) := by
  rw [readInt, List.take_left' (length_int32Be v), List.drop_left' (length_int32Be v), int32Be,
    beValue_beBytes, Nat.mod_eq_of_lt (by simpa using v.toUInt32.toNat_lt), UInt32.ofNat_toNat,
    Int32.toInt32_toUInt32]

theorem readLong_int64Be (v : Int64) (rest : List UInt8) : readLong (int64Be v ++ rest) = (v, rest) := by
  rw [readLong, List.take_left' (length_int64Be v), List.drop_left' (length_int64Be v), int64Be,
    beValue_beBytes, Nat.mod_eq_of_lt (by simpa using v.toUInt64.toNat_lt), UInt64.ofNat_toNat,
    Int64.toInt64_toUInt64]

theorem readInts_flatMap (vs : List Int32) (rest : List UInt8) :
    readInts vs.length (vs.flatMap int32Be ++ rest) = (vs, rest) := by
  induction vs with
  | nil => rfl
  | cons v vs ih => rw [List.length_cons, readInts, List.flatMap_cons, List.append_assoc,
      readInt_int32Be, ih]

theorem readLongs_flatMap (vs : List Int64) (rest : List UInt8) :
    readLongs vs.length (vs.flatMap int64Be ++ rest) = (vs, rest) := by
  induction vs with
  | nil => rfl
  | cons v vs ih => rw [List.length_cons, readLongs, List.flatMap_cons, List.append_assoc,
      readLong_int64Be, ih]

theorem readUnsignedShort_beBytes {n : Nat} (hn : n < 65536) (rest : List UInt8) :
    readUnsignedShort (beBytes 2 n ++ rest) = (n, rest) := by
  rw [readUnsignedShort, List.take_left' (length_beBytes 2 n), List.drop_left' (length_beBytes 2 n),
    beValue_beBytes, Nat.mod_eq_of_lt (by simpa using hn)]

theorem readKillOccurred_killOccurredBytes (killStat : KillStat) (memStat : Option MemoryStat) :
    readKillOccurred (killOccurredBytes killStat memStat) =
      ⟨LmkCmd.statKillOccurred.toInt32, memStatFields memStat, killStatFields killStat,
        (cStringBytes killStat.taskname).take (maxTasknameLen - 1)⟩ := by
  have hname : ((cStringBytes killStat.taskname).take (min (strlen killStat.taskname) (maxTasknameLen - 1))) =
      (cStringBytes killStat.taskname).take (maxTasknameLen - 1) := by
    rw [List.take_eq_take_iff, strlen]
    omega
  have hlen : ((cStringBytes killStat.taskname).take
      (min (strlen killStat.taskname) (maxTasknameLen - 1))).length =
        min (strlen killStat.taskname) (maxTasknameLen - 1) := by
    rw [List.length_take, strlen]
    omega
  rw [readKillOccurred, killOccurredBytes, killOccurredFields]
  simp only [List.append_assoc]
  rw [readInt_int32Be, ← length_memStatFields memStat, readLongs_flatMap,
    ← length_killStatFields killStat, readInts_flatMap, readUnsignedShort_beBytes (strlen_min_lt _),
    List.take_left' hlen, hname]

/-! ## `lmkd_pack_set_kill_occurred` -/

/-- With `enable_stats_log` set, for every kill stat, name and memory stat:
the packer writes only the first 214 bytes of the packet, returns
`87 + min(strlen(taskname), MAX_TASKNAME_LEN - 1) ≤ LMKD_REPLY_MAX_SIZE`, the
bytes below that are the `DataOutput` encoding of the fields, and the reader
that follows the same sequence gets every field back. -/
theorem lmkdPackSetKillOccurred_spec (packet : Nat → UInt8) (killStat : KillStat)
    (memStat : Option MemoryStat) :
    (lmkdPackSetKillOccurred true packet killStat memStat).2 =
        87 + min (strlen killStat.taskname) (maxTasknameLen - 1) ∧
      (lmkdPackSetKillOccurred true packet killStat memStat).2 ≤ lmkdReplyMaxSize ∧
      (∀ i, 214 ≤ i → (lmkdPackSetKillOccurred true packet killStat memStat).1 i = packet i) ∧
      readBytes (lmkdPackSetKillOccurred true packet killStat memStat).1 0
          (lmkdPackSetKillOccurred true packet killStat memStat).2 = killOccurredBytes killStat memStat ∧
      readKillOccurred (readBytes (lmkdPackSetKillOccurred true packet killStat memStat).1 0
          (lmkdPackSetKillOccurred true packet killStat memStat).2) =
        ⟨LmkCmd.statKillOccurred.toInt32, memStatFields memStat, killStatFields killStat,
          (cStringBytes killStat.taskname).take (maxTasknameLen - 1)⟩ := by
  have himage := length_killOccurredImage killStat memStat
  have hlen : min (strlen killStat.taskname) (maxTasknameLen - 1) ≤ 127 := Nat.min_le_right _ _
  have hbytes : readBytes (writeBytes packet 0 (killOccurredImage killStat memStat)) 0
      (87 + min (strlen killStat.taskname) (maxTasknameLen - 1)) = killOccurredBytes killStat memStat := by
    rw [← Nat.zero_add 0, readBytes_writeBytes _ _ _ (by omega), List.drop_zero,
      take_killOccurredImage]
  rw [lmkdPackSetKillOccurred_eq]
  refine ⟨rfl, ?_, fun i hi => writeBytes_of_outside _ _ _ (Or.inr ?_), hbytes, ?_⟩
  · unfold lmkdReplyMaxSize
    omega
  · rw [himage]
    exact hi
  · rw [hbytes, readKillOccurred_killOccurredBytes]

def chromeKillStat : KillStat :=
  ⟨10007, "com.android.chrome".toList.map fun c => c.toNat.toUInt8, .lowMem, 900, 800, 1000, 2000,
    10, 20⟩

/-- With `enable_stats_log` unset the packer writes nothing and returns 0, not
the length of a report. -/
theorem lmkdPackSetKillOccurred_disabled :
    lmkdPackSetKillOccurred false (fun _ => 0) chromeKillStat none = (fun _ => 0, 0) ∧
      (lmkdPackSetKillOccurred false (fun _ => 0) chromeKillStat none).2 ≠
        87 + min (strlen chromeKillStat.taskname) (maxTasknameLen - 1) :=
  ⟨rfl, by decide⟩

end Lmkd
