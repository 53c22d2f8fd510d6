import Lmkd.Zoneinfo
import Mathlib

/-!
# `/proc/meminfo`

`meminfo_parse` reads the file line by line as `vmstat_parse` does, with
the same line parser (`parseFieldLine`): the first blank-separated token
names a field of `meminfo_field_names`, the second is its value in kB, which
is stored in pages (divided by `page_k`).
A line whose first token names no field is skipped, and the parse fails on a
line with fewer than two tokens or a named field whose value does not parse.
After the lines, `easy_available` is the free pages and the inactive file
pages.

`get_free_swap` bounds the free swap by the easily available memory times
`swap_compression_ratio`; `calc_swap_utilization` and the swap threshold of
`mp_event_psi` are computed from it in `int64_t`.  `total_gpu_kb`, which only
the kill report reads, is not modelled.
-/

namespace Lmkd

open Strtok

/-- `meminfo_field_names`, in the order of `enum meminfo_field`. -/
def meminfoFieldNames : List (List Char) :=
  ["MemFree:", "Cached:", "SwapCached:", "Shmem:", "Unevictable:", "SwapTotal:", "SwapFree:",
    "Active(anon):", "Inactive(anon):", "Active(file):", "Inactive(file):", "SReclaimable:",
    "SUnreclaim:", "KernelStack:", "PageTables:", "ION_heap:", "ION_heap_pool:", "CmaFree:"].map
    String.toList

def miFieldCount : Nat := 18

theorem miFieldCount_ne_zero : miFieldCount ≠ 0 := by decide

instance : NeZero miFieldCount := ⟨miFieldCount_ne_zero⟩

/-! The fields of `enum meminfo_field` that lmkd reads. -/

def miNrFreePages : Fin miFieldCount := 0

def miShmem : Fin miFieldCount := 3

def miTotalSwap : Fin miFieldCount := 5

def miFreeSwap : Fin miFieldCount := 6

def miActiveAnon : Fin miFieldCount := 7

def miInactiveAnon : Fin miFieldCount := 8

def miInactiveFile : Fin miFieldCount := 10

/-- `union meminfo`: the fields of the file by index, and `easy_available`,
computed after them. -/
structure Meminfo where
  arr : Fin miFieldCount → Int64
  easyAvailable : Int64

/-- The line parser `meminfo_parse_line` and `vmstat_parse_line` share: the
first token names a field of `fieldNames`, the second is its value, and
`store` is what is written for it.  `none` when the parser returns false. -/
def parseFieldLine {n : Nat} (fieldNames : List (List Char)) (store : Int64 → Int64) (line : List Char)
    (arr : Fin n → Int64) : Option (Fin n → Int64) :=
  match strtokNext " ".toList line with
  | none => none
  | some (cp, rest) =>
    match strtokNext " ".toList rest with
    | none => none
    | some (ap, _) =>
      match matchField cp ap fieldNames with
      | .parseFail _ => none
      | .parseSuccess fieldIdx val =>
        if h : fieldIdx < n then some (Function.update arr ⟨fieldIdx, h⟩ (store val))
        else some arr
      | .noMatch => some arr

/-- `meminfo_parse_line(line, mi)`: a field is stored in pages. -/
def meminfoParseLine (pageK : Int) (line : List Char) (arr : Fin miFieldCount → Int64) :
    Option (Fin miFieldCount → Int64) :=
  parseFieldLine meminfoFieldNames (fun val => val / Int64.ofInt pageK) line arr

/-- `meminfo_parse(mi)` on what `reread_file` returns, `none` for -1: the
fields start at 0 (`memset`). -/
def meminfoParse (pageK : Int) (file : Option (List Char)) : Option Meminfo :=
  match file with
  | none => none
  | some buf =>
    match (strtokCalls ['\n'] ((cString buf).length + 1) (cString buf)).foldlM
        (fun arr line => meminfoParseLine pageK line arr) fun _ => 0 with
    | none => none
    | some arr => some ⟨arr, arr miNrFreePages + arr miInactiveFile⟩

def int64Min (a b : Int64) : Int64 := if b < a then b else a

/-- `get_free_swap(mi)`: with ZRAM, swap is taken from memory, so the free
swap counts at most the easily available memory times the ratio. -/
def getFreeSwap (swapCompressionRatio : Int32) (mi : Meminfo) : Int64 :=
  if swapCompressionRatio ≠ 0 then
    int64Min (mi.arr miFreeSwap) (mi.easyAvailable * swapCompressionRatio.toInt64)
  else mi.arr miFreeSwap

/-- `calc_swap_utilization(mi)`: the swap in use as a percentage of the anon
and shmem pages and the swap in use, returned as an `int`. -/
def calcSwapUtilization (swapCompressionRatio : Int32) (mi : Meminfo) : Int32 :=
  let swapUsed := mi.arr miTotalSwap - getFreeSwap swapCompressionRatio mi
  let totalSwappable := mi.arr miActiveAnon + mi.arr miInactiveAnon + mi.arr miShmem + swapUsed
  (if totalSwappable > 0 then swapUsed * 100 / totalSwappable else 0).toInt32

/-- `swap_low_threshold` of `mp_event_psi`: a percentage of the total swap,
or 0 when `swap_free_low_percentage` is 0. -/
def swapLowThreshold (swapFreeLowPercentage : Int32) (mi : Meminfo) : Int64 :=
  if swapFreeLowPercentage ≠ 0 then mi.arr miTotalSwap * swapFreeLowPercentage.toInt64 / 100 else 0

/-- `swap_is_low` of `mp_event_psi`, which starts false. -/
def swapIsLow (swapCompressionRatio swapFreeLowPercentage : Int32) (mi : Meminfo) : Bool :=
  swapFreeLowPercentage ≠ 0 ∧
    getFreeSwap swapCompressionRatio mi < swapLowThreshold swapFreeLowPercentage mi

end Lmkd
