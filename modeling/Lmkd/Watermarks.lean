import Lmkd.Zoneinfo

/-!
# `calc_zone_watermarks`

The zone watermarks and free pages lmkd compares, summed over the zones
whose `pgskip` delta is 0.  A zone's delta is looked up by its name among
the `vmstat` field names, and when no name matches, taken at a cursor `i`
that moves over `pgskip_deltas` as the zones go by: over the negative
entries, past a zone that is not present, past a delta taken at the cursor,
and, when `debug_process_killing` is set, past the entry that the debug log
prints.

`pgskip_deltas` has one entry per `pgskip` counter.  A read outside it is
undefined in C; the model stops there with the index it reads
(`Except Int`).  The index of the cursor is kept as `PGSKIP_IDX(i)`.
-/

namespace Lmkd

open Strtok

/-- `vmstat_field_names`, in the order of `enum vmstat_field`. -/
def vmstatFieldNames : List (List Char) :=
  ["nr_free_pages", "nr_inactive_file", "nr_active_file", "workingset_refault",
    "workingset_refault_file", "pgrefill", "pgscan_kswapd", "pgscan_direct",
    "pgscan_direct_throttle", "pgskip_dma", "pgskip_dma32", "pgskip_normal", "pgskip_high",
    "pgskip_movable", "compact_stall"].map String.toList

def vsFieldCount : Nat := 15

def vsPgskipFirstZone : Nat := 9

def vsPgskipNormal : Nat := 11

def vsPgskipLastZone : Nat := 13

/-- `VS_PGSKIP_LAST_ZONE - VS_PGSKIP_FIRST_ZONE + 1`, the length of
`pgskip_deltas`. -/
def pgskipCount : Nat := 5

def eINVAL : Int64 := 22

/-- `vmstat_parse_line(line, vs)`: `none` when it returns false. -/
def vmstatParseLine (line : List Char) (vs : Fin vsFieldCount → Int64) :
    Option (Fin vsFieldCount → Int64) :=
  match strtokNext " ".toList line with
  | none => none
  | some (cp, rest) =>
    match strtokNext " ".toList rest with
    | none => none
    | some (ap, _) =>
      match matchField cp ap vmstatFieldNames with
      | .parseFail _ => none
      | .parseSuccess fieldIdx val =>
        if h : fieldIdx < vsFieldCount then some (Function.update vs ⟨fieldIdx, h⟩ val)
        else some vs
      | .noMatch => some vs

/-- `vmstat_parse(vs)` on what `reread_file` returns, `none` for -1: the
`pgskip` counters are prefilled with `-EINVAL`, so that one the file does not
have stays negative. -/
def vmstatParse (file : Option (List Char)) : Option (Fin vsFieldCount → Int64) :=
  match file with
  | none => none
  | some buf =>
    (strtokCalls ['\n'] ((cString buf).length + 1) (cString buf)).foldlM
      (fun vs line => vmstatParseLine line vs)
      fun i => if vsPgskipFirstZone ≤ i.val ∧ i.val ≤ vsPgskipLastZone then -eINVAL else 0

/-- `fill_log_pgskip_stats(vs, init_pgskip, pgskip_deltas)`: -1 for a
counter `vmstat` does not have, which `vmstat_parse` leaves at `-EINVAL`. -/
def fillLogPgskipStats (mglruStatus : Int32) (vs : Fin vsFieldCount → Int64)
    (initPgskip : Fin pgskipCount → Int64) : Fin pgskipCount → Int64 :=
  let deltas : Fin pgskipCount → Int64 := fun k =>
    let v := vs ⟨vsPgskipFirstZone + k, by have := k.isLt; unfold vsPgskipFirstZone vsFieldCount; unfold pgskipCount at this; omega⟩
    if 0 ≤ v then v - initPgskip k else -1
  -- with MGLRU the Normal zone's delta is not used
  if mglruStatus > 0 then Function.update deltas ⟨vsPgskipNormal - vsPgskipFirstZone, by decide⟩ 0
  else deltas

/-- `strcasestr(haystack, needle) != NULL`. -/
def strcasestr (haystack needle : List Char) : Bool :=
  (haystack.map Char.toLower).tails.any fun t => (needle.map Char.toLower).isPrefixOf t

/-- `pgskip_deltas[k]`, or the index when it is outside the array. -/
def readPgskip (deltas : Fin pgskipCount → Int64) (k : Int) : Except Int Int64 :=
  if h : 0 ≤ k ∧ k < pgskipCount then .ok (deltas ⟨k.toNat, by omega⟩) else .error k

/-- `get_zone_pgskip_deltas_val(name, pgskip_deltas)`: -2 when no `vmstat`
field name contains the zone name. -/
def getZonePgskipDeltasVal (name : List Char) (deltas : Fin pgskipCount → Int64) :
    Except Int Int64 :=
  match vmstatFieldNames.findIdx? fun field => strcasestr field name with
  | none => .ok (-2)
  | some idx => readPgskip deltas ((idx : Int) - vsPgskipFirstZone)

/-- `while (pgskip_deltas[PGSKIP_IDX(i)] < 0) ++i;`, on the entries from
the cursor `k` on. -/
def pgskipWhileNeg : List Int64 → Nat → Except Int Nat
  | [], k => .error k
  | v :: rest, k => if v < 0 then pgskipWhileNeg rest (k + 1) else .ok k

structure ZoneWatermarks where
  highWmark : Int64
  lowWmark : Int64
  minWmark : Int64
deriving DecidableEq, Repr

structure ZoneMeminfo where
  nrFreePages : Int64
  cmaFree : Int64
  nrZoneInactiveFile : Int64
  nrZoneActiveFile : Int64
  watermarks : ZoneWatermarks
deriving DecidableEq, Repr

/-- The locals of `calc_zone_watermarks` across its loops. -/
structure WatermarkAcc where
  zmi : ZoneMeminfo
  maxHigh : Int64
  maxLow : Int64
  maxMin : Int64
  maxProtection : Int64
deriving DecidableEq, Repr

def int64Max (a b : Int64) : Int64 := if a < b then b else a

/-- What `calc_zone_watermarks` reads besides the zones. -/
structure WatermarkEnv where
  debugProcessKilling : Bool
  mglruStatus : Int32
  wbfEffective : Int32
  pgskipDeltas : Fin pgskipCount → Int64

def calcZoneWatermarksZone (env : WatermarkEnv) (zone : ZoneinfoZone) (acc : WatermarkAcc)
    (k : Nat) : Except Int (WatermarkAcc × Nat) := do
  let k ← pgskipWhileNeg ((List.ofFn env.pgskipDeltas).drop k) k
  if zone.fields ziZonePresent = 0 then return (acc, k + 1)
  let val ← getZonePgskipDeltasVal (strlcpy zone.name lineMax) env.pgskipDeltas
  let (val, k) ← if val = -2 then do
      let val ← readPgskip env.pgskipDeltas k
      pure (val, k + 1)
    else pure (val, k)
  -- the argument `pgskip_deltas[PGSKIP_IDX(i++)]` of the debug log
  let k ← if env.debugProcessKilling then do
      let _ ← readPgskip env.pgskipDeltas k
      pure (k + 1)
    else pure k
  if val = 0 then
    let zmi := { acc.zmi with
      nrFreePages := acc.zmi.nrFreePages + zone.fields ziZoneNrFreePages
      cmaFree := acc.zmi.cmaFree + zone.fields ziZoneNrFreeCma }
    -- with MGLRU, the file pages of zones whose watermark is breached only
    let zmi :=
      if env.mglruStatus = 0 ∨
          zone.fields ziZoneNrFreePages ≤ zone.fields ziZoneHigh * Int64.ofInt env.wbfEffective.toInt then
        { zmi with
          nrZoneInactiveFile := zmi.nrZoneInactiveFile + zone.fields ziZoneNrInactiveFile
          nrZoneActiveFile := zmi.nrZoneActiveFile + zone.fields ziZoneNrActiveFile }
      else zmi
    return ({ zmi
              maxHigh := int64Max acc.maxHigh (zone.fields ziZoneHigh)
              maxLow := int64Max acc.maxLow (zone.fields ziZoneLow)
              maxMin := int64Max acc.maxMin (zone.fields ziZoneMin)
              maxProtection := int64Max acc.maxProtection zone.maxProtection }, k)
  else return (acc, k)

/-- One node of the outer loop: its zones from `i = VS_PGSKIP_FIRST_ZONE`,
then the watermarks from the maxima so far. -/
def calcZoneWatermarksNode (env : WatermarkEnv) (zi : Zoneinfo) (acc : WatermarkAcc)
    (nodeIdx : Nat) : Except Int WatermarkAcc := do
  let node := zi.nodes nodeIdx
  let (acc, _) ← (List.range node.zoneCount).foldlM
    (fun (acc, k) zoneIdx => calcZoneWatermarksZone env (node.zones zoneIdx) acc k) (acc, 0)
  return { acc with
    zmi := { acc.zmi with
      watermarks := ⟨acc.maxHigh + acc.maxProtection, acc.maxLow + acc.maxProtection,
        acc.maxMin + acc.maxProtection⟩ } }

def calcZoneWatermarks (env : WatermarkEnv) (zi : Zoneinfo) : Except Int ZoneMeminfo := do
  let acc ← (List.range zi.nodeCount).foldlM (calcZoneWatermarksNode env zi)
    ⟨⟨0, 0, 0, 0, ⟨0, 0, 0⟩⟩, 0, 0, 0, 0⟩
  return acc.zmi

end Lmkd
