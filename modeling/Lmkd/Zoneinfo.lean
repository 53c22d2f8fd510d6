import Lmkd.Proc
import Lmkd.Lib.Strtok
import Lmkd.Lib.Transition

/-!
# `/proc/zoneinfo`

`zoneinfo_parse` splits the file into lines with `strtok_r`, and hands the
save point to `zoneinfo_parse_node` and `zoneinfo_parse_zone`, which take
the following lines from it until they return.  The three loops therefore
read one sequence of lines between them: the model reads it line by line,
and the state records which loop the line goes to (`ZoneinfoMode`).  Each
loop's body on one line is a function of its own (`zoneinfoParseNodeLine`,
`zoneinfoParseZoneLine`), and `zoneinfoParser` is the whole as a transition
system whose events are the lines.

The arrays of `struct zoneinfo` are maps from every index, so that a write
past the end of an array is a write at its index, which is what the
bounds results are about; what such a write overwrites in C is not modelled.
`sscanf` is modelled for the one format the parser uses, and a `%d` outside
`int` keeps its low 32 bits.
-/

namespace Lmkd

open Strtok

def maxNrZones : Nat := 6

def maxNrNodes : Nat := 2

/-- `zoneinfo_zone_field_names`, in the order of `enum zoneinfo_zone_field`. -/
def zoneinfoZoneFieldNames : List (List Char) :=
  ["nr_free_pages", "min", "low", "high", "present", "nr_free_cma", "nr_zone_inactive_file",
    "nr_zone_active_file"].map String.toList

def ziZoneNrFreePages : Nat := 0

def ziZoneMin : Nat := 1

def ziZoneLow : Nat := 2

def ziZoneHigh : Nat := 3

def ziZonePresent : Nat := 4

def ziZoneNrFreeCma : Nat := 5

def ziZoneNrInactiveFile : Nat := 6

def ziZoneNrActiveFile : Nat := 7

/-- `zoneinfo_zone_spec_field_names`. -/
def zoneinfoZoneSpecFieldNames : List (List Char) := ["protection:", "pagesets"].map String.toList

def ziZoneSpecPagesets : Nat := 1

/-- `zoneinfo_node_field_names`. -/
def zoneinfoNodeFieldNames : List (List Char) := ["nr_inactive_file", "nr_active_file"].map String.toList

def ziNodeNrInactiveFile : Nat := 0

def ziNodeNrActiveFile : Nat := 1

def ziNodeFieldCount : Nat := 2

structure ZoneinfoZone where
  fields : Nat → Int64
  protection : Nat → Int64
  maxProtection : Int64
  name : List Char

structure ZoneinfoNode where
  id : Int32
  zoneCount : Nat
  zones : Nat → ZoneinfoZone
  fields : Nat → Int64

structure Zoneinfo where
  nodeCount : Nat
  nodes : Nat → ZoneinfoNode
  totalreservePages : Int64
  totalInactiveFile : Int64
  totalActiveFile : Int64

/-- The zones, nodes and tables after `memset(zi, 0, sizeof(struct zoneinfo))`. -/
instance : Inhabited ZoneinfoZone := ⟨⟨fun _ => 0, fun _ => 0, 0, []⟩⟩

instance : Inhabited ZoneinfoNode := ⟨⟨0, 0, fun _ => default, fun _ => 0⟩⟩

instance : Inhabited Zoneinfo := ⟨⟨0, fun _ => default, 0, 0, 0⟩⟩

def ZoneinfoNode.setZone (node : ZoneinfoNode) (zoneIdx : Nat) (zone : ZoneinfoZone) : ZoneinfoNode :=
  { node with zones := Function.update node.zones zoneIdx zone }

def Zoneinfo.setNode (zi : Zoneinfo) (nodeIdx : Nat) (node : ZoneinfoNode) : Zoneinfo :=
  { zi with nodes := Function.update zi.nodes nodeIdx node }

/-! ## Fields and numbers -/

/-- `find_field(name, field_names, field_count)`. -/
def findField (name : List Char) (fieldNames : List (List Char)) : Option Nat := fieldNames.idxOf? name

/-- `match_field(cp, ap, ...)` with what it stores in `*field_idx` and
`*field`. -/
inductive FieldMatch where
  | noMatch
  | parseFail (fieldIdx : Nat)
  | parseSuccess (fieldIdx : Nat) (val : Int64)

def matchField (cp ap : List Char) (fieldNames : List (List Char)) : FieldMatch :=
  match findField cp fieldNames with
  | none => .noMatch
  | some i =>
    match parseInt64 ap with
    | none => .parseFail i
    | some v => .parseSuccess i (Int64.ofInt v)

def hexDigitValue (c : Char) : Nat :=
  if c.isDigit then c.toNat - '0'.toNat
  else if 'a' ≤ c ∧ c ≤ 'f' then c.toNat - 'a'.toNat + 10
  else if 'A' ≤ c ∧ c ≤ 'F' then c.toNat - 'A'.toNat + 10
  else 16

def digitsValueIn (base : Nat) : List Char → Nat → Nat
  | [], acc => acc
  | d :: ds, acc => digitsValueIn base ds (acc * base + hexDigitValue d)

/-- The value of `strtoll(str, &endptr, 0)`: a `0x` prefix reads hexadecimal,
a leading `0` octal, and a string without a digit reads 0. -/
def strtollBase0 (str : List Char) : Int :=
  let s := str.dropWhile isSpace
  let (neg, s) := match s with
    | '-' :: t => (true, t)
    | '+' :: t => (false, t)
    | t => (false, t)
  let (base, s) := match s with
    | '0' :: x :: c :: t =>
      if (x = 'x' ∨ x = 'X') ∧ hexDigitValue c < 16 then (16, c :: t) else (8, '0' :: x :: c :: t)
    | '0' :: t => (8, '0' :: t)
    | t => (10, t)
  let v : Int := digitsValueIn base (s.takeWhile fun c => hexDigitValue c < base) 0
  max llongMin (min llongMax (if neg then -v else v))

/-- `%d` of `sscanf`: white space, a sign and decimal digits, and what is
left; `none` when there is no digit. -/
def scanfInt (s : List Char) : Option (Int32 × List Char) :=
  let s := s.dropWhile isSpace
  let (neg, s) := match s with
    | '-' :: t => (true, t)
    | '+' :: t => (false, t)
    | t => (false, t)
  let ds := s.takeWhile Char.isDigit
  if ds.isEmpty then none
  else
    let v : Int := digitsValue ds 0
    some (Int32.ofInt (if neg then -v else v), s.dropWhile Char.isDigit)

/-- `sscanf(line, "Node %d, zone %2048s", &id, name)`: what it stores in
`id` and in `name`.  It returns 2 when it stores both; the `%d` is stored
even when the rest does not match. -/
def sscanfNodeZone (line : List Char) : Option Int32 × Option (List Char) :=
  match line with
  | 'N' :: 'o' :: 'd' :: 'e' :: rest =>
    match scanfInt rest with
    | none => (none, none)
    | some (id, ',' :: rest) =>
      match rest.dropWhile isSpace with
      | 'z' :: 'o' :: 'n' :: 'e' :: rest =>
        match (rest.dropWhile isSpace).takeWhile fun c => !isSpace c with
        | [] => (some id, none)
        | name => (some id, some (name.take lineMax))
      | _ => (some id, none)
    | some (id, _) => (some id, none)
  | _ => (none, none)

/-- `strlcpy(dst, src, size)`: at most `size - 1` characters. -/
def strlcpy (src : List Char) (size : Nat) : List Char := src.take (size - 1)

/-! ## The loops -/

inductive LineStep (α : Type) where
  | next (a : α)
  | ret (ok : Bool) (a : α)

/-- The loop of `zoneinfo_parse_protection` from `zone_idx`: each token is
read by `strtoll` in base 0; `n` counts the iterations left below
`MAX_NR_ZONES`, and `tok` is what `strtok_r` returned. -/
def zoneinfoParseProtectionLoop : Nat → Nat → Option (List Char × List Char) →
    (Nat → Int64) → Int64 → (Nat → Int64) × Int64
  | 0, _, _, protection, max => (protection, max)
  | _ + 1, _, none, protection, max => (protection, max)
  | n + 1, zoneIdx, some (buf, rest), protection, max =>
    let zoneval := strtollBase0 buf
    let max := if zoneval > max.toInt then Int64.ofInt (if zoneval > llongMax then llongMax else zoneval)
      else max
    zoneinfoParseProtectionLoop n (zoneIdx + 1) (strtokNext "), ".toList rest)
      (Function.update protection zoneIdx (Int64.ofInt zoneval)) max

def zoneinfoParseProtection (buf : List Char) (zone : ZoneinfoZone) : ZoneinfoZone :=
  let (protection, max) :=
    zoneinfoParseProtectionLoop maxNrZones 0 (strtokNext "(), ".toList buf) zone.protection 0
  { zone with protection, maxProtection := max }

/-- One iteration of the loop of `zoneinfo_parse_zone` on `zone`. -/
def zoneinfoParseZoneLine (line : List Char) (zone : ZoneinfoZone) : LineStep ZoneinfoZone :=
  match strtokNext " ".toList line with
  | none => .ret false zone
  | some (cp, rest) =>
    match findField cp zoneinfoZoneSpecFieldNames with
    | some fieldIdx =>
      -- no more fields after `pagesets`
      if fieldIdx = ziZoneSpecPagesets then .ret true zone
      else
        match strtokNext ")".toList rest with
        | some (ap, _) => .next (zoneinfoParseProtection ap zone)
        | none => .next zone
    | none =>
      match strtokNext " ".toList rest with
      | none => .next zone
      | some (ap, _) =>
        match matchField cp ap zoneinfoZoneFieldNames with
        | .parseFail _ => .ret false zone
        | .parseSuccess fieldIdx val =>
          let zone := { zone with fields := Function.update zone.fields fieldIdx val }
          -- the zone is not populated
          if fieldIdx = ziZonePresent ∧ val = 0 then .ret true zone else .next zone
        | .noMatch => .next zone

/-- One iteration of the loop of `zoneinfo_parse_node` on `node`, with the
zone name of `zoneinfo_parse` and `fields_to_match`. -/
def zoneinfoParseNodeLine (line : List Char) (node : ZoneinfoNode) (name : List Char)
    (fieldsToMatch : Nat) : LineStep (ZoneinfoNode × List Char × Nat) :=
  -- a zone without per-node stats: the next zone's header
  let (id?, zoneName?) := sscanfNodeZone line
  let node := match id? with
    | some id => { node with id }
    | none => node
  let name := match zoneName? with
    | some zoneName => strlcpy zoneName lineMax
    | none => name
  match strtokNext " ".toList line with
  | none => .ret false (node, name, fieldsToMatch)
  | some (cp, rest) =>
    match strtokNext " ".toList rest with
    | none => .ret false (node, name, fieldsToMatch)
    | some (ap, _) =>
      match matchField cp ap zoneinfoNodeFieldNames with
      | .parseFail _ => .ret false (node, name, fieldsToMatch)
      | .parseSuccess fieldIdx val =>
        let node := { node with fields := Function.update node.fields fieldIdx val }
        if fieldsToMatch - 1 = 0 then .ret true (node, name, 0)
        else .next (node, name, fieldsToMatch - 1)
      | .noMatch => .next (node, name, fieldsToMatch)

/-- The loop the next line goes to. -/
inductive ZoneinfoMode where
  | top
  | node (fieldsToMatch : Nat)
  | zone
deriving DecidableEq, Repr

/-- The locals of `zoneinfo_parse`; `node`, when set, points at
`zi->nodes[node_idx]`. -/
structure ZoneinfoState where
  zi : Zoneinfo
  nodeSet : Bool
  nodeIdx : Nat
  zoneIdx : Nat
  zoneName : List Char
  mode : ZoneinfoMode

def zoneinfoStep (st : ZoneinfoState) (line : List Char) : Option ZoneinfoState :=
  match st.mode with
  | .top =>
    match sscanfNodeZone line with
    | (some nodeId, some zoneName) =>
      if !st.nodeSet || (st.zi.nodes st.nodeIdx).id != nodeId then
        -- a new node
        let zi := if st.nodeSet then
            st.zi.setNode st.nodeIdx { st.zi.nodes st.nodeIdx with zoneCount := st.zoneIdx + 1 }
          else st.zi
        let nodeIdx := if st.nodeSet then st.nodeIdx + 1 else st.nodeIdx
        -- the node count is exceeded
        if st.nodeSet ∧ nodeIdx = maxNrNodes then none
        else
          some
            { zi := zi.setNode nodeIdx { zi.nodes nodeIdx with id := nodeId }
              nodeSet := true
              nodeIdx := nodeIdx
              zoneIdx := 0
              zoneName := zoneName
              mode := .node ziNodeFieldCount }
      else
        -- a new zone of the same node
        some { st with zoneIdx := st.zoneIdx + 1, zoneName, mode := .zone }
    | _ => some st
  | .node fieldsToMatch =>
    match zoneinfoParseNodeLine line (st.zi.nodes st.nodeIdx) st.zoneName fieldsToMatch with
    | .next (node, zoneName, k) =>
      some { st with zi := st.zi.setNode st.nodeIdx node, zoneName, mode := .node k }
    | .ret true (node, zoneName, _) =>
      some { st with zi := st.zi.setNode st.nodeIdx node, zoneName, mode := .zone }
    | .ret false _ => none
  | .zone =>
    let node := st.zi.nodes st.nodeIdx
    match zoneinfoParseZoneLine line (node.zones st.zoneIdx) with
    | .next zone => some { st with zi := st.zi.setNode st.nodeIdx (node.setZone st.zoneIdx zone) }
    | .ret true zone =>
      some { st with
        zi := st.zi.setNode st.nodeIdx
          (node.setZone st.zoneIdx { zone with name := strlcpy st.zoneName lineMax })
        mode := .top }
    | .ret false _ => none

def zoneinfoParser : Transition.System ZoneinfoState (List Char) where
  init := ⟨default, false, 0, 0, [], .top⟩
  step := zoneinfoStep

def zoneinfoTotals (zi : Zoneinfo) : Zoneinfo :=
  (List.range zi.nodeCount).foldl (fun zi nodeIdx =>
    let node := zi.nodes nodeIdx
    let zi := (List.range node.zoneCount).foldl (fun zi zoneIdx =>
      let zone := node.zones zoneIdx
      { zi with totalreservePages := zi.totalreservePages + (zone.maxProtection + zone.fields ziZoneHigh) })
      zi
    { zi with
      totalInactiveFile := zi.totalInactiveFile + node.fields ziNodeNrInactiveFile
      totalActiveFile := zi.totalActiveFile + node.fields ziNodeNrActiveFile }) zi

/-- After the last line: the loops of `zoneinfo_parse_node` and
`zoneinfo_parse_zone` return false when the lines run out. -/
def zoneinfoFinish (st : ZoneinfoState) : Option Zoneinfo :=
  match st.mode with
  | .top =>
    if !st.nodeSet then none
    else
      let zi := st.zi.setNode st.nodeIdx { st.zi.nodes st.nodeIdx with zoneCount := st.zoneIdx + 1 }
      some (zoneinfoTotals { zi with nodeCount := st.nodeIdx + 1 })
  | _ => none

/-- The lines `strtok_r(buf, "\n", ...)` returns. -/
def zoneinfoLines (buf : List Char) : List (List Char) :=
  strtokCalls ['\n'] ((cString buf).length + 1) (cString buf)

/-- `zoneinfo_parse(&zi)` on what `reread_file` returns: `none` for -1. -/
def zoneinfoParse (file : Option (List Char)) : Option Zoneinfo :=
  match file with
  | none => none
  | some buf => (zoneinfoParser.run (zoneinfoLines buf)).bind zoneinfoFinish

end Lmkd
