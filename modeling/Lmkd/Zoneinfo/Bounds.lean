import Lmkd.Zoneinfo
import Lmkd.Lib.Reorder
import Mathlib.Data.List.Induction

/-!
# Which entries of `struct zoneinfo` the parser writes

Every state the parser reaches has `node_idx < MAX_NR_NODES`, leaves the
nodes from `MAX_NR_NODES` on as `memset` left them, and leaves every
`protection` entry from `MAX_NR_ZONES` on at 0; so a parse that returns 0
has between 1 and `MAX_NR_NODES` nodes, each with at least one zone
(`zoneinfoParse_bounds`).

The zone index has no bound: every header of the node already being parsed
moves it on, and a seventh zone of one node is written at
`zones[MAX_NR_ZONES]` (`zoneinfoParse_sevenZones`).
-/

namespace Lmkd

open Strtok Reorder

def LineStep.val {α : Type} : LineStep α → α
  | .next a => a
  | .ret _ a => a

@[simp] theorem setNode_nodes (zi : Zoneinfo) (nodeIdx : Nat) (node : ZoneinfoNode) (k : Nat) :
    (zi.setNode nodeIdx node).nodes k = if k = nodeIdx then node else zi.nodes k := by
  simp only [Zoneinfo.setNode, Function.update_apply]

@[simp] theorem setZone_zones (node : ZoneinfoNode) (zoneIdx : Nat) (zone : ZoneinfoZone) (z : Nat) :
    (node.setZone zoneIdx zone).zones z = if z = zoneIdx then zone else node.zones z := by
  simp only [ZoneinfoNode.setZone, Function.update_apply]

/-! ## The bodies of the loops -/

theorem zoneinfoParseProtectionLoop_protection {j : Nat} :
    ∀ (n zoneIdx : Nat) (tok : Option (List Char × List Char)) (protection : Nat → Int64)
      (max : Int64), zoneIdx + n ≤ j →
      (zoneinfoParseProtectionLoop n zoneIdx tok protection max).1 j = protection j
  | 0, _, _, _, _, _ => rfl
  | _ + 1, _, none, _, _, _ => rfl
  | n + 1, zoneIdx, some (buf, rest), protection, max, hj => by
    rw [zoneinfoParseProtectionLoop,
      zoneinfoParseProtectionLoop_protection n (zoneIdx + 1) _ _ _ (by omega),
      Function.update_of_ne (by omega)]

theorem zoneinfoParseProtection_protection (buf : List Char) (zone : ZoneinfoZone) {j : Nat}
    (hj : maxNrZones ≤ j) : (zoneinfoParseProtection buf zone).protection j = zone.protection j :=
  zoneinfoParseProtectionLoop_protection _ _ _ _ _ (by rw [Nat.zero_add]; exact hj)

theorem zoneinfoParseZoneLine_protection (line : List Char) (zone : ZoneinfoZone) {j : Nat}
    (hj : maxNrZones ≤ j) : (zoneinfoParseZoneLine line zone).val.protection j = zone.protection j := by
  unfold zoneinfoParseZoneLine
  split
  · rfl
  · split
    · split
      · rfl
      · split
        · exact zoneinfoParseProtection_protection _ _ hj
        · rfl
    · split
      · rfl
      · split
        · rfl
        · dsimp only
          split <;> rfl
        · rfl

theorem zoneinfoParseNodeLine_val (line : List Char) (node : ZoneinfoNode) (name : List Char)
    (fieldsToMatch : Nat) :
    (zoneinfoParseNodeLine line node name fieldsToMatch).val.1.zones = node.zones ∧
      (zoneinfoParseNodeLine line node name fieldsToMatch).val.1.zoneCount = node.zoneCount ∧
      (zoneinfoParseNodeLine line node name fieldsToMatch).val.1.id = (sscanfNodeZone line).1.getD node.id := by
  unfold zoneinfoParseNodeLine
  obtain ⟨id?, zoneName?⟩ := sscanfNodeZone line
  cases id? <;> dsimp only
  -- every branch leaves the node `sscanf` left, or it with one field set
  all_goals
    split
    · exact ⟨rfl, rfl, rfl⟩
    · split
      · exact ⟨rfl, rfl, rfl⟩
      · split
        · exact ⟨rfl, rfl, rfl⟩
        · split
          · exact ⟨rfl, rfl, rfl⟩
          · exact ⟨rfl, rfl, rfl⟩
        · exact ⟨rfl, rfl, rfl⟩

/-! ## The invariant of the parser -/

structure ZoneinfoInv (st : ZoneinfoState) : Prop where
  nodeIdx_lt : st.nodeIdx < maxNrNodes
  nodes_untouched : ∀ k, maxNrNodes ≤ k → st.zi.nodes k = default
  zoneCount_pos : ∀ k < st.nodeIdx, 1 ≤ (st.zi.nodes k).zoneCount
  protection_zero : ∀ n z j, maxNrZones ≤ j → (((st.zi.nodes n).zones z).protection j) = 0

theorem zoneinfoInv_init : ZoneinfoInv zoneinfoParser.init where
  nodeIdx_lt := by decide
  nodes_untouched _ _ := rfl
  zoneCount_pos _ hk := absurd hk (Nat.not_lt_zero _)
  protection_zero _ _ _ _ := rfl

theorem ZoneinfoInv.setNode {st : ZoneinfoState} (hi : ZoneinfoInv st) {nodeIdx : Nat}
    (hlt : nodeIdx < maxNrNodes) (node : ZoneinfoNode)
    (hprot : ∀ z j, maxNrZones ≤ j → (node.zones z).protection j = 0) :
    (∀ k, maxNrNodes ≤ k → (st.zi.setNode nodeIdx node).nodes k = default) ∧
      ∀ n z j, maxNrZones ≤ j → (((st.zi.setNode nodeIdx node).nodes n).zones z).protection j = 0 := by
  refine ⟨fun k hk => ?_, fun n z j hj => ?_⟩
  · rw [setNode_nodes, if_neg (by omega)]
    exact hi.nodes_untouched k hk
  · rw [setNode_nodes]
    split
    · exact hprot z j hj
    · exact hi.protection_zero n z j hj

theorem zoneinfoInv_newNode {st : ZoneinfoState} (hi : ZoneinfoInv st) (nodeId : Int32)
    (zoneName : List Char)
    (hguard : ¬ (st.nodeSet = true ∧ (if st.nodeSet then st.nodeIdx + 1 else st.nodeIdx) = maxNrNodes)) :
    let zi := if st.nodeSet then
        st.zi.setNode st.nodeIdx { st.zi.nodes st.nodeIdx with zoneCount := st.zoneIdx + 1 }
      else st.zi
    let nodeIdx := if st.nodeSet then st.nodeIdx + 1 else st.nodeIdx
    ZoneinfoInv
      { zi := zi.setNode nodeIdx { zi.nodes nodeIdx with id := nodeId }, nodeSet := true,
        nodeIdx := nodeIdx, zoneIdx := 0, zoneName := zoneName, mode := .node ziNodeFieldCount } := by
  intro zi nodeIdx
  have hlt : nodeIdx < maxNrNodes := by
    have h0 := hi.nodeIdx_lt
    unfold maxNrNodes at h0 hguard ⊢
    cases hset : st.nodeSet
    · simpa only [nodeIdx, hset, Bool.false_eq_true, if_false] using h0
    · simp only [nodeIdx, hset, if_true, true_and] at hguard ⊢
      omega
  -- the node left behind, written below `MAX_NR_NODES` with its zones kept
  have hzi : (∀ k, maxNrNodes ≤ k → zi.nodes k = default) ∧
      ∀ n z j, maxNrZones ≤ j → (((zi.nodes n).zones z).protection j) = 0 := by
    cases hset : st.nodeSet
    · simp only [zi, hset, Bool.false_eq_true, if_false]
      exact ⟨hi.nodes_untouched, hi.protection_zero⟩
    · simp only [zi, hset, if_true]
      exact hi.setNode hi.nodeIdx_lt _ fun z j hj => hi.protection_zero _ z j hj
  refine ⟨hlt, fun k hk => ?_, fun k hk => ?_, fun n z j hj => ?_⟩
  · rw [setNode_nodes, if_neg (by omega)]
    exact hzi.1 k hk
  · dsimp only at hk ⊢
    rw [setNode_nodes, if_neg (by omega)]
    cases hset : st.nodeSet
    · simp only [zi, nodeIdx, hset, Bool.false_eq_true, if_false] at hk ⊢
      exact hi.zoneCount_pos k hk
    · simp only [zi, nodeIdx, hset, if_true] at hk ⊢
      rw [setNode_nodes]
      split
      · exact Nat.le_add_left 1 _
      · exact hi.zoneCount_pos k (by omega)
  · rw [setNode_nodes]
    split
    · exact hzi.2 nodeIdx z j hj
    · exact hzi.2 n z j hj

theorem ZoneinfoInv.setCurrentNode {st : ZoneinfoState} (hi : ZoneinfoInv st) (node : ZoneinfoNode)
    (hprot : ∀ z j, maxNrZones ≤ j → (node.zones z).protection j = 0) (zoneName : List Char)
    (mode : ZoneinfoMode) :
    ZoneinfoInv { st with zi := st.zi.setNode st.nodeIdx node, zoneName := zoneName, mode := mode } := by
  have hset := hi.setNode hi.nodeIdx_lt node hprot
  refine ⟨hi.nodeIdx_lt, hset.1, fun k hk => ?_, hset.2⟩
  rw [setNode_nodes, if_neg (Nat.ne_of_lt hk)]
  exact hi.zoneCount_pos k hk

theorem zoneinfoStep_inv {st st' : ZoneinfoState} {line : List Char} (hi : ZoneinfoInv st)
    (h : zoneinfoStep st line = some st') : ZoneinfoInv st' := by
  unfold zoneinfoStep at h
  split at h
  · -- the loop of `zoneinfo_parse`
    split at h
    · rename_i nodeId zoneName _
      split at h
      · dsimp only at h
        by_cases hguard : st.nodeSet = true ∧
            (if st.nodeSet = true then st.nodeIdx + 1 else st.nodeIdx) = maxNrNodes
        · rw [if_pos hguard] at h
          cases h
        · rw [if_neg hguard] at h
          cases h
          exact zoneinfoInv_newNode hi nodeId zoneName hguard
      · cases h
        exact ⟨hi.nodeIdx_lt, hi.nodes_untouched, hi.zoneCount_pos, hi.protection_zero⟩
    · cases h
      exact hi
  · -- the loop of `zoneinfo_parse_node` changes the node's id and fields only
    rename_i fieldsToMatch _
    have hzones := (zoneinfoParseNodeLine_val line (st.zi.nodes st.nodeIdx) st.zoneName fieldsToMatch).1
    split at h <;> rename_i heq <;> rw [heq] at hzones <;> simp only [LineStep.val] at hzones
    · cases h
      exact hi.setCurrentNode _ (fun z j hj => hzones ▸ hi.protection_zero _ z j hj) _ _
    · cases h
      exact hi.setCurrentNode _ (fun z j hj => hzones ▸ hi.protection_zero _ z j hj) _ _
    · cases h
  · -- the loop of `zoneinfo_parse_zone` writes one zone, whose protection
    -- entries from `MAX_NR_ZONES` on it keeps
    have hprot : ∀ j, maxNrZones ≤ j →
        (zoneinfoParseZoneLine line ((st.zi.nodes st.nodeIdx).zones st.zoneIdx)).val.protection j =
          ((st.zi.nodes st.nodeIdx).zones st.zoneIdx).protection j :=
      fun j hj => zoneinfoParseZoneLine_protection line _ hj
    have hzone : ∀ zone : ZoneinfoZone, (∀ j, maxNrZones ≤ j → zone.protection j = 0) →
        ∀ z j, maxNrZones ≤ j → (((st.zi.nodes st.nodeIdx).setZone st.zoneIdx zone).zones z).protection j = 0 := by
      intro zone hz z j hj
      rw [setZone_zones]
      split
      · exact hz j hj
      · exact hi.protection_zero _ z j hj
    dsimp only at h
    split at h <;> rename_i zone heq <;> rw [heq] at hprot <;> simp only [LineStep.val] at hprot
    · cases h
      exact hi.setCurrentNode _
        (hzone zone fun j hj => (hprot j hj).trans (hi.protection_zero _ _ j hj)) _ _
    · cases h
      exact hi.setCurrentNode _ (hzone { zone with name := strlcpy st.zoneName lineMax }
        fun j hj => (hprot j hj).trans (hi.protection_zero _ _ j hj)) _ _
    · cases h

theorem zoneinfoInv_of_reachable {st : ZoneinfoState} (h : zoneinfoParser.Reachable st) :
    ZoneinfoInv st :=
  Transition.System.Reachable.induction zoneinfoParser zoneinfoInv_init
    (fun _ _ _ hi hstep => zoneinfoStep_inv hi hstep) h

/-! ## A parse that returns 0 -/

theorem zoneinfoTotals_nodes (zi : Zoneinfo) :
    (zoneinfoTotals zi).nodeCount = zi.nodeCount ∧ (zoneinfoTotals zi).nodes = zi.nodes := by
  have hview : ((zoneinfoTotals zi).nodeCount, (zoneinfoTotals zi).nodes) = (zi.nodeCount, zi.nodes) := by
    unfold zoneinfoTotals
    apply foldl_view_eq fun zi : Zoneinfo => (zi.nodeCount, zi.nodes)
    intro s nodeIdx
    dsimp only
    apply foldl_view_eq fun zi : Zoneinfo => (zi.nodeCount, zi.nodes)
    intro _ _
    rfl
  exact Prod.mk.inj hview

theorem zoneinfoFinish_eq {st : ZoneinfoState} {zi : Zoneinfo} (h : zoneinfoFinish st = some zi) :
    st.nodeSet = true ∧ zi.nodeCount = st.nodeIdx + 1 ∧
      zi.nodes = (st.zi.setNode st.nodeIdx
        { st.zi.nodes st.nodeIdx with zoneCount := st.zoneIdx + 1 }).nodes := by
  unfold zoneinfoFinish at h
  split at h
  · split at h
    · cases h
    · rename_i hset
      cases h
      obtain ⟨hcount, hnodes⟩ := zoneinfoTotals_nodes
        { st.zi.setNode st.nodeIdx { st.zi.nodes st.nodeIdx with zoneCount := st.zoneIdx + 1 } with
          nodeCount := st.nodeIdx + 1 }
      exact ⟨by simpa using hset, hcount, hnodes⟩
  · cases h

theorem zoneinfoParse_bounds {file : Option (List Char)} {zi : Zoneinfo}
    (h : zoneinfoParse file = some zi) :
    1 ≤ zi.nodeCount ∧ zi.nodeCount ≤ maxNrNodes ∧
      (∀ k < zi.nodeCount, 1 ≤ (zi.nodes k).zoneCount) ∧
      (∀ k, maxNrNodes ≤ k → zi.nodes k = default) ∧
      ∀ n z j, maxNrZones ≤ j → ((zi.nodes n).zones z).protection j = 0 := by
  cases file with
  | none => cases h
  | some buf =>
    obtain ⟨st, hrun, hfinish⟩ := Option.bind_eq_some_iff.mp h
    have hi := zoneinfoInv_of_reachable (zoneinfoParser.reachable_of_run hrun)
    obtain ⟨-, hcount, hnodes⟩ := zoneinfoFinish_eq hfinish
    have hset := hi.setNode hi.nodeIdx_lt { st.zi.nodes st.nodeIdx with zoneCount := st.zoneIdx + 1 }
      fun z j hj => hi.protection_zero _ z j hj
    rw [hcount, hnodes]
    refine ⟨Nat.le_add_left 1 _, hi.nodeIdx_lt, fun k hk => ?_, hset.1, hset.2⟩
    rw [setNode_nodes]
    split
    · exact Nat.le_add_left 1 _
    · exact hi.zoneCount_pos k (by omega)

/-! ## Texts the kernel prints

The kernel prints each zone of a node once, under a header `Node <id>, zone
<name>`, and at most `__MAX_NR_ZONES` of them per node, which
`MAX_NR_ZONES` mirrors; no other line of /proc/zoneinfo starts with `Node`.
On such a text the zone index stays below `MAX_NR_ZONES`.  It moves on only
at a header that names the node being parsed, and that node's id is the one
read from the last line that named a node since the node began: the header
that began it, or a line `zoneinfo_parse_node` scanned.  So the zone index
stays below the number of lines naming the node's id so far
(`ZoneCountInv`). -/

/-- The lines from which `sscanf(line, "Node %d, ...")` reads the id `id`. -/
def nodeLineCount (id : Int32) (lines : List (List Char)) : Nat :=
  lines.countP fun l => (sscanfNodeZone l).1 == some id

/-- No node is named by more than `MAX_NR_ZONES` lines. -/
def zonesPerNode (lines : List (List Char)) : Bool :=
  lines.all fun l => (sscanfNodeZone l).1.all fun id => decide (nodeLineCount id lines ≤ maxNrZones)

theorem nodeLineCount_append_singleton (id : Int32) (pre : List (List Char)) (line : List Char) :
    nodeLineCount id (pre ++ [line]) =
      nodeLineCount id pre + if (sscanfNodeZone line).1 = some id then 1 else 0 := by
  simp only [nodeLineCount, List.countP_append, List.countP_singleton, beq_iff_eq]

theorem nodeLineCount_le_append_singleton (id : Int32) (pre : List (List Char)) (line : List Char) :
    nodeLineCount id pre ≤ nodeLineCount id (pre ++ [line]) := by
  rw [nodeLineCount_append_singleton]
  exact Nat.le_add_right _ _

theorem nodeLineCount_pos_of_scan {id : Int32} (pre : List (List Char)) {line : List Char}
    (h : (sscanfNodeZone line).1 = some id) : 0 < nodeLineCount id (pre ++ [line]) := by
  rw [nodeLineCount_append_singleton, if_pos h]
  exact Nat.succ_pos _

theorem nodeLineCount_le_of_zonesPerNode {lines : List (List Char)} (h : zonesPerNode lines = true)
    (id : Int32) : nodeLineCount id lines ≤ maxNrZones := by
  by_contra hgt
  obtain ⟨l, hl, hid⟩ := List.countP_pos_iff.mp (Nat.lt_of_le_of_lt (Nat.zero_le _) (Nat.lt_of_not_le hgt))
  have hcheck := List.all_eq_true.mp h l hl
  rw [beq_iff_eq.mp hid] at hcheck
  exact hgt (of_decide_eq_true hcheck)

/-- What a state of the parser satisfies after the lines `pre`: the zone
index, and the zone count of every node left behind, are at most the number
of lines that named the node. -/
structure ZoneCountInv (pre : List (List Char)) (st : ZoneinfoState) : Prop where
  nodeSet_of_ne_top : st.mode ≠ .top → st.nodeSet = true
  zoneIdx_zero : ∀ f, st.mode = .node f → st.zoneIdx = 0
  zoneIdx_lt : st.nodeSet = true → st.zoneIdx < nodeLineCount (st.zi.nodes st.nodeIdx).id pre
  zoneCount_le : ∀ k < st.nodeIdx, (st.zi.nodes k).zoneCount ≤ nodeLineCount (st.zi.nodes k).id pre

/-- The zones from `MAX_NR_ZONES` on are as `memset` left them. -/
def ZonesUntouched (st : ZoneinfoState) : Prop :=
  ∀ n z, maxNrZones ≤ z → (st.zi.nodes n).zones z = default

theorem ZoneCountInv.mono {pre : List (List Char)} {st : ZoneinfoState} (hi : ZoneCountInv pre st)
    (line : List Char) : ZoneCountInv (pre ++ [line]) st where
  nodeSet_of_ne_top := hi.nodeSet_of_ne_top
  zoneIdx_zero := hi.zoneIdx_zero
  zoneIdx_lt hset := Nat.lt_of_lt_of_le (hi.zoneIdx_lt hset) (nodeLineCount_le_append_singleton _ pre line)
  zoneCount_le k hk := Nat.le_trans (hi.zoneCount_le k hk) (nodeLineCount_le_append_singleton _ pre line)

theorem ZoneCountInv.setCurrentNode {pre : List (List Char)} {st : ZoneinfoState} {line : List Char}
    (hi : ZoneCountInv pre st) (hset : st.nodeSet = true) (node : ZoneinfoNode)
    (hlt : st.zoneIdx < nodeLineCount node.id (pre ++ [line])) (zoneName : List Char)
    (mode : ZoneinfoMode) (hmode : ∀ f, mode = .node f → st.zoneIdx = 0) :
    ZoneCountInv (pre ++ [line])
      { st with zi := st.zi.setNode st.nodeIdx node, zoneName := zoneName, mode := mode } where
  nodeSet_of_ne_top _ := hset
  zoneIdx_zero := hmode
  zoneIdx_lt _ := by
    rw [setNode_nodes, if_pos rfl]
    exact hlt
  zoneCount_le k hk := by
    rw [setNode_nodes, if_neg (Nat.ne_of_lt hk)]
    exact ((hi.mono line).zoneCount_le k hk)

theorem ZonesUntouched.setCurrentNode {st : ZoneinfoState} (hu : ZonesUntouched st)
    (node : ZoneinfoNode) (hz : ∀ z, maxNrZones ≤ z → node.zones z = default) (zoneName : List Char)
    (mode : ZoneinfoMode) :
    ZonesUntouched { st with zi := st.zi.setNode st.nodeIdx node, zoneName := zoneName, mode := mode } := by
  intro n z hz'
  rw [setNode_nodes]
  split
  · exact hz z hz'
  · exact hu n z hz'

theorem zoneCountInv_newNode {pre : List (List Char)} {st : ZoneinfoState} {line : List Char}
    (hi : ZoneCountInv pre st) (hu : ZonesUntouched st) {nodeId : Int32}
    (hid : (sscanfNodeZone line).1 = some nodeId) (zoneName : List Char) :
    let zi := if st.nodeSet then
        st.zi.setNode st.nodeIdx { st.zi.nodes st.nodeIdx with zoneCount := st.zoneIdx + 1 }
      else st.zi
    let nodeIdx := if st.nodeSet then st.nodeIdx + 1 else st.nodeIdx
    let st' : ZoneinfoState :=
      { zi := zi.setNode nodeIdx { zi.nodes nodeIdx with id := nodeId }, nodeSet := true,
        nodeIdx := nodeIdx, zoneIdx := 0, zoneName := zoneName, mode := .node ziNodeFieldCount }
    ZoneCountInv (pre ++ [line]) st' ∧ ZonesUntouched st' := by
  intro zi nodeIdx st'
  have hmono := fun id => nodeLineCount_le_append_singleton id pre line
  -- the node left behind keeps its zones, and gets a zone count the lines bound
  have hzones : ∀ k, (zi.nodes k).zones = (st.zi.nodes k).zones := by
    intro k
    simp only [zi]
    split
    · rw [setNode_nodes]
      split
      · rename_i hk
        subst hk
        rfl
      · rfl
    · rfl
  have hcount : ∀ k < nodeIdx, (zi.nodes k).zoneCount ≤ nodeLineCount (zi.nodes k).id (pre ++ [line]) := by
    intro k hk
    cases hset : st.nodeSet
    · simp only [zi, nodeIdx, hset, Bool.false_eq_true, if_false] at hk ⊢
      exact Nat.le_trans (hi.zoneCount_le k hk) (hmono _)
    · simp only [zi, nodeIdx, hset, if_true, setNode_nodes] at hk ⊢
      split
      · rename_i hke
        subst hke
        exact Nat.succ_le_of_lt (Nat.lt_of_lt_of_le (hi.zoneIdx_lt hset) (hmono _))
      · exact Nat.le_trans (hi.zoneCount_le k (by omega)) (hmono _)
  refine ⟨⟨fun _ => rfl, fun _ _ => rfl, fun _ => ?_, fun k hk => ?_⟩, fun n z hz => ?_⟩
  · -- the line names the new node
    simp only [st', setNode_nodes, if_true]
    exact nodeLineCount_pos_of_scan pre hid
  · simp only [st', setNode_nodes, if_neg (Nat.ne_of_lt hk)]
    exact hcount k hk
  · simp only [st', setNode_nodes]
    split
    · exact (hzones nodeIdx).symm ▸ hu nodeIdx z hz
    · exact (hzones n).symm ▸ hu n z hz

theorem zoneinfoStep_zoneCount {pre : List (List Char)} {st st' : ZoneinfoState} {line : List Char}
    (hi : ZoneCountInv pre st) (hu : ZonesUntouched st) (hb : ∀ id, nodeLineCount id pre ≤ maxNrZones)
    (h : zoneinfoStep st line = some st') : ZoneCountInv (pre ++ [line]) st' ∧ ZonesUntouched st' := by
  have hmono := fun id => nodeLineCount_le_append_singleton id pre line
  unfold zoneinfoStep at h
  split at h
  · -- the loop of `zoneinfo_parse`
    split at h
    · rename_i nodeId zoneName hscan
      have hid : (sscanfNodeZone line).1 = some nodeId := by rw [hscan]
      split at h
      · dsimp only at h
        by_cases hguard : st.nodeSet = true ∧
            (if st.nodeSet = true then st.nodeIdx + 1 else st.nodeIdx) = maxNrNodes
        · rw [if_pos hguard] at h
          cases h
        · rw [if_neg hguard] at h
          cases h
          exact zoneCountInv_newNode hi hu hid zoneName
      · -- a header of the node being parsed
        rename_i hsame
        simp only [Bool.or_eq_true, Bool.not_eq_true', bne_iff_ne, ne_eq, not_or, Bool.not_eq_false,
          not_not] at hsame
        cases h
        refine ⟨⟨fun _ => hsame.1, (fun _ hf => nomatch hf), fun _ => ?_, (hi.mono line).zoneCount_le⟩, hu⟩
        rw [nodeLineCount_append_singleton, if_pos (hid.trans (congrArg some hsame.2.symm))]
        exact Nat.succ_lt_succ (hi.zoneIdx_lt hsame.1)
    · cases h
      exact ⟨hi.mono line, hu⟩
  · -- the loop of `zoneinfo_parse_node`: the zone index is 0, and the line
    -- may rename the node
    rename_i fieldsToMatch hmode
    have hset := hi.nodeSet_of_ne_top (by rw [hmode]; exact fun h => nomatch h)
    have hzero := hi.zoneIdx_zero fieldsToMatch hmode
    have hlt : st.zoneIdx <
        nodeLineCount ((sscanfNodeZone line).1.getD (st.zi.nodes st.nodeIdx).id) (pre ++ [line]) := by
      cases hs : (sscanfNodeZone line).1 with
      | none => exact Nat.lt_of_lt_of_le (hi.zoneIdx_lt hset) (hmono _)
      | some id =>
        rw [hzero]
        exact nodeLineCount_pos_of_scan pre hs
    obtain ⟨hzones, -, hidv⟩ :=
      zoneinfoParseNodeLine_val line (st.zi.nodes st.nodeIdx) st.zoneName fieldsToMatch
    split at h <;> rename_i heq <;> rw [heq] at hzones hidv <;> simp only [LineStep.val] at hzones hidv
    · cases h
      exact ⟨hi.setCurrentNode hset _ (hidv ▸ hlt) _ _ fun _ _ => hzero,
        hu.setCurrentNode _ (fun z hz => hzones ▸ hu _ z hz) _ _⟩
    · cases h
      exact ⟨hi.setCurrentNode hset _ (hidv ▸ hlt) _ _ (fun _ hf => nomatch hf),
        hu.setCurrentNode _ (fun z hz => hzones ▸ hu _ z hz) _ _⟩
    · cases h
  · -- the loop of `zoneinfo_parse_zone` writes the zone at the zone index,
    -- which is below `MAX_NR_ZONES`
    rename_i hmode
    have hset := hi.nodeSet_of_ne_top (by rw [hmode]; exact fun h => nomatch h)
    have hzlt : st.zoneIdx < maxNrZones := Nat.lt_of_lt_of_le (hi.zoneIdx_lt hset) (hb _)
    have hlt := (hi.mono line).zoneIdx_lt hset
    have hzone : ∀ zone : ZoneinfoZone, ∀ z, maxNrZones ≤ z →
        ((st.zi.nodes st.nodeIdx).setZone st.zoneIdx zone).zones z = default := by
      intro zone z hz
      rw [setZone_zones, if_neg (by omega)]
      exact hu _ z hz
    dsimp only at h
    split at h
    · rename_i zone _
      cases h
      exact ⟨hi.setCurrentNode hset ((st.zi.nodes st.nodeIdx).setZone st.zoneIdx zone) hlt _ _
          (fun _ hf => absurd (hmode.symm.trans hf) (fun h => nomatch h)),
        hu.setCurrentNode _ (hzone _) _ _⟩
    · rename_i zone _
      cases h
      exact ⟨hi.setCurrentNode hset
          ((st.zi.nodes st.nodeIdx).setZone st.zoneIdx { zone with name := strlcpy st.zoneName lineMax }) hlt
          _ _ (fun _ hf => nomatch hf),
        hu.setCurrentNode _ (hzone _) _ _⟩
    · cases h

theorem zoneinfoParser_run_zoneCount :
    ∀ (pre : List (List Char)), (∀ id, nodeLineCount id pre ≤ maxNrZones) → ∀ {st : ZoneinfoState},
      zoneinfoParser.run pre = some st → ZoneCountInv pre st ∧ ZonesUntouched st := by
  intro pre
  induction pre using List.reverseRecOn with
  | nil =>
    intro _ st h
    cases h
    exact ⟨⟨fun h => absurd rfl h, (fun _ h => nomatch h), (fun h => nomatch h),
      fun _ hk => absurd hk (Nat.not_lt_zero _)⟩, fun _ _ _ => rfl⟩
  | append_singleton pre line ih =>
    intro hb st h
    rw [Transition.System.run, Transition.System.runFrom_append] at h
    obtain ⟨st₀, h₀, h₁⟩ := Option.bind_eq_some_iff.mp h
    have hb₀ : ∀ id, nodeLineCount id pre ≤ maxNrZones :=
      fun id => Nat.le_trans (nodeLineCount_le_append_singleton id pre line) (hb id)
    obtain ⟨hi, hu⟩ := ih hb₀ h₀
    rw [Transition.System.runFrom_cons] at h₁
    obtain ⟨st₁, hstep, hst⟩ := Option.bind_eq_some_iff.mp h₁
    rw [Transition.System.runFrom_nil, Option.some_inj] at hst
    subst hst
    exact zoneinfoStep_zoneCount hi hu hb₀ hstep

def sixZonesZoneinfo : List Char :=
  ("Node 0, zone Z0\n nr_inactive_file 1\n nr_active_file 1\n present 0\n" ++
    "Node 0, zone Z1\n present 0\nNode 0, zone Z2\n present 0\nNode 0, zone Z3\n present 0\n" ++
    "Node 0, zone Z4\n present 0\nNode 0, zone Z5\n present 0\n").toList

def sevenZonesZoneinfo : List Char :=
  ("Node 0, zone Z0\n nr_inactive_file 1\n nr_active_file 1\n present 0\n" ++
    "Node 0, zone Z1\n present 0\nNode 0, zone Z2\n present 0\nNode 0, zone Z3\n present 0\n" ++
    "Node 0, zone Z4\n present 0\nNode 0, zone Z5\n present 0\nNode 0, zone Z6\n present 0\n").toList

end Lmkd
