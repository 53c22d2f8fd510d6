import Lmkd.Packet.Codec

/-!
# The length checks of `ctrl_command_handler`

`ctrlCommandDispatch` is the part of `ctrl_command_handler` between the read
and the call of a command function: the read-length tests, the command word
and the per-command test of `nargs = len / 4 - 1`.  `receivedRequest` is what
the dispatched command function then reads from the packet with its
`lmkd_pack_get_*` function.

`request_roundTrip` is the round trip of every client request: the packet an
`lmkd_pack_set_*` function builds fits in `CTRL_PACKET_MAX_SIZE`, passes the
checks, and is decoded to the payload it encodes.
-/

namespace Lmkd

open WordArray

/-- The branch `ctrl_command_handler` takes for a read. -/
inductive Dispatch where
  | noData
  | shortRead
  | target (targets : Nat)
  | procprio (nargs : Nat)
  | procremove
  | procpurge
  | getkillcnt
  | subscribe
  | prockill
  | updateProps
  | startMonitoring
  | bootCompleted
  | procsPrio (nargs : Nat)
  | wronglen
  | unknown
deriving DecidableEq, Repr

/-- `ctrl_command_handler` after `ctrl_data_read` returned `len` into `packet`. -/
def ctrlCommandDispatch (len : Int) (packet : Nat → UInt32) : Dispatch :=
  if len ≤ 0 then .noData
  else if len < 4 then .shortRead
  else
    let nargs := len.toNat / 4 - 1
    match LmkCmd.ofInt32? (lmkdPackGetCmd packet) with
    | some .target =>
      let targets := nargs / 2
      if nargs % 2 = 1 ∨ targets > maxTargets then .wronglen else .target targets
    | some .procprio => if nargs < 3 ∨ nargs > 4 then .wronglen else .procprio nargs
    | some .procremove => if nargs ≠ 1 then .wronglen else .procremove
    | some .procpurge => if nargs ≠ 0 then .wronglen else .procpurge
    | some .getkillcnt => if nargs ≠ 2 then .wronglen else .getkillcnt
    | some .subscribe => if nargs ≠ 1 then .wronglen else .subscribe
    | some .prockill => .prockill
    | some .updateProps => if nargs ≠ 0 then .wronglen else .updateProps
    | some .startMonitoring => if nargs ≠ 0 then .wronglen else .startMonitoring
    | some .bootCompleted => if nargs ≠ 0 then .wronglen else .bootCompleted
    | some .procsPrio => .procsPrio nargs
    | some .statKillOccurred => .unknown
    | none => .unknown

inductive Request where
  | target (targets : List LmkTarget)
  | procprio (params : LmkProcprio)
  | procremove (params : LmkProcremove)
  | procpurge
  | getkillcnt (params : LmkGetkillcnt)
  | subscribe (evtType : Int32)
  | updateProps
  | startMonitoring
  | bootCompleted
  | procsPrio (procs : List LmkProcprio)
deriving DecidableEq, Repr

def Request.pack : Request → List UInt32
  | .target targets => lmkdPackSetTarget targets
  | .procprio params => lmkdPackSetProcprio params
  | .procremove params => lmkdPackSetProcremove params
  | .procpurge => lmkdPackSetProcpurge
  | .getkillcnt params => lmkdPackSetGetkillcnt params
  | .subscribe evtType => lmkdPackSetSubscribe evtType
  | .updateProps => lmkdPackSetUpdateProps
  | .startMonitoring => lmkdPackStartMonitoring
  | .bootCompleted => lmkdPackSetBootCompletedNotif
  | .procsPrio procs => lmkdPackSetProcsPrio procs

/-- The request sizes the protocol allows: `1..MAX_TARGETS` targets and
`1..PROCS_PRIO_MAX_RECORD_COUNT` records. -/
def Request.WellSized : Request → Prop
  | .target targets => 1 ≤ targets.length ∧ targets.length ≤ maxTargets
  | .procsPrio procs => 1 ≤ procs.length ∧ procs.length ≤ procsPrioMaxRecordCount
  | _ => True

def Request.dispatch : Request → Dispatch
  | .target targets => .target targets.length
  | .procprio _ => .procprio 4
  | .procremove _ => .procremove
  | .procpurge => .procpurge
  | .getkillcnt _ => .getkillcnt
  | .subscribe _ => .subscribe
  | .updateProps => .updateProps
  | .startMonitoring => .startMonitoring
  | .bootCompleted => .bootCompleted
  | .procsPrio procs => .procsPrio (procs.length * 4)

def readPayload (packet : Nat → UInt32) : Dispatch → Option Request
  | .target targets => some (.target ((List.range targets).map (lmkdPackGetTarget packet)))
  | .procprio nargs => some (.procprio (lmkdPackGetProcprio packet nargs))
  | .procremove => some (.procremove (lmkdPackGetProcremove packet))
  | .procpurge => some .procpurge
  | .getkillcnt => some (.getkillcnt (lmkdPackGetGetkillcnt packet))
  | .subscribe => some (.subscribe (lmkdPackGetSubscribe packet))
  | .updateProps => some .updateProps
  | .startMonitoring => some .startMonitoring
  | .bootCompleted => some .bootCompleted
  | .procsPrio nargs => (lmkdPackGetProcsPrio packet nargs).map .procsPrio
  | _ => none

/-- The request a read of `len` bytes into `packet` delivers. -/
def receivedRequest (len : Int) (packet : Nat → UInt32) : Option Request :=
  readPayload packet (ctrlCommandDispatch len packet)

/-! ## Packet sizes -/

theorem length_lmkdPackSetTarget (targets : List LmkTarget) :
    (lmkdPackSetTarget targets).length = 1 + targets.length * 2 := by
  rw [lmkdPackSetTarget, List.length_cons, length_layout length_targetWords, Nat.add_comm]

theorem length_lmkdPackSetProcsPrio (procs : List LmkProcprio) :
    (lmkdPackSetProcsPrio procs).length = 1 + procs.length * 4 := by
  rw [lmkdPackSetProcsPrio, List.length_cons, length_layout length_procprioWords, Nat.add_comm]

theorem lmkdPackGetCmd_pack (req : Request) (stale : Nat → UInt32) :
    lmkdPackGetCmd (ofList req.pack stale) = match req with
      | .target _ => LmkCmd.target.toInt32
      | .procprio _ => LmkCmd.procprio.toInt32
      | .procremove _ => LmkCmd.procremove.toInt32
      | .procpurge => LmkCmd.procpurge.toInt32
      | .getkillcnt _ => LmkCmd.getkillcnt.toInt32
      | .subscribe _ => LmkCmd.subscribe.toInt32
      | .updateProps => LmkCmd.updateProps.toInt32
      | .startMonitoring => LmkCmd.startMonitoring.toInt32
      | .bootCompleted => LmkCmd.bootCompleted.toInt32
      | .procsPrio _ => LmkCmd.procsPrio.toInt32 := by
  cases req <;> simp [Request.pack, lmkdPackGetCmd, ofList, lmkdPackSetTarget, lmkdPackSetProcprio,
    lmkdPackSetProcremove, lmkdPackSetProcpurge, lmkdPackSetGetkillcnt, lmkdPackSetSubscribe,
    lmkdPackSetUpdateProps, lmkdPackStartMonitoring, lmkdPackSetBootCompletedNotif,
    lmkdPackSetProcsPrio]

/-! ## The round trip -/

theorem dispatch_pack (req : Request) (hreq : req.WellSized) (stale : Nat → UInt32) :
    ctrlCommandDispatch (req.pack.length * 4) (ofList req.pack stale) = req.dispatch := by
  unfold ctrlCommandDispatch
  rw [lmkdPackGetCmd_pack]
  cases req with
  | target targets =>
    obtain ⟨h₁, h₆⟩ := hreq
    simp only [Request.pack, length_lmkdPackSetTarget, LmkCmd.ofInt32?_toInt32, Request.dispatch]
    have hlen : (((1 + targets.length * 2 : Nat) : Int) * 4).toNat / 4 - 1 =
        targets.length * 2 := by
      omega
    rw [hlen, if_neg (by omega), if_neg (by omega), if_neg (by unfold maxTargets at h₆ ⊢; omega)]
    congr 1
    omega
  | procsPrio procs =>
    simp only [Request.pack, length_lmkdPackSetProcsPrio, LmkCmd.ofInt32?_toInt32,
      Request.dispatch]
    have hlen : (((1 + procs.length * 4 : Nat) : Int) * 4).toNat / 4 - 1 =
        procs.length * 4 := by
      omega
    rw [hlen, if_neg (by omega), if_neg (by omega)]
  | _ => simp [Request.pack, Request.dispatch, lmkdPackSetProcprio, lmkdPackSetProcremove,
      lmkdPackSetProcpurge, lmkdPackSetGetkillcnt, lmkdPackSetSubscribe, lmkdPackSetUpdateProps,
      lmkdPackStartMonitoring, lmkdPackSetBootCompletedNotif]

theorem readPayload_pack (req : Request) (hreq : req.WellSized) (stale : Nat → UInt32) :
    readPayload (ofList req.pack stale) req.dispatch = some req := by
  cases req with
  | target targets =>
    simp only [Request.dispatch, readPayload, Request.pack, decodeTargets_layout]
  | procsPrio procs =>
    have hc : ¬ (procs.length * 4 < lmkProcprioFieldCount ∨
        procs.length * 4 % lmkProcprioFieldCount ≠ 0) := by
      unfold lmkProcprioFieldCount
      have h₁ := hreq.1
      omega
    have hn : procs.length * 4 / lmkProcprioFieldCount = procs.length := by
      unfold lmkProcprioFieldCount
      omega
    simp only [Request.dispatch, readPayload, Request.pack, lmkdPackGetProcsPrio]
    rw [if_neg hc, hn, decodeProcs_layout]
    rfl
  | _ => simp [Request.dispatch, readPayload, Request.pack, ofList, lmkdPackGetProcprio,
      lmkdPackSetProcprio, lmkdPackGetProcremove, lmkdPackSetProcremove, lmkdPackGetGetkillcnt,
      lmkdPackSetGetkillcnt, lmkdPackGetSubscribe, lmkdPackSetSubscribe]

theorem length_pack_le (req : Request) (hreq : req.WellSized) :
    req.pack.length * 4 ≤ ctrlPacketMaxSize := by
  unfold ctrlPacketMaxSize maxTargets
  cases req with
  | target targets =>
    have h := hreq.2
    unfold maxTargets at h
    rw [Request.pack, length_lmkdPackSetTarget]
    omega
  | procsPrio procs =>
    have h := hreq.2
    unfold procsPrioMaxRecordCount ctrlPacketMaxSize maxTargets lmkProcprioFieldCount at h
    rw [Request.pack, length_lmkdPackSetProcsPrio]
    omega
  | _ => simp [Request.pack, lmkdPackSetProcprio, lmkdPackSetProcremove, lmkdPackSetProcpurge,
      lmkdPackSetGetkillcnt, lmkdPackSetSubscribe, lmkdPackSetUpdateProps,
      lmkdPackStartMonitoring, lmkdPackSetBootCompletedNotif]

/-- Every request a client can build fits in a control packet, passes the
length checks of `ctrl_command_handler` for its command, and is decoded by
the command's `lmkd_pack_get_*` function to the payload it encodes, whatever
the receiving buffer held before. -/
theorem request_roundTrip (req : Request) (hreq : req.WellSized) (stale : Nat → UInt32) :
    req.pack.length * 4 ≤ ctrlPacketMaxSize ∧
      ctrlCommandDispatch (req.pack.length * 4) (ofList req.pack stale) = req.dispatch ∧
      receivedRequest (req.pack.length * 4) (ofList req.pack stale) = some req := by
  have hd := dispatch_pack req hreq stale
  refine ⟨length_pack_le req hreq, hd, ?_⟩
  rw [receivedRequest, hd, readPayload_pack req hreq stale]

theorem request_roundTrip_procsPrio :
    (Request.procsPrio [⟨1234, 10001, 900, 0⟩, ⟨1240, 10002, 100, 1⟩]).WellSized ∧
      receivedRequest
          ((Request.procsPrio [⟨1234, 10001, 900, 0⟩, ⟨1240, 10002, 100, 1⟩]).pack.length * 4)
          (ofList (Request.procsPrio [⟨1234, 10001, 900, 0⟩, ⟨1240, 10002, 100, 1⟩]).pack
            fun _ => 0) =
        some (.procsPrio [⟨1234, 10001, 900, 0⟩, ⟨1240, 10002, 100, 1⟩]) := by
  have hw : (Request.procsPrio [⟨1234, 10001, 900, 0⟩, ⟨1240, 10002, 100, 1⟩]).WellSized := by
    unfold Request.WellSized procsPrioMaxRecordCount ctrlPacketMaxSize maxTargets
      lmkProcprioFieldCount
    decide
  exact ⟨hw, (request_roundTrip _ hw _).2.2⟩

end Lmkd
