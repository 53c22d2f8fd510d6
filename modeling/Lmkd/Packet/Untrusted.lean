import Lmkd.Control
import Lmkd.Kill.Counts

/-!
# Untrusted control packets

A client chooses every word of the packets it sends.  Two commands use a
word as an amount or an index without checking it: `cmd_subscribe` shifts
`1` by `evt_type`, and `get_killcnt` indexes `killcnt_idx` from
`min_oomadj + 1000` with no lower bound.  Both packets pass the length
checks of `ctrl_command_handler` (`ctrlCommand_untrusted_outOfBounds`).
-/

namespace Lmkd

def subscribe32Packet : Nat → UInt32 := WordArray.ofList (Request.pack (.subscribe 32)) fun _ => 0

def getkillcntBelowPacket : Nat → UInt32 :=
  WordArray.ofList (Request.pack (.getkillcnt ⟨-1001, -1001⟩)) fun _ => 0

/-- `[LMK_SUBSCRIBE, 32]` reaches `cmd_subscribe`, which shifts `1` by 32, an
amount outside `[0, 31]`; with the amount taken modulo 32, as the hardware
does, the connection is subscribed to event 0, `LMK_ASYNC_EVENT_KILL`.
`[LMK_GETKILLCNT, -1001, -1001]` reaches `get_killcnt`, whose loop reads
`killcnt_idx[-1]`. -/
theorem ctrlCommand_untrusted_outOfBounds :
    ctrlCommandDispatch 8 subscribe32Packet = .subscribe ∧
      lmkdPackGetSubscribe subscribe32Packet = 32 ∧
      ((cmdSubscribe Globals.boot ⟨0, by decide⟩ subscribe32Packet).dataSock
        ⟨0, by decide⟩).asyncEventMask = 1 ∧
      ctrlCommandDispatch 12 getkillcntBelowPacket = .getkillcnt ∧
      getKillcntSlots (lmkdPackGetGetkillcnt getkillcntBelowPacket).minOomadj
        (lmkdPackGetGetkillcnt getkillcntBelowPacket).maxOomadj = [-1] := by
  decide

end Lmkd
