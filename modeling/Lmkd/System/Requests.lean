import Lmkd.Commands.View
import Lmkd.System.ProcsPrio

/-!
# A client request as an edit of the registry's map

A client builds a request with an `lmkd_pack_set_*` function and sends it
with its credentials; `ctrl_data_read` takes the message, the length checks
of `ctrl_command_handler` pick the command, the command's `lmkd_pack_get_*`
function decodes the payload, and the command function edits the registry.
Seen through `Registry.view`, the whole chain is one operation on the map
from pids to records, fixed by the request and the sender
(`Request.regEffect`): a registration is the keyed update of `applyEntry`, a
batch the fold of those updates in packet order, a removal or a purge the
deletion of the entries the sender may claim, and every other request
leaves the map alone (`ctrlCommandHandler_request_view`).

The io_uring path of `LMK_PROCS_PRIO` agrees with that fold only when its
completions all succeed and the pids of the batch are distinct
(`Request.BatchReady`); otherwise it does not, as `Lmkd.System.ProcsPrio`
shows.
-/

namespace Lmkd

open Registry Reorder WordArray

/-- What a request from `credPid` does to the map of registered records. -/
def Request.regEffect (cfg : Config) (env : ProcEnv) (credPid : Int32) :
    Request → (Int32 → Option Proc) → Int32 → Option Proc
  | .procprio params, m => keyedUpdate LmkProcprio.pid (applyEntry cfg env credPid) m params
  | .procremove params, m =>
    if cfg.useInkernelInterface then m else procremoveEntries credPid params.pid m
  | .procpurge, m => if cfg.useInkernelInterface then m else procpurgeEntries credPid m
  | .procsPrio procs, m => procs.foldl (keyedUpdate LmkProcprio.pid (applyEntry cfg env credPid)) m
  | _, m => m

/-- A batch sent on the io_uring path has distinct pids, a status file that
reads the same for both paths, and io_uring calls that succeed. -/
def Request.BatchReady (cfg : Config) (env : CmdEnv) : Request → Prop
  | .procsPrio procs => cfg.isIoUringSupported = true →
      (procs.map LmkProcprio.pid).Nodup ∧ BatchOk env.proc procs ∧ env.uring.queueInitOk = true ∧
        env.uring.readSubmitOk = true ∧ env.uring.writeSubmitOk = true
  | _ => True

/-! ## The read of a packed request -/

theorem one_le_length_pack (req : Request) : 1 ≤ req.pack.length := by
  cases req with
  | target targets => rw [Request.pack, length_lmkdPackSetTarget]; omega
  | procsPrio procs => rw [Request.pack, length_lmkdPackSetProcsPrio]; omega
  | _ => simp [Request.pack, lmkdPackSetProcprio, lmkdPackSetProcremove, lmkdPackSetProcpurge,
      lmkdPackSetGetkillcnt, lmkdPackSetSubscribe, lmkdPackSetUpdateProps, lmkdPackStartMonitoring,
      lmkdPackSetBootCompletedNotif]

theorem ctrlCommandHandler_request (cfg : Config) (env : CmdEnv) (i : Fin maxDataConn) (g : Globals)
    (req : Request) (hreq : req.WellSized) (stale : Nat → UInt32) (credPid : Int32) :
    ctrlCommandHandler cfg env i (.received (req.pack.length * 4) (ofList req.pack stale) (some credPid)) g =
      ctrlCommand cfg env { g with dataSock := Function.update g.dataSock i { g.dataSock i with pid := credPid } }
        i (req.pack.length * 4) (ofList req.pack stale) credPid := by
  have hpos := one_le_length_pack req
  have hle := length_pack_le req hreq
  have hne : req.pack.length * 4 ≠ 0 := by omega
  simp only [ctrlCommandHandler, ctrlDataRead, hne, if_false, Nat.min_eq_left hle]

theorem view_cmdProcsPrio {g : Globals} (hi : g.reg.Inv) (cfg : Config) (env : CmdEnv)
    (procs : List LmkProcprio) (credPid : Int32) (hready : (Request.procsPrio procs).BatchReady cfg env) :
    (cmdProcsPrio cfg env.proc env.uring g (some procs) credPid).reg.view =
      procs.foldl (keyedUpdate LmkProcprio.pid (applyEntry cfg env.proc credPid)) g.reg.view := by
  rw [cmdProcsPrio]
  split
  · rename_i huring
    obtain ⟨hpids, hok, hinit, hread, hwrite⟩ := hready huring
    have hentry : ∀ p ∈ procs.filter (applyPasses env.proc),
        recordEntry cfg env.proc credPid p = applyEntry cfg env.proc credPid p := by
      intro p hp
      funext old
      rw [applyEntry, if_pos (List.of_mem_filter hp)]
    have hskip : ∀ p, applyPasses env.proc p = false → ∀ x, applyEntry cfg env.proc credPid p x = x := by
      intro p hp x
      rw [applyEntry, hp]
      rfl
    rw [view_handleIoUringProcsPrio hi hpids hok hinit hread hwrite,
      foldl_keyedUpdate_congr LmkProcprio.pid _ _ hentry,
      ← foldl_keyedUpdate_filter LmkProcprio.pid _ (applyPasses env.proc) hskip]
  · exact view_procsPrioSequential hi cfg env.proc credPid procs

/-- Every request a client can build, sent with the credentials of
`credPid` on any data connection, edits a consistent registry's map of
records exactly as `regEffect` says: the packet passes the length checks,
decodes to the request's payload, and the command function edits the
entries of the pids it names, or, for a purge, of the records the sender
may claim. -/
theorem ctrlCommandHandler_request_view {g : Globals} (hi : g.reg.Inv) (cfg : Config) (env : CmdEnv)
    (i : Fin maxDataConn) (req : Request) (hreq : req.WellSized) (stale : Nat → UInt32)
    (credPid : Int32) (hready : req.BatchReady cfg env) :
    (ctrlCommandHandler cfg env i
        (.received (req.pack.length * 4) (ofList req.pack stale) (some credPid)) g).reg.view =
      req.regEffect cfg env.proc credPid g.reg.view := by
  have hd : ctrlCommandDispatch ((req.pack.length * 4 : Nat) : Int) (ofList req.pack stale) = req.dispatch := by
    push_cast
    exact dispatch_pack req hreq stale
  have hp := readPayload_pack req hreq stale
  rw [ctrlCommandHandler_request cfg env i g req hreq stale credPid]
  unfold ctrlCommand
  rw [hd]
  -- the message only changes the connection's peer pid before the command runs
  generalize hg' : ({ g with dataSock := Function.update g.dataSock i { g.dataSock i with pid := credPid } } :
    Globals) = g' at *
  have hreg : g'.reg = g.reg := by rw [← hg']
  have hi' : g'.reg.Inv := hreg ▸ hi
  cases req with
  | target targets => simp [Request.dispatch, Request.regEffect, hreg]
  | procprio params =>
    have hget : lmkdPackGetProcprio (ofList (Request.procprio params).pack stale) 4 = params := by
      simpa [Request.dispatch, readPayload] using hp
    simp only [Request.dispatch]
    rw [hget, view_applyProcPrio hi', hreg]
    rfl
  | procremove params =>
    have hget : lmkdPackGetProcremove (ofList (Request.procremove params).pack stale) = params := by
      simpa [Request.dispatch, readPayload] using hp
    simp only [Request.dispatch]
    rw [hget, view_cmdProcremove hi', hreg]
    rfl
  | procpurge =>
    simp only [Request.dispatch]
    rw [view_cmdProcpurge hi', hreg]
    rfl
  | getkillcnt params => simp [Request.dispatch, Request.regEffect, hreg]
  | subscribe evtType => simp [Request.dispatch, Request.regEffect, cmdSubscribe, hreg]
  | updateProps => simp [Request.dispatch, Request.regEffect, hreg]
  | startMonitoring => simp [Request.dispatch, Request.regEffect, hreg]
  | bootCompleted => simp [Request.dispatch, Request.regEffect, hreg]
  | procsPrio procs =>
    have hget : lmkdPackGetProcsPrio (ofList (Request.procsPrio procs).pack stale) (procs.length * 4) =
        some procs := by
      simpa [Request.dispatch, readPayload] using hp
    simp only [Request.dispatch]
    rw [hget, view_cmdProcsPrio hi' cfg env procs credPid hready, hreg]
    rfl

def appsCmdEnv : CmdEnv :=
  ⟨appsProcEnv 4000, uringOk [] [], none, true, true, exampleInitEnv.monitors, true, ⟨none, false⟩⟩

theorem ctrlCommandHandler_request_view_registerApp :
    Globals.boot.reg.Inv ∧ (Request.procprio ⟨100, 10100, 900, procTypeApp⟩).WellSized ∧
      (Request.procprio ⟨100, 10100, 900, procTypeApp⟩).BatchReady exampleConfig appsCmdEnv ∧
      (ctrlCommandHandler exampleConfig appsCmdEnv ⟨0, zero_lt_maxDataConn⟩
          (.received ((Request.procprio ⟨100, 10100, 900, procTypeApp⟩).pack.length * 4)
            (ofList (Request.procprio ⟨100, 10100, 900, procTypeApp⟩).pack fun _ => 0) (some 1))
          Globals.boot).reg.view =
        (Request.procprio ⟨100, 10100, 900, procTypeApp⟩).regEffect exampleConfig appsCmdEnv.proc 1
          Globals.boot.reg.view :=
  have hi : Globals.boot.reg.Inv := ⟨_, Registry.wellFormed_initial⟩
  ⟨hi, trivial, trivial, ctrlCommandHandler_request_view hi exampleConfig appsCmdEnv ⟨0, zero_lt_maxDataConn⟩
    (.procprio ⟨100, 10100, 900, procTypeApp⟩) trivial (fun _ => 0) 1 trivial⟩

end Lmkd
