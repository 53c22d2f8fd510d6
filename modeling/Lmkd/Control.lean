import Lmkd.ProcsPrio
import Lmkd.Kill
import Lmkd.Monitors
import Lmkd.Packet.Dispatch

/-!
# The control socket

The data connections (`get_free_dsock`, `ctrl_connect_handler`,
`ctrl_data_read`, `ctrl_data_write`, `ctrl_data_close`) and
`ctrl_command_handler` with the command functions it calls that are not
modelled elsewhere: `cmd_target`, `cmd_getkillcnt`, `cmd_subscribe` and the
branches for `LMK_UPDATE_PROPS`, `LMK_START_MONITORING` and
`LMK_BOOT_COMPLETED`.

A read delivers `len` bytes into the packet array; the words past them are
whatever the stack held, so the packet is a function on all indices.
`recvmsg` cuts a message to `CTRL_PACKET_MAX_SIZE` bytes.  `exit(1)` sets
`exited`.  Each handler keeps the registry invariant: a connection's close
only clears registrants.
-/

namespace Lmkd

open Registry

/-- What `recvmsg` on a data connection delivers: a failure, or `len` bytes
into `packet` with the sender's pid when the message carried credentials.
`len = 0` is the end of the connection. -/
inductive Recv where
  | failed
  | received (len : Nat) (packet : Nat → UInt32) (credPid : Option Int32)

structure CmdEnv where
  proc : ProcEnv
  uring : UringEnv
  /-- `clock_gettime` in `cmd_target` -/
  now : Option Timespec
  /-- whether `ctrl_data_write` writes a reply whole -/
  writeOk : Bool
  updatePropsOk : Bool
  monitors : MonitorEnv
  /-- `sys.boot_completed` -/
  bootCompleted : Bool
  memevent : MemeventEnv

/-! ## Connections -/

def getFreeDsock (g : Globals) : Option (Fin maxDataConn) :=
  (List.finRange maxDataConn).find? fun i => (g.dataSock i).sock < 0

/-- `ctrl_data_close(i)`: the records of the connection's last sender lose
their registrant. -/
def ctrlDataClose (g : Globals) (i : Fin maxDataConn) : Globals :=
  let s := g.dataSock i
  { g.epollUnregister s.sock with
    dataSock := Function.update g.dataSock i { s with sock := -1 }
    reg := g.reg.removeClaims s.pid }

/-- The reset of `ctrl_connect_handler` when every slot is in use. -/
def closeAllDataConn (g : Globals) : Globals := (List.finRange maxDataConn).foldl ctrlDataClose g

/-- `ctrl_connect_handler`, with the descriptor `accept` returns and the
result of its `epoll_ctl`.  A failed `accept` leaves its negative result in
the slot, which keeps the slot free. -/
def ctrlConnectHandler (sock : Int32) (addOk : Bool) (g : Globals) : Globals :=
  let free := getFreeDsock g
  let g := if free.isSome then g else closeAllDataConn g
  let i := free.getD ⟨0, by decide⟩
  let g := { g with dataSock := Function.update g.dataSock i { g.dataSock i with sock := sock } }
  if sock < 0 then g
  else
    let g := { g with dataSock := Function.update g.dataSock i { g.dataSock i with asyncEventMask := 0 } }
    if !addOk then ctrlDataClose g i else g.epollRegister sock

/-- `ctrl_data_read`: the length and packet of a message, and its sender,
who becomes the connection's peer pid.  A message without credentials
closes the connection. -/
def ctrlDataRead (g : Globals) (i : Fin maxDataConn) (recv : Recv) :
    Globals × Option (Nat × (Nat → UInt32) × Int32) :=
  match recv with
  | .failed => (g, none)
  | .received len packet credPid? =>
    if len = 0 then (g, none)
    else
      match credPid? with
      | none => (ctrlDataClose g i, none)
      | some credPid =>
        ({ g with dataSock := Function.update g.dataSock i { g.dataSock i with pid := credPid } },
          some (min len ctrlPacketMaxSize, packet, credPid))

/-- `ctrl_data_write` of a reply. -/
def ctrlDataWrite (g : Globals) (i : Fin maxDataConn) (words : List UInt32) (ok : Bool) : Globals :=
  if ok then { g with replies := (i.val, words) :: g.replies } else g

/-! ## Command functions -/

def targetUpdateMinIntervalMs : Int := 1000

def propertyValueMax : Nat := 92

/-- The text `"%d:%d,"` that `cmd_target` prints for a target. -/
def targetText (t : LmkTarget) : List Char :=
  (toString t.minfree.toInt).toList ++ ':' :: (toString t.oomAdjScore.toInt).toList ++ [',']

/-- The loop of `cmd_target` from target `i`, with `pstr` at offset `pos` of
`minfree_str` whose first characters are `buf`: store the target, then print
its text, which `snprintf` cuts to the room left before the terminating
NUL; a text that reaches the end of the buffer ends the loop. -/
def cmdTargetLoop (packet : Nat → UInt32) (ntargets : Nat) :
    Nat → Nat → Globals → Nat → List Char → Globals × Nat × List Char
  | 0, _, g, pos, buf => (g, pos, buf)
  | fuel + 1, i, g, pos, buf =>
    if ntargets ≤ i then (g, pos, buf)
    else
      let target := lmkdPackGetTarget packet i
      let g := { g with
        lowmemMinfree := Function.update g.lowmemMinfree i target.minfree
        lowmemAdj := Function.update g.lowmemAdj i target.oomAdjScore }
      let text := targetText target
      let buf := buf ++ text.take (propertyValueMax - pos - 1)
      let pos := pos + text.length
      if propertyValueMax ≤ pos then (g, propertyValueMax, buf)
      else cmdTargetLoop packet ntargets fuel (i + 1) g pos buf

/-- `cmd_target(ntargets, packet)`; `now` is the result of `clock_gettime`.
The last character printed, the final comma or the NUL of a cut text, is
overwritten by the terminator. -/
def cmdTarget (g : Globals) (now : Option Timespec) (ntargets : Nat) (packet : Nat → UInt32) :
    Globals :=
  if ntargets < 1 ∨ ntargets > maxTargets then g
  else
    match now with
    | none => g
    | some currTm =>
      if getTimeDiffMs g.lastReqTm currTm < targetUpdateMinIntervalMs then g
      else
        let loop := cmdTargetLoop packet ntargets maxTargets 0 { g with lastReqTm := currTm } 0 []
        { loop.1 with
          lowmemTargetsSize := ntargets
          minfreeLevels := loop.2.2.take (loop.2.1 - 1) :: loop.1.minfreeLevels }

def cmdGetkillcnt (cfg : Config) (g : Globals) (packet : Nat → UInt32) : Int32 :=
  if cfg.useInkernelInterface then 0
  else
    let params := lmkdPackGetGetkillcnt packet
    Int32.ofInt (getKillcnt g params.minOomadj params.maxOomadj)

/-- `cmd_subscribe`: the shift is C's `1 << evt_type` on `int`, whose
behaviour is undefined for an amount outside `[0, 32)`; `Int32`'s shift takes
the amount modulo 32. -/
def cmdSubscribe (g : Globals) (i : Fin maxDataConn) (packet : Nat → UInt32) : Globals :=
  let evtType := lmkdPackGetSubscribe packet
  let s := g.dataSock i
  { g with
    dataSock := Function.update g.dataSock i
      { s with asyncEventMask := s.asyncEventMask ||| ((1 : Int32) <<< evtType).toUInt32 } }

/-- The `LMK_UPDATE_PROPS` branch up to its reply: reinitialise the
monitors in use, with the result to report. -/
def updatePropsReinit (cfg : Config) (env : CmdEnv) (g : Globals) : Globals × Int32 :=
  if !env.updatePropsOk then (g, -1)
  else if !cfg.useInkernelInterface ∧ g.monitorsInitialized then
    let m := initMonitors cfg env.monitors (destroyMonitors g)
    (m.1, if m.2 then 0 else -1)
  else (g, 0)

/-- The `LMK_UPDATE_PROPS` branch: reply, and exit when the new settings
cannot be supported. -/
def cmdUpdateProps (cfg : Config) (env : CmdEnv) (g : Globals) (i : Fin maxDataConn) : Globals :=
  let reinit := updatePropsReinit cfg env g
  let g := ctrlDataWrite reinit.1 i (lmkdPackSetUpdatePropsRepl reinit.2) env.writeOk
  if reinit.2 ≠ 0 then { g with exited := true } else g

def cmdStartMonitoring (cfg : Config) (env : CmdEnv) (g : Globals) : Globals :=
  if g.monitorsInitialized then g
  else if !env.bootCompleted then g
  else
    let m := initMonitors cfg env.monitors g
    if !m.2 then { m.1 with exited := true } else m.1

def cmdBootCompleted (env : CmdEnv) (g : Globals) (i : Fin maxDataConn) : Globals :=
  let r : Globals × Int32 :=
    if g.bootCompletedHandled then (g, 1)
    else if !env.bootCompleted then (g, -1)
    else ({ (initMemeventListenerMonitoring env.memevent g).1 with bootCompletedHandled := true }, 0)
  ctrlDataWrite r.1 i (lmkdPackSetBootCompletedNotifRepl r.2) env.writeOk

def ctrlCommand (cfg : Config) (env : CmdEnv) (g : Globals) (i : Fin maxDataConn) (len : Nat)
    (packet : Nat → UInt32) (credPid : Int32) : Globals :=
  match ctrlCommandDispatch len packet with
  | .target targets => cmdTarget g env.now targets packet
  | .procprio nargs => applyProcPrio cfg env.proc g (lmkdPackGetProcprio packet nargs) credPid
  | .procremove => cmdProcremove cfg g (lmkdPackGetProcremove packet) credPid
  | .procpurge => cmdProcpurge cfg g credPid
  | .getkillcnt => ctrlDataWrite g i (lmkdPackSetGetkillcntRepl (cmdGetkillcnt cfg g packet)) env.writeOk
  | .subscribe => cmdSubscribe g i packet
  | .updateProps => cmdUpdateProps cfg env g i
  | .startMonitoring => cmdStartMonitoring cfg env g
  | .bootCompleted => cmdBootCompleted env g i
  | .procsPrio nargs =>
    cmdProcsPrio cfg env.proc env.uring g (lmkdPackGetProcsPrio packet nargs) credPid
  | .prockill | .noData | .shortRead | .wronglen | .unknown => g

def ctrlCommandHandler (cfg : Config) (env : CmdEnv) (i : Fin maxDataConn) (recv : Recv)
    (g : Globals) : Globals :=
  let read := ctrlDataRead g i recv
  match read.2 with
  | none => read.1
  | some (len, packet, credPid) => ctrlCommand cfg env read.1 i len packet credPid

/-! ## The registry through the control socket -/

theorem ctrlDataClose_reg (g : Globals) (i : Fin maxDataConn) :
    (ctrlDataClose g i).reg = g.reg.removeClaims (g.dataSock i).pid := by
  simp only [ctrlDataClose]

theorem ctrlDataClose_inv {g : Globals} (hi : g.reg.Inv) (i : Fin maxDataConn) :
    (ctrlDataClose g i).reg.Inv := by
  rw [ctrlDataClose_reg]
  exact hi.of_sameShape (sameShape_removeClaims _ _)

theorem closeAllDataConn_inv {g : Globals} (hi : g.reg.Inv) : (closeAllDataConn g).reg.Inv := by
  unfold closeAllDataConn
  generalize List.finRange maxDataConn = is
  induction is generalizing g with
  | nil => exact hi
  | cons i is ih =>
    rw [List.foldl_cons]
    exact ih (ctrlDataClose_inv hi i)

theorem ctrlConnectHandler_inv {g : Globals} (hi : g.reg.Inv) (sock : Int32) (addOk : Bool) :
    (ctrlConnectHandler sock addOk g).reg.Inv := by
  have hreset : (if (getFreeDsock g).isSome then g else closeAllDataConn g).reg.Inv := by
    split
    · exact hi
    · exact closeAllDataConn_inv hi
  simp only [ctrlConnectHandler]
  split
  · exact hreset
  · split
    · apply ctrlDataClose_inv
      exact hreset
    · exact hreset

@[simp] theorem ctrlDataWrite_reg (g : Globals) (i : Fin maxDataConn) (words : List UInt32)
    (ok : Bool) : (ctrlDataWrite g i words ok).reg = g.reg := by
  unfold ctrlDataWrite
  split <;> rfl

theorem ctrlDataRead_inv {g : Globals} (hi : g.reg.Inv) (i : Fin maxDataConn) (recv : Recv) :
    (ctrlDataRead g i recv).1.reg.Inv := by
  unfold ctrlDataRead
  split
  · exact hi
  · split
    · exact hi
    · split
      · exact ctrlDataClose_inv hi i
      · exact hi

@[simp] theorem cmdTargetLoop_reg (packet : Nat → UInt32) (ntargets : Nat) :
    ∀ (fuel i : Nat) (g : Globals) (pos : Nat) (buf : List Char),
      (cmdTargetLoop packet ntargets fuel i g pos buf).1.reg = g.reg
  | 0, _, _, _, _ => rfl
  | fuel + 1, i, g, pos, buf => by
    simp only [cmdTargetLoop]
    split
    · rfl
    · split
      · rfl
      · exact cmdTargetLoop_reg packet ntargets fuel _ _ _ _

@[simp] theorem cmdTarget_reg (g : Globals) (now : Option Timespec) (ntargets : Nat)
    (packet : Nat → UInt32) : (cmdTarget g now ntargets packet).reg = g.reg := by
  unfold cmdTarget
  split
  · rfl
  · split
    · rfl
    · split
      · rfl
      · simp

@[simp] theorem updatePropsReinit_reg (cfg : Config) (env : CmdEnv) (g : Globals) :
    (updatePropsReinit cfg env g).1.reg = g.reg := by
  unfold updatePropsReinit
  split
  · rfl
  · split <;> simp

@[simp] theorem cmdUpdateProps_reg (cfg : Config) (env : CmdEnv) (g : Globals)
    (i : Fin maxDataConn) : (cmdUpdateProps cfg env g i).reg = g.reg := by
  simp only [cmdUpdateProps]
  split <;> simp

@[simp] theorem cmdStartMonitoring_reg (cfg : Config) (env : CmdEnv) (g : Globals) :
    (cmdStartMonitoring cfg env g).reg = g.reg := by
  simp only [cmdStartMonitoring]
  split
  · rfl
  · split
    · rfl
    · split <;> simp

@[simp] theorem cmdBootCompleted_reg (env : CmdEnv) (g : Globals) (i : Fin maxDataConn) :
    (cmdBootCompleted env g i).reg = g.reg := by
  simp only [cmdBootCompleted, ctrlDataWrite_reg]
  split
  · rfl
  · split
    · rfl
    · simp

theorem ctrlCommand_reg (cfg : Config) (env : CmdEnv) (g : Globals) (i : Fin maxDataConn)
    (len : Nat) (packet : Nat → UInt32) (credPid : Int32) :
    (ctrlCommand cfg env g i len packet credPid).reg = g.reg ∨
      (∃ params, (ctrlCommand cfg env g i len packet credPid).reg =
        (applyProcPrio cfg env.proc g params credPid).reg) ∨
      (∃ params, (ctrlCommand cfg env g i len packet credPid).reg =
        (cmdProcremove cfg g params credPid).reg) ∨
      (ctrlCommand cfg env g i len packet credPid).reg = (cmdProcpurge cfg g credPid).reg ∨
      ∃ procs?, (ctrlCommand cfg env g i len packet credPid).reg =
        (cmdProcsPrio cfg env.proc env.uring g procs? credPid).reg := by
  unfold ctrlCommand
  split
  · exact .inl (cmdTarget_reg _ _ _ _)
  · exact .inr (.inl ⟨_, rfl⟩)
  · exact .inr (.inr (.inl ⟨_, rfl⟩))
  · exact .inr (.inr (.inr (.inl rfl)))
  · exact .inl (ctrlDataWrite_reg _ _ _ _)
  · exact .inl rfl
  · exact .inl (cmdUpdateProps_reg cfg env g i)
  · exact .inl (cmdStartMonitoring_reg cfg env g)
  · exact .inl (cmdBootCompleted_reg env g i)
  · exact .inr (.inr (.inr (.inr ⟨_, rfl⟩)))
  all_goals exact .inl rfl

theorem ctrlCommand_inv {g : Globals} (hi : g.reg.Inv) (cfg : Config) (env : CmdEnv)
    (i : Fin maxDataConn) (len : Nat) (packet : Nat → UInt32) (credPid : Int32) :
    (ctrlCommand cfg env g i len packet credPid).reg.Inv := by
  rcases ctrlCommand_reg cfg env g i len packet credPid with
    h | ⟨params, h⟩ | ⟨params, h⟩ | h | ⟨procs?, h⟩ <;> rw [h]
  · exact hi
  · exact applyProcPrio_inv hi cfg env.proc params credPid
  · exact cmdProcremove_inv hi cfg params credPid
  · exact cmdProcpurge_inv hi cfg credPid
  · exact cmdProcsPrio_inv hi cfg env.proc env.uring procs? credPid

theorem ctrlCommand_keeps {g : Globals} {a : Nat} {credPid : Int32} (hi : g.reg.Inv)
    (hf : ForeignRecord g.reg a credPid) (cfg : Config) (env : CmdEnv) (i : Fin maxDataConn)
    (len : Nat) (packet : Nat → UInt32) :
    Keeps g.reg (ctrlCommand cfg env g i len packet credPid).reg a := by
  rcases ctrlCommand_reg cfg env g i len packet credPid with
    h | ⟨params, h⟩ | ⟨params, h⟩ | h | ⟨procs?, h⟩ <;> rw [h]
  · exact Keeps.refl _ _
  · exact applyProcPrio_keeps hi hf cfg env.proc params
  · exact cmdProcremove_keeps hf cfg params
  · exact cmdProcpurge_keeps hi hf cfg
  · exact cmdProcsPrio_keeps hi hf cfg env.proc env.uring procs?

theorem ctrlCommandHandler_inv {g : Globals} (hi : g.reg.Inv) (cfg : Config) (env : CmdEnv)
    (i : Fin maxDataConn) (recv : Recv) : (ctrlCommandHandler cfg env i recv g).reg.Inv := by
  have hread := ctrlDataRead_inv hi i recv
  simp only [ctrlCommandHandler]
  split
  · exact hread
  · exact ctrlCommand_inv hread cfg env i _ _ _

theorem ctrlCommandHandler_keeps {g : Globals} {a : Nat} {credPid : Int32} (hi : g.reg.Inv)
    (hf : ForeignRecord g.reg a credPid) (cfg : Config) (env : CmdEnv) (i : Fin maxDataConn)
    (len : Nat) (packet : Nat → UInt32) :
    Keeps g.reg (ctrlCommandHandler cfg env i (.received len packet (some credPid)) g).reg a := by
  by_cases hlen : len = 0
  · simpa [ctrlCommandHandler, ctrlDataRead, hlen] using Keeps.refl g.reg a
  · simp only [ctrlCommandHandler, ctrlDataRead, hlen, if_false]
    exact ctrlCommand_keeps
      (g := { g with dataSock := Function.update g.dataSock i { g.dataSock i with pid := credPid } })
      hi hf cfg env i _ packet

end Lmkd
