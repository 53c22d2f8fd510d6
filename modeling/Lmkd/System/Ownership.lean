import Lmkd.System.KillWait

/-!
# Records and the clients that registered them

A record's registrant is the pid in `reg_pid`.  Commands respect it: a
message that carries the credentials of client `c` keeps every record of
another registrant, whichever command it holds (`lmkdStep_keeps_foreign`).
Claims end when a connection closes: `ctrl_data_close(i)` clears the claims
of `data_sock[i].pid`.

That pid is the sender of the last message read on slot `i`, and accepting a
connection into the slot does not reset it.  A connection that is closed
before it sends anything therefore releases the claims of the slot's
previous sender (`ctrlDataClose_releases_previous_sender`), who may by then
be connected on another slot.  The run at the end shows it: client 1
registers app 100, disconnects, and reconnects on slot 1 while client 2
holds slot 0; client 2 leaves without a message, which releases client 1's
claim, and client 3 then changes the app's score while client 1 is still
connected.
-/

namespace Lmkd

open Registry Transition

theorem lmkdStep_keeps_foreign {cfg : Config} {ienv : InitEnv} {g₀ : Globals}
    (h₀ : lmkdInit cfg ienv = some g₀) {g g' : Globals} (hg : (lmkdSystem cfg g₀).Reachable g)
    {i : Fin maxDataConn} {events : UInt32} {contNow : Timespec} {env : CallEnv} {len : Nat}
    {packet : Nat → UInt32} {c : Int32} (hrecv : env.recv = .received len packet (some c))
    (h : lmkdStep cfg g (.event (.dataSock i) events contNow env) = some g') {a : Nat}
    (hf : ForeignRecord g.reg a c) : Keeps g.reg g'.reg a := by
  have hi := lmkdSystem_inv h₀ hg
  simp only [lmkdStep] at h
  split at h
  · cases h
  · cases h
    simp only [handleEvent]
    rw [callHandler_reg]
    simp only [runHandler, hrecv]
    split
    · exact ctrlCommandHandler_keeps (g := { g with poll := { g.poll with update := .doNotChange } })
        hi hf cfg env.cmd i len packet
    · exact Keeps.refl _ _

theorem ctrlDataClose_releases_previous_sender {g : Globals} {i : Fin maxDataConn} {sock : Int32}
    (hfree : getFreeDsock g = some i) (hsock : 0 ≤ sock) {b c : Nat} (hb : b < pidhashSz)
    (hc : c ∈ g.reg.pidhash b) (hq : (g.reg.procs c).regPid = (g.dataSock i).pid) :
    ((ctrlDataClose (ctrlConnectHandler sock true g) i).reg.procs c).regPid = 0 := by
  have hnot : ¬ sock < 0 := fun h => absurd hsock (Int32.not_le.mpr h)
  have hconn : (ctrlConnectHandler sock true g).reg = g.reg ∧
      ((ctrlConnectHandler sock true g).dataSock i).pid = (g.dataSock i).pid := by
    simp [ctrlConnectHandler, hfree, hnot, Globals.epollRegister]
  rw [ctrlDataClose_reg, hconn.1, hconn.2, removeClaims_procs_of_mem hb hc hq]

def claimedByOne : Globals :=
  { Globals.boot with
    reg := Registry.initial.insertNew ⟨100, 30, 10100, 900, 1, true⟩
    dataSock := fun _ => ⟨-1, 1, 0⟩ }

theorem ctrlDataClose_releases_previous_sender_atStart :
    getFreeDsock claimedByOne = some ⟨0, by decide⟩ ∧ (0 : Int32) ≤ 5 ∧
      pidHashfn 100 < pidhashSz ∧ 0 ∈ claimedByOne.reg.pidhash (pidHashfn 100) ∧
      (claimedByOne.reg.procs 0).regPid = (claimedByOne.dataSock ⟨0, by decide⟩).pid ∧
      ((ctrlDataClose (ctrlConnectHandler 5 true claimedByOne) ⟨0, by decide⟩).reg.procs 0).regPid = 0 :=
  have hfree : getFreeDsock claimedByOne = some ⟨0, by decide⟩ := by decide
  have hb : pidHashfn 100 < pidhashSz := by decide
  have hc : 0 ∈ claimedByOne.reg.pidhash (pidHashfn 100) := by decide
  have hq : (claimedByOne.reg.procs 0).regPid = (claimedByOne.dataSock ⟨0, by decide⟩).pid := by
    decide
  ⟨hfree, by decide, hb, hc, hq, ctrlDataClose_releases_previous_sender hfree (by decide) hb hc hq⟩

/-! ## Client 3 re-prioritises client 1's app -/

def connectOn (sock : Int32) : Action :=
  .event .ctrlSock epollin ⟨10, 0⟩ { idleCallEnv with accept := sock, acceptAddOk := true }

def sendProcprio (i : Fin maxDataConn) (client : Int32) (params : LmkProcprio) : Action :=
  .event (.dataSock i) epollin ⟨10, 0⟩ { idleCallEnv with recv := procprioMessage client params }

def clientOneReconnects : List Action :=
  [connectOn 5, sendProcprio ⟨0, zero_lt_maxDataConn⟩ 1 ⟨100, 10100, 900, procTypeApp⟩,
   .hup (.dataSock ⟨0, zero_lt_maxDataConn⟩), connectOn 6, connectOn 7,
   sendProcprio ⟨1, one_lt_maxDataConn⟩ 1 ⟨100, 10100, 900, procTypeApp⟩]

def clientThreeTakesOver : List Action :=
  [.hup (.dataSock ⟨0, zero_lt_maxDataConn⟩), connectOn 8,
   sendProcprio ⟨0, zero_lt_maxDataConn⟩ 3 ⟨100, 10100, 0, procTypeApp⟩]

set_option maxRecDepth 100000 in
/-- App 100 is claimed by client 1 at score 900 while client 1 is connected
on slot 1; after client 2's silent hang-up and client 3's message, client 1
is still connected on slot 1, and the app has score 0 and registrant 3. -/
theorem staleSlotPid_lets_other_client_reprioritise :
    ∃ g₀ g g', lmkdInit exampleConfig exampleInitEnv = some g₀ ∧
      (lmkdSystem exampleConfig g₀).Reachable g ∧
      (lmkdSystem exampleConfig g₀).runFrom g clientThreeTakesOver = some g' ∧
      (g.reg.pidLookup 100).map (fun a => ((g.reg.procs a).oomadj, (g.reg.procs a).regPid)) =
        some (900, 1) ∧
      g.dataSock ⟨1, by decide⟩ = ⟨7, 1, 0⟩ ∧
      (g'.reg.pidLookup 100).map (fun a => ((g'.reg.procs a).oomadj, (g'.reg.procs a).regPid)) =
        some (0, 3) ∧
      g'.dataSock ⟨1, by decide⟩ = ⟨7, 1, 0⟩ := by
  have hrun : ((lmkdInit exampleConfig exampleInitEnv).bind fun g₀ =>
      ((lmkdSystem exampleConfig g₀).runFrom g₀ clientOneReconnects).bind fun g =>
        ((lmkdSystem exampleConfig g₀).runFrom g clientThreeTakesOver).map fun g' =>
          ((g.reg.pidLookup 100).map (fun a => ((g.reg.procs a).oomadj, (g.reg.procs a).regPid)),
            g.dataSock ⟨1, by decide⟩,
            (g'.reg.pidLookup 100).map (fun a => ((g'.reg.procs a).oomadj, (g'.reg.procs a).regPid)),
            g'.dataSock ⟨1, by decide⟩)) =
      some (some (900, 1), ⟨7, 1, 0⟩, some (0, 3), ⟨7, 1, 0⟩) := by
    decide +kernel
  obtain ⟨g₀, g, g', h₀, hg, hrun', hobs⟩ := exists_run_then hrun
  simp only [Prod.mk.injEq] at hobs
  exact ⟨g₀, g, g', h₀, hg, hrun', hobs.1, hobs.2.1, hobs.2.2.1, hobs.2.2.2⟩

end Lmkd
