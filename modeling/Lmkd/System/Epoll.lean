import Lmkd.System.KillWait

/-!
# Counting the descriptors on `epollfd`

`maxevents` is meant to be the number of descriptors registered on
`epollfd`, so that `epoll_wait` gets a count that fits the events array.
Every successful `epoll_ctl(EPOLL_CTL_ADD)` is followed by `maxevents++`,
and every deletion of a registered descriptor by `maxevents--`, which keeps
the count (`EpollBalanced.register`, `EpollBalanced.unregister`).

`ctrl_data_close` decrements even when its `EPOLL_CTL_DEL` fails, and
`ctrl_connect_handler` calls it when the `EPOLL_CTL_ADD` of a new
connection failed: the connection was never counted, so every such failure
lowers `maxevents` below the number of registered descriptors.  From the
start-up of a device with PSI monitors, five failed accepts bring
`maxevents` to 0.
-/

namespace Lmkd

open Transition

def EpollBalanced (g : Globals) : Prop := g.maxevents = Int32.ofNat g.epollFds.length

instance (g : Globals) : Decidable (EpollBalanced g) := inferInstanceAs (Decidable (_ = _))

theorem EpollBalanced.register {g : Globals} (h : EpollBalanced g) (fd : Int32) :
    EpollBalanced (g.epollRegister fd) := by
  unfold EpollBalanced at h ⊢
  simp only [Globals.epollRegister, List.length_cons, Int32.ofNat_add, h]
  rfl

theorem EpollBalanced.unregister {g : Globals} (h : EpollBalanced g) {fd : Int32}
    (hfd : fd ∈ g.epollFds) : EpollBalanced (g.epollUnregister fd) := by
  unfold EpollBalanced at h ⊢
  obtain ⟨n, hn⟩ : ∃ n, g.epollFds.length = n + 1 :=
    ⟨g.epollFds.length - 1, by have := List.length_pos_of_mem hfd; omega⟩
  simp only [Globals.epollUnregister, List.length_erase_of_mem hfd, hn, h, Int32.ofNat_add,
    Nat.add_sub_cancel]
  simp

theorem epollUnregister_of_not_mem {g : Globals} {fd : Int32} (hfd : fd ∉ g.epollFds) :
    (g.epollUnregister fd).epollFds = g.epollFds ∧ (g.epollUnregister fd).maxevents = g.maxevents - 1 :=
  ⟨List.erase_of_not_mem hfd, rfl⟩

theorem ctrlConnectHandler_addFailed {g : Globals} {sock : Int32} {i : Fin maxDataConn}
    (hfree : getFreeDsock g = some i) (hsock : 0 ≤ sock) (hfresh : sock ∉ g.epollFds) :
    (ctrlConnectHandler sock false g).epollFds = g.epollFds ∧
      (ctrlConnectHandler sock false g).maxevents = g.maxevents - 1 := by
  have hnot : ¬ sock < 0 := fun h => absurd hsock (Int32.not_le.mpr h)
  simp [ctrlConnectHandler, hfree, hnot, ctrlDataClose, Globals.epollUnregister,
    List.erase_of_not_mem hfresh]

theorem ctrlConnectHandler_unbalanced {g : Globals} {sock : Int32} {i : Fin maxDataConn}
    (hb : EpollBalanced g) (hfree : getFreeDsock g = some i) (hsock : 0 ≤ sock)
    (hfresh : sock ∉ g.epollFds) : ¬ EpollBalanced (ctrlConnectHandler sock false g) := by
  obtain ⟨hfds, hmax⟩ := ctrlConnectHandler_addFailed hfree hsock hfresh
  unfold EpollBalanced at hb ⊢
  rw [hfds, hmax, hb]
  generalize Int32.ofNat g.epollFds.length = n
  intro h
  have h' := congrArg Int32.toBitVec h
  simp only [Int32.toBitVec_sub, Int32.toBitVec_one] at h'
  bv_omega

theorem ctrlConnectHandler_unbalanced_atStart :
    EpollBalanced (Globals.boot.epollRegister 3) ∧
      getFreeDsock (Globals.boot.epollRegister 3) = some ⟨0, by decide⟩ ∧ (0 : Int32) ≤ 5 ∧
      (5 : Int32) ∉ (Globals.boot.epollRegister 3).epollFds ∧
      ¬ EpollBalanced (ctrlConnectHandler 5 false (Globals.boot.epollRegister 3)) :=
  have hb : EpollBalanced (Globals.boot.epollRegister 3) := by decide
  have hfree : getFreeDsock (Globals.boot.epollRegister 3) = some ⟨0, by decide⟩ := by decide
  have hfresh : (5 : Int32) ∉ (Globals.boot.epollRegister 3).epollFds := by decide
  ⟨hb, hfree, by decide, hfresh, ctrlConnectHandler_unbalanced hb hfree (by decide) hfresh⟩

/-! ## Five failed accepts -/

def failedConnect : Action :=
  .event .ctrlSock epollin ⟨10, 0⟩ { idleCallEnv with accept := 5, acceptAddOk := false }

/-- Start-up registers the control socket, the three PSI triggers and the
reaper pipe; five accepts whose `EPOLL_CTL_ADD` fails then bring `maxevents`
to 0 with those five descriptors still registered. -/
theorem failedConnects_exhaust_maxevents :
    ∃ g₀ g, lmkdInit exampleConfig exampleInitEnv = some g₀ ∧
      (lmkdSystem exampleConfig g₀).Reachable g ∧ g.maxevents = 0 ∧ g.epollFds.length = 5 := by
  have hrun : ((lmkdInit exampleConfig exampleInitEnv).bind fun g₀ =>
      ((lmkdSystem exampleConfig g₀).runFrom g₀ (List.replicate 4 failedConnect)).bind fun g =>
        (lmkdStep exampleConfig g failedConnect).map fun g' => (g'.maxevents, g'.epollFds.length)) =
      some (0, 5) := by
    decide +kernel
  obtain ⟨g₀, g, g', h₀, hg, hstep, hcount⟩ := exists_run_step hrun
  rw [Prod.mk.injEq] at hcount
  have hg' : (lmkdSystem exampleConfig g₀).Reachable g' :=
    hg.step (show (lmkdSystem exampleConfig g₀).step g failedConnect = some g' from hstep)
  exact ⟨g₀, g', h₀, hg', hcount.1, hcount.2⟩

end Lmkd
