import Lmkd.Packet.Codec

/-!
# The client library `liblmkd_utils`

The three client calls that wait for a reply: `lmkd_update_props`,
`lmkd_notify_boot_completed` and `lmkd_get_kill_count`.  Each sends its
request, then reads the reply into the packet array that held the request.
`sent` says whether the `write` succeeded; the reply is `none` when the
`read` failed and otherwise the words received, which `lmkd` sends as one
message.

The first two decode the reply word with `ntohl`.  `lmkd_get_kill_count`
returns `packet[1]` as it arrived, in network byte order, so a client reads
the count `lmkd` sent only when that count is a byte palindrome
(`lmkdGetKillCount_reply_eq_iff`).
-/

namespace Lmkd

open ByteOrder WordArray

inductive UpdatePropsResult where
  | success
  | fail
  | sendErr
  | recvErr
  | formatErr
deriving DecidableEq, Repr

inductive BootCompletedNotificationResult where
  | success
  | fails
  | alreadyHandled
  | sendErr
  | recvErr
  | formatErr
deriving DecidableEq, Repr

def getKillCountSendErr : Int32 := -1

def getKillCountRecvErr : Int32 := -2

def getKillCountFormatErr : Int32 := -3

def replyWellFormed (cmd : LmkCmd) (ws : List UInt32) (packet : Nat → UInt32) : Bool :=
  ws.length * 4 = 2 * 4 && lmkdPackGetCmd packet = cmd.toInt32

def lmkdUpdateProps (sent : Bool) (reply : Option (List UInt32)) (stale : Nat → UInt32) :
    UpdatePropsResult :=
  if !sent then .sendErr
  else match reply with
    | none => .recvErr
    | some ws =>
      let packet := ofList ws stale
      if !replyWellFormed .updateProps ws packet then .formatErr
      else if lmkdPackGetUpdatePropsRepl packet = 0 then .success else .fail

def lmkdNotifyBootCompleted (sent : Bool) (reply : Option (List UInt32)) (stale : Nat → UInt32) :
    BootCompletedNotificationResult :=
  if !sent then .sendErr
  else match reply with
    | none => .recvErr
    | some ws =>
      let packet := ofList ws stale
      if !replyWellFormed .bootCompleted ws packet then .formatErr
      else
        let result := lmkdPackGetBootCompletedNotifRepl packet
        if result = -1 then .fails
        else if result = 0 then .success
        else if result = 1 then .alreadyHandled
        else .fails

/-- `lmkd_get_kill_count`: on success it returns `packet[1]` with no byte
order conversion. -/
def lmkdGetKillCount (sent : Bool) (reply : Option (List UInt32)) (stale : Nat → UInt32) :
    Int32 :=
  if !sent then getKillCountSendErr
  else match reply with
    | none => getKillCountRecvErr
    | some ws =>
      let packet := ofList ws stale
      if !replyWellFormed .getkillcnt ws packet then getKillCountFormatErr
      else (packet 1).toInt32

/-! ## Replies built by `lmkd` -/

theorem replyWellFormed_repl (cmd : LmkCmd) (result : Int32) (stale : Nat → UInt32) :
    replyWellFormed cmd [wordOf cmd.toInt32, wordOf result]
      (ofList [wordOf cmd.toInt32, wordOf result] stale) = true := by
  simp [replyWellFormed, lmkdPackGetCmd, ofList]

theorem lmkdUpdateProps_reply (result : Int32) (stale : Nat → UInt32) :
    lmkdUpdateProps true (some (lmkdPackSetUpdatePropsRepl result)) stale =
      if result = 0 then .success else .fail := by
  simp only [lmkdUpdateProps, lmkdPackSetUpdatePropsRepl, replyWellFormed_repl]
  simp [lmkdPackGetUpdatePropsRepl, ofList]

theorem lmkdNotifyBootCompleted_reply (stale : Nat → UInt32) :
    lmkdNotifyBootCompleted true (some (lmkdPackSetBootCompletedNotifRepl (-1))) stale = .fails ∧
      lmkdNotifyBootCompleted true (some (lmkdPackSetBootCompletedNotifRepl 0)) stale =
        .success ∧
      lmkdNotifyBootCompleted true (some (lmkdPackSetBootCompletedNotifRepl 1)) stale =
        .alreadyHandled := by
  simp only [lmkdNotifyBootCompleted, lmkdPackSetBootCompletedNotifRepl, replyWellFormed_repl]
  simp [lmkdPackGetBootCompletedNotifRepl, ofList]

theorem lmkdGetKillCount_reply (killCnt : Int32) (stale : Nat → UInt32) :
    lmkdGetKillCount true (some (lmkdPackSetGetkillcntRepl killCnt)) stale =
      (swap32 killCnt.toUInt32).toInt32 := by
  simp only [lmkdGetKillCount, lmkdPackSetGetkillcntRepl, replyWellFormed_repl]
  simp [ofList, wordOf, htonl]

theorem lmkdGetKillCount_reply_eq_iff (killCnt : Int32) (stale : Nat → UInt32) :
    lmkdGetKillCount true (some (lmkdPackSetGetkillcntRepl killCnt)) stale = killCnt ↔
      swap32 killCnt.toUInt32 = killCnt.toUInt32 := by
  rw [lmkdGetKillCount_reply]
  constructor
  · intro h
    have h' := congrArg Int32.toUInt32 h
    rwa [UInt32.toUInt32_toInt32] at h'
  · intro h
    rw [h, Int32.toInt32_toUInt32]

theorem lmkdGetKillCount_reply_one :
    lmkdGetKillCount true (some (lmkdPackSetGetkillcntRepl 1)) (fun _ => 0) = 16777216 := by
  rw [lmkdGetKillCount_reply]
  decide

end Lmkd
