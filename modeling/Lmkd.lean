import Lmkd.Lib.IntrusiveList
import Lmkd.Lib.ByteOrder
import Lmkd.Lib.WordArray
import Lmkd.State
import Lmkd.Registry
import Lmkd.Registry.Invariant
import Lmkd.Packet.Codec
import Lmkd.Packet.Dispatch
import Lmkd.Packet.Client
import Lmkd.Proc
import Lmkd.Commands
import Lmkd.Kill
import Lmkd.ProcsPrio
import Lmkd.Lib.Transition
import Lmkd.Monitors
import Lmkd.Control
import Lmkd.Psi
import Lmkd.Mainloop
import Lmkd.System.Registry
import Lmkd.System.KillWait
import Lmkd.System.Epoll
import Lmkd.System.Polling
import Lmkd.System.Ownership
import Lmkd.Reaper
import Lmkd.Reaper.Protocol
import Lmkd.ProcsPrio.Refine
import Lmkd.ProcsPrio.Batch
import Lmkd.System.ProcsPrio
import Lmkd.Kill.Search
import Lmkd.System.FindAndKill
import Lmkd.Kill.Counts
import Lmkd.Packet.Untrusted
import Lmkd.ProcsPrio.Completions
import Lmkd.Lib.SignedShift
import Lmkd.Psi.Thrashing
import Lmkd.Lib.Strtok
import Lmkd.Zoneinfo
import Lmkd.Zoneinfo.Bounds
import Lmkd.Watermarks
import Lmkd.Lib.ExceptFold
import Lmkd.Watermarks.Cursor
import Lmkd.Psi.Decision
import Lmkd.Proc.StatusTag
import Lmkd.Proc.Reread
import Lmkd.Control.Target
import Lmkd.Kill.PropLog
import Lmkd.Lib.FirstTry
import Lmkd.Kill.Watchdog
import Lmkd.Lib.HashChains
import Lmkd.Statslog
import Lmkd.Lib.Bytes
import Lmkd.Statslog.Packet
import Lmkd.Commands.View
import Lmkd.System.Requests
import Lmkd.Lib.FieldLines
import Lmkd.Meminfo
import Lmkd.FieldFiles
import Lmkd.System.Trims
import Lmkd.Lib.IntExact
import Lmkd.Watermarks.Lowest
import Lmkd.System.Victims
import Lmkd.Psi.Boost
import Lmkd.System.Watchdog
import Lmkd.System.Pressure
