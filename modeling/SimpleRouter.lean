import SimpleRouter.Framework.Prog
import SimpleRouter.Framework.System
import SimpleRouter.Framework.Chain
import SimpleRouter.Framework.Loop
import SimpleRouter.Framework.Budget
import SimpleRouter.Framework.Bytes
import SimpleRouter.Framework.Blocks
import SimpleRouter.Framework.SecureHash
import SimpleRouter.Framework.Slots
import SimpleRouter.Framework.Source
import SimpleRouter.Framework.Records
import SimpleRouter.Model.Protocol
import SimpleRouter.Model.Checksum
import SimpleRouter.Model.Tables
import SimpleRouter.Model.State
import SimpleRouter.Model.Arpcache
import SimpleRouter.Model.Router
import SimpleRouter.Model.Threads
import SimpleRouter.Packet.Frames
import SimpleRouter.Packet.LongestMatch
import SimpleRouter.Queue.Basic
import SimpleRouter.Queue.Evolves
import SimpleRouter.Queue.Handling
import SimpleRouter.Queue.Rules
import SimpleRouter.Queue.Pending
import SimpleRouter.Safety.NullLookups
import SimpleRouter.Safety.Links
import SimpleRouter.Safety.SelfTraffic
import SimpleRouter.Cache.Lifetime
import SimpleRouter.Queue.Discarding
import SimpleRouter.Queue.Termination
import SimpleRouter.Queue.Threads
import SimpleRouter.Queue.Sweep
import SimpleRouter.Packet.Forwarding
import SimpleRouter.Queue.HostUnreachable
import SimpleRouter.Queue.Moves
import SimpleRouter.Queue.Follows
import SimpleRouter.Queue.Produced
import SimpleRouter.Queue.Consistent
import SimpleRouter.Queue.Ledger
import SimpleRouter.Safety.SenderCheck
import SimpleRouter.Safety.Blacklist
import SimpleRouter.Framework.OnesComplement
import SimpleRouter.Cache.Store
import SimpleRouter.Packet.Cksum
import SimpleRouter.Packet.Checksums
import SimpleRouter.Packet.Acceptance
import SimpleRouter.Queue.Retries
import SimpleRouter.Model.Vns
import SimpleRouter.Model.Hwinfo
import SimpleRouter.Model.LoadRt
import SimpleRouter.Model.Comm
import SimpleRouter.Model.Session
import SimpleRouter.Model.Dumper
import SimpleRouter.Safety.MessageLengths
import SimpleRouter.Queue.Handshake
import SimpleRouter.Queue.SlowPath
import SimpleRouter.Packet.NextHop
import SimpleRouter.Packet.Quoting
import SimpleRouter.Packet.Echo
import SimpleRouter.Tables.Hwinfo
import SimpleRouter.Tables.LoadRt
import SimpleRouter.Server.Reading
import SimpleRouter.Server.Session
import SimpleRouter.Server.Framing
import SimpleRouter.Server.Logging
import SimpleRouter.Model.Sha1
import SimpleRouter.Server.Sha1
import SimpleRouter.Model.Overlap
import SimpleRouter.Queue.Overlap
import SimpleRouter.Queue.Granularity
import SimpleRouter.Queue.Tries
import SimpleRouter.Safety.Interleaving
import SimpleRouter.Framework.Rounds
import SimpleRouter.Queue.Progress
import SimpleRouter.Framework.Network
import SimpleRouter.Safety.Networks
import SimpleRouter.Safety.Delivery
import SimpleRouter.Model.Connect
import SimpleRouter.Server.Connect
import SimpleRouter.Server.MainLoop
import SimpleRouter.Server.Startup
import SimpleRouter.Queue.Budget
