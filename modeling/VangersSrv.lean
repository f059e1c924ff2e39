import VangersSrv.Server.Transfer
import VangersSrv.Server.Items
import VangersSrv.Server.Expiry
import VangersSrv.Server.Registration
import VangersSrv.Client.Framing
import VangersSrv.Client.WireOrder
import VangersSrv.Client.Wakeups
import VangersSrv.Server.WorldReplica
import VangersSrv.Server.Rejections
import VangersSrv.Server.Isolation
import VangersSrv.Client.LatestUpdates
import VangersSrv.Client.Termination
import VangersSrv.Client.Handshake
import VangersSrv.Server.Fates
import VangersSrv.Server.Bodies
import VangersSrv.Server.Cleanup
import VangersSrv.Server.Pickups
import VangersSrv.Server.Configuration
import VangersSrv.Server.Vocabulary
import VangersSrv.Server.PlayersList
import VangersSrv.Server.Sessions
import VangersSrv.Client.Limits
import VangersSrv.Client.Verdict
import VangersSrv.Server.ItemIds
import VangersSrv.Server.Announced
import VangersSrv.Server.Departures
import VangersSrv.Server.Joining
import VangersSrv.Server.Offsets
import VangersSrv.Server.FreshIds
import VangersSrv.Server.Names
import VangersSrv.Server.DirectMessages
import VangersSrv.Server.GamesList
import VangersSrv.Callback.ObjectFormats
import VangersSrv.Server.TopList
import VangersSrv.Client.Coalescing
import VangersSrv.Client.Tables
import VangersSrv.System.Tasks
import VangersSrv.System.Sessions
import VangersSrv.System.Clients
import VangersSrv.System.Draining
import VangersSrv.System.Delivery
import VangersSrv.System.Tables
import VangersSrv.System.Lineup
import VangersSrv.Server.Lockstep
