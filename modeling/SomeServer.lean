import SomeServer.Fleet.Lease
import SomeServer.Fleet.Holders
import SomeServer.Fleet.Directory
import SomeServer.Fleet.Accounts
import SomeServer.Game.Ownership
import SomeServer.Game.View
import SomeServer.Lib.Sequential
import SomeServer.Game.Alone
import SomeServer.Game.Stores
import SomeServer.Game.Locks
import SomeServer.Game.Reclaim
import SomeServer.Fleet.Rows
import SomeServer.Fleet.Renames
import SomeServer.Storage.Dataset
import SomeServer.Storage.Coherence
import SomeServer.Game.Bindings
import SomeServer.Game.Sessions
import SomeServer.Gate.Accounts
import SomeServer.Gate.Process
import SomeServer.Gate.Calls
import SomeServer.Gate.Agreement
import SomeServer.Cluster.World
import SomeServer.Cluster.Messages
import SomeServer.Gate.Life
import SomeServer.Cluster.Kicks
import SomeServer.Cluster.KickCalls
import SomeServer.Cluster.Points
import SomeServer.Cluster.Steps
import SomeServer.Ipc.Messenger
import SomeServer.Ipc.Delivery
import SomeServer.Ipc.Forwarding
import SomeServer.Ipc.DataCodec
import SomeServer.Ipc.Frames
import SomeServer.Ipc.Interleaving
import SomeServer.Cluster.Removals
import SomeServer.Gate.Replies
import SomeServer.Gate.Worker
import SomeServer.Cluster.Logins
import SomeServer.Ipc.Handshake
import SomeServer.Ipc.Ownership
import SomeServer.Ipc.Blocking
import SomeServer.Ipc.Redial
import SomeServer.Discovery.Watch
import SomeServer.Discovery.Membership
import SomeServer.Discovery.Slots
import SomeServer.Game.Flags
import SomeServer.Game.Loads
import SomeServer.Loader.Application
import SomeServer.Loader.Initialize
import SomeServer.Discovery.Events
import SomeServer.Game.Backoff
import SomeServer.Game.Releases
import SomeServer.Game.Activations
import SomeServer.Fleet.Keys
import SomeServer.Fleet.Lockout
import SomeServer.Storage.Connect
import SomeServer.Fleet.Outage
import SomeServer.Discovery.Ranges
import SomeServer.Loader.Stages
import SomeServer.Discovery.Restarts
import SomeServer.Discovery.KeepAlive
import SomeServer.Ipc.Broadcasts
import SomeServer.Gate.NewLogins
import SomeServer.Fleet.Entries
import SomeServer.Fleet.Resolution
import SomeServer.Game.Scans
import SomeServer.Game.Retries
import SomeServer.Discovery.Base64
import SomeServer.Cluster.Owners
import SomeServer.Loader.Config
import SomeServer.Storage.Resolved
import SomeServer.Client.Sends
import SomeServer.Storage.Connections
import SomeServer.Storage.Statements
import SomeServer.Discovery.Snapshots
import SomeServer.Ipc.Journeys
