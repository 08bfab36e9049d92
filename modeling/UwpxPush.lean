import UwpxPush.Program.Basic
import UwpxPush.Program.Outcome
import UwpxPush.Program.Cut
import UwpxPush.Program.Step
import UwpxPush.Program.Sequence
import UwpxPush.KeyValue.Store
import UwpxPush.KeyValue.Agree
import UwpxPush.Run.Basic
import UwpxPush.Regex.Basic
import UwpxPush.Uri.Basic
import UwpxPush.Interleaving.Basic
import UwpxPush.Program.Apart
import UwpxPush.Run.Endless
import UwpxPush.Framing.Basic
import UwpxPush.Json.Basic
import UwpxPush.Utils.CStrings
import UwpxPush.Utils.CryptoUtils
import UwpxPush.Utils.RandomStrings
import UwpxPush.Xmpp.Stanza
import UwpxPush.Platform
import UwpxPush.Tcp.Messages
import UwpxPush.Tcp.Parser
import UwpxPush.Tcp.Valid
import UwpxPush.Tcp.Fields
import UwpxPush.Tcp.RoundTrip
import UwpxPush.Tcp.Grammar
import UwpxPush.Json.Dump
import UwpxPush.Storage.Configuration
import UwpxPush.Storage.Serializer
import UwpxPush.Storage.ConfigurationStorage
import UwpxPush.World
import UwpxPush.Storage.Redis
import UwpxPush.Storage.RedisClient
import UwpxPush.Storage.Contents
import UwpxPush.Storage.Reading
import UwpxPush.Storage.Commands
import UwpxPush.Wns.WnsClient
import UwpxPush.Wns.Effect
import UwpxPush.Wns.Token
import UwpxPush.Wns.Authorization
import UwpxPush.Xmpp.XmppClient
import UwpxPush.Xmpp.Counts
import UwpxPush.Server.PushServer
import UwpxPush.Server.ChannelUri
import UwpxPush.Server.Pending
import UwpxPush.Server.Registration
import UwpxPush.Server.Moves
import UwpxPush.Server.Quiet
import UwpxPush.Server.Faults
import UwpxPush.Server.Runs
import UwpxPush.Server.Answering
import UwpxPush.Server.Stanzas
import UwpxPush.Server.Ownership
import UwpxPush.Server.Roles
import UwpxPush.Server.Expiry
import UwpxPush.Server.Registry
import UwpxPush.Server.Forgetting
import UwpxPush.Server.Confidentiality
import UwpxPush.Server.NotifiedUris
import UwpxPush.Server.Responses
import UwpxPush.Server.Replacement
import UwpxPush.Server.PubSub
import UwpxPush.Server.Reconciliation
import UwpxPush.Server.SuccessFlag
import UwpxPush.Server.Lifecycle
import UwpxPush.Server.Startup
import UwpxPush.Server.Connection
import UwpxPush.Server.Shutdown
import UwpxPush.Server.Components
import UwpxPush.Server.Stages
import UwpxPush.Server.Ending
import UwpxPush.Io.IoThread
import UwpxPush.Main.Process
import UwpxPush.Main.Owned
import UwpxPush.Main.Driving
import UwpxPush.Main.Returning
import UwpxPush.Main.InputMode
import UwpxPush.Main.Exit
import UwpxPush.Main.NoInputMode
import UwpxPush.Main.Signals
import UwpxPush.Main.Launch
import UwpxPush.Server.TokenWrites
import UwpxPush.Server.TokenStorage
import UwpxPush.Server.Delivery
import UwpxPush.Server.Sizes
import UwpxPush.Server.Lasting
import UwpxPush.Server.Frame
import UwpxPush.Server.Atomicity
import UwpxPush.Server.Stability
import UwpxPush.Server.Arrival
import UwpxPush.Server.Bookkeeping
import UwpxPush.Server.Inbound
import UwpxPush.Server.Overlap
import UwpxPush.Server.Views
import UwpxPush.Server.Isolation
import UwpxPush.Server.Independence
import UwpxPush.Wns.Conversation
import UwpxPush.Server.Provenance
import UwpxPush.Server.Conversations
