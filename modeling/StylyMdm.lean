import StylyMdm.Library.Run
import StylyMdm.PushJobs.Revision
import StylyMdm.PushJobs.StateMachine
import StylyMdm.PushJobs.Fifo
import StylyMdm.PushJobs.Fences
import StylyMdm.PushJobs.Recovery
import StylyMdm.Client.Coordinator
import StylyMdm.Client.Durable
import StylyMdm.Client.AtMostOnce
import StylyMdm.Library.Coop
import StylyMdm.PushJobs.Queries
import StylyMdm.Runtime.Server
import StylyMdm.Runtime.Scheduler
import StylyMdm.Runtime.Runtime
import StylyMdm.Client.Outbox
import StylyMdm.Client.Saved
import StylyMdm.Library.Json
import StylyMdm.Registry.Handlers
import StylyMdm.Registry.Reload
import StylyMdm.Registry.Labels
import StylyMdm.Registry.RoundTrip
import StylyMdm.Files.Destination
import StylyMdm.Files.Agreement
import StylyMdm.Files.Bundle
import StylyMdm.Files.RoundTrip
import StylyMdm.Connections.Handler
import StylyMdm.Connections.Steps
import StylyMdm.Connections.Ownership
import StylyMdm.Connections.PushRuntime
import StylyMdm.Connections.PushSteps
import StylyMdm.Connections.Sessions
import StylyMdm.Connections.PushOwnership
import StylyMdm.Connections.Retires
import StylyMdm.Connections.SelfUpdates
import StylyMdm.Connections.Settlement
import StylyMdm.Library.JsonText
import StylyMdm.PushJobs.Request
import StylyMdm.Files.Canonical
import StylyMdm.PushJobs.NormalForm
import StylyMdm.PushJobs.Creation
import StylyMdm.Runtime.Evidence
import StylyMdm.Console.Assignments
import StylyMdm.Files.Sync
import StylyMdm.Files.Mirror
import StylyMdm.Files.Digest
import StylyMdm.Files.Verify
import StylyMdm.Console.Publication
import StylyMdm.Console.Broadcast
import StylyMdm.Console.Convergence
import StylyMdm.Transfers.Progress
import StylyMdm.Library.Dict
import StylyMdm.Transfers.Slots
import StylyMdm.PushJobs.Timers
import StylyMdm.Runtime.Redelivery
import StylyMdm.Artifacts.Durability
import StylyMdm.Console.FenceDisplay
import StylyMdm.Library.OrgJson
import StylyMdm.Client.Codec
import StylyMdm.Files.TreeHash
import StylyMdm.Library.Js
import StylyMdm.Library.Sha2
import StylyMdm.Files.Sha256
import StylyMdm.Client.PowerCycle
import StylyMdm.Client.RadioSilence
import StylyMdm.Client.UpdateJournalCodec
import StylyMdm.Files.UploadRoot
import StylyMdm.PushJobs.Live
import StylyMdm.Runtime.Messages
import StylyMdm.Runtime.System
import StylyMdm.Runtime.Custody
import StylyMdm.Runtime.Steady
import StylyMdm.Runtime.Coroutines
import StylyMdm.Runtime.Orphans
import StylyMdm.Files.Worker
import StylyMdm.Files.Delivery
import StylyMdm.Guard.Watchdog
import StylyMdm.Client.DeviceIdentity
import StylyMdm.Handshake.Agreement
import StylyMdm.Handshake.Registration
