import PacketWatch.LogFilter
import PacketWatch.Main
import PacketWatch.Queue.Shared
import PacketWatch.Source.Manual
import PacketWatch.Proofs.Pool.ExactlyOnce
import PacketWatch.Proofs.Dissect.NoFault
import PacketWatch.Proofs.Dissect.Accounting
import PacketWatch.Proofs.Build.Frames
import PacketWatch.Proofs.Build.Traffic
import PacketWatch.Proofs.Store.History
import PacketWatch.Proofs.Pipeline.Conservation
import PacketWatch.Proofs.Pipeline.EndMarker
import PacketWatch.Proofs.Store.Polling
import PacketWatch.Proofs.Pipeline.Agreement
import PacketWatch.Proofs.Pipeline.Calls
import PacketWatch.Proofs.Pipeline.CaptureOrder
import PacketWatch.Proofs.Pipeline.Generations
import PacketWatch.Proofs.Pool.Closing
import PacketWatch.Proofs.Source.States
import PacketWatch.Proofs.Source.Delivery
import PacketWatch.Proofs.Pipeline.Alike
import PacketWatch.Proofs.Pipeline.Refusal
import PacketWatch.Proofs.Dissect.Truncation
import PacketWatch.Proofs.Dissect.Padding
import PacketWatch.Proofs.Dissect.Detection
import PacketWatch.Proofs.Dissect.Datagram
import PacketWatch.Proofs.Dissect.ExtensionChain
import PacketWatch.Proofs.Dissect.Framing
import PacketWatch.Proofs.Dissect.Labels
import PacketWatch.Proofs.Dissect.LaterFragment
import PacketWatch.Proofs.Dissect.Directions
import PacketWatch.Proofs.Dissect.Evidence
import PacketWatch.Proofs.CommandLine.Watching
import PacketWatch.Dispatch.Shared
import PacketWatch.Proofs.Queue.Dispatching
import PacketWatch.Proofs.Build.Checksum
import PacketWatch.Proofs.Build.Query
import PacketWatch.Proofs.Text.SingleLine
import PacketWatch.Proofs.Dissect.Summaries
import PacketWatch.Proofs.Error.Contexts
import PacketWatch.Proofs.Queue.Conservation
import PacketWatch.Proofs.Config.SavedLoaded
