import SpwRmap.Crc.Serial
import SpwRmap.Node.Link
import SpwRmap.Node.Reassembly
import SpwRmap.Node.Replies
import SpwRmap.Node.Settlement
import SpwRmap.Packet.Corruption
import SpwRmap.Packet.Layout
import SpwRmap.Packet.RoundTrip
import SpwRmap.Node.Exact
import SpwRmap.Lib.Relational
import SpwRmap.Node.Chunking
import SpwRmap.Node.Heads
import SpwRmap.Node.Truncation
import SpwRmap.Node.Callbacks
import SpwRmap.Node.Reads
import SpwRmap.Node.Faults
import SpwRmap.Node.Accounts
import SpwRmap.Node.Client
import SpwRmap.Node.Wire
import SpwRmap.Packet.History
import SpwRmap.Node.Connection
import SpwRmap.Socket.Server
import SpwRmap.Node.Policy
import SpwRmap.Node.Lengths
import SpwRmap.Node.Answers
import SpwRmap.Node.Attribution
import SpwRmap.Node.Exhaustion
import SpwRmap.Node.Transparency
import SpwRmap.Socket.Client
import SpwRmap.Socket.Transmission
import SpwRmap.Node.Timestamps
import SpwRmap.Lib.Memory
import SpwRmap.Node.RemoteMemory
import SpwRmap.App.Speedtest
import SpwRmap.Node.Server
import SpwRmap.Socket.Lifecycle
import SpwRmap.Bindings.Dispatch
import SpwRmap.Bindings.Reads
import SpwRmap.App.Options
import SpwRmap.App.Restore
import SpwRmap.App.SpeedtestOptions
import SpwRmap.Node.Drain
import SpwRmap.Packet.Canonical
import SpwRmap.Node.Exchange
import SpwRmap.Node.Segments
