import SmfRpc.Lib.LittleEndian
import SmfRpc.Lib.Semaphore
import SmfRpc.Lib.AssocList
import SmfRpc.Lib.Run
import SmfRpc.Lib.Dispatch
import SmfRpc.Lib.OrderedSet
import SmfRpc.Lib.Update
import SmfRpc.Wire.Header
import SmfRpc.Wire.RecvContext
import SmfRpc.Wire.Envelope
import SmfRpc.Wire.Connection
import SmfRpc.Server.State
import SmfRpc.Server.Step
import SmfRpc.Server.Connections
import SmfRpc.Server.Memory
import SmfRpc.Server.Reply
import SmfRpc.Server.Router
import SmfRpc.Server.Units
import SmfRpc.Server.Gate
import SmfRpc.Compression.Codec
import SmfRpc.Compression.Filter
import SmfRpc.Write.Serialize
import SmfRpc.Client.State
import SmfRpc.Client.Step
import SmfRpc.Client.Slots
import SmfRpc.Client.Stranded
import SmfRpc.Client.Reconnect
import SmfRpc.Client.Backoff
import SmfRpc.Codegen.Printer
import SmfRpc.Codegen.Identifier
import SmfRpc.Filter.Apply
import SmfRpc.Load.Generator
import SmfRpc.Metrics.Histogram
import SmfRpc.Metrics.Logform
import SmfRpc.Codegen.Calls
import SmfRpc.Codegen.Schema
import SmfRpc.Codegen.CppGenerator
import SmfRpc.Codegen.Header
import SmfRpc.Codegen.Python
import SmfRpc.Codegen.Lines
import SmfRpc.Codegen.Go
