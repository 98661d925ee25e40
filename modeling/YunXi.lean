import YunXi.AgentSpine.Lifecycle
import YunXi.AgentSpine.Direct
import YunXi.AgentSpine.ToolErrors
import YunXi.CordisCore.EventContract
import YunXi.CordisRuntime.Startup
import YunXi.MultiAgent.TurnEnd
import YunXi.CordisCore.Isolation
import YunXi.ToolPatch.Print
import YunXi.ToolPatch.Sections
import YunXi.WebHost.Replay
import YunXi.WebHost.Rollback
import YunXi.WebHost.Turns
import YunXi.WebGateway.Serving
import YunXi.Session.ClosedTurns
import YunXi.Session.Settled
import YunXi.Program.Replacing
import YunXi.Protocol.Mcp
import YunXi.AgentSpine.Budget
import YunXi.Mailbox.Idempotency
import YunXi.PluginHost.Recovery
import YunXi.Protocol.Transport
import YunXi.Settings.Handles
import YunXi.Storage.CrashSafety
import YunXi.WebGateway.Delivery
import YunXi.Weixin.ChannelRuns
import YunXi.Weixin.DeliveryRuns
import YunXi.Mailbox.HexKeys
import YunXi.ToolPatch.Terminators
import YunXi.CordisCore.Parallel
import YunXi.CordisRuntime.Refusals
import YunXi.Memory.Recalled
import YunXi.Memory.Extraction
import YunXi.WebGateway.Incremental
import YunXi.WebGateway.Requests
import YunXi.WebHost.Paging
import YunXi.ToolFiles.Read
import YunXi.ToolFiles.Search
import YunXi.Protocol.NetworkScope
import YunXi.Session.Approvals
import YunXi.ToolSkills.Results
import YunXi.WebGateway.Dates
import YunXi.Persona.Compile
import YunXi.Session.Outcomes
import YunXi.ToolMcp.Pairing
import YunXi.ToolMcp.Granted
import YunXi.Voice.State
