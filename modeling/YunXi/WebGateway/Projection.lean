import YunXi.Protocol.Chat
import YunXi.Protocol.JsonAccess

/-!
# Projections for the browser

What the host shows of its status, its plugins and its sessions, with the JSON form of each.
-/

namespace YunXi
namespace WebGateway

open Protocol (Value optionalMember)

inductive PluginFiberPhase
  | disabled
  | pending
  | loading
  | active
  | failed
  | unloading
  deriving DecidableEq, Repr

/-- `fmt::Display for PluginFiberPhase`. -/
def PluginFiberPhase.name : PluginFiberPhase → String
  | disabled => "disabled"
  | pending => "pending"
  | loading => "loading"
  | active => "active"
  | failed => "failed"
  | unloading => "unloading"

structure PluginInventoryEntry where
  entryId : String
  moduleName : String
  enabled : Bool
  fiberPhase : Option PluginFiberPhase

/-- The entry as the browser sees it: a disabled plugin has no phase. -/
def PluginInventoryEntry.toJson (entry : PluginInventoryEntry) : Value :=
  .object [("enabled", .bool entry.enabled), ("entryId", .string entry.entryId),
    ("fiberPhase", match entry.fiberPhase with
      | none | some .disabled => .null
      | some phase => .string phase.name),
    ("moduleName", .string entry.moduleName)]

structure GatewayStatus where
  kernel : String
  plugin : String
  protocolReady : Bool
  plugins : Nat
  capabilities : Nat
  failedPlugins : Nat
  provider : Option String
  model : Option String

namespace GatewayStatus

/-- The summary that `GatewayStatus::new` computes. -/
def status (status : GatewayStatus) : String :=
  if status.kernel = "running" ∧ status.protocolReady = true then "ok" else "degraded"

def toJson (status : GatewayStatus) : Value :=
  .object ([("capabilities", .ofNat status.capabilities),
    ("failedPlugins", .ofNat status.failedPlugins), ("kernel", .string status.kernel)] ++
    optionalMember "model" (status.model.map .string) ++
    [("plugin", .string status.plugin), ("plugins", .ofNat status.plugins),
      ("protocolReady", .bool status.protocolReady)] ++
    optionalMember "provider" (status.provider.map .string) ++
    [("status", .string status.status)])

end GatewayStatus

structure GatewaySessionSummary where
  sessionId : String
  updatedAt : UInt64
  running : Bool
  blank : Bool
  parentSessionId : Option String
  origin : Option String
  cwd : Option String

def GatewaySessionSummary.toJson (summary : GatewaySessionSummary) : Value :=
  .object ([("blank", .bool summary.blank)] ++
    optionalMember "cwd" (summary.cwd.map .string) ++
    optionalMember "origin" (summary.origin.map .string) ++
    optionalMember "parentSessionId" (summary.parentSessionId.map .string) ++
    [("running", .bool summary.running), ("sessionId", .string summary.sessionId),
      ("updatedAt", .ofNat summary.updatedAt.toNat)])

structure GatewayProjection where
  status : GatewayStatus
  inventory : List PluginInventoryEntry
  sessions : List GatewaySessionSummary
  cwd : String
  home : String

/-- `dsh_inventory`. -/
def GatewayProjection.dshInventory (projection : GatewayProjection) : Value :=
  .object [("entries", .array (projection.inventory.map PluginInventoryEntry.toJson))]

/-- `civil_date_from_days`: year, month and day of a day since the epoch. -/
def civilDateFromDays (daysSinceEpoch : Int) : Int × Int × Int :=
  let days := daysSinceEpoch + 719468
  let era := (if days ≥ 0 then days else days - 146096).tdiv 146097
  let dayOfEra := days - era * 146097
  let yearOfEra := (dayOfEra - dayOfEra.tdiv 1460 + dayOfEra.tdiv 36524 -
    dayOfEra.tdiv 146096).tdiv 365
  let year := yearOfEra + era * 400
  let dayOfYear := dayOfEra - (365 * yearOfEra + yearOfEra.tdiv 4 - yearOfEra.tdiv 100)
  let monthPrime := (5 * dayOfYear + 2).tdiv 153
  let day := dayOfYear - (153 * monthPrime + 2).tdiv 5 + 1
  let month := monthPrime + if monthPrime < 10 then 3 else -9
  (if month ≤ 2 then year + 1 else year, month, day)

/-- A number with leading zeros up to a width. -/
def padded (width : Nat) (number : Int) : String :=
  String.ofList ((toString number).toList.leftpad width '0')

/-- `unix_millis_rfc3339`. -/
def unixMillisRfc3339 (millis : UInt64) : String :=
  let seconds := millis.toNat / 1000
  let (year, month, day) := civilDateFromDays (seconds / 86400)
  let secondsOfDay := seconds % 86400
  padded 4 year ++ "-" ++ padded 2 month ++ "-" ++ padded 2 day ++ "T" ++
    padded 2 (secondsOfDay / 3600) ++ ":" ++ padded 2 (secondsOfDay % 3600 / 60) ++ ":" ++
    padded 2 (secondsOfDay % 60) ++ "." ++ padded 3 (millis.toNat % 1000) ++ "Z"

example : unixMillisRfc3339 0 = "1970-01-01T00:00:00.000Z" := by decide

end WebGateway
end YunXi
