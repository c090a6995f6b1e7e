import RpcRouting.Settings.Settings
import RpcRouting.Settings.SocketAddress
import RpcRouting.Text.Quoted

namespace RpcRouting

inductive AddressFault where
  | emptyHost
  | portOutOfRange (port : UInt32)
deriving Repr, DecidableEq

-- What is wrong with settings that could be read.
inductive Violation where
  | emptyAuthority
  | zeroPollInterval
  | watchWithoutRouteConfig
  | invalidLogLevel (level : String)
  | invalidMetricsAddress (address : String)
  | invalidListeningAddress (index : Nat) (fault : AddressFault)
deriving Repr, DecidableEq

def AddressFault.message : AddressFault → String
  | .emptyHost => "host must not be empty"
  | .portOutOfRange port => "port " ++ toString port.toNat ++ " out of range"

def Violation.message : Violation → String
  | .emptyAuthority => "resolver.authority must not be empty"
  | .zeroPollInterval => "source.poll_interval_secs must be greater than 0"
  | .watchWithoutRouteConfig => "source.watch requires source.route_config_path"
  | .invalidLogLevel level =>
    "observability.log_level " ++ Text.quoted level ++
      " is not one of trace, debug, info, warn, error"
  | .invalidMetricsAddress address =>
    "observability.metrics_address " ++ Text.quoted address ++ " is not a socket address"
  | .invalidListeningAddress index fault =>
    "node.listening_addresses[" ++ toString index ++ "]: " ++ fault.message

-- The violation of a rule, if the rule is broken.
def violatedIf (broken : Bool) (violation : Violation) : List Violation :=
  if broken then [violation] else []

def isBlankText (text : String) : Bool := text.toList.all Unicode.Property.whiteSpace.contains

namespace ResolverSettings

def violations (settings : ResolverSettings) : List Violation :=
  violatedIf (isBlankText settings.authority) .emptyAuthority

end ResolverSettings

namespace SourceSettings

def violations (settings : SourceSettings) : List Violation :=
  violatedIf (settings.pollIntervalSecs == 0) .zeroPollInterval ++
    violatedIf (settings.watch && settings.routeConfigPath.isNone) .watchWithoutRouteConfig

end SourceSettings

namespace ObservabilitySettings

def logLevels : List String := ["trace", "debug", "info", "warn", "error"]

-- The address counts only where metrics are enabled.
def violations (settings : ObservabilitySettings) : List Violation :=
  violatedIf (!logLevels.contains (settings.logLevel.map Char.toLower))
      (.invalidLogLevel settings.logLevel) ++
    violatedIf (settings.metricsEnabled && (SocketAddress.parse? settings.metricsAddress).isNone)
      (.invalidMetricsAddress settings.metricsAddress)

end ObservabilitySettings

namespace Address

def maxPort : Nat := 65535

def faults (address : Address) : List AddressFault :=
  (if address.host.isEmpty then [.emptyHost] else []) ++
    (if maxPort < address.port.toNat then [.portOutOfRange address.port] else [])

-- The faults of addresses from position `index` on.
def violationsFrom : Nat → List Address → List Violation
  | _, [] => []
  | index, address :: rest =>
    address.faults.map (.invalidListeningAddress index) ++ violationsFrom (index + 1) rest

end Address

namespace Settings

-- All violations, section by section.
def violations (settings : Settings) : List Violation :=
  settings.resolver.violations ++ settings.source.violations ++
    settings.observability.violations ++
    Address.violationsFrom 0 settings.node.listeningAddresses

-- Settings are accepted without violations only. Otherwise all of them are reported.
def validate (settings : Settings) : Except (List Violation) Unit :=
  let violations := settings.violations
  if violations.isEmpty then .ok () else .error violations

end Settings

end RpcRouting
