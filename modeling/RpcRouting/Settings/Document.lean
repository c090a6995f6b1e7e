import RpcRouting.Settings.Settings

namespace RpcRouting

open Document
open Wire Wire.Reader

-- How settings are read and written. Whatever is missing has its default.

def Locality.read : Reader Locality := fun v => do
  let ms ← members? ["region", "zone", "sub_zone"] v
  return ⟨← field ms "region" text "", ← field ms "zone" text "", ← field ms "sub_zone" text ""⟩

def Address.read : Reader Address := fun v => do
  let ms ← members? ["host", "port"] v
  return ⟨← field ms "host" text "", ← field ms "port" uint32 0⟩

def Node.read : Reader Node := fun v => do
  let ms ← members? ["id", "cluster", "metadata", "locality", "listening_addresses",
    "build_version", "user_agent_name", "user_agent_version", "client_features"] v
  return {
    id := ← field ms "id" text ""
    cluster := ← field ms "cluster" text ""
    metadata := ← field ms "metadata" (dict text) .empty
    locality := ← field ms "locality" (optional Locality.read) none
    listeningAddresses := ← field ms "listening_addresses" (list Address.read) []
    buildVersion := ← field ms "build_version" text ""
    userAgentName := ← field ms "user_agent_name" text ""
    userAgentVersion := ← field ms "user_agent_version" text ""
    clientFeatures := ← field ms "client_features" (list text) [] }

def ResolverSettings.read : Reader ResolverSettings := fun v => do
  let initial : ResolverSettings := {}
  let ms ← members? ["authority", "seed"] v
  return {
    authority := ← field ms "authority" text initial.authority
    seed := ← field ms "seed" (optional uint64) initial.seed }

def versionWords : List (String × ApiVersion) := [("v2", .v2), ("v3", .v3)]

def SourceSettings.read : Reader SourceSettings := fun v => do
  let initial : SourceSettings := {}
  let ms ← members? ["route_config_path", "api_version", "watch", "poll_interval_secs"] v
  return {
    routeConfigPath := ← field ms "route_config_path" (optional text) initial.routeConfigPath
    apiVersion := ← field ms "api_version" (word versionWords) initial.apiVersion
    watch := ← field ms "watch" flag initial.watch
    pollIntervalSecs := ← field ms "poll_interval_secs" uint64 initial.pollIntervalSecs }

def LogFormat.words : List (String × LogFormat) := [("pretty", .pretty), ("json", .json)]

def ObservabilitySettings.read : Reader ObservabilitySettings := fun v => do
  let initial : ObservabilitySettings := {}
  let ms ← members? ["log_level", "log_format", "metrics_enabled", "metrics_address"] v
  return {
    logLevel := ← field ms "log_level" text initial.logLevel
    logFormat := ← field ms "log_format" (word LogFormat.words) initial.logFormat
    metricsEnabled := ← field ms "metrics_enabled" flag initial.metricsEnabled
    metricsAddress := ← field ms "metrics_address" text initial.metricsAddress }

def Settings.read : Reader Settings := fun v => do
  let ms ← members? ["resolver", "source", "observability", "node"] v
  return {
    resolver := ← field ms "resolver" ResolverSettings.read {}
    source := ← field ms "source" SourceSettings.read {}
    observability := ← field ms "observability" ObservabilitySettings.read {}
    node := ← field ms "node" Node.read {} }

def Locality.write (locality : Locality) : Value :=
  .object [("region", .string locality.region), ("zone", .string locality.zone),
    ("sub_zone", .string locality.subZone)]

def Address.write (address : Address) : Value :=
  .object [("host", .string address.host), ("port", writeNat32 address.port)]

def Node.write (node : Node) : Value :=
  .object [("id", .string node.id), ("cluster", .string node.cluster),
    ("metadata", .object (node.metadata.map .string).toList),
    ("locality", writeOptional Locality.write node.locality),
    ("listening_addresses", writeList Address.write node.listeningAddresses),
    ("build_version", .string node.buildVersion),
    ("user_agent_name", .string node.userAgentName),
    ("user_agent_version", .string node.userAgentVersion),
    ("client_features", writeTexts node.clientFeatures)]

def writeNat64 (n : UInt64) : Value := .int n.toNat

def ResolverSettings.write (settings : ResolverSettings) : Value :=
  .object [("authority", .string settings.authority),
    ("seed", writeOptional writeNat64 settings.seed)]

def SourceSettings.write (settings : SourceSettings) : Value :=
  .object [("route_config_path", writeOptional .string settings.routeConfigPath),
    ("api_version", .string settings.apiVersion.text), ("watch", .bool settings.watch),
    ("poll_interval_secs", writeNat64 settings.pollIntervalSecs)]

def LogFormat.text : LogFormat → String
  | .pretty => "pretty"
  | .json => "json"

def ObservabilitySettings.write (settings : ObservabilitySettings) : Value :=
  .object [("log_level", .string settings.logLevel),
    ("log_format", .string settings.logFormat.text),
    ("metrics_enabled", .bool settings.metricsEnabled),
    ("metrics_address", .string settings.metricsAddress)]

def Settings.write (settings : Settings) : Value :=
  .object [("resolver", settings.resolver.write), ("source", settings.source.write),
    ("observability", settings.observability.write), ("node", settings.node.write)]

end RpcRouting
