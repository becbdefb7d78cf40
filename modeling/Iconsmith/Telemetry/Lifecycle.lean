import Iconsmith.Log
import Iconsmith.Telemetry.KeyValues

set_option autoImplicit false

/-!
# The life of telemetry

Telemetry has two providers, one for traces and one for metrics, which are
installed together and shut down together. A step gives the state after it, the
calls it makes and the records it logs.
-/

namespace Iconsmith.Telemetry

/-- The settings of telemetry. Exporting needs an endpoint. -/
structure Settings where
  serviceName : Text
  serviceVersion : Text
  endpoint : Text
  headers : Text
  resourceAttributes : Text
  deriving DecidableEq

/-- The variables that make settings of telemetry. -/
def Settings.variableNames : List String :=
  ["OTEL_SERVICE_NAME", "OTEL_SERVICE_VERSION", "OTEL_EXPORTER_OTLP_ENDPOINT",
    "OTEL_EXPORTER_OTLP_HEADERS", "OTEL_RESOURCE_ATTRIBUTES"]

/-- The settings of an environment. -/
def Settings.ofEnvironment (lookup? : Text → Option Text) : Settings :=
  let text := fun (name standard : String) => (lookup? name.toList).getD standard.toList
  { serviceName := text "OTEL_SERVICE_NAME" "phosphor-elm-generator"
    serviceVersion := text "OTEL_SERVICE_VERSION" "unknown"
    endpoint := text "OTEL_EXPORTER_OTLP_ENDPOINT" ""
    headers := text "OTEL_EXPORTER_OTLP_HEADERS" ""
    resourceAttributes := text "OTEL_RESOURCE_ATTRIBUTES" "" }

/-- The settings that hold unless others are made. -/
def Settings.standard : Settings := Settings.ofEnvironment fun _ => none

/-- Which providers are installed. -/
structure State where
  tracer : Bool
  meter : Bool
  deriving DecidableEq

/-- The state in which nothing is installed. -/
def State.fresh : State := ⟨false, false⟩

/-- A call to the telemetry library. -/
inductive Call where
  | makeTracer (resource : Table Text Text)
  | makeSpanExporter (url : Text) (headers : Table Text Text)
  | makeSpanProcessor
  | addSpanProcessor
  | makeMetricExporter (url : Text) (headers : Table Text Text)
  | makeMetricReader
  | makeMeter (resource : Table Text Text) (exporting : Bool)
  | installTracer
  | installMeter
  | shutDownTracer
  | shutDownMeter
  deriving DecidableEq

/-- What a step does. -/
structure Step where
  state : State
  calls : List Call
  logs : List Log.Record
  deriving DecidableEq

/-! ## Starting -/

/-- What the telemetry is about: the service, and the attributes that are set. -/
def resource (s : Settings) : Table Text Text :=
  (Table.ofList [("service.name".toList, s.serviceName),
    ("service.version".toList, s.serviceVersion)]).update (keyValues s.resourceAttributes)

/-- The calls that set up the export of traces. -/
def spanExport (s : Settings) : List Call :=
  [.makeSpanExporter (s.endpoint ++ "/v1/traces".toList) (keyValues s.headers),
    .makeSpanProcessor, .addSpanProcessor]

/-- The calls that set up the export of metrics. -/
def metricExport (s : Settings) : List Call :=
  [.makeMetricExporter (s.endpoint ++ "/v1/metrics".toList) (keyValues s.headers),
    .makeMetricReader]

/-- The records of a start. -/
def startLogs (s : Settings) : List Log.Record :=
  if s.endpoint = [] then
    [⟨.debug, .telemetry, "OpenTelemetry initialized without exporters".toList⟩]
  else
    [⟨.info, .telemetry, "OpenTelemetry initialized for service: ".toList ++ s.serviceName ++
        " (version: ".toList ++ s.serviceVersion ++ [')']⟩,
      ⟨.info, .telemetry, "OTLP endpoint: ".toList ++ s.endpoint⟩]

/-- Installs the providers, unless they are installed. -/
def start (s : Settings) (state : State) : Step :=
  if state.tracer then ⟨state, [], []⟩
  else
    let exporting := s.endpoint ≠ []
    ⟨⟨true, true⟩,
      .makeTracer (resource s) :: (if exporting then spanExport s ++ metricExport s else []) ++
        [.makeMeter (resource s) exporting, .installTracer, .installMeter],
      startLogs s⟩

/-! ## Stopping -/

/-- The record of a stop. -/
def stopLog : Log.Record := ⟨.info, .telemetry, "OpenTelemetry shutdown complete".toList⟩

/-- Shuts down the providers that are installed. -/
def stop (state : State) : Step :=
  ⟨State.fresh,
    (if state.tracer then [.shutDownTracer] else []) ++
      (if state.meter then [.shutDownMeter] else []),
    [stopLog]⟩

end Iconsmith.Telemetry
