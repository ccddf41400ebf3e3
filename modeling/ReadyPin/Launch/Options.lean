import ReadyPin.Launch.Log
import ReadyPin.Service.Http

/-!
# Options

What can be set when the program starts: each option has a name on the command line and a variable in the environment,
and a default for when neither is given.

In the program: `Args`.
-/

namespace ReadyPin

/-- The options. -/
inductive OptionKey where
  | driverName
  | addr
  | metricsAddr
  | maxBodySize
  | logLevel
  | logJson
  deriving Repr, DecidableEq

namespace OptionKey

/-- All options in their order. -/
def keys : List OptionKey := [.driverName, .addr, .metricsAddr, .maxBodySize, .logLevel, .logJson]

/-- The name on the command line, after two dashes. -/
def long : OptionKey → String
  | .driverName => "driver-name"
  | .addr => "addr"
  | .metricsAddr => "metrics-addr"
  | .maxBodySize => "max-body-size"
  | .logLevel => "log-level"
  | .logJson => "log-json"

/-- What the value is called, for an option that takes one. -/
def valueName? : OptionKey → Option String
  | .driverName => some "DRIVER_NAME"
  | .addr => some "ADDR"
  | .metricsAddr => some "METRICS_ADDR"
  | .maxBodySize => some "MAX_BODY_SIZE"
  | .logLevel => some "LOG_LEVEL"
  | .logJson => none

/-- The variable in the environment. -/
def environmentName : OptionKey → String
  | .driverName => "DRIVER_NAME"
  | .addr => "WEBHOOK_ADDR"
  | .metricsAddr => "METRICS_ADDR"
  | .maxBodySize => "MAX_BODY_SIZE"
  | .logLevel => "LOG_LEVEL"
  | .logJson => "LOG_JSON"

/-- The value when none is given; a switch is off. -/
def default? : OptionKey → Option String
  | .driverName => some "gcs.csi.ofek.dev"
  | .addr => some "0.0.0.0:8443"
  | .metricsAddr => some "0.0.0.0:8080"
  | .maxBodySize => some (toString Http.defaultBodyLimit)
  | .logLevel => some "info"
  | .logJson => none

/-- What the option is for. -/
def help : OptionKey → String
  | .driverName => "CSI driver name, matched against storage class provisioners"
  | .addr => "Webhook bind address"
  | .metricsAddr => "Metrics server bind address"
  | .maxBodySize => "Max admission review body size in bytes"
  | .logLevel => "Log level (trace, debug, info, warn, error)"
  | .logJson => "Output logs as JSON"

/-- The option as it is shown: its name, and what its value is called. -/
def shown (self : OptionKey) : String :=
  match self.valueName? with
  | some name => s!"--{self.long} <{name}>"
  | none => s!"--{self.long}"

end OptionKey

/-- The values of all options. -/
structure Options where
  driverName : String
  addr : String
  metricsAddr : String
  maxBodySize : Nat
  logLevel : String
  logJson : Bool
  deriving Repr, DecidableEq

end ReadyPin
