import ReadyPin.Error
import ReadyPin.Launch.Arguments
import ReadyPin.Launch.SocketAddress

/-!
# Starting and stopping

`Startup.run` goes from the command line to the point where the program connects to its cluster: the options, the
first lines of the log, and the check of the two addresses. `Startup.serviceLines` are the lines that the program
writes from there on until it is asked to end.

In the program: `main`, up to the client of the cluster, and the lines of `WebhookServer::run` and of the shutdown.
-/

namespace ReadyPin.Startup

/-! ## 1. The filter of the log -/

/-- The variable with directives for the log. -/
def filterVariable : String := "RUST_LOG"

/-- The filter of the log: the directives of the environment, and the level of the options for all other targets. -/
def logFilter (environment : Environment) (options : Options) : LogFilter :=
  (LogFilter.ofText ((environment.lookup filterVariable).getD "")).add ⟨"", .ofOption options.logLevel⟩

/-- The lines that are let through. -/
def written (environment : Environment) (options : Options) (lines : List LogLine) : List LogLine :=
  lines.filter fun l => (logFilter environment options).allows l.target l.level

/-! ## 2. From the command line to the cluster -/

/-- The first lines of the log. -/
def firstLines (options : Options) : List LogLine :=
  [ { message := "Starting Driver Ready Webhook" },
    { message := s!"  Version: {Options.versionNumber}" },
    { message := s!"  Driver: {options.driverName}" },
    { message := s!"  Webhook: {options.addr}" },
    { message := s!"  Metrics: {options.metricsAddr}" } ]

/-- The error of an address that is none. -/
def badAddress (what address : String) : Error :=
  .configuration s!"Invalid {what} address '{address}': invalid socket address syntax"

/-- Checks the addresses of the options. -/
def checkAddresses (options : Options) : Except Error Unit :=
  if !SocketAddress.isValid options.addr then .error (badAddress "webhook" options.addr)
  else if !SocketAddress.isValid options.metricsAddr then .error (badAddress "metrics" options.metricsAddr)
  else .ok ()

/-- How an error is shown when it ends the program; only those that can are named. -/
def fatal : Error → String
  | .configuration text => s!"Error: Configuration({Quoted.quote text})\n"
  | .internal text => s!"Error: Internal({Quoted.quote text})\n"
  | e => s!"Error: {e.message}\n"

/-- How far the program comes. -/
inductive Outcome where
  /-- The command line ends it. -/
  | ended (code : Nat) (output errors : String)
  /-- It has written lines to the log, and an error ends it. -/
  | failed (options : Options) (log : List LogLine) (error : Error)
  /-- It has written lines to the log and would now connect to the cluster. -/
  | ready (options : Options) (log : List LogLine)

/-- How the program ends when it does not go past the command line. -/
def stopped (environment : Environment) : Stop → Outcome
  | .help => .ended 0 (Options.help environment) ""
  | .version => .ended 0 Options.versionText ""
  | .fault fault => .ended 2 "" fault.message

/-- Starts the program. -/
def run (environment : Environment) (arguments : List String) : Outcome :=
  match Options.parse environment arguments with
  | .error stop => stopped environment stop
  | .ok options =>
    let log := written environment options (firstLines options)
    match checkAddresses options with
    | .error e => .failed options log e
    | .ok () => .ready options log

/-! ## 3. Serving -/

/-- The reason that is reported when another program listens on an address. -/
def addressTaken : String := "Address already in use (os error 98)"

/-- The error of a webhook whose address is taken. -/
def webhookAddressTaken : Error := .internal s!"Failed to bind webhook server: {addressTaken}"

/-- The error of a metrics server whose address is taken. -/
def metricsAddressTaken : Error :=
  .internal s!"Failed to bind metrics server: error creating server listener: {addressTaken}"

/-- The target of the watch on the storage classes. -/
def watcherTarget : String := "driver_ready_webhook::watcher::storage_class"

/-- The target of the webhook. -/
def serverTarget : String := "driver_ready_webhook::webhook::server"

/-- The lines from the start of the service to its orderly end; its tasks may write them in another order. The service
goes on without a metrics server if the address of that one is taken. -/
def serviceLines (options : Options) (metricsTaken : Bool) : List LogLine :=
  [ { target := watcherTarget, message := "Starting storage class watcher",
      fields := [("driver", options.driverName)] },
    { message := s!"Metrics server listening on {options.metricsAddr}" },
    { target := serverTarget, message := s!"Webhook listening on {options.addr}" } ]
  ++ (if metricsTaken then
      [{ level := .error, message := s!"Metrics server error: {metricsAddressTaken.message}" }]
    else [])
  ++ [ { message := "Received shutdown signal" },
    { target := serverTarget, message := "Webhook server shutting down" },
    { target := watcherTarget, message := "Storage class watcher shutting down" },
    { message := "Webhook shutdown complete" } ]

/-- All lines of a run that ends in order. -/
def runLines (environment : Environment) (options : Options) (metricsTaken : Bool) : List LogLine :=
  written environment options (firstLines options ++ serviceLines options metricsTaken)

end ReadyPin.Startup
