import NftProbe.Network
import NftProbe.Json.Read
import NftProbe.Run.Expectations
import NftProbe.Run.Report

/-!
# Settings

Everything a run of the program can be told: which chain to talk to (an endpoint, a network
profile, or the simulated chain), the artifact to deploy and where to write the report, what to
expect of the chain and the contract, how long to wait for inclusion, the demonstration mints,
the exit policy, and how much to log. The same settings come from the command line or from a
JSON file; the subcommand always comes from the command line.

A settings file is read against a schema: absent fields take their defaults, and a field
without a default must be present. The settings are written back as pretty JSON in the same
shape.
-/

set_option autoImplicit false

namespace NftProbe.Config

open Run

/-- The least important level of log records shown. -/
inductive LogLevel
  | off
  | error
  | warn
  | info
  | debug
  | trace
deriving DecidableEq, Repr

namespace LogLevel

/-- Every level, from none to all. -/
def all : List LogLevel := [.off, .error, .warn, .info, .debug, .trace]

/-- The lower-case name of a level. -/
def name : LogLevel → String
  | .off => "off"
  | .error => "error"
  | .warn => "warn"
  | .info => "info"
  | .debug => "debug"
  | .trace => "trace"

/-- The upper-case name of a level, as a filter. -/
def filterName : LogLevel → String
  | .off => "OFF"
  | .error => "ERROR"
  | .warn => "WARN"
  | .info => "INFO"
  | .debug => "DEBUG"
  | .trace => "TRACE"

/-- The level with a lower-case name. -/
def ofName? (text : String) : Option LogLevel :=
  all.find? (·.name == text)

/-- The rank of a level: 0 shows nothing, 5 shows everything. -/
def rank : LogLevel → Nat
  | .off => 0
  | .error => 1
  | .warn => 2
  | .info => 3
  | .debug => 4
  | .trace => 5

/-- The more verbose of two levels. -/
def max (a b : LogLevel) : LogLevel :=
  if a.rank < b.rank then b else a

/-- Whether a record of `level` is shown. -/
def shows (filter : LogLevel) (level : Level) : Bool :=
  level.rank ≤ filter.rank

end LogLevel

/-- What a run expects of the chain and the contract, as configured. -/
structure ExpectationConfig where
  expectedChainId : Nat := expectedChainId
  expectedName : String := expectedContractName
  expectedSymbol : String := expectedContractSymbol
  expectedVersion : String := expectedContractVersion
  expectedChainName : String := expectedChainName
  minGasLimit : Option Nat := none
deriving DecidableEq, Repr

/-- The expectations a run checks. -/
def ExpectationConfig.toExpectations (config : ExpectationConfig) : Expectations :=
  { chainId := config.expectedChainId, name := config.expectedName,
    symbol := config.expectedSymbol, version := config.expectedVersion,
    chainName := config.expectedChainName, minGasLimit := config.minGasLimit }

/-- The settings of a run. -/
structure HarnessConfig where
  rpcUrl : Option String := none
  network : Network := .bunkerverseL3
  simulate : Bool := false
  simulatedChainId : Option Nat := none
  artifact : Option String := none
  report : Option String := none
  expectations : ExpectationConfig := {}
  inclusionTimeoutMs : Nat := defaultInclusionTimeoutMs
  pollIntervalMs : Nat := defaultPollIntervalMs
  singleMintUri : String := demoSingleMintUri
  batchMintUris : List String := demoBatchMintUris
  exitPolicy : ExitPolicy := .fatalOnly
deriving DecidableEq, Repr

namespace HarnessConfig

/-- The endpoint to talk to: the configured one, or the network's. -/
def endpoint (config : HarnessConfig) : String :=
  config.rpcUrl.getD config.network.profile.rpcUrl

/-- The demonstration mints. -/
def demoMints (config : HarnessConfig) : DemoMints :=
  { singleUri := config.singleMintUri, batchUris := config.batchMintUris }

end HarnessConfig

/-- How much to log. -/
structure LogConfig where
  logLevel : LogLevel := .info
  verbose : Bool := false
deriving DecidableEq, Repr

/-- The level shown: the configured one, and at least debug when verbose. -/
def LogConfig.levelFilter (config : LogConfig) : LogLevel :=
  if config.verbose then LogLevel.max .debug config.logLevel else config.logLevel

/-- What the program is asked to do. -/
inductive Command
  | deploy
  | test
  | validatePoc (json : Bool)
deriving DecidableEq, Repr

/-- The name of a command. -/
def Command.name : Command → String
  | .deploy => "deploy"
  | .test => "test"
  | .validatePoc _ => "validate-poc"

/-- All settings of the program. -/
structure Settings where
  command : Command := .test
  harness : HarnessConfig := {}
  log : LogConfig := {}
  configFile : Option String := none
  generateConfigTemplate : Bool := false
deriving DecidableEq, Repr

/-! ## The JSON form -/

/-- The JSON form of the expectations. -/
def ExpectationConfig.toJson (config : ExpectationConfig) : Json :=
  .object [
    ("expected_chain_id", .nat config.expectedChainId),
    ("expected_name", .string config.expectedName),
    ("expected_symbol", .string config.expectedSymbol),
    ("expected_version", .string config.expectedVersion),
    ("expected_chain_name", .string config.expectedChainName),
    ("min_gas_limit", .optional Json.nat config.minGasLimit)]

/-- The JSON form of the run settings. -/
def HarnessConfig.toJson (config : HarnessConfig) : Json :=
  .object [
    ("rpc_url", .optional Json.string config.rpcUrl),
    ("network", .string config.network.name),
    ("simulate", .bool config.simulate),
    ("simulated_chain_id", .optional Json.nat config.simulatedChainId),
    ("artifact", .optional Json.string config.artifact),
    ("report", .optional Json.string config.report),
    ("expectations", config.expectations.toJson),
    ("inclusion_timeout_ms", .nat config.inclusionTimeoutMs),
    ("poll_interval_ms", .nat config.pollIntervalMs),
    ("single_mint_uri", .string config.singleMintUri),
    ("batch_mint_uris", .array (config.batchMintUris.map Json.string)),
    ("exit_policy", .string config.exitPolicy.name)]

/-- The JSON form of the log settings. -/
def LogConfig.toJson (config : LogConfig) : Json :=
  .object [("log_level", .string config.logLevel.name), ("verbose", .bool config.verbose)]

/-- The JSON form of the settings: the run and log settings. -/
def Settings.toJson (settings : Settings) : Json :=
  .object [("harness", settings.harness.toJson), ("log", settings.log.toJson)]

/-- The run settings with what they resolve to: the endpoint, the inclusion wait, the
demonstration mints and the expectations a run checks. -/
def HarnessConfig.resolvedJson (config : HarnessConfig) : Json :=
  .object [
    ("config", config.toJson),
    ("rpc_url", .string config.endpoint),
    ("inclusion_timeout_ms", .nat config.inclusionTimeoutMs),
    ("poll_interval_ms", .nat config.pollIntervalMs),
    ("demo_mints", config.demoMints.toJson),
    ("expectations", config.expectations.toExpectations.toJson)]

/-- The JSON form of a command: its name, and for `validate-poc` whether JSON was asked for. -/
def Command.toJson : Command → Json
  | .validatePoc json => .object [("name", .string "validate-poc"), ("json", .bool json)]
  | command => .object [("name", .string command.name)]

/-- All settings with what they resolve to, and their JSON form as a settings file. -/
def Settings.resolvedJson (settings : Settings) : Json :=
  .object [
    ("command", settings.command.toJson),
    ("harness", settings.harness.resolvedJson),
    ("log", settings.log.toJson),
    ("level_filter", .string settings.log.levelFilter.filterName),
    ("config_file", .optional Json.string settings.configFile),
    ("generate_config_template", .bool settings.generateConfigTemplate),
    ("serialized", settings.toJson)]

/-! ## Reading settings files -/

/-- The schema of the expectations; every field has a default. -/
def expectationSchema : Schema :=
  .record "ExpectationConfig" [
    ("expected_chain_id", .u64, some (.nat expectedChainId)),
    ("expected_name", .string, some (.string expectedContractName)),
    ("expected_symbol", .string, some (.string expectedContractSymbol)),
    ("expected_version", .string, some (.string expectedContractVersion)),
    ("expected_chain_name", .string, some (.string expectedChainName)),
    ("min_gas_limit", .optional .u64, some .null)]

/-- The schema of the run settings. -/
def harnessSchema : Schema :=
  .record "HarnessConfig" [
    ("rpc_url", .optional .string, none),
    ("network", .choice "Network" (Network.all.map Network.name),
      some (.string Network.bunkerverseL3.name)),
    ("simulate", .bool, some (.bool false)),
    ("simulated_chain_id", .optional .u64, some .null),
    ("artifact", .optional .string, none),
    ("report", .optional .string, none),
    ("expectations", expectationSchema, some (ExpectationConfig.toJson {})),
    ("inclusion_timeout_ms", .u64, some (.nat defaultInclusionTimeoutMs)),
    ("poll_interval_ms", .u64, some (.nat defaultPollIntervalMs)),
    ("single_mint_uri", .string, some (.string demoSingleMintUri)),
    ("batch_mint_uris", .sequence .string, some (.array (demoBatchMintUris.map Json.string))),
    ("exit_policy", .choice "ExitPolicy" ["fatal-only", "strict"], some (.string "fatal-only"))]

/-- The schema of the log settings. -/
def logSchema : Schema :=
  .record "LogConfig" [
    ("log_level", .choice "LogLevel" (LogLevel.all.map LogLevel.name), some (.string "info")),
    ("verbose", .bool, some (.bool false))]

/-- The schema of a settings file: run and log settings, both required. -/
def settingsSchema : Schema :=
  .record "Config" [("harness", harnessSchema, none), ("log", logSchema, none)]

namespace FromJson

/-- A natural number, or `fallback`. -/
def nat (value : Json) (fallback : Nat) : Nat :=
  match value with
  | .number (.nat n) => n
  | _ => fallback

/-- A string, or `fallback`. -/
def text (value : Json) (fallback : String) : String :=
  match value with
  | .string s => s
  | _ => fallback

/-- A boolean, or `fallback`. -/
def flag (value : Json) (fallback : Bool) : Bool :=
  match value with
  | .bool b => b
  | _ => fallback

/-- An optional natural number. -/
def optionalNat (value : Json) : Option Nat :=
  match value with
  | .number (.nat n) => some n
  | _ => none

/-- An optional string. -/
def optionalText (value : Json) : Option String :=
  match value with
  | .string s => some s
  | _ => none

/-- A list of strings. -/
def texts (value : Json) (fallback : List String) : List String :=
  match value with
  | .array items => items.filterMap optionalText
  | _ => fallback

end FromJson

open FromJson in
/-- The expectations of a value read against `expectationSchema`. -/
def ExpectationConfig.ofJson (value : Json) : ExpectationConfig :=
  let d : ExpectationConfig := {}
  { expectedChainId := nat (value.field "expected_chain_id") d.expectedChainId,
    expectedName := text (value.field "expected_name") d.expectedName,
    expectedSymbol := text (value.field "expected_symbol") d.expectedSymbol,
    expectedVersion := text (value.field "expected_version") d.expectedVersion,
    expectedChainName := text (value.field "expected_chain_name") d.expectedChainName,
    minGasLimit := optionalNat (value.field "min_gas_limit") }

open FromJson in
/-- The run settings of a value read against `harnessSchema`. -/
def HarnessConfig.ofJson (value : Json) : HarnessConfig :=
  let d : HarnessConfig := {}
  { rpcUrl := optionalText (value.field "rpc_url"),
    network := ((optionalText (value.field "network")).bind Network.ofName?).getD d.network,
    simulate := flag (value.field "simulate") d.simulate,
    simulatedChainId := optionalNat (value.field "simulated_chain_id"),
    artifact := optionalText (value.field "artifact"),
    report := optionalText (value.field "report"),
    expectations := ExpectationConfig.ofJson (value.field "expectations"),
    inclusionTimeoutMs := nat (value.field "inclusion_timeout_ms") d.inclusionTimeoutMs,
    pollIntervalMs := nat (value.field "poll_interval_ms") d.pollIntervalMs,
    singleMintUri := text (value.field "single_mint_uri") d.singleMintUri,
    batchMintUris := texts (value.field "batch_mint_uris") d.batchMintUris,
    exitPolicy := ((optionalText (value.field "exit_policy")).bind ExitPolicy.ofName?).getD
      d.exitPolicy }

open FromJson in
/-- The log settings of a value read against `logSchema`. -/
def LogConfig.ofJson (value : Json) : LogConfig :=
  { logLevel := ((optionalText (value.field "log_level")).bind LogLevel.ofName?).getD .info,
    verbose := flag (value.field "verbose") false }

/-- Reads run settings from a JSON text. -/
def HarnessConfig.read (text : String) : Except JsonError HarnessConfig :=
  HarnessConfig.ofJson <$> Json.readAs text harnessSchema

/-- The settings of a value read against `settingsSchema`; the command and the
command-line-only fields keep their defaults. -/
def Settings.ofJson (value : Json) : Settings :=
  { harness := HarnessConfig.ofJson (value.field "harness"),
    log := LogConfig.ofJson (value.field "log") }

/-- Reads settings from a JSON text. -/
def Settings.read (text : String) : Except JsonError Settings :=
  Settings.ofJson <$> Json.readAs text settingsSchema

/-- Reads settings from the text of a file, read as a stream: a fault is placed after the
byte the reader last looked at. -/
def Settings.readFile (text : String) : Except JsonError Settings :=
  Settings.ofJson <$> Json.readStreamAs text settingsSchema

end NftProbe.Config
