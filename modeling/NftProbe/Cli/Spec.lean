import NftProbe.Config.Settings
import NftProbe.Text.Whitespace

/-!
# The command line, described

The program is `orbit-harness`. It takes options, then one subcommand: `deploy`, `test`,
`validate-poc` or `help`. Each option has a long name, sometimes a one-letter name, and either
takes one value or is a switch. A value is free text, an unsigned 64-bit number, or one of a
fixed set of names.

From the description come the help texts and the usage lines the program prints. The option
table below is the whole of the command line's grammar: parsing reads nothing else.
-/

set_option autoImplicit false

namespace NftProbe.Cli

open Config Text

/-- What an option's value may be. -/
inductive ValueKind
  | text
  | count
  | choice (names : List String)
deriving DecidableEq, Repr

/-- What an option does when it appears. -/
inductive Role
  /-- Takes one value, shown in help as `<name>`. -/
  | value (name : String) (kind : ValueKind)
  /-- Turns something on. -/
  | switch
  /-- Asks for the help text. -/
  | help
  /-- Asks for the version. -/
  | version
deriving DecidableEq, Repr

/-- One option of a command. -/
structure OptionSpec where
  id : String
  long : String
  short : Option Char := none
  role : Role
  help : String
  defaults : List String := []
  /-- Whether a value is split at commas into several values. -/
  delimited : Bool := false
  /-- Whether the option may appear more than once, its values accumulating. -/
  repeated : Bool := false
deriving DecidableEq, Repr

namespace OptionSpec

/-- The kind of value the option takes, if it takes one. -/
def valueKind? (spec : OptionSpec) : Option ValueKind :=
  match spec.role with
  | .value _ kind => some kind
  | _ => none

/-- Whether the option takes a value. -/
def takesValue (spec : OptionSpec) : Bool :=
  spec.valueKind?.isSome

/-- The option as errors and usage lines show it: `--network <NETWORK>`. -/
def display (spec : OptionSpec) : String :=
  match spec.role with
  | .value name _ => "--" ++ spec.long ++ " <" ++ name ++ ">"
  | _ => "--" ++ spec.long

/-- The names the option's value may take, when they are fixed. -/
def possibleValues (spec : OptionSpec) : List String :=
  match spec.valueKind? with
  | some (.choice names) => names
  | _ => []

/-- A value as shown in a list: quoted when it holds whitespace. -/
def showValue (value : String) : String :=
  if value.any isWhitespace then "\"" ++ value ++ "\"" else value

/-- The bracketed notes after an option's help: its defaults and its possible values. -/
def notes (spec : OptionSpec) : String :=
  let defaults :=
    if spec.takesValue && !spec.defaults.isEmpty then
      ["[default: " ++ " ".intercalate (spec.defaults.map showValue) ++ "]"]
    else []
  let possible :=
    if spec.possibleValues.isEmpty then []
    else ["[possible values: " ++ ", ".intercalate (spec.possibleValues.map showValue) ++ "]"]
  " ".intercalate (defaults ++ possible)

/-- The option's help with its notes. -/
def fullHelp (spec : OptionSpec) : String :=
  if spec.notes.isEmpty then spec.help
  else if spec.help.isEmpty then spec.notes
  else spec.help ++ " " ++ spec.notes

/-- The option's names as the help lists them: `-v, --verbose` or `    --rpc-url <RPC_URL>`. -/
def heading (spec : OptionSpec) : String :=
  (match spec.short with
    | some c => "-" ++ c.toString ++ ", "
    | none => "    ") ++ spec.display

end OptionSpec

/-- A command: the name its usage line starts with, what it does, its options and its
subcommands with what they do. -/
structure CommandSpec where
  usageName : String
  about : String
  options : List OptionSpec
  subcommands : List (String × String) := []
deriving DecidableEq, Repr

namespace CommandSpec

/-- The option with a long name. -/
def findLong? (spec : CommandSpec) (name : String) : Option OptionSpec :=
  spec.options.find? (·.long == name)

/-- The option with a one-letter name. -/
def findShort? (spec : CommandSpec) (c : Char) : Option OptionSpec :=
  spec.options.find? (·.short == some c)

/-- The option with an id. -/
def find? (spec : CommandSpec) (id : String) : Option OptionSpec :=
  spec.options.find? (·.id == id)

/-- Every long name, in order. -/
def longs (spec : CommandSpec) : List String :=
  spec.options.map (·.long)

/-- The names of the subcommands. -/
def subcommandNames (spec : CommandSpec) : List String :=
  spec.subcommands.map (·.1)

/-- Whether the command has options other than help and version. -/
def hasOptions (spec : CommandSpec) : Bool :=
  spec.options.any fun option => option.role != .help && option.role != .version

/-- The usage line of the command, without the `Usage: ` title. -/
def usage (spec : CommandSpec) : String :=
  spec.usageName ++ (if spec.hasOptions then " [OPTIONS]" else "") ++
    (if spec.subcommands.isEmpty then "" else " <COMMAND>")

/-- The usage line naming the options given so far. -/
def usageWith (spec : CommandSpec) (used : List String) : String :=
  if used.isEmpty then spec.usage
  else
    let shown := used.filterMap fun id => (spec.find? id).map OptionSpec.display
    " ".intercalate (spec.usageName :: shown) ++
      (if spec.subcommands.isEmpty then "" else " <COMMAND>")

/-- A run of spaces. -/
def spaces (n : Nat) : String :=
  String.ofList (List.replicate n ' ')

/-- The width of the widest option heading. -/
def headingWidth (spec : CommandSpec) : Nat :=
  spec.options.foldl (fun width option => max width option.heading.length) 2

/-- Whether the option help goes on the line below each option: when the headings take over
two fifths of a 100-column line and some help does not fit beside them. -/
def helpBelow (spec : CommandSpec) : Bool :=
  let taken := spec.headingWidth + 4
  taken ≤ 100 && 40 < taken &&
    spec.options.any fun option => 100 - taken < option.fullHelp.length

/-- The lines of the options section. -/
def optionLines (spec : CommandSpec) : List String :=
  let width := spec.headingWidth
  if spec.helpBelow then
    spec.options.map fun option =>
      "  " ++ option.heading ++ "\n" ++ spaces 10 ++ option.fullHelp
  else
    spec.options.map fun option =>
      "  " ++ option.heading ++ spaces (width + 2 - option.heading.length) ++ option.fullHelp

/-- The lines of the subcommands section. -/
def commandLines (spec : CommandSpec) : List String :=
  let width := spec.subcommands.foldl (fun width entry => max width entry.1.length) 0
  spec.subcommands.map fun (name, about) =>
    "  " ++ name ++ spaces (width + 2 - name.length) ++ about

/-- The help text of the command. -/
def helpText (spec : CommandSpec) : String :=
  let commands :=
    if spec.subcommands.isEmpty then []
    else ["Commands:\n" ++ "\n".intercalate spec.commandLines]
  let options :=
    if spec.options.isEmpty then [] else ["Options:\n" ++ "\n".intercalate spec.optionLines]
  "\n\n".intercalate ([spec.about, "Usage: " ++ spec.usage] ++ commands ++ options) ++ "\n"

end CommandSpec

/-- The program's name. -/
def programName : String := "orbit-harness"

/-- The program's version line. -/
def versionText : String := programName ++ " 0.1.0-unknown\n"

/-- The option asking for help. -/
def helpOption : OptionSpec :=
  { id := "help", long := "help", short := some 'h', role := .help, help := "Print help" }

/-- The option asking for the version. -/
def versionOption : OptionSpec :=
  { id := "version", long := "version", short := some 'V', role := .version,
    help := "Print version" }

/-- An option taking free text. -/
def textOption (id long name help : String) (defaults : List String := []) : OptionSpec :=
  { id, long, role := .value name .text, help, defaults }

/-- An option taking a number. -/
def countOption (id long name help : String) (defaults : List String := []) : OptionSpec :=
  { id, long, role := .value name .count, help, defaults }

/-- The options of the program itself. -/
def programOptions : List OptionSpec := [
  textOption "rpc_url" "rpc-url" "RPC_URL"
    "JSON-RPC endpoint, defaults to the selected network's endpoint",
  { id := "network", long := "network",
    role := .value "NETWORK" (.choice (Network.all.map Network.name)),
    help := "Network profile", defaults := [Network.bunkerverseL3.name] },
  { id := "simulate", long := "simulate", role := .switch,
    help := "Run against the in-process simulated L3 instead of a node" },
  countOption "simulated_chain_id" "simulated-chain-id" "SIMULATED_CHAIN_ID"
    "Chain id of the simulated chain (defaults to the expected chain id)",
  textOption "artifact" "artifact" "ARTIFACT"
    "Compiled contract: Hardhat/Foundry JSON artifact or raw hex bytecode",
  textOption "report" "report" "REPORT" "Write the run report as JSON to this path",
  countOption "expected_chain_id" "expected-chain-id" "EXPECTED_CHAIN_ID"
    "Chain id the target chain must report before any mint or transfer"
    [toString expectedChainId],
  textOption "expected_name" "expected-name" "EXPECTED_NAME" "Expected contract name"
    [expectedContractName],
  textOption "expected_symbol" "expected-symbol" "EXPECTED_SYMBOL" "Expected contract symbol"
    [expectedContractSymbol],
  textOption "expected_version" "expected-version" "EXPECTED_VERSION"
    "Expected contract version" [expectedContractVersion],
  textOption "expected_chain_name" "expected-chain-name" "EXPECTED_CHAIN_NAME"
    "Expected chain name reported by the contract" [expectedChainName],
  countOption "min_gas_limit" "min-gas-limit" "MIN_GAS_LIMIT"
    "Minimum block gas limit, reported as a mismatch when not met",
  countOption "inclusion_timeout_ms" "inclusion-timeout-ms" "INCLUSION_TIMEOUT_MS"
    "How long to wait for a transaction to be included" [toString defaultInclusionTimeoutMs],
  countOption "poll_interval_ms" "poll-interval-ms" "POLL_INTERVAL_MS"
    "Receipt polling interval" [toString defaultPollIntervalMs],
  textOption "single_mint_uri" "single-mint-uri" "SINGLE_MINT_URI"
    "Token URI of the single demonstration mint" [demoSingleMintUri],
  { textOption "batch_mint_uris" "batch-mint-uris" "BATCH_MINT_URIS"
      "Token URIs of the batch demonstration mint, comma separated" demoBatchMintUris with
    delimited := true, repeated := true },
  { id := "exit_policy", long := "exit-policy",
    role := .value "EXIT_POLICY" (.choice ["fatal-only", "strict"]),
    help := "Whether non-fatal mismatches also produce a non-zero exit code",
    defaults := ["fatal-only"] },
  { id := "log_level", long := "log-level",
    role := .value "LOG_LEVEL" (.choice (LogLevel.all.map LogLevel.name)),
    help := "Set log level", defaults := ["info"] },
  { id := "verbose", long := "verbose", short := some 'v', role := .switch,
    help := "Shortcut for --log-level debug" },
  textOption "config_file" "config-file" "CONFIG_FILE" "JSON file to load the configuration from",
  { id := "generate_config_template", long := "generate-config-template", role := .switch,
    help := "Write the current configuration to --config-file and exit" },
  helpOption,
  versionOption]

/-- What `deploy` does. -/
def deployAbout : String := "Deploy the contract, verify the L3 chain and validate its metadata"

/-- What `test` does. -/
def testAbout : String := "Full workflow: deploy, verify, mint, transfer and validate"

/-- What `validate-poc` does. -/
def validatePocAbout : String := "Print the Bunkerverse L3 proof-of-concept profile"

/-- What `help` does. -/
def helpAbout : String := "Print this message or the help of the given subcommand(s)"

/-- The program's command. -/
def programCommand : CommandSpec :=
  { usageName := programName,
    about := "Bunkerverse Orbit L3 NFT deployment and validation harness",
    options := programOptions,
    subcommands := [("deploy", deployAbout), ("test", testAbout),
      ("validate-poc", validatePocAbout), ("help", helpAbout)] }

/-- A subcommand of the program, by name; `help` is not among them, since it takes names
rather than options. -/
def subcommand? : String → Option CommandSpec
  | "deploy" =>
    some { usageName := programName ++ " deploy", about := deployAbout, options := [helpOption] }
  | "test" =>
    some { usageName := programName ++ " test", about := testAbout, options := [helpOption] }
  | "validate-poc" =>
    some
      { usageName := programName ++ " validate-poc", about := validatePocAbout,
        options := [
          { id := "json", long := "json", role := .switch, help := "Print the profile as JSON" },
          helpOption] }
  | _ => none

/-- The usage line of the `help` subcommand. -/
def helpCommandUsage : String := programName ++ " help [COMMAND]..."

/-- The help text of the `help` subcommand. -/
def helpCommandText : String :=
  helpAbout ++ "\n\nUsage: " ++ helpCommandUsage ++
    "\n\nArguments:\n  [COMMAND]...  Print help for the subcommand(s)\n"

end NftProbe.Cli
