import NftProbe.Cli.Spec
import NftProbe.Config.Similarity

/-!
# Reading the command line

The arguments are read left to right. A long option is `--name` or `--name=value`; a cluster
`-vh` holds one-letter switches; `--` ends the options; a word that names a subcommand starts
it, and everything after belongs to the subcommand.

An option's value is the next word, even when that word names a subcommand, unless it starts
with `-`. The value is checked only when the option is settled: at the next option, at the end,
or after the subcommand has been read. So a bad value before a
subcommand is reported after the subcommand's own mistakes, and an option given twice is
reported when its second value is settled. When a mistake is found, an unsettled value is
settled quietly, so that the mistake found first is the one reported.

Requests for help or for the version end the reading as well; they are not mistakes, and
their text goes to standard output.
-/

set_option autoImplicit false

namespace NftProbe.Cli

open Config

/-- Why reading the command line gave no settings. -/
inductive CliErrorKind
  | displayHelp
  | displayVersion
  | displayHelpOnMissingArgumentOrSubcommand
  | unknownArgument
  | invalidValue
  | valueValidation
  | invalidSubcommand
  | missingSubcommand
  | argumentConflict
  | tooManyValues
deriving DecidableEq, Repr

/-- The name of a kind. -/
def CliErrorKind.name : CliErrorKind → String
  | .displayHelp => "DisplayHelp"
  | .displayVersion => "DisplayVersion"
  | .displayHelpOnMissingArgumentOrSubcommand => "DisplayHelpOnMissingArgumentOrSubcommand"
  | .unknownArgument => "UnknownArgument"
  | .invalidValue => "InvalidValue"
  | .valueValidation => "ValueValidation"
  | .invalidSubcommand => "InvalidSubcommand"
  | .missingSubcommand => "MissingSubcommand"
  | .argumentConflict => "ArgumentConflict"
  | .tooManyValues => "TooManyValues"

/-- Why reading the command line stopped, with the text to print. -/
structure CliError where
  kind : CliErrorKind
  text : String
deriving DecidableEq, Repr

namespace CliError

/-- Whether the text goes to standard output: help and version requests do. -/
def toStdout (error : CliError) : Bool :=
  error.kind == .displayHelp || error.kind == .displayVersion

/-- The exit code: 0 for help and version requests, 2 for mistakes. -/
def exitCode (error : CliError) : Nat :=
  if error.toStdout then 0 else 2

/-- A mistake: its message, the tips, the usage line, and a pointer to the help, which only a
command with a help option gives. -/
def mistake (kind : CliErrorKind) (message : String) (tips : List String := [])
    (usage : Option String := none) (pointer : Bool := true) : CliError :=
  { kind,
    text := "error: " ++ message ++
      (if tips.isEmpty then "" else "\n" ++ String.join (tips.map ("\n  tip: " ++ ·))) ++
      (match usage with
        | some line => "\n\nUsage: " ++ line
        | none => "") ++
      (if pointer then "\n\nFor more information, try '--help'.\n" else "\n") }

/-- A list of values after a message: `\n  [possible values: a, b]`. -/
def valueList (label : String) (values : List String) : String :=
  if values.isEmpty then ""
  else "\n  [" ++ label ++ ": " ++ ", ".intercalate (values.map OptionSpec.showValue) ++ "]"

/-- The tip naming similar names. -/
def similarTip (what : String) (names : List String) : List String :=
  match names with
  | [] => []
  | [name] => ["a similar " ++ what ++ " exists: '" ++ name ++ "'"]
  | _ => ["some similar " ++ what ++ "s exist: " ++ ", ".intercalate (names.map ("'" ++ · ++ "'"))]

/-- An option given without its value. -/
def emptyValue (option : OptionSpec) : CliError :=
  mistake .invalidValue
    ("a value is required for '" ++ option.display ++ "' but none was supplied" ++
      valueList "possible values" option.possibleValues)

/-- A value outside an option's fixed names. -/
def invalidChoice (option : OptionSpec) (value : String) : CliError :=
  if value.isEmpty then emptyValue option
  else
    mistake .invalidValue
      ("invalid value '" ++ value ++ "' for '" ++ option.display ++ "'" ++
        valueList "possible values" option.possibleValues)
      (similarTip "value" ((bestMatch? value option.possibleValues).toList))

/-- A value that does not read as its option's kind. -/
def invalidNumber (option : OptionSpec) (value reason : String) : CliError :=
  mistake .valueValidation
    ("invalid value '" ++ value ++ "' for '" ++ option.display ++ "': " ++ reason)

/-- An option given twice. -/
def givenTwice (command : CommandSpec) (option : OptionSpec) : CliError :=
  mistake .argumentConflict
    ("the argument '" ++ option.display ++ "' cannot be used multiple times")
    [] (some command.usage)

end CliError

/-- A value of an option, read. -/
inductive Given
  | text (value : String)
  | count (value : Nat)
deriving DecidableEq, Repr

/-- Reads the digits of an unsigned 64-bit number left to right; the first character that is
not a digit, or the first digit that makes the number too large, is the reason it fails. -/
def readDigits : List Char → Nat → Except String Nat
  | [], value => .ok value
  | c :: rest, value =>
    if c.isDigit then
      let next := value * 10 + (c.toNat - '0'.toNat)
      if next < u64Bound then readDigits rest next
      else .error "number too large to fit in target type"
    else .error "invalid digit found in string"

/-- Reads an unsigned 64-bit number, with an optional leading `+`. -/
def readCount (text : String) : Except String Nat :=
  match text.toList with
  | [] => .error "cannot parse integer from empty string"
  | ['+'] => .error "invalid digit found in string"
  | '+' :: digits => readDigits digits 0
  | digits => readDigits digits 0

/-- Reads one value of an option. -/
def readValue (option : OptionSpec) (value : String) : Except CliError Given :=
  match option.valueKind? with
  | some .count =>
    match readCount value with
    | .ok n => .ok (.count n)
    | .error reason => .error (CliError.invalidNumber option value reason)
  | some (.choice names) =>
    if names.contains value then .ok (.text value)
    else .error (CliError.invalidChoice option value)
  | _ => .ok (.text value)

/-- Reads values in order, stopping at the first that does not read; the values read so far
are kept either way. -/
def readValues (option : OptionSpec) : List String → List Given × Option CliError
  | [] => ([], none)
  | value :: rest =>
    match readValue option value with
    | .error error => ([], some error)
    | .ok given =>
      let (more, error) := readValues option rest
      (given :: more, error)

/-- The state of reading: the options given so far with their values, in the order they
were first given, and the option whose value is not yet settled with the words taken for it. -/
structure Reading where
  given : Table String (List Given) := []
  pending : Option (OptionSpec × List String) := none

namespace Reading

/-- The ids of the options given so far. -/
def used (reading : Reading) : List String :=
  reading.given.map (·.1)

/-- Whether the pending option still waits for its value. -/
def awaitingValue (reading : Reading) : Bool :=
  match reading.pending with
  | some (_, []) => true
  | _ => false

/-- Records an occurrence of `option` with raw values `raw`: an option other than a repeated
one may occur once; a value list is split at commas when the option asks for it; then each value
is read. The reading after the attempt is returned with the mistake, if any. -/
def apply (command : CommandSpec) (option : OptionSpec) (raw : List String)
    (reading : Reading) : Reading × Option CliError :=
  if option.takesValue && raw.isEmpty then (reading, some (CliError.emptyValue option))
  else if !option.repeated && reading.given.contains option.id then
    ({ reading with given := reading.given.erase option.id },
      some (CliError.givenTwice command option))
  else
    let parts :=
      if option.delimited then raw.flatMap fun value => value.splitOn "," else raw
    let values := if option.takesValue then parts else ["true"]
    let (read, error) := readValues option values
    let earlier := (reading.given.get? option.id).getD []
    ({ reading with given := reading.given.insert option.id (earlier ++ read) }, error)

/-- Settles the pending option, if any. -/
def settle (command : CommandSpec) (reading : Reading) : Reading × Option CliError :=
  match reading.pending with
  | none => (reading, none)
  | some (option, raw) => apply command option raw { reading with pending := none }

/-- Settles the pending option, failing on a mistake. -/
def settled (command : CommandSpec) (reading : Reading) : Except CliError Reading :=
  match settle command reading with
  | (_, some error) => .error error
  | (reading, none) => .ok reading

/-- Settles the pending option quietly, keeping what was recorded. -/
def settledQuietly (command : CommandSpec) (reading : Reading) : Reading :=
  (settle command reading).1

/-- Marks an option as given, without values, if it was not: a suggested option shows in the
usage line of the mistake that suggests it. -/
def mark (id : String) (reading : Reading) : Reading :=
  if reading.given.contains id then reading
  else { reading with given := reading.given.insert id [] }

end Reading

/-- What an occurrence of an option does: a help or version request stops the reading, any
other option is recorded after the pending one is settled. -/
def react (command : CommandSpec) (option : OptionSpec) (raw : List String)
    (reading : Reading) : Except CliError Reading := do
  let reading ← reading.settled command
  match option.role with
  | .help => .error { kind := .displayHelp, text := command.helpText }
  | .version => .error { kind := .displayVersion, text := versionText }
  | _ =>
    match reading.apply command option raw with
    | (_, some error) => .error error
    | (reading, none) => .ok reading

/-- The long option similar to `name`, here or in a subcommand named later on the line. -/
def suggestLong (command : CommandSpec) (name : String) (rest : List String) :
    Option (String × Option String) :=
  match bestMatch? name command.longs with
  | some long => some (long, none)
  | none =>
    let found := command.subcommandNames.filterMap fun sub =>
      match subcommand? sub, rest.idxOf? sub with
      | some spec, some position =>
        (bestMatch? name spec.longs).map fun long => (position, long, sub)
      | _, _ => none
    let first := found.foldl
      (fun best entry =>
        match best with
        | some chosen => if entry.1 < chosen.1 then some entry else some chosen
        | none => some entry)
      none
    first.map fun (_, long, sub) => (long, some sub)

/-- An unknown long option `--name`, with the words after it. -/
def unknownLong (command : CommandSpec) (name : String) (rest : List String)
    (reading : Reading) : CliError :=
  let reading := reading.settledQuietly command
  match suggestLong command name rest with
  | some (long, none) =>
    let reading :=
      match command.findLong? long with
      | some option => reading.mark option.id
      | none => reading
    CliError.mistake .unknownArgument ("unexpected argument '--" ++ name ++ "' found")
      (CliError.similarTip "argument" ["--" ++ long])
      (some (command.usageWith reading.used))
  | some (long, some sub) =>
    CliError.mistake .unknownArgument ("unexpected argument '--" ++ name ++ "' found")
      ["'" ++ sub ++ " --" ++ long ++ "' exists"]
      (some (command.usageWith reading.used))
  | none =>
    CliError.mistake .unknownArgument ("unexpected argument '--" ++ name ++ "' found")
      [] (some (command.usageWith reading.used))

/-- A word where no value or subcommand was expected; `escaped` when it follows `--`. -/
def unexpectedWord (command : CommandSpec) (word : String) (escaped : Bool) : CliError :=
  if escaped && command.subcommandNames.contains word then
    CliError.mistake .unknownArgument ("unexpected argument '" ++ word ++ "' found")
      ["subcommand '" ++ word ++ "' exists; to use it, remove the '--' before it"]
      (some command.usage)
  else if command.subcommands.isEmpty then
    CliError.mistake .unknownArgument ("unexpected argument '" ++ word ++ "' found")
      [] (some command.usage)
  else
    CliError.mistake .invalidSubcommand ("unrecognized subcommand '" ++ word ++ "'")
      (CliError.similarTip "subcommand" (didYouMean word command.subcommandNames))
      (some command.usage)

/-- Where reading a command's words stopped. -/
inductive Stop
  /-- Every word was read. -/
  | finished (reading : Reading)
  /-- A subcommand was named; the words after it are its own. -/
  | subcommand (name : String) (rest : List String) (reading : Reading)

/-- Reads a cluster of one-letter options. -/
def readCluster (command : CommandSpec) : List Char → Reading → Except CliError Reading
  | [], reading => .ok reading
  | c :: more, reading =>
    match command.findShort? c with
    | none => .error (CliError.mistake .unknownArgument
        ("unexpected argument '-" ++ c.toString ++ "' found") [] (some command.usage))
    | some option =>
      if option.takesValue then
        let attached := match more with
          | '=' :: value => value
          | value => value
        if attached.isEmpty then do
          let reading ← reading.settled command
          .ok { reading with pending := some (option, []) }
        else react command option [String.ofList attached] reading
      else do
        let reading ← react command option [] reading
        readCluster command more reading

/-- Reads the words of a command; `escaped` once `--` has been read. -/
def readWords (command : CommandSpec) : List String → Bool → Reading → Except CliError Stop
  | [], _, reading => .ok (.finished reading)
  | word :: rest, escaped, reading =>
    if !escaped && !reading.awaitingValue && command.subcommandNames.contains word then
      .ok (.subcommand word rest reading)
    else if !escaped && word == "--" then readWords command rest true reading
    else if !escaped && word.startsWith "--" then
      let body := String.ofList (word.toList.drop 2)
      let (name, attached) :=
        match body.splitOn "=" with
        | name :: value :: more => (name, some ("=".intercalate (value :: more)))
        | _ => (body, none)
      match command.findLong? name with
      | none => .error (unknownLong command name rest reading)
      | some option =>
        match option.takesValue, attached with
        | true, some value => do
          let reading ← react command option [value] reading
          readWords command rest false reading
        | true, none => do
          let reading ← reading.settled command
          readWords command rest false { reading with pending := some (option, []) }
        | false, some value =>
          let used := reading.used ++ [option.id]
          .error (CliError.mistake .tooManyValues
            ("unexpected value '" ++ value ++ "' for '" ++ option.display ++
              "' found; no more were expected")
            [] (some (command.usageWith used)))
        | false, none => do
          let reading ← react command option [] reading
          readWords command rest false reading
    else if !escaped && word.startsWith "-" && word != "-" then do
      let reading ← readCluster command (word.toList.drop 1) reading
      readWords command rest false reading
    else if !escaped && reading.awaitingValue then
      match reading.pending with
      | some (option, _) => readWords command rest false { reading with pending := some (option, [word]) }
      | none => readWords command rest false reading
    else .error (unexpectedWord command word escaped)

/-- The `help` subcommand: the help of the command named by the words, or a mistake when a
word names no subcommand. The `help` subcommand has no subcommands, and its mistake points to
its usage, not to a help option. -/
def helpFor : CommandSpec → List String → CliError
  | command, [] => { kind := .displayHelp, text := command.helpText }
  | command, name :: rest =>
    if name == "help" && command.subcommandNames.contains "help" then
      match rest with
      | [] => { kind := .displayHelp, text := helpCommandText }
      | word :: _ =>
        CliError.mistake .invalidSubcommand ("unrecognized subcommand '" ++ word ++ "'")
          [] (some helpCommandUsage) false
    else
      match (if command.subcommandNames.contains name then subcommand? name else none) with
      | some sub => helpFor sub rest
      | none =>
        CliError.mistake .invalidSubcommand ("unrecognized subcommand '" ++ name ++ "'")
          [] (some command.usage)
termination_by _ words => words.length

/-! ## From options to settings -/

/-- The last text given for an option. -/
def lastText? (reading : Reading) (id : String) : Option String :=
  ((reading.given.get? id).getD []).reverse.findSome? fun
    | .text value => some value
    | .count _ => none

/-- The last number given for an option. -/
def lastCount? (reading : Reading) (id : String) : Option Nat :=
  ((reading.given.get? id).getD []).reverse.findSome? fun
    | .count value => some value
    | .text _ => none

/-- Every text given for an option. -/
def texts (reading : Reading) (id : String) : List String :=
  ((reading.given.get? id).getD []).filterMap fun
    | .text value => some value
    | .count _ => none

/-- Whether a switch was given. -/
def switched (reading : Reading) (id : String) : Bool :=
  reading.given.contains id

/-- The settings the options give, for a command. -/
def settingsOf (reading : Reading) (command : Command) : Settings :=
  let defaults : HarnessConfig := {}
  let expectations : ExpectationConfig := {}
  { command,
    harness :=
      { rpcUrl := lastText? reading "rpc_url",
        network := ((lastText? reading "network").bind Network.ofName?).getD defaults.network,
        simulate := switched reading "simulate",
        simulatedChainId := lastCount? reading "simulated_chain_id",
        artifact := lastText? reading "artifact",
        report := lastText? reading "report",
        expectations :=
          { expectedChainId :=
              (lastCount? reading "expected_chain_id").getD expectations.expectedChainId,
            expectedName := (lastText? reading "expected_name").getD expectations.expectedName,
            expectedSymbol :=
              (lastText? reading "expected_symbol").getD expectations.expectedSymbol,
            expectedVersion :=
              (lastText? reading "expected_version").getD expectations.expectedVersion,
            expectedChainName :=
              (lastText? reading "expected_chain_name").getD expectations.expectedChainName,
            minGasLimit := lastCount? reading "min_gas_limit" },
        inclusionTimeoutMs :=
          (lastCount? reading "inclusion_timeout_ms").getD defaults.inclusionTimeoutMs,
        pollIntervalMs := (lastCount? reading "poll_interval_ms").getD defaults.pollIntervalMs,
        singleMintUri := (lastText? reading "single_mint_uri").getD defaults.singleMintUri,
        batchMintUris :=
          if reading.given.contains "batch_mint_uris" then texts reading "batch_mint_uris"
          else defaults.batchMintUris,
        exitPolicy :=
          ((lastText? reading "exit_policy").bind Run.ExitPolicy.ofName?).getD
            defaults.exitPolicy },
    log :=
      { logLevel := ((lastText? reading "log_level").bind LogLevel.ofName?).getD .info,
        verbose := switched reading "verbose" },
    configFile := lastText? reading "config_file",
    generateConfigTemplate := switched reading "generate_config_template" }

/-- Reads a subcommand's words into its command. -/
def readSubcommand (name : String) (words : List String) : Except CliError Command := do
  let some spec := subcommand? name
    | .error (unexpectedWord programCommand name false)
  match ← readWords spec words false {} with
  | .subcommand word _ _ => .error (unexpectedWord spec word false)
  | .finished reading =>
    let reading ← reading.settled spec
    pure <| match name with
      | "deploy" => .deploy
      | "test" => .test
      | _ => .validatePoc (switched reading "json")

/-- Reads the command line (without the program's name) into settings. -/
def parseCommandLine (args : List String) : Except CliError Settings := do
  match ← readWords programCommand args false {} with
  | .subcommand "help" rest _ => .error (helpFor programCommand rest)
  | .subcommand name rest reading =>
    let command ← readSubcommand name rest
    let reading ← reading.settled programCommand
    pure (settingsOf reading command)
  | .finished reading =>
    let reading ← reading.settled programCommand
    if reading.given.isEmpty then
      .error { kind := .displayHelpOnMissingArgumentOrSubcommand, text := programCommand.helpText }
    else
      .error (CliError.mistake .missingSubcommand
        ("'" ++ programName ++ "' requires a subcommand but one was not provided" ++
          CliError.valueList "subcommands" programCommand.subcommandNames)
        [] (some programCommand.usage))

end NftProbe.Cli
