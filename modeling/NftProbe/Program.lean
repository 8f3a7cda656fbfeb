import NftProbe.Cli.Parse
import NftProbe.Client.Rpc
import NftProbe.Sim.Chain
import NftProbe.Run.Orchestrator
import NftProbe.Contract.Artifact
import NftProbe.Poc

/-!
# The program

One run of `orbit-harness`, as a function of its arguments, the files below its working
directory and the node it may talk to. It answers with the exit code, what it printed to
standard output and standard error, and the files after the run.

The steps:

* The command line is read. Help and version requests print their text and succeed; mistakes
  print the error and exit with 2.
* With `--config-file` and `--generate-config-template`, the settings are written to the file
  as pretty JSON, unless the file exists. With `--config-file` alone, the settings are read from
  the file; only the subcommand is kept from the command line. `--generate-config-template`
  alone only prints a reminder.
* Log records at or above the configured level go to standard error as `LEVEL message`.
* `validate-poc` prints the proof-of-concept profile. `deploy` and `test` pick the chain (the
  simulated one or the node), load the artifact, run the workflow, log a summary, save the
  report if asked, and exit with 1 when the report does not pass the exit policy.
* A failure of the program itself prints `Error: ` and its causes, and exits with 1.
-/

set_option autoImplicit false

namespace NftProbe.Program

open Config Run Contract

/-- What a run of the program left behind. -/
structure Exit where
  code : Nat
  stdout : String := ""
  stderr : List String := []
  files : FileSystem

/-- The lines of a text, without the empty line after a final newline. -/
def textLines (text : String) : List String :=
  match (text.splitOn "\n").reverse with
  | "" :: rest => rest.reverse
  | lines => lines.reverse

/-- The program's version. -/
def version : String := "0.1.0-unknown"

/-- A node to talk to: how requests reach it and its state. -/
structure Node (ν : Type) where
  transport : Rpc.Transport ν
  state : ν

/-- The settings after the settings file: ready to run, or the run is already over. -/
inductive Loaded
  | ready (settings : Settings)
  | finished (exit : Exit)
  | failed (chain : ErrorChain)

/-- Applies `--config-file` and `--generate-config-template`. -/
def loadSettings (settings : Settings) (fs : FileSystem) : Loaded :=
  match settings.configFile, settings.generateConfigTemplate with
  | some path, true =>
    if fs.exists? path then
      .finished { code := 0, stderr := ["Config file already exists at " ++ path], files := fs }
    else
      match fs.write path settings.toJson.pretty with
      | .ok fs =>
        .finished
          { code := 0, stdout := "Config file template generated at " ++ path ++ "\n",
            files := fs }
      | .error error =>
        .failed ((ErrorChain.root error.message).context "Error while creating config file")
  | some path, false =>
    match fs.openRead path with
    | .error error =>
      .failed ((ErrorChain.root error.message).context "Error while opening config file")
    | .ok .directory =>
      .failed ((ErrorChain.root FileError.isDirectory.message).context
        "Error while reading config file")
    | .ok (.file content) =>
      match Settings.readFile content with
      | .ok loaded => .ready { loaded with command := settings.command }
      | .error error =>
        .failed ((ErrorChain.root error.message).context "Error while reading config file")
  | none, true =>
    .finished
      { code := 0,
        stderr := ["Provided config file path is required to generate the template with " ++
          "--config-file"],
        files := fs }
  | none, false => .ready settings

/-- A run of a workflow: the exit code and the files, or a failure of the program with the
files as they are. -/
abbrev Outcome := Except (ErrorChain × FileSystem) (Nat × FileSystem)

/-- Logs the summary, saves the report if asked, and checks it against the exit policy. -/
def finish (harness : HarnessConfig) (report : Report) (fs : FileSystem) : Logged Outcome := do
  report.logSummary
  let saved : Except ErrorChain FileSystem ← match harness.report with
    | none => pure (.ok fs)
    | some path =>
      match ← report.save fs path with
      | .ok fs =>
        emit .info ("Report written to " ++ path)
        pure (.ok fs)
      | .error chain => pure (.error (chain.context ("Error while saving report to " ++ path)))
  match saved with
  | .error chain => pure (.error (chain, fs))
  | .ok fs =>
    if report.passes harness.exitPolicy then pure (.ok (0, fs))
    else
      emit .error ("Run " ++ report.runId ++ " failed (" ++ harness.exitPolicy.title ++
        " exit policy)")
      pure (.ok (1, fs))

/-- Loads the artifact to deploy: the file named, the demonstration bytecode on the simulated
chain, and otherwise a failure. -/
def artifactFor (harness : HarnessConfig) (fs : FileSystem) : Except ErrorChain Artifact :=
  match harness.artifact, harness.simulate with
  | some path, _ => withContext ("Error while loading artifact " ++ path) (Artifact.load fs path)
  | none, true => .ok { contractName := defaultContractName, bytecode := Sim.demoBytecode }
  | none, false => .error (ErrorChain.root "--artifact is required when running against a node")

/-- Runs a workflow with a client and finishes. -/
def runWith {σ : Type} (harness : HarnessConfig) (client : Client σ) (state : σ)
    (workflow : Workflow) (runId : String) (artifact : Artifact) (fs : FileSystem) :
    Logged Outcome := do
  let orchestrator : Orchestrator σ :=
    { client, expectations := harness.expectations.toExpectations,
      demoMints := harness.demoMints }
  let (_, context) ← orchestrator.runWorkflow workflow runId "" artifact state
  finish harness (Report.ofContext context "") fs

/-- Runs `deploy` or `test`. -/
def perform {ν : Type} (node : Node ν) (runId : String) (harness : HarnessConfig)
    (workflow : Workflow) (fs : FileSystem) : Logged Outcome := do
  emit .info ("Orbit harness v" ++ version)
  emit .info ("Network profile:    " ++ harness.network.name)
  emit .info ("Expected chain id:  " ++ toString harness.expectations.expectedChainId)
  if harness.simulate then
    let config : Sim.Config := {}
    let config := match harness.simulatedChainId with
      | some chainId => { config with chainId }
      | none => config
    emit .info ("Using simulated L3 (chain id " ++ toString config.chainId ++ ")")
    match artifactFor harness fs with
    | .error chain => pure (.error (chain, fs))
    | .ok artifact =>
      runWith harness Sim.client (Sim.Chain.create config) workflow runId artifact fs
  else
    let url := harness.endpoint
    emit .info ("RPC endpoint:       " ++ url)
    match artifactFor harness fs with
    | .error chain => pure (.error (chain, fs))
    | .ok artifact =>
      let client : Rpc.RpcClient ν :=
        { url, node := node.state, inclusionTimeoutMs := harness.inclusionTimeoutMs,
          pollIntervalMs := harness.pollIntervalMs }
      runWith harness (Rpc.client node.transport) client workflow runId artifact fs

/-- Runs the settings' command once the log level is known. -/
def execute {ν : Type} (node : Node ν) (runId : String) (settings : Settings)
    (fs : FileSystem) : Exit :=
  let shown (records : Array LogRecord) : List String :=
    (records.toList.filter fun record => settings.log.levelFilter.shows record.level).map
      LogRecord.render
  let workflow := match settings.command with
    | .deploy => some Workflow.deploy
    | .test => some Workflow.test
    | .validatePoc _ => none
  match settings.command, workflow with
  | .validatePoc json, _ =>
    let profile := PocProfile.bunkerverse
    { code := 0, stdout := (if json then profile.toJson.pretty else profile.render) ++ "\n",
      files := fs }
  | _, none => { code := 0, files := fs }
  | _, some workflow =>
    match (perform node runId settings.harness workflow fs).run #[] with
    | .error overflow =>
      { code := 101, stderr := ["thread 'main' panicked: " ++ overflow.message], files := fs }
    | .ok (.ok (code, fs), records) => { code, stderr := shown records, files := fs }
    | .ok (.error (chain, fs), records) =>
      { code := 1, stderr := shown records ++ chain.reportLines, files := fs }

/-- One run of the program with its arguments (without the program's name), a run id, the
node it may talk to and the files below its working directory. -/
def run {ν : Type} (node : Node ν) (runId : String) (args : List String) (fs : FileSystem) :
    Exit :=
  match Cli.parseCommandLine args with
  | .error error =>
    if error.toStdout then { code := error.exitCode, stdout := error.text, files := fs }
    else { code := error.exitCode, stderr := textLines error.text, files := fs }
  | .ok settings =>
    match loadSettings settings fs with
    | .finished exit => exit
    | .failed chain => { code := 1, stderr := chain.reportLines, files := fs }
    | .ready settings => execute node runId settings fs

end NftProbe.Program
