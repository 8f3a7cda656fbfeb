import NftProbe.Contract.Calls
import NftProbe.Json.Read
import NftProbe.ErrorChain
import NftProbe.Files
import NftProbe.Hex
import NftProbe.Text.Whitespace

/-!
# Contract artifacts

The contract to deploy comes from an artifact: a JSON file of a build tool, whose `bytecode`
is a hex string or an object with the hex string under `object`, and whose `contractName` is
optional; or any other file holding the hex of the init code. An artifact with no init code is
refused.
-/

set_option autoImplicit false

namespace NftProbe.Contract

/-- A contract to deploy: its name and its init code. -/
structure Artifact where
  contractName : String
  bytecode : Bytes
deriving DecidableEq, Repr

namespace Artifact

/-- Decodes init code, as an error chain. -/
def decodeBytecode (text : String) : Except ErrorChain Bytes :=
  match Hex.decodePrefixed text with
  | .ok bytes => .ok bytes
  | .error error =>
    .error ((ErrorChain.root (Abi.AbiError.invalidHex error.message).message).context
      "Invalid bytecode hex")

/-- The artifact of a build tool's JSON output. -/
def ofJson (content : String) : Except ErrorChain Artifact := do
  let value ← match Json.parse content with
    | .ok value => pure value
    | .error error =>
      throw ((ErrorChain.root error.message).context "Error while parsing artifact JSON")
  let bytecode ← match value.field "bytecode" with
    | .string text => pure text
    | .object members =>
      match (Json.object members).field "object" with
      | .string text => pure text
      | _ => throw (ErrorChain.root "Artifact bytecode object has no 'object' field")
    | _ => throw (ErrorChain.root "Artifact has no bytecode")
  let contractName := match value.field "contractName" with
    | .string name => name
    | _ => defaultContractName
  pure { contractName, bytecode := ← decodeBytecode bytecode }

/-- The extension of the last component of a path, if it has one. -/
def extension? (path : String) : Option String :=
  let name := ((path.splitOn "/").getLast?).getD ""
  match name.splitOn "." with
  | [] | [_] => none
  | parts =>
    if name = ".." || parts.dropLast = [""] then none else parts.getLast?

/-- Loads an artifact from a file: JSON when its extension is `json`, hex text otherwise. -/
def load (fs : FileSystem) (path : String) : Except ErrorChain Artifact := do
  let content ← match fs.read path with
    | .ok content => pure content
    | .error error =>
      throw ((ErrorChain.root error.message).context ("Error while reading artifact " ++ path))
  let artifact ← if extension? path = some "json" then ofJson content
    else do
      let bytecode ← decodeBytecode (Text.trimWhitespace content)
      pure { contractName := defaultContractName, bytecode }
  if artifact.bytecode.isEmpty then
    throw (ErrorChain.root ("Artifact " ++ path ++ " has empty bytecode"))
  pure artifact

end Artifact

end NftProbe.Contract
