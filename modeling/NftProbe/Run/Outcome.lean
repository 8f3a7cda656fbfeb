import NftProbe.Run.Error
import NftProbe.Json.Value
import NftProbe.Table

/-!
# Step outcomes

Every check a run makes is recorded as a `StepOutcome`, passed or not: the step's name, whether
it succeeded, details in insertion order, and for a failure the error's kind and text. A failed
outcome carries the details of its error: the expected and observed values of a mismatch, the
token of a transfer. A skipped step is a failure with no kind and the detail `skipped`.
-/

set_option autoImplicit false

namespace NftProbe.Run

/-- The record of one step or check. -/
structure StepOutcome where
  step : String
  success : Bool
  details : Table String Json := []
  error : Option ErrorKind := none
  message : Option String := none

namespace StepOutcome

/-- A step that passed. -/
def passed (step : String) : StepOutcome :=
  { step, success := true }

/-- The outcome with detail `key` set to `value`. -/
def detail (outcome : StepOutcome) (key : String) (value : Json) : StepOutcome :=
  { outcome with details := outcome.details.insert key value }

/-- A step that failed with `error`, with the details of the error. -/
def failed (step : String) (error : HarnessError) : StepOutcome :=
  let outcome : StepOutcome :=
    { step, success := false, error := some error.kind, message := some error.message }
  match error with
  | .wrongChain expected observed source =>
    (outcome.detail "expected" (.nat expected)).detail "observed" (.nat observed)
      |>.detail "source" (.string source.name)
  | .validationMismatch field expected observed =>
    (outcome.detail "field" (.string field)).detail "expected" (.string expected)
      |>.detail "observed" (.string observed)
  | .supplyInvariantViolation expected observed =>
    (outcome.detail "expected" (.nat expected)).detail "observed" (.nat observed)
  | .transferNotReflected tokenId expected observed =>
    (outcome.detail "tokenId" (.nat tokenId)).detail "expected" (.string expected.toHex)
      |>.detail "observed" (.string observed.toHex)
  | .ownerUnreadable tokenId expected reason =>
    (outcome.detail "tokenId" (.nat tokenId)).detail "expected" (.string expected.toHex)
      |>.detail "observed" (.string ("read failed: " ++ reason))
  | .transferRejected tokenId _ => outcome.detail "tokenId" (.nat tokenId)
  | _ => outcome

/-- A step that did not run because its precondition was not met. -/
def skipped (step reason : String) : StepOutcome :=
  { step, success := false, details := [("skipped", .bool true)], message := some reason }

/-- The severity of the outcome's error, if any. -/
def severity (outcome : StepOutcome) : Option Severity :=
  outcome.error.map ErrorKind.severity

/-- Whether the step was skipped. -/
def isSkipped (outcome : StepOutcome) : Bool :=
  match outcome.details.get? "skipped" with
  | some (.bool true) => true
  | _ => false

/-- The JSON form: the details, kind and text appear only when present. -/
def toJson (outcome : StepOutcome) : Json :=
  .object <|
    [("step", .string outcome.step), ("success", .bool outcome.success)] ++
    (if outcome.details.isEmpty then [] else [("details", .object outcome.details)]) ++
    (match outcome.error with | some kind => [("error", .string kind.name)] | none => []) ++
    (match outcome.message with | some text => [("message", .string text)] | none => [])

end StepOutcome

end NftProbe.Run
