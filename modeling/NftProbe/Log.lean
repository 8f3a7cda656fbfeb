import NftProbe.U64

/-!
# Log records

The program reports what it does as log records, each with a level and a message, in the
order they are emitted. Computations that log run in `Logged`, which collects the records and
may halt on an arithmetic overflow. Which records are shown is decided by whoever prints them.
-/

set_option autoImplicit false

namespace NftProbe

/-- The level of a log record, from the most to the least important. -/
inductive Level
  | error
  | warn
  | info
  | debug
  | trace
deriving DecidableEq, Repr

namespace Level

/-- The rank of a level: 1 for errors up to 5 for traces. -/
def rank : Level → Nat
  | .error => 1
  | .warn => 2
  | .info => 3
  | .debug => 4
  | .trace => 5

/-- The name of the level in log lines. -/
def name : Level → String
  | .error => "ERROR"
  | .warn => "WARN"
  | .info => "INFO"
  | .debug => "DEBUG"
  | .trace => "TRACE"

end Level

/-- One log record. -/
structure LogRecord where
  level : Level
  message : String
deriving DecidableEq, Repr

/-- `LEVEL message`. -/
def LogRecord.render (record : LogRecord) : String :=
  record.level.name ++ " " ++ record.message

/-- A computation that emits log records and may halt on an overflow. -/
abbrev Logged := StateT (Array LogRecord) (Except Overflow)

/-- Emits one record. -/
def emit (level : Level) (message : String) : Logged Unit :=
  modify (·.push { level, message })

/-- Halts on an overflow. -/
def halt {α : Type} (overflow : Overflow) : Logged α :=
  throw overflow

/-- The result of a checked computation, halting on overflow. -/
def checked {α : Type} (result : Except Overflow α) : Logged α :=
  match result with
  | .ok value => pure value
  | .error overflow => halt overflow

end NftProbe
