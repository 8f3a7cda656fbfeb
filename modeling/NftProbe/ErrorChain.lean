/-!
# Error chains

A failure of the program is a chain of messages: what it was doing, then why that failed,
down to the first cause. `render` writes the chain on one line, the messages joined by `: `;
`reportLines` writes it the way the program reports a fatal error, the outermost message
after `Error: ` and the causes below `Caused by:`.
-/

set_option autoImplicit false

namespace NftProbe

/-- A chain of error messages, the outermost first. -/
structure ErrorChain where
  head : String
  causes : List String := []
deriving DecidableEq, Repr

namespace ErrorChain

/-- A chain of one message. -/
def root (message : String) : ErrorChain :=
  { head := message }

/-- The chain with `message` in front, saying what was being done. -/
def context (chain : ErrorChain) (message : String) : ErrorChain :=
  { head := message, causes := chain.head :: chain.causes }

/-- Every message, the outermost first. -/
def messages (chain : ErrorChain) : List String :=
  chain.head :: chain.causes

/-- The chain on one line. -/
def render (chain : ErrorChain) : String :=
  ": ".intercalate chain.messages

/-- The chain as the program reports a fatal error, line by line: `Error: ` and the outermost
message, then under `Caused by:` the causes, indented by four spaces when there is one and
numbered in a column five wide when there are several. The further lines of a cause line up
with its first. -/
def reportLines (chain : ErrorChain) : List String :=
  let head := (chain.head.splitOn "\n").modifyHead ("Error: " ++ ·)
  match chain.causes with
  | [] => head
  | [cause] => head ++ ["", "Caused by:"] ++ (cause.splitOn "\n").map ("    " ++ ·)
  | causes =>
    head ++ ["", "Caused by:"] ++
      (causes.zipIdx.flatMap fun (cause, index) =>
        let number := toString index
        let label := String.ofList (List.replicate (5 - number.length) ' ') ++ number ++ ": "
        match cause.splitOn "\n" with
        | [] => [label]
        | first :: rest => (label ++ first) :: rest.map ("       " ++ ·))

end ErrorChain

/-- Adds a context message to a failure. -/
def withContext {α : Type} (message : String) : Except ErrorChain α → Except ErrorChain α
  | .ok value => .ok value
  | .error chain => .error (chain.context message)

end NftProbe
