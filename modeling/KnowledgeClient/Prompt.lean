import KnowledgeClient.Files.Tree
import KnowledgeClient.Text.Blank

/-!
# Prompts

The system message of a chat has a usual name and a usual text.  A prompt kept in
a file is taken as it is, but a file of blanks only is refused.
-/

namespace KnowledgeClient
namespace Prompt

/-- The name that the system speaks under unless another is given. -/
def usualName : String := "Coding assistant"

/-- The lines of the system message that is sent unless another is given. -/
def usualLines : List String :=
  ["You are a coding assistant, expert in the Eiffel programming language and in formal methods.",
    "You have extensive training in the usage of AutoProof, the static verifier of Eiffel.",
    "You will receive a prompt in eiffel code with holes of the form <ADD_*>.",
    "Write only model-based contracts, i.e. all qualified calls in all contract clauses will " ++
      "refer to the model of the target class and all unqualified calls in all contract clauses " ++
      "will refer to the model of the current class or its ancestors.",
    "Respond with the same code, substituting the holes with valid eiffel code."]

/-- The system message that is sent unless another is given. -/
def usualText : String :=
  String.join (usualLines.map (· ++ "\n"))

/-- Why a prompt file is refused. -/
inductive Fault
  | unreadable (path : Files.Path) (reason : Files.Fault)
  | blank (path : Files.Path)
deriving DecidableEq, Repr

/-- A reason in words. -/
def Fault.message : Fault → String
  | .unreadable path _ => "read prompt file " ++ path.display ++ " failed"
  | .blank path => "prompt file " ++ path.display ++ " is empty"

/-- What a reason comes from. -/
def Fault.causes : Fault → List String
  | .unreadable _ reason => [reason.message]
  | .blank _ => []

/-- The prompt in the file that a path leads to. -/
def load (files : Files.Tree) (path : Files.Path) : Except Fault String :=
  match files.readText path with
  | .error reason => .error (.unreadable path reason)
  | .ok text => if Text.isAllBlank text then .error (.blank path) else .ok text

end Prompt
end KnowledgeClient
