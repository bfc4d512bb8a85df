/-!
# Scanning the words of a command line

The words of a command line are read from left to right, one level at a time.  A
level knows its options, some of which take a value, and either the commands that
lead to a further level, each with the commands there, or how many operands it
takes.  Scanning stops at the first
word that does not fit, or at one that asks for help or for the version.
-/

namespace KnowledgeClient
namespace CommandLine

/-- An option with a value, and which values it accepts. -/
structure ValuedOption where
  name : String
  accepts : String → Bool

/-- What one level of the command line takes. -/
structure Level where
  valued : List ValuedOption
  flags : List String
  hasVersion : Bool
  commands : List (String × List String)
  operandLimit : Option Nat
  acceptsOperand : String → Bool

/-- What was found on one level, each in the order it was given. -/
structure Found where
  values : List (String × String)
  flags : List String
  operands : List String

/-- A level on which nothing was found yet. -/
def Found.nothing : Found := ⟨[], [], []⟩

/-- Why scanning stops before the end. -/
inductive Halt
  | refused
  | help
  | version
deriving DecidableEq, Repr

/-- The command that leads to a further level, and the words after it. -/
abbrev Further := Option (String × List String)

namespace Level

/-- The option with a value that has a name. -/
def valued? (level : Level) (name : String) : Option ValuedOption :=
  level.valued.find? (·.name == name)

/-- Adds the value of an option, which may be given once. -/
def addValue (option : ValuedOption) (value : String) (found : Found) : Except Halt Found :=
  if (found.values.lookup option.name).isSome || !option.accepts value then .error .refused
  else .ok { found with values := found.values ++ [(option.name, value)] }

/-- Adds a flag, which may be given once. -/
def addFlag (name : String) (found : Found) : Except Halt Found :=
  if found.flags.contains name then .error .refused
  else .ok { found with flags := found.flags ++ [name] }

/-- Adds an operand, as long as there is room for one. -/
def addOperand (level : Level) (word : String) (found : Found) : Except Halt Found :=
  if (level.operandLimit.all fun limit => found.operands.length < limit) &&
      level.acceptsOperand word then
    .ok { found with operands := found.operands ++ [word] }
  else .error .refused

/-- A word that stands for itself, not for an option: it is empty, a lone dash, or begins with
another character than a dash. -/
def isPlain (word : String) : Bool :=
  match word.toList with
  | '-' :: _ :: _ => false
  | _ => true

/-- The name of a long option, and the value that an equals sign attaches to it. -/
def cutLong (characters : List Char) : String × Option String :=
  let name := String.ofList (characters.takeWhile (· != '='))
  match characters.dropWhile (· != '=') with
  | [] => (name, none)
  | _ :: value => (name, some (String.ofList value))

/-- What a long option without a value of its own does. -/
def readFlag (level : Level) (name : String) (attached : Option String) (found : Found) :
    Except Halt Found :=
  if attached.isSome then .error .refused
  else if name == "help" then .error .help
  else if name == "version" && level.hasVersion then .error .version
  else if level.flags.contains name then addFlag name found
  else .error .refused

/-- What an option of one letter does. -/
def readLetter (level : Level) (letter : Char) : Halt :=
  if letter == 'h' then .help
  else if letter == 'V' && level.hasVersion then .version
  else .refused

/-- The words name a command, level by level, or no command at all. -/
def names (level : Level) (words : List String) : Bool :=
  match words with
  | [] => true
  | [name] => name == helpCommand || (level.commands.lookup name).isSome
  | [name, further] =>
    match level.commands.lookup name with
    | some commands => !commands.isEmpty && (further == helpCommand || commands.contains further)
    | none => false
  | _ => false
where
  /-- The command that asks for help, on every level that has commands. -/
  helpCommand : String := "help"

/-- What asking for help on the commands that some words name does. -/
def readHelp (level : Level) (words : List String) : Halt :=
  if level.names words then .help else .refused

/-- Scans words as operands only. -/
def scanOperands (level : Level) (found : Found) (words : List String) : Except Halt Found :=
  words.foldlM (fun found word => level.addOperand word found) found

/-- Scans the words of a level, up to a command that leads to a further one. -/
def scan (level : Level) : Found → List String → Except Halt (Found × Further)
  | found, [] => .ok (found, none)
  | found, word :: words =>
    match word.toList with
    | ['-', '-'] => (level.scanOperands found words).map (·, none)
    | '-' :: '-' :: characters =>
      let (name, attached) := cutLong characters
      match level.valued? name, attached, words with
      | some option, some value, words => do
        let found ← addValue option value found
        level.scan found words
      | some option, none, value :: words =>
        if isPlain value then do
          let found ← addValue option value found
          level.scan found words
        else .error .refused
      | some _, none, [] => .error .refused
      | none, attached, words => do
        let found ← level.readFlag name attached found
        level.scan found words
    | '-' :: letter :: _ => .error (level.readLetter letter)
    | _ =>
      if (level.commands.lookup word).isSome then .ok (found, some (word, words))
      else if word == "help" && !level.commands.isEmpty then .error (level.readHelp words)
      else do
        let found ← level.addOperand word found
        level.scan found words

end Level

end CommandLine
end KnowledgeClient
