import KnowledgeClient.Files.Path
import KnowledgeClient.Text.Quoted

/-!
# Diagnostics

Besides what it prints, a run says what it does while it does it: events, each with
its severity, the part of the program that it comes from, a message and named values,
and plain lines.  A line is always shown.  Which events are shown is up to a filter:
the one that a directive of the environment stands for, if it reads as one, and
otherwise the one that lets everything through but what is meant for debugging.  What
directives stand for and how an event is written are left to the platform, as is the
media type that the name of a file tells.
-/

namespace KnowledgeClient

/-- How much an event matters. -/
inductive Severity
  | debug
  | info
  | warning
deriving DecidableEq, Repr

/-- The word for a severity. -/
def Severity.word : Severity → String
  | .debug => "DEBUG"
  | .info => "INFO"
  | .warning => "WARN"

/-- A value that an event carries: a text as it is, a text between quotes, or a number. -/
inductive EventValue
  | bare (text : String)
  | quoted (text : String)
  | number (value : Nat)
deriving DecidableEq, Repr

/-- A value as it is written. -/
def EventValue.written : EventValue → String
  | .bare text => text
  | .quoted text => Text.quoted text
  | .number value => toString value

/-- An event of a run. -/
structure Event where
  severity : Severity
  origin : String
  message : String
  values : List (String × EventValue)
deriving DecidableEq, Repr

namespace Event

/-- The origin of the client's events. -/
def clientOrigin : String := "kmforge_core_sdk::client"

/-- The origin of the journal's events. -/
def journalOrigin : String := "kmforge_core_sdk::telemetry"

/-- The origin of the command line's events. -/
def commandOrigin : String := "kmforge"

/-- The event that a record of the journal was not written, for some reason. -/
def recordLost (reason : String) : Event :=
  ⟨.warning, journalOrigin, "journal write failed: " ++ reason, []⟩

/-- An event on one line, after the time that it happened at. -/
def line (time : String) (event : Event) : String :=
  let word := event.severity.word
  time ++ " " ++ String.ofList (List.replicate (5 - word.length) ' ') ++ word ++ " " ++
    event.origin ++ ": " ++ event.message ++
    String.join (event.values.map fun (name, value) => " " ++ name ++ "=" ++ value.written) ++ "\n"

end Event

/-- What a run says: an event, or a line. -/
inductive Diagnostic
  | event (event : Event)
  | line (text : String)
deriving DecidableEq, Repr

/-- What a run takes from the platform that it runs on. -/
structure Platform where
  /-- The media type of the file that a path leads to, told by its name. -/
  mediaType : Files.Path → String
  /-- The events that a directive lets through, if it reads as one. -/
  filter? : String → Option (Event → Bool)
  /-- An event as it is written when it happens at some time. -/
  eventText : String → Event → String

namespace Platform

/-- The event is shown to whoever gave a directive, or gave none. -/
def shows (platform : Platform) (directive : Option String) (event : Event) : Bool :=
  match directive.bind platform.filter? with
  | some passes => passes event
  | none => event.severity != .debug

/-- What is shown of a diagnostic. -/
def shown (platform : Platform) (directive : Option String) (time : String) : Diagnostic → String
  | .line text => text ++ "\n"
  | .event event => if platform.shows directive event then platform.eventText time event else ""

/-- The platform that reads no directive, writes an event on one line, and knows texts and what
else is a run of bytes. -/
def plain : Platform where
  mediaType := fun path =>
    if path.extension? = some (Text.encode "txt") then "text/plain" else "application/octet-stream"
  filter? := fun _ => none
  eventText := Event.line

end Platform

end KnowledgeClient
