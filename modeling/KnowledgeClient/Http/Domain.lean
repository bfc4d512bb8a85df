import KnowledgeClient.Http.Domain.Direction
import KnowledgeClient.Http.Domain.Image
import KnowledgeClient.Http.Domain.Joining
import KnowledgeClient.Http.Punycode
import KnowledgeClient.Text.Composed

/-!
# Domains

A domain is read as people write it and comes out in ASCII.  Each character is
replaced by what it stands for, and the result is composed and cut into labels at its
full stops.  A label outside ASCII is written in ASCII with a mark before it; a label
that bears the mark already must be the written form of such a label.  The labels are
checked as they are shown, not as they are written.
-/

namespace KnowledgeClient
namespace Http
namespace Domain

/-- What stands before a label that is written in ASCII but is not ASCII. -/
def writtenMark : List Char := "xn--".toList

/-- The greatest number of characters of a label outside ASCII. -/
def greatestLabel : Nat := 1000

/-- The greatest number of characters that such a label may be written in, after its mark. -/
def greatestWritten : Nat := 2000

/-- A label that is not ASCII but is written so: what is shown of it is composed and not ASCII. -/
def shownOfWritten? (written : List Char) : Option (List Char) := do
  if greatestWritten < written.length then none
  else
    let label ← Punycode.decode? written
    if label.all Text.isAscii || Text.composed label != label then none else some label

/-- What is shown of a label. -/
def shown? (label : List Char) : Option (List Char) :=
  if writtenMark.isPrefixOf label then
    if label.all Text.isAscii then shownOfWritten? (label.drop writtenMark.length) else none
  else some label

/-- A label may be shown: it holds allowed characters only, does not begin with a mark, its joiners
fit, and it is not too long. -/
def isSound (label : List Char) : Bool :=
  label.all isAllowed && !label.head?.any Text.isMark && joinersFit [] label &&
    (label.all Text.isAscii || label.length ≤ greatestLabel)

/-- A label in ASCII. -/
def writtenLabel (label : List Char) : List Char :=
  if label.all Text.isAscii then label else writtenMark ++ Punycode.encode label

/-- A domain in ASCII. -/
def read? (text : List Char) : Option (List Char) := do
  let labels := Text.cutAt '.' (Text.composed (text.flatMap image))
  let shown ← labels.mapM shown?
  if shown.all isSound && keepDirections shown then
    some (['.'].intercalate (labels.map writtenLabel))
  else none

end Domain
end Http
end KnowledgeClient
