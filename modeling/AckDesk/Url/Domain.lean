import AckDesk.Text.Composed
import AckDesk.Text.Direction
import AckDesk.Text.Joining
import AckDesk.Text.Utf8
import AckDesk.Url.Address
import AckDesk.Url.Domain.Form
import AckDesk.Url.Punycode

/-!
# Domain names

The name of a host in the form in which it is looked up: labels of ASCII characters in lower case. A label with
other characters is brought into one form, tested, and coded (`Label.coded`); a label that is coded already has to
be the code of one in that form.
-/

namespace AckDesk.Url

open Text (composed)

/-- The characters that stand in no domain name. -/
def notInDomain (c : Char) : Bool :=
  c ≤ ' ' || c == '\x7f' || ['#', '%', '/', ':', '<', '>', '?', '@', '[', '\\', ']', '^', '|'].contains c

/-- The form of a text in a domain name, if every character has one. -/
def domainText? (cs : List Char) : Option (List Char) := (cs.mapM domainForm?).map fun forms => composed forms.flatten

def isAscii (cs : List Char) : Bool := cs.all (·.toNat < Punycode.firstCode)

namespace Label

/-- What a coded label begins with. -/
def mark : List Char := ['x', 'n', '-', '-']

/-- The label as it is read. -/
def decoded? (label : List Char) : Option (List Char) :=
  if mark.isPrefixOf label then
    match Punycode.decode? (label.drop mark.length) with
    | none => none
    | some cs => if !isAscii cs && domainText? cs == some cs then some cs else none
  else some label

/-- The label as it is looked up. -/
def coded (label : List Char) : List Char := if isAscii label then label else mark ++ Punycode.encode label

/-- The label begins with no mark, and its joiners have a meaning. -/
def isWellFormed (label : List Char) : Bool :=
  !label.head?.any Text.combiningMarks.contains && Text.joinersHaveMeaning [] label

end Label

/-- The labels agree about their directions: if anything is written to the left, each label has one direction. -/
def directionsAgree (labels : List (List Char)) : Bool :=
  !labels.any (·.any fun c => (Text.direction c).isLeftward) || labels.all Text.hasOneDirection

/-- The domain name that characters write. -/
def domain? (cs : List Char) : Option (List Char) :=
  match domainText? cs with
  | none => none
  | some text =>
    match (Text.pieces (· == '.') text).mapM Label.decoded? with
    | none => none
    | some labels =>
      let name := ['.'].intercalate (labels.map Label.coded)
      if labels.all Label.isWellFormed && directionsAgree labels && !name.any notInDomain then some name else none

end AckDesk.Url
