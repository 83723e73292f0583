import AckDesk.Text.LetterCase

/-!
# Lowercase texts

The lowercase form of a text replaces every character by its own lowercase form. Two letters need more than that:
the dotted capital I becomes two characters, and a capital sigma becomes the final form at the end of a word, that
is, when the nearest letter before it exists and the nearest letter after it does not (`isWordEnd`).
-/

namespace AckDesk.Text

/-- The first character that is not passed over is a letter with case. -/
def facesLetter (cs : List Char) : Bool :=
  match cs.dropWhile caseIgnorable.contains with
  | c :: _ => cased.contains c
  | [] => false

/-- A place between the characters `before`, nearest first, and `after` ends a word. -/
def isWordEnd (before after : List Char) : Bool := facesLetter before && !facesLetter after

/-- The lowercase form of a character, its neighbours apart. -/
def lowerChar (c : Char) : List Char :=
  if c = 'İ' then ['i', '\u0307'] else [(lowercaseRuns.findSome? (·.lower? c)).getD c]

/-- The lowercase form of `cs` after the characters `before`, nearest first. -/
def lowercaseAfter (before : List Char) : List Char → List Char
  | [] => []
  | c :: cs =>
    (if c = 'Σ' then [if isWordEnd before cs then 'ς' else 'σ'] else lowerChar c) ++ lowercaseAfter (c :: before) cs

def lowercase (s : String) : String := .ofList (lowercaseAfter [] s.toList)

end AckDesk.Text
