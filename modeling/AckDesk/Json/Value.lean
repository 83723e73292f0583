/-!
# JSON values

The values that records and pages are written as, and their one compact text: no spaces, members in the order in
which they are given, and in a string nothing escaped but quotes, backslashes and control characters.
-/

namespace AckDesk.Json

/-- A value without numbers. Members keep their order. -/
inductive Value where
  | null
  | bool (b : Bool)
  | string (s : String)
  | list (vs : List Value)
  | object (members : List (String × Value))

/-- A character as it stands in a string. -/
def escapeChar (c : Char) : List Char :=
  if c = '"' then ['\\', '"']
  else if c = '\\' then ['\\', '\\']
  else if c = '\x08' then ['\\', 'b']
  else if c = '\t' then ['\\', 't']
  else if c = '\n' then ['\\', 'n']
  else if c = '\x0c' then ['\\', 'f']
  else if c = '\r' then ['\\', 'r']
  else if c < ' ' then ['\\', 'u', '0', '0', Nat.digitChar (c.toNat / 16), Nat.digitChar (c.toNat % 16)]
  else [c]

def printString (s : String) : List Char := '"' :: s.toList.flatMap escapeChar ++ ['"']

/-- The comma in front of all items but the first. -/
def separator (isFirst : Bool) : List Char := if isFirst then [] else [',']

namespace Value

mutual

/-- The compact text of a value. -/
def print : Value → List Char
  | null => ['n', 'u', 'l', 'l']
  | bool true => ['t', 'r', 'u', 'e']
  | bool false => ['f', 'a', 'l', 's', 'e']
  | string s => printString s
  | list vs => '[' :: printItems true vs ++ [']']
  | object ms => '\x7b' :: printMembers true ms ++ ['\x7d']

/-- The items of a list with commas between them. -/
def printItems (isFirst : Bool) : List Value → List Char
  | [] => []
  | v :: vs => separator isFirst ++ v.print ++ printItems false vs

/-- The members of an object with commas between them. -/
def printMembers (isFirst : Bool) : List (String × Value) → List Char
  | [] => []
  | (name, v) :: ms => separator isFirst ++ printString name ++ ':' :: v.print ++ printMembers false ms

end

def text (v : Value) : String := .ofList v.print

/-- A string, or null where there is none. -/
def optional : Option String → Value
  | none => null
  | some s => string s

def strings (ss : List String) : Value := list (ss.map string)

end Value

end AckDesk.Json
