import AckDesk.Url.Basic

/-!
# Reading URLs

A text is cut at its first number sign and question mark, then at the slashes around its authority. Tabs and line
ends are no part of a URL, nor are blanks around it. Backslashes count as slashes where the scheme is a usual one.
-/

namespace AckDesk.Url

/-! ## Cutting -/

/-- What stands in front of the first character that is a mark, and what after it, if there is one. -/
def cut (isMark : Char → Bool) (cs : List Char) : List Char × Option (List Char) :=
  (cs.takeWhile (!isMark ·), match cs.dropWhile (!isMark ·) with
    | [] => none
    | _ :: rest => some rest)

/-- What stands in front of the last at sign, and what after it, if there is one. -/
def cutUserinfo (cs : List Char) : Option (List Char) × List Char :=
  match cut (· == '@') cs.reverse with
  | (_, none) => (none, cs)
  | (host, some user) => (some user.reverse, host.reverse)

/-- What stands in front of the first colon outside of brackets, and what after it, if there is one. -/
def cutPort (inBrackets : Bool) : List Char → List Char × Option (List Char)
  | [] => ([], none)
  | c :: cs =>
    if c = ':' ∧ !inBrackets then ([], some cs)
    else
      let (host, port) := cutPort (if c = '[' then true else if c = ']' then false else inBrackets) cs
      (c :: host, port)

/-- The scheme in front of a text, in lower case, and what stands after its colon. -/
def cutScheme? (cs : List Char) : Option (List Char × List Char) :=
  let isSchemeChar (c : Char) : Bool := c.isAlphanum || ['+', '-', '.'].contains c
  match cs.takeWhile isSchemeChar, cs.dropWhile isSchemeChar with
  | c :: scheme, ':' :: rest => if c.isAlpha then some ((c :: scheme).map Char.toLower, rest) else none
  | _, _ => none

/-! ## Authorities -/

/-- The port that digits write, and what stands after them. A backslash may end the digits. -/
def readPort (cs : List Char) : Except Fault (Option Nat × List Char) :=
  let ds := cs.takeWhile Char.isDigit
  let rest := cs.dropWhile Char.isDigit
  let n := Nat.ofDigitChars 10 ds 0
  if 65535 < n then .error .invalidPort
  else if rest.head?.all (· == '\\') then .ok (if ds = [] then none else some n, rest)
  else .error .invalidPort

def readUserinfo (cs : List Char) : Authority :=
  let (user, password) := cut (· == ':') cs
  { user := escape notInUserinfo user, password := escape notInUserinfo (password.getD []) }

/-- The authority that a text writes, when more follows it or not, and what of the text belongs to the path. -/
def readAuthority (scheme cs : List Char) (isEnd : Bool) : Except Fault (Authority × List Char) := do
  let special := isSpecial scheme
  let (userinfo, address) := cutUserinfo cs
  if userinfo = some [] ∧ address = [] ∧ !isEnd then .error .emptyHost
  let authority := readUserinfo (userinfo.getD [])
  let (hostText, portText) := cutPort false address
  if special ∧ hostText = [] then .error .emptyHost
  let host ← if special then Host.ofDomain hostText else Host.ofOther hostText
  if hostText = [] ∧ portText.isSome then .error .emptyHost
  let (port, rest) ← match portText with
    | none => .ok (none, [])
    | some p => readPort p
  if hostText = [] ∧ userinfoText authority ≠ [] then .error .emptyHost
  let port := if port = defaultPort? scheme then none else port
  .ok ({ authority with host := if hostText = [] then none else some host, port }, rest)

/-! ## The part in front of query and fragment -/

/-- A slash, or a backslash where that counts as one. -/
def isSlash (special : Bool) (c : Char) : Bool := c == '/' || (special && c == '\\')

/-- The authority and the path after two slashes. -/
def readHierarchy (scheme cs : List Char) (isEnd : Bool) : Except Fault (Authority × Path) := do
  let special := isSpecial scheme
  let authorityChars := cs.takeWhile (!isSlash special ·)
  let rest := cs.dropWhile (!isSlash special ·)
  let (authority, more) ← readAuthority scheme authorityChars (isEnd && rest == [])
  let path := (if more = [] then [] else '/' :: more) ++ rest
  if path = [] ∧ !special then .ok (authority, .segments [])
  else .ok (authority, .segments (Segments.ofText special false (path.drop 1)))

/-- The authority and the path of a file. -/
def readFile (cs : List Char) : Except Fault (Authority × Path) := do
  let toPath (cs : List Char) : Path := .segments (Segments.ofText true true cs)
  match cs with
  | a :: b :: rest =>
    if isSlash true a && isSlash true b then
      let hostChars := rest.takeWhile (!isSlash true ·)
      let after := rest.dropWhile (!isSlash true ·)
      if Segments.isDrive hostChars then .ok ({}, toPath rest)
      else if hostChars = [] then .ok ({}, toPath after)
      else
        match ← Host.ofDomain hostChars with
        | .name ['l', 'o', 'c', 'a', 'l', 'h', 'o', 's', 't'] => .ok ({}, toPath after)
        | host => .ok ({ host := some host }, toPath (after.drop 1))
    else if isSlash true a then .ok ({}, toPath (b :: rest))
    else .ok ({}, toPath cs)
  | [a] => .ok ({}, toPath (if isSlash true a then [] else cs))
  | [] => .ok ({}, toPath [])

/-- The authority and the path after the colon of a scheme. -/
def readBody (scheme cs : List Char) (isEnd : Bool) : Except Fault (Option Authority × Path) := do
  if scheme = fileScheme then
    let (a, p) ← readFile cs
    .ok (some a, p)
  else if isSpecial scheme then
    let (a, p) ← readHierarchy scheme (cs.dropWhile (isSlash true)) isEnd
    .ok (some a, p)
  else
    match cs with
    | '/' :: '/' :: rest =>
      let (a, p) ← readHierarchy scheme rest isEnd
      .ok (some a, p)
    | '/' :: rest => .ok (none, .segments (Segments.ofText false false rest))
    | _ => .ok (none, .plain (escape notPlain cs))

/-! ## Whole texts -/

/-- The text without control characters and spaces around it. -/
def trimControls (cs : List Char) : List Char :=
  ((cs.dropWhile (· ≤ ' ')).reverse.dropWhile (· ≤ ' ')).reverse

def parse (text : String) : Except Fault Url := do
  let cs := (trimControls text.toList).filter (!isDropped ·)
  match cutScheme? cs with
  | none => .error .relative
  | some (scheme, rest) =>
    let (front, fragment) := cut (· == '#') rest
    let (body, query) := cut (· == '?') front
    let (authority, path) ← readBody scheme body (query.isNone && fragment.isNone)
    .ok {
      scheme, authority, path
      query := query.map (escape (notInQuery (isSpecial scheme)))
      fragment := fragment.map (escape notInFragment) }

end AckDesk.Url
