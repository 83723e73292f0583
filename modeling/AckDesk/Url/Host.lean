import AckDesk.Url.Domain
import AckDesk.Url.Escape

/-!
# Hosts

The host of a URL is an address in brackets, or for the usual schemes a domain name or an address of version 4, or
for others any text.
-/

namespace AckDesk.Url

/-- A host. -/
inductive Host where
  | name (text : List Char)
  | ipv4 (address : Nat)
  | ipv6 (pieces : List Nat)
deriving DecidableEq

namespace Host

def text : Host → List Char
  | name t => t
  | ipv4 n => ipv4Text n
  | ipv6 ps => '[' :: ipv6Text ps ++ [']']

/-- The host in brackets after the opening one. -/
def ofBrackets (cs : List Char) : Except Fault Host :=
  if cs.getLast? = some ']' then
    match ipv6? cs.dropLast with
    | some ps => .ok (ipv6 ps)
    | none => .error .invalidIpv6
  else .error .invalidIpv6

/-- The host of a URL with a usual scheme. -/
def ofDomain (cs : List Char) : Except Fault Host :=
  match cs with
  | '[' :: rest => ofBrackets rest
  | _ =>
    match Text.decodeUtf8 (unescape cs) with
    | .error _ => .error .invalidName
    | .ok s =>
      match domain? s.toList with
      | none => .error .invalidName
      | some [] => .error .emptyHost
      | some d =>
        if endsInNumber d then
          match ipv4? d with
          | some n => .ok (ipv4 n)
          | none => .error .invalidIpv4
        else .ok (name d)

/-- The characters that stand in no host of any kind. -/
def forbidden (c : Char) : Bool :=
  ['\x00', '\t', '\n', '\r', ' ', '#', '/', ':', '<', '>', '?', '@', '[', '\\', ']', '^', '|'].contains c

/-- The host of a URL with any other scheme. -/
def ofOther (cs : List Char) : Except Fault Host :=
  match cs with
  | '[' :: rest => ofBrackets rest
  | _ => if cs.any forbidden then .error .invalidHostCharacter else .ok (name (escape notPlain cs))

end Host

end AckDesk.Url
