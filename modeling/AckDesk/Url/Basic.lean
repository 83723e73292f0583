import AckDesk.Url.Host
import AckDesk.Url.Path

/-!
# URLs

An absolute URL and its text. Only a URL with segments can be a base, to which further segments are added.
-/

namespace AckDesk

namespace Url

/-- What stands between two slashes and the path. An empty host is none. -/
structure Authority where
  user : List Char := []
  password : List Char := []
  host : Option Host := none
  port : Option Nat := none
deriving DecidableEq

/-- The path of a URL: segments, or a text of any form where there is no authority. -/
inductive Path where
  | segments (ss : Segments)
  | plain (text : List Char)
deriving DecidableEq

end Url

open Url (Authority Path)

/-- An absolute URL. -/
structure Url where
  scheme : List Char
  authority : Option Authority
  path : Path
  query : Option (List Char)
  fragment : Option (List Char)
deriving DecidableEq

namespace Url

/-- The usual port of a scheme. -/
def defaultPort? (scheme : List Char) : Option Nat :=
  [("http", 80), ("https", 443), ("ws", 80), ("wss", 443), ("ftp", 21)].lookup (String.ofList scheme)

def fileScheme : List Char := ['f', 'i', 'l', 'e']

/-- URLs with the scheme have a host or are those of files. -/
def isSpecial (scheme : List Char) : Bool := (defaultPort? scheme).isSome || scheme == fileScheme

/-- A user name and a password in front of a host. -/
def userinfoText (a : Authority) : List Char :=
  if a.user = [] ∧ a.password = [] then []
  else a.user ++ (if a.password = [] then [] else ':' :: a.password) ++ ['@']

def authorityText (a : Authority) : List Char :=
  userinfoText a ++ (a.host.map Host.text).getD [] ++ (a.port.map fun n => ':' :: Nat.toDigits 10 n).getD []

/-- The text of a path, from which no authority may be read where there is none. -/
def pathText (hasAuthority : Bool) : Path → List Char
  | .plain t => t
  | .segments ([] :: s :: ss) =>
    (if hasAuthority then [] else ['/', '.']) ++ Segments.text ([] :: s :: ss)
  | .segments ss => ss.text

def chars (u : Url) : List Char :=
  u.scheme ++ ':' :: (u.authority.map fun a => '/' :: '/' :: authorityText a).getD [] ++
    pathText u.authority.isSome u.path ++ (u.query.map ('?' :: ·)).getD [] ++ (u.fragment.map ('#' :: ·)).getD []

def text (u : Url) : String := .ofList u.chars

/-- The URL with a text as one more segment of its path, in place of an empty last one, if it can be a base. -/
def join? (u : Url) (segment : String) : Option Url :=
  match u.path with
  | .plain _ => none
  | .segments ss =>
    let ss := ss.popIfEmpty.push (isSpecial u.scheme) (u.scheme == fileScheme) segment.toList
    some { u with path := .segments ss }

end Url

end AckDesk
