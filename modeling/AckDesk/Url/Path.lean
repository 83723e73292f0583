import AckDesk.Text.Pieces
import AckDesk.Url.Escape

/-!
# Paths of URLs

A path is a row of segments, each with a slash in front. While a path is built, a segment of two dots takes the
segment before it away and one of a single dot adds nothing; as the last segment they leave an empty one.
-/

namespace AckDesk.Url

/-- The segments of a path. -/
abbrev Segments := List (List Char)

namespace Segments

/-- The text of a path, a slash in front of each segment. -/
def text (ss : Segments) : List Char := ss.flatMap ('/' :: ·)

/-- A single dot, plain or escaped. -/
def isDot (s : List Char) : Bool := s.map Char.toLower ∈ [['.'], ['%', '2', 'e']]

/-- Two dots, each plain or escaped. -/
def isDoubleDot (s : List Char) : Bool :=
  s.map Char.toLower ∈
    [['.', '.'], ['.', '%', '2', 'e'], ['%', '2', 'e', '.'], ['%', '2', 'e', '%', '2', 'e']]

/-- A letter and a colon or a bar, which names a drive. -/
def isDrive (s : List Char) : Bool :=
  match s with
  | [a, b] => a.isAlpha && (b == ':' || b == '|')
  | _ => false

/-- The path without its last segment. The drive of a file stays. -/
def shorten (isFile : Bool) (ss : Segments) : Segments :=
  match ss with
  | [s] => if isFile && isDrive s then ss else []
  | _ => ss.dropLast

/-- Adds a segment, which others follow or not. -/
def add (isFile : Bool) (ss : Segments) (s : List Char) (isLast : Bool) : Segments :=
  if isDoubleDot s then shorten isFile ss ++ if isLast then [[]] else []
  else if isDot s then ss ++ if isLast then [[]] else []
  else if isFile && ss.isEmpty && isDrive s then [s.take 1 ++ [':']]
  else ss ++ [s]

def addAll (isFile : Bool) (ss : Segments) : List (List Char) → Segments
  | [] => ss
  | [s] => ss.add isFile s true
  | s :: t :: ts => addAll isFile (ss.add isFile s false) (t :: ts)

/-- The path of a file without empty segments in front of others. -/
def dropEmptyFront : Segments → Segments
  | [] :: s :: ss => dropEmptyFront (s :: ss)
  | ss => ss

/-- The path that a text writes, of which the first slash is taken off. -/
def ofText (special isFile : Bool) (cs : List Char) : Segments :=
  let isSlash (c : Char) : Bool := c == '/' || (special && c == '\\')
  let ss := addAll isFile [] ((Text.pieces isSlash cs).map (escape notInPath))
  if isFile then ss.dropEmptyFront else ss

/-- The path without an empty segment at its end, unless that is all of it. -/
def popIfEmpty (ss : Segments) : Segments := if 1 < ss.length ∧ ss.getLast? = some [] then ss.dropLast else ss

/-- Puts a text at the end of the path as a segment of its own, without the characters that no URL holds. A text of
dots adds nothing. -/
def push (special isFile : Bool) (ss : Segments) (cs : List Char) : Segments :=
  if cs = ['.'] ∨ cs = ['.', '.'] then ss
  else
    let before : Segments := if ss = [[]] then [] else ss
    before.add isFile (escape (notInSegment special) (cs.filter (!isDropped ·))) true

end Segments

end AckDesk.Url
