import AckDesk.Text.Hex
import AckDesk.Text.Pieces
import AckDesk.Url.Fault

/-!
# Numeric hosts

The addresses of the two internet protocols. One of version 4 has up to four numbers, decimal, octal or
hexadecimal, of which the last fills all bytes that are left. One of version 6 has eight pieces of 16 bits; a row
of zeros can be left out once, and the last two pieces can be written as an address of version 4.
-/

namespace AckDesk.Url

def labels (cs : List Char) : List (List Char) := Text.pieces (· == '.') cs

/-! ## Version 4 -/

/-- The number that digits of a base below 17 write. -/
def digitsValue? (base : Nat) (cs : List Char) : Option Nat :=
  cs.foldlM (fun n c => ((Text.hexDigit? c).filter (· < base)).map (n * base + ·)) 0

/-- A number of an address of version 4: hexadecimal after `0x`, octal after `0`, else decimal. -/
def ipv4Number? : List Char → Option Nat
  | [] => none
  | '0' :: 'x' :: cs | '0' :: 'X' :: cs => digitsValue? 16 cs
  | '0' :: c :: cs => digitsValue? 8 (c :: cs)
  | cs => digitsValue? 10 cs

/-- The text without an empty label at the end. -/
def dropFinalDot (ls : List (List Char)) : List (List Char) := if ls.getLast? = some [] then ls.dropLast else ls

/-- A host with such a last label is read as an address of version 4. -/
def endsInNumber (cs : List Char) : Bool :=
  match (dropFinalDot (labels cs)).getLast? with
  | none => false
  | some l => (l ≠ [] && l.all Char.isDigit) || (ipv4Number? l).isSome

/-- The address of the numbers: one byte each, and the last one in the bytes that are left. -/
def ipv4OfNumbers? (ns : List Nat) : Option Nat :=
  match ns.reverse with
  | [] => none
  | last :: firsts =>
    if firsts.length ≤ 3 ∧ firsts.all (· < 256) ∧ last < 1 <<< (8 * (4 - firsts.length)) then
      some (firsts.reverse.foldl (fun n m => n * 256 + m) 0 <<< (8 * (4 - firsts.length)) + last)
    else none

/-- The address of version 4 that a text writes. -/
def ipv4? (cs : List Char) : Option Nat := do ipv4OfNumbers? (← (dropFinalDot (labels cs)).mapM ipv4Number?)

/-- The four bytes of an address with dots between them. -/
def ipv4Text (n : Nat) : List Char :=
  ['.'].intercalate ([n >>> 24 % 256, n >>> 16 % 256, n >>> 8 % 256, n % 256].map (Nat.toDigits 10))

/-! ## Version 6 -/

/-- A byte in decimal without zeros in front. -/
def plainByte? (cs : List Char) : Option Nat :=
  match cs with
  | '0' :: _ :: _ => none
  | [] => none
  | _ => (digitsValue? 10 cs).filter (· < 256)

/-- The two pieces that are written as an address of version 4. -/
def embeddedPieces? (cs : List Char) : Option (List Nat) :=
  match (labels cs).mapM plainByte? with
  | some [a, b, c, d] => some [a * 256 + b, c * 256 + d]
  | _ => none

/-- Pieces in front of the zeros that are left out, and those behind if zeros are left out. -/
structure Halves where
  front : List Nat := []
  back : Option (List Nat) := none

namespace Halves

/-- The number of pieces that are written, a row of zeros counted as one. -/
def size (h : Halves) : Nat := h.front.length + (h.back.map fun b => b.length + 1).getD 0

/-- Puts pieces at the end. -/
def add (h : Halves) (ps : List Nat) : Halves :=
  match h.back with
  | none => { h with front := h.front ++ ps }
  | some b => { h with back := some (b ++ ps) }

/-- All eight pieces. -/
def fill? (h : Halves) : Option (List Nat) :=
  match h.back with
  | none => if h.front.length = 8 then some h.front else none
  | some b => some (h.front ++ List.replicate (8 - h.front.length - b.length) 0 ++ b)

end Halves

/-- The hexadecimal digits in front, four of them at most. -/
def pieceDigits (cs : List Char) : List Char := (cs.take 4).takeWhile fun c => (Text.hexDigit? c).isSome

/-- Reads pieces and the colons between them. -/
def readPieces (h : Halves) (cs : List Char) : Option Halves :=
  if cs = [] then some h
  else if h.size = 8 then none
  else
    let ds := pieceDigits cs
    let added := (digitsValue? 16 ds).map fun n => h.add [n]
    match _hr : cs.drop ds.length with
    | [] => added
    | ':' :: rest =>
      if ds = [] then
        if h.back.isSome then none else readPieces { h with back := some [] } rest
      else if rest = [] then none
      else added.bind fun h => readPieces h rest
    | '.' :: _ => if 6 < h.size then none else (embeddedPieces? cs).map h.add
    | _ => none
termination_by cs.length
decreasing_by
  all_goals
    have hl := congrArg List.length _hr
    simp only [List.length_drop, List.length_cons] at hl
    omega

/-- The pieces of the address of version 6 that a text writes. -/
def ipv6? (cs : List Char) : Option (List Nat) :=
  match cs with
  | ':' :: ':' :: rest => (readPieces { back := some [] } rest).bind Halves.fill?
  | ':' :: _ => none
  | _ => (readPieces {} cs).bind Halves.fill?

def zerosInFront (ps : List Nat) : Nat := (ps.takeWhile (· == 0)).length

/-- Where the longest row of zeros begins, the first of several, and how long it is. -/
def longestZeros (start : Nat) : List Nat → Nat × Nat
  | [] => (start, 0)
  | p :: ps =>
    let here := zerosInFront (p :: ps)
    let later := longestZeros (start + 1) ps
    if later.2 ≤ here then (start, here) else later

/-- Pieces with colons between them. -/
def piecesText (ps : List Nat) : List Char := [':'].intercalate (ps.map (Nat.toDigits 16))

/-- The pieces of an address, without its longest row of at least two zeros. -/
def ipv6Text (ps : List Nat) : List Char :=
  let (start, length) := longestZeros 0 ps
  if length < 2 then piecesText ps
  else piecesText (ps.take start) ++ ':' :: ':' :: piecesText (ps.drop (start + length))

end AckDesk.Url
