import AckDesk.Decimal.Shortest
import AckDesk.Json.Input

/-!
# JSON numbers

No member of the records is a number, so a number is read only to be named in a fault. Whole numbers that fit in 64
bits are kept as they are; all others become doubles. Digits that do not fit in 64 bits are dropped, and the double
is the significand, multiplied or divided by one power of ten.
-/

namespace AckDesk.Json

/-- A number as it is named in a fault. -/
inductive Numeral where
  | natural (n : Nat)
  | negative (n : Nat)
  | float (isNegative : Bool) (f : Float)

namespace Numeral

/-- A positive double: positional from 0.0001 to 16 digits before the point, with an exponent outside. -/
def floatText (f : Float) : String :=
  if f == 0 then "0.0"
  else
    let d := Decimal.shortest f
    let ds := Nat.toDigits 10 d.digits
    let point := (ds.length : Int) + d.exponent
    let zeros (n : Int) : List Char := List.replicate n.toNat '0'
    .ofList (
      if 0 ≤ d.exponent ∧ point ≤ 16 then ds ++ zeros d.exponent ++ ['.', '0']
      else if 0 < point ∧ point ≤ 16 then ds.take point.toNat ++ '.' :: ds.drop point.toNat
      else if -5 < point ∧ point ≤ 0 then '0' :: '.' :: zeros (-point) ++ ds
      else
        let exponent := 'e' :: (toString (point - 1)).toList
        match ds with
        | c :: (e :: es) => c :: '.' :: e :: es ++ exponent
        | _ => ds ++ exponent)

/-- The number with its kind. -/
def text : Numeral → String
  | natural n => "integer `" ++ toString n ++ "`"
  | negative n => "integer `-" ++ toString n ++ "`"
  | float isNegative f => "floating point `" ++ (if isNegative then "-" else "") ++ floatText f ++ "`"

end Numeral

/-! ## Reading -/

/-- The significand after more digits, and the number of digits from the first one on that does not fit in 64 bits. -/
def gather (significand : Nat) : List Char → Nat × Nat
  | [] => (significand, 0)
  | c :: cs =>
    let next := significand * 10 + (c.toNat - 0x30)
    if next < 1 <<< 64 then gather next cs else (significand, cs.length + 1)

def takeDigits (i : Input) : List Char × Input :=
  let ds := i.rest.takeWhile Char.isDigit
  (ds, ⟨i.rest.dropWhile Char.isDigit, i.pos.afterAll ds⟩)

def powerOfTen (n : Nat) : Float := .ofScientific 1 false n

/-- Divides by `10 ^ n`, in steps of at most 308 places. -/
def divide (f : Float) (n : Nat) : Float :=
  if h : n ≤ 308 then f / powerOfTen n
  else if f == 0 then f
  else divide (f / powerOfTen 308) (n - 308)
termination_by n
decreasing_by omega

/-- The double `significand · 10 ^ exponent`, unless it is too large. -/
def scaled? (significand : Nat) (exponent : Int) : Option Float :=
  let f := significand.toUInt64.toFloat
  if exponent < 0 then some (divide f exponent.natAbs)
  else if exponent ≤ 308 then
    let g := f * powerOfTen exponent.natAbs
    if g.isInf then none else some g
  else if significand = 0 then some f
  else none

/-- The double with a significand and an exponent, read up to `i`. -/
def floatAt (negative : Bool) (significand : Nat) (exponent : Int) (i : Input) : Except Error (Numeral × Position) :=
  match scaled? significand exponent with
  | some f => .ok (.float negative f, i.pos)
  | none => i.fail .numberOutOfRange

/-- The number of leading digits that stand for less than `2 ^ 31`. -/
def exponentFit (value : Nat) : List Char → Nat
  | [] => 0
  | c :: cs =>
    let next := value * 10 + (c.toNat - 0x30)
    if next < 1 <<< 31 then exponentFit next cs + 1 else 0

/-- Reads an exponent after its letter. -/
def exponentPart (negative : Bool) (significand : Nat) (exponent : Int) (i : Input) :
    Except Error (Numeral × Position) :=
  let (down, i) := match i.rest with
    | '+' :: _ => (false, i.advance)
    | '-' :: _ => (true, i.advance)
    | _ => (false, i)
  match i.rest with
  | [] => i.fail .eofInValue
  | c :: _ =>
    if !c.isDigit then i.failAhead .invalidNumber
    else
      let (ds, j) := takeDigits i
      let fit := exponentFit 0 ds
      if fit = ds.length then
        let e : Int := Nat.ofDigitChars 10 ds 0
        floatAt negative significand (if down then exponent - e else exponent + e) j
      else if significand ≠ 0 ∧ !down then
        .error ⟨.numberOutOfRange, i.pos.afterAll (ds.take (fit + 1))⟩
      else .ok (.float negative 0, j.pos)

/-- Reads what may follow the digits of a number that is a double in any case. -/
def floatEnd (negative : Bool) (significand : Nat) (exponent : Int) (i : Input) : Except Error (Numeral × Position) :=
  match i.rest with
  | 'e' :: _ | 'E' :: _ => exponentPart negative significand exponent i.advance
  | _ => floatAt negative significand exponent i

/-- Reads the digits after a point. -/
def fractionPart (negative : Bool) (significand : Nat) (exponent : Int) (i : Input) :
    Except Error (Numeral × Position) :=
  let (ds, j) := takeDigits i
  if ds = [] then i.failAhead (if i.rest = [] then .eofInValue else .invalidNumber)
  else
    let (significand, dropped) := gather significand ds
    floatEnd negative significand (exponent - (ds.length - dropped : Int)) j

/-- The whole number of a significand that fits in 64 bits. -/
def wholeNumber (negative : Bool) (significand : Nat) : Numeral :=
  if !negative then .natural significand
  else if significand = 0 ∨ 1 <<< 63 < significand then .float true significand.toUInt64.toFloat
  else .negative significand

/-- Reads a number after its sign. -/
def readNumeral (negative : Bool) (i : Input) : Except Error (Numeral × Position) :=
  match i.rest with
  | [] => i.fail .eofInValue
  | c :: cs =>
    if !c.isDigit then i.failAhead .invalidNumber
    else if c = '0' ∧ (cs.head?.any Char.isDigit) then i.advance.failAhead .invalidNumber
    else
      let (ds, j) := takeDigits i
      let (significand, dropped) := gather 0 ds
      match j.rest with
      | '.' :: _ => fractionPart negative significand dropped j.advance
      | 'e' :: _ | 'E' :: _ => exponentPart negative significand dropped j.advance
      | _ =>
        if dropped = 0 then .ok (wholeNumber negative significand, j.pos)
        else floatAt negative significand dropped j

end AckDesk.Json
