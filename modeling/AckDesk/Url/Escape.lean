import AckDesk.Text.Hex

/-!
# Percent escapes

A character that may not stand in a part of a URL is written as its bytes, each a percent sign and two hexadecimal
digits. Every part has its own set of such characters; control characters and all that are not ASCII belong to each
set. **Unescaping undoes escaping** (`unescape_escape`) with a set that has the percent sign.
-/

namespace AckDesk.Url

/-! ## Sets -/

/-- Tabs and line ends, which are left out of a URL. -/
def isDropped (c : Char) : Bool := c == '\t' || c == '\n' || c == '\r'

/-- Control characters and all characters that are not ASCII. -/
def notPlain (c : Char) : Bool := c < ' ' || '~' < c

/-- The characters that are escaped in a fragment. -/
def notInFragment (c : Char) : Bool := notPlain c || [' ', '"', '<', '>', '`'].contains c

/-- The characters that are escaped in a query. -/
def notInQuery (special : Bool) (c : Char) : Bool :=
  notPlain c || [' ', '"', '#', '<', '>'].contains c || (special && c == '\'')

/-- The characters that are escaped in a path. -/
def notInPath (c : Char) : Bool := notInFragment c || ['#', '?', '\x7b', '\x7d'].contains c

/-- The characters that are escaped in a single segment of a path. -/
def notInSegment (special : Bool) (c : Char) : Bool :=
  notInPath c || ['/', '%'].contains c || (special && c == '\\')

/-- The characters that are escaped in a user name or password. -/
def notInUserinfo (c : Char) : Bool :=
  notInPath c || ['/', ':', ';', '=', '@', '[', '\\', ']', '^', '|'].contains c

/-! ## Writing and reading -/

def escapeByte (b : UInt8) : List Char :=
  ['%', Text.upperDigit (b.toNat / 16), Text.upperDigit (b.toNat % 16)]

/-- A character as an escape of each of its bytes. -/
def escapeChar (c : Char) : List Char := (String.utf8EncodeChar c).flatMap escapeByte

/-- The characters with those of a set escaped. -/
def escape (set : Char → Bool) (cs : List Char) : List Char := cs.flatMap fun c => if set c then escapeChar c else [c]

/-- The byte that two hexadecimal digits stand for. -/
def byteOfDigits? (a b : Char) : Option UInt8 :=
  match Text.hexDigit? a, Text.hexDigit? b with
  | some x, some y => some (.ofNat (x * 16 + y))
  | _, _ => none

/-- The bytes of a text in which escapes stand for bytes. -/
def unescape : List Char → List UInt8
  | '%' :: a :: b :: cs =>
    match byteOfDigits? a b with
    | some byte => byte :: unescape cs
    | none => String.utf8EncodeChar '%' ++ unescape (a :: b :: cs)
  | c :: cs => String.utf8EncodeChar c ++ unescape cs
  | [] => []

/-- The two digits of an escape give its byte back. -/
theorem byteOfDigits?_escape (b : UInt8) :
    byteOfDigits? (Text.upperDigit (b.toNat / 16)) (Text.upperDigit (b.toNat % 16)) = some b := by
  have hb := b.toNat_lt
  rw [byteOfDigits?, Text.hexDigit?_upperDigit (by omega), Text.hexDigit?_upperDigit (by omega)]
  simp [Nat.div_add_mod']

/-- An escaped byte in front of a text is read back. -/
theorem unescape_escapeByte_append (b : UInt8) (cs : List Char) :
    unescape (escapeByte b ++ cs) = b :: unescape cs := by
  simp [escapeByte, unescape, byteOfDigits?_escape]

/-- Escaped bytes in front of a text are read back: the induction step of the round trip. -/
theorem unescape_flatMap_escapeByte_append (bs : List UInt8) (cs : List Char) :
    unescape (bs.flatMap escapeByte ++ cs) = bs ++ unescape cs := by
  induction bs with
  | nil => rfl
  | cons b bs ih => rw [List.flatMap_cons, List.append_assoc, unescape_escapeByte_append, ih, List.cons_append]

/-- A character that starts no escape stands for its own bytes. -/
theorem unescape_cons_of_ne {c : Char} (h : c ≠ '%') (cs : List Char) :
    unescape (c :: cs) = String.utf8EncodeChar c ++ unescape cs := by
  rw [unescape]
  exact fun _ _ _ he => absurd he h

/-- Unescaping gives the bytes of the text that was escaped. -/
theorem unescape_escape {set : Char → Bool} (hp : set '%' = true) (cs : List Char) :
    unescape (escape set cs) = cs.flatMap String.utf8EncodeChar := by
  induction cs with
  | nil => rfl
  | cons c cs ih =>
    have hcons : escape set (c :: cs) = (if set c then escapeChar c else [c]) ++ escape set cs := rfl
    rw [hcons, List.flatMap_cons, ← ih]
    by_cases h : set c = true
    · simp only [h, if_true]
      exact unescape_flatMap_escapeByte_append _ _
    · simp only [h, Bool.false_eq_true, if_false, List.cons_append, List.nil_append]
      exact unescape_cons_of_ne (by rintro rfl; exact h hp) _

end AckDesk.Url
