import AckDesk.Text.Utf8

/-!
# Lines of input

Input is cut after each line feed. The line feed, and a carriage return before it, are no part of the line's text.
-/

namespace AckDesk.Prompt

def cutLines : List UInt8 → List (List UInt8)
  | [] => []
  | b :: bs =>
    if b = 0x0A then [b] :: cutLines bs
    else
      match cutLines bs with
      | [] => [[b]]
      | l :: ls => (b :: l) :: ls

/-- The characters without a line end. -/
def dropLineEnd (cs : List Char) : List Char :=
  match cs.reverse with
  | '\n' :: '\r' :: rest => rest.reverse
  | '\n' :: rest => rest.reverse
  | _ => cs

/-- The text of a line. -/
def lineText (bs : List UInt8) : Except Text.Utf8Error String :=
  (Text.decodeUtf8 bs).map fun s => .ofList (dropLineEnd s.toList)

def lineTexts (bs : List UInt8) : List (Except Text.Utf8Error String) := (cutLines bs).map lineText

end AckDesk.Prompt
