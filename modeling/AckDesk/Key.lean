import AckDesk.Text.Blank

/-!
# Keys

A key names a stored record. The backend makes it on the first save and sends it back as the whole body of its
reply, either as plain text or in double quotes, with blanks around it; `Key.ofReply?` takes off the blanks and one
pair of quotes, and finds no key in what is left if that is empty.
-/

namespace AckDesk

/-- The name under which the backend stores a record. -/
structure Key where
  text : String
deriving DecidableEq

namespace Key

/-- The characters between a first and a last double quote, if there are two such quotes. -/
def insideQuotes? : List Char → Option (List Char)
  | '"' :: rest => if rest.getLast? = some '"' then some rest.dropLast else none
  | _ => none

/-- The key that the body of a reply carries. -/
def ofReply? (body : String) : Option Key :=
  let trimmed := Text.trimChars body.toList
  let key := (insideQuotes? trimmed).getD trimmed
  if key = [] then none else some ⟨.ofList key⟩

/-- A quoted text has its middle inside the quotes. -/
theorem insideQuotes?_quoted (cs : List Char) : insideQuotes? ('"' :: cs ++ ['"']) = some cs := by
  simp [insideQuotes?]

/-- Only a quoted text has something inside its quotes, and it is the middle. -/
theorem insideQuotes?_eq_some {cs ds : List Char} (h : insideQuotes? cs = some ds) : cs = '"' :: ds ++ ['"'] := by
  unfold insideQuotes? at h
  split at h
  · rename_i rest
    split at h
    · rename_i hlast
      obtain rfl := Option.some.inj h
      obtain ⟨init, hinit⟩ := List.getLast?_eq_some_iff.1 hlast
      simp [hinit]
    · simp at h
  · simp at h

end Key

end AckDesk
