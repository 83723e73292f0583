/-!
# Summaries of a dimension

A card shows of each dimension the first value as stored, and how many more there are; an empty dimension reads
"All".
-/

namespace AckDesk

/-- The first value of a list, and the number of the others. -/
structure Summary where
  first : Option String
  others : Nat
deriving DecidableEq

namespace Summary

def ofValues (vs : List String) : Summary := ⟨vs.head?, vs.length - 1⟩

/-- The part in front of the count. -/
def lead (s : Summary) : String := s.first.getD "All"

/-- The count of the other values, if there are any. -/
def count? (s : Summary) : Option String := if s.others = 0 then none else some s!" (+{s.others})"

def line (s : Summary) : String := s.lead ++ s.count?.getD ""

end Summary

end AckDesk
