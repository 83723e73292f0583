import AckDesk.Text.Blank

/-!
# The text box of a chip set

New chips are typed into a text box with an add control beside it. The box commits text that is not blank, on Enter
or on a click of the control, and is empty after that. The control appears when the box gets the focus; it goes
when the box loses the focus while blank, or when a click of it commits.
-/

namespace AckDesk

/-- What happens at the text box of a chip set. -/
inductive BoxEvent where
  | textChanged (text : String)
  | focused
  | blurred
  | enterPressed
  | addClicked
deriving DecidableEq

/-- The text box under a chip set, and whether its add control is shown. -/
structure ChipBox where
  text : String := ""
  addShown : Bool := false
deriving DecidableEq

namespace ChipBox

/-- The box holds nothing that could be committed. -/
def isBlank (b : ChipBox) : Bool := Text.isBlankText b.text

/-- The box after an event, and the text that it commits, if any. -/
def step (b : ChipBox) : BoxEvent → ChipBox × Option String
  | .textChanged text => ({ b with text }, none)
  | .focused => ({ b with addShown := true }, none)
  | .blurred => ({ b with addShown := b.addShown && !b.isBlank }, none)
  | .enterPressed => if b.isBlank then (b, none) else ({ b with text := "" }, some b.text)
  | .addClicked => if b.isBlank then (b, none) else ({}, some b.text)

end ChipBox

end AckDesk
