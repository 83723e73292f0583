import AckDesk.Access
import AckDesk.Chip.Set
import AckDesk.View.Node

/-!
# The view of a chip set

A chip set shows its label, a mark that stands for all values while it is empty, and a chip for each value. A user
who may edit also gets a control on each chip that removes it, and the text box.
-/

namespace AckDesk

open View

/-- The text box of a dimension with its add control. -/
def ChipBox.view (b : ChipBox) (d : Dimension) : Node :=
  .mk { kind := .container, className := "input-container" } [
    .leaf { kind := .textField, text := b.text, placeholder := some d.placeholder, affordance := some (.chipField d) },
    .leaf { kind := .icon .add, className := "add-button", hidden := !b.addShown, affordance := some (.addChip d) }]

namespace ChipSet

/-- The control on a chip that removes it. -/
def removeControl (d : Dimension) (v : String) : Node :=
  .leaf { kind := .icon .clear, className := "close", affordance := some (.removeChip d v) }

/-- A chip with the control that removes it, if the user may. -/
def chipView (a : Access) (d : Dimension) (v : String) : Node :=
  .mk { kind := .chip, className := "chip", text := v } (a.whenWritable (removeControl d v)).toList

/-- The label of the dimension with the mark for all values, which is hidden while there are values. -/
def headerView (s : ChipSet) (d : Dimension) : Node :=
  .mk { kind := .heading, className := "chip-set-header", text := d.label } [
    .leaf { kind := .allIndicator, className := "all-indicator", text := " All", hidden := !s.values.isEmpty }]

def view (s : ChipSet) (a : Access) (d : Dimension) : Node :=
  .mk { kind := .container, className := "chip-set" } (
    s.headerView d ::
    .mk { kind := .container, className := "chips" } (s.values.map (chipView a d)) ::
    (a.whenWritable (s.box.view d)).toList)

end ChipSet

end AckDesk
