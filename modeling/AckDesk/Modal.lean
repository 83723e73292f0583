import AckDesk.Editor

/-!
# The modal region

One editor is open at a time. Opening another replaces it without asking, and every opening has a number of its
own, so that a call which settles late can tell whether the region still shows the editor that made it.
-/

namespace AckDesk

open View

/-- The region that shows one editor, or none. -/
structure Modal where
  editor : Option Editor := none
  lastSession : Nat := 0

namespace Modal

def nextSession (m : Modal) : Session := ⟨m.lastSession + 1⟩

/-- Opens an entry's record in place of what is shown. -/
def openOn (m : Modal) (entry : EntryId) (r : Record) : Modal :=
  ⟨some (.ofRecord entry m.nextSession r), m.lastSession + 1⟩

def close (m : Modal) : Modal := { m with editor := none }

def isOpen (m : Modal) : Bool := m.editor.isSome

/-- The open editor is the one of this opening. -/
def isShowing (m : Modal) (s : Session) : Bool := m.editor.any (·.session == s)

/-- The open editor is on this entry. -/
def isOn (m : Modal) (entry : EntryId) : Bool := m.editor.any (·.entry == entry)

/-- Closes the region if it shows this opening. -/
def closeIfShowing (m : Modal) (s : Session) : Modal := if m.isShowing s then m.close else m

/-- Closes the region if it shows this entry. -/
def closeIfOn (m : Modal) (entry : EntryId) : Modal := if m.isOn entry then m.close else m

def modifyEditor (m : Modal) (f : Editor → Editor) : Modal := { m with editor := m.editor.map f }

/-- The region, hidden while nothing is open. -/
def view (m : Modal) (a : Access) : Node :=
  .mk { kind := .modal, className := "modal", hidden := !m.isOpen } (m.editor.map (·.view a)).toList

end Modal

end AckDesk
