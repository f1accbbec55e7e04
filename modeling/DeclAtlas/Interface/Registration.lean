import DeclAtlas.Interface.Form
import DeclAtlas.Nesting.Call

/-!
# Registration blocks

A registration block is read line by line: blank lines and lines that begin a comment are passed
over, the first form that claims a line gives its entry, and a line that no form claims says
nothing.  A documentation override takes its whole call, and the lines of the call are not read
again.
-/

namespace DeclAtlas

open Text Nesting

/-- Whether a trimmed line is blank or begins a comment. -/
def isSkippable (l : Line) : Bool :=
  l.isEmpty || startsWith ['/', '/'] l || startsWith ['/', '*'] l

/-- The text of the override that begins on the first of the lines, and how many further lines it
takes. -/
def gatherOverride (kind : OverrideKind) (ls : List Line) : DocOverride × Nat :=
  let g := gather ls
  (⟨kind, String.ofList (argumentOf kind.macroName.toList g.joined)⟩, g.extra)

/-- The entry of a line and the number of further lines it takes, under a table of forms. -/
def entryWith? (table : List Form) (l : Line) (later : List Line) : Option (Entry × Nat) :=
  if isSkippable (trim l) then none
  else match claimWith? table (trim l) with
    | none => none
    | some (.entry e) => some (e, 0)
    | some (.spanning kind) =>
      let o := gatherOverride kind (l :: later)
      some (.docOverride o.1, o.2)

/-- The entries of a block, in order, under a table of forms. -/
def entriesWith (table : List Form) (block : List Line) : List Entry :=
  readForms (entryWith? table) block.length 0 block

/-- The entries of a registration block. -/
def entries (block : List Line) : List Entry := entriesWith forms block

namespace Interface

/-- The interface with what a registration block declares. -/
def register (i : Interface) (block : List Line) : Interface := i.addAll (entries block)

/-- The interface with what the lines of a text declare. -/
def registerText (i : Interface) (text : String) : Interface := i.register (linesOf text)

end Interface

end DeclAtlas
