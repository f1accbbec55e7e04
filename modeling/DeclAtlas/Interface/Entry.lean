import DeclAtlas.Interface.Basic

/-!
# Registration entries

One registration form stands for one entry, and an interface grows by one entry at a time.  Lists
grow at the end; the serialization tag, the callable and the wildcard getter are single slots that
the last entry wins.
-/

namespace DeclAtlas

/-- What one registration form declares. -/
inductive Entry where
  | inherits (i : Inheritance)
  | method (m : Method)
  | property (p : Property)
  | callable (method : String)
  | wildcard (getter : String)
  | constant (c : Constant)
  | nestedType (t : NestedType)
  | iterator (h : Hook)
  | disposer (h : Hook)
  | serialization (t : SerializationTag)
  | docOverride (o : DocOverride)
  | scriptBundle (name : String)
  deriving Repr, DecidableEq

namespace Interface

/-- The interface with one more entry. -/
def add (i : Interface) : Entry → Interface
  | .inherits x => { i with inheritedFrom := i.inheritedFrom ++ [x] }
  | .method m => i.addMethod m
  | .property p => i.addProperty p
  | .callable m => { i with callableVia := some m }
  | .wildcard g => { i with wildcardGetter := some g }
  | .constant c => { i with constants := i.constants ++ [c] }
  | .nestedType t => { i with nestedTypes := i.nestedTypes ++ [t] }
  | .iterator h => { i with iterators := i.iterators ++ [h] }
  | .disposer h => { i with disposers := i.disposers ++ [h] }
  | .serialization t => { i with serializationTag := some t }
  | .docOverride o => { i with docOverrides := i.docOverrides ++ [o] }
  | .scriptBundle b => { i with scriptBundles := i.scriptBundles ++ [b] }

/-- The interface with all of some entries, in order. -/
def addAll (i : Interface) (es : List Entry) : Interface := es.foldl add i

theorem addAll_append (i : Interface) (es fs : List Entry) :
    i.addAll (es ++ fs) = (i.addAll es).addAll fs := by
  simp [addAll]

end Interface

end DeclAtlas
