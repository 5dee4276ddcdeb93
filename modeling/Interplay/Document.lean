import Interplay.Value.Fields
import Interplay.Value.Fingerprint

/-!
Documents: what answers consist of.

A value stands in a document in one of two ways.  With marks it can be told from every other value;
bare, it is what JSON makes of it.
-/

namespace Interplay

inductive Document where
  /-- A value, with marks for what JSON has no form for. -/
  | value (content : Value)
  /-- A value in JSON's own forms. -/
  | bare (content : Value)
  | list (items : List Document)
  | object (fields : List (String × Document))

namespace Document

instance : Coe Value Document := ⟨value⟩

def null : Document := value .null

def text (content : String) : Document := value (.text content)

/-- Documents under names of any kind; a name that is no text stands there as JSON would write
it. -/
def keyed (entries : Keyed Scalar Document) : Document :=
  object (entries.map fun entry => (entry.1.keyText, entry.2))

end Document
end Interplay
