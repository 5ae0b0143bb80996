import Byline.Filter.Expression
import Byline.Pattern.Reader
import Byline.Pattern.Search

/-!
# Filters

Filters choose types by their dotted name and authors by their name. A filter is read by writing it
out as the text of a pattern (`Filter.typeExpression`, `Filter.authorExpression`) and reading that
text; a filter of types has to cover the whole name.
-/

namespace Byline

/-- A filter of types. -/
structure TypeFilter where
  /-- The filter as written. -/
  text : String
  /-- What it stands for. -/
  pattern : Pattern

namespace TypeFilter

/-- The filter of that text, if it is one. -/
def read? (text : String) : Option TypeFilter :=
  (Pattern.read? (Filter.anchored (Filter.typeExpression text.toList))).map (⟨text, ·⟩)

/-- Does the filter cover the name of a type? A blank filter covers none, and no filter covers a
type without a name. -/
def accepts (f : TypeFilter) (name : Option String) : Bool :=
  if (trim f.text.toList).isEmpty then false
  else name.any fun n => f.pattern.found n.toList

end TypeFilter

/-- A filter of authors. -/
structure AuthorFilter where
  /-- The filter as written. -/
  text : String
  /-- What it stands for. -/
  pattern : Pattern

namespace AuthorFilter

/-- The filter of that text, if it is one. -/
def read? (text : String) : Option AuthorFilter :=
  (Pattern.read? (Filter.authorExpression text.toList)).map (⟨text, ·⟩)

/-- Does the filter cover the name? -/
def accepts (f : AuthorFilter) (name : String) : Bool := f.pattern.found name.toList

end AuthorFilter

end Byline
