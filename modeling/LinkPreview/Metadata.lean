/-!
# Metadata

What a preview shows of a page: each part may be missing, independently of the others.
-/

namespace LinkPreview

/-- What a preview shows of a page. -/
structure Metadata where
  title : Option String := none
  description : Option String := none
  image : Option String := none
  favicon : Option String := none
  deriving DecidableEq, Repr

/-- Whether a preview shows nothing. -/
def Metadata.isEmpty (m : Metadata) : Bool :=
  m.title.isNone && m.description.isNone && m.image.isNone && m.favicon.isNone

end LinkPreview
