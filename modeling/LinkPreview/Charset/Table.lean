/-!
# Tables of characters

A charset without a rule is a table: characters in numbered places, some of which are
empty.
-/

namespace LinkPreview.Charset

/-- Characters in numbered places. A full stop marks an empty place; none of the tables
holds one as a character. -/
structure Table where
  cells : Array Char

namespace Table

/-- The table whose places hold the characters of a text, line by line. -/
def ofRows (rows : List String) : Table :=
  ⟨(rows.flatMap String.toList).toArray⟩

/-- The character in a place. -/
def get? (t : Table) (place : Nat) : Option Char :=
  t.cells[place]?.filter (· != '.')

end Table

end LinkPreview.Charset
