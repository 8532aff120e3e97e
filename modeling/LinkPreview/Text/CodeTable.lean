/-!
# Tables of code points

A set of characters is stored as inclusive ranges of code points in increasing
order, and a property of characters as such ranges with a value each. Both are
searched by halving.
-/

namespace LinkPreview.Text

/-- Searches the entries with index at least `lo` and below `hi` of a sorted table.
`order` compares an entry with what is looked for. -/
def bisect? {α : Type} (table : Array α) (order : α → Ordering) (lo hi : Nat) : Option α :=
  if lo < hi then
    let mid := (lo + hi) / 2
    match table[mid]? with
    | none => none
    | some entry =>
      match order entry with
      | .gt => bisect? table order lo mid
      | .lt => bisect? table order (mid + 1) hi
      | .eq => some entry
  else none
termination_by hi - lo
decreasing_by all_goals omega

/-- Compares a range with a code point: a range lies before the code points above
it and behind those below it. -/
def rangeOrder (first last code : Nat) : Ordering :=
  if code < first then .gt else if last < code then .lt else .eq

/-- Inclusive ranges of code points, disjoint and in increasing order. -/
structure CodeTable where
  ranges : Array (Nat × Nat)

/-- Whether one of the ranges holds the code point of `c`. -/
def CodeTable.contains (t : CodeTable) (c : Char) : Bool :=
  (bisect? t.ranges (fun (first, last) => rangeOrder first last c.toNat) 0 t.ranges.size).isSome

/-- The value that a table of ranges gives to a character. -/
def rangeValue? {α : Type} (table : Array (Nat × Nat × α)) (c : Char) : Option α :=
  (bisect? table (fun (first, last, _) => rangeOrder first last c.toNat) 0 table.size).map (·.2.2)

end LinkPreview.Text
