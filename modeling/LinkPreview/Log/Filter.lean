import LinkPreview.Log.Record
import LinkPreview.Text.Alphanumeric
import LinkPreview.Text.Blank
import LinkPreview.Text.Numeral

/-!
# Log filters

A filter is a list of directives between commas. A directive lets the records of some
targets through up to a level: those whose target begins with its own, or all if it has
none. Where several directives are about a target, the one with the longest target counts,
and of two with the same target the later one. A directive may also be about a span, in
brackets; it lets nothing through outside of that span.
-/

namespace LinkPreview.Log

/-- A directive. Its limit is how many levels it lets through, from the gravest. -/
structure Directive where
  target : Option String := none
  isAboutSpan : Bool := false
  limit : Nat := 5
  deriving DecidableEq, Repr

/-- Reads a limit: the number of levels, or the name of the last one. -/
def readLimit? (s : List Char) : Option Nat :=
  match Text.readBounded? wordLimit s with
  | some n => if n ≤ 5 then some n else none
  | none =>
    if Text.eqIgnoringAsciiCase s "off".toList then some 0
    else
      (Level.all.find? fun l => Text.eqIgnoringAsciiCase s l.name.toList).map (·.rank)
where
  /-- The largest number that is read. -/
  wordLimit : Nat := UInt64.size - 1

namespace Directive

/-- Whether a directive may begin with a character, brackets aside. -/
def canStart (c : Char) : Bool :=
  ['-', ':', '_'].contains c || Text.isAlphanumeric c

/-- Reads the limit behind an equals sign. Without one, all levels are meant. -/
def readLimitBehind? (d : Directive) (s : List Char) : Option Directive :=
  if s.isEmpty then some d else (readLimit? s).map ({ d with limit := · })

/-- Whether a text between brackets names a span, its fields, or both. -/
def isSpan (s : List Char) : Bool :=
  match s.dropWhile (· != '\x7b') with
  | [] => true
  | _ :: fields =>
    fields.getLast? = some '\x7d' && !fields.dropLast.contains '\x7d' && 2 ≤ fields.length

/-- Reads what stands behind an opening bracket. -/
def readSpan? (d : Directive) (s : List Char) : Option Directive :=
  match s.dropWhile (· != ']') with
  | [] => none
  | _ :: rest =>
    if isSpan (s.takeWhile (· != ']')) then
      match rest with
      | [] => some { d with isAboutSpan := true }
      | '=' :: rest => readLimitBehind? { d with isAboutSpan := true } rest
      | _ => none
    else none

/-- Reads a directive. A word that is no limit is a target. -/
def read? (s : List Char) : Option Directive :=
  match s with
  | [] => none
  | '[' :: rest => readSpan? {} rest
  | c :: _ =>
    if canStart c then
      let word := s.takeWhile fun c => c != '=' && c != '['
      let d : Directive := { target := some (String.ofList word) }
      match s.drop word.length with
      | [] =>
        match readLimit? s with
        | some limit => some { limit := limit }
        | none => some d
      | '=' :: rest => readLimitBehind? d rest
      | _ :: rest => readSpan? d rest
    else none

/-- Whether a directive is about the records of a target. -/
def isAbout (d : Directive) (target : String) : Bool :=
  !d.isAboutSpan && d.target.all fun t => target.startsWith t

end Directive

/-- A filter, by its directives. -/
abbrev Filter := List Directive

namespace Filter

/-- Reads a filter. -/
def read? (text : String) : Option Filter :=
  ((Text.splitWhere (· == ',') text.toList).filter (!·.isEmpty)).mapM Directive.read?

/-- The filter that lets all targets through up to a level. -/
def upTo (level : Level) : Filter := [{ limit := level.rank }]

/-- How long the target of a directive is, with none below all others. -/
def precision (d : Directive) : Nat :=
  match d.target with
  | none => 0
  | some target => target.utf8ByteSize + 1

/-- How many levels of a target are let through. A filter without directives lets errors
through. -/
def limit (f : Filter) (target : String) : Nat :=
  if f.isEmpty then Level.error.rank
  else
    match (f.filter (·.isAbout target)).foldl (fun best d =>
        match best with
        | some b => if precision b ≤ precision d then some d else best
        | none => some d) (none : Option Directive) with
    | some d => d.limit
    | none => 0

/-- Whether a record is let through. -/
def lets (f : Filter) (r : Record) : Bool :=
  r.level.rank ≤ f.limit r.target

end Filter

end LinkPreview.Log
