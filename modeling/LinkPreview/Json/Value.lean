import LinkPreview.Json.Text

/-!
# JSON values

A value is read from its words by keeping the arrays and objects that have begun and
not yet ended; what may come next is part of what is kept. So every word is looked at
once, and no depth of nesting is too great.

`Json.tokens` lists the words of a value. Between them and `Json.ofTokens?` nothing is
lost: a value is kept as it is written.
-/

namespace LinkPreview

/-- A JSON value. What a string says is `Json.text?`. -/
inductive Json where
  | null
  | bool (value : Bool)
  | number (written : List UInt8)
  | string (written : List UInt8)
  | array (items : List Json)
  | object (members : List (List UInt8 × Json))

namespace Json

mutual

/-- The words of a value. -/
def tokens : Json → List Token
  | null => [.null]
  | bool value => [.bool value]
  | number written => [.number written]
  | string written => [.string written]
  | array [] => [.openArray, .closeArray]
  | array (item :: items) =>
    .openArray :: (item.tokens ++ (itemTokens items ++ [.closeArray]))
  | object [] => [.openObject, .closeObject]
  | object ((key, value) :: members) =>
    .openObject :: .string key :: .colon ::
      (value.tokens ++ (memberTokens members ++ [.closeObject]))

/-- The words of the items behind the first one of an array. -/
def itemTokens : List Json → List Token
  | [] => []
  | item :: items => .comma :: (item.tokens ++ itemTokens items)

/-- The words of the members behind the first one of an object. -/
def memberTokens : List (List UInt8 × Json) → List Token
  | [] => []
  | (key, value) :: members =>
    .comma :: .string key :: .colon :: (value.tokens ++ memberTokens members)

end

/-- An array or an object that has begun, the latest part first. An object waits for
the value that belongs to a key. -/
inductive Frame where
  | array (items : List Json)
  | object (members : List (List UInt8 × Json)) (key : List UInt8)

/-- What may come next, and what has begun, the innermost first. A value or a key that
comes first may be missing altogether: the array or object is then empty. -/
inductive Reader where
  | value (isFirst : Bool) (frames : List Frame)
  | key (isFirst : Bool) (members : List (List UInt8 × Json)) (frames : List Frame)
  | colon (key : List UInt8) (members : List (List UInt8 × Json)) (frames : List Frame)
  | after (value : Json) (frames : List Frame)

namespace Reader

/-- Reads one more word. -/
def step : Reader → Token → Option Reader
  | value _ frames, .null => some (after .null frames)
  | value _ frames, .bool b => some (after (.bool b) frames)
  | value _ frames, .number written => some (after (.number written) frames)
  | value _ frames, .string written => some (after (.string written) frames)
  | value _ frames, .openArray => some (value true (.array [] :: frames))
  | value _ frames, .openObject => some (key true [] frames)
  | value true (.array _ :: frames), .closeArray => some (after (.array []) frames)
  | key _ members frames, .string written => some (colon written members frames)
  | key true _ frames, .closeObject => some (after (.object []) frames)
  | colon k members frames, .colon => some (value false (.object members k :: frames))
  | after v (.array items :: frames), .comma => some (value false (.array (v :: items) :: frames))
  | after v (.array items :: frames), .closeArray =>
    some (after (.array (v :: items).reverse) frames)
  | after v (.object members k :: frames), .comma => some (key false ((k, v) :: members) frames)
  | after v (.object members k :: frames), .closeObject =>
    some (after (.object ((k, v) :: members).reverse) frames)
  | _, _ => none

/-- The value, if it is complete and nothing else has begun. -/
def result? : Reader → Option Json
  | after v [] => some v
  | _ => none

end Reader

/-- The value of which these are the words. -/
def ofTokens? (ts : List Token) : Option Json := do
  (← ts.foldlM Reader.step (.value false [])).result?

/-- Reads a text that is one value, with blanks around its words. -/
def read? (s : List UInt8) : Option Json := do
  ofTokens? (← Token.readAll? s)

/-- Writes a value without blanks. -/
def write (j : Json) : List UInt8 :=
  j.tokens.flatMap Token.write

/-- What a written string says. -/
def textOf? (written : List UInt8) : Option String := do
  return String.ofList (← unescape? (← Text.Utf8.decode? written))

/-- What a value says, if it is a string. -/
def text? : Json → Option String
  | string written => textOf? written
  | _ => none

/-- How a text is written in a string. -/
def written (s : String) : List UInt8 :=
  Text.Utf8.encode (escape s.toList)

/-- The string that says a text. -/
def ofText (s : String) : Json :=
  string (written s)

/-- The string that says a text, or `null`. -/
def ofOptionalText : Option String → Json
  | none => null
  | some s => ofText s

/-- The object with the given members. -/
def ofMembers (members : List (String × Json)) : Json :=
  object (members.map fun (key, value) => (written key, value))

end Json

end LinkPreview
