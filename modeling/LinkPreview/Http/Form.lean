import LinkPreview.Text.Blank
import LinkPreview.Url.Percent

/-!
# Forms

A form is a list of keys with values, as the query of a request holds it: the pairs stand
between ampersands, an equals sign divides each, a plus sign is a space, and other
characters are written as their bytes.
-/

namespace LinkPreview.Http.Form

/-- What a key or a value says. -/
def decode (s : List Char) : String :=
  let spaced := s.map fun c => if c == '+' then ' ' else c
  String.ofList (Text.Utf8.decodeLossy (Url.percentDecode (Text.Utf8.encode spaced)))

/-- Reads a pair; without an equals sign the value is empty. -/
def readPair (s : List Char) : String × String :=
  (decode (s.takeWhile (· != '=')), decode ((s.dropWhile (· != '=')).drop 1))

/-- Reads a form. -/
def read (s : String) : List (String × String) :=
  ((Text.splitWhere (· == '&') s.toList).filter (!·.isEmpty)).map readPair

end LinkPreview.Http.Form
