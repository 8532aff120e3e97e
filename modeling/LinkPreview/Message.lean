import LinkPreview.Json.Value
import LinkPreview.Metadata
import LinkPreview.Moment.Reading

/-!
# Messages

What the service is asked for on the job queue, what it answers on the result queue, and
what it answers to a visitor. Each kind of message is a JSON object whose members stand
in a fixed order, and is read back from an object in any order, which may have other
members too, or from an array of just the values in order. A member that may be absent
may be missing from an object, and an absent one is written as `null`.
-/

namespace LinkPreview

/-- Asks for a preview of a page, in the name of something that has an id. -/
structure Job where
  id : String
  url : String
  deriving DecidableEq, Repr

/-- What came of a job. -/
structure JobResult where
  id : String
  metadata : Metadata
  fetchedAt : Moment
  deriving DecidableEq

/-- The preview of a page that a visitor asked for. -/
structure Preview where
  url : String
  metadata : Metadata
  fetchedAt : Moment
  deriving DecidableEq

namespace Json

/-- The members of an object with what their keys say, if every key says something. -/
def namedMembers? (members : List (List UInt8 × Json)) : Option (List (String × Json)) :=
  members.mapM fun (key, value) => (textOf? key).map (·, value)

/-- The value of the member with the given name, of which there is one at most. -/
def member? (members : List (String × Json)) (name : String) : Option (Option Json) :=
  match members.filter (·.1 == name) with
  | [] => some none
  | [(_, value)] => some (some value)
  | _ => none

/-- The values of the members with the given names, from an object or an array. -/
def values? (names : List String) : Json → Option (List (Option Json))
  | object members => do
    let members ← namedMembers? members
    names.mapM (member? members)
  | array items => if items.length = names.length then some (items.map some) else none
  | _ => none

/-- The text of a member that must be there. -/
def required? (value : Option Json) : Option String := do
  (← value).text?

/-- The text of a member that may be missing or `null`. -/
def optional? : Option Json → Option (Option String)
  | none | some null => some none
  | some value => value.text?.map some

end Json

/-- Reads the four members of the metadata. -/
def Metadata.ofValues? (title description image favicon : Option Json) : Option Metadata := do
  return {
    title := ← Json.optional? title
    description := ← Json.optional? description
    image := ← Json.optional? image
    favicon := ← Json.optional? favicon }

/-- The members that hold metadata. -/
def Metadata.members (m : Metadata) : List (String × Json) :=
  [("title", .ofOptionalText m.title), ("description", .ofOptionalText m.description),
    ("image", .ofOptionalText m.image), ("favicon", .ofOptionalText m.favicon)]

/-- The names of the members that hold metadata. -/
def Metadata.names : List String :=
  ["title", "description", "image", "favicon"]

/-- The moment that a member tells. -/
def Moment.ofValue? (value : Option Json) : Option Moment := do
  Moment.read? (← Json.required? value).toList

/-- The value that tells a moment. -/
def Moment.toJson (m : Moment) : Json :=
  .ofText (String.ofList m.write)

/-- Metadata as a value. -/
def Metadata.toJson (m : Metadata) : Json :=
  .ofMembers m.members

/-- Reads metadata from a value. -/
def Metadata.ofJson? (j : Json) : Option Metadata := do
  match ← j.values? Metadata.names with
  | [title, description, image, favicon] => ofValues? title description image favicon
  | _ => none

/-- A job as a value. -/
def Job.toJson (job : Job) : Json :=
  .ofMembers [("urlId", .ofText job.id), ("originalUrl", .ofText job.url)]

/-- Reads a job from a value. -/
def Job.ofJson? (j : Json) : Option Job := do
  match ← j.values? ["urlId", "originalUrl"] with
  | [id, url] => return ⟨← Json.required? id, ← Json.required? url⟩
  | _ => none

/-- A result as a value. -/
def JobResult.toJson (r : JobResult) : Json :=
  .ofMembers
    (("urlId", .ofText r.id) :: (r.metadata.members ++ [("fetchedAt", r.fetchedAt.toJson)]))

/-- Reads a result from a value. -/
def JobResult.ofJson? (j : Json) : Option JobResult := do
  match ← j.values? ("urlId" :: (Metadata.names ++ ["fetchedAt"])) with
  | [id, title, description, image, favicon, fetchedAt] =>
    return ⟨← Json.required? id, ← Metadata.ofValues? title description image favicon,
      ← Moment.ofValue? fetchedAt⟩
  | _ => none

/-- A preview as a value. -/
def Preview.toJson (p : Preview) : Json :=
  .ofMembers
    (("url", .ofText p.url) :: (p.metadata.members ++ [("fetched_at", p.fetchedAt.toJson)]))

/-- Reads a preview from a value. -/
def Preview.ofJson? (j : Json) : Option Preview := do
  match ← j.values? ("url" :: (Metadata.names ++ ["fetched_at"])) with
  | [url, title, description, image, favicon, fetchedAt] =>
    return ⟨← Json.required? url, ← Metadata.ofValues? title description image favicon,
      ← Moment.ofValue? fetchedAt⟩
  | _ => none

/-- Metadata as it is written. -/
def Metadata.encode (m : Metadata) : List UInt8 := m.toJson.write

/-- Reads metadata. -/
def Metadata.decode? (s : List UInt8) : Option Metadata := do ofJson? (← Json.read? s)

/-- A job as it is written. -/
def Job.encode (job : Job) : List UInt8 := job.toJson.write

/-- Reads a job. -/
def Job.decode? (s : List UInt8) : Option Job := do ofJson? (← Json.read? s)

/-- A result as it is written. -/
def JobResult.encode (r : JobResult) : List UInt8 := r.toJson.write

/-- Reads a result. -/
def JobResult.decode? (s : List UInt8) : Option JobResult := do ofJson? (← Json.read? s)

/-- A preview as it is written. -/
def Preview.encode (p : Preview) : List UInt8 := p.toJson.write

/-- Reads a preview. -/
def Preview.decode? (s : List UInt8) : Option Preview := do ofJson? (← Json.read? s)

end LinkPreview
