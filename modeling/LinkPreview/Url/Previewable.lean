import LinkPreview.Url.Reading

/-!
# Addresses that can be previewed

A page is previewed only at an address of the web whose host is written out. Reading
an address alone does not say so: browsers find a host behind any number of slashes.
-/

namespace LinkPreview.Url

/-- Whether a text begins with a scheme, a colon, two slashes and a character that is
not the end of a host. -/
def hasWrittenHost (scheme : String) (text : List Char) : Bool :=
  let written := text.dropWhile (·.toNat ≤ 0x20)
  match Text.dropStart? "://".toList (written.drop scheme.length) with
  | some (c :: _) => !(['/', '\\', '?', '#'].contains c)
  | _ => false

/-- Whether the page at an address can be previewed. -/
def isPreviewable (text : String) : Bool :=
  match read? text with
  | none => false
  | some u =>
    ["http", "https"].contains u.scheme && hasWrittenHost u.scheme text.toList &&
      (u.host.map Host.write).getD "" != ""

/-- An address that can be previewed is read, and its scheme is one of the web. -/
theorem exists_read?_of_isPreviewable {text : String} (h : isPreviewable text = true) :
    ∃ u, read? text = some u ∧ u.scheme ∈ ["http", "https"] := by
  unfold isPreviewable at h
  split at h
  · cases h
  · rename_i u hu
    simp only [Bool.and_eq_true, List.contains_iff_mem] at h
    exact ⟨u, hu, h.1.1⟩

end LinkPreview.Url
