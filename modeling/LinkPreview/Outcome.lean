import LinkPreview.Http.Status
import LinkPreview.Page
import LinkPreview.Url.Previewable

/-!
# Outcomes

Asking for a preview of a page never fails: where the address is refused or the page
cannot be fetched, the preview shows nothing.
-/

namespace LinkPreview

/-- Why a page could not be fetched. -/
inductive FetchError where
  | timeout
  | request
  | status (code : Nat)
  | body
  deriving DecidableEq, Repr

/-- What an error says. Of a request or a body that failed, this is all that is known
without the network. -/
def FetchError.message : FetchError → String
  | timeout => "request timed out"
  | request => "request failed"
  | status code => "upstream returned HTTP " ++ Http.writeStatus code
  | body => "failed to read response body"

/-- Why a preview shows nothing. -/
inductive Degradation where
  | invalidUrl
  | fetch (error : FetchError)
  deriving DecidableEq, Repr

/-- What came of asking for a preview. -/
inductive Outcome where
  | extracted (metadata : Metadata)
  | degraded (why : Degradation)
  deriving DecidableEq, Repr

namespace Outcome

/-- Whether the preview shows nothing. -/
def isDegraded : Outcome → Bool
  | extracted _ => false
  | degraded _ => true

/-- What the preview shows. -/
def metadata : Outcome → Metadata
  | extracted m => m
  | degraded _ => {}

/-- What comes of a page that was fetched, or was not. -/
def ofPage (url : String) : Except FetchError String → Outcome
  | .ok markup => extracted (Page.metadata markup url)
  | .error e => degraded (.fetch e)

end Outcome

/-- What came of asking for a preview, and the pages that were fetched for it. -/
structure Visit where
  outcome : Outcome
  fetched : List String
  deriving DecidableEq, Repr

/-- Asks for a preview. A page is fetched only if its address may be previewed. -/
def visit (fetch : String → Except FetchError String) (url : String) : Visit :=
  if Url.isPreviewable url then ⟨.ofPage url (fetch url), [url]⟩
  else ⟨.degraded .invalidUrl, []⟩

end LinkPreview
