import Mathlib.Tactic.SplitIfs
import LinkPreview.Proofs.Page.FirstIcon

/-!
# Previews that show nothing

A preview is degraded when the address is refused or the page cannot be fetched, and then shows
nothing at all. Whatever is fetched has an icon: an address that may be previewed is one that can
be read, and each way in which an icon is found gives it some address. So a preview that shows
nothing is known by that alone.
-/

namespace LinkPreview

namespace Page

/-! ## Icons -/

theorem iconAddress?_ne_some_empty (items : List Item) : iconAddress? items ≠ some "" := by
  intro h
  obtain ⟨link, -, reference, -, -, hne⟩ := iconAddress?_eq_some_iff.mp h
  exact hne rfl

/-- An icon is found somewhere, unless an empty address is given for it. -/
theorem resolveIcon_ne_empty (source : Url) {address : Option String} (h : address ≠ some "") :
    resolveIcon source address ≠ "" := by
  cases address with
  | none => simp [resolveIcon]
  | some a =>
      have ha : a ≠ "" := fun he => h (congrArg some he)
      simp only [resolveIcon]
      split_ifs
      · exact ha
      all_goals simp [ha]

/-- A page whose address can be read has an icon, whatever its markup is. -/
theorem exists_favicon_metadata (markup : String) {source : String} {u : Url}
    (h : Url.read? source = some u) :
    ∃ icon, (metadata markup source).favicon = some icon ∧ icon ≠ "" := by
  have hicon := iconAddress?_ne_some_empty (items (Html.Tree.read markup))
  exact ⟨_, icon?_of_read? h _, resolveIcon_ne_empty u hicon⟩

end Page

/-! ## Visits -/

variable (fetch : String → Except FetchError String) (url : String)

theorem outcome_of_not_isPreviewable (hu : Url.isPreviewable url = false) :
    (visit fetch url).outcome = .degraded .invalidUrl := by
  simp [visit, hu]

theorem outcome_of_isPreviewable (hu : Url.isPreviewable url = true) :
    (visit fetch url).outcome = .ofPage url (fetch url) := by
  simp [visit, hu]

/-- A page that was fetched is shown with an icon. -/
theorem exists_favicon_visit {fetch : String → Except FetchError String} {url markup : String}
    (hu : Url.isPreviewable url = true) (hf : fetch url = .ok markup) :
    ∃ icon, (visit fetch url).outcome.metadata.favicon = some icon ∧ icon ≠ "" := by
  obtain ⟨u, hread, -⟩ := Url.exists_read?_of_isPreviewable hu
  rw [outcome_of_isPreviewable fetch url hu, hf]
  exact Page.exists_favicon_metadata markup hread

/-- What comes of asking for a preview: the address is refused, or its page cannot be fetched, or
it is fetched and shown with an icon. -/
inductive Visited (fetch : String → Except FetchError String) (url : String) : Outcome → Prop where
  | refused (hu : Url.isPreviewable url = false) : Visited fetch url (.degraded .invalidUrl)
  | failed {e : FetchError} (hu : Url.isPreviewable url = true) (hf : fetch url = .error e) :
      Visited fetch url (.degraded (.fetch e))
  | shown {markup icon : String} {m : Metadata} (hu : Url.isPreviewable url = true)
      (hf : fetch url = .ok markup) (hm : m.favicon = some icon) (hi : icon ≠ "") :
      Visited fetch url (.extracted m)

theorem visited_visit : Visited fetch url (visit fetch url).outcome := by
  cases hu : Url.isPreviewable url with
  | false =>
      rw [outcome_of_not_isPreviewable fetch url hu]
      exact .refused hu
  | true =>
      cases hf : fetch url with
      | error e =>
          rw [outcome_of_isPreviewable fetch url hu, hf]
          exact .failed hu hf
      | ok markup =>
          obtain ⟨icon, hm, hi⟩ := exists_favicon_visit hu hf
          rw [outcome_of_isPreviewable fetch url hu, hf] at hm ⊢
          exact .shown hu hf hm hi

/-- A preview is degraded exactly when its address is refused or its page cannot be fetched, and
exactly then it shows nothing: neither a title nor a description, an image or an icon. A page that
was fetched is shown with an icon at least, however malformed or empty its markup is. -/
theorem degraded_iff_shows_nothing :
    ((visit fetch url).outcome.isDegraded = true ↔
        Url.isPreviewable url = false ∨ ∃ e, fetch url = .error e) ∧
      ((visit fetch url).outcome.metadata.isEmpty = true ↔
        (visit fetch url).outcome.isDegraded = true) ∧
      ((visit fetch url).outcome.isDegraded = true →
        (visit fetch url).outcome.metadata = ⟨none, none, none, none⟩) ∧
      ∀ markup, Url.isPreviewable url = true → fetch url = .ok markup →
        ∃ icon, (visit fetch url).outcome.metadata.favicon = some icon ∧ icon ≠ "" := by
  have hicon : ∀ markup, Url.isPreviewable url = true → fetch url = .ok markup →
      ∃ icon, (visit fetch url).outcome.metadata.favicon = some icon ∧ icon ≠ "" :=
    fun _ hu hf => exists_favicon_visit hu hf
  have hvisit := visited_visit fetch url
  generalize (visit fetch url).outcome = outcome at hicon hvisit ⊢
  refine ⟨?_, ?_, ?_, hicon⟩
  · cases hvisit with
    | refused hu => simp [Outcome.isDegraded, hu]
    | failed hu hf => simp [Outcome.isDegraded, hf]
    | shown hu hf => simp [Outcome.isDegraded, hu, hf]
  · cases hvisit with
    | refused | failed => simp [Outcome.isDegraded, Outcome.metadata, Metadata.isEmpty]
    | shown hu hf hm => simp [Outcome.isDegraded, Outcome.metadata, Metadata.isEmpty, hm]
  · intro hd
    cases hvisit with
    | refused | failed => rfl
    | shown => cases hd

/-- Of one page that is no markup at all an icon is shown, and of one that does not come nothing. -/
theorem degraded_iff_shows_nothing_of_malformed :
    (visit (fun _ => .ok "<<&#xD800;") "http://[::1]").outcome.metadata.isEmpty = false ∧
      (visit (fun _ => .error .timeout) "http://[::1]").outcome.metadata.isEmpty = true := by
  have hu : Url.isPreviewable "http://[::1]" = true := by decide +kernel
  obtain ⟨hdegraded, hempty, -⟩ :=
    degraded_iff_shows_nothing (fun _ => .ok "<<&#xD800;") "http://[::1]"
  obtain ⟨hdegraded', hempty', -⟩ :=
    degraded_iff_shows_nothing (fun _ => .error .timeout) "http://[::1]"
  refine ⟨?_, hempty'.mpr (hdegraded'.mpr (.inr ⟨_, rfl⟩))⟩
  rw [Bool.eq_false_iff, Ne, hempty, hdegraded]
  simp [hu]

end LinkPreview
