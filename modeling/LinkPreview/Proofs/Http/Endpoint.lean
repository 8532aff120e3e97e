import Mathlib.Data.List.TakeWhile
import LinkPreview.Http.Sharing
import LinkPreview.Proofs.Http.Form

/-!
# Requests and what is fetched for them

A request makes the service fetch a page only if it asks for a preview, gives one address, and
this may be previewed. Then the page is fetched once and the answer is good; any other request for
a preview is refused. A query with an address in it can be written for every address, as long as
the target is not too long.
-/

namespace LinkPreview.Http

open LinkPreview.Http.Form

variable {s : Surroundings} {method text query url : String} {target : Target}

/-! ## Targets -/

/-- A path with a query is a target, unless it is too long. -/
theorem Target.read?_of_query {path query : List Char} (hs : path.head? = some '/')
    (hp : ∀ c ∈ path, isPathChar c = true) (hq : ∀ c ∈ query, isQueryChar c = true) :
    Target.read? (String.ofList (path ++ '?' :: query)) =
      if maxBytes < (Text.Utf8.encode (path ++ '?' :: query)).length then none
      else some ⟨String.ofList path, some (String.ofList query)⟩ := by
  obtain ⟨rest, rfl⟩ := List.head?_eq_some_iff.mp hs
  have hpath : (('/' :: rest) ++ '?' :: query).takeWhile (fun c => c != '?' && c != '#') =
      '/' :: rest := by
    have hkept : ∀ c ∈ '/' :: rest, (c != '?' && c != '#') = true := by
      intro c hc
      have hquestion := ne_of_class (hp c hc) (show isPathChar '?' = false from rfl)
      have hhash := ne_of_class (hp c hc) (show isPathChar '#' = false from rfl)
      simp [hquestion, hhash]
    rw [List.takeWhile_append_of_pos hkept]
    simp
  have hquery : query.takeWhile (· != '#') = query := by
    apply List.takeWhile_eq_self_iff.mpr
    intro c hc
    simpa using ne_of_class (hq c hc) (show isQueryChar '#' = false from rfl)
  have hread : readPath? (('/' :: rest) ++ '?' :: query) =
      some ⟨String.ofList ('/' :: rest), some (String.ofList query)⟩ := by
    have hall : ('/' :: rest).all isPathChar = true := List.all_eq_true.mpr hp
    have hall' : query.all isQueryChar = true := List.all_eq_true.mpr hq
    simp only [readPath?, hpath, hall, List.drop_left, hquery, hall']
    rfl
  have hhead : (('/' :: rest) ++ '?' :: query).head? = some '/' := rfl
  unfold Target.read?
  simp only [String.toList_ofList, hread, hhead, if_true]

theorem isQueryChar_of_isWritten {c : Char} (hc : isWritten c = true) :
    Target.isQueryChar c = true := by
  have hascii : ∀ c : Char, c.toNat < 0x80 → isWritten c = true → Target.isQueryChar c = true :=
    Text.forall_of_toNat_lt (by decide)
  exact hascii c (toNat_lt_of_isWritten hc) hc

theorem isQueryChar_of_mem_write {pairs : List (String × String)} {c : Char}
    (hc : c ∈ (write pairs).toList) : Target.isQueryChar c = true := by
  rcases mem_write hc with hc | rfl | rfl
  · exact isQueryChar_of_isWritten hc
  · rfl
  · rfl

/-- The target of a request for a preview with a form that was written. -/
theorem Target.read?_preview (pairs : List (String × String)) :
    Target.read? ("/preview?" ++ write pairs) =
      if maxBytes < (Text.Utf8.encode ("/preview?" ++ write pairs).toList).length then none
      else some ⟨"/preview", some (write pairs)⟩ := by
  have htext : ("/preview?" ++ write pairs).toList =
      "/preview".toList ++ '?' :: (write pairs).toList := by
    have hstart : "/preview?".toList = "/preview".toList ++ ['?'] := by decide
    rw [String.toList_append, hstart, List.append_assoc, List.singleton_append]
  have hpath : "/preview".toList.all isPathChar = true := by decide
  have hread := read?_of_query (show "/preview".toList.head? = some '/' by decide)
    (List.all_eq_true.mp hpath) fun c (hc : c ∈ (write pairs).toList) => isQueryChar_of_mem_write hc
  rwa [← htext, String.ofList_toList, String.ofList_toList, String.ofList_toList] at hread

/-- A request for a preview with a form that was written. -/
theorem reply?_preview (s : Surroundings) (pairs : List (String × String)) :
    reply? s "GET" ("/preview?" ++ write pairs) =
      if Target.maxBytes < (Text.Utf8.encode ("/preview?" ++ write pairs).toList).length then none
      else some (reply s "GET" ⟨"/preview", some (write pairs)⟩) := by
  have hmethod : isMethod "GET" = true := by decide
  simp only [reply?, Target.read?_preview, hmethod]
  split
  · rfl
  · rfl

/-! ## What is fetched -/

/-- Whether a request, as it is written, asks with a query for a preview or for its head. -/
def AsksForPreview (method text query : String) : Prop :=
  (method = "GET" ∨ method = "HEAD") ∧
    ∃ target, Target.read? text = some target ∧ target.path = "/preview" ∧
      target.query.getD "" = query

theorem ofPath?_eq_preview {path : String} (h : Endpoint.ofPath? path = some .preview) :
    path = "/preview" := by
  unfold Endpoint.ofPath? at h
  split at h <;> first | rfl | cases h

/-- What a request for a preview comes to: the page is fetched, or the request refused. -/
inductive Admission (query : String) : Nat → List String → Prop where
  | fetched {url : String} (ha : pageAddress (Form.read query) = .ok url)
      (hu : Url.isPreviewable url = true) : Admission query 200 [url]
  | refused {status : Nat} (hs : 400 ≤ status) : Admission query status []

theorem RequestError.le_status (e : RequestError) : 400 ≤ e.status := by
  cases e with
  | validation => exact Nat.le_refl _
  | missingParameter => exact Nat.le_of_ble_eq_true rfl

theorem le_status_of_pageAddress {pairs : List (String × String)} {a : Answer}
    (h : pageAddress pairs = .error a) : 400 ≤ a.status := by
  unfold pageAddress at h
  split at h <;> cases h
  · exact RequestError.le_status (.missingParameter "url")
  · exact Nat.le_refl _

theorem admission_reply (s : Surroundings) (query : Option String) :
    Admission (query.getD "") (Endpoint.preview.reply s query).answer.status
      (Endpoint.preview.reply s query).fetched := by
  unfold Endpoint.reply
  cases ha : pageAddress (Form.read (query.getD "")) with
  | error a => exact .refused (le_status_of_pageAddress ha)
  | ok url =>
      by_cases hu : Url.isPreviewable url = true
      · simp only [previewReply, visit, hu, if_true]
        exact .fetched ha hu
      · simp only [previewReply, hu]
        exact .refused (Nat.le_refl 400)

/-- Elsewhere than for a preview nothing is fetched. -/
theorem fetched_reply_eq_nil (s : Surroundings) {method : String} {target : Target}
    (h : ¬ ((method = "GET" ∨ method = "HEAD") ∧ target.path = "/preview")) :
    (reply s method target).fetched = [] := by
  unfold reply
  cases hp : Endpoint.ofPath? target.path with
  | none => rfl
  | some endpoint =>
      by_cases hm : method = "GET" ∨ method = "HEAD"
      · have hne : endpoint ≠ .preview := by
          rintro rfl
          exact h ⟨hm, ofPath?_eq_preview hp⟩
        have hnil : (endpoint.reply s target.query).fetched = [] := by
          cases endpoint with
          | health | ready => rfl
          | preview => exact absurd rfl hne
        simpa [hm] using hnil
      · simp [hm]

/-- What is fetched for a request, and how it is answered. -/
theorem serve_cases (s : Surroundings) (method text : String) :
    (∃ query, AsksForPreview method text query ∧
      Admission query (serve s method text).1.status (serve s method text).2) ∨
      (∀ query, ¬ AsksForPreview method text query) ∧ (serve s method text).2 = [] := by
  cases hread : Target.read? text with
  | none =>
      refine Or.inr ⟨?_, by simp [serve, hread]⟩
      rintro query ⟨-, target, htarget, -⟩
      rw [hread] at htarget
      cases htarget
  | some target =>
      by_cases h : (method = "GET" ∨ method = "HEAD") ∧ target.path = "/preview"
      · obtain ⟨hm, hp⟩ := h
        have hserve : (serve s method text).1.status =
              (Endpoint.preview.reply s target.query).answer.status ∧
            (serve s method text).2 = (Endpoint.preview.reply s target.query).fetched := by
          have hmethod : isMethod method = true := by
            rcases hm with rfl | rfl <;> decide
          have hoptions : method ≠ "OPTIONS" := by
            rcases hm with rfl | rfl <;> decide
          have hreply : reply s method target = Endpoint.preview.reply s target.query := by
            simp [reply, hp, Endpoint.ofPath?, hm]
          simp [serve, hread, hmethod, hoptions, hreply]
        refine Or.inl ⟨target.query.getD "", ⟨hm, target, hread, hp, rfl⟩, ?_⟩
        rw [hserve.1, hserve.2]
        exact admission_reply s target.query
      · refine Or.inr ⟨?_, ?_⟩
        · rintro query ⟨hm, other, hother, hp, -⟩
          rw [hread] at hother
          cases hother
          exact h ⟨hm, hp⟩
        · have hnil := fetched_reply_eq_nil s h
          simp only [serve, hread]
          split
          · rfl
          · split
            · rfl
            · exact hnil

end LinkPreview.Http
