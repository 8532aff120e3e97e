import Mathlib.Tactic.SplitIfs
import LinkPreview.Proofs.Http.Endpoint
import LinkPreview.Proofs.Message

/-!
# How requests for a preview are answered

What a request for a preview is answered depends only on the addresses that its query gives,
however they are written and whatever else stands in the query: none is a parameter that is
missing, several are an error, and a single one is refused or previewed. How its page behaves
decides what the preview shows and never what status it has.
-/

namespace LinkPreview.Http

variable (s : Surroundings)

/-- The addresses that a query gives. -/
def addresses (pairs : List (String × String)) : List String :=
  (pairs.filter (·.1 == "url")).map Prod.snd

/-- The target of a request for a preview with a form as its query. -/
def previewTarget (pairs : List (String × String)) : String :=
  "/preview?" ++ Form.write pairs

/-- An answer in JSON that tells what is wrong. -/
structure Answer.Tells (a : Answer) (detail : String) : Prop where
  contentType_eq : a.contentType = some "application/json"
  read?_body : Json.read? a.body = some (.ofMembers [("detail", .ofText detail)])

/-- An answer in JSON with the preview of a page. -/
structure Answer.Shows (a : Answer) (url : String) (m : Metadata) : Prop where
  contentType_eq : a.contentType = some "application/json"
  decode?_body : ∃ p, Preview.decode? a.body = some p ∧ p.url = url ∧ p.metadata = m

/-- How a request for a preview is answered when its query gives these addresses. -/
inductive Classified : List String → Reply → Prop where
  | missing {r : Reply} (hs : r.answer.status = 422)
      (ht : r.answer.Tells "Missing required query parameter: url") (hf : r.fetched = []) :
      Classified [] r
  | repeated {u v : String} {more : List String} {r : Reply} (hs : r.answer.status = 400)
      (hf : r.fetched = []) : Classified (u :: v :: more) r
  | refused {url : String} {r : Reply} (hu : Url.isPreviewable url = false)
      (hs : r.answer.status = 400)
      (ht : r.answer.Tells "Invalid URL. Must be a valid HTTP or HTTPS URL.")
      (hf : r.fetched = []) : Classified [url] r
  | shown {url : String} {r : Reply} (hu : Url.isPreviewable url = true)
      (hs : r.answer.status = 200)
      (hb : r.answer.Shows url (visit s.fetch url).outcome.metadata) (hf : r.fetched = [url]) :
      Classified [url] r

/-! ## Answers -/

theorem Answer.tells_ofError (e : RequestError) : (ofError e).Tells e.detail := by
  refine ⟨rfl, Json.read?_write (Json.isWord_of_mem_ofMembers ?_)⟩
  intro member hm
  rw [List.mem_singleton.mp hm]
  exact Json.isWord_of_mem_ofText _

theorem Answer.shows_json (p : Preview) : (json 200 p.toJson).Shows p.url p.metadata :=
  ⟨rfl, p, Preview.decode?_encode p, rfl, rfl⟩

/-- A visitor is shown what a visit of the page comes to. -/
theorem previewReply_of_isPreviewable {url : String} (hu : Url.isPreviewable url = true) :
    previewReply s url =
      ⟨.json 200 (Preview.toJson ⟨url, (visit s.fetch url).outcome.metadata, s.now⟩), [url]⟩ := by
  simp [previewReply, visit, hu]

theorem previewReply_of_not_isPreviewable {url : String} (hu : Url.isPreviewable url = false) :
    previewReply s url =
      ⟨.ofError (.validation "Invalid URL. Must be a valid HTTP or HTTPS URL."), []⟩ := by
  simp [previewReply, hu]

theorem classified_previewReply (url : String) : Classified s [url] (previewReply s url) := by
  cases hu : Url.isPreviewable url with
  | false =>
      rw [previewReply_of_not_isPreviewable s hu]
      exact .refused hu rfl (Answer.tells_ofError _) rfl
  | true =>
      rw [previewReply_of_isPreviewable s hu]
      exact .shown hu rfl (Answer.shows_json _) rfl

/-! ## Addresses -/

/-- What is read as the address of a page depends only on the addresses that are given. -/
theorem pageAddress_eq (pairs : List (String × String)) :
    pageAddress pairs =
      match addresses pairs with
      | [] => .error (.ofError (.missingParameter "url"))
      | [url] => .ok url
      | _ =>
        .error (.text 400 "Failed to deserialize query string: duplicate field \x60url\x60") := by
  unfold pageAddress addresses
  generalize pairs.filter (·.1 == "url") = given
  rcases given with _ | ⟨pair, _ | ⟨next, more⟩⟩ <;> rfl

theorem classified_reply (query : Option String) :
    Classified s (addresses (Form.read (query.getD ""))) (Endpoint.preview.reply s query) := by
  unfold Endpoint.reply
  simp only [pageAddress_eq]
  rcases addresses (Form.read (query.getD "")) with _ | ⟨url, _ | ⟨next, more⟩⟩
  · exact .missing rfl (Answer.tells_ofError _) rfl
  · exact classified_previewReply s url
  · exact .repeated rfl rfl

/-- Requests whose queries give the same addresses are answered alike. -/
theorem reply_congr {query query' : Option String}
    (h : addresses (Form.read (query.getD "")) = addresses (Form.read (query'.getD ""))) :
    Endpoint.preview.reply s query = Endpoint.preview.reply s query' := by
  unfold Endpoint.reply
  simp only [pageAddress_eq, h]

theorem reply_preview_of_pageAddress {query url : String}
    (ha : pageAddress (Form.read query) = .ok url) :
    reply s "GET" ⟨"/preview", some query⟩ = previewReply s url := by
  have hreply : reply s "GET" ⟨"/preview", some query⟩ =
      Endpoint.preview.reply s (some query) := rfl
  rw [hreply, Endpoint.reply, Option.getD_some, ha]

/-! ## Requests -/

/-- The status of the answer when a query gives these addresses. -/
def statusFor : List String → Nat
  | [] => 422
  | [url] => if Url.isPreviewable url then 200 else 400
  | _ => 400

theorem statusFor_mem (urls : List String) : statusFor urls ∈ [200, 400, 422] := by
  unfold statusFor
  split
  · decide
  · split_ifs <;> decide
  · decide

theorem Classified.status_eq {s : Surroundings} {urls : List String} {r : Reply}
    (h : Classified s urls r) : r.answer.status = statusFor urls := by
  cases h with
  | missing hs => exact hs
  | repeated hs => exact hs
  | refused hu hs => simp [statusFor, hu, hs]
  | shown hu hs => simp [statusFor, hu, hs]

/-- What is sent for a request to which there is a reply. -/
def Reply.served (r : Reply) : Served where
  status := r.answer.status
  fields := r.answer.fields ++ sharingFields
  body := r.answer.body

theorem reply?_of_asksForPreview {text query : String} (h : AsksForPreview "GET" text query) :
    ∃ given, given.getD "" = query ∧
      reply? s "GET" text = some (Endpoint.preview.reply s given) ∧
      serve s "GET" text = ((Endpoint.preview.reply s given).served,
        (Endpoint.preview.reply s given).fetched) := by
  obtain ⟨-, ⟨path, given⟩, hread, rfl, hquery⟩ := h
  have hmethod : isMethod "GET" = true := by decide
  have hreply : reply s "GET" ⟨"/preview", given⟩ = Endpoint.preview.reply s given := rfl
  refine ⟨given, hquery, ?_, ?_⟩
  · simp [reply?, hread, hmethod, hreply]
  · simp [serve, hread, hmethod, hreply, Answer.sentBody, Reply.served]

theorem asksForPreview_previewTarget {pairs : List (String × String)}
    (hl : (Text.Utf8.encode (previewTarget pairs).toList).length ≤ Target.maxBytes) :
    AsksForPreview "GET" (previewTarget pairs) (Form.write pairs) := by
  refine ⟨Or.inl rfl, ⟨"/preview", some (Form.write pairs)⟩, ?_, rfl, rfl⟩
  rw [previewTarget] at hl ⊢
  rw [Target.read?_preview, if_neg (Nat.not_lt.mpr hl)]

/-- A request for a preview is answered by the addresses that its query gives. For every list of
keys and values there is a status, which neither a page nor the time has any influence on, and an
answer that every request gets whose query gives the same addresses, whatever else stands in it.
Without an address the status is 422 and with several it is 400. A single address is refused with
400 if it may not be previewed; otherwise the status is 200, and the answer tells the address as it
was given and the preview of its page. Only in the last case a page is fetched. Every list can be
written as a query that is read back, and asked with unless the target is too long. -/
theorem preview_is_answered_by_its_addresses (pairs : List (String × String)) :
    ∃ status ∈ [200, 400, 422], ∀ s : Surroundings, ∃ r : Reply,
      r.answer.status = status ∧ Classified s (addresses pairs) r ∧
        (∀ text query, AsksForPreview "GET" text query →
          addresses (Form.read query) = addresses pairs →
            reply? s "GET" text = some r ∧ serve s "GET" text = (r.served, r.fetched)) ∧
        Form.read (Form.write pairs) = pairs ∧
        ((Text.Utf8.encode (previewTarget pairs).toList).length ≤ Target.maxBytes →
          AsksForPreview "GET" (previewTarget pairs) (Form.write pairs) ∧
            reply? s "GET" (previewTarget pairs) = some r) := by
  refine ⟨_, statusFor_mem (addresses pairs), fun s => ?_⟩
  have hwritten := Form.read_write pairs
  have hclass := classified_reply s (some (Form.write pairs))
  rw [Option.getD_some, hwritten] at hclass
  have hsame : ∀ text query, AsksForPreview "GET" text query →
      addresses (Form.read query) = addresses pairs →
        reply? s "GET" text = some (Endpoint.preview.reply s (some (Form.write pairs))) ∧
          serve s "GET" text = ((Endpoint.preview.reply s (some (Form.write pairs))).served,
            (Endpoint.preview.reply s (some (Form.write pairs))).fetched) := by
    intro text query hasks ha
    obtain ⟨given, rfl, hreply, hserve⟩ := reply?_of_asksForPreview s hasks
    have hcongr : Endpoint.preview.reply s given =
        Endpoint.preview.reply s (some (Form.write pairs)) := by
      apply reply_congr
      rw [ha, Option.getD_some, hwritten]
    rw [← hcongr]
    exact ⟨hreply, hserve⟩
  refine ⟨_, hclass.status_eq, hclass, hsame, hwritten, fun hl => ?_⟩
  have hasks := asksForPreview_previewTarget hl
  exact ⟨hasks, (hsame _ _ hasks (congrArg addresses hwritten)).1⟩

/-- Surroundings in which no page ever comes. -/
def silent : Surroundings where
  fetch _ := .error .timeout
  now := ⟨⟨2000, 2, 29, by decide⟩, 1, 1, 1, by decide, by decide, by decide⟩

/-- A request that gives one address besides other things gets the preview of its page, also if
this page does not come. -/
theorem preview_is_answered_by_its_addresses_of_timeout :
    ∃ r, reply? silent "GET" (previewTarget [("a b", "&="), ("url", "http://[::1]")]) = some r ∧
      r.answer.status = 200 ∧ r.answer.Shows "http://[::1]" {} ∧ r.fetched = ["http://[::1]"] := by
  have hl : (Text.Utf8.encode
      (previewTarget [("a b", "&="), ("url", "http://[::1]")]).toList).length ≤
        Target.maxBytes := by
    decide +kernel
  have hu : Url.isPreviewable "http://[::1]" = true := by decide +kernel
  have haddresses : addresses [("a b", "&="), ("url", "http://[::1]")] = ["http://[::1]"] := by
    decide
  have hm : (visit silent.fetch "http://[::1]").outcome.metadata = {} := by
    simp [silent, visit, hu, Outcome.ofPage, Outcome.metadata]
  obtain ⟨status, -, h⟩ :=
    preview_is_answered_by_its_addresses [("a b", "&="), ("url", "http://[::1]")]
  obtain ⟨r, -, hclass, -, -, hwritten⟩ := h silent
  refine ⟨r, (hwritten hl).2, ?_⟩
  rw [haddresses] at hclass
  cases hclass with
  | refused hu' =>
      rw [hu] at hu'
      cases hu'
  | shown _ hs hb hf =>
      rw [hm] at hb
      exact ⟨hs, hb, hf⟩

end LinkPreview.Http
