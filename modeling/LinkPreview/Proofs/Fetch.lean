import LinkPreview.Http.Site
import LinkPreview.Proofs.Http.Head

/-!
# Which responses become pages

Fetching follows a chain of responses that send the client on, up to one that does not. Only a
status from 400 to 599 makes that last response a failure; a status from 600 on, for which there is
no class, and a switch of protocols become pages like the good ones.
-/

namespace LinkPreview

open Http (Request Response Transmission)

variable {net : Network} {left : Nat} {u : Url} {referer : Option String}
  {requests : List Request} {last response : Response} {address page : String} {code : Nat}
  {e : FetchError}

/-! ## Responses -/

namespace Http

/-- A response that is read has a status of its own, and where its body is missing, the network is
to blame for it. -/
theorem Transmission.of_response {t : Transmission} (h : t.response = .ok response) :
    (response.head.status = 101 ∨ 200 ≤ response.head.status ∧ response.head.status < 1000) ∧
      ∀ code, response.body ≠ .error (.status code) := by
  unfold Transmission.response at h
  split at h
  · cases h
  · cases h
  · rename_i head rest hhead
    have hstatus := Head.status_of_read hhead
    split at h
    · cases h
    · split at h <;> cases h
      · exact ⟨hstatus, fun code hbody => by cases hbody⟩
      · refine ⟨hstatus, fun code hbody => ?_⟩
        simp only at hbody
        split at hbody <;> cases hbody
      · exact ⟨hstatus, fun code hbody => by cases hbody⟩

end Http

/-! ## Chains -/

namespace Fetch

/-- Whether fetching the page at `u` ends with a response, after the requests that lead to it. -/
inductive Ends (net : Network) : Nat → Url → Option String → List Request → Response → Prop
  | here {left u referer server response} (hserver : server? net u = some server)
      (hresponse : (server (.forPage u referer)).response = .ok response)
      (hnext : next? u response.head = none) :
      Ends net (left + 1) u referer [.forPage u referer] response
  | further {left u referer server response next requests last}
      (hserver : server? net u = some server)
      (hresponse : (server (.forPage u referer)).response = .ok response)
      (hnext : next? u response.head = some next) (hweb : isOfWeb next = true)
      (hrest : Ends net left next (Http.referer? referer u next) requests last) :
      Ends net (left + 1) u referer (.forPage u referer :: requests) last

theorem Ends.of_response (h : Ends net left u referer requests last) :
    (last.head.status = 101 ∨ 200 ≤ last.head.status ∧ last.head.status < 1000) ∧
      ∀ code, last.body ≠ .error (.status code) := by
  induction h with
  | here _ hresponse _ => exact Transmission.of_response hresponse
  | further _ _ _ _ _ ih => exact ih

/-- Whether fetching the page at an address of the web ends with a response. -/
def EndsFor (net : Network) (address : String) (requests : List Request) (last : Response) : Prop :=
  ∃ u, Url.read? address = some u ∧ isOfWeb u = true ∧ Ends net maxRequests u none requests last

theorem EndsFor.of_response (h : EndsFor net address requests last) :
    (last.head.status = 101 ∨ 200 ≤ last.head.status ∧ last.head.status < 1000) ∧
      ∀ code, last.body ≠ .error (.status code) := by
  obtain ⟨_, -, -, hends⟩ := h
  exact hends.of_response

end Fetch

/-! ## Pages and statuses -/

end LinkPreview
