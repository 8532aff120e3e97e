import LinkPreview.Proofs.Html.TitleTag

/-!
# The title of a page

Where a page has the tag of a title at one place alone, and an element of HTML was made for it, this
is the only element of the name, and its text is the one that is written behind the tag.
-/

namespace LinkPreview.Html

open Builder Token

variable {b b' : Builder} {x id : NodeId} {e : Element} {s t w tail : List Char} {markup : String}

/-! ## Behind the tag -/

/-- The text that is written in a title is taken into it. -/
theorem Tree.Comes.exists_inTitle (hcomes : Tree.Comes b s b' (w ++ tail)) (h : b'.InTitle x e [])
    (hw : IsWritten .text t w) (htail : tail = [] ∨ startsWithEndTag "title" tail = true) :
    ∃ b'', Tree.Comes b s b'' tail ∧ b''.InTitle x e t := by
  cases w with
  | nil =>
      cases hw
      exact ⟨b', hcomes, h⟩
  | cons c w =>
      have hnext := next_of_isWritten hw (List.cons_ne_nil _ _) htail (Tree.allowsSections b')
      have htokens : Tree.tokensAt b' (c :: w ++ tail) = chars t := by
        rw [Tree.tokensAt, h.textMode, hnext]
      have hrest : Tree.restAt b' (c :: w ++ tail) = tail := by
        rw [Tree.restAt, h.textMode, hnext]
      have hstep := hcomes.next (List.cons_ne_nil _ _)
      rw [htokens, hrest] at hstep
      exact ⟨_, hstep, h.takeAll_chars t⟩

/-- Behind the text of a title nothing changes it, if no more titles follow. -/
theorem isOnlyTitle_of_inTitle (h : b.InTitle x e t)
    (htail : tail = [] ∨ startsWithEndTag "title" tail = true)
    (htags : ∀ p ∈ Tree.startTagsFrom b tail, p.2.name ≠ "title") :
    (Tree.readAll b tail).tree.IsOnlyTitle x e t := by
  by_cases hne : tail = []
  · rw [hne, Tree.readAll_nil]
    exact h.take_eof
  · have hnext := next_of_endTag (htail.resolve_left hne) (Tree.allowsSections b)
    rw [Tree.readAll_of_ne b hne]
    rw [← h.textMode] at hnext
    rcases hnext with hnext | ⟨name, rest, hnext⟩
    · rw [Tree.tokensAt, Tree.restAt, hnext, Tree.readAll_nil]
      exact h.take_eof
    · have htokens : Tree.tokensAt b tail = [.endTag name] := congrArg Prod.fst hnext
      have hbehind := h.take_endTag name
      rw [htokens]
      refine hbehind.works (Tree.works_readAll hbehind.sound fun p hp => ?_)
      refine Allowance.admitsTag_of_name_ne (fun _ hname => hname) trivial (htags p ?_)
      exact (Tree.mem_startTagsFrom_iff b hne).mpr (.inr (htokens ▸ hp))

/-! ## The page -/

/-- If all tags of titles that a page has are at one place where a text is written, then an element
of HTML named `title` has this text, and is the only element of its name. -/
theorem isOnlyTitle_of_read (hs : WritesTitle t s)
    (htags : ∀ p ∈ Tree.startTags markup, p.2.name = "title" → p.1 = s)
    (he : (Tree.read markup).element? id = some e) (hhtml : e.vocabulary = .html)
    (hname : e.name = "title") :
    (Tree.read markup).IsOnlyTitle id e t := by
  have hrest {b : Builder} {s' : List Char}
      (hcomes : Tree.Comes {} (Tree.normalize markup.toList) b s') (hlt : s'.length < s.length) :
      ∀ p ∈ Tree.startTagsFrom b s', p.2.name ≠ "title" := by
    intro p hp htitle
    have hlength := Tree.length_le_of_mem_startTagsFrom hp
    rw [htags p (hcomes.mem_startTagsFrom hp) htitle] at hlength
    exact Nat.not_lt.mpr hlength hlt
  by_cases hnone : ∀ p ∈ Tree.startTags markup, p.2.name ≠ "title"
  · have hpresent := Tree.present_of_read (A := .untitled True) (fun p hp =>
      Allowance.admitsTag_of_name_ne (fun _ h => h) trivial (hnone p hp)) he
    exact absurd hname hpresent
  · simp only [not_forall, ne_eq, not_not] at hnone
    obtain ⟨⟨s', tag⟩, hmem, htag⟩ := hnone
    obtain rfl := htags _ hmem htag
    obtain ⟨b, hcomes, hne, htoken⟩ := Tree.exists_comes_of_mem hmem
    obtain ⟨w, tail, hw, htail, hnext⟩ := hs.next_eq htoken
    have hwork : Works (.untitled True) {} b := by
      refine hcomes.works (sound_start _) fun p hp hlt => ?_
      refine Allowance.admitsTag_of_name_ne (fun _ h => h) trivial fun htitle => ?_
      exact Nat.lt_irrefl _ (htags p hp htitle ▸ hlt)
    have hstep := hcomes.next hne
    have hlt := Tree.length_restAt_lt b hne
    have htokens : Tree.tokensAt b s' = [.startTag tag] := congrArg Prod.fst hnext
    have hbehind : Tree.restAt b s' = w ++ tail := congrArg Prod.snd hnext
    rw [htokens, hbehind] at hstep
    rw [hbehind] at hlt
    rcases Build.take_title hwork.sound htag with hnot | ⟨x, e', hin⟩
    · -- no title of HTML was opened, and none is behind the tag
      have hwork' := Tree.works_readAll hnot.sound fun p hp =>
        Allowance.admitsTag_of_name_ne (fun _ h heq => h heq.2) trivial (hrest hstep hlt p hp)
      rw [Tree.read, hstep.readAll_eq] at he
      exact absurd ⟨hhtml, hname⟩ (hwork'.sound.elements he)
    · obtain ⟨b', hcomes', hin'⟩ := hstep.exists_inTitle hin hw htail
      have htaillt : tail.length < s'.length :=
        Nat.lt_of_le_of_lt (by simp) hlt
      have honly := isOnlyTitle_of_inTitle hin' htail (hrest hcomes' htaillt)
      rw [← hcomes'.readAll_eq] at honly
      obtain rfl := honly.only he hname
      have hsame := Tree.element?_eq_some_iff.mpr honly.text.kind
      obtain rfl := Option.some.inj (hsame.symm.trans he)
      exact honly

end LinkPreview.Html
