import LinkPreview.Proofs.Html.Rules

/-!
# Reading a page piece by piece

A page is read in pieces, each of which is some tokens, and the builder takes them in. `startTags`
lists the start tags that are read, each with the text that begins with it. From which start tags a
page has it follows which elements its tree can have.
-/

namespace LinkPreview.Html.Tree

open Builder

variable {A : Allowance} {b b' : Builder} {s s' : List Char} {tokens : List Token} {tag : Tag}

/-! ## Pieces -/

/-- The builder after it has taken in some tokens. -/
def takeAll (b : Builder) (tokens : List Token) : Builder :=
  tokens.foldl (fun b token => (Build.take token b).2) b

/-- The tokens of the next piece. -/
def tokensAt (b : Builder) (s : List Char) : List Token :=
  (Token.next b.textMode (allowsSections b) s).1

/-- The text behind the next piece. -/
def restAt (b : Builder) (s : List Char) : List Char :=
  (Token.next b.textMode (allowsSections b) s).2

theorem length_restAt_lt (b : Builder) (h : s ≠ []) : (restAt b s).length < s.length :=
  Token.length_next_lt _ _ h

theorem readAll_nil (b : Builder) : readAll b [] = (Build.take .eof b).2 := by
  rw [readAll, dif_pos rfl]

theorem readAll_of_ne (b : Builder) (h : s ≠ []) :
    readAll b s = readAll (takeAll b (tokensAt b s)) (restAt b s) := by
  rw [readAll, dif_neg h]
  rfl

/-- The start tags that are read in a text, each with the text that begins with it. -/
def startTagsFrom (b : Builder) (s : List Char) : List (List Char × Tag) :=
  if h : s = [] then []
  else
    have : (restAt b s).length < s.length := length_restAt_lt b h
    (tokensAt b s).filterMap (fun token =>
      match token with
      | .startTag tag => some (s, tag)
      | _ => none) ++ startTagsFrom (takeAll b (tokensAt b s)) (restAt b s)
termination_by s.length

/-- The start tags of a page, each with the text that begins with it. -/
def startTags (markup : String) : List (List Char × Tag) :=
  startTagsFrom {} (normalize markup.toList)

theorem mem_startTagsFrom_iff (b : Builder) (h : s ≠ []) :
    (s', tag) ∈ startTagsFrom b s ↔
      s' = s ∧ Token.startTag tag ∈ tokensAt b s ∨
        (s', tag) ∈ startTagsFrom (takeAll b (tokensAt b s)) (restAt b s) := by
  rw [startTagsFrom, dif_neg h, List.mem_append]
  refine or_congr_left ?_
  rw [List.mem_filterMap]
  constructor
  · rintro ⟨token, hmem, htoken⟩
    cases token <;> cases htoken
    exact ⟨rfl, hmem⟩
  · rintro ⟨rfl, hmem⟩
    exact ⟨_, hmem, rfl⟩

/-! ## Places -/

/-- Whether a builder that has a text to read comes to a state and the rest of the text. -/
inductive Comes (b : Builder) (s : List Char) : Builder → List Char → Prop
  | here : Comes b s b s
  | next {b' : Builder} {s' : List Char} (h : Comes b s b' s') (hne : s' ≠ []) :
      Comes b s (takeAll b' (tokensAt b' s')) (restAt b' s')

theorem Comes.of_next (h : s ≠ [])
    (hcomes : Comes (takeAll b (tokensAt b s)) (restAt b s) b' s') : Comes b s b' s' := by
  induction hcomes with
  | here => exact .next .here h
  | next _ hne ih => exact .next ih hne

theorem Comes.readAll_eq (h : Comes b s b' s') : readAll b s = readAll b' s' := by
  induction h with
  | here => rfl
  | next _ hne ih => rw [ih, readAll_of_ne _ hne]

theorem Comes.mem_startTagsFrom (h : Comes b s b' s') {p : List Char × Tag}
    (hp : p ∈ startTagsFrom b' s') : p ∈ startTagsFrom b s := by
  induction h with
  | here => exact hp
  | next _ hne ih => exact ih ((mem_startTagsFrom_iff _ hne).mpr (.inr hp))

theorem Comes.length_le (h : Comes b s b' s') : s'.length ≤ s.length := by
  induction h with
  | here => exact Nat.le_refl _
  | next _ hne ih => exact Nat.le_trans (Nat.le_of_lt (length_restAt_lt _ hne)) ih

/-- A start tag is read at the place where the text begins with it. -/
theorem exists_comes_of_mem (h : (s', tag) ∈ startTagsFrom b s) :
    ∃ b', Comes b s b' s' ∧ s' ≠ [] ∧ Token.startTag tag ∈ tokensAt b' s' := by
  induction hn : s.length using Nat.strongRecOn generalizing b s with
  | ind n ih =>
      by_cases hs : s = []
      · rw [startTagsFrom, dif_pos hs] at h
        cases h
      · rcases (mem_startTagsFrom_iff b hs).mp h with ⟨rfl, htag⟩ | hrest
        · exact ⟨b, .here, hs, htag⟩
        · obtain ⟨b', hcomes, hne, htag⟩ := ih _ (hn ▸ length_restAt_lt b hs) hrest rfl
          exact ⟨b', hcomes.of_next hs, hne, htag⟩

theorem length_le_of_mem_startTagsFrom {p : List Char × Tag} (h : p ∈ startTagsFrom b s) :
    p.1.length ≤ s.length := by
  obtain ⟨b', hcomes, -⟩ := exists_comes_of_mem h
  exact hcomes.length_le

/-! ## What is made of a text -/

theorem works_takeAll [Admits A] (htokens : ∀ token ∈ tokens, AdmitsToken A token)
    (hb : b.Sound A) : b.Works A (takeAll b tokens) := by
  induction tokens generalizing b with
  | nil => exact .refl hb
  | cons token tokens ih =>
      have := htokens token List.mem_cons_self
      have h : b.Works A (Build.take token b).2 := Build.works_take hb
      exact h.trans (ih (fun token hmem => htokens token (.tail _ hmem)) h.sound)

theorem admitsToken_of_mem (b : Builder) (hs : s ≠ [])
    (htags : ∀ tag, (s, tag) ∈ startTagsFrom b s → AdmitsTag A tag) :
    ∀ token ∈ tokensAt b s, AdmitsToken A token := by
  refine fun token hmem => ⟨fun {tag} htoken => ?_⟩
  exact htags tag ((mem_startTagsFrom_iff b hs).mpr (.inl ⟨rfl, htoken ▸ hmem⟩))

/-- Up to a place only the start tags in front of it count. -/
theorem Comes.works [Admits A] (h : Comes b s b' s') (hb : b.Sound A)
    (htags : ∀ p ∈ startTagsFrom b s, s'.length < p.1.length → AdmitsTag A p.2) :
    b.Works A b' := by
  induction h with
  | here => exact .refl hb
  | @next b' s' hcomes hne ih =>
      have hlt := length_restAt_lt b' hne
      have hwork := ih fun p hp hlength => htags p hp (Nat.lt_trans hlt hlength)
      exact hwork.trans (works_takeAll (admitsToken_of_mem b' hne fun tag htag =>
        htags _ (hcomes.mem_startTagsFrom htag) hlt) hwork.sound)

theorem works_readAll [Admits A] (hb : b.Sound A)
    (htags : ∀ p ∈ startTagsFrom b s, AdmitsTag A p.2) : b.Works A (readAll b s) := by
  induction hn : s.length using Nat.strongRecOn generalizing b s with
  | ind n ih =>
      by_cases hs : s = []
      · rw [hs, readAll_nil]
        exact Build.works_take hb
      · rw [readAll_of_ne b hs]
        have hwork := works_takeAll (admitsToken_of_mem b hs fun tag htag => htags _ htag) hb
        exact hwork.trans (ih _ (hn ▸ length_restAt_lt b hs) hwork.sound
          (fun p hp => htags p ((mem_startTagsFrom_iff b hs).mpr (.inr hp))) rfl)

/-- All elements of a page are such as its start tags admit. -/
theorem present_of_read [Admits A] {markup : String}
    (htags : ∀ p ∈ startTags markup, AdmitsTag A p.2) {id : NodeId} {e : Element}
    (he : (read markup).element? id = some e) : A.present e :=
  (works_readAll (sound_start A) htags).sound.elements he

end LinkPreview.Html.Tree
