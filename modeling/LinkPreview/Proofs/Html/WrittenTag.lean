import LinkPreview.Proofs.Html.Reading
import LinkPreview.Proofs.Html.Written

/-!
# Tags that write a text

The content of a `meta` element is written between the quotation marks in its tag, and the title of
a page behind a tag. What is read of such a tag depends on the text that begins with it alone,
whatever else the page has and wherever the tag stands in it.
-/

namespace LinkPreview.Html

open Token
open Text (asciiLower isAsciiBlank)

variable {mode : TextMode} {sections : Bool} {tag : Tag} {attributes : List Attribute}
  {name word s t w gap rest : List Char} {c : Char}

/-! ## Names -/

theorem inAttributeName_of_isAlpha (h : c.isAlpha = true) : inAttributeName c = true := by
  rw [inAttributeName, Bool.not_eq_true', ← Bool.not_eq_true]
  simp only [isAsciiBlank, Bool.or_eq_true, beq_iff_eq]
  rintro (((((((rfl | rfl) | rfl) | rfl) | rfl) | rfl) | rfl) | rfl) <;> exact absurd h (by decide)

theorem inTagName_of_isAlpha (h : c.isAlpha = true) : inTagName c = true := by
  have hname := inAttributeName_of_isAlpha h
  simp only [inAttributeName, inTagName, Bool.not_eq_true', Bool.or_eq_false_iff] at hname ⊢
  exact hname.1

/-- A word that is a name of letters but for their case. -/
theorem isAlpha_of_asciiLower {proper : String} (h : asciiLower word = proper.toList)
    (hproper : ∀ c ∈ proper.toList, c.isAlpha = true) : ∀ c ∈ word, c.isAlpha = true := by
  intro c hc
  refine Text.isAlpha_of_toLower (hproper _ ?_)
  rw [← h]
  exact List.mem_map_of_mem hc

theorem nameOf_eq {proper : String} (h : asciiLower word = proper.toList)
    (hproper : ∀ c ∈ proper.toList, c.isAlpha = true) : nameOf word = proper := by
  have hnul : replaceNul word = word := by
    refine (List.map_congr_left fun c hc => if_neg ?_).trans (List.map_id _)
    rintro rfl
    exact absurd (isAlpha_of_asciiLower h hproper _ hc) (by decide)
  rw [nameOf, hnul, h, String.ofList_toList]

/-! ## Reading a tag -/

theorem startTag_notMem_chars (s : List Char) : Token.startTag tag ∉ chars s := by
  simp [chars]

theorem readMarkup_of_isAlpha (hc : c.isAlpha = true) (sections : Bool) (rest : List Char) :
    readMarkup sections ('<' :: c :: rest) = readStartTag (c :: rest) := by
  have hne (d : Char) (hd : d.isAlpha = false) : c ≠ d := by
    rintro rfl
    rw [hc] at hd
    cases hd
  rw [readMarkup, readAfterLess, if_pos hc] <;>
    simp [hne '!' (by decide), hne '?' (by decide), hne '/' (by decide)]

/-- A start tag that is read in markup is the tag that the text begins with. -/
theorem readMarkup_of_mem (hc : c.isAlpha = true)
    (h : Token.startTag tag ∈ (readMarkup sections ('<' :: c :: rest)).1) :
    ∃ rest', readTag (c :: rest) = (some tag, rest') ∧
      readMarkup sections ('<' :: c :: rest) = ([.startTag tag], rest') := by
  rw [readMarkup_of_isAlpha hc] at h
  obtain ⟨tag', htag, heq⟩ := List.mem_map.mp h
  cases heq
  have hread : readTag (c :: rest) = (some tag, (readTag (c :: rest)).2) :=
    Prod.ext (Option.mem_toList.mp htag) rfl
  refine ⟨_, hread, ?_⟩
  rw [readMarkup_of_isAlpha hc, readStartTag, hread]
  rfl

/-- A start tag is read at the front of a text only as markup. -/
theorem next_eq_readMarkup_of_mem {s : List Char}
    (h : Token.startTag tag ∈ (Token.next mode sections s).1) :
    ∃ sections', Token.next mode sections s = readMarkup sections' s := by
  have hcontent (content : List Char) (decode : List Char → List Char)
      (h : Token.startTag tag ∈ (readContent content decode s).1) :
      readContent content decode s = readMarkup false s := by
    unfold readContent at h ⊢
    split
    · rfl
    · rename_i hne
      rw [if_neg hne] at h
      exact absurd h (startTag_notMem_chars _)
  cases mode with
  | markup => exact ⟨sections, rfl⟩
  | replaceable | raw | script => exact ⟨false, hcontent _ _ h⟩
  | plain => exact absurd h (startTag_notMem_chars _)

theorem readAttributes_of_readTag {rest' : List Char} (hname : ∀ c ∈ name, c.isAlpha = true)
    (hrest : ∀ c ∈ rest.head?, inTagName c = false)
    (h : readTag (name ++ rest) = (some tag, rest')) :
    readAttributes [] rest = some (tag.attributes, tag.selfClosing, rest') := by
  have hin : ∀ c ∈ name, inTagName c = true := fun c hc => inTagName_of_isAlpha (hname c hc)
  rw [readTag, Text.takeWhile_append_of_head hin hrest,
    Text.dropWhile_append_of_head hin hrest] at h
  split at h
  · cases h
  · rename_i hread
    cases h
    exact hread

/-! ## Attributes -/

theorem prefix_addAttribute (attributes : List Attribute) (name : List Char) (value : String) :
    attributes <+: addAttribute attributes name value := by
  unfold addAttribute
  split
  · exact List.prefix_refl _
  · exact List.prefix_append _ _

/-- The attributes that a tag is known to have come first. -/
theorem prefix_of_readAttributes {r : List Attribute × Bool × List Char}
    (h : readAttributes attributes s = some r) : attributes <+: r.1 := by
  fun_induction readAttributes attributes s with
  | case1 => cases h
  | case2 | case3 =>
      cases h
      exact List.prefix_refl _
  | case4 attributes c rest _ _ _ ih => exact ih h
  | case5 attributes c rest _ _ _ name assignment ih =>
      exact (prefix_addAttribute _ _ _).trans (ih h)

theorem attribute?_of_prefix {more : List Attribute} {key value : String}
    (h : attributes <+: more) (hvalue : attribute? attributes key = some value) :
    attribute? more key = some value := by
  obtain ⟨more, rfl⟩ := h
  obtain ⟨a, ha, rfl⟩ := Option.map_eq_some_iff.mp hvalue
  rw [attribute?, List.find?_append, ha]
  rfl

theorem attribute?_addAttribute {proper value : String} (h : nameOf word = proper)
    (hnone : attribute? attributes proper = none) :
    attribute? (addAttribute attributes word value) proper = some value := by
  have hfind : attributes.find? (·.name == proper) = none := Option.map_eq_none_iff.mp hnone
  have hany : attributes.any (·.name == proper) = false := by
    simpa using hfind
  simp [addAttribute, attribute?, h, hany, List.find?_append, hfind]

theorem readValue_of_quoted (h : IsWritten .attributeValue t w) (rest : List Char) :
    readValue ('"' :: (w ++ '"' :: rest)) = (w, rest) := by
  have hin : ∀ c ∈ w, (c != '"') = true := fun c hc => bne_iff_ne.mpr (h.ne_of_mem c hc).1
  have hend : ∀ c ∈ ('"' :: rest).head?, (c != '"') = false := by simp
  simp [readValue, Text.takeWhile_append_of_head hin hend, Text.dropWhile_append_of_head hin hend]

theorem valueOf_of_isWritten (h : IsWritten .attributeValue t w) : valueOf w = String.ofList t := by
  rw [valueOf, h.replaceNul_eq, h.decode_eq]

theorem dropWhile_blanks {d : Char} (hgap : ∀ c ∈ gap, isAsciiBlank c = true)
    (hd : isAsciiBlank d = false) (rest : List Char) :
    (gap ++ d :: rest).dropWhile isAsciiBlank = d :: rest := by
  rw [List.dropWhile_append_of_pos hgap, List.dropWhile_cons_of_neg (by simp [hd])]

/-- An attribute whose value is written in quotation marks is read as it was. -/
theorem readAttributes_of_quoted {gap' : List Char} (hne : word ≠ [])
    (hword : ∀ c ∈ word, c.isAlpha = true) (hgap : ∀ c ∈ gap, isAsciiBlank c = true)
    (hgap' : ∀ c ∈ gap', isAsciiBlank c = true) (h : IsWritten .attributeValue t w)
    (rest : List Char) :
    readAttributes attributes (word ++ (gap ++ '=' :: (gap' ++ '"' :: (w ++ '"' :: rest)))) =
      readAttributes (addAttribute attributes word (String.ofList t)) rest := by
  obtain ⟨c, word, rfl⟩ := List.exists_cons_of_ne_nil hne
  obtain ⟨hc, hword⟩ := List.forall_mem_cons.mp hword
  generalize hvalue : gap ++ '=' :: (gap' ++ '"' :: (w ++ '"' :: rest)) = value
  have hassignment : readAssignment value = (String.ofList t, rest) := by
    rw [← hvalue, readAssignment, dropWhile_blanks hgap (by decide)]
    simp only [dropWhile_blanks hgap' (d := '"') (by decide), readValue_of_quoted h,
      valueOf_of_isWritten h]
  have hhead : ∀ d ∈ value.head?, inAttributeName d = false := by
    rw [← hvalue]
    cases gap with
    | nil =>
        intro d hd
        cases hd
        decide
    | cons d gap =>
        intro d' hd'
        cases hd'
        simp [inAttributeName, hgap d List.mem_cons_self]
  have hin : ∀ d ∈ word, inAttributeName d = true := fun d hd =>
    inAttributeName_of_isAlpha (hword d hd)
  have hstart := inAttributeName_of_isAlpha hc
  simp only [inAttributeName, Bool.not_eq_true', Bool.or_eq_false_iff, beq_eq_false_iff_ne]
    at hstart
  rw [List.cons_append, readAttributes, Text.takeWhile_append_of_head hin hhead,
    Text.dropWhile_append_of_head hin hhead, hassignment]
  all_goals simp [hstart]

/-! ## Tags that write a text -/

/-- Whether a text begins with a tag of a `meta` element in which the first attribute named
`content` writes `t` in quotation marks. -/
inductive WritesContent (t : List Char) : List Char → Prop
  | intro {name front word gap gap' w back : List Char} {d : Char} {attributes : List Attribute}
      (hname : asciiLower name = "meta".toList) (hd : inTagName d = false)
      (hfront : ∀ c rest, c.isAlpha = true →
        readAttributes [] (d :: (front ++ c :: rest)) = readAttributes attributes (c :: rest))
      (hfirst : attribute? attributes "content" = none)
      (hword : asciiLower word = "content".toList)
      (hgap : ∀ c ∈ gap, isAsciiBlank c = true) (hgap' : ∀ c ∈ gap', isAsciiBlank c = true)
      (hw : IsWritten .attributeValue t w) :
      WritesContent t ('<' :: (name ++
        d :: (front ++ (word ++ (gap ++ '=' :: (gap' ++ '"' :: (w ++ '"' :: back)))))))

/-- Whether a text begins with a tag of a title behind which `t` is written, up to the end tag or
the end of the page. -/
inductive WritesTitle (t : List Char) : List Char → Prop
  | intro {name front w tail : List Char} {attributes : List Attribute} {selfClosing : Bool}
      (hname : asciiLower name = "title".toList)
      (hfront : ∀ c ∈ (front ++ ['>']).head?, inTagName c = false)
      (hread : ∀ rest, readAttributes [] (front ++ '>' :: rest) =
        some (attributes, selfClosing, rest))
      (hw : IsWritten .text t w) (htail : tail = [] ∨ startsWithEndTag "title" tail = true) :
      WritesTitle t ('<' :: (name ++ (front ++ '>' :: (w ++ tail))))

/-- A start tag that is read where a name begins has the attributes that are read behind it. -/
theorem next_of_name {proper : String} (hname : asciiLower name = proper.toList)
    (hproper : ∀ c ∈ proper.toList, c.isAlpha = true) (hne : proper ≠ "")
    (hrest : ∀ c ∈ rest.head?, inTagName c = false)
    (h : Token.startTag tag ∈ (Token.next mode sections ('<' :: (name ++ rest))).1) :
    ∃ rest', readAttributes [] rest = some (tag.attributes, tag.selfClosing, rest') ∧
      Token.next mode sections ('<' :: (name ++ rest)) = ([.startTag tag], rest') := by
  have hletters := isAlpha_of_asciiLower hname hproper
  cases name with
  | nil => exact absurd (String.toList_eq_nil_iff.mp hname.symm) hne
  | cons c name =>
      obtain ⟨sections', hmarkup⟩ := next_eq_readMarkup_of_mem h
      rw [hmarkup] at h ⊢
      obtain ⟨rest', htag, hnext⟩ := readMarkup_of_mem (hletters c List.mem_cons_self) h
      exact ⟨rest', readAttributes_of_readTag hletters hrest htag, hnext⟩

/-- The content of a tag that is read where a text is written so is this text. -/
theorem WritesContent.attribute?_eq (h : WritesContent t s)
    (htag : Token.startTag tag ∈ (Token.next mode sections s).1) :
    attribute? tag.attributes "content" = some (String.ofList t) := by
  obtain ⟨hname, hd, hfront, hfirst, hword, hgap, hgap', hw⟩ := h
  rename_i name front word gap gap' w back d attributes
  have hletters := isAlpha_of_asciiLower hword (by simp)
  obtain ⟨c, word, rfl⟩ : ∃ c word', word = c :: word' :=
    List.exists_cons_of_ne_nil (by rintro rfl; cases hword)
  obtain ⟨rest', hread, -⟩ := next_of_name hname (by simp) (by decide) (fun c hc => by
    cases hc
    exact hd) htag
  rw [List.cons_append, hfront _ _ (hletters c List.mem_cons_self), ← List.cons_append,
    readAttributes_of_quoted (List.cons_ne_nil c word) hletters hgap hgap' hw] at hread
  refine attribute?_of_prefix (prefix_of_readAttributes hread) ?_
  exact attribute?_addAttribute (nameOf_eq hword (by simp)) hfirst

/-- Behind the tag of a title that is read where a text is written so, this text follows. -/
theorem WritesTitle.next_eq (h : WritesTitle t s)
    (htag : Token.startTag tag ∈ (Token.next mode sections s).1) :
    ∃ w tail, IsWritten .text t w ∧ (tail = [] ∨ startsWithEndTag "title" tail = true) ∧
      Token.next mode sections s = ([.startTag tag], w ++ tail) := by
  obtain ⟨hname, hfront, hread, hw, htail⟩ := h
  rename_i name front w tail attributes selfClosing
  obtain ⟨rest', hread', hnext⟩ := next_of_name hname (by simp) (by decide) (fun c hc => by
    refine hfront c ?_
    cases front with
    | nil => exact hc
    | cons d front => exact hc) htag
  rw [hread] at hread'
  cases hread'
  exact ⟨w, tail, hw, htail, hnext⟩

/-! ## The text of a title -/

theorem beforeEndTag_of_isWritten {element : String} {tail : List Char} (h : IsWritten .text t w)
    (htail : tail = [] ∨ startsWithEndTag element tail = true) :
    beforeEndTag element (w ++ tail) = w := by
  have hw := h.ne_of_mem
  clear h
  induction w with
  | nil =>
      rcases htail with rfl | htail
      · rfl
      · cases tail with
        | nil => rfl
        | cons c tail => rw [List.nil_append, beforeEndTag, if_pos htail]
  | cons c w ih =>
      obtain ⟨⟨hc, -⟩, hw⟩ := List.forall_mem_cons.mp hw
      have hstart : startsWithEndTag element (c :: (w ++ tail)) = false := by
        rw [startsWithEndTag]
        intro _ heq
        exact absurd (List.cons.inj heq).1 hc
      rw [List.cons_append, beforeEndTag, hstart, if_neg Bool.false_ne_true, ih hw]

/-- The text in front of an end tag is read as characters. -/
theorem next_of_isWritten {element : String} {tail : List Char} (h : IsWritten .text t w)
    (hne : w ≠ []) (htail : tail = [] ∨ startsWithEndTag element tail = true) (sections : Bool) :
    Token.next (.replaceable element) sections (w ++ tail) = (chars t, tail) := by
  rw [Token.next, beforeEndTag_of_isWritten h htail, readContent, if_neg (by simpa using hne),
    h.replaceNul_eq, h.decode_eq, List.drop_left]

/-- Where the end tag of a title stands, this end tag is read, if it ends. -/
theorem next_of_endTag {tail : List Char} (htail : startsWithEndTag "title" tail = true)
    (sections : Bool) :
    Token.next (.replaceable "title") sections tail = ([], []) ∨
      ∃ name rest, Token.next (.replaceable "title") sections tail = ([.endTag name], rest) := by
  have hempty : beforeEndTag "title" tail = [] := by
    simpa using beforeEndTag_of_isWritten .nil (.inr htail)
  obtain ⟨c, rest, rfl, hc⟩ : ∃ c rest, tail = '<' :: '/' :: c :: rest ∧ c.isAlpha = true := by
    unfold startsWithEndTag at htail
    split at htail
    · rename_i rest
      cases rest with
      | nil => cases htail
      | cons c rest =>
          refine ⟨c, rest, rfl, Text.isAlpha_of_toLower ?_⟩
          by_cases hlower : c.toLower = 't'
          · rw [hlower]
            decide
          · refine absurd htail ?_
            simp [startsWithName, Text.dropStartIgnoringCase?, Ne.symm hlower]
    · cases htail
  have hslash : c ≠ '>' := by
    rintro rfl
    exact absurd hc (by decide)
  have hnext : Token.next (.replaceable "title") sections ('<' :: '/' :: c :: rest) =
      readEndTag (c :: rest) := by
    rw [Token.next, hempty, readContent, if_pos List.isEmpty_nil, readMarkup, readAfterLess,
      if_pos hc]
    all_goals simp [hslash]
  rw [hnext, readEndTag, readTag]
  cases readAttributes [] ((c :: rest).dropWhile inTagName) with
  | none => exact .inl rfl
  | some r => exact .inr ⟨_, _, rfl⟩

end LinkPreview.Html
