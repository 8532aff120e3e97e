import LinkPreview.Html.Token

/-!
# Reading the next token

`Token.next` reads the front of a text that is not empty: what it finds there
and the text after it, which is always shorter. In markup that is one tag, one
comment, one doctype or a run of characters; in the other modes it is a run of
characters up to the end tag that the mode waits for, or that end tag itself.
-/

namespace LinkPreview.Html

open Text (isAsciiBlank)

/-- Where the reader of a comment is: just behind the opening, behind a dash
there, behind some dashes in the comment, or behind `--!`. -/
inductive CommentPlace where
  | opening
  | openingDash
  | body (dashes : Nat)
  | bang

/-- Goes on in a comment by one character; `none` where the character ends it. -/
def CommentPlace.step : CommentPlace → Char → Option CommentPlace
  | opening, '>' => none
  | opening, '-' => some openingDash
  | openingDash, '>' => none
  | openingDash, '-' => some (body 2)
  | body 2, '>' => none
  | body 2, '!' => some bang
  | body n, '-' => some (body (min 2 (n + 1)))
  | bang, '>' => none
  | bang, '-' => some (body 1)
  | _, _ => some (body 0)

/-- How far the reader of a script is: in plain code, in code behind `<!--`, or
behind a start tag of a script in there, where the next end tag of a script does
not end the element. The dashes just read are counted, up to two. -/
inductive ScriptPlace where
  | plain
  | hidden (dashes : Nat)
  | nested (dashes : Nat)

namespace Token

/-- The text after a comment. -/
def afterComment (place : CommentPlace) : List Char → List Char
  | [] => []
  | c :: rest =>
    match place.step c with
    | none => rest
    | some place => afterComment place rest

/-- Whether a text begins with a word, in any case, and a character that ends
the name of a tag. -/
def startsWithName (word : String) (s : List Char) : Bool :=
  match Text.dropStartIgnoringCase? word.toList s with
  | some (c :: _) => !inTagName c
  | _ => false

/-- Whether a text begins with the end tag of the named element. -/
def startsWithEndTag (element : String) (s : List Char) : Bool :=
  match s with
  | '<' :: '/' :: rest => startsWithName element rest
  | _ => false

/-- The characters before the end tag of the named element. -/
def beforeEndTag (element : String) : List Char → List Char
  | [] => []
  | c :: rest =>
    if startsWithEndTag element (c :: rest) then [] else c :: beforeEndTag element rest

/-- Goes on in a script by the first character of a text. -/
def stepScript (place : ScriptPlace) (s : List Char) : ScriptPlace :=
  match place, s with
  | .plain, '<' :: '!' :: '-' :: '-' :: _ => .hidden 0
  | .plain, _ => .plain
  | .hidden n, '-' :: _ => .hidden (min 2 (n + 1))
  | .hidden 2, '>' :: _ => .plain
  | .hidden _, '<' :: rest => if startsWithName "script" rest then .nested 0 else .hidden 0
  | .hidden _, _ => .hidden 0
  | .nested n, '-' :: _ => .nested (min 2 (n + 1))
  | .nested 2, '>' :: _ => .plain
  | .nested _, '<' :: '/' :: rest => if startsWithName "script" rest then .hidden 0 else .nested 0
  | .nested _, _ => .nested 0

/-- Whether the end tag of a script ends the element at this place. -/
def ScriptPlace.mayEnd : ScriptPlace → Bool
  | .nested _ => false
  | _ => true

/-- The characters before the end tag of a script. -/
def beforeScriptEnd (place : ScriptPlace) : List Char → List Char
  | [] => []
  | c :: rest =>
    if ScriptPlace.mayEnd place && startsWithEndTag "script" (c :: rest) then []
    else c :: beforeScriptEnd (stepScript place (c :: rest)) rest

/-- The characters before the end of a character data section. -/
def beforeSectionEnd : List Char → List Char
  | [] => []
  | ']' :: ']' :: '>' :: _ => []
  | c :: rest => c :: beforeSectionEnd rest

/-- The text behind the next greater-than sign. A document type ends there too,
even inside a quotation. -/
def afterGreater (s : List Char) : List Char :=
  (s.dropWhile (· != '>')).drop 1

/-- Characters as tokens. -/
def chars (s : List Char) : List Token :=
  s.map .char

/-- Reads a tag whose name starts at the front: the tag, if it ends, and the text
after it. -/
def readTag (s : List Char) : Option Tag × List Char :=
  let name := nameOf (s.takeWhile inTagName)
  match readAttributes [] (s.dropWhile inTagName) with
  | none => (none, [])
  | some (attributes, selfClosing, rest) => (some ⟨name, attributes, selfClosing⟩, rest)

/-- Reads a start tag whose name starts at the front. -/
def readStartTag (s : List Char) : List Token × List Char :=
  let (tag, rest) := readTag s
  (tag.toList.map .startTag, rest)

/-- Reads an end tag whose name starts at the front. -/
def readEndTag (s : List Char) : List Token × List Char :=
  let (tag, rest) := readTag s
  (tag.toList.map fun tag => .endTag tag.name, rest)

/-- Reads what follows `<!`: a comment, a document type, a section of character
data where these are allowed, and a comment up to the next greater-than sign for
everything else. -/
def readDeclaration (sections : Bool) (s : List Char) : List Token × List Char :=
  match s with
  | '-' :: '-' :: rest => ([.comment], afterComment .opening rest)
  | _ =>
    match Text.dropStartIgnoringCase? "doctype".toList s with
    | some rest => ([.doctype], afterGreater rest)
    | none =>
      match sections, Text.dropStart? "[CDATA[".toList s with
      | true, some rest =>
        let content := beforeSectionEnd rest
        (chars content, rest.drop (content.length + 3))
      | _, _ => ([.comment], afterGreater s)

/-- Reads what follows a less-than sign. -/
def readAfterLess (sections : Bool) (s : List Char) : List Token × List Char :=
  match s with
  | [] => (chars ['<'], [])
  | '!' :: rest => readDeclaration sections rest
  | '?' :: rest => ([.comment], afterGreater rest)
  | ['/'] => (chars ['<', '/'], [])
  | '/' :: '>' :: rest => ([], rest)
  | '/' :: c :: rest =>
    if c.isAlpha then readEndTag (c :: rest) else ([.comment], afterGreater (c :: rest))
  | c :: rest => if c.isAlpha then readStartTag (c :: rest) else (chars ['<'], c :: rest)

/-- Reads markup. -/
def readMarkup (sections : Bool) (s : List Char) : List Token × List Char :=
  match s with
  | '<' :: rest => readAfterLess sections rest
  | _ =>
    (chars (Reference.decode .text (s.takeWhile (· != '<'))), s.dropWhile (· != '<'))

/-- Reads the characters before an end tag, or that tag if there are none. -/
def readContent (content : List Char) (decode : List Char → List Char) (s : List Char) :
    List Token × List Char :=
  if content.isEmpty then readMarkup false s
  else (chars (decode (replaceNul content)), s.drop content.length)

/-- Reads the front of a text. `sections` says whether sections of character data
are allowed here. -/
def next (mode : TextMode) (sections : Bool) (s : List Char) : List Token × List Char :=
  match mode with
  | .markup => readMarkup sections s
  | .replaceable element => readContent (beforeEndTag element s) (Reference.decode .text) s
  | .raw element => readContent (beforeEndTag element s) id s
  | .script => readContent (beforeScriptEnd .plain s) id s
  | .plain => (chars (replaceNul s), [])

theorem length_afterComment_le (place : CommentPlace) (s : List Char) :
    (afterComment place s).length ≤ s.length := by
  induction s generalizing place with
  | nil => simp [afterComment]
  | cons c rest ih =>
    unfold afterComment
    split
    · simp
    · rename_i place' _
      have := ih place'
      simp only [List.length_cons]
      omega

theorem length_afterGreater_le (s : List Char) : (afterGreater s).length ≤ s.length := by
  have := length_dropWhile_le (· != '>') s
  simp only [afterGreater, List.length_drop]
  omega

theorem length_dropStart_le {start s rest : List Char}
    (h : Text.dropStart? start s = some rest) : rest.length ≤ s.length := by
  fun_induction Text.dropStart? start s with
  | case1 s => simp_all
  | case2 => simp at h
  | case3 c start d s hcd ih => have := ih h; simp only [List.length_cons]; omega
  | case4 => simp at h

theorem length_dropStartIgnoringCase_le {start s rest : List Char}
    (h : Text.dropStartIgnoringCase? start s = some rest) : rest.length ≤ s.length := by
  fun_induction Text.dropStartIgnoringCase? start s with
  | case1 s => simp_all
  | case2 => simp at h
  | case3 c start d s hcd ih => have := ih h; simp only [List.length_cons]; omega
  | case4 => simp at h

theorem length_readTag_le (s : List Char) : (readTag s).2.length ≤ s.length := by
  have h₁ := length_dropWhile_le inTagName s
  unfold readTag
  split
  · simp
  · rename_i h
    have h₂ := length_readAttributes_lt _ _ h
    simp only at h₂ ⊢
    omega

theorem length_readDeclaration_le (sections : Bool) (s : List Char) :
    (readDeclaration sections s).2.length ≤ s.length := by
  unfold readDeclaration
  split
  · rename_i rest
    have := length_afterComment_le .opening rest
    simp only [List.length_cons]
    omega
  · split
    · rename_i rest h
      have h₁ := length_dropStartIgnoringCase_le h
      have h₂ := length_afterGreater_le rest
      simp only
      omega
    · split
      · rename_i rest h
        have h₁ := length_dropStart_le h
        simp only [List.length_drop]
        omega
      · exact length_afterGreater_le s

theorem length_readAfterLess_le (sections : Bool) (s : List Char) :
    (readAfterLess sections s).2.length ≤ s.length := by
  unfold readAfterLess
  split
  · simp
  · rename_i rest
    have := length_readDeclaration_le sections rest
    simp only [List.length_cons]
    omega
  · rename_i rest
    have := length_afterGreater_le rest
    simp only [List.length_cons]
    omega
  · simp
  · simp only [List.length_cons]; omega
  · rename_i c rest _
    have h₁ := length_readTag_le (c :: rest)
    have h₂ := length_afterGreater_le (c :: rest)
    simp only [List.length_cons] at h₁ h₂
    split
    · simp only [readEndTag, List.length_cons]
      omega
    · simp only [List.length_cons]
      omega
  · rename_i c rest _ _ _ _ _
    split
    · exact length_readTag_le (c :: rest)
    · simp

theorem length_readMarkup_lt (sections : Bool) {s : List Char} (hs : s ≠ []) :
    (readMarkup sections s).2.length < s.length := by
  unfold readMarkup
  split
  · rename_i rest
    have := length_readAfterLess_le sections rest
    simp only [List.length_cons]
    omega
  · rename_i hfirst
    match s, hs with
    | c :: rest, _ =>
      have hc : (c != '<') = true := by
        simp only [bne_iff_ne, ne_eq]
        rintro rfl
        exact hfirst rest rfl
      have := length_dropWhile_le (· != '<') rest
      simp only [List.dropWhile_cons, hc, if_true, List.length_cons]
      omega

theorem length_readContent_lt (content : List Char) (decode : List Char → List Char)
    {s : List Char} (hs : s ≠ []) :
    (readContent content decode s).2.length < s.length := by
  unfold readContent
  split
  · exact length_readMarkup_lt false hs
  · rename_i h
    have h₁ : 0 < content.length := by
      cases content with
      | nil => simp at h
      | cons => simp
    have h₂ := List.length_pos_iff.mpr hs
    simp only [List.length_drop]
    omega

/-- Every read takes at least one character. -/
theorem length_next_lt (mode : TextMode) (sections : Bool) {s : List Char} (hs : s ≠ []) :
    (next mode sections s).2.length < s.length := by
  unfold next
  split
  · exact length_readMarkup_lt sections hs
  · exact length_readContent_lt _ _ hs
  · exact length_readContent_lt _ _ hs
  · exact length_readContent_lt _ _ hs
  · exact List.length_pos_iff.mpr hs

end Token

end LinkPreview.Html
