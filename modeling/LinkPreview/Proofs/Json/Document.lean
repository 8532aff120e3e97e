import LinkPreview.Json.Value
import LinkPreview.Proofs.Json.Words

/-!
# What a text is read as

A document is the words of one value with blanks around them. To see that a reader gives exactly
the value of a document, `Reader.seen` lists the words that it has read: one more with every step,
so in the end those of the value that it gives. Words of a value are found in a text because a
number is never followed by another word than one at which it ends.
-/

namespace LinkPreview.Json

/-! ## Words in a text -/

namespace Token

/-- Words with blanks around them, and the bytes that they are. -/
inductive Spaced : List Token → List UInt8 → Prop where
  | nil {gap : List UInt8} (hg : ∀ b ∈ gap, isGap b = true) : Spaced [] gap
  | cons {gap s : List UInt8} {t : Token} {ts : List Token} (hg : ∀ b ∈ gap, isGap b = true)
      (h : Spaced ts s) : Spaced (t :: ts) (gap ++ (t.write ++ s))

/-- Whether a number can stand in front of a word: it ends there. -/
def endsNumber : Token → Bool
  | comma | closeArray | closeObject => true
  | _ => false

/-- Whether behind every number there is a word at which it ends, or nothing more. -/
def Separated : List Token → Prop
  | [] => True
  | t :: ts => (∀ w, t = number w → ∀ u ∈ ts.head?, endsNumber u = true) ∧ Separated ts

theorem exists_gap (s : List UInt8) :
    ∃ gap, (∀ b ∈ gap, isGap b = true) ∧ s = gap ++ s.dropWhile isGap :=
  ⟨s.takeWhile isGap, fun _ hb => List.mem_takeWhile_imp hb,
    List.takeWhile_append_dropWhile.symm⟩

/-- The words that are found in a text are its words. -/
theorem spaced_of_readAll? {s : List UInt8} {ts : List Token} (h : readAll? s = some ts) :
    Spaced ts s ∧ ∀ t ∈ ts, t.IsWord := by
  fun_induction readAll? s generalizing ts with
  | case1 s hblank =>
      cases h
      obtain ⟨gap, hgap, hs⟩ := exists_gap s
      rw [hblank, List.append_nil] at hs
      exact ⟨hs ▸ .nil hgap, by simp⟩
  | case2 => cases h
  | case3 s b rest hrest t rest' hread _ ih =>
      obtain ⟨us, hus, rfl⟩ := Option.map_eq_some_iff.mp h
      obtain ⟨hspaced, hwords⟩ := ih hus
      obtain ⟨gap, hgap, hs⟩ := exists_gap s
      rw [hrest, ← (read?_eq_some hread).2] at hs
      refine ⟨hs ▸ .cons hgap hspaced, fun u hu => ?_⟩
      rcases List.mem_cons.mp hu with rfl | hu
      · exact isWord_of_read? hread
      · exact hwords u hu

theorem headNot_gap {gap s : List UInt8} (hg : ∀ b ∈ gap, isGap b = true)
    (hs : HeadNot goesOn s) : HeadNot goesOn (gap ++ s) := by
  cases gap with
  | nil => exact hs
  | cons b gap =>
      have hb := hg b List.mem_cons_self
      simp only [isGap, Bool.or_eq_true, beq_iff_eq] at hb
      apply headNot_cons
      rcases hb with ((rfl | rfl) | rfl) | rfl <;> decide

/-- In front of blanks and of a word at which it ends, a number does not go on. -/
theorem Spaced.headNot_goesOn {ts : List Token} {s : List UInt8} (h : Spaced ts s)
    (hs : ∀ u ∈ ts.head?, endsNumber u = true) : HeadNot goesOn s := by
  cases h with
  | nil hg =>
      rw [← List.append_nil s]
      exact headNot_gap hg (by simp [HeadNot])
  | @cons gap s u us hg _ =>
      apply headNot_gap hg
      have hu := hs u rfl
      match u, hu with
      | comma, _ | closeArray, _ | closeObject, _ => exact headNot_cons (by decide)

/-- Behind blanks, what begins with a word is read as this word and the words of the rest. -/
theorem readAll?_append {gap rest : List UInt8} {t : Token}
    (hg : ∀ b ∈ gap, isGap b = true) (hread : read? (t.write ++ rest) = some (t, rest))
    (hhead : ∃ b w, t.write = b :: w ∧ isGap b = false) :
    readAll? (gap ++ (t.write ++ rest)) = (readAll? rest).map (t :: ·) := by
  obtain ⟨b, w, hw, hb⟩ := hhead
  have hd : (gap ++ (t.write ++ rest)).dropWhile isGap = t.write ++ rest := by
    rw [List.dropWhile_append_of_pos hg, hw, List.cons_append,
      List.dropWhile_cons_of_neg (by simp [hb])]
  rw [hw, List.cons_append] at hd hread
  rw [hw, List.cons_append, readAll?]
  split
  · rename_i h
    rw [hd] at h
    cases h
  · rename_i c r h
    rw [hd] at h
    cases h
    split
    · rename_i hn
      rw [hread] at hn
      cases hn
    · rename_i u r hs
      rw [hread] at hs
      cases hs
      rfl

/-- All words of a text are found, if every number ends where it has to. -/
theorem readAll?_of_spaced {s : List UInt8} {ts : List Token} (h : Spaced ts s)
    (hw : ∀ t ∈ ts, t.IsWord) (hs : Separated ts) : readAll? s = some ts := by
  induction h with
  | @nil gap hg =>
      have hblank : gap.dropWhile isGap = [] := List.dropWhile_eq_nil_iff.mpr hg
      rw [readAll?]
      split
      · rfl
      · rename_i hcons
        rw [hblank] at hcons
        cases hcons
  | @cons gap s t ts hg hspaced ih =>
      obtain ⟨hword, hwords⟩ := List.forall_mem_cons.mp hw
      obtain ⟨hnext, hseparated⟩ := hs
      have hread : read? (t.write ++ s) = some (t, s) :=
        hword.read?_append fun w ht => hspaced.headNot_goesOn (hnext w ht)
      rw [readAll?_append hg hread hword.exists_cons, ih hwords hseparated]
      rfl

end Token

/-! ## Values from words -/

mutual

/-- The words of a value take a reader that waits for one behind this value. -/
theorem foldlM_tokens (j : Json) (isFirst : Bool) (frames : List Frame) (rest : List Token) :
    (j.tokens ++ rest).foldlM Reader.step (.value isFirst frames) =
      rest.foldlM Reader.step (.after j frames) := by
  match j with
  | null => rfl
  | bool _ => rfl
  | number _ => rfl
  | string _ => rfl
  | array [] => rfl
  | array (item :: items) =>
      simp only [tokens, List.cons_append, List.append_assoc, List.foldlM_cons, Reader.step,
        Option.bind_eq_bind, Option.bind_some]
      rw [foldlM_tokens item, foldlM_itemTokens item [] items]
      rfl
  | object [] => rfl
  | object ((key, value) :: members) =>
      simp only [tokens, List.cons_append, List.append_assoc, List.foldlM_cons, Reader.step,
        Option.bind_eq_bind, Option.bind_some]
      rw [foldlM_tokens value, foldlM_memberTokens key value [] members]
      rfl

theorem foldlM_itemTokens (item : Json) (done items : List Json) (frames : List Frame)
    (rest : List Token) :
    (itemTokens items ++ .closeArray :: rest).foldlM Reader.step
        (.after item (.array done :: frames)) =
      rest.foldlM Reader.step (.after (.array (done.reverse ++ item :: items)) frames) := by
  match items with
  | [] =>
      simp [itemTokens, Reader.step]
  | next :: items =>
      simp only [itemTokens, List.cons_append, List.append_assoc, List.foldlM_cons, Reader.step,
        Option.bind_eq_bind, Option.bind_some]
      rw [foldlM_tokens next, foldlM_itemTokens next (item :: done) items]
      simp

theorem foldlM_memberTokens (key : List UInt8) (value : Json)
    (done members : List (List UInt8 × Json)) (frames : List Frame) (rest : List Token) :
    (memberTokens members ++ .closeObject :: rest).foldlM Reader.step
        (.after value (.object done key :: frames)) =
      rest.foldlM Reader.step
        (.after (.object (done.reverse ++ (key, value) :: members)) frames) := by
  match members with
  | [] =>
      simp [memberTokens, Reader.step]
  | (nextKey, next) :: members =>
      simp only [memberTokens, List.cons_append, List.append_assoc, List.foldlM_cons, Reader.step,
        Option.bind_eq_bind, Option.bind_some]
      rw [foldlM_tokens next, foldlM_memberTokens nextKey next ((key, value) :: done) members]
      simp

end

/-- A value is kept by its words. -/
theorem ofTokens?_tokens (j : Json) : ofTokens? j.tokens = some j := by
  have h := foldlM_tokens j false [] []
  rw [List.append_nil] at h
  rw [ofTokens?, h]
  rfl

/-- The words of items, with a comma behind each. -/
def begunItems (items : List Json) : List Token :=
  items.flatMap fun item => item.tokens ++ [.comma]

/-- The words of members, with a comma behind each. -/
def begunMembers (members : List (List UInt8 × Json)) : List Token :=
  members.flatMap fun (key, value) => .string key :: .colon :: (value.tokens ++ [.comma])

/-- The words of what has begun, the innermost first. -/
def begun : List Frame → List Token
  | [] => []
  | .array items :: frames => begun frames ++ .openArray :: begunItems items.reverse
  | .object members key :: frames =>
    begun frames ++ .openObject :: (begunMembers members.reverse ++ [.string key, .colon])

theorem tokens_array (items : List Json) (item : Json) :
    (array (items ++ [item])).tokens =
      .openArray :: (begunItems items ++ (item.tokens ++ [.closeArray])) := by
  have hbehind (items : List Json) (first : Json) :
      first.tokens ++ (itemTokens (items ++ [item]) ++ [.closeArray]) =
        begunItems (first :: items) ++ (item.tokens ++ [.closeArray]) := by
    induction items generalizing first with
    | nil => simp [begunItems, itemTokens]
    | cons next items ih =>
        have h := ih next
        simp only [begunItems, List.flatMap_cons, List.append_assoc] at h ⊢
        rw [← h]
        simp [itemTokens]
  cases items with
  | nil => simp [tokens, itemTokens, begunItems]
  | cons first items =>
      rw [List.cons_append, tokens, hbehind]

theorem tokens_object (members : List (List UInt8 × Json)) (key : List UInt8) (value : Json) :
    (object (members ++ [(key, value)])).tokens =
      .openObject :: (begunMembers members ++
        (.string key :: .colon :: (value.tokens ++ [.closeObject]))) := by
  have hbehind (members : List (List UInt8 × Json)) (first : List UInt8 × Json) :
      .string first.1 :: .colon ::
          (first.2.tokens ++ (memberTokens (members ++ [(key, value)]) ++ [.closeObject])) =
        begunMembers (first :: members) ++
          (.string key :: .colon :: (value.tokens ++ [.closeObject])) := by
    induction members generalizing first with
    | nil => simp [begunMembers, memberTokens]
    | cons next members ih =>
        have h := ih next
        simp only [begunMembers, List.flatMap_cons, List.append_assoc] at h ⊢
        simp only [List.cons_append, List.append_assoc] at h ⊢
        rw [← h]
        simp [memberTokens]
  cases members with
  | nil => simp [tokens, memberTokens, begunMembers]
  | cons first members =>
      rw [List.cons_append, tokens, hbehind]

namespace Reader

/-- The words that have been read. -/
def seen : Reader → List Token
  | value _ frames => begun frames
  | key _ members frames => begun frames ++ .openObject :: begunMembers members.reverse
  | colon k members frames =>
    begun frames ++ .openObject :: (begunMembers members.reverse ++ [.string k])
  | after v frames => begun frames ++ v.tokens

/-- Whether nothing has been read yet of an array or an object whose first part may come. -/
def IsFresh : Reader → Prop
  | value true (.array items :: _) => items = []
  | key true members _ => members = []
  | _ => True

/-- One word more is read, and what has just begun is empty. -/
theorem seen_step {r r' : Reader} {t : Token} (h : r.step t = some r') (hr : r.IsFresh) :
    r'.seen = r.seen ++ [t] ∧ r'.IsFresh := by
  unfold step at h
  split at h <;> cases h
  -- a value of one word
  case h_1.refl | h_2.refl | h_3.refl | h_4.refl => exact ⟨by simp [seen, tokens], trivial⟩
  -- an array or an object begins, or ends at once
  case h_5.refl | h_6.refl => exact ⟨by simp [seen, begun, begunItems, begunMembers], rfl⟩
  case h_7.refl | h_9.refl =>
      cases hr
      exact ⟨by simp [seen, begun, begunItems, begunMembers, tokens], trivial⟩
  case h_8.refl | h_10.refl => exact ⟨by simp [seen, begun], trivial⟩
  -- one more item or member is complete, or all are
  case h_11.refl => exact ⟨by simp [seen, begun, begunItems], trivial⟩
  case h_12.refl =>
      refine ⟨?_, trivial⟩
      rw [seen, List.reverse_cons, tokens_array]
      simp [seen, begun]
  case h_13.refl => exact ⟨by simp [seen, begun, begunMembers], trivial⟩
  case h_14.refl =>
      refine ⟨?_, trivial⟩
      rw [seen, List.reverse_cons, tokens_object]
      simp [seen, begun]

theorem seen_foldlM {ts : List Token} {r r' : Reader} (h : ts.foldlM step r = some r')
    (hr : r.IsFresh) : r'.seen = r.seen ++ ts := by
  induction ts generalizing r with
  | nil =>
      cases h
      rw [List.append_nil]
  | cons t ts ih =>
      simp only [List.foldlM_cons, Option.bind_eq_bind, Option.bind_eq_some_iff] at h
      obtain ⟨r₁, ht, h⟩ := h
      obtain ⟨hseen, hfresh⟩ := seen_step ht hr
      rw [ih h hfresh, hseen, List.append_assoc]
      rfl

theorem endsNumber_of_step {v : Json} {frames : List Frame} {t : Token} {r : Reader}
    (h : (after v frames).step t = some r) : t.endsNumber = true := by
  unfold step at h
  split at h <;> simp_all [Token.endsNumber]

theorem exists_after_of_step {r r' : Reader} {w : List UInt8} (h : r.step (.number w) = some r') :
    ∃ v frames, r' = after v frames := by
  cases r with
  | value _ frames =>
      cases h
      exact ⟨_, frames, rfl⟩
  | _ => simp [step] at h

/-- Behind a number that a reader has read, it reads only a word at which the number ends. -/
theorem separated_of_foldlM {ts : List Token} {r r' : Reader} (h : ts.foldlM step r = some r') :
    Token.Separated ts := by
  induction ts generalizing r with
  | nil => trivial
  | cons t ts ih =>
      simp only [List.foldlM_cons, Option.bind_eq_bind, Option.bind_eq_some_iff] at h
      obtain ⟨r₁, ht, h⟩ := h
      refine ⟨fun w hw u hu => ?_, ih h⟩
      subst hw
      obtain ⟨v, frames, rfl⟩ := exists_after_of_step ht
      cases ts with
      | nil => cases hu
      | cons u' ts =>
          cases hu
          simp only [List.foldlM_cons, Option.bind_eq_bind, Option.bind_eq_some_iff] at h
          obtain ⟨r₂, hu, -⟩ := h
          exact endsNumber_of_step hu

end Reader

/-- Words give a value exactly if they are its words. -/
theorem ofTokens?_eq_some_iff {ts : List Token} {j : Json} :
    ofTokens? ts = some j ↔ ts = j.tokens := by
  refine ⟨fun h => ?_, fun h => h ▸ ofTokens?_tokens j⟩
  simp only [ofTokens?, Option.bind_eq_bind, Option.bind_eq_some_iff] at h
  obtain ⟨r, hr, hj⟩ := h
  have hseen := Reader.seen_foldlM hr trivial
  match r, hj with
  | .after v [], hj =>
      cases hj
      simpa [Reader.seen, begun] using hseen.symm

theorem separated_tokens (j : Json) : Token.Separated j.tokens := by
  have h := ofTokens?_tokens j
  simp only [ofTokens?, Option.bind_eq_bind, Option.bind_eq_some_iff] at h
  obtain ⟨r, hr, -⟩ := h
  exact Reader.separated_of_foldlM hr

/-- Whether bytes are the words of one value, each written as it may be, and blanks. -/
def IsDocument (s : List UInt8) (j : Json) : Prop :=
  Token.Spaced j.tokens s ∧ ∀ t ∈ j.tokens, t.IsWord

/-- Exactly the documents are read, as the values whose words they are. -/
theorem read?_eq_some_iff {s : List UInt8} {j : Json} : read? s = some j ↔ IsDocument s j := by
  simp only [read?, Option.bind_eq_bind, Option.bind_eq_some_iff, ofTokens?_eq_some_iff]
  constructor
  · rintro ⟨ts, hts, rfl⟩
    exact Token.spaced_of_readAll? hts
  · rintro ⟨hs, hw⟩
    exact ⟨j.tokens, Token.readAll?_of_spaced hs hw (separated_tokens j), rfl⟩

theorem Token.spaced_write (ts : List Token) : Spaced ts (ts.flatMap write) := by
  induction ts with
  | nil => exact .nil (by simp)
  | cons t ts ih =>
      have hcons : Spaced (t :: ts) ([] ++ (t.write ++ ts.flatMap write)) := .cons (by simp) ih
      exact hcons

/-- A value of words that may be written so is written as a document. -/
theorem isDocument_write {j : Json} (h : ∀ t ∈ j.tokens, t.IsWord) : IsDocument j.write j :=
  ⟨Token.spaced_write j.tokens, h⟩

theorem read?_write {j : Json} (h : ∀ t ∈ j.tokens, t.IsWord) : read? j.write = some j :=
  read?_eq_some_iff.mpr (isDocument_write h)

end LinkPreview.Json
