import LinkPreview.Message
import LinkPreview.Proofs.Json.Document

/-!
# Written values

An object is a document if its keys may be written so and its values are documents, so every object
of texts is read as it was written. Of an object, `values?` then finds what stands under each name.
-/

namespace LinkPreview.Json

/-! ## Words -/

theorem mem_memberTokens {members : List (List UInt8 × Json)} {t : Token}
    (ht : t ∈ memberTokens members) :
    t ∈ [Token.comma, .colon] ∨ ∃ m ∈ members, t = .string m.1 ∨ t ∈ m.2.tokens := by
  induction members with
  | nil => simp [memberTokens] at ht
  | cons m members ih =>
      simp only [memberTokens, List.mem_cons, List.mem_append] at ht
      rcases ht with rfl | rfl | rfl | ht | ht
      · exact .inl (by simp)
      · exact .inr ⟨m, by simp, .inl rfl⟩
      · exact .inl (by simp)
      · exact .inr ⟨m, by simp, .inr ht⟩
      · rcases ih ht with ht | ⟨k, hk, ht⟩
        · exact .inl ht
        · exact .inr ⟨k, List.mem_cons_of_mem _ hk, ht⟩

/-- The words of an object are its marks, its keys and the words of its values. -/
theorem mem_tokens_object {members : List (List UInt8 × Json)} {t : Token}
    (ht : t ∈ (object members).tokens) :
    t ∈ [Token.openObject, .closeObject, .comma, .colon] ∨
      ∃ m ∈ members, t = .string m.1 ∨ t ∈ m.2.tokens := by
  cases members with
  | nil =>
      simp only [tokens, List.mem_cons, List.not_mem_nil, or_false] at ht
      rcases ht with rfl | rfl <;> exact .inl (by simp)
  | cons m members =>
      simp only [tokens, List.mem_cons, List.mem_append, List.not_mem_nil, or_false] at ht
      rcases ht with rfl | rfl | rfl | ht | ht | rfl
      · exact .inl (by simp)
      · exact .inr ⟨m, by simp, .inl rfl⟩
      · exact .inl (by simp)
      · exact .inr ⟨m, by simp, .inr ht⟩
      · rcases mem_memberTokens ht with ht | ⟨k, hk, ht⟩
        · exact .inl (List.mem_cons_of_mem _ (List.mem_cons_of_mem _ ht))
        · exact .inr ⟨k, List.mem_cons_of_mem _ hk, ht⟩
      · exact .inl (by simp)

/-- An object consists of words that may be written so if its keys and its values do. -/
theorem isWord_of_mem_object {members : List (List UInt8 × Json)}
    (hk : ∀ m ∈ members, IsStringBody m.1) (hv : ∀ m ∈ members, ∀ t ∈ m.2.tokens, t.IsWord) :
    ∀ t ∈ (object members).tokens, t.IsWord := by
  intro t ht
  rcases mem_tokens_object ht with ht | ⟨m, hm, rfl | ht⟩
  · simp only [List.mem_cons, List.not_mem_nil, or_false] at ht
    rcases ht with rfl | rfl | rfl | rfl <;> trivial
  · exact hk m hm
  · exact hv m hm t ht

theorem isWord_of_mem_ofMembers {members : List (String × Json)}
    (h : ∀ m ∈ members, ∀ t ∈ m.2.tokens, t.IsWord) :
    ∀ t ∈ (ofMembers members).tokens, t.IsWord := by
  refine isWord_of_mem_object (fun m hm => ?_) fun m hm => ?_
  · obtain ⟨k, -, rfl⟩ := List.mem_map.mp hm
    exact isStringBody_written k.1
  · obtain ⟨k, hk, rfl⟩ := List.mem_map.mp hm
    exact h k hk

theorem isWord_of_mem_ofText (s : String) : ∀ t ∈ (ofText s).tokens, t.IsWord := by
  intro t ht
  rw [List.mem_singleton.mp ht]
  exact isStringBody_written s

theorem isWord_of_mem_ofOptionalText (s : Option String) :
    ∀ t ∈ (ofOptionalText s).tokens, t.IsWord := by
  cases s with
  | none =>
      intro t ht
      rw [List.mem_singleton.mp ht]
      trivial
  | some s => exact isWord_of_mem_ofText s

/-! ## Members -/

theorem namedMembers?_written (members : List (String × Json)) :
    namedMembers? (members.map fun (key, value) => (written key, value)) = some members := by
  induction members with
  | nil => rfl
  | cons m members ih =>
      rw [namedMembers?] at ih ⊢
      simp [ih]

theorem member?_of_mem {members : List (String × Json)} (hn : (members.map Prod.fst).Nodup)
    {m : String × Json} (hm : m ∈ members) : member? members m.1 = some (some m.2) := by
  have hf : members.filter (·.1 == m.1) = [m] := by
    induction members with
    | nil => cases hm
    | cons k members ih =>
        rw [List.map_cons, List.nodup_cons] at hn
        have hother : ∀ l ∈ members, l.1 ≠ k.1 := fun l hl he =>
          hn.1 (he ▸ List.mem_map_of_mem hl)
        rcases List.mem_cons.mp hm with rfl | hm
        · rw [List.filter_cons_of_pos (by simp), List.filter_eq_nil_iff.mpr]
          intro l hl
          simpa using hother l hl
        · rw [List.filter_cons_of_neg (by simpa using fun h => hother m hm h.symm), ih hn.2 hm]
  simp [member?, hf]

/-- The values of an object are found under names that it has, if no two are the same. -/
theorem values?_of_subset {members : List (String × Json)} (hn : (members.map Prod.fst).Nodup)
    {ms : List (String × Json)} (hs : ms ⊆ members) :
    (ofMembers members).values? (ms.map Prod.fst) = some (ms.map (some ·.2)) := by
  have h : (ms.map Prod.fst).mapM (member? members) = some (ms.map (some ·.2)) := by
    induction ms with
    | nil => rfl
    | cons m ms ih =>
        have hm := member?_of_mem hn (hs List.mem_cons_self)
        simp [hm, ih fun k hk => hs (List.mem_cons_of_mem _ hk)]
  simp only [ofMembers, values?, namedMembers?_written, Option.bind_eq_bind, Option.bind_some]
  exact h

theorem values?_ofMembers {members : List (String × Json)} (hn : (members.map Prod.fst).Nodup) :
    (ofMembers members).values? (members.map Prod.fst) = some (members.map (some ·.2)) :=
  values?_of_subset hn (List.Subset.refl _)

@[simp]
theorem required?_ofText (s : String) : required? (some (ofText s)) = some s :=
  textOf?_written s

@[simp]
theorem optional?_ofOptionalText (s : Option String) :
    optional? (some (ofOptionalText s)) = some s := by
  cases s with
  | none => rfl
  | some s => simp [optional?, ofOptionalText, ofText, text?]

end LinkPreview.Json
