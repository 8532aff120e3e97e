import Mathlib.Data.List.DropRight
import LinkPreview.Text.Blank

/-!
# Pieces, words and trimmed texts

`splitWhere` finds the pieces between the characters of a class wherever they stand, and
`asciiWords` those that are not empty: the words. `trim` leaves what begins and ends with no blank
and has nothing but blanks around it.
-/

namespace LinkPreview.Text

variable {p : Char → Bool} {s t piece rest : List Char}

/-! ## Beginnings -/

/-- What begins a text and is of a class is all of it, if something else follows. -/
theorem takeWhile_append_of_head (hs : ∀ c ∈ s, p c = true) (hr : ∀ c ∈ rest.head?, p c = false) :
    (s ++ rest).takeWhile p = s := by
  rw [List.takeWhile_append_of_pos hs]
  cases rest with
  | nil => simp
  | cons c rest => rw [List.takeWhile_cons_of_neg (by simp [hr c rfl]), List.append_nil]

theorem dropWhile_append_of_head (hs : ∀ c ∈ s, p c = true) (hr : ∀ c ∈ rest.head?, p c = false) :
    (s ++ rest).dropWhile p = rest := by
  rw [List.dropWhile_append_of_pos hs]
  cases rest with
  | nil => rfl
  | cons c rest => rw [List.dropWhile_cons_of_neg (by simp [hr c rfl])]

theorem dropStart?_eq_some_iff {start : List Char} :
    dropStart? start s = some rest ↔ s = start ++ rest := by
  induction start generalizing s with
  | nil => simp [dropStart?]
  | cons a start ih =>
      cases s with
      | nil => simp [dropStart?]
      | cons c s =>
          rw [dropStart?, Option.ite_none_right_eq_some, ih, beq_iff_eq, List.cons_append,
            List.cons.injEq, eq_comm (a := a)]

/-! ## Pieces -/

theorem splitWhere_of_forall (hs : ∀ c ∈ s, p c = false) : splitWhere p s = [s] := by
  induction s with
  | nil => rfl
  | cons c s ih =>
      obtain ⟨hc, hs⟩ := List.forall_mem_cons.mp hs
      rw [splitWhere, if_neg (by simp [hc]), ih hs]

theorem splitWhere_ne_nil (p : Char → Bool) (s : List Char) : splitWhere p s ≠ [] := by
  cases s with
  | nil => simp [splitWhere]
  | cons c s =>
      rw [splitWhere]
      split
      · simp
      · split <;> simp

/-- At a character of the class the pieces fall into those in front of it and those behind. -/
theorem splitWhere_append_cons {d : Char} (hd : p d = true) (s t : List Char) :
    splitWhere p (s ++ d :: t) = splitWhere p s ++ splitWhere p t := by
  induction s with
  | nil => simp [splitWhere, hd]
  | cons c s ih =>
      rw [List.cons_append, splitWhere, splitWhere, ih]
      split
      · rw [List.cons_append]
      · cases hs : splitWhere p s with
        | nil => exact absurd hs (splitWhere_ne_nil p s)
        | cons first pieces => rfl

/-- Whether a text is one of the pieces of another between the characters of a class. -/
def IsPiece (p : Char → Bool) (piece s : List Char) : Prop :=
  ∃ before after, s = before ++ piece ++ after ∧ (∀ c ∈ piece, p c = false) ∧
    (∀ c ∈ before.getLast?, p c = true) ∧ ∀ c ∈ after.head?, p c = true

theorem IsPiece.of_mem (h : piece ∈ splitWhere p s) : IsPiece p piece s := by
  -- what stands behind the first character of the class is a shorter text
  induction hn : s.length using Nat.strong_induction_on generalizing s with
  | _ n ih =>
      subst hn
      cases hfirst : s.find? p with
      | none =>
          have hs : ∀ c ∈ s, p c = false := by simpa using hfirst
          rw [splitWhere_of_forall hs, List.mem_singleton] at h
          subst h
          exact ⟨[], [], by simp, hs, by simp, by simp⟩
      | some d =>
          obtain ⟨hd, before, after, rfl, hbefore⟩ := List.find?_eq_some_iff_append.mp hfirst
          have hs : ∀ c ∈ before, p c = false := by simpa using hbefore
          rw [splitWhere_append_cons hd, splitWhere_of_forall hs, List.singleton_append,
            List.mem_cons] at h
          rcases h with rfl | h
          · exact ⟨[], d :: after, by simp, hs, by simp, by simpa using hd⟩
          · obtain ⟨front, rest, rfl, hpiece, hfront, hrest⟩ :=
              ih after.length (by simp; omega) h rfl
            refine ⟨before ++ d :: front, rest, by simp, hpiece, fun c hc => ?_, hrest⟩
            cases front with
            | nil =>
                obtain rfl : d = c := by simpa using hc
                exact hd
            | cons e front =>
                exact hfront c (by simpa using hc)

theorem IsPiece.mem (h : IsPiece p piece s) : piece ∈ splitWhere p s := by
  obtain ⟨before, after, rfl, hpiece, hbefore, hafter⟩ := h
  have hmem : piece ∈ splitWhere p (piece ++ after) := by
    cases after with
    | nil => simp [splitWhere_of_forall hpiece]
    | cons d after =>
        rw [splitWhere_append_cons (hafter d rfl), splitWhere_of_forall hpiece]
        simp
  rcases List.eq_nil_or_concat before with rfl | ⟨front, d, rfl⟩
  · simpa using hmem
  · rw [List.concat_eq_append, List.append_assoc, List.append_assoc, List.singleton_append,
      splitWhere_append_cons (hbefore d (by simp))]
    exact List.mem_append_right _ hmem

theorem mem_splitWhere_iff : piece ∈ splitWhere p s ↔ IsPiece p piece s :=
  ⟨.of_mem, IsPiece.mem⟩

/-- The words of a text are its pieces between ASCII blanks that are not empty. -/
theorem mem_asciiWords_iff {word : List Char} :
    word ∈ asciiWords s ↔ word ≠ [] ∧ IsPiece isAsciiBlank word s := by
  rw [asciiWords, List.mem_filter, mem_splitWhere_iff]
  simp [and_comm]

/-! ## Trimming -/

/-- Whether a text is another one without the blanks around it. -/
def IsTrimmed (t s : List Char) : Prop :=
  ∃ before after, s = before ++ t ++ after ∧ (∀ c ∈ before, isBlank c = true) ∧
    (∀ c ∈ after, isBlank c = true) ∧ (∀ c ∈ t.head?, isBlank c = false) ∧
    ∀ c ∈ t.getLast?, isBlank c = false

theorem trim_eq (s : List Char) : trim s = (s.dropWhile isBlank).rdropWhile isBlank :=
  rfl

theorem isTrimmed_trim (s : List Char) : IsTrimmed (trim s) s := by
  rw [trim_eq]
  refine ⟨s.takeWhile isBlank, (s.dropWhile isBlank).rtakeWhile isBlank, ?_,
    fun c hc => List.mem_takeWhile_imp hc, fun c hc => List.mem_rtakeWhile_imp hc,
    fun c hc => ?_, fun c hc => ?_⟩
  · rw [List.append_assoc, List.rdropWhile_append_rtakeWhile, List.takeWhile_append_dropWhile]
  · obtain ⟨after, hafter⟩ := List.rdropWhile_prefix isBlank (s.dropWhile isBlank)
    have hhead : (s.dropWhile isBlank).head? = some c := by
      rw [← hafter, List.head?_append, hc]
      rfl
    simpa [hhead] using List.head?_dropWhile_not isBlank s
  · obtain ⟨hne, rfl⟩ := List.mem_getLast?_eq_getLast hc
    exact Bool.eq_false_iff.mpr (List.rdropWhile_last_not isBlank _ hne)

theorem trim_eq_iff : trim s = t ↔ IsTrimmed t s := by
  constructor
  · rintro rfl
    exact isTrimmed_trim s
  · rintro ⟨before, after, rfl, hbefore, hafter, hhead, hlast⟩
    have hrdrop : (t ++ after).rdropWhile isBlank = t := by
      have hafter' : ∀ c ∈ after.reverse, isBlank c = true := by simpa using hafter
      rw [List.rdropWhile, List.reverse_append, List.dropWhile_append_of_pos hafter',
        ← List.rdropWhile, List.rdropWhile_eq_self_iff]
      intro hne
      simp [hlast _ (List.getLast?_eq_some_getLast hne)]
    rw [trim_eq, List.append_assoc, List.dropWhile_append_of_pos hbefore]
    cases t with
    | nil =>
        rw [List.nil_append, List.dropWhile_eq_nil_iff.mpr hafter]
        rfl
    | cons c t =>
        rw [List.cons_append, List.dropWhile_cons_of_neg (by simp [hhead c rfl])]
        exact hrdrop

end LinkPreview.Text
