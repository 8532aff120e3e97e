import Mathlib.Data.List.TakeWhile
import LinkPreview.Proofs.Json.Text

/-!
# How words are written

`Token.IsWord` tells how each word may be written: a number by its parts, a string by its pieces,
of which none is a lone quote, a lone backslash or a control character. What is read as a word is
written so, and what is written so is read as this word. Only of a number it has to be said what
follows: it ends in front of a byte with which it cannot go on.
-/

namespace LinkPreview.Json

/-! ## How a word is written -/

/-- One decimal digit or more. -/
def IsDigits (w : List UInt8) : Prop :=
  w ≠ [] ∧ ∀ b ∈ w, isDigit b = true

/-- A whole number: a zero, or digits of which the first is no zero. -/
inductive IsWhole : List UInt8 → Prop where
  | zero : IsWhole [byte '0']
  | digits {w : List UInt8} (h : IsDigits w) (hz : w.head? ≠ some (byte '0')) : IsWhole w

/-- A fraction, or none. -/
inductive IsFraction : List UInt8 → Prop where
  | none : IsFraction []
  | digits {w : List UInt8} (h : IsDigits w) : IsFraction (byte '.' :: w)

/-- An exponent, with a sign or without, or none. -/
inductive IsExponent : List UInt8 → Prop where
  | none : IsExponent []
  | digits {mark : UInt8} {sign w : List UInt8} (hm : mark = byte 'e' ∨ mark = byte 'E')
      (hs : sign = [] ∨ sign = [byte '+'] ∨ sign = [byte '-']) (h : IsDigits w) :
      IsExponent (mark :: (sign ++ w))

/-- A number of any size, part by part. -/
inductive IsNumber : List UInt8 → Prop where
  | intro {sign whole fraction exponent : List UInt8} (hs : sign = [] ∨ sign = [byte '-'])
      (hw : IsWhole whole) (hf : IsFraction fraction) (he : IsExponent exponent) :
      IsNumber (sign ++ (whole ++ (fraction ++ exponent)))

namespace Token

/-- Whether a word is written as it may be. -/
def IsWord : Token → Prop
  | number written => IsNumber written
  | string written => IsStringBody written
  | _ => True

/-! ## Numbers -/

/-- Whether what comes first, if anything, is not such a byte. -/
def HeadNot (p : UInt8 → Bool) (s : List UInt8) : Prop :=
  ∀ b ∈ s.head?, p b = false

/-- Whether a number that stands in front of a byte may go on with it. -/
def goesOn (b : UInt8) : Bool :=
  isDigit b || b == byte '.' || b == byte 'e' || b == byte 'E'

theorem HeadNot.mono {p q : UInt8 → Bool} {s : List UInt8} (h : HeadNot p s)
    (hq : ∀ b, q b = true → p b = true) : HeadNot q s := by
  intro b hb
  by_contra hqb
  have hp := h b hb
  rw [hq b (Bool.eq_true_of_not_eq_false hqb)] at hp
  cases hp

theorem headNot_cons {p : UInt8 → Bool} {b : UInt8} {s : List UInt8} (hb : p b = false) :
    HeadNot p (b :: s) := by
  intro c hc
  cases hc
  exact hb

theorem beq_of_isDigit {b c : UInt8} (hb : isDigit b = true) (hc : isDigit c = false) :
    (b == c) = false := by
  rw [beq_eq_false_iff_ne]
  rintro rfl
  rw [hb] at hc
  cases hc

theorem isDigits_of_readDigits? {s w rest : List UInt8} (h : readDigits? s = some (w, rest)) :
    IsDigits w := by
  refine ⟨(readDigits?_eq_some h).1, ?_⟩
  unfold readDigits? at h
  split at h
  · cases h
  · cases h
    exact fun b hb => List.mem_takeWhile_imp hb

theorem readDigits?_append {w rest : List UInt8} (hw : IsDigits w) (hr : HeadNot isDigit rest) :
    readDigits? (w ++ rest) = some (w, rest) := by
  have hstop : rest.takeWhile isDigit = [] ∧ rest.dropWhile isDigit = rest := by
    cases rest with
    | nil => exact ⟨rfl, rfl⟩
    | cons b rest => simp [hr b rfl]
  have ht : (w ++ rest).takeWhile isDigit = w := by
    rw [List.takeWhile_append_of_pos hw.2, hstop.1, List.append_nil]
  have hd : (w ++ rest).dropWhile isDigit = rest := by
    rw [List.dropWhile_append_of_pos hw.2, hstop.2]
  rw [readDigits?, ht, hd]
  cases w with
  | nil => exact absurd rfl hw.1
  | cons b w => rfl

theorem isWhole_of_readWhole? {s w rest : List UInt8} (h : readWhole? s = some (w, rest)) :
    IsWhole w := by
  unfold readWhole? at h
  split at h
  · cases h
  · rename_i b s
    split at h
    · rename_i hb
      cases h
      rw [beq_iff_eq.mp hb]
      exact .zero
    · rename_i hb
      refine .digits (isDigits_of_readDigits? h) fun hhead => hb ?_
      -- the digits that were read begin as the text does
      have hs := (readDigits?_eq_some h).2
      cases w with
      | nil => cases hhead
      | cons c w =>
          cases hhead
          cases hs
          rfl

theorem readWhole?_append {w rest : List UInt8} (hw : IsWhole w) (hr : HeadNot isDigit rest) :
    readWhole? (w ++ rest) = some (w, rest) := by
  cases hw with
  | zero => rfl
  | digits h hz =>
      cases w with
      | nil => exact absurd rfl h.1
      | cons b w =>
          have hb : ¬ (b == byte '0') = true := fun hb => hz (congrArg some (beq_iff_eq.mp hb))
          rw [List.cons_append, readWhole?, if_neg hb, ← List.cons_append,
            readDigits?_append h hr]

theorem isFraction_of_readFraction? {s w rest : List UInt8}
    (h : readFraction? s = some (w, rest)) : IsFraction w := by
  unfold readFraction? at h
  split at h
  · cases h
    exact .none
  · split at h
    · rename_i hb
      obtain ⟨⟨digits, r⟩, hd, he⟩ := Option.map_eq_some_iff.mp h
      cases he
      rw [beq_iff_eq.mp hb]
      exact .digits (isDigits_of_readDigits? hd)
    · cases h
      exact .none

theorem readFraction?_append {w rest : List UInt8} (hw : IsFraction w)
    (hr : HeadNot (fun b => isDigit b || b == byte '.') rest) :
    readFraction? (w ++ rest) = some (w, rest) := by
  cases hw with
  | none =>
      cases rest with
      | nil => rfl
      | cons b rest =>
          have hb := (Bool.or_eq_false_iff.mp (hr b rfl)).2
          rw [List.nil_append, readFraction?, hb]
          rfl
  | digits h =>
      have hd := readDigits?_append h (hr.mono fun b hb => by simp [hb])
      simp only [List.cons_append, readFraction?, beq_self_eq_true, if_true, hd, Option.map_some]

theorem exists_sign_of_readSigned? {s w rest : List UInt8} (h : readSigned? s = some (w, rest)) :
    ∃ sign digits, w = sign ++ digits ∧ (sign = [] ∨ sign = [byte '+'] ∨ sign = [byte '-']) ∧
      IsDigits digits := by
  unfold readSigned? at h
  split at h
  · cases h
  · rename_i b s
    split at h
    · rename_i hb
      obtain ⟨⟨digits, r⟩, hd, he⟩ := Option.map_eq_some_iff.mp h
      cases he
      simp only [Bool.or_eq_true, beq_iff_eq] at hb
      refine ⟨[b], digits, rfl, ?_, isDigits_of_readDigits? hd⟩
      simpa using hb
    · exact ⟨[], w, rfl, .inl rfl, isDigits_of_readDigits? h⟩

theorem readSigned?_append {sign w rest : List UInt8}
    (hs : sign = [] ∨ sign = [byte '+'] ∨ sign = [byte '-']) (hw : IsDigits w)
    (hr : HeadNot isDigit rest) :
    readSigned? (sign ++ (w ++ rest)) = some (sign ++ w, rest) := by
  have hd := readDigits?_append hw hr
  rcases hs with rfl | rfl | rfl
  · cases w with
    | nil => exact absurd rfl hw.1
    | cons b w =>
        have hb := hw.2 b List.mem_cons_self
        have hplus := beq_of_isDigit hb (show isDigit (byte '+') = false by decide)
        have hminus := beq_of_isDigit hb (show isDigit (byte '-') = false by decide)
        rw [List.nil_append, List.cons_append, readSigned?, hplus, hminus]
        simpa using hd
  all_goals
    simp only [List.cons_append, List.nil_append, readSigned?, hd]
    rfl

theorem isExponent_of_readExponent? {s w rest : List UInt8}
    (h : readExponent? s = some (w, rest)) : IsExponent w := by
  unfold readExponent? at h
  split at h
  · cases h
    exact .none
  · split at h
    · rename_i hb
      obtain ⟨⟨v, r⟩, hd, he⟩ := Option.map_eq_some_iff.mp h
      cases he
      obtain ⟨sign, digits, rfl, hsign, hdigits⟩ := exists_sign_of_readSigned? hd
      exact .digits (by simpa using hb) hsign hdigits
    · cases h
      exact .none

theorem readExponent?_append {w rest : List UInt8} (hw : IsExponent w) (hr : HeadNot goesOn rest) :
    readExponent? (w ++ rest) = some (w, rest) := by
  cases hw with
  | none =>
      cases rest with
      | nil => rfl
      | cons b rest =>
          have hb := hr b rfl
          simp only [goesOn, Bool.or_eq_false_iff] at hb
          rw [List.nil_append, readExponent?, hb.1.2, hb.2]
          rfl
  | @digits mark sign w hm hs h =>
      have hd := readSigned?_append hs h (hr.mono fun b hb => by simp [goesOn, hb])
      have hmark : (mark == byte 'e' || mark == byte 'E') = true := by
        simpa using hm
      rw [List.cons_append, List.append_assoc, readExponent?, if_pos hmark, hd]
      rfl

theorem isNumber_of_readNumber? {s w rest : List UInt8} (h : readNumber? s = some (w, rest)) :
    IsNumber w := by
  have hunsigned {s w rest : List UInt8} (sign : List UInt8) (hs : sign = [] ∨ sign = [byte '-'])
      (h : readUnsigned? s = some (w, rest)) : IsNumber (sign ++ w) := by
    simp only [readUnsigned?, Option.bind_eq_bind, Option.bind_eq_some_iff, Option.pure_def,
      Option.some.injEq] at h
    obtain ⟨⟨whole, s₁⟩, hw, ⟨fraction, s₂⟩, hf, ⟨exponent, s₃⟩, he, h⟩ := h
    cases h
    rw [List.append_assoc]
    exact .intro hs (isWhole_of_readWhole? hw) (isFraction_of_readFraction? hf)
      (isExponent_of_readExponent? he)
  unfold readNumber? at h
  split at h
  · cases h
  · split at h
    · rename_i hb
      obtain ⟨⟨v, r⟩, hv, he⟩ := Option.map_eq_some_iff.mp h
      cases he
      rw [beq_iff_eq.mp hb]
      exact hunsigned [byte '-'] (.inr rfl) hv
    · exact hunsigned [] (.inl rfl) h

/-- What a part of a number begins with, if it has anything in it. -/
theorem headNot_fraction {fraction rest : List UInt8} (hf : IsFraction fraction)
    (hr : HeadNot isDigit rest) : HeadNot isDigit (fraction ++ rest) := by
  cases hf with
  | none => exact hr
  | digits => exact headNot_cons (by decide)

theorem headNot_exponent {exponent rest : List UInt8} (he : IsExponent exponent)
    (hr : HeadNot (fun b => isDigit b || b == byte '.') rest) :
    HeadNot (fun b => isDigit b || b == byte '.') (exponent ++ rest) := by
  cases he with
  | none => exact hr
  | digits hm =>
      apply headNot_cons
      rcases hm with rfl | rfl <;> decide

theorem readUnsigned?_append {whole fraction exponent rest : List UInt8} (hw : IsWhole whole)
    (hf : IsFraction fraction) (he : IsExponent exponent) (hr : HeadNot goesOn rest) :
    readUnsigned? (whole ++ (fraction ++ (exponent ++ rest))) =
      some (whole ++ (fraction ++ exponent), rest) := by
  have hbehind : HeadNot (fun b => isDigit b || b == byte '.') (exponent ++ rest) := by
    refine headNot_exponent he (hr.mono fun b hb => ?_)
    rw [goesOn, hb]
    rfl
  have hdigit : HeadNot isDigit (fraction ++ (exponent ++ rest)) :=
    headNot_fraction hf (hbehind.mono fun b hb => by simp [hb])
  simp [readUnsigned?, readWhole?_append hw hdigit, readFraction?_append hf hbehind,
    readExponent?_append he hr]

theorem IsWhole.exists_cons {w : List UInt8} (h : IsWhole w) :
    ∃ b v, w = b :: v ∧ isDigit b = true := by
  cases h with
  | zero => exact ⟨_, _, rfl, by decide⟩
  | digits h =>
      cases w with
      | nil => exact absurd rfl h.1
      | cons b v => exact ⟨b, v, rfl, h.2 b List.mem_cons_self⟩

/-- A number is read up to a byte with which it cannot go on. -/
theorem readNumber?_append {w rest : List UInt8} (hw : IsNumber w) (hr : HeadNot goesOn rest) :
    readNumber? (w ++ rest) = some (w, rest) := by
  cases hw with
  | intro hs hw hf he =>
      have hu := readUnsigned?_append hw hf he hr
      simp only [List.append_assoc]
      rcases hs with rfl | rfl
      · obtain ⟨b, v, rfl, hb⟩ := IsWhole.exists_cons hw
        have hminus := beq_of_isDigit hb (show isDigit (byte '-') = false by decide)
        simp only [List.nil_append, List.cons_append] at hu ⊢
        rw [readNumber?, hminus]
        exact hu
      · simp only [List.cons_append, List.nil_append, readNumber?, beq_self_eq_true, if_true, hu,
          Option.map_some]

/-! ## Strings -/

theorem isStringBody_of_readString? {s w rest : List UInt8} (h : readString? s = some (w, rest)) :
    IsStringBody w := by
  fun_induction readString? s generalizing w rest with
  | case1 => cases h
  | case2 =>
      cases h
      exact .nil
  | case3 b _ hb e s he ih =>
      obtain ⟨⟨v, r⟩, hv, h⟩ := Option.map_eq_some_iff.mp h
      cases h
      rw [beq_iff_eq.mp hb]
      exact .letter he (ih hv)
  | case4 b _ hb e _ he h₁ h₂ h₃ h₄ s hx ih =>
      obtain ⟨⟨v, r⟩, hv, h⟩ := Option.map_eq_some_iff.mp h
      cases h
      rw [beq_iff_eq.mp hb, beq_iff_eq.mp he]
      have hunit : IsStringBody (byte '\\' :: byte 'u' :: ([h₁, h₂, h₃, h₄] ++ v)) :=
        .unit rfl (List.all_eq_true.mp hx) (ih hv)
      exact hunit
  | case10 b s hq hs hc ih =>
      obtain ⟨⟨v, r⟩, hv, h⟩ := Option.map_eq_some_iff.mp h
      cases h
      refine .plain ?_ (ih hv)
      simp_all [isPlain]
  | _ => cases h

theorem readString?_plain {b : UInt8} (hb : isPlain b = true) (rest : List UInt8) :
    readString? (b :: rest) = (readString? rest).map fun (w, r) => (b :: w, r) := by
  simp only [isPlain, Bool.and_eq_true, bne_iff_ne, ne_eq, decide_eq_true_eq] at hb
  have hlt : ¬ b < 0x20 := by
    simpa using hb.2
  rw [readString?.eq_def]
  simp only [beq_iff_eq, hb.1.1, hb.1.2, hlt, if_false]

theorem readString?_letter {e : UInt8} (he : isEscapeLetter e = true) (rest : List UInt8) :
    readString? (byte '\\' :: e :: rest) =
      (readString? rest).map fun (w, r) => (byte '\\' :: e :: w, r) := by
  rw [readString?.eq_def]
  simp only
  rw [if_neg (by decide), if_pos (by decide), if_pos he]

theorem readString?_unit {digits : List UInt8} (hl : digits.length = 4)
    (hd : ∀ d ∈ digits, isHexDigit d = true) (rest : List UInt8) :
    readString? (byte '\\' :: byte 'u' :: (digits ++ rest)) =
      (readString? rest).map fun (w, r) => (byte '\\' :: byte 'u' :: (digits ++ w), r) := by
  match digits, hl with
  | [h₁, h₂, h₃, h₄], _ =>
      rw [readString?.eq_def]
      simp only [List.cons_append, List.nil_append]
      rw [if_neg (by decide), if_pos (by decide), if_neg (by decide), if_pos (by decide),
        if_pos (List.all_eq_true.mpr hd)]

/-- A string ends at its closing quote and not before. -/
theorem readString?_append {w : List UInt8} (hw : IsStringBody w) (rest : List UInt8) :
    readString? (w ++ byte '"' :: rest) = some (w, rest) := by
  induction hw with
  | nil =>
      rw [List.nil_append, readString?.eq_def]
      simp
  | plain hb _ ih =>
      rw [List.cons_append, readString?_plain hb, ih]
      rfl
  | letter he _ ih =>
      rw [List.cons_append, List.cons_append, readString?_letter he, ih]
      rfl
  | unit hl hd _ ih =>
      rw [List.cons_append, List.cons_append, List.append_assoc, readString?_unit hl hd, ih]
      rfl

/-! ## Words -/

/-- The first bytes of the words that are always written alike. -/
def isFixedHead (b : UInt8) : Bool :=
  (bytes "[]\x7b\x7d,:ntf").contains b

theorem readFixed?_eq_none {b : UInt8} (hb : isFixedHead b = false) (s : List UInt8) :
    readFixed? (b :: s) = none := by
  rw [readFixed?, List.findSome?_eq_none_iff]
  rintro ⟨w, t⟩ hw
  have hhead : ∃ c v, w = c :: v ∧ isFixedHead c = true := by
    simp only [fixed, List.mem_cons, Prod.mk.injEq, List.not_mem_nil, or_false] at hw
    rcases hw with h | h | h | h | h | h | h | h | h <;> obtain ⟨rfl, rfl⟩ := h <;>
      exact ⟨_, _, rfl, by decide⟩
  obtain ⟨c, v, rfl, hc⟩ := hhead
  have hne : (c == b) = false := by
    rw [beq_eq_false_iff_ne]
    rintro rfl
    rw [hc] at hb
    cases hb
  simp [dropStart?, List.isPrefixOf, hne]

theorem isWord_of_read? {s rest : List UInt8} {t : Token} (h : read? s = some (t, rest)) :
    t.IsWord := by
  unfold read? at h
  split at h
  · rename_i r hr
    cases h
    obtain ⟨⟨w, u⟩, hm, ht⟩ := List.exists_of_findSome?_eq_some hr
    obtain ⟨r, hd, he⟩ := Option.map_eq_some_iff.mp ht
    cases he
    simp only [fixed, List.mem_cons, Prod.mk.injEq, List.not_mem_nil, or_false] at hm
    rcases hm with h | h | h | h | h | h | h | h | h <;> obtain ⟨-, rfl⟩ := h <;> trivial
  · split at h
    · split at h
      · obtain ⟨⟨w, r⟩, hw, he⟩ := Option.map_eq_some_iff.mp h
        cases he
        exact isStringBody_of_readString? hw
      · obtain ⟨⟨w, r⟩, hw, he⟩ := Option.map_eq_some_iff.mp h
        cases he
        exact isNumber_of_readNumber? hw
    · cases h

theorem isFixedHead_of_isDigit {b : UInt8} (hb : isDigit b = true) :
    isFixedHead b = false ∧ isGap b = false ∧ (b == byte '"') = false := by
  have hdigit : ∀ c ∈ bytes "[]\x7b\x7d,:ntf \t\n\r\"", isDigit c = false := by
    decide +kernel
  have hne {c : UInt8} (hc : c ∈ bytes "[]\x7b\x7d,:ntf \t\n\r\"") : (b == c) = false :=
    beq_of_isDigit hb (hdigit c hc)
  refine ⟨?_, ?_, hne (by decide)⟩
  · rw [isFixedHead, ← Bool.not_eq_true, List.contains_iff_mem]
    intro hmem
    have hfixed : ∀ c ∈ bytes "[]\x7b\x7d,:ntf", isDigit c = false := by decide +kernel
    rw [hfixed b hmem] at hb
    cases hb
  · rw [isGap, hne (by decide), hne (by decide), hne (by decide), hne (by decide)]
    rfl

theorem exists_cons_of_isNumber {w : List UInt8} (h : IsNumber w) :
    ∃ b v, w = b :: v ∧ isFixedHead b = false ∧ isGap b = false ∧ (b == byte '"') = false := by
  cases h with
  | intro hs hw hf he =>
      rcases hs with rfl | rfl
      · obtain ⟨b, v, rfl, hb⟩ := IsWhole.exists_cons hw
        exact ⟨b, _, rfl, isFixedHead_of_isDigit hb⟩
      · exact ⟨_, _, rfl, by decide⟩

/-- A word is not empty and begins with no blank. -/
theorem IsWord.exists_cons {t : Token} (h : t.IsWord) :
    ∃ b w, t.write = b :: w ∧ isGap b = false := by
  match t, h with
  | number w, h =>
      obtain ⟨b, v, rfl, -, hb, -⟩ := exists_cons_of_isNumber h
      exact ⟨b, v, rfl, hb⟩
  | string w, _ => exact ⟨_, _, rfl, by decide⟩
  | openArray, _ | closeArray, _ | openObject, _ | closeObject, _ | comma, _ | colon, _ | null, _
  | bool true, _ | bool false, _ => exact ⟨_, _, rfl, by decide⟩

/-- A word is read up to where it ends; where a number ends is told by the byte behind it. -/
theorem IsWord.read?_append {t : Token} (h : t.IsWord) {rest : List UInt8}
    (hr : ∀ w, t = number w → HeadNot goesOn rest) : read? (t.write ++ rest) = some (t, rest) := by
  match t, h with
  | number w, h =>
      have hread := readNumber?_append h (hr w rfl)
      obtain ⟨b, v, rfl, hfixed, -, hquote⟩ := exists_cons_of_isNumber h
      rw [List.cons_append] at hread
      simp only [write, List.cons_append, read?, readFixed?_eq_none hfixed, hquote, hread]
      rfl
  | string w, h =>
      have hfixed : isFixedHead (byte '"') = false := by decide
      rw [write, List.cons_append, List.append_assoc, List.singleton_append]
      simp only [read?, readFixed?_eq_none hfixed, beq_self_eq_true, if_true,
        readString?_append h, Option.map_some]
  | openArray, _ | closeArray, _ | openObject, _ | closeObject, _ | comma, _ | colon, _ | null, _
  | bool true, _ | bool false, _ => rfl

end Token

end LinkPreview.Json
