import LinkPreview.Html.Document
import LinkPreview.Proofs.Text.Blank
import LinkPreview.Proofs.Text.Numeral

/-!
# How a text is written in markup

A text is written in markup with references for some of its characters, at least for each ampersand
and for the character that would end it: the quotation mark around the value of an attribute, the
less-than sign behind a text. What is written so is decoded to what it was.
-/

namespace LinkPreview.Html

open Text (digitBelow? isAsciiBlank)

variable {place : Place} {t w r x name digits : List Char} {c : Char} {base n : Nat}

/-! ## Written texts -/

/-- Whether a reference without its ampersand and semicolon stands for a text: it is a name, or a
number in decimal or hexadecimal digits. -/
inductive IsReference : List Char → List Char → Prop
  | named {name : List Char} {text : String} (hne : name ≠ [])
      (hname : ∀ c ∈ name, c.isAlphanum = true)
      (h : namedText? (String.ofList name) = some text) : IsReference name text.toList
  | decimal {digits : List Char} {n : Nat} (h : Text.readNumeral? 10 digits = some n) :
      IsReference ('#' :: digits) [Reference.numbered n]
  | hexadecimal {x : Char} {digits : List Char} {n : Nat} (hx : x = 'x' ∨ x = 'X')
      (h : Text.readNumeral? 16 digits = some n) :
      IsReference ('#' :: x :: digits) [Reference.numbered n]

/-- The character that ends a text at its place. -/
def Place.stop : Place → Char
  | .attributeValue => '"'
  | .text => '<'

/-- Whether a text is written as another one: any of its characters may stand as references, but the
ampersand, the character that would end it, NUL and the carriage return only so. -/
inductive IsWritten (place : Place) : List Char → List Char → Prop
  | nil : IsWritten place [] []
  | char {c : Char} {t w : List Char} (hc : c ∉ ['&', place.stop, '\x00', '\r'])
      (h : IsWritten place t w) : IsWritten place (c :: t) (c :: w)
  | reference {r x t w : List Char} (hr : IsReference r x) (h : IsWritten place t w) :
      IsWritten place (x ++ t) ('&' :: (r ++ ';' :: w))

/-- How a character is escaped that may not stand for itself. -/
def escapeChar (place : Place) (c : Char) : List Char :=
  if c = '&' then "&amp;".toList
  else if c = place.stop then
    match place with
    | .attributeValue => "&quot;".toList
    | .text => "&lt;".toList
  else [c]

/-- Every text without NUL and carriage returns is written by escaping as few of its characters as
possible. -/
theorem isWritten_escape (place : Place) (h : ∀ c ∈ t, c ≠ '\x00' ∧ c ≠ '\r') :
    IsWritten place t (t.flatMap (escapeChar place)) := by
  have hnamed (name text : String) (hne : name.toList ≠ [])
      (hname : ∀ c ∈ name.toList, c.isAlphanum = true)
      (htext : namedText? (String.ofList name.toList) = some text) :
      IsReference name.toList text.toList := .named hne hname htext
  induction t with
  | nil => exact .nil
  | cons c t ih =>
      obtain ⟨⟨hnul, hreturn⟩, ht⟩ := List.forall_mem_cons.mp h
      have hrest := ih ht
      rw [List.flatMap_cons, escapeChar.eq_def place c]
      split
      case isTrue hamp =>
        subst hamp
        exact .reference (hnamed "amp" "&" (by decide) (by simp) (by decide +kernel)) hrest
      case isFalse hamp =>
        split
        case isFalse hstop => exact .char (by simp [hamp, hstop, hnul, hreturn]) hrest
        case isTrue hstop =>
          subst hstop
          cases place with
          | attributeValue =>
              exact .reference (hnamed "quot" "\"" (by decide) (by simp) (by decide +kernel))
                hrest
          | text =>
              exact .reference (hnamed "lt" "<" (by decide) (by simp) (by decide +kernel)) hrest

/-! ## What does not stand in them -/

theorem isAlphanum_of_digitBelow? {d : Nat} (h : digitBelow? base c = some d) :
    c.isAlphanum = true := by
  obtain ⟨hv, -⟩ := Option.filter_eq_some_iff.mp h
  have hdigit : ∀ c : Char, c.toNat < 0x80 → (Text.digitValue? c).isSome = true →
      c.isAlphanum = true :=
    Text.forall_of_toNat_lt (by decide)
  refine hdigit c ?_ (by rw [hv, Option.isSome_some])
  -- the largest of the digits is the small letter `f`
  by_contra hlarge
  have hle (d : Char) (hd : d.toNat < 0x80) : ¬c ≤ d := fun hcd =>
    hlarge (Nat.lt_of_le_of_lt hcd hd)
  simp [Text.digitValue?, hle '9' (by decide), hle 'f' (by decide), hle 'F' (by decide)] at hv

theorem isSome_digitBelow?_of_readNumeral? (h : Text.readNumeral? base digits = some n) :
    ∀ c ∈ digits, (digitBelow? base c).isSome = true := by
  replace h := (Text.readNumeral?_eq_some_iff.mp h).2
  induction digits generalizing n with
  | nil => exact fun _ hc => by cases hc
  | cons c digits ih =>
      simp only [Text.readDigits?_cons, Option.bind_eq_bind, Option.bind_eq_some_iff] at h
      obtain ⟨d, hd, m, hm, -⟩ := h
      exact List.forall_mem_cons.mpr ⟨by rw [hd, Option.isSome_some], ih hm⟩

theorem isAlphanum_of_readNumeral? (h : Text.readNumeral? base digits = some n) :
    ∀ c ∈ digits, c.isAlphanum = true := by
  intro c hc
  obtain ⟨d, hd⟩ := Option.isSome_iff_exists.mp (isSome_digitBelow?_of_readNumeral? h c hc)
  exact isAlphanum_of_digitBelow? hd

theorem IsReference.isAlphanum (h : IsReference r x) :
    ∀ c ∈ r, c = '#' ∨ c.isAlphanum = true := by
  intro c hc
  cases h with
  | named _ hname _ => exact .inr (hname c hc)
  | decimal h => exact (List.mem_cons.mp hc).imp_right (isAlphanum_of_readNumeral? h c)
  | hexadecimal hx h =>
      refine (List.mem_cons.mp hc).imp_right fun hc => ?_
      rcases List.mem_cons.mp hc with rfl | hc
      · rcases hx with rfl | rfl <;> decide
      · exact isAlphanum_of_readNumeral? h c hc

/-- A written text ends where it ends, and needs no mending. -/
theorem IsWritten.ne_of_mem (h : IsWritten place t w) :
    ∀ c ∈ w, c ≠ place.stop ∧ c ≠ '\x00' := by
  have hplain {c : Char} (hc : c ∈ ['&', ';', '#'] ∨ c.isAlphanum = true) :
      c ≠ place.stop ∧ c ≠ '\x00' := by
    constructor <;> rintro rfl
    · revert hc
      cases place <;> decide
    · exact absurd hc (by decide)
  induction h with
  | nil => exact fun _ hc => by cases hc
  | char hc h ih =>
      refine List.forall_mem_cons.mpr ⟨?_, ih⟩
      simp only [List.mem_cons, not_or] at hc
      exact ⟨hc.2.1, hc.2.2.1⟩
  | reference hr h ih =>
      refine List.forall_mem_cons.mpr ⟨hplain (by decide), fun c hc => ?_⟩
      rcases List.mem_append.mp hc with hc | hc
      · refine hplain ((hr.isAlphanum c hc).imp_left ?_)
        rintro rfl
        decide
      · rcases List.mem_cons.mp hc with rfl | hc
        · exact hplain (by decide)
        · exact ih c hc

theorem IsWritten.replaceNul_eq (h : IsWritten place t w) : Token.replaceNul w = w := by
  refine (List.map_congr_left fun c hc => ?_).trans (List.map_id w)
  rw [if_neg (h.ne_of_mem c hc).2, id]

/-! ## Decoding -/

theorem readNumber?_of_closed (h : Text.readNumeral? base digits = some n) (w : List Char) :
    Reference.readNumber? base (digits ++ ';' :: w) =
      some ([Reference.numbered n], digits.length + 1) := by
  have hrun : (digits ++ ';' :: w).takeWhile (fun c => (digitBelow? base c).isSome) = digits := by
    refine Text.takeWhile_append_of_head (isSome_digitBelow?_of_readNumeral? h) fun c hc => ?_
    cases hc
    rfl
  simp [Reference.readNumber?, hrun, h, Reference.closing]

theorem readName?_of_closed {text : String} (place : Place)
    (hname : ∀ c ∈ name, c.isAlphanum = true) (h : namedText? (String.ofList name) = some text)
    (w : List Char) :
    Reference.readName? place (name ++ ';' :: w) = some (text.toList, name.length + 1) := by
  have hrun : (name ++ ';' :: w).takeWhile Char.isAlphanum = name := by
    refine Text.takeWhile_append_of_head hname fun c hc => ?_
    cases hc
    rfl
  simp [Reference.readName?, hrun, h, Reference.closing]

/-- A reference that a semicolon closes is read as what it stands for. -/
theorem read?_of_isReference (place : Place) (h : IsReference r x) (w : List Char) :
    Reference.read? place (r ++ ';' :: w) = some (x, r.length + 1) := by
  cases h with
  | @named _ text hne hname h =>
      cases r with
      | nil => exact absurd rfl hne
      | cons c name =>
          have hc : c ≠ '#' := by
            rintro rfl
            exact absurd (hname '#' List.mem_cons_self) (by decide)
          rw [List.cons_append, Reference.read?, ← List.cons_append]
          · exact readName?_of_closed place hname h w
          all_goals
            intro _ heq
            exact hc (List.cons.inj heq).1
  | @decimal digits n h =>
      cases digits with
      | nil => cases h
      | cons c digits =>
          have hc := isSome_digitBelow?_of_readNumeral? h c List.mem_cons_self
          rw [List.cons_append, List.cons_append, Reference.read?, ← List.cons_append,
            readNumber?_of_closed h w]
          · rfl
          -- the letter of a hexadecimal number is no decimal digit
          all_goals
            intro _ heq
            rw [(List.cons.inj heq).1] at hc
            exact absurd hc (by decide)
  | hexadecimal hx h =>
      rcases hx with rfl | rfl <;>
        simp [Reference.read?, readNumber?_of_closed h w]

/-- What is written is decoded to what it was. -/
theorem IsWritten.decode_eq (h : IsWritten place t w) : Reference.decode place w = t := by
  induction h with
  | nil => rw [Reference.decode]
  | @char c t w hc _ ih =>
      have hamp : c ≠ '&' := fun heq => hc (heq ▸ List.mem_cons_self)
      rw [Reference.decode, if_neg hamp, ih]
  | @reference r x t w hr _ ih =>
      have hread := read?_of_isReference place hr w
      have hrest : (r ++ ';' :: w).drop (r.length + 1) = w := by simp
      rw [Reference.decode, if_pos rfl, hread]
      simp only [hrest, ih]

end LinkPreview.Html
