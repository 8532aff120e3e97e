import Mathlib.Data.List.DropRight
import Mathlib.Data.List.TakeWhile
import LinkPreview.Moment.Reading
import LinkPreview.Proofs.Text.Blank
import LinkPreview.Proofs.Text.Numeral

/-!
# What a text shows of a moment

A text that is read as a moment shows a clock with a calendar: a date, a time of day and how far
the clock is ahead. `Shows` tells which texts show which clock, part by part, and `readClock?`
finds the clock in the text. So no text shows two clocks, and `read?` is nothing but finding the
moment at which the clock shows what it shows.

## Implementation notes

A part may stand behind blanks, and where it ends is not said: numbers are as long as they can be.
Hence what is shown is found only because no digit can follow a number (`NoDigit`).
-/

namespace LinkPreview.Moment

open Text

/-- What a clock with a calendar shows, and by how many minutes it is ahead. -/
structure Clock where
  year : Int
  month : Nat
  day : Nat
  hour : Nat
  minute : Nat
  second : Nat
  nanosecond : Nat
  ahead : Int
  deriving DecidableEq

/-! ## Parts of a text -/

/-- Blanks, a part that says something, and the rest of a text. -/
inductive Begins {α : Type} (part : List Char → α → Prop) : List Char → α → List Char → Prop where
  | intro {gap t rest : List Char} {v : α} (hg : ∀ c ∈ gap, isBlank c = true) (ht : part t v) :
      Begins part (gap ++ (t ++ rest)) v rest

/-- A mark, which says nothing. -/
def Mark (mark : Char) (t : List Char) (_ : Unit) : Prop :=
  t = [mark]

/-- A number of at most so many digits. -/
def NumberText (limit : Nat) (t : List Char) (n : Nat) : Prop :=
  t.length ≤ limit ∧ readNumeral? 10 t = some n

/-- A year: four digits at most, or any number of them behind a sign. -/
inductive YearText : List Char → Int → Prop where
  | plain {t : List Char} {n : Nat} (h : NumberText 4 t n) : YearText t n
  | positive {t : List Char} {n : Nat} (h : readNumeral? 10 t = some n) : YearText ('+' :: t) n
  | negative {t : List Char} {n : Nat} (h : readNumeral? 10 t = some n) : YearText ('-' :: t) (-n)

/-- A fraction of a second, if there is one, in whole nanoseconds. -/
inductive FractionText : List Char → Nat → Prop where
  | none : FractionText [] 0
  | digits {t : List Char} {n : Nat} (h : readNumeral? 10 t = some n) :
      FractionText ('.' :: t) (n * 10 ^ 9 / 10 ^ t.length)

/-- Hours and minutes of two digits each, less than a day, in minutes. -/
inductive DistanceText : List Char → Nat → Prop where
  | intro {a b c d : Char} {gap : List Char} {hours minutes : Nat}
      (hh : readNumeral? 10 [a, b] = some hours) (hg : ∀ x ∈ gap, (x == ':' || isBlank x) = true)
      (hm : readNumeral? 10 [c, d] = some minutes) (hb : minutes < 60 ∧ hours < 24) :
      DistanceText (a :: b :: (gap ++ [c, d])) (hours * 60 + minutes)

/-- A zone: universal time by its name or letter, or how far it is ahead or behind. -/
inductive ZoneText : List Char → Int → Prop where
  | utc {t : List Char} (h : asciiLower t = "utc".toList) : ZoneText t 0
  | zulu {c : Char} (h : c = 'Z' ∨ c = 'z') : ZoneText [c] 0
  | ahead {t : List Char} {n : Nat} (h : DistanceText t n) : ZoneText ('+' :: t) n
  | behind {sign : Char} {t : List Char} {n : Nat} (hs : sign = '-' ∨ sign = '\u2212')
      (h : DistanceText t n) : ZoneText (sign :: t) (-n)

/-- A text that shows a clock: year, month and day with dashes between, a letter or a blank, hour,
minute and second with colons between, a fraction, and the zone. -/
inductive Shows : List Char → Clock → Prop where
  | intro {s s₁ s₂ s₃ s₄ s₅ s₆ s₇ s₈ s₉ s₁₀ s₁₁ fraction : List Char} {separator : Char}
      {clock : Clock} (hyear : Begins YearText s clock.year s₁)
      (hdash : Begins (Mark '-') s₁ () s₂) (hmonth : Begins (NumberText 2) s₂ clock.month s₃)
      (hdash' : Begins (Mark '-') s₃ () s₄)
      (hday : Begins (NumberText 2) s₄ clock.day (separator :: s₅))
      (hseparator : separator ∈ ['T', 't', ' '])
      (hhour : Begins (NumberText 2) s₅ clock.hour s₆) (hcolon : Begins (Mark ':') s₆ () s₇)
      (hminute : Begins (NumberText 2) s₇ clock.minute s₈) (hcolon' : Begins (Mark ':') s₈ () s₉)
      (hsecond : Begins (NumberText 2) s₉ clock.second (fraction ++ s₁₀))
      (hfraction : FractionText fraction clock.nanosecond)
      (hzone : Begins ZoneText s₁₀ clock.ahead s₁₁) (hend : ∀ c ∈ s₁₁, isBlank c = true) :
      Shows s clock

/-- Finds the clock that a text shows. -/
def readClock? (s : List Char) : Option Clock := do
  let (year, s) ← readYear? s
  let (month, s) ← readNumber? 2 (← readMark? '-' s)
  let (day, s) ← readNumber? 2 (← readMark? '-' s)
  let (hour, s) ← readNumber? 2 (← readSeparator? s)
  let (minute, s) ← readNumber? 2 (← readMark? ':' s)
  let (second, s) ← readNumber? 2 (← readMark? ':' s)
  let (nanosecond, s) ← readFraction? s
  let (ahead, s) ← readZone? (skipBlanks s)
  if skipBlanks s = [] then
    return ⟨year, month, day, hour, minute, second, nanosecond, ahead⟩
  else none

/-- The moment at which a clock shows what it shows. -/
def Clock.moment? (c : Clock) : Option Moment := do
  let date ← Date.of? c.year c.month c.day
  if c.hour < 24 ∧ c.minute < 60 then
    ofLocal? date (c.hour * 60 + c.minute) c.second c.nanosecond c.ahead
  else none

/-- Readings that go on alike from what was read first. -/
theorem bind_eq_bind_bind {α β γ : Type} {o : Option α} {f : α → Option γ} {g : α → Option β}
    {h : β → Option γ} (hf : ∀ a, f a = (g a).bind h) : (o >>= f) = (o >>= g).bind h := by
  cases o with
  | none => rfl
  | some a => exact hf a

/-- To read a moment is to find a clock and the moment at which it shows what it shows. -/
theorem read?_eq (s : List Char) : read? s = (readClock? s).bind Clock.moment? := by
  apply bind_eq_bind_bind
  rintro ⟨year, s⟩
  apply bind_eq_bind_bind
  intro s
  apply bind_eq_bind_bind
  rintro ⟨month, s⟩
  apply bind_eq_bind_bind
  intro s
  apply bind_eq_bind_bind
  rintro ⟨day, s⟩
  apply bind_eq_bind_bind
  intro s
  apply bind_eq_bind_bind
  rintro ⟨hour, s⟩
  apply bind_eq_bind_bind
  intro s
  apply bind_eq_bind_bind
  rintro ⟨minute, s⟩
  apply bind_eq_bind_bind
  intro s
  apply bind_eq_bind_bind
  rintro ⟨second, s⟩
  apply bind_eq_bind_bind
  rintro ⟨nanosecond, s⟩
  apply bind_eq_bind_bind
  rintro ⟨ahead, s⟩
  by_cases hs : skipBlanks s = []
  · simp [hs, Clock.moment?]
  · simp [hs]

/-! ## Blanks and digits -/

/-- Whether a text does not go on with a digit. -/
def NoDigit (s : List Char) : Prop :=
  ∀ c ∈ s.head?, c.isDigit = false

theorem isBlank_of_isDigit {c : Char} (hc : c.isDigit = true) : isBlank c = false := by
  have h : 48 ≤ c.toNat ∧ c.toNat ≤ 57 := Char.isDigit_iff_toNat.mp hc
  simp [isBlank]
  omega

theorem isDigit_of_isBlank {c : Char} (hc : isBlank c = true) : c.isDigit = false := by
  cases hd : c.isDigit with
  | false => rfl
  | true =>
      rw [isBlank_of_isDigit hd] at hc
      cases hc

/-- Blanks are skipped as far as they go. -/
theorem skipBlanks_append {gap s : List Char} (hg : ∀ c ∈ gap, isBlank c = true)
    (hs : ∀ c ∈ s.head?, isBlank c = false) : skipBlanks (gap ++ s) = s := by
  rw [skipBlanks, List.dropWhile_append_of_pos hg]
  cases s with
  | nil => rfl
  | cons c s => exact List.dropWhile_cons_of_neg (by simp [hs c rfl])

theorem exists_append_skipBlanks (s : List Char) :
    ∃ gap, (∀ c ∈ gap, isBlank c = true) ∧ s = gap ++ skipBlanks s :=
  ⟨s.takeWhile isBlank, fun _ hc => List.mem_takeWhile_imp hc,
    List.takeWhile_append_dropWhile.symm⟩

theorem takeWhile_isDigit_append {t rest : List Char} (hd : ∀ c ∈ t, c.isDigit = true)
    (hr : NoDigit rest) : (t ++ rest).takeWhile Char.isDigit = t := by
  rw [List.takeWhile_append_of_pos hd]
  cases rest with
  | nil => simp
  | cons c rest => simp [hr c rfl]

theorem readDigits?_eq_some {limit : Nat} {s t rest : List Char}
    (h : readDigits? limit s = some (t, rest)) :
    t ≠ [] ∧ t.length ≤ limit ∧ (∀ c ∈ t, c.isDigit = true) ∧ s = t ++ rest := by
  unfold readDigits? at h
  split at h
  · cases h
  · rename_i digits hne
    cases h
    have hprefix : ((s.takeWhile Char.isDigit).take limit) <+: s :=
      (List.take_prefix _ _).trans (List.takeWhile_prefix _)
    refine ⟨hne, List.length_take_le _ _, ?_, ?_⟩
    · intro c hc
      exact List.mem_takeWhile_imp (List.mem_of_mem_take hc)
    · exact List.prefix_iff_eq_append.mp hprefix |>.symm

/-- All digits are taken off the front if no more follow and the limit allows it. -/
theorem readDigits?_of_noDigit {limit : Nat} {t rest : List Char} (hne : t ≠ [])
    (hl : t.length ≤ limit) (hd : ∀ c ∈ t, c.isDigit = true) (hr : NoDigit rest) :
    readDigits? limit (t ++ rest) = some (t, rest) := by
  have ht : ((t ++ rest).takeWhile Char.isDigit).take limit = t := by
    rw [takeWhile_isDigit_append hd hr, List.take_of_length_le hl]
  rw [readDigits?, ht]
  cases t with
  | nil => exact absurd rfl hne
  | cons c t => simp

/-! ## Each part is found -/

theorem Begins.of_part {α : Type} {part : List Char → α → Prop} {t : List Char} {v : α}
    (ht : part t v) (rest : List Char) : Begins part (t ++ rest) v rest :=
  @Begins.intro α part [] t rest v (by simp) ht

theorem Begins.append {α : Type} {part : List Char → α → Prop} {s rest : List Char} {v : α}
    {t : List Char} (ht : part t v) (hs : skipBlanks s = t ++ rest) : Begins part s v rest := by
  obtain ⟨gap, hg, he⟩ := exists_append_skipBlanks s
  rw [he, hs]
  exact .intro hg ht

theorem NumberText.exists_cons {limit n : Nat} {t : List Char} (h : NumberText limit t n) :
    ∃ c r, t = c :: r ∧ c.isDigit = true := by
  obtain ⟨c, r, rfl⟩ := List.exists_cons_of_ne_nil (readNumeral?_eq_some_iff.mp h.2).1
  exact ⟨c, r, rfl, isDigit_of_readNumeral? h.2 c List.mem_cons_self⟩

theorem begins_number_of_readNumber? {limit n : Nat} {s rest : List Char}
    (h : readNumber? limit s = some (n, rest)) : Begins (NumberText limit) s n rest := by
  simp only [readNumber?, Option.bind_eq_bind, Option.bind_eq_some_iff] at h
  obtain ⟨⟨t, r⟩, ht, n', hn, he⟩ := h
  cases he
  obtain ⟨-, hl, -, hs⟩ := readDigits?_eq_some ht
  exact .append ⟨hl, hn⟩ hs

theorem readNumber?_of_begins {limit n : Nat} {s rest : List Char}
    (h : Begins (NumberText limit) s n rest) (hr : NoDigit rest) :
    readNumber? limit s = some (n, rest) := by
  obtain ⟨hg, ht⟩ := h
  rename_i gap t
  obtain ⟨c, r, rfl, hc⟩ := ht.exists_cons
  obtain ⟨hne, -⟩ := readNumeral?_eq_some_iff.mp ht.2
  have hs : skipBlanks (gap ++ (c :: r ++ rest)) = c :: r ++ rest :=
    skipBlanks_append hg (by simp [isBlank_of_isDigit hc])
  rw [readNumber?, hs, readDigits?_of_noDigit hne ht.1 (isDigit_of_readNumeral? ht.2) hr]
  simp [ht.2]

theorem begins_mark_of_readMark? {mark : Char} {s rest : List Char}
    (h : readMark? mark s = some rest) : Begins (Mark mark) s () rest := by
  rw [readMark?] at h
  cases hs : skipBlanks s with
  | nil =>
      rw [hs] at h
      cases h
  | cons c r =>
      simp only [hs, dropStart?, Option.ite_none_right_eq_some, beq_iff_eq, Option.some.injEq] at h
      obtain ⟨rfl, rfl⟩ := h
      exact .append (t := [mark]) rfl hs

theorem readMark?_of_begins {mark : Char} (hb : isBlank mark = false) {s rest : List Char}
    (h : Begins (Mark mark) s () rest) : readMark? mark s = some rest := by
  obtain ⟨hg, rfl⟩ := h
  rename_i gap
  have hs : skipBlanks (gap ++ ([mark] ++ rest)) = [mark] ++ rest :=
    skipBlanks_append hg (by simp [hb])
  rw [readMark?, hs]
  simp [dropStart?]

/-- What holds of blanks and of what a part begins with holds of what is in front of the part. -/
theorem Begins.forall_head {α : Type} {part : List Char → α → Prop} {s rest : List Char} {v : α}
    {P : Char → Prop} (h : Begins part s v rest) (hb : ∀ c, isBlank c = true → P c)
    (hp : ∀ t, part t v → ∃ c r, t = c :: r ∧ P c) : ∀ c ∈ s.head?, P c := by
  obtain ⟨hg, ht⟩ := h
  rename_i gap t
  obtain ⟨d, r, rfl, hd⟩ := hp t ht
  cases gap with
  | nil => simpa using hd
  | cons b gap => simpa using hb b (hg b List.mem_cons_self)

theorem Begins.noDigit_of_mark {mark : Char} (hm : mark.isDigit = false) {s rest : List Char}
    (h : Begins (Mark mark) s () rest) : NoDigit s :=
  h.forall_head (fun _ hb => isDigit_of_isBlank hb) fun _ ht => ⟨mark, [], ht, hm⟩

theorem skipBlanks_skipBlanks (s : List Char) : skipBlanks (skipBlanks s) = skipBlanks s :=
  List.dropWhile_idempotent _ _

theorem begins_year_of_readYear? {s rest : List Char} {year : Int}
    (h : readYear? s = some (year, rest)) : Begins YearText s year rest := by
  unfold readYear? at h
  split at h
  · rename_i s' hs
    simp only [Option.bind_eq_bind, Option.bind_eq_some_iff] at h
    obtain ⟨⟨t, r⟩, ht, n, hn, he⟩ := h
    cases he
    obtain ⟨-, -, -, rfl⟩ := readDigits?_eq_some ht
    exact .append (.negative hn) hs
  · rename_i s' hs
    simp only [Option.bind_eq_bind, Option.bind_eq_some_iff] at h
    obtain ⟨⟨t, r⟩, ht, n, hn, he⟩ := h
    cases he
    obtain ⟨-, -, -, rfl⟩ := readDigits?_eq_some ht
    exact .append (.positive hn) hs
  · simp only [Option.bind_eq_bind, Option.bind_eq_some_iff] at h
    obtain ⟨⟨n, r⟩, hn, he⟩ := h
    cases he
    have hread : readNumber? 4 s = some (n, r) := by
      rw [readNumber?] at hn ⊢
      rwa [skipBlanks_skipBlanks] at hn
    obtain ⟨hg, ht⟩ := begins_number_of_readNumber? hread
    exact .intro hg (.plain ht)

theorem readYear?_of_begins {s rest : List Char} {year : Int} (h : Begins YearText s year rest)
    (hr : NoDigit rest) : readYear? s = some (year, rest) := by
  obtain ⟨hg, ht⟩ := h
  rename_i gap t
  cases ht with
  | plain ht =>
      obtain ⟨c, r, rfl, hc⟩ := ht.exists_cons
      have hs : skipBlanks (gap ++ (c :: r ++ rest)) = c :: (r ++ rest) :=
        skipBlanks_append hg (by simp [isBlank_of_isDigit hc])
      have hn := readNumber?_of_begins (.of_part ht rest) hr
      rw [readYear?, hs]
      split
      · rename_i he
        cases he
        exact absurd hc (by decide)
      · rename_i he
        cases he
        exact absurd hc (by decide)
      · rw [List.cons_append] at hn
        simp [hn]
  | positive ht =>
      rename_i t n
      have hs : skipBlanks (gap ++ ('+' :: t ++ rest)) = '+' :: (t ++ rest) :=
        skipBlanks_append hg (by simp; decide)
      have hread : readDigits? (t ++ rest).length (t ++ rest) = some (t, rest) :=
        readDigits?_of_noDigit (readNumeral?_eq_some_iff.mp ht).1 (by simp)
          (isDigit_of_readNumeral? ht) hr
      simp only [readYear?, hs, hread, ht, Option.bind_eq_bind, Option.bind_some, Option.pure_def]
  | negative ht =>
      rename_i t n
      have hs : skipBlanks (gap ++ ('-' :: t ++ rest)) = '-' :: (t ++ rest) :=
        skipBlanks_append hg (by simp; decide)
      have hread : readDigits? (t ++ rest).length (t ++ rest) = some (t, rest) :=
        readDigits?_of_noDigit (readNumeral?_eq_some_iff.mp ht).1 (by simp)
          (isDigit_of_readNumeral? ht) hr
      simp only [readYear?, hs, hread, ht, Option.bind_eq_bind, Option.bind_some, Option.pure_def]

theorem readSeparator?_eq_some_iff {s rest : List Char} :
    readSeparator? s = some rest ↔ ∃ c ∈ ['T', 't', ' '], s = c :: rest := by
  constructor
  · intro h
    unfold readSeparator? at h
    split at h
    · cases h
      exact ⟨_, by decide, rfl⟩
    · cases h
      exact ⟨_, by decide, rfl⟩
    · cases h
      exact ⟨_, by decide, rfl⟩
    · cases h
  · rintro ⟨c, hc, rfl⟩
    simp only [List.mem_cons, List.not_mem_nil, or_false] at hc
    rcases hc with rfl | rfl | rfl <;> rfl

/-- Nine places of a fraction are as many whole nanoseconds as it has. -/
theorem readNumeral?_nine {t : List Char} {n : Nat} (h : readNumeral? 10 t = some n) :
    readNumeral? 10 (t.take 9 ++ List.replicate (9 - (t.take 9).length) '0') =
      some (n * 10 ^ 9 / 10 ^ t.length) := by
  obtain ⟨hne, hn⟩ := readNumeral?_eq_some_iff.mp h
  rw [← List.take_append_drop 9 t, Text.readDigits?_append] at hn
  simp only [Option.bind_eq_bind, Option.bind_eq_some_iff, Option.pure_def,
    Option.some.injEq] at hn
  obtain ⟨a, ha, b, hb, rfl⟩ := hn
  have hlt := readDigits?_lt hb
  refine readNumeral?_eq_some_iff.mpr ⟨by simp [hne], ?_⟩
  rw [Text.readDigits?_append, ha, readDigits?_zeros (by decide) (by decide)]
  simp only [Option.bind_eq_bind, Option.bind_some, Option.pure_def, Option.some.injEq,
    List.length_replicate, List.length_take, List.length_drop, Nat.add_zero] at hlt ⊢
  rcases Nat.le_total t.length 9 with hl | hl
  -- all digits count, and zeros fill up the places
  · have hzero : b = 0 := by
      rw [Nat.sub_eq_zero_of_le hl, Nat.pow_zero] at hlt
      omega
    have hpow : 10 ^ 9 = 10 ^ (9 - t.length) * 10 ^ t.length := by
      rw [← Nat.pow_add, Nat.sub_add_cancel hl]
    rw [hzero, Nat.sub_eq_zero_of_le hl, Nat.min_eq_right hl, Nat.pow_zero, Nat.mul_one,
      Nat.add_zero, hpow, ← Nat.mul_assoc, Nat.mul_div_cancel _ (Nat.pow_pos (by decide))]
  -- what stands behind nine places is less than one nanosecond
  · have hpow : 10 ^ t.length = 10 ^ (t.length - 9) * 10 ^ 9 := by
      rw [← Nat.pow_add, Nat.sub_add_cancel hl]
    rw [Nat.min_eq_left hl, Nat.sub_self, Nat.pow_zero, Nat.mul_one, hpow,
      Nat.mul_div_mul_right _ _ (by decide), Nat.mul_comm a,
      Nat.mul_add_div (Nat.pow_pos (by decide)), Nat.div_eq_of_lt hlt, Nat.add_zero]

theorem exists_fraction_of_readFraction? {s rest : List Char} {n : Nat}
    (h : readFraction? s = some (n, rest)) : ∃ t, FractionText t n ∧ s = t ++ rest := by
  unfold readFraction? at h
  split at h
  · simp only [Option.bind_eq_bind, Option.bind_eq_some_iff] at h
    obtain ⟨⟨t, r⟩, ht, k, hk, he⟩ := h
    cases he
    obtain ⟨hne, -, hd, rfl⟩ := readDigits?_eq_some ht
    obtain ⟨v, hv⟩ := exists_readDigits?_iff.mpr hd
    have hnum := readNumeral?_eq_some_iff.mpr ⟨hne, hv⟩
    have hnine := readNumeral?_nine hnum
    dsimp only at hk
    rw [hnine] at hk
    cases hk
    exact ⟨'.' :: t, .digits hnum, rfl⟩
  · cases h
    exact ⟨[], .none, rfl⟩

theorem readFraction?_append {t rest : List Char} {n : Nat} (h : FractionText t n)
    (hr : NoDigit rest) (hp : ∀ c ∈ rest.head?, c ≠ '.') :
    readFraction? (t ++ rest) = some (n, rest) := by
  cases h with
  | none =>
      rw [List.nil_append]
      unfold readFraction?
      split
      · exact absurd rfl (hp '.' rfl)
      · rfl
  | digits ht =>
      rename_i t v
      obtain ⟨hne, -⟩ := readNumeral?_eq_some_iff.mp ht
      have hread : readDigits? (t ++ rest).length (t ++ rest) = some (t, rest) :=
        readDigits?_of_noDigit hne (by simp) (isDigit_of_readNumeral? ht) hr
      simp only [List.cons_append, readFraction?, hread, readNumeral?_nine ht,
        Option.bind_eq_bind, Option.bind_some, Option.pure_def]

/-! ## The zone -/

theorem dropStartIgnoringCase?_eq_some_iff {start s rest : List Char} :
    dropStartIgnoringCase? start s = some rest ↔
      ∃ t, asciiLower t = asciiLower start ∧ s = t ++ rest := by
  fun_induction dropStartIgnoringCase? start s with
  | case1 s => simp [asciiLower, eq_comm]
  | case2 a start => simp [asciiLower, List.append_eq_nil_iff]
  | case3 a start c s hc ih =>
      rw [ih]
      constructor
      · rintro ⟨t, ht, rfl⟩
        exact ⟨c :: t, by simp_all [asciiLower], rfl⟩
      · rintro ⟨t, ht, hs⟩
        cases t with
        | nil => simp [asciiLower] at ht
        | cons d t =>
            cases hs
            exact ⟨t, by simp_all [asciiLower], rfl⟩
  | case4 a start c s hc =>
      simp only [reduceCtorEq, false_iff, not_exists, not_and]
      intro t ht hs
      cases t with
      | nil => simp [asciiLower] at ht
      | cons d t =>
          cases hs
          simp_all [asciiLower]

theorem readPair?_eq_some_iff {s rest : List Char} {n : Nat} :
    readAhead?.readPair? s = some (n, rest) ↔
      ∃ a b, s = a :: b :: rest ∧ readNumeral? 10 [a, b] = some n := by
  constructor
  · intro h
    unfold readAhead?.readPair? at h
    split at h
    · rename_i a b s
      simp only [Option.bind_eq_bind, Option.bind_eq_some_iff] at h
      obtain ⟨m, hm, he⟩ := h
      cases he
      exact ⟨a, b, rfl, hm⟩
    · cases h
  · rintro ⟨a, b, rfl, hn⟩
    simp [readAhead?.readPair?, hn]

/-- Reads hours and minutes behind a sign, in minutes. -/
def readDistance? (s : List Char) : Option (Nat × List Char) := do
  let (hours, s) ← readAhead?.readPair? s
  let (minutes, s) ← readAhead?.readPair? (s.dropWhile fun c => c == ':' || isBlank c)
  if minutes < 60 ∧ hours < 24 then return (hours * 60 + minutes, s) else none

theorem readAhead?_plus (s : List Char) :
    readAhead? ('+' :: s) = (readDistance? s).map fun (n, s) => ((n : Int), s) := by
  simp [readAhead?, readDistance?, Option.map_bind, apply_ite]

theorem readAhead?_minus {sign : Char} (hs : sign = '-' ∨ sign = '\u2212') (s : List Char) :
    readAhead? (sign :: s) = (readDistance? s).map fun (n, s) => (-(n : Int), s) := by
  rcases hs with rfl | rfl
  · simp [readAhead?, readDistance?, Option.map_bind, apply_ite]
  · simp [readAhead?, readDistance?, Option.map_bind, apply_ite]

theorem readDistance?_eq_some_iff {s rest : List Char} {n : Nat} :
    readDistance? s = some (n, rest) ↔ ∃ t, DistanceText t n ∧ s = t ++ rest := by
  constructor
  · intro h
    simp only [readDistance?, Option.bind_eq_bind, Option.bind_eq_some_iff] at h
    obtain ⟨⟨hours, s₁⟩, hhours, ⟨minutes, s₂⟩, hminutes, he⟩ := h
    obtain ⟨a, b, rfl, hh⟩ := readPair?_eq_some_iff.mp hhours
    obtain ⟨c, d, hs₁, hm⟩ := readPair?_eq_some_iff.mp hminutes
    rw [Option.ite_none_right_eq_some] at he
    obtain ⟨hb, he⟩ := he
    cases he
    have hsplit : s₁ = (s₁.takeWhile fun c => c == ':' || isBlank c) ++
        s₁.dropWhile fun c => c == ':' || isBlank c := List.takeWhile_append_dropWhile.symm
    have hg : ∀ x ∈ s₁.takeWhile fun c => c == ':' || isBlank c, (x == ':' || isBlank x) = true :=
      fun x hx => List.mem_takeWhile_imp (p := fun c => c == ':' || isBlank c) hx
    dsimp only at hs₁
    rw [hs₁] at hsplit
    refine ⟨_, .intro hh hg hm hb, ?_⟩
    simp only [List.cons_append, List.append_assoc, List.nil_append, ← hsplit]
  · rintro ⟨_, ⟨hh, hg, hm, hb⟩, rfl⟩
    rename_i a b c d gap hours minutes
    have hc := isDigit_of_readNumeral? hm c List.mem_cons_self
    have hcolon : c ≠ ':' := by
      rintro rfl
      cases hc
    have hdrop : ((gap ++ [c, d]) ++ rest).dropWhile (fun x => x == ':' || isBlank x) =
        c :: d :: rest := by
      rw [List.append_assoc, List.dropWhile_append_of_pos hg]
      simp [hcolon, isBlank_of_isDigit hc]
    have hhours : readAhead?.readPair? (a :: b :: (gap ++ [c, d] ++ rest)) =
        some (hours, gap ++ [c, d] ++ rest) := readPair?_eq_some_iff.mpr ⟨a, b, rfl, hh⟩
    have hminutes : readAhead?.readPair? (c :: d :: rest) = some (minutes, rest) :=
      readPair?_eq_some_iff.mpr ⟨c, d, rfl, hm⟩
    simp only [readDistance?, List.cons_append, hhours, hdrop, hminutes, Option.bind_eq_bind,
      Option.bind_some, if_pos hb, Option.pure_def]

theorem exists_sign_of_readAhead? {s : List Char} {found : Int × List Char}
    (h : readAhead? s = some found) :
    ∃ sign r, s = sign :: r ∧ (sign = '+' ∨ sign = '-' ∨ sign = '\u2212') := by
  unfold readAhead? at h
  split at h
  · exact ⟨'+', _, rfl, .inl rfl⟩
  · exact ⟨'-', _, rfl, .inr (.inl rfl)⟩
  · exact ⟨'\u2212', _, rfl, .inr (.inr rfl)⟩
  · cases h

theorem exists_zone_of_readAhead? {s rest : List Char} {ahead : Int}
    (h : readAhead? s = some (ahead, rest)) : ∃ t, ZoneText t ahead ∧ s = t ++ rest := by
  obtain ⟨sign, s, rfl, rfl | hs⟩ := exists_sign_of_readAhead? h
  · rw [readAhead?_plus, Option.map_eq_some_iff] at h
    obtain ⟨⟨n, r⟩, hn, he⟩ := h
    cases he
    obtain ⟨t, ht, rfl⟩ := readDistance?_eq_some_iff.mp hn
    exact ⟨'+' :: t, .ahead ht, rfl⟩
  · rw [readAhead?_minus hs, Option.map_eq_some_iff] at h
    obtain ⟨⟨n, r⟩, hn, he⟩ := h
    cases he
    obtain ⟨t, ht, rfl⟩ := readDistance?_eq_some_iff.mp hn
    exact ⟨sign :: t, .behind hs ht, rfl⟩

theorem exists_zone_of_readZone? {s rest : List Char} {ahead : Int}
    (h : readZone? s = some (ahead, rest)) : ∃ t, ZoneText t ahead ∧ s = t ++ rest := by
  unfold readZone? at h
  split at h
  · rename_i r hutc
    cases h
    obtain ⟨t, ht, hs⟩ := dropStartIgnoringCase?_eq_some_iff.mp hutc
    exact ⟨t, .utc ht, hs⟩
  · split at h
    · cases h
      exact ⟨['Z'], .zulu (.inl rfl), rfl⟩
    · cases h
      exact ⟨['z'], .zulu (.inr rfl), rfl⟩
    · exact exists_zone_of_readAhead? h

theorem eq_or_eq_of_toLower_eq {c : Char} (h : c.toLower = 'u') : c = 'u' ∨ c = 'U' := by
  have hcapital : ∀ c : Char, c.toNat < 91 → c.toLower = 'u' → c = 'U' :=
    forall_of_toNat_lt (by decide)
  by_cases hc : c.toNat < 91
  · exact .inr (hcapital c hc h)
  · left
    rwa [toLower_of_lt (Nat.lt_of_not_le fun hle => hc (Nat.lt_succ_of_le hle))] at h

/-- What no text of a zone begins with. -/
theorem ZoneText.exists_cons {t : List Char} {ahead : Int} (h : ZoneText t ahead) :
    ∃ c r, t = c :: r ∧ isBlank c = false ∧ c.isDigit = false ∧ c ≠ '.' := by
  cases h with
  | utc h =>
      cases t with
      | nil => cases h
      | cons c r =>
          have hc : c.toLower = 'u' := (List.cons.inj h).1
          refine ⟨c, r, rfl, ?_⟩
          rcases eq_or_eq_of_toLower_eq hc with rfl | rfl <;> decide
  | zulu hc =>
      rename_i c
      refine ⟨c, [], rfl, ?_⟩
      rcases hc with rfl | rfl <;> decide
  | ahead h =>
      rename_i r _
      exact ⟨'+', r, rfl, by decide⟩
  | behind hs h =>
      rename_i sign r _
      refine ⟨sign, r, rfl, ?_⟩
      rcases hs with rfl | rfl <;> decide

theorem dropStartIgnoringCase?_utc_cons {c : Char} (hc : c.toLower ≠ 'u') (s : List Char) :
    dropStartIgnoringCase? "utc".toList (c :: s) = none := by
  simp [dropStartIgnoringCase?, hc.symm]

theorem readZone?_sign {sign : Char} (hs : sign ∈ ['+', '-', '\u2212']) (s : List Char) :
    readZone? (sign :: s) = readAhead? (sign :: s) := by
  simp only [List.mem_cons, List.not_mem_nil, or_false] at hs
  have hu : sign.toLower ≠ 'u' := by rcases hs with rfl | rfl | rfl <;> decide
  simp only [readZone?, dropStartIgnoringCase?_utc_cons hu]
  split
  · rename_i h
    cases h
    simp at hs
  · rename_i h
    cases h
    simp at hs
  · rfl

theorem readZone?_append {t rest : List Char} {ahead : Int} (h : ZoneText t ahead) :
    readZone? (t ++ rest) = some (ahead, rest) := by
  have hdistance {t : List Char} {n : Nat} (h : DistanceText t n) :
      readDistance? (t ++ rest) = some (n, rest) := readDistance?_eq_some_iff.mpr ⟨t, h, rfl⟩
  cases h with
  | utc h =>
      have hdrop : dropStartIgnoringCase? "utc".toList (t ++ rest) = some rest :=
        dropStartIgnoringCase?_eq_some_iff.mpr ⟨t, h.trans rfl, rfl⟩
      simp only [readZone?, hdrop]
  | zulu hc =>
      rcases hc with rfl | rfl
      · rw [List.singleton_append, readZone?, dropStartIgnoringCase?_utc_cons (by decide)]
      · rw [List.singleton_append, readZone?, dropStartIgnoringCase?_utc_cons (by decide)]
  | ahead h =>
      rw [List.cons_append, readZone?_sign (by simp), readAhead?_plus, hdistance h]
      rfl
  | behind hs h =>
      have hsign : _ ∈ ['+', '-', '\u2212'] := List.mem_cons_of_mem _ (by simpa using hs)
      rw [List.cons_append, readZone?_sign hsign, readAhead?_minus hs, hdistance h]
      rfl

/-! ## The whole text -/

theorem shows_of_readClock? {s : List Char} {clock : Clock} (h : readClock? s = some clock) :
    Shows s clock := by
  simp only [readClock?, Option.bind_eq_bind, Option.bind_eq_some_iff] at h
  obtain ⟨⟨year, s₁⟩, hyear, s₂, hdash, ⟨month, s₃⟩, hmonth, s₄, hdash', ⟨day, s₅⟩, hday, s₆,
    hseparator, ⟨hour, s₇⟩, hhour, s₈, hcolon, ⟨minute, s₉⟩, hminute, s₁₀, hcolon',
    ⟨second, s₁₁⟩, hsecond, ⟨nanosecond, s₁₂⟩, hfraction, ⟨ahead, s₁₃⟩, hzone, he⟩ := h
  rw [Option.ite_none_right_eq_some] at he
  obtain ⟨hend, he⟩ := he
  cases he
  obtain ⟨separator, hmem, rfl⟩ := readSeparator?_eq_some_iff.mp hseparator
  obtain ⟨fraction, hf, rfl⟩ := exists_fraction_of_readFraction? hfraction
  obtain ⟨zone, hz, hs⟩ := exists_zone_of_readZone? hzone
  exact .intro (begins_year_of_readYear? hyear) (begins_mark_of_readMark? hdash)
    (begins_number_of_readNumber? hmonth) (begins_mark_of_readMark? hdash')
    (begins_number_of_readNumber? hday) hmem (begins_number_of_readNumber? hhour)
    (begins_mark_of_readMark? hcolon) (begins_number_of_readNumber? hminute)
    (begins_mark_of_readMark? hcolon') (begins_number_of_readNumber? hsecond) hf (.append hz hs)
    (List.dropWhile_eq_nil_iff.mp hend)

theorem readClock?_of_shows {s : List Char} {clock : Clock} (h : Shows s clock) :
    readClock? s = some clock := by
  obtain ⟨hyear, hdash, hmonth, hdash', hday, hseparator, hhour, hcolon, hminute, hcolon',
    hsecond, hfraction, hzone, hend⟩ := h
  rename_i s₁ s₂ s₃ s₄ s₅ s₆ s₇ s₈ s₉ s₁₀ s₁₁ fraction separator
  -- no digit follows a number, so that each number is read to its end
  have hseparator' : NoDigit (separator :: s₅) := by
    simp only [List.mem_cons, List.not_mem_nil, or_false] at hseparator
    rcases hseparator with rfl | rfl | rfl <;> simp [NoDigit]
  have hhead : ∀ c ∈ s₁₀.head?, c.isDigit = false ∧ c ≠ '.' := by
    refine hzone.forall_head (fun c hc => ⟨isDigit_of_isBlank hc, ?_⟩) fun t ht => ?_
    · rintro rfl
      cases hc
    · obtain ⟨c, r, rfl, -, hc⟩ := ht.exists_cons
      exact ⟨c, r, rfl, hc⟩
  have hfollow : NoDigit (fraction ++ s₁₀) := by
    generalize clock.nanosecond = n at hfraction
    cases hfraction with
    | none => exact fun c hc => (hhead c hc).1
    | digits _ => simp [NoDigit]
  obtain ⟨hg, hz⟩ := hzone
  rename_i gap zone
  have hskip : skipBlanks (gap ++ (zone ++ s₁₁)) = zone ++ s₁₁ := by
    obtain ⟨c, r, rfl, hc, -⟩ := hz.exists_cons
    exact skipBlanks_append hg (by simp [hc])
  have hread :=
    readFraction?_append hfraction (fun c hc => (hhead c hc).1) fun c hc => (hhead c hc).2
  have hskip' : skipBlanks s₁₁ = [] := List.dropWhile_eq_nil_iff.mpr hend
  simp only [readClock?, readYear?_of_begins hyear (hdash.noDigit_of_mark (by decide)),
    readMark?_of_begins (by decide) hdash,
    readNumber?_of_begins hmonth (hdash'.noDigit_of_mark (by decide)),
    readMark?_of_begins (by decide) hdash', readNumber?_of_begins hday hseparator',
    readSeparator?_eq_some_iff.mpr ⟨separator, hseparator, rfl⟩,
    readNumber?_of_begins hhour (hcolon.noDigit_of_mark (by decide)),
    readMark?_of_begins (by decide) hcolon,
    readNumber?_of_begins hminute (hcolon'.noDigit_of_mark (by decide)),
    readMark?_of_begins (by decide) hcolon', readNumber?_of_begins hsecond hfollow, hread, hskip,
    readZone?_append hz, hskip', Option.bind_eq_bind, Option.bind_some, if_true, Option.pure_def]

/-- The clock found in a text is the one that the text shows. -/
theorem readClock?_eq_some_iff {s : List Char} {clock : Clock} :
    readClock? s = some clock ↔ Shows s clock :=
  ⟨shows_of_readClock?, readClock?_of_shows⟩

/-- A text shows one clock at most. -/
theorem Shows.unique {s : List Char} {clock clock' : Clock} (h : Shows s clock)
    (h' : Shows s clock') : clock = clock' :=
  Option.some.inj ((readClock?_of_shows h).symm.trans (readClock?_of_shows h'))

/-- A text is read as the moment at which a clock shows what the text shows. -/
theorem read?_eq_some_iff {s : List Char} {m : Moment} :
    read? s = some m ↔ ∃ clock, Shows s clock ∧ clock.moment? = some m := by
  rw [read?_eq, Option.bind_eq_some_iff]
  simp only [readClock?_eq_some_iff]

end LinkPreview.Moment
