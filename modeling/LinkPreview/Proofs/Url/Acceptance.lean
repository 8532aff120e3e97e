import LinkPreview.Proofs.Text.Utf8
import LinkPreview.Proofs.Url.WrittenHost

/-!
# Which addresses can be previewed

The check of an address never compares what stands in front of `://` with the scheme that was read:
it cuts off as many bytes as that scheme has. The reader finds the scheme in front of the first
colon, in the text without tabs and line ends, and all that it skips up to there is ASCII. So the
cut never falls into a character, and where a colon and two slashes follow it, what was cut off is
the name of the scheme itself.
-/

namespace LinkPreview.Url

/-- Whether a text begins with the name of a scheme, in any case of its letters, then a colon, two
slashes and a character that does not end the host. -/
def BeginsWithHost (scheme : String) (s : List Char) : Prop :=
  ∃ name c rest, String.ofList (Text.asciiLower name) = scheme ∧
    s = name ++ "://".toList ++ c :: rest ∧ c ∉ ['/', '\\', '?', '#']

/-- Whether a text is an address of the web whose host is not empty and stands behind the name of
its scheme, a colon and two slashes. -/
def IsWebAddress (text : String) : Prop :=
  ∃ u host, read? text = some u ∧ u.scheme ∈ ["http", "https"] ∧ u.host = some host ∧
    host.write ≠ "" ∧ BeginsWithHost u.scheme (started text)

/-- Whether a text goes on with `rest` behind its first `n` bytes. -/
def GoesOnBehind (n : Nat) (s rest : List Char) : Prop :=
  ∃ front, s = front ++ rest ∧ (Text.Utf8.encode front).length = n

variable {scheme text : String} {s t rest : List Char} {u : Url}

/-! ## Bytes -/

/-- Where a text begins with ASCII, it is cut behind as many characters as bytes. -/
theorem goesOnBehind_iff {n : Nat} (hn : n ≤ s.length) (h : ∀ c ∈ s.take n, c.toNat < 0x80) :
    GoesOnBehind n s rest ↔ rest = s.drop n := by
  have hlength : (Text.Utf8.encode (s.take n)).length = n := by
    rw [Text.Utf8.length_encode_of_ascii h, List.length_take, Nat.min_eq_left hn]
  constructor
  · rintro ⟨front, hs, hfront⟩
    have heq : front = s.take n :=
      Text.Utf8.eq_of_length_encode (hs ▸ List.prefix_append _ _) (List.take_prefix _ _)
        (hfront.trans hlength.symm)
    subst heq
    rw [← List.append_right_inj, List.take_append_drop]
    exact hs.symm
  · rintro rfl
    exact ⟨s.take n, (List.take_append_drop _ _).symm, hlength⟩

/-! ## What is read in front of the first colon -/

theorem toNat_lt_of_inScheme {c : Char} (h : inScheme c = true) : c.toNat < 0x80 := by
  simp only [inScheme, Bool.or_eq_true, List.contains_iff_mem, List.mem_cons, List.not_mem_nil,
    or_false] at h
  rcases h with h | rfl | rfl | rfl
  · exact Text.toNat_lt_of_isAlphanum h
  all_goals decide

theorem toNat_le_of_isBreak {c : Char} (h : isBreak c = true) : c.toNat ≤ 0x20 := by
  simp only [isBreak, List.contains_iff_mem, List.mem_cons, List.not_mem_nil, or_false] at h
  rcases h with rfl | rfl | rfl <;> decide

/-- The name of the scheme that is read stands in front, with nothing in it but tabs and line
ends. -/
theorem exists_filter_started {front behind : List Char}
    (h : significant text.toList = front ++ ':' :: behind) :
    ∃ raw more, started text = raw ++ more ∧ raw.filter (!isBreak ·) = front := by
  have hfilter : ((started text).rdropWhile (·.toNat ≤ 0x20)).filter (!isBreak ·) =
      front ++ ':' :: behind := h
  obtain ⟨raw, more, hraw, hfront, -⟩ := List.filter_eq_append_iff.mp hfilter
  obtain ⟨blanks, hblanks⟩ := List.rdropWhile_prefix (·.toNat ≤ 0x20) (started text)
  exact ⟨raw, more ++ blanks, by rw [← hblanks, hraw, List.append_assoc], hfront⟩

/-- A text that is read begins with as much ASCII as its scheme is long. -/
theorem ascii_of_read?_eq_some (h : read? text = some u) :
    u.scheme.length ≤ (started text).length ∧
      ∀ c ∈ (started text).take u.scheme.length, c.toNat < 0x80 := by
  obtain ⟨front, behind, hsignificant, hfront, hscheme, -⟩ := exists_of_read?_eq_some h
  obtain ⟨raw, more, hstarted, hfilter⟩ := exists_filter_started hsignificant
  have hle : u.scheme.length ≤ raw.length := by
    rw [length_scheme hscheme, ← hfilter]
    exact List.length_filter_le _ raw
  have hraw : ∀ c ∈ raw, c.toNat < 0x80 := by
    intro c hc
    cases hb : isBreak c with
    | true => exact Nat.lt_of_le_of_lt (toNat_le_of_isBreak hb) (by decide)
    | false =>
        have hmem : c ∈ front := hfilter ▸ List.mem_filter.mpr ⟨hc, by simp [hb]⟩
        exact toNat_lt_of_inScheme (hfront c hmem)
  rw [hstarted]
  refine ⟨by rw [List.length_append]; omega, fun c hc => hraw c ?_⟩
  rw [List.take_append_of_le_length hle] at hc
  exact List.mem_of_mem_take hc

/-- The scheme of a text that is read has as many bytes as characters. -/
theorem length_encode_scheme (h : read? text = some u) :
    (Text.Utf8.encode u.scheme.toList).length = u.scheme.length := by
  obtain ⟨front, -, -, hfront, hscheme, -⟩ := exists_of_read?_eq_some h
  rw [hscheme, String.toList_ofList, Text.Utf8.length_encode_of_ascii, ← String.length_toList,
    String.toList_ofList]
  intro c hc
  obtain ⟨d, hd, rfl⟩ := List.mem_map.mp hc
  exact Text.toNat_toLower_lt d (toNat_lt_of_inScheme (hfront d hd))

/-! ## The cut behind the scheme -/

/-- How the text of an address is cut behind the bytes of its scheme `u.scheme`. -/
structure IsCutBehindScheme (text : String) (u : Url) : Prop where
  /-- The cut falls behind a character. -/
  cut : ∀ rest, GoesOnBehind (Text.Utf8.encode u.scheme.toList).length (started text) rest ↔
    rest = (started text).drop u.scheme.length
  /-- Where a colon and two slashes follow, what was cut off is the name of the scheme. -/
  name : ∀ rest, GoesOnBehind (Text.Utf8.encode u.scheme.toList).length (started text)
      ("://".toList ++ rest) →
    ∃ name, String.ofList (Text.asciiLower name) = u.scheme ∧
      started text = name ++ "://".toList ++ rest
  /-- The check of the address looks at what follows the cut. -/
  check : hasWrittenHost u.scheme text.toList = true ↔
    ∃ c rest, GoesOnBehind (Text.Utf8.encode u.scheme.toList).length (started text)
      ("://".toList ++ c :: rest) ∧ c ∉ ['/', '\\', '?', '#']

theorem hasWrittenHost_iff_drop :
    hasWrittenHost scheme text.toList = true ↔
      ∃ c rest, (started text).drop scheme.length = "://".toList ++ c :: rest ∧
        c ∉ ['/', '\\', '?', '#'] := by
  constructor
  · intro h
    obtain ⟨front, c, rest, hstarted, hlength, hc⟩ := exists_of_hasWrittenHost h
    refine ⟨c, rest, ?_, hc⟩
    rw [hstarted, ← hlength, List.drop_left]
    rfl
  · rintro ⟨c, rest, hdrop, hc⟩
    have hread : Text.dropStart? "://".toList ((started text).drop scheme.length) =
        some (c :: rest) :=
      Text.dropStart?_eq_some_iff.mpr hdrop
    rw [started] at hread
    simp only [hasWrittenHost, hread]
    simpa using hc

theorem isCutBehindScheme (h : read? text = some u) : IsCutBehindScheme text u := by
  obtain ⟨hle, hascii⟩ := ascii_of_read?_eq_some h
  have hcut : ∀ rest, GoesOnBehind (Text.Utf8.encode u.scheme.toList).length (started text) rest ↔
      rest = (started text).drop u.scheme.length := by
    intro rest
    rw [length_encode_scheme h]
    exact goesOnBehind_iff hle hascii
  refine ⟨hcut, fun rest hrest => ?_, ?_⟩
  · have hdrop := (hcut _).mp hrest
    obtain ⟨front, behind, hsignificant, hfront, hscheme, -⟩ := exists_of_read?_eq_some h
    have hstarted : started text =
        (started text).take u.scheme.length ++ ':' :: '/' :: '/' :: rest := by
      rw [show ':' :: '/' :: '/' :: rest = "://".toList ++ rest from rfl, hdrop,
        List.take_append_drop]
    have hname : (started text).take u.scheme.length = front :=
      eq_of_started hstarted hsignificant hfront
        (by rw [List.length_take, Nat.min_eq_left hle, length_scheme hscheme])
    refine ⟨front, hscheme.symm, ?_⟩
    rw [append_slashes, ← hname]
    exact hstarted
  · rw [hasWrittenHost_iff_drop]
    simp only [hcut, eq_comm]

/-! ## Addresses that can be previewed -/

theorem isPreviewable_iff_of_read? (h : read? text = some u) :
    isPreviewable text = true ↔
      u.scheme ∈ ["http", "https"] ∧ hasWrittenHost u.scheme text.toList = true ∧
        ∃ host, u.host = some host ∧ host.write ≠ "" := by
  simp only [isPreviewable, h, Bool.and_eq_true, List.contains_iff_mem, and_assoc]
  cases u.host <;> simp

theorem isPreviewable_iff_isWebAddress : isPreviewable text = true ↔ IsWebAddress text := by
  constructor
  · intro hp
    obtain ⟨u, hu, -⟩ := exists_read?_of_isPreviewable hp
    obtain ⟨hweb, hwritten, host, hhost, hne⟩ := (isPreviewable_iff_of_read? hu).mp hp
    have hcut := isCutBehindScheme hu
    obtain ⟨c, rest, hbehind, hc⟩ := hcut.check.mp hwritten
    obtain ⟨name, hname, hstarted⟩ := hcut.name _ hbehind
    exact ⟨u, host, hu, hweb, hhost, hne, name, c, rest, hname, hstarted, hc⟩
  · rintro ⟨u, host, hu, hweb, hhost, hne, name, c, rest, hname, hstarted, hc⟩
    refine (isPreviewable_iff_of_read? hu).mpr ⟨hweb, ?_, host, hhost, hne⟩
    refine hasWrittenHost_iff_drop.mpr ⟨c, rest, ?_, hc⟩
    rw [length_scheme hname.symm, hstarted, List.append_assoc, List.drop_left]

theorem started_append {blanks : List Char} (h : ∀ c ∈ blanks, c.toNat ≤ 0x20) (text : String) :
    started (String.ofList (blanks ++ text.toList)) = started text := by
  rw [started, String.toList_ofList, List.dropWhile_append_of_pos (by simpa using h), started]

/-- What counts of a text does not depend on the blanks in front of it. -/
theorem isPreviewable_append {blanks : List Char} (h : ∀ c ∈ blanks, c.toNat ≤ 0x20)
    (text : String) :
    isPreviewable (String.ofList (blanks ++ text.toList)) = isPreviewable text := by
  have hstarted := started_append h text
  have hsignificant : significant (String.ofList (blanks ++ text.toList)).toList =
      significant text.toList :=
    congrArg (fun s => (s.rdropWhile (·.toNat ≤ 0x20)).filter (!isBreak ·)) hstarted
  have hread : read? (String.ofList (blanks ++ text.toList)) = read? text := by
    simp only [read?, readAgainst?, hsignificant]
  rw [Bool.eq_iff_iff, isPreviewable_iff_isWebAddress, isPreviewable_iff_isWebAddress]
  simp only [IsWebAddress, hread, hstarted]

/-- An address can be previewed exactly if it is read, its scheme is one of the web and its host is
not empty, and the text, without the controls and spaces in front of it, begins with the name of
this scheme in any case, then a colon, two slashes and a character that does not end the host. So
these controls and spaces, all characters up to U+0020, never matter. The check cuts off as many
bytes as the scheme has: the cut never falls into a character, and what is cut off in front of a
colon and two slashes is the name of the scheme. -/
theorem previewable_iff_host_is_written_behind_scheme (text : String) :
    (isPreviewable text = true ↔ IsWebAddress text) ∧
      (∀ blanks : List Char, (∀ c ∈ blanks, c.toNat ≤ 0x20) →
        isPreviewable (String.ofList (blanks ++ text.toList)) = isPreviewable text) ∧
      ∀ u, read? text = some u → IsCutBehindScheme text u :=
  ⟨isPreviewable_iff_isWebAddress, fun _ h => isPreviewable_append h text,
    fun _ h => isCutBehindScheme h⟩

/-- A scheme in capitals is found behind a space and a control. With a tab in a scheme, the cut
leaves the last letter of it, and the address is refused. -/
theorem previewable_iff_host_is_written_behind_scheme_of_capitals :
    IsWebAddress "HTTPS://[::1]?q" ∧
      isPreviewable (String.ofList ([' ', '\x01'] ++ "HTTPS://[::1]?q".toList)) = true ∧
      ¬IsWebAddress "ht\ttp://[::1]" ∧
      GoesOnBehind 4 (started "ht\ttp://[::1]") "p://[::1]".toList := by
  have hcapitals : isPreviewable "HTTPS://[::1]?q" = true := by decide +kernel
  have hbroken : isPreviewable "ht\ttp://[::1]" = false := by decide +kernel
  have hread : read? "ht\ttp://[::1]" = some
      { scheme := "http", host := some (.ipv6 [0, 0, 0, 0, 0, 0, 0, 1]),
        path := .segments [""] } := by
    decide +kernel
  obtain ⟨hweb, hblanks, -⟩ := previewable_iff_host_is_written_behind_scheme "HTTPS://[::1]?q"
  obtain ⟨hrefused, -, hcut⟩ := previewable_iff_host_is_written_behind_scheme "ht\ttp://[::1]"
  refine ⟨hweb.mp hcapitals, (hblanks _ (by simp)).trans hcapitals, ?_,
    ((hcut _ hread).cut _).mpr rfl⟩
  rw [← hrefused, hbroken]
  decide

end LinkPreview.Url
