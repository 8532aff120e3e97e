import LinkPreview.Proofs.Text.Blank
import LinkPreview.Url.Previewable

/-!
# Where the host of an address is written

Whether an address writes its host out is checked on the text as it was given, but the address is
read without the tabs and line ends in it. So the two views differ where tabs or line ends stand
behind the two slashes and a further slash behind these. Everywhere else the host of an address that
can be previewed is read from the very place behind the two slashes.
-/

namespace LinkPreview.Url

/-- Whether a character is a tab or a line end, which do not count in addresses. -/
def isBreak (c : Char) : Bool :=
  ['\t', '\n', '\r'].contains c

/-- A text without the controls and spaces in front of it. -/
def started (text : String) : List Char :=
  text.toList.dropWhile (·.toNat ≤ 0x20)

/-- A text without the controls and spaces in front of it, and without tabs and line ends. -/
def unbroken (text : String) : List Char :=
  (started text).filter (!isBreak ·)

/-- Whether a text is a scheme of the web, in any case of its letters. -/
def IsWebScheme (scheme : List Char) : Prop :=
  String.ofList (Text.asciiLower scheme) ∈ ["http", "https"]

instance (scheme : List Char) : Decidable (IsWebScheme scheme) :=
  inferInstanceAs (Decidable (_ ∈ _))

/-- Whether a text begins with a scheme of the web, a colon, two slashes and a host. -/
def WritesHost (text : String) : Prop :=
  ∃ scheme c rest, IsWebScheme scheme ∧ unbroken text = scheme ++ "://".toList ++ c :: rest ∧
    c ∉ ['/', '\\', '?', '#']

/-- Whether tabs or line ends stand between the two slashes of a text and a further one. -/
def HidesSlash (text : String) : Prop :=
  ∃ scheme gap c rest, IsWebScheme scheme ∧
    started text = scheme ++ "://".toList ++ (gap ++ c :: rest) ∧
    gap ≠ [] ∧ (∀ b ∈ gap, isBreak b = true) ∧ isSlash .special c = true

variable {scheme : String} {s : List Char} {text : String} {u : Url}

/-! ## Schemes that are read -/

theorem scheme_readPathStart (kind : SchemeKind) (u : Url) (s : List Char) :
    (readPathStart kind u s).scheme = u.scheme := by
  unfold readPathStart
  split
  · split <;> rfl
  · split
    · rfl
    · split <;> rfl

theorem scheme_readAuthority? (h : readAuthority? scheme s = some u) : u.scheme = scheme := by
  unfold readAuthority? at h
  extract_lets kind authority rest at h
  split at h
  rename_i userInfo hostPort _
  split at h
  rename_i hostText portText _
  extract_lets finish readHost at h
  have hfinish {host : Host} (h : finish host = some u) : u.scheme = scheme := by
    obtain ⟨port, -, h⟩ := Option.bind_eq_some_iff.mp h
    cases h
    exact scheme_readPathStart ..
  have hreadHost (h : readHost () = some u) : u.scheme = scheme := by
    simp only [readHost] at h
    split at h <;>
    · obtain ⟨host, -, h⟩ := Option.bind_eq_some_iff.mp h
      exact hfinish h
  split at h
  · cases h
  · exact hreadHost h

theorem scheme_readFileHost? (h : readFileHost? s = some u) : u.scheme = "file" := by
  unfold readFileHost? at h
  extract_lets text rest at h
  split at h
  · cases h
    rfl
  · split at h
    · cases h
      exact scheme_readPathStart ..
    · obtain ⟨host, -, h⟩ := Option.bind_eq_some_iff.mp h
      cases h
      exact scheme_readPathStart ..

theorem scheme_readFile? (h : readFile? none s = some u) : u.scheme = "file" := by
  unfold readFile? at h
  split at h
  · split at h
    · exact scheme_readFileHost? h
    · split at h <;> cases h <;> rfl
  · split at h <;> cases h <;> rfl
  · cases h
    rfl

theorem scheme_readBehindScheme? (h : readBehindScheme? none scheme s = some u) :
    u.scheme = scheme := by
  unfold readBehindScheme? at h
  split at h
  · rename_i hk
    have hfile : scheme = "file" := by
      unfold schemeKind at hk
      split at hk
      · assumption
      · split at hk <;> cases hk
    rw [scheme_readFile? h, hfile]
  · exact scheme_readAuthority? h
  · split at h
    · exact scheme_readAuthority? h
    · cases h
      rfl
    · cases h
      rfl

theorem endsAuthority_iff {c : Char} :
    endsAuthority .special c = true ↔ c ∈ ['/', '\\', '?', '#'] := by
  simp [endsAuthority, isSlash, or_assoc]

/-- Where a host has to be, there is one. -/
theorem exists_of_readAuthority?_eq_some (hk : schemeKind scheme = .special)
    (h : readAuthority? scheme s = some u) :
    ∃ c rest, s = c :: rest ∧ c ∉ ['/', '\\', '?', '#'] := by
  have hsome : s.takeWhile (!endsAuthority .special ·) ≠ [] := by
    intro hnone
    simp [readAuthority?, hk, hnone, splitAtLastAt, splitHost] at h
  cases s with
  | nil => exact absurd rfl hsome
  | cons c rest =>
      refine ⟨c, rest, rfl, fun hc => hsome ?_⟩
      exact List.takeWhile_cons_of_neg (by simp [endsAuthority_iff.mpr hc])

/-! ## Texts that are read -/

theorem colon_notMem_of_inScheme {front : List Char} (h : ∀ c ∈ front, inScheme c = true) :
    ':' ∉ front :=
  fun hc => absurd (h _ hc) (by decide)

/-- A scheme that is read ends at the first colon. -/
theorem exists_of_readScheme?_eq_some {rest : List Char}
    (h : readScheme? s = some (scheme, rest)) :
    ∃ front, s = front ++ ':' :: rest ∧ (∀ c ∈ front, inScheme c = true) ∧
      scheme = String.ofList (Text.asciiLower front) := by
  unfold readScheme? at h
  split at h
  · rename_i c s
    split at h
    · split at h
      · rename_i rest' hrest
        cases h
        refine ⟨(c :: s).takeWhile inScheme, ?_, fun c hc => List.mem_takeWhile_imp hc, rfl⟩
        rw [← hrest, List.takeWhile_append_dropWhile]
      · cases h
    · cases h
  · cases h

/-- How a text that is read is taken apart: its scheme, a colon and what follows. -/
theorem exists_of_read?_eq_some (h : read? text = some u) :
    ∃ front behind, significant text.toList = front ++ ':' :: behind ∧
      (∀ c ∈ front, inScheme c = true) ∧ u.scheme = String.ofList (Text.asciiLower front) ∧
      readBehindScheme? none u.scheme behind = some u := by
  have hread : readAgainst? none text = some u := h
  rw [readAgainst?] at hread
  split at hread
  · rename_i scheme behind hscheme
    obtain ⟨front, hsignificant, hfront, rfl⟩ := exists_of_readScheme?_eq_some hscheme
    have hkept := scheme_readBehindScheme? hread
    exact ⟨front, behind, hsignificant, hfront, hkept, hkept ▸ hread⟩
  · cases hread

/-- What stands in front of the first colon is determined. -/
theorem eq_of_append_colon {front front' rest rest' : List Char}
    (h : front ++ ':' :: rest = front' ++ ':' :: rest') (hf : ':' ∉ front) (hf' : ':' ∉ front') :
    front = front' ∧ rest = rest' := by
  have htake {a b : List Char} (ha : ':' ∉ a) : (a ++ ':' :: b).takeWhile (· != ':') = a := by
    have hne : ∀ c ∈ a, (c != ':') = true := fun c hc => bne_iff_ne.mpr fun he => ha (he ▸ hc)
    rw [List.takeWhile_append_of_pos hne]
    simp
  have hfront : front = front' := by rw [← htake (b := rest) hf, h, htake hf']
  subst hfront
  exact ⟨rfl, (List.cons.inj (List.append_cancel_left h)).2⟩

theorem eq_of_append_colon_of_length_le {front front' rest rest' : List Char}
    (h : front ++ ':' :: rest = front' ++ ':' :: rest') (hf' : ':' ∉ front')
    (hle : front.length ≤ front'.length) : front = front' := by
  refine (eq_of_append_colon h (fun hf => hf' ?_) hf').1
  have hprefix : front <+: front' :=
    List.prefix_of_prefix_length_le (h ▸ List.prefix_append _ _) (List.prefix_append _ _) hle
  exact hprefix.subset hf

theorem IsWebScheme.toLower_mem {front : List Char} (h : IsWebScheme front) :
    ∀ c ∈ front, c.toLower ∈ ['h', 't', 'p', 's'] := by
  have hlower : Text.asciiLower front = ['h', 't', 't', 'p'] ∨
      Text.asciiLower front = ['h', 't', 't', 'p', 's'] := by
    simpa [IsWebScheme, ← String.toList_inj] using h
  intro c hc
  have hmem : c.toLower ∈ Text.asciiLower front := List.mem_map_of_mem hc
  have hletters : (∀ d ∈ ['h', 't', 't', 'p'], d ∈ ['h', 't', 'p', 's']) ∧
      ∀ d ∈ ['h', 't', 't', 'p', 's'], d ∈ ['h', 't', 'p', 's'] := by simp
  rcases hlower with hl | hl <;> rw [hl] at hmem
  · exact hletters.1 _ hmem
  · exact hletters.2 _ hmem

theorem IsWebScheme.colon_notMem {front : List Char} (h : IsWebScheme front) : ':' ∉ front :=
  fun hc => absurd (h.toLower_mem _ hc) (by decide)

theorem IsWebScheme.isBreak_eq_false {front : List Char} (h : IsWebScheme front) {c : Char}
    (hc : c ∈ front) : isBreak c = false := by
  have hlower := h.toLower_mem c hc
  cases hb : isBreak c with
  | false => rfl
  | true =>
      simp only [isBreak, List.contains_iff_mem, List.mem_cons, List.not_mem_nil, or_false] at hb
      rcases hb with rfl | rfl | rfl <;> exact absurd hlower (by decide)

theorem IsWebScheme.filter_eq_self {front : List Char} (h : IsWebScheme front) :
    front.filter (!isBreak ·) = front :=
  List.filter_eq_self.mpr fun c hc => by simp [h.isBreak_eq_false hc]

theorem append_slashes (front rest : List Char) :
    front ++ "://".toList ++ rest = front ++ ':' :: '/' :: '/' :: rest :=
  List.append_assoc ..

theorem unbroken_eq {front behind : List Char} (hf : IsWebScheme front)
    (h : started text = front ++ ':' :: '/' :: '/' :: behind) :
    unbroken text = front ++ ':' :: '/' :: '/' :: behind.filter (!isBreak ·) := by
  rw [unbroken, h, List.filter_append, hf.filter_eq_self]
  rfl

theorem rdropWhile_append_cons {p : Char → Bool} {c : Char} (hc : p c = false)
    (front rest : List Char) :
    (front ++ c :: rest).rdropWhile p = front ++ c :: rest.rdropWhile p := by
  simp only [List.rdropWhile, List.reverse_append, List.reverse_cons, List.append_assoc]
  rw [List.dropWhile_append]
  split
  · rename_i hnil
    simp [List.isEmpty_iff.mp hnil, hc]
  · simp

/-- What counts of a text that has a colon and two slashes. -/
theorem significant_eq {front behind : List Char}
    (h : started text = front ++ ':' :: '/' :: '/' :: behind) :
    significant text.toList =
      front.filter (!isBreak ·) ++
        ':' :: '/' :: '/' :: (behind.rdropWhile (·.toNat ≤ 0x20)).filter (!isBreak ·) := by
  have htrim : (started text).rdropWhile (·.toNat ≤ 0x20) =
      front ++ ':' :: '/' :: '/' :: behind.rdropWhile (·.toNat ≤ 0x20) := by
    have hcolon := rdropWhile_append_cons (p := (·.toNat ≤ 0x20)) (c := '/') (by decide)
      (front ++ [':', '/']) behind
    rw [h]
    simpa using hcolon
  change ((started text).rdropWhile _).filter (!isBreak ·) = _
  rw [htrim, List.filter_append]
  rfl

/-! ## Texts that can be previewed -/

theorem schemeKind_of_isWebScheme {front : List Char} (h : IsWebScheme front) :
    schemeKind (String.ofList (Text.asciiLower front)) = .special := by
  unfold IsWebScheme at h
  generalize String.ofList (Text.asciiLower front) = scheme at h
  simp only [List.mem_cons, List.not_mem_nil, or_false] at h
  rcases h with rfl | rfl <;> decide

theorem readBehindScheme?_of_special (hk : schemeKind scheme = .special) (s : List Char) :
    readBehindScheme? none scheme s = readAuthority? scheme (s.dropWhile (isSlash .special)) := by
  simp [readBehindScheme?, hk]

/-- A text with a written host has the scheme's length in front of a colon and two slashes. -/
theorem exists_of_hasWrittenHost (h : hasWrittenHost scheme text.toList = true) :
    ∃ front c rest, started text = front ++ ':' :: '/' :: '/' :: c :: rest ∧
      front.length = scheme.length ∧ c ∉ ['/', '\\', '?', '#'] := by
  simp only [hasWrittenHost] at h
  split at h
  · rename_i c rest hdrop
    have hbehind := Text.dropStart?_eq_some_iff.mp hdrop
    have hcolon : (started text).drop scheme.length = ':' :: '/' :: '/' :: c :: rest := hbehind
    refine ⟨(started text).take scheme.length, c, rest, ?_, ?_, by simpa using h⟩
    · rw [← hcolon, List.take_append_drop]
    · rw [List.length_take, Nat.min_eq_left]
      refine Nat.le_of_lt (Nat.lt_of_not_ge fun hge => ?_)
      rw [List.drop_eq_nil_of_le hge] at hcolon
      cases hcolon
  · cases h

/-- What is as long as the scheme that is read, and has a colon and two slashes behind it, is the
name of this scheme: no tab and no line end stands in it. -/
theorem eq_of_started {front front' behind behind' : List Char}
    (h : started text = front ++ ':' :: '/' :: '/' :: behind)
    (h' : significant text.toList = front' ++ ':' :: behind')
    (hf' : ∀ c ∈ front', inScheme c = true) (hlength : front.length = front'.length) :
    front = front' := by
  have hle : (front.filter (!isBreak ·)).length ≤ front'.length :=
    Nat.le_trans (List.length_filter_le _ front) (Nat.le_of_eq hlength)
  have hfilter : front.filter (!isBreak ·) = front' :=
    eq_of_append_colon_of_length_le ((significant_eq h).symm.trans h')
      (colon_notMem_of_inScheme hf') hle
  refine (List.filter_sublist.eq_of_length ?_).symm.trans hfilter
  rw [hfilter, hlength]

theorem length_scheme {front : List Char} (h : u.scheme = String.ofList (Text.asciiLower front)) :
    u.scheme.length = front.length := by
  simp [h, Text.asciiLower]

/-- How a text that can be previewed is taken apart: as it was given, and as it is read. -/
theorem exists_of_isPreviewable (h : isPreviewable text = true) :
    ∃ front c rest behind, IsWebScheme front ∧
      started text = front ++ ':' :: '/' :: '/' :: c :: rest ∧ c ∉ ['/', '\\', '?', '#'] ∧
      behind = ((c :: rest).rdropWhile (·.toNat ≤ 0x20)).filter (!isBreak ·) ∧
      significant text.toList = front ++ ':' :: '/' :: '/' :: behind ∧
      read? text = readAuthority? (String.ofList (Text.asciiLower front))
        (behind.dropWhile (isSlash .special)) ∧
      ∃ u, read? text = some u := by
  unfold isPreviewable at h
  split at h
  · cases h
  rename_i u hu
  simp only [Bool.and_eq_true, List.contains_iff_mem] at h
  obtain ⟨⟨hweb, hwritten⟩, -⟩ := h
  obtain ⟨front, c, rest, hstarted, hlength, hc⟩ := exists_of_hasWrittenHost hwritten
  obtain ⟨front', behind, hsignificant, hfront', hscheme, hread⟩ := exists_of_read?_eq_some hu
  obtain rfl : front = front' :=
    eq_of_started hstarted hsignificant hfront' (hlength.trans (length_scheme hscheme))
  rw [hscheme] at hweb hread
  have hbroken := significant_eq hstarted
  rw [IsWebScheme.filter_eq_self hweb] at hbroken
  obtain rfl := (List.cons.inj (List.append_cancel_left (hbroken.symm.trans hsignificant))).2
  rw [readBehindScheme?_of_special (schemeKind_of_isWebScheme hweb)] at hread
  exact ⟨front, c, rest, _, hweb, hstarted, hc, rfl, hbroken, hu.trans hread.symm, u, hu⟩

theorem isBreak_of_isSlash {c : Char} (h : isSlash .special c = true) : isBreak c = false := by
  simp only [isSlash, Bool.or_eq_true, Bool.and_eq_true, beq_iff_eq] at h
  rcases h with rfl | ⟨-, rfl⟩ <;> rfl

/-- Tabs and line ends behind the slashes hide a further one exactly if the first character that
counts there is a slash. -/
theorem hidesSlash_iff {front rest behind : List Char} {c d : Char} (hf : IsWebScheme front)
    (h : started text = front ++ ':' :: '/' :: '/' :: c :: rest) (hc : isSlash .special c = false)
    (hd : (c :: rest).filter (!isBreak ·) = d :: behind) :
    HidesSlash text ↔ isSlash .special d = true := by
  constructor
  · rintro ⟨front', gap, d', rest', hf', h', -, hgap, hd'⟩
    have hrest : '/' :: '/' :: c :: rest = '/' :: '/' :: (gap ++ d' :: rest') :=
      (eq_of_append_colon (h.symm.trans (h'.trans (append_slashes ..)))
        hf.colon_notMem hf'.colon_notMem).2
    have hnone : gap.filter (!isBreak ·) = [] :=
      List.filter_eq_nil_iff.mpr fun b hb => by simp [hgap b hb]
    rw [(List.cons.inj (List.cons.inj hrest).2).2, List.filter_append, hnone, List.nil_append,
      List.filter_cons_of_pos (by simp [isBreak_of_isSlash hd'])] at hd
    exact (List.cons.inj hd).1 ▸ hd'
  · intro hslash
    obtain ⟨gap, rest', hrest, hgap, -, -⟩ := List.filter_eq_cons_iff.mp hd
    refine ⟨front, gap, d, rest', hf, ?_, ?_, by simpa using hgap, hslash⟩
    · rw [h, hrest, append_slashes]
    · rintro rfl
      cases hrest
      rw [hc] at hslash
      cases hslash

/-- A slash that is hidden is no host. -/
theorem not_writesHost_of_hidesSlash (h : HidesSlash text) : ¬WritesHost text := by
  rintro ⟨front', c', rest', hf', h', hc'⟩
  obtain ⟨front, gap, c, rest, hf, hstarted, -, hgap, hc⟩ := h
  have hnone : gap.filter (!isBreak ·) = [] :=
    List.filter_eq_nil_iff.mpr fun b hb => by simp [hgap b hb]
  have hunbroken : unbroken text = front ++ ':' :: '/' :: '/' :: c :: rest.filter (!isBreak ·) := by
    rw [unbroken_eq hf (hstarted.trans (append_slashes ..)), List.filter_append, hnone,
      List.nil_append, List.filter_cons_of_pos (by simp [isBreak_of_isSlash hc])]
  have hrest : '/' :: '/' :: c :: rest.filter (!isBreak ·) = '/' :: '/' :: c' :: rest' :=
    (eq_of_append_colon (hunbroken.symm.trans (h'.trans (append_slashes ..)))
      hf.colon_notMem hf'.colon_notMem).2
  obtain rfl := (List.cons.inj (List.cons.inj (List.cons.inj hrest).2).2).1
  simp only [isSlash, Bool.or_eq_true, Bool.and_eq_true, beq_iff_eq] at hc
  rcases hc with rfl | ⟨-, rfl⟩ <;> simp at hc'

/-- A text without tabs and line ends hides no slash. -/
theorem exists_isBreak_of_hidesSlash (h : HidesSlash text) :
    ∃ b ∈ text.toList, isBreak b = true := by
  obtain ⟨front, gap, c, rest, -, hstarted, hne, hgap, -⟩ := h
  obtain ⟨b, hb⟩ := List.exists_mem_of_ne_nil gap hne
  refine ⟨b, (List.dropWhile_sublist (·.toNat ≤ 0x20)).subset ?_, hgap b hb⟩
  change b ∈ started text
  rw [hstarted]
  simp [hb]

/-- Where the host of an address is found that can be previewed. -/
structure HostIsFound (text : String) : Prop where
  /-- It is written out, unless a slash is hidden behind tabs or line ends. -/
  written : ¬HidesSlash text → WritesHost text
  hidden : HidesSlash text → ¬WritesHost text
  /-- It is read from the place behind the two slashes and those that are hidden. -/
  read : ∃ scheme slashes authority, IsWebScheme scheme ∧
    significant text.toList = scheme ++ "://".toList ++ slashes ++ authority ∧
    (∀ c ∈ slashes, isSlash .special c = true) ∧ (slashes ≠ [] ↔ HidesSlash text) ∧
    (∃ c rest, authority = c :: rest ∧ c ∉ ['/', '\\', '?', '#']) ∧
    read? text = readAuthority? (String.ofList (Text.asciiLower scheme)) authority

/-- The host of an address that can be previewed is written out, in the text without what stands
in front of it and without tabs and line ends: behind a scheme of the web, a colon and two slashes.
Only where tabs or line ends stood behind these slashes, and then a further slash, it is not. -/
theorem host_is_written_unless_hidden (h : isPreviewable text = true) : HostIsFound text := by
  obtain ⟨front, c, rest, behind, hf, hstarted, hc, hbehind, hsignificant, hread, u, hu⟩ :=
    exists_of_isPreviewable h
  have hprefix : behind <+: (c :: rest).filter (!isBreak ·) :=
    hbehind ▸ (List.rdropWhile_prefix _ _).filter _
  obtain ⟨a, as, hauthority, ha⟩ :=
    exists_of_readAuthority?_eq_some (schemeKind_of_isWebScheme hf) (hread.symm.trans hu)
  have hslash : isSlash .special c = false := by
    have hends := Bool.eq_false_iff.mpr (endsAuthority_iff.not.mpr hc)
    simp only [endsAuthority, Bool.or_eq_false_iff] at hends
    exact hends.1.1
  cases hd : behind with
  | nil => simp [hd] at hauthority
  | cons d behind' =>
      obtain ⟨more, hmore⟩ := hprefix
      rw [hd, List.cons_append] at hmore
      have hhides := hidesSlash_iff hf hstarted hslash hmore.symm
      refine ⟨fun hn => ?_, not_writesHost_of_hidesSlash, front,
        behind.takeWhile (isSlash .special), behind.dropWhile (isSlash .special), hf, ?_,
        fun e he => List.mem_takeWhile_imp he, ?_, ⟨a, as, hauthority, ha⟩, hread⟩
      · have hdslash : isSlash .special d = false :=
          Bool.eq_false_iff.mpr fun hds => hn (hhides.mpr hds)
        rw [hd, List.dropWhile_cons_of_neg (by simp [hdslash])] at hauthority
        refine ⟨front, d, behind' ++ more, hf, ?_, (List.cons.inj hauthority).1 ▸ ha⟩
        rw [unbroken_eq hf hstarted, append_slashes, hmore]
      · rw [List.append_assoc, List.takeWhile_append_dropWhile, append_slashes, hsignificant]
      · rw [hhides, hd]
        cases hds : isSlash .special d <;> simp [hds]

/-- An address in capitals, with brackets and a query, writes its host out. -/
theorem host_is_written_unless_hidden_of_capitals :
    isPreviewable " HTTPS://[::1]?q" = true ∧ WritesHost " HTTPS://[::1]?q" := by
  have hpreviewable : isPreviewable " HTTPS://[::1]?q" = true := by decide +kernel
  have hbreaks : " HTTPS://[::1]?q".toList.all (!isBreak ·) = true := by decide
  refine ⟨hpreviewable, (host_is_written_unless_hidden hpreviewable).written fun hhides => ?_⟩
  obtain ⟨b, hb, hbreak⟩ := exists_isBreak_of_hidesSlash hhides
  have hnone := List.all_eq_true.mp hbreaks b hb
  simp [hbreak] at hnone

/-- With a tab behind its two slashes, an address is previewed whose host is filled in from behind a
third one. Without the tab, it is not. -/
theorem host_is_filled_in_behind_tab :
    isPreviewable "http://\t/[::1]" = true ∧ ¬WritesHost "http://\t/[::1]" ∧
      isPreviewable "http:///[::1]" = false := by
  refine ⟨by decide +kernel, not_writesHost_of_hidesSlash ?_, by decide +kernel⟩
  exact ⟨"http".toList, ['\t'], '/', "[::1]".toList, by decide, by decide, List.cons_ne_nil _ _,
    List.forall_mem_singleton.mpr rfl, rfl⟩

end LinkPreview.Url
