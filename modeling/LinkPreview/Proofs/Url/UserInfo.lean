import LinkPreview.Proofs.Url.BeforePath

/-!
# Addresses without user name and password

A user name and a password stand between the slashes and the last at sign in front of the host.
`cutUserInfo` cuts them out of a text with this at sign. What is left can be previewed if the text
could, and is read as the same address without them.
-/

namespace LinkPreview.Url

/-- Whether a character does not count in front of a host. -/
def isGap (c : Char) : Bool :=
  isSlash .special c || isBreak c

/-- A text that begins with a user name and a password, without them: what stands up to the last at
sign in front of the end of the host is left out. -/
def cutAuthority (s : List Char) : List Char :=
  (s.takeWhile (!endsAuthority .special ·)).rtakeWhile (· != '@') ++
    s.dropWhile (!endsAuthority .special ·)

/-- An address without the user name and the password behind its scheme and its slashes. -/
def cutUserInfo (text : String) : String :=
  let scheme := text.toList.takeWhile (· != ':')
  let behind := (text.toList.dropWhile (· != ':')).drop 1
  String.ofList (scheme ++ ':' :: (behind.takeWhile isGap ++ cutAuthority (behind.dropWhile isGap)))

variable {text scheme : String} {front behind userInfo host rest s : List Char} {u : Url}

/-! ## Addresses behind a scheme of the web -/

theorem IsWebScheme.isAlpha (h : IsWebScheme front) {c : Char} (hc : c ∈ front) :
    c.isAlpha = true := by
  have hletters : ∀ d ∈ ['h', 't', 'p', 's'], d.isAlpha = true := by simp
  exact Text.isAlpha_of_toLower (hletters _ (h.toLower_mem c hc))

theorem IsWebScheme.readScheme?_append (h : IsWebScheme front) (rest : List Char) :
    readScheme? (front ++ ':' :: rest) =
      some (String.ofList (Text.asciiLower front), rest) := by
  have hin : ∀ c ∈ front, inScheme c = true := fun c hc => by
    simp [inScheme, Char.isAlphanum, h.isAlpha hc]
  cases front with
  | nil => exact absurd h (by decide)
  | cons c front =>
      have hdrop : (c :: (front ++ ':' :: rest)).dropWhile inScheme = ':' :: rest := by
        rw [← List.cons_append, List.dropWhile_append_of_pos hin]
        rfl
      have htake : (c :: (front ++ ':' :: rest)).takeWhile inScheme = c :: front := by
        rw [← List.cons_append, List.takeWhile_append_of_pos hin,
          List.takeWhile_cons_of_neg (by decide), List.append_nil]
      rw [List.cons_append, readScheme?, if_pos (h.isAlpha List.mem_cons_self), hdrop, htake]
      rfl

/-- What counts of the text behind a scheme and its slashes. -/
def kept (s : List Char) : List Char :=
  (s.rdropWhile (·.toNat ≤ 0x20)).filter (!isBreak ·)

theorem read?_of_started (hf : IsWebScheme front)
    (h : started text = front ++ ':' :: '/' :: '/' :: behind) :
    read? text = readAuthority? (String.ofList (Text.asciiLower front))
      ((kept behind).dropWhile (isSlash .special)) := by
  have hsignificant := significant_eq h
  rw [hf.filter_eq_self] at hsignificant
  rw [read?, readAgainst?, hsignificant, hf.readScheme?_append]
  exact readBehindScheme?_of_special (schemeKind_of_isWebScheme hf) _

theorem kept_append_cons {c : Char} (hc : 0x20 < c.toNat) (hb : isBreak c = false)
    (front rest : List Char) :
    kept (front ++ c :: rest) = front.filter (!isBreak ·) ++ c :: kept rest := by
  rw [kept, rdropWhile_append_cons (by simpa using hc), List.filter_append,
    List.filter_cons_of_pos (by simp [hb]), kept]

theorem kept_cons_of_isBreak {c : Char} (hb : isBreak c = true) (s : List Char) :
    kept (c :: s) = kept s := by
  have hle : (decide (c.toNat ≤ 0x20)) = true := decide_eq_true (toNat_le_of_isBreak hb)
  simp only [kept, List.rdropWhile, List.reverse_cons, List.dropWhile_append]
  split
  · rename_i hnil
    simp [List.isEmpty_iff.mp hnil, toNat_le_of_isBreak hb]
  · simp [hb]

theorem toNat_of_isSlash {c : Char} (h : isSlash .special c = true) : 0x20 < c.toNat := by
  simp only [isSlash, Bool.or_eq_true, Bool.and_eq_true, beq_iff_eq] at h
  rcases h with rfl | ⟨-, rfl⟩ <;> decide

/-- Slashes, tabs and line ends in front do not count for the host. -/
theorem dropWhile_kept_append {gap : List Char}
    (h : ∀ c ∈ gap, isSlash .special c = true ∨ isBreak c = true) (s : List Char) :
    (kept (gap ++ s)).dropWhile (isSlash .special) = (kept s).dropWhile (isSlash .special) := by
  induction gap with
  | nil => rfl
  | cons c gap ih =>
      obtain ⟨hc, hgap⟩ := List.forall_mem_cons.mp h
      rw [List.cons_append]
      rcases hc with hslash | hbreak
      · have hcons := kept_append_cons (toNat_of_isSlash hslash) (isBreak_of_isSlash hslash) []
          (gap ++ s)
        rw [List.filter_nil, List.nil_append, List.nil_append] at hcons
        rw [hcons, List.dropWhile_cons_of_pos hslash, ih hgap]
      · rw [kept_cons_of_isBreak hbreak, ih hgap]

/-! ## User names and passwords -/

theorem splitAtLastAt_eq_none (h : '@' ∉ s) : splitAtLastAt s = none := by
  rw [splitAtLastAt, if_neg (by simpa using h)]

theorem splitAtLastAt_append (userInfo : List Char) (h : '@' ∉ host) :
    splitAtLastAt (userInfo ++ '@' :: host) = some (userInfo, host) := by
  have hall : ∀ c ∈ host.reverse, (c != '@') = true := by
    intro c hc
    exact bne_iff_ne.mpr fun he => h (he ▸ List.mem_reverse.mp hc)
  have hbehind : ((userInfo ++ '@' :: host).reverse.takeWhile (· != '@')).reverse = host := by
    rw [List.reverse_append, List.reverse_cons, List.append_assoc,
      List.takeWhile_append_of_pos hall]
    simp
  have hlength : (userInfo ++ '@' :: host).length - host.length - 1 = userInfo.length := by
    rw [List.length_append, List.length_cons]
    omega
  rw [splitAtLastAt, if_pos (by simp), hbehind]
  dsimp only
  rw [hlength, List.take_left]

theorem readPathStart_withoutUserInfo (kind : SchemeKind) (u : Url) (s : List Char) :
    readPathStart kind u.withoutUserInfo s = (readPathStart kind u s).withoutUserInfo := by
  cases s with
  | nil =>
    unfold readPathStart
    dsimp only
    split <;> rfl
  | cons c s =>
      unfold readPathStart
      dsimp only
      split
      · rfl
      · split <;> rfl

/-- Reads the host, the port and what follows, of an address with a special scheme that has this
user name and password. -/
def readServer? (scheme : String) (userInfo hostPort rest : List Char) : Option Url := do
  let (hostText, portText) := splitHost false hostPort
  if hostText.isEmpty then none
  let host ← Host.readSpecial? hostText
  let port ← readPort? scheme portText
  return readPathStart .special (readUserInfo { scheme, host := some host, port } userInfo) rest

theorem readServer?_nil (scheme : String) (userInfo hostPort rest : List Char) :
    readServer? scheme [] hostPort rest =
      (readServer? scheme userInfo hostPort rest).map withoutUserInfo := by
  unfold readServer?
  obtain ⟨hostText, portText⟩ := splitHost false hostPort
  dsimp only
  split
  · rfl
  · simp only [Option.bind_eq_bind, Option.map_bind, Option.pure_def, Function.comp_def,
      Option.map_some, ← readPathStart_withoutUserInfo]
    rfl

theorem readAuthority?_eq (hk : schemeKind scheme = .special) (s : List Char) :
    readAuthority? scheme s =
      match splitAtLastAt (s.takeWhile (!endsAuthority .special ·)) with
      | some (userInfo, hostPort) =>
        readServer? scheme userInfo hostPort (s.dropWhile (!endsAuthority .special ·))
      | none =>
        readServer? scheme [] (s.takeWhile (!endsAuthority .special ·))
          (s.dropWhile (!endsAuthority .special ·)) := by
  cases hat : splitAtLastAt (s.takeWhile (!endsAuthority .special ·)) <;>
    simp only [readAuthority?, readServer?, hk, hat, beq_self_eq_true, if_true, Bool.true_or,
      Bool.and_true, Option.getD_none, Option.getD_some]

/-- Without an at sign, no user name and no password is read. -/
theorem readAuthority?_of_notMem (hk : schemeKind scheme = .special)
    (hs : '@' ∉ s.takeWhile (!endsAuthority .special ·)) :
    readAuthority? scheme s = (readAuthority? scheme s).map withoutUserInfo := by
  rw [readAuthority?_eq hk, splitAtLastAt_eq_none hs]
  exact readServer?_nil ..

theorem readAuthority?_append (hk : schemeKind scheme = .special)
    (hu : ∀ c ∈ userInfo, endsAuthority .special c = false)
    (hs : '@' ∉ s.takeWhile (!endsAuthority .special ·)) :
    readAuthority? scheme s =
      (readAuthority? scheme (userInfo ++ '@' :: s)).map withoutUserInfo := by
  have hnone : ∀ c ∈ userInfo, (!endsAuthority .special c) = true := by simpa using hu
  have htake : (userInfo ++ '@' :: s).takeWhile (!endsAuthority .special ·) =
      userInfo ++ '@' :: s.takeWhile (!endsAuthority .special ·) := by
    rw [List.takeWhile_append_of_pos hnone, List.takeWhile_cons_of_pos (by decide)]
  have hdrop : (userInfo ++ '@' :: s).dropWhile (!endsAuthority .special ·) =
      s.dropWhile (!endsAuthority .special ·) := by
    rw [List.dropWhile_append_of_pos hnone, List.dropWhile_cons_of_pos (by decide)]
  rw [readAuthority?_eq hk, readAuthority?_eq hk, htake, hdrop, splitAtLastAt_append userInfo hs,
    splitAtLastAt_eq_none hs]
  exact readServer?_nil ..

theorem head?_rest {c : Char} (h : c ∈ (s.dropWhile (!endsAuthority .special ·)).head?) :
    endsAuthority .special c = true := by
  have hnot := List.head?_dropWhile_not (!endsAuthority .special ·) s
  rw [Option.mem_def.mp h] at hnot
  simpa using hnot

/-- A text whose authority has an at sign is cut behind the last one. -/
theorem cutAuthority_cases (s : List Char) :
    '@' ∉ s.takeWhile (!endsAuthority .special ·) ∧ cutAuthority s = s ∨
      ∃ userInfo, s = userInfo ++ '@' :: cutAuthority s ∧
        (∀ c ∈ userInfo, endsAuthority .special c = false) ∧
        '@' ∉ (cutAuthority s).takeWhile (!endsAuthority .special ·) := by
  have hs : s.takeWhile (!endsAuthority .special ·) ++
    s.dropWhile (!endsAuthority .special ·) = s := List.takeWhile_append_dropWhile
  have hcut : cutAuthority s = (s.takeWhile (!endsAuthority .special ·)).rtakeWhile (· != '@') ++
    s.dropWhile (!endsAuthority .special ·) := rfl
  have hends : ∀ c ∈ s.takeWhile (!endsAuthority .special ·), (!endsAuthority .special c) = true :=
    fun c hc => List.mem_takeWhile_imp (p := (!endsAuthority .special ·)) hc
  have hrest : ∀ c ∈ (s.dropWhile (!endsAuthority .special ·)).head?,
      (!endsAuthority .special c) = false := fun c hc => by simp [head?_rest hc]
  -- from here on, only these facts about the authority and the rest count
  generalize s.takeWhile (!endsAuthority .special ·) = authority at *
  generalize s.dropWhile (!endsAuthority .special ·) = rest at *
  have hparts : authority.rdropWhile (· != '@') ++ authority.rtakeWhile (· != '@') = authority :=
    List.rdropWhile_append_rtakeWhile
  rcases List.eq_nil_or_concat (authority.rdropWhile (· != '@')) with hnil | ⟨userInfo, c, hui⟩
  · left
    rw [hnil, List.nil_append] at hparts
    rw [hcut, hparts]
    refine ⟨fun hmem => ?_, hs⟩
    have hat := List.rdropWhile_eq_nil_iff.mp hnil _ hmem
    simp at hat
  · right
    rw [List.concat_eq_append] at hui
    have hc : c = '@' := by
      have hlast := List.rdropWhile_last_not (· != '@') authority (by simp [hui])
      simpa [hui] using hlast
    rw [hui, hc, List.append_assoc, List.singleton_append] at hparts
    have hmem : ∀ c ∈ authority.rtakeWhile (· != '@'), (!endsAuthority .special c) = true :=
      fun c hc => hends c (hparts ▸ by simp [hc])
    refine ⟨userInfo, ?_, fun c hc => ?_, ?_⟩
    · rw [hcut, ← List.cons_append, ← List.append_assoc, hparts, hs]
    · simpa using hends c (hparts ▸ by simp [hc])
    · rw [hcut, Text.takeWhile_append_of_head hmem hrest]
      intro hat
      simpa using List.mem_rtakeWhile_imp hat

theorem isBreak_of_endsAuthority {c : Char} (h : endsAuthority .special c = true) :
    isBreak c = false := by
  have hmem := endsAuthority_iff.mp h
  simp only [List.mem_cons, List.not_mem_nil, or_false] at hmem
  rcases hmem with rfl | rfl | rfl | rfl <;> rfl

theorem at_notMem_kept (h : '@' ∉ s.takeWhile (!endsAuthority .special ·)) :
    '@' ∉ (kept s).takeWhile (!endsAuthority .special ·) := by
  have hprefix : kept s <+: s.filter (!isBreak ·) := (List.rdropWhile_prefix _ s).filter _
  -- no tab and no line end ends a host, so the filter takes from the authority alone
  have htake : (s.filter (!isBreak ·)).takeWhile (!endsAuthority .special ·) =
      (s.takeWhile (!endsAuthority .special ·)).filter (!isBreak ·) := by
    conv_lhs => rw [← List.takeWhile_append_dropWhile (p := (!endsAuthority .special ·)) (l := s)]
    rw [List.filter_append]
    refine Text.takeWhile_append_of_head (fun c hc => ?_) (fun c hc => ?_)
    · exact List.mem_takeWhile_imp (p := (!endsAuthority .special ·)) (List.mem_of_mem_filter hc)
    · cases hrest : s.dropWhile (!endsAuthority .special ·) with
      | nil =>
          rw [hrest] at hc
          cases hc
      | cons d rest =>
          have hd : endsAuthority .special d = true := head?_rest (by rw [hrest]; rfl)
          rw [hrest, List.filter_cons_of_pos (by simp [isBreak_of_endsAuthority hd])] at hc
          obtain rfl : d = c := Option.some.inj hc
          simp [hd]
  intro hat
  obtain ⟨more, hmore⟩ := hprefix
  have hmem : '@' ∈ (s.filter (!isBreak ·)).takeWhile (!endsAuthority .special ·) := by
    rw [← hmore, List.takeWhile_append]
    split
    · exact List.mem_append_left _ ((List.takeWhile_prefix _).subset hat)
    · exact hat
  rw [htake] at hmem
  exact h (List.mem_of_mem_filter hmem)

/-- What is kept begins as the text does, unless it begins with a tab or a line end. -/
theorem exists_of_kept_eq_cons {c : Char} (h : kept s = c :: rest) :
    ∃ d t, s = d :: t ∧ (isBreak d = true ∨ d = c) := by
  cases s with
  | nil => cases h
  | cons d t =>
      refine ⟨d, t, rfl, ?_⟩
      cases hb : isBreak d with
      | true => exact .inl rfl
      | false =>
          right
          obtain ⟨more, hmore⟩ := List.rdropWhile_prefix (·.toNat ≤ 0x20) (d :: t)
          unfold kept at h
          cases hr : (d :: t).rdropWhile (·.toNat ≤ 0x20) with
          | nil => rw [hr] at h; cases h
          | cons e r =>
              rw [hr, List.cons_append] at hmore
              obtain rfl := (List.cons.inj hmore).1
              rw [hr, List.filter_cons_of_pos (by simp [hb])] at h
              exact (List.cons.inj h).1

theorem dropWhile_kept (h : ∀ c ∈ s.head?, isGap c = false) :
    (kept s).dropWhile (isSlash .special) = kept s := by
  cases hk : kept s with
  | nil => rfl
  | cons c rest =>
      obtain ⟨d, t, rfl, hd⟩ := exists_of_kept_eq_cons hk
      have hgap := h d rfl
      simp only [isGap, Bool.or_eq_false_iff] at hgap
      rcases hd with hd | rfl
      · rw [hgap.2] at hd
        cases hd
      · exact List.dropWhile_cons_of_neg (by simp [hgap.1])

/-- Behind the slashes, the same is read from what was cut, but for the user name and the
password. -/
theorem readAuthority?_cutAuthority (hk : schemeKind scheme = .special)
    (hs : ∀ c ∈ s.head?, isGap c = false)
    (h : readAuthority? scheme ((kept s).dropWhile (isSlash .special)) = some u) :
    ∃ c rest, kept (cutAuthority s) = c :: rest ∧ c ∉ ['/', '\\', '?', '#'] ∧
      readAuthority? scheme (kept (cutAuthority s)) = some u.withoutUserInfo := by
  rw [dropWhile_kept hs] at h
  have hcut : readAuthority? scheme (kept (cutAuthority s)) = some u.withoutUserInfo := by
    rcases cutAuthority_cases s with ⟨hat, hcut⟩ | ⟨userInfo, hcut, hends, hat⟩
    · rw [hcut, readAuthority?_of_notMem hk (at_notMem_kept hat), h, Option.map_some]
    · rw [hcut, kept_append_cons (by decide) (by decide)] at h
      rw [readAuthority?_append hk (fun c hc => hends c (List.mem_of_mem_filter hc))
        (at_notMem_kept hat), h, Option.map_some]
  obtain ⟨c, rest, hkept, hc⟩ := exists_of_readAuthority?_eq_some hk hcut
  exact ⟨c, rest, hkept, hc, hcut⟩

theorem cutUserInfo_eq (h : text.toList = front ++ ':' :: '/' :: '/' :: behind)
    (hf : ':' ∉ front) :
    cutUserInfo text = String.ofList (front ++ ':' :: '/' :: '/' ::
      (behind.takeWhile isGap ++ cutAuthority (behind.dropWhile isGap))) := by
  have hne : ∀ c ∈ front, (c != ':') = true := fun c hc => bne_iff_ne.mpr fun he => hf (he ▸ hc)
  rw [cutUserInfo, h, List.takeWhile_append_of_pos hne, List.dropWhile_append_of_pos hne,
    List.takeWhile_cons_of_neg (by decide), List.dropWhile_cons_of_neg (by decide),
    List.append_nil, List.drop_one, List.tail_cons, List.takeWhile_cons_of_pos (by decide),
    List.takeWhile_cons_of_pos (by decide), List.dropWhile_cons_of_pos (by decide),
    List.dropWhile_cons_of_pos (by decide)]
  rfl

theorem isSlash_eq_false {c : Char} (h : c ∉ ['/', '\\', '?', '#']) :
    isSlash .special c = false := by
  have hends := Bool.eq_false_iff.mpr (endsAuthority_iff.not.mpr h)
  simp only [endsAuthority, Bool.or_eq_false_iff] at hends
  exact hends.1.1

theorem notMem_of_isBreak {c : Char} (h : isBreak c = true) : c ∉ ['/', '\\', '?', '#'] := by
  intro hc
  rw [isBreak_of_endsAuthority (endsAuthority_iff.mpr hc)] at h
  cases h

/-- What stands behind the slashes of an address does not begin with the end of a host, with the
user name and the password or without them. -/
theorem exists_cons_of_kept {c d : Char} (hc : c ∉ ['/', '\\', '?', '#'])
    (hd : d ∉ ['/', '\\', '?', '#'])
    (h : kept (cutAuthority ((c :: s).dropWhile isGap)) = d :: rest) :
    ∃ e more, (c :: s).takeWhile isGap ++ cutAuthority ((c :: s).dropWhile isGap) = e :: more ∧
      e ∉ ['/', '\\', '?', '#'] := by
  cases hgap : isGap c with
  | true =>
      rw [List.takeWhile_cons_of_pos hgap]
      exact ⟨c, _, List.cons_append .., hc⟩
  | false =>
      obtain ⟨e, more, hcut, he⟩ := exists_of_kept_eq_cons h
      rw [List.takeWhile_cons_of_neg (by simp [hgap]), List.nil_append]
      refine ⟨e, more, hcut, ?_⟩
      rcases he with he | rfl
      · exact notMem_of_isBreak he
      · exact hd

theorem started_eq_of_append {lead : List Char} (hlead : ∀ c ∈ lead, c.toNat ≤ 0x20)
    (hf : IsWebScheme front) (s : List Char) :
    started (String.ofList (lead ++ front ++ s)) = front ++ s := by
  cases front with
  | nil => exact absurd hf (by decide)
  | cons c front =>
      have hcontrol : ∀ c : Char, c.toNat < 0x21 → ¬c.isAlpha = true :=
        Text.forall_of_toNat_lt (by decide)
      have hc : ¬c.toNat ≤ 0x20 := fun hle =>
        hcontrol c (Nat.lt_succ_of_le hle) (hf.isAlpha List.mem_cons_self)
      rw [started, String.toList_ofList, List.append_assoc,
        List.dropWhile_append_of_pos (by simpa using hlead), List.cons_append,
        List.dropWhile_cons_of_neg (by simpa using hc)]

/-- Without its user name and password, an address that can be previewed can still be previewed, and
it is read as the same address without them. -/
theorem read?_cutUserInfo (h : isPreviewable text = true) (hu : read? text = some u) :
    read? (cutUserInfo text) = some u.withoutUserInfo ∧
      isPreviewable (cutUserInfo text) = true := by
  obtain ⟨front, c, rest, behind, hf, hstarted, hc, hbehind, -, hread, -⟩ :=
    exists_of_isPreviewable h
  have hk := schemeKind_of_isWebScheme hf
  have hgap : ∀ d ∈ (c :: rest).takeWhile isGap, isSlash .special d = true ∨ isBreak d = true :=
    fun d hd => by simpa [isGap] using List.mem_takeWhile_imp hd
  have hserver : readAuthority? (String.ofList (Text.asciiLower front))
      ((kept ((c :: rest).dropWhile isGap)).dropWhile (isSlash .special)) = some u := by
    rw [← dropWhile_kept_append hgap, List.takeWhile_append_dropWhile, ← hu, hread, hbehind, kept]
  have hhead : ∀ d ∈ ((c :: rest).dropWhile isGap).head?, isGap d = false := by
    intro d hd
    have hnot := List.head?_dropWhile_not isGap (c :: rest)
    rwa [Option.mem_def.mp hd] at hnot
  obtain ⟨d, more, hkept, hd, hcut⟩ := readAuthority?_cutAuthority hk hhead hserver
  obtain ⟨e, tail, htail, he⟩ := exists_cons_of_kept hc hd hkept
  -- the text itself, with what stands in front of the scheme
  have hlead : ∀ b ∈ text.toList.takeWhile (·.toNat ≤ 0x20), b.toNat ≤ 0x20 := fun b hb => by
    simpa using List.mem_takeWhile_imp hb
  have htext : text.toList = (text.toList.takeWhile (·.toNat ≤ 0x20) ++ front) ++
      ':' :: '/' :: '/' :: c :: rest := by
    rw [List.append_assoc, ← hstarted, started, List.takeWhile_append_dropWhile]
  have hcolon : ':' ∉ text.toList.takeWhile (·.toNat ≤ 0x20) ++ front := by
    rw [List.mem_append, not_or]
    exact ⟨fun hb => absurd (hlead _ hb) (by decide), hf.colon_notMem⟩
  have hstarted' : started (cutUserInfo text) = front ++ ':' :: '/' :: '/' :: e :: tail := by
    rw [cutUserInfo_eq htext hcolon, htail, started_eq_of_append hlead hf]
  have hread' : read? (cutUserInfo text) = some u.withoutUserInfo := by
    rw [read?_of_started hf hstarted', ← htail, dropWhile_kept_append hgap, hkept,
      List.dropWhile_cons_of_neg (by simp [isSlash_eq_false hd]), ← hkept]
    exact hcut
  obtain ⟨u', host, hu', hweb, hhost, hne, -⟩ := isPreviewable_iff_isWebAddress.mp h
  obtain rfl : u = u' := Option.some.inj (hu.symm.trans hu')
  refine ⟨hread', isPreviewable_iff_isWebAddress.mpr ⟨u.withoutUserInfo, host, hread', hweb, hhost,
    hne, front, e, tail, ?_, ?_, he⟩⟩
  · exact (scheme_readAuthority? hserver).symm
  · rw [hstarted', append_slashes]

end LinkPreview.Url
