import LinkPreview.Proofs.Page.FirstIcon
import LinkPreview.Proofs.Url.UserInfo

/-!
# Where the icon of a page is found

The address that a link gives for an icon is meant to be kept if it has a scheme of the web, to
take the scheme of the page if it begins with two slashes, and to be joined to the origin of the
page otherwise. Two things differ. Whether an address has a scheme is told by its first four
letters, so a name that begins with `http` is kept and a scheme in capitals is not seen. And what
is joined is joined to all that stands in front of the path, with user name and password.
-/

namespace LinkPreview.Page

open Html

variable {u : Url} {a front front' icon source : String} {isKept isKept' : Prop} {link : Item}
  {host : Url.Host}

/-! ## Addresses of icons -/

/-- How an icon is found in the page at `u` for the address `a`: it is kept, or takes the scheme of
the page, or is joined to the text `front`. -/
structure IsFound (u : Url) (isKept : Prop) (front a icon : String) : Prop where
  kept : icon = a ↔ isKept
  /-- Behind two slashes stands a host, for which the scheme of the page is taken. -/
  besides : a.startsWith "//" = true → icon = u.scheme ++ ":" ++ a
  /-- What is joined has one slash in front of it. -/
  joined : ¬isKept → a.startsWith "//" = false →
    icon = front ++ (if a.startsWith "/" then "" else "/") ++ a

/-- Whether an address begins with a scheme of the web, in any case, and a colon. -/
def HasWebScheme (a : String) : Prop :=
  ∃ scheme rest, Url.IsWebScheme scheme ∧ a.toList = scheme ++ ':' :: rest

/-- Whether the icon of the page at `u` is found as it is meant to be. -/
def IsFoundByScheme (u : Url) (a icon : String) : Prop :=
  IsFound u (HasWebScheme a) u.origin a icon

/-- An icon that is found in one way is found in another exactly if both keep it or both do not, and
if what it is joined to is the same in case it is joined. -/
theorem IsFound.isFound_iff (h : IsFound u isKept front a icon) :
    IsFound u isKept' front' a icon ↔
      (isKept ↔ isKept') ∧ (front = front' ∨ isKept ∨ a.startsWith "//" = true) := by
  constructor
  · intro h'
    have hkept : isKept ↔ isKept' := h.kept.symm.trans h'.kept
    refine ⟨hkept, ?_⟩
    by_cases hk : isKept
    · exact .inr (.inl hk)
    · cases hslashes : a.startsWith "//" with
      | true => exact .inr (.inr rfl)
      | false =>
          have hjoined := h'.joined (hkept.not.mp hk) hslashes
          rw [h.joined hk hslashes, String.append_left_inj, String.append_left_inj] at hjoined
          exact .inl hjoined
  · rintro ⟨hkept, hfront⟩
    refine ⟨h.kept.trans hkept, h.besides, fun hk hslashes => ?_⟩
    rcases hfront with rfl | hk' | hslashes'
    · exact h.joined (hkept.not.mpr hk) hslashes
    · exact absurd (hkept.mp hk') hk
    · rw [hslashes] at hslashes'
      cases hslashes'

/-! ## How an address is resolved -/

theorem append_ne_self {s : String} (h : s ≠ "") (a : String) : s ++ a ≠ a := by
  intro heq
  have hlength := congrArg String.length heq
  rw [String.length_append] at hlength
  exact h (String.length_eq_zero_iff.mp (by omega))

theorem not_startsWith_http_of_slashes (h : a.startsWith "//" = true) :
    a.startsWith "http" = false := by
  rw [Bool.eq_false_iff, Ne, String.startsWith_string_iff]
  rw [String.startsWith_string_iff] at h
  intro hhttp
  cases ha : a.toList with
  | nil =>
      rw [ha] at h
      cases List.prefix_nil.mp h
  | cons c s =>
      rw [ha] at h hhttp
      have hslash : '/' = c := (List.cons_prefix_cons.mp h).1
      have hletter : 'h' = c := (List.cons_prefix_cons.mp hhttp).1
      exact absurd (hslash.trans hletter.symm) (by decide)

/-- An address is kept if it begins with `http`, and is joined to all that stands in front of the
path of the page. -/
theorem isFound_resolveIcon (u : Url) (a : String) :
    IsFound u (a.startsWith "http" = true) u.beforePath a (resolveIcon u (some a)) := by
  obtain ⟨rest, hrest⟩ := Url.exists_beforePath_eq u
  have hpath : u.beforePath ≠ "" := by
    intro hnone
    simp [hnone] at hrest
  have hslashes : ¬a.startsWith "http" = true → a.startsWith "//" = true →
      resolveIcon u (some a) = u.scheme ++ ":" ++ a := by
    intro hhttp hs
    simp [resolveIcon, hhttp, hs]
  have hjoined : ¬a.startsWith "http" = true → a.startsWith "//" = false →
      resolveIcon u (some a) = u.beforePath ++ (if a.startsWith "/" then "" else "/") ++ a := by
    intro hhttp hs
    simp only [resolveIcon, hhttp, hs, Bool.false_eq_true, if_false]
    split <;> simp
  refine ⟨⟨fun heq => ?_, fun hhttp => by simp [resolveIcon, hhttp]⟩, fun hs => ?_, hjoined⟩
  · by_contra hhttp
    cases hs : a.startsWith "//" with
    | true =>
        rw [hslashes hhttp hs] at heq
        exact append_ne_self (by simp) a heq
    | false =>
        rw [hjoined hhttp hs] at heq
        exact append_ne_self (by simp [hpath]) a heq
  · exact hslashes (Bool.eq_false_iff.mp (not_startsWith_http_of_slashes hs)) hs

/-- Whether an address names its own host, as far as this is looked at. -/
def NamesHost (a : String) : Prop :=
  a.startsWith "http" = true ∨ a.startsWith "//" = true

instance (a : String) : Decidable (NamesHost a) :=
  inferInstanceAs (Decidable (_ ∨ _))

/-- The icon of a page is found for the address that its first link to an icon gives: the address is
kept exactly if it begins with `http`, gets the scheme of the page in front of two slashes, and is
joined to all that stands in front of the path otherwise. So it is found as it is meant to be
exactly if the address begins with `http` where it has a scheme of the web and only there, and the
page has no user name and no password in case the address is joined. -/
theorem icon_is_found_by_scheme_unless_misjudged (hs : Url.isPreviewable source = true)
    {markup : String} (hlink : IsFirstIcon (items (Tree.read markup)) link)
    (ha : GivesAddress link a) :
    ∃ u icon, Url.read? source = some u ∧ (metadata markup source).favicon = some icon ∧
      IsFound u (a.startsWith "http" = true) u.beforePath a icon ∧
      (IsFoundByScheme u a icon ↔
        (a.startsWith "http" = true ↔ HasWebScheme a) ∧ (u.userInfo = "" ∨ NamesHost a)) := by
  obtain ⟨u, host, hu, -, hhost, -⟩ := Url.isPreviewable_iff_isWebAddress.mp hs
  have hfound := isFound_resolveIcon u a
  refine ⟨u, _, hu, (isChosenByFirstLink _ source).given u link a hu hlink ha, hfound, ?_⟩
  rw [IsFoundByScheme, hfound.isFound_iff, Url.beforePath_eq_origin_iff hhost, NamesHost]

/-- An address with a scheme of the web is kept as the page writes it, whatever the address of the
page is. -/
theorem icon_is_found_by_scheme_unless_misjudged_of_secure :
    ∃ u icon, Url.read? "http://a:b@[::1]/" = some u ∧
      (metadata "<link rel=icon href=' https:x '>" "http://a:b@[::1]/").favicon = some icon ∧
      IsFoundByScheme u "https:x" icon := by
  obtain ⟨link, hlink, ha⟩ := iconAddress?_eq_some_iff.mp
    (show iconAddress? (items (Tree.read "<link rel=icon href=' https:x '>")) = some "https:x" by
      decide +kernel)
  have hs : Url.isPreviewable "http://a:b@[::1]/" = true := by decide +kernel
  obtain ⟨u, icon, hu, hicon, -, hiff⟩ := icon_is_found_by_scheme_unless_misjudged hs hlink ha
  have hhttp : "https:x".startsWith "http" = true := by decide +kernel
  have hweb : HasWebScheme "https:x" := ⟨"https".toList, ['x'], by decide, rfl⟩
  exact ⟨u, icon, hu, hicon, hiff.mpr ⟨iff_of_true hhttp hweb, .inr (.inl hhttp)⟩⟩

/-- A name that begins with `http` is kept though it has no scheme, and a scheme in capitals is
joined to the origin of the page. -/
theorem icon_is_misjudged_by_its_letters :
    ((metadata "<link rel=icon href=httpd/icon.png>" "http://[::1]/").favicon =
        some "httpd/icon.png" ∧ ¬HasWebScheme "httpd/icon.png") ∧
      (metadata "<link rel=icon href=HTTP://[::2]/i>" "http://[::1]/").favicon =
        some "http://[::1]/HTTP://[::2]/i" ∧ HasWebScheme "HTTP://[::2]/i" := by
  refine ⟨⟨by decide +kernel, ?_⟩, by decide +kernel, "HTTP".toList, "//[::2]/i".toList, by decide,
    rfl⟩
  rintro ⟨scheme, rest, -, ha⟩
  have hcolon : ':' ∈ "httpd/icon.png".toList := by simp [ha]
  exact absurd hcolon (by decide)

/-! ## User names and passwords -/

/-- Whether the first link of a page to an icon gives an address that names its own host. -/
def GivesHost (markup : String) : Prop :=
  ∃ link a, IsFirstIcon (items (Tree.read markup)) link ∧ GivesAddress link a ∧ NamesHost a

theorem givesHost_iff {markup : String} :
    GivesHost markup ↔
      ∃ a, iconAddress? (items (Tree.read markup)) = some a ∧ NamesHost a := by
  simp only [iconAddress?_eq_some_iff, GivesHost]
  constructor
  · rintro ⟨link, a, hlink, ha, hnames⟩
    exact ⟨a, ⟨link, hlink, ha⟩, hnames⟩
  · rintro ⟨a, ⟨link, hlink, ha⟩, hnames⟩
    exact ⟨link, a, hlink, ha, hnames⟩

/-- Only the scheme of the page matters for an address that names its own host. -/
theorem resolveIcon_of_namesHost {u' : Url} (h : NamesHost a) (hscheme : u.scheme = u'.scheme) :
    resolveIcon u (some a) = resolveIcon u' (some a) := by
  rcases h with hhttp | hslashes
  · simp [resolveIcon, hhttp]
  · rw [(isFound_resolveIcon u a).besides hslashes, (isFound_resolveIcon u' a).besides hslashes,
      hscheme]

/-- Any other address, and a missing one, is joined to what stands in front of the path. -/
theorem exists_resolveIcon_eq (address : Option String)
    (h : ∀ a, address = some a → ¬NamesHost a) :
    ∃ path, ∀ u, resolveIcon u address = u.beforePath ++ path := by
  cases address with
  | none => exact ⟨"/favicon.ico", fun u => rfl⟩
  | some a =>
      obtain ⟨hhttp, hslashes⟩ := not_or.mp (h a rfl)
      refine ⟨(if a.startsWith "/" then "" else "/") ++ a, fun u => ?_⟩
      rw [(isFound_resolveIcon u a).joined hhttp (Bool.eq_false_iff.mpr hslashes),
        String.append_assoc]

/-- Without the user name and the password in the address of a page that can be previewed, the page
can still be previewed, and its icon is the same exactly if there were none or the first link to an
icon names its own host. In every other case the user name and the password stand in the icon. -/
theorem icon_keeps_user_info_unless_host_is_named (hs : Url.isPreviewable source = true)
    (markup : String) :
    ∃ u host, Url.read? source = some u ∧ u.host = some host ∧
      Url.isPreviewable (Url.cutUserInfo source) = true ∧
      Url.read? (Url.cutUserInfo source) = some u.withoutUserInfo ∧
      ((metadata markup source).favicon = (metadata markup (Url.cutUserInfo source)).favicon ↔
        u.userInfo = "" ∨ GivesHost markup) ∧
      (¬GivesHost markup → ∃ path, (metadata markup source).favicon =
        some (u.scheme ++ "://" ++ u.userInfo ++ host.write ++ u.portSuffix ++ path)) := by
  obtain ⟨u, host, hu, -, hhost, -⟩ := Url.isPreviewable_iff_isWebAddress.mp hs
  obtain ⟨hcut, hprev⟩ := Url.read?_cutUserInfo hs hu
  have hicon : (metadata markup source).favicon =
      some (resolveIcon u (iconAddress? (items (Tree.read markup)))) := icon?_of_read? hu _
  have hicon' : (metadata markup (Url.cutUserInfo source)).favicon =
      some (resolveIcon u.withoutUserInfo (iconAddress? (items (Tree.read markup)))) :=
    icon?_of_read? hcut _
  refine ⟨u, host, hu, hhost, hprev, hcut, ?_, fun hnot => ?_⟩
  · rw [hicon, hicon', Option.some.injEq]
    by_cases hgives : GivesHost markup
    · obtain ⟨a, ha, hnames⟩ := givesHost_iff.mp hgives
      rw [ha]
      exact iff_of_true (resolveIcon_of_namesHost hnames rfl) (.inr hgives)
    · obtain ⟨path, hpath⟩ := exists_resolveIcon_eq (iconAddress? (items (Tree.read markup)))
        fun a ha hnames => hgives (givesHost_iff.mpr ⟨a, ha, hnames⟩)
      rw [hpath, hpath, String.append_left_inj, Url.beforePath_withoutUserInfo hhost,
        Url.beforePath_eq_origin_iff hhost, or_iff_left hgives]
  · obtain ⟨path, hpath⟩ := exists_resolveIcon_eq (iconAddress? (items (Tree.read markup)))
      fun a ha hnames => hnot (givesHost_iff.mpr ⟨a, ha, hnames⟩)
    exact ⟨path, by rw [hicon, hpath, Url.beforePath_eq hhost]⟩

/-- An icon that is joined to the address of the page differs with and without a password in it. -/
theorem icon_keeps_user_info_unless_host_is_named_of_joined :
    Url.isPreviewable "http://:b@[::1]/" = true ∧
      (metadata "<link rel=icon href=i>" "http://:b@[::1]/").favicon ≠
        (metadata "<link rel=icon href=i>" (Url.cutUserInfo "http://:b@[::1]/")).favicon := by
  have hs : Url.isPreviewable "http://:b@[::1]/" = true := by decide +kernel
  have hread : ∀ u, Url.read? "http://:b@[::1]/" = some u → u.userInfo = ":b@" := by
    intro u hu
    have huser : (Url.read? "http://:b@[::1]/").map Url.userInfo = some ":b@" := by decide +kernel
    rw [hu] at huser
    exact Option.some.inj huser
  obtain ⟨u, host, hu, -, -, -, hsame, -⟩ :=
    icon_keeps_user_info_unless_host_is_named hs "<link rel=icon href=i>"
  refine ⟨hs, fun heq => ?_⟩
  rcases hsame.mp heq with hnone | hgives
  · rw [hread u hu] at hnone
    exact absurd hnone (by decide)
  · obtain ⟨a, ha, hnames⟩ := givesHost_iff.mp hgives
    have hi : iconAddress? (items (Tree.read "<link rel=icon href=i>")) = some "i" := by
      decide +kernel
    obtain rfl : "i" = a := Option.some.inj (hi.symm.trans ha)
    exact absurd hnames (by decide +kernel)

/-- The user name and the password in the address of a page stand in its icon. -/
theorem icon_shows_user_info :
    (metadata "" "http://a:b@[::1]/").favicon = some "http://a:b@[::1]/favicon.ico" ∧
      Url.cutUserInfo "http://a:b@[::1]/" = "http://[::1]/" ∧
      (metadata "" "http://[::1]/").favicon = some "http://[::1]/favicon.ico" := by
  decide +kernel

end LinkPreview.Page
