import LinkPreview.Proofs.Url.Acceptance

/-!
# What stands in front of the path of an address

In front of the path stand the scheme, a user name and a password if there are any, the host and
the port. The origin of an address is the same without the user name and the password.
-/

namespace LinkPreview.Url

variable {text text' : String} {u u' : Url} {host : Host}

/-! ## The scheme -/

theorem colon_notMem_scheme (h : read? text = some u) : ':' ∉ u.scheme.toList := by
  have hlower : ∀ c : Char, c.toNat < 0x80 → inScheme c = true → c.toLower ≠ ':' :=
    Text.forall_of_toNat_lt (by decide)
  obtain ⟨front, -, -, hfront, hscheme, -⟩ := exists_of_read?_eq_some h
  rw [hscheme, String.toList_ofList]
  intro hmem
  obtain ⟨c, hc, hcolon⟩ := List.mem_map.mp hmem
  exact hlower c (toNat_lt_of_inScheme (hfront c hc)) (hfront c hc) hcolon

theorem exists_beforePath_eq (u : Url) :
    ∃ rest, u.beforePath.toList = u.scheme.toList ++ ':' :: rest := by
  unfold beforePath
  split
  · rename_i host _
    exact ⟨'/' :: '/' :: (u.userInfo ++ host.write ++ u.portSuffix).toList, by simp⟩
  · split
    · rename_i hfile
      exact ⟨['/', '/'], by simp [hfile]⟩
    · exact ⟨(if u.path.looksLikeHost then "/." else "").toList, by simp⟩

/-- The text in front of the path tells the scheme. -/
theorem scheme_eq_of_beforePath_eq (h : read? text = some u) (h' : read? text' = some u')
    (heq : u.beforePath = u'.beforePath) : u.scheme = u'.scheme := by
  obtain ⟨rest, hrest⟩ := exists_beforePath_eq u
  obtain ⟨rest', hrest'⟩ := exists_beforePath_eq u'
  rw [heq, hrest'] at hrest
  exact String.toList_inj.mp (eq_of_append_colon hrest.symm (colon_notMem_scheme h)
    (colon_notMem_scheme h')).1

/-! ## The origin -/

/-- The scheme, the host and the port of an address. -/
def origin (u : Url) : String :=
  u.scheme ++ "://" ++ (u.host.map Host.write).getD "" ++ u.portSuffix

/-- An address without its user name and its password. -/
def withoutUserInfo (u : Url) : Url :=
  { u with username := "", password := "" }

theorem beforePath_eq (h : u.host = some host) :
    u.beforePath = u.scheme ++ "://" ++ u.userInfo ++ host.write ++ u.portSuffix := by
  simp only [beforePath, h]

theorem origin_eq (h : u.host = some host) :
    u.origin = u.scheme ++ "://" ++ host.write ++ u.portSuffix := by
  simp only [origin, h, Option.map_some, Option.getD_some]

theorem beforePath_withoutUserInfo (h : u.host = some host) :
    u.withoutUserInfo.beforePath = u.origin := by
  rw [origin_eq h, beforePath_eq (u := u.withoutUserInfo) h]
  simp [withoutUserInfo, userInfo, portSuffix]

/-- The user name and the password are all that may stand in front of a path beside the origin. -/
theorem beforePath_eq_origin_iff (h : u.host = some host) :
    u.beforePath = u.origin ↔ u.userInfo = "" := by
  rw [beforePath_eq h, origin_eq h]
  constructor
  · intro heq
    have hlength := congrArg String.length heq
    simp only [String.length_append] at hlength
    rw [← String.length_eq_zero_iff]
    omega
  · intro hnone
    rw [hnone, String.append_empty]

end LinkPreview.Url
