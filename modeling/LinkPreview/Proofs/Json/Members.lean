import Mathlib.Data.List.Forall2
import LinkPreview.Message
import LinkPreview.Proofs.Json.Document
import LinkPreview.Proofs.Json.Meaning

/-!
# Values under names

Of an object, what stands under a name is the value of the only member whose key says this name
(`Under`). The keys of an array's items are not written: the items stand under the names in order.
`Holds` puts both together and is what `values?` finds. It depends on the members that bear one of
the names and on nothing else: not on their order, and not on the members between them.
-/

namespace LinkPreview.Json

/-- The members of an object, each with its key as it is written. -/
abbrev Members := List (List UInt8 × Json)

/-- Whether no member has this name. -/
def Lacks (members : Members) (name : String) : Prop :=
  ∀ m ∈ members, ¬ IsSaid m.1 name

/-- What stands under a name: nothing, or the value of the only member that has it. -/
inductive Under (members : Members) (name : String) : Option Json → Prop where
  | absent (h : Lacks members name) : Under members name none
  | present {front back : Members} {key : List UInt8} {value : Json}
      (he : members = front ++ (key, value) :: back) (hk : IsSaid key name)
      (hf : Lacks front name) (hb : Lacks back name) : Under members name (some value)

/-- What a value holds under names: an object in which every key says something, or an array of
as many items as there are names. -/
inductive Holds (names : List String) : Json → List (Option Json) → Prop where
  | object {members : Members} {values : List (Option Json)}
      (hk : ∀ m ∈ members, ∃ name, IsSaid m.1 name)
      (hv : List.Forall₂ (Under members) names values) : Holds names (.object members) values
  | array {items : List Json} (hl : items.length = names.length) :
      Holds names (.array items) (items.map some)

theorem IsSaid.unique {w : List UInt8} {t t' : String} (h : IsSaid w t) (h' : IsSaid w t') :
    t = t' := by
  rw [← textOf?_eq_some_iff] at h h'
  rw [h, Option.some.injEq] at h'
  exact h'

/-! ## The members that have a name -/

/-- Whether a member has a name. -/
def bears (name : String) (m : List UInt8 × Json) : Bool :=
  textOf? m.1 == some name

theorem bears_iff {name : String} {m : List UInt8 × Json} :
    bears name m = true ↔ IsSaid m.1 name := by
  rw [bears, beq_iff_eq, textOf?_eq_some_iff]

/-- The values of all members that have a name. -/
def valuesOf (members : Members) (name : String) : List Json :=
  (members.filter (bears name)).map Prod.snd

theorem valuesOf_append (front back : Members) (name : String) :
    valuesOf (front ++ back) name = valuesOf front name ++ valuesOf back name := by
  rw [valuesOf, List.filter_append, List.map_append, ← valuesOf, ← valuesOf]

theorem valuesOf_cons_of_isSaid {key : List UInt8} {name : String} (hk : IsSaid key name)
    (value : Json) (members : Members) :
    valuesOf ((key, value) :: members) name = value :: valuesOf members name := by
  rw [valuesOf, List.filter_cons_of_pos (bears_iff.mpr hk), List.map_cons, ← valuesOf]

theorem valuesOf_cons_of_not {key : List UInt8} {name : String} (hk : ¬ IsSaid key name)
    (value : Json) (members : Members) :
    valuesOf ((key, value) :: members) name = valuesOf members name := by
  rw [valuesOf, List.filter_cons_of_neg (fun h => hk (bears_iff.mp h)), ← valuesOf]

theorem valuesOf_eq_nil_iff {members : Members} {name : String} :
    valuesOf members name = [] ↔ Lacks members name := by
  rw [valuesOf, List.map_eq_nil_iff, List.filter_eq_nil_iff, Lacks]
  exact forall₂_congr fun _ _ => not_congr bears_iff

/-- What stands under a name, by the values of all members that have it. -/
theorem under_iff {members : Members} {name : String} {value : Option Json} :
    Under members name value ↔ valuesOf members name = value.toList := by
  constructor
  · rintro (h | ⟨rfl, hk, hf, hb⟩)
    · exact valuesOf_eq_nil_iff.mpr h
    · rw [valuesOf_append, valuesOf_cons_of_isSaid hk, valuesOf_eq_nil_iff.mpr hf,
        valuesOf_eq_nil_iff.mpr hb]
      rfl
  · intro h
    cases value with
    | none => exact .absent (valuesOf_eq_nil_iff.mp h)
    | some value =>
        obtain ⟨⟨key, v⟩, hfilter, rfl⟩ := List.map_eq_singleton_iff.mp h
        obtain ⟨front, back, he, hf, hk, hb⟩ := List.filter_eq_cons_iff.mp hfilter
        refine .present he (bears_iff.mp hk) (fun m hm hs => hf m hm (bears_iff.mpr hs)) ?_
        exact valuesOf_eq_nil_iff.mp (List.map_eq_nil_iff.mpr hb)

/-! ## Finding values -/

theorem mapM_eq_some_iff {α β : Type} {f : α → Option β} {as : List α} {bs : List β} :
    as.mapM f = some bs ↔ List.Forall₂ (fun a b => f a = some b) as bs := by
  induction as generalizing bs with
  | nil => simp [eq_comm]
  | cons a as ih =>
      simp only [List.mapM_cons, Option.bind_eq_bind, Option.bind_eq_some_iff, Option.pure_def,
        Option.some.injEq, ih, List.forall₂_cons_left_iff]
      constructor
      · rintro ⟨b, hb, rest, hrest, rfl⟩
        exact ⟨b, rest, hb, hrest, rfl⟩
      · rintro ⟨b, rest, hb, hrest, rfl⟩
        exact ⟨b, hb, rest, hrest, rfl⟩

/-- Members are named exactly if every key says something. -/
theorem exists_namedMembers?_iff {members : Members} :
    (∃ named, namedMembers? members = some named) ↔ ∀ m ∈ members, ∃ name, IsSaid m.1 name := by
  induction members with
  | nil => simp [namedMembers?]
  | cons m members ih =>
      rw [List.forall_mem_cons, ← ih]
      simp only [namedMembers?, List.mapM_cons, Option.bind_eq_bind, Option.bind_eq_some_iff,
        Option.map_eq_some_iff, textOf?_eq_some_iff, Option.pure_def, Option.some.injEq]
      constructor
      · rintro ⟨_, _, ⟨name, hname, -⟩, named, hnamed, -⟩
        exact ⟨⟨name, hname⟩, named, hnamed⟩
      · rintro ⟨⟨name, hname⟩, named, hnamed⟩
        exact ⟨_, _, ⟨name, hname, rfl⟩, named, hnamed, rfl⟩

theorem map_filter_named {members : Members} {named : List (String × Json)}
    (h : namedMembers? members = some named) (name : String) :
    (named.filter (·.1 == name)).map Prod.snd = valuesOf members name := by
  induction members generalizing named with
  | nil =>
      cases h
      rfl
  | cons m members ih =>
      simp only [namedMembers?, List.mapM_cons, Option.bind_eq_bind, Option.bind_eq_some_iff,
        Option.map_eq_some_iff, Option.pure_def, Option.some.injEq] at h
      obtain ⟨_, ⟨text, htext, rfl⟩, rest, hrest, rfl⟩ := h
      rw [textOf?_eq_some_iff] at htext
      by_cases hname : text = name
      · rw [List.filter_cons_of_pos (by simpa using hname), List.map_cons, ih hrest,
          valuesOf_cons_of_isSaid (hname ▸ htext)]
      · rw [List.filter_cons_of_neg (by simpa using hname), ih hrest,
          valuesOf_cons_of_not fun h => hname (htext.unique h)]

theorem member?_eq_some_iff {members : Members} {named : List (String × Json)}
    (h : namedMembers? members = some named) {name : String} {value : Option Json} :
    member? named name = some value ↔ Under members name value := by
  rw [under_iff, ← map_filter_named h, member?]
  split
  · rename_i hnil
    rw [hnil]
    cases value <;> simp
  · rename_i key v hone
    rw [hone]
    cases value <;> simp
  · rename_i hnil hone
    cases hfilter : named.filter (·.1 == name) with
    | nil => exact absurd hfilter hnil
    | cons a as =>
        cases as with
        | nil => exact absurd hfilter (hone a.1 a.2)
        | cons b as => cases value <;> simp

/-- Exactly what a value holds is found under the names. -/
theorem values?_eq_some_iff {names : List String} {j : Json} {values : List (Option Json)} :
    j.values? names = some values ↔ Holds names j values := by
  cases j with
  | object members =>
      simp only [values?, Option.bind_eq_bind, Option.bind_eq_some_iff]
      constructor
      · rintro ⟨named, hnamed, h⟩
        refine .object (exists_namedMembers?_iff.mp ⟨named, hnamed⟩) ?_
        exact (mapM_eq_some_iff.mp h).imp fun _ _ => (member?_eq_some_iff hnamed).mp
      · rintro (⟨hk, hv⟩ | _)
        obtain ⟨named, hnamed⟩ := exists_namedMembers?_iff.mpr hk
        refine ⟨named, hnamed, mapM_eq_some_iff.mpr ?_⟩
        exact hv.imp fun _ _ => (member?_eq_some_iff hnamed).mpr
  | array items =>
      simp only [values?]
      constructor
      · intro h
        split at h
        · cases h
          exact .array ‹_›
        · cases h
      · rintro (_ | hl)
        rw [if_pos hl]
  | _ =>
      constructor
      · intro h
        cases h
      · intro h
        cases h

/-- Of an object with a key that says nothing, no value is found. -/
theorem values?_of_unsaid {members : Members} {m : List UInt8 × Json} (hm : m ∈ members)
    (h : ∀ name, ¬ IsSaid m.1 name) (names : List String) :
    (object members).values? names = none := by
  rw [Option.eq_none_iff_forall_ne_some]
  intro values hvalues
  cases values?_eq_some_iff.mp hvalues with
  | object hk _ =>
      obtain ⟨name, hname⟩ := hk m hm
      exact h name hname

/-! ## Changes of an object that change no value -/

/-- Objects with the same under every name that is asked for are read alike. -/
theorem values?_congr {names : List String} {members members' : Members}
    (hk : (∀ m ∈ members, ∃ name, IsSaid m.1 name) ↔ ∀ m ∈ members', ∃ name, IsSaid m.1 name)
    (hv : ∀ name ∈ names, ∀ value, Under members name value ↔ Under members' name value) :
    (object members).values? names = (object members').values? names := by
  have hto {ms ms' : Members}
      (hk : (∀ m ∈ ms, ∃ name, IsSaid m.1 name) → ∀ m ∈ ms', ∃ name, IsSaid m.1 name)
      (hv : ∀ name ∈ names, ∀ value, Under ms name value → Under ms' name value)
      {values : List (Option Json)} (h : Holds names (.object ms) values) :
      Holds names (.object ms') values := by
    cases h with
    | object hsaid hvalues =>
        have hnames := (List.forall₂_and_left names values).mpr ⟨fun name hn => hn, hvalues⟩
        exact .object (hk hsaid) (hnames.imp fun name value h => hv name h.1 value h.2)
  refine Option.ext fun values => ?_
  rw [values?_eq_some_iff, values?_eq_some_iff]
  exact ⟨hto hk.mp fun name hn value => (hv name hn value).mp,
    hto hk.mpr fun name hn value => (hv name hn value).mpr⟩

theorem valuesOf_perm {members members' : Members} (hp : members.Perm members') (name : String) :
    (valuesOf members name).Perm (valuesOf members' name) :=
  (hp.filter _).map _

/-- The order of the members changes nothing. -/
theorem values?_of_perm {members members' : Members} (hp : members.Perm members')
    (names : List String) : (object members).values? names = (object members').values? names := by
  refine values?_congr (by simp only [hp.mem_iff]) fun name _ value => ?_
  have hvalues := valuesOf_perm hp name
  rw [under_iff, under_iff]
  cases value with
  | none => exact ⟨fun h => (h ▸ hvalues.symm).eq_nil, fun h => (h ▸ hvalues).eq_nil⟩
  | some value =>
      exact ⟨fun h => (h ▸ hvalues.symm).eq_singleton, fun h => (h ▸ hvalues).eq_singleton⟩

/-- A member with a name that is not asked for changes nothing. -/
theorem values?_insert {names : List String} {front back : Members} {key : List UInt8}
    {other : String} (hk : IsSaid key other) (ho : other ∉ names) (value : Json) :
    (object (front ++ (key, value) :: back)).values? names =
      (object (front ++ back)).values? names := by
  refine values?_congr ?_ fun name hn v => ?_
  · simp only [List.forall_mem_append, List.forall_mem_cons]
    refine and_congr_right fun _ => and_iff_right ⟨other, hk⟩
  · have hother : ¬ IsSaid key name := fun h => ho (hk.unique h ▸ hn)
    rw [under_iff, under_iff, valuesOf_append, valuesOf_cons_of_not hother, ← valuesOf_append]

/-- Under a name that two members have nothing is found. -/
theorem values?_of_two {names : List String} {front middle back : Members}
    {key key' : List UInt8} {name : String} (hk : IsSaid key name) (hk' : IsSaid key' name)
    (hn : name ∈ names) (value value' : Json) :
    (object (front ++ (key, value) :: (middle ++ (key', value') :: back))).values? names =
      none := by
  rw [Option.eq_none_iff_forall_ne_some]
  intro values h
  cases values?_eq_some_iff.mp h with
  | object _ hvalues =>
      obtain ⟨i, hi, rfl⟩ := List.getElem_of_mem hn
      have hunder := hvalues.get hi (hvalues.length_eq ▸ hi)
      rw [under_iff, List.get_eq_getElem, valuesOf_append, valuesOf_cons_of_isSaid hk,
        valuesOf_append, valuesOf_cons_of_isSaid hk'] at hunder
      have hlength := congrArg List.length hunder
      have hone (v : Option Json) : v.toList.length ≤ 1 := by cases v <;> simp
      have hle := hone (values.get ⟨i, hvalues.length_eq ▸ hi⟩)
      simp only [List.length_append, List.length_cons] at hlength
      omega

end LinkPreview.Json
