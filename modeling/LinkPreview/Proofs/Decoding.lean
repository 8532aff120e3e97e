import LinkPreview.Proofs.Json.Members
import LinkPreview.Proofs.Message

/-!
# Which bytes are a message

A message is read from a document that holds its members: an object with every name once at most,
among whatever other members and in any order, or an array of just the values. `IsReadExactly`
says this of one kind of message, with what follows for objects that are written otherwise.

What a member tells is told by `TellsText`, `TellsOptional` and `TellsMoment`. Of the other members
only the names are read: each of them has to say something, or nothing is read at all.
-/

namespace LinkPreview

open Json

/-! ## What members tell -/

/-- The text that a member which must be there tells. -/
inductive TellsText : Option Json → String → Prop where
  | intro {w : List UInt8} {t : String} (h : IsSaid w t) : TellsText (some (.string w)) t

/-- The text that a member tells, if it is there and not `null`. -/
inductive TellsOptional : Option Json → Option String → Prop where
  | missing : TellsOptional none none
  | null : TellsOptional (some .null) none
  | text {w : List UInt8} {t : String} (h : IsSaid w t) :
      TellsOptional (some (.string w)) (some t)

/-- The moment that a member tells: the one at which a clock shows what its text shows. -/
inductive TellsMoment : Option Json → Moment → Prop where
  | intro {value : Option Json} {t : String} {clock : Moment.Clock} {m : Moment}
      (h : TellsText value t) (hs : Moment.Shows t.toList clock) (hm : clock.moment? = some m) :
      TellsMoment value m

theorem text?_eq_some_iff {j : Json} {t : String} :
    j.text? = some t ↔ ∃ w, j = .string w ∧ IsSaid w t := by
  cases j <;> simp [text?, textOf?_eq_some_iff]

theorem required?_eq_some_iff {value : Option Json} {t : String} :
    required? value = some t ↔ TellsText value t := by
  simp only [required?, Option.bind_eq_bind, Option.bind_eq_some_iff, text?_eq_some_iff]
  constructor
  · rintro ⟨j, rfl, w, rfl, h⟩
    exact .intro h
  · rintro ⟨h⟩
    exact ⟨_, rfl, _, rfl, h⟩

theorem optional?_eq_some_iff {value : Option Json} {t : Option String} :
    optional? value = some t ↔ TellsOptional value t := by
  constructor
  · intro h
    unfold optional? at h
    split at h
    · cases h
      exact .missing
    · cases h
      exact .null
    · obtain ⟨u, hu, rfl⟩ := Option.map_eq_some_iff.mp h
      obtain ⟨w, rfl, hw⟩ := text?_eq_some_iff.mp hu
      exact .text hw
  · rintro (_ | _ | h)
    · rfl
    · rfl
    · rw [optional?, text?_eq_some_iff.mpr ⟨_, rfl, h⟩, Option.map_some]
      simp

theorem Moment.ofValue?_eq_some_iff {value : Option Json} {m : Moment} :
    ofValue? value = some m ↔ TellsMoment value m := by
  simp only [ofValue?, Option.bind_eq_bind, Option.bind_eq_some_iff, required?_eq_some_iff,
    read?_eq_some_iff]
  constructor
  · rintro ⟨t, h, clock, hs, hm⟩
    exact .intro h hs hm
  · rintro ⟨h, hs, hm⟩
    exact ⟨_, h, _, hs, hm⟩

/-! ## Kinds of messages -/

/-- The job that two values tell. -/
inductive Job.IsTold : List (Option Json) → Job → Prop where
  | intro {id url : Option Json} {job : Job} (hid : TellsText id job.id)
      (hurl : TellsText url job.url) : IsTold [id, url] job

/-- The metadata that four values tell. -/
inductive Metadata.IsTold : List (Option Json) → Metadata → Prop where
  | intro {title description image favicon : Option Json} {m : Metadata}
      (htitle : TellsOptional title m.title)
      (hdescription : TellsOptional description m.description)
      (himage : TellsOptional image m.image) (hfavicon : TellsOptional favicon m.favicon) :
      IsTold [title, description, image, favicon] m

/-- A text, metadata and a moment that values tell in this order. -/
inductive Metadata.IsFrameTold : List (Option Json) → String × Metadata × Moment → Prop where
  | intro {id time : Option Json} {values : List (Option Json)} {t : String} {m : Metadata}
      {moment : Moment} (hid : TellsText id t) (hm : IsTold values m)
      (htime : TellsMoment time moment) : IsFrameTold (id :: (values ++ [time])) (t, m, moment)

/-- The result that six values tell. -/
def JobResult.IsTold (values : List (Option Json)) (r : JobResult) : Prop :=
  Metadata.IsFrameTold values (r.id, r.metadata, r.fetchedAt)

/-- The preview that six values tell. -/
def Preview.IsTold (values : List (Option Json)) (p : Preview) : Prop :=
  Metadata.IsFrameTold values (p.url, p.metadata, p.fetchedAt)

/-- Which bytes are read as a message with these names: exactly the documents that hold what tells
it. Among objects, the order of the members changes nothing and neither does a member of another
name, but nothing is read if one of the names occurs twice. -/
structure IsReadExactly {α : Type} (names : List String)
    (tells : List (Option Json) → α → Prop) (decode? : List UInt8 → Option α) : Prop where
  eq_some_iff : ∀ s x, decode? s = some x ↔
    ∃ j values, IsDocument s j ∧ Holds names j values ∧ tells values x
  permuted : ∀ s s' members members', IsDocument s (.object members) →
    IsDocument s' (.object members') → members.Perm members' → decode? s' = decode? s
  unknown : ∀ s s' front back key value name, IsDocument s (.object (front ++ back)) →
    IsDocument s' (.object (front ++ (key, value) :: back)) → IsSaid key name → name ∉ names →
    decode? s' = decode? s
  repeated : ∀ s front middle back key key' value value' name,
    IsDocument s (.object (front ++ (key, value) :: (middle ++ (key', value') :: back))) →
    IsSaid key name → IsSaid key' name → name ∈ names → decode? s = none

/-- What is read from the values under the names, and from nothing else, is read exactly. -/
theorem IsReadExactly.of_values {α : Type} {names : List String}
    {tells : List (Option Json) → α → Prop} {decode? : List UInt8 → Option α}
    {f : List (Option Json) → Option α}
    (hd : ∀ s, decode? s = (Json.read? s).bind fun j => (j.values? names).bind f)
    (hv : ∀ values x, f values = some x ↔ tells values x) :
    IsReadExactly names tells decode? := by
  have hdecode {s : List UInt8} {j : Json} (h : IsDocument s j) :
      decode? s = (j.values? names).bind f := by
    rw [hd, Json.read?_eq_some_iff.mpr h, Option.bind_some]
  constructor
  · intro s x
    simp only [hd, Option.bind_eq_some_iff, Json.read?_eq_some_iff, values?_eq_some_iff, hv]
    constructor
    · rintro ⟨j, hj, values, hvalues, hx⟩
      exact ⟨j, values, hj, hvalues, hx⟩
    · rintro ⟨j, values, hj, hvalues, hx⟩
      exact ⟨j, hj, values, hvalues, hx⟩
  · intro s s' members members' h h' hp
    rw [hdecode h, hdecode h', values?_of_perm hp]
  · intro s s' front back key value name h h' hk hn
    rw [hdecode h, hdecode h', values?_insert hk hn]
  · intro s front middle back key key' value value' name h hk hk' hn
    rw [hdecode h, values?_of_two hk hk' hn, Option.bind_none]

theorem Job.isReadExactly : IsReadExactly ["urlId", "originalUrl"] IsTold decode? := by
  refine .of_values (fun s => rfl) fun values job => ?_
  constructor
  · intro h
    split at h
    · simp only [Option.bind_eq_bind, Option.bind_eq_some_iff, required?_eq_some_iff,
        Option.pure_def, Option.some.injEq] at h
      obtain ⟨id, hid, url, hurl, rfl⟩ := h
      exact .intro hid hurl
    · cases h
  · rintro ⟨hid, hurl⟩
    simp [required?_eq_some_iff.mpr hid, required?_eq_some_iff.mpr hurl]

theorem Metadata.ofValues?_eq_some_iff {title description image favicon : Option Json}
    {m : Metadata} : ofValues? title description image favicon = some m ↔
      IsTold [title, description, image, favicon] m := by
  simp only [ofValues?, Option.bind_eq_bind, Option.bind_eq_some_iff, optional?_eq_some_iff,
    Option.pure_def, Option.some.injEq]
  constructor
  · rintro ⟨t, ht, d, hd, i, hi, f, hf, rfl⟩
    exact .intro ht hd hi hf
  · rintro ⟨ht, hd, hi, hf⟩
    exact ⟨_, ht, _, hd, _, hi, _, hf, rfl⟩

theorem Metadata.isReadExactly : IsReadExactly names IsTold decode? := by
  refine .of_values (fun s => rfl) fun values m => ?_
  constructor
  · intro h
    split at h
    · exact ofValues?_eq_some_iff.mp h
    · cases h
  · intro h
    cases h with
    | intro ht hd hi hf => exact ofValues?_eq_some_iff.mpr (.intro ht hd hi hf)

/-- What a frame of names tells, from the values under them. -/
def Metadata.ofFrame? : List (Option Json) → Option (String × Metadata × Moment)
  | [id, title, description, image, favicon, time] => do
    return (← required? id, ← ofValues? title description image favicon, ← Moment.ofValue? time)
  | _ => none

theorem Metadata.ofFrame?_eq_some_iff {values : List (Option Json)}
    {r : String × Metadata × Moment} : ofFrame? values = some r ↔ IsFrameTold values r := by
  constructor
  · intro h
    unfold ofFrame? at h
    split at h
    · simp only [Option.bind_eq_bind, Option.bind_eq_some_iff, Option.pure_def, Option.some.injEq,
        required?_eq_some_iff, ofValues?_eq_some_iff, Moment.ofValue?_eq_some_iff] at h
      obtain ⟨t, ht, m, hm, moment, hmoment, rfl⟩ := h
      exact .intro ht hm hmoment
    · cases h
  · rintro ⟨hid, hm, htime⟩
    have hvalues := hm
    cases hm with
    | intro =>
        simp only [List.cons_append, List.nil_append, ofFrame?, required?_eq_some_iff.mpr hid,
          ofValues?_eq_some_iff.mpr hvalues, Moment.ofValue?_eq_some_iff.mpr htime,
          Option.bind_eq_bind, Option.bind_some, Option.pure_def]

/-- A message that is nothing but a frame of names is read exactly. -/
theorem Metadata.isReadExactly_of_frame {α : Type} {idName timeName : String}
    {decode? : List UInt8 → Option α} {ofFrame : String × Metadata × Moment → α}
    {frame : α → String × Metadata × Moment}
    (hd : ∀ s, decode? s = (Json.read? s).bind fun j => (readFramed? idName timeName j).map ofFrame)
    (hl : ∀ r, frame (ofFrame r) = r) (hr : ∀ x, ofFrame (frame x) = x) :
    IsReadExactly (idName :: (names ++ [timeName])) (fun values x => IsFrameTold values (frame x))
      decode? := by
  refine .of_values (f := fun values => (ofFrame? values).map ofFrame) (fun s => ?_)
    fun values x => ?_
  · rw [hd]
    refine congrArg _ (funext fun j => ?_)
    exact Option.map_bind
  · simp only [Option.map_eq_some_iff, ofFrame?_eq_some_iff]
    constructor
    · rintro ⟨r, h, rfl⟩
      rwa [hl]
    · intro h
      exact ⟨frame x, h, hr x⟩

theorem JobResult.isReadExactly :
    IsReadExactly ("urlId" :: (Metadata.names ++ ["fetchedAt"])) IsTold decode? :=
  Metadata.isReadExactly_of_frame (fun _ => congrArg _ (funext ofJson?_eq)) (fun _ => rfl)
    fun _ => rfl

theorem Preview.isReadExactly :
    IsReadExactly ("url" :: (Metadata.names ++ ["fetched_at"])) IsTold decode? :=
  Metadata.isReadExactly_of_frame (fun _ => congrArg _ (funext ofJson?_eq)) (fun _ => rfl)
    fun _ => rfl

/-- Each kind of message is read from exactly the documents that hold its members, as the message
that they tell: from an object in any order and among any other members whose names say something,
or from an array. An optional member may be missing from an object, and may be `null` in both. -/
theorem messages_are_read_exactly :
    IsReadExactly ["urlId", "originalUrl"] Job.IsTold Job.decode? ∧
      IsReadExactly Metadata.names Metadata.IsTold Metadata.decode? ∧
      IsReadExactly ("url" :: (Metadata.names ++ ["fetched_at"])) Preview.IsTold Preview.decode? ∧
      IsReadExactly ("urlId" :: (Metadata.names ++ ["fetchedAt"])) JobResult.IsTold
        JobResult.decode? :=
  ⟨Job.isReadExactly, Metadata.isReadExactly, Preview.isReadExactly, JobResult.isReadExactly⟩

/-! ## Documents at the edge -/

/-- The members of a job as they are written. -/
def Job.members (job : Job) : Members :=
  [(written "urlId", .ofText job.id), (written "originalUrl", .ofText job.url)]

/-- An empty array in as many others. -/
def nested : Nat → Json
  | 0 => .array []
  | n + 1 => .array [nested n]

theorem isWord_of_mem_nested (n : Nat) : ∀ t ∈ (nested n).tokens, t.IsWord := by
  induction n with
  | zero =>
      intro t ht
      simp only [nested, tokens, List.mem_cons, List.not_mem_nil, or_false] at ht
      rcases ht with rfl | rfl <;> trivial
  | succ n ih =>
      intro t ht
      simp only [nested, tokens, itemTokens, List.mem_cons, List.mem_append, List.not_mem_nil,
        or_false, false_or] at ht
      rcases ht with rfl | ht | rfl
      · trivial
      · exact ih t ht
      · trivial

theorem isSaid_written (s : String) : IsSaid (written s) s :=
  textOf?_eq_some_iff.mp (textOf?_written s)

/-- A job with one member more is a document. -/
theorem Job.isDocument_write {job : Job} {key : List UInt8} {value : Json}
    (front back : Members) (he : job.members = front ++ back) (hk : IsStringBody key)
    (hv : ∀ t ∈ value.tokens, t.IsWord) :
    IsDocument (object (front ++ (key, value) :: back)).write
      (.object (front ++ (key, value) :: back)) := by
  have hmember : ∀ m ∈ front ++ (key, value) :: back,
      IsStringBody m.1 ∧ ∀ t ∈ m.2.tokens, t.IsWord := by
    intro m hm
    have hm : m = (key, value) ∨ m ∈ job.members := by
      rw [he]
      simpa [or_left_comm] using hm
    simp only [members, List.mem_cons, List.not_mem_nil, or_false] at hm
    rcases hm with rfl | rfl | rfl
    · exact ⟨hk, hv⟩
    · exact ⟨isStringBody_written _, isWord_of_mem_ofText _⟩
    · exact ⟨isStringBody_written _, isWord_of_mem_ofText _⟩
  exact Json.isDocument_write
    (isWord_of_mem_object (fun m hm => (hmember m hm).1) fun m hm => (hmember m hm).2)

/-- However deep the value of a member is that a job does not have, the job is read. -/
theorem Job.decode?_of_nested (job : Job) (n : Nat) :
    decode? (object (job.members ++ [(written "n", nested n)])).write = some job := by
  have hplain : IsDocument job.encode (.object (job.members ++ [])) :=
    Json.read?_eq_some_iff.mp (List.append_nil job.members ▸ job.read?_encode)
  have hnested := isDocument_write job.members [] (List.append_nil job.members).symm
    (isStringBody_written "n") (isWord_of_mem_nested n)
  rw [isReadExactly.unknown _ _ _ _ _ _ "n" hplain hnested (isSaid_written "n") (by decide),
    decode?_encode]

/-- One half of a pair of code units says nothing. -/
theorem not_isSaid_half (text : String) : ¬ IsSaid (bytes "\\ud800") text := by
  have hread : Text.Utf8.decode? (bytes "\\ud800") = some "\\ud800".toList :=
    Text.Utf8.decode?_encode "\\ud800".toList
  have hnone : unescape? "\\ud800".toList = none := rfl
  rw [← textOf?_eq_some_iff, textOf?, hread, Option.bind_eq_bind, Option.bind_some, hnone]
  simp

/-- A job with one member more, whose key says nothing. -/
def spoiled : Members :=
  (bytes "\\ud800", .number (bytes "0")) :: Job.members ⟨"a", "b"⟩

theorem not_isSaid_written {text name : String} (h : text ≠ name) :
    ¬ IsSaid (written text) name :=
  fun hs => h ((isSaid_written text).unique hs)

/-- The members of a job stand under their names behind one that has none. -/
theorem forall_under_spoiled :
    List.Forall₂ (Under spoiled) ["urlId", "originalUrl"]
      [some (.ofText "a"), some (.ofText "b")] := by
  refine .cons (under_iff.mpr ?_) (.cons (under_iff.mpr ?_) .nil)
  · rw [spoiled, valuesOf_cons_of_not (not_isSaid_half _), Job.members,
      valuesOf_cons_of_isSaid (isSaid_written _),
      valuesOf_cons_of_not (not_isSaid_written (by decide))]
    rfl
  · rw [spoiled, valuesOf_cons_of_not (not_isSaid_half _), Job.members,
      valuesOf_cons_of_not (not_isSaid_written (by decide)),
      valuesOf_cons_of_isSaid (isSaid_written _)]
    rfl

/-- A job with one member more is not read if the key of this member says nothing, but it is read
however deep the value is; and items that are `null` are as absent as members are. -/
theorem unusual_documents :
    let s := bytes "\x7b\"\\ud800\":0,\"urlId\":\"a\",\"originalUrl\":\"b\"\x7d"
    (IsDocument s (.object spoiled) ∧
        List.Forall₂ (Under spoiled) ["urlId", "originalUrl"]
          [some (.ofText "a"), some (.ofText "b")] ∧ Job.decode? s = none) ∧
      Job.decode? (object (Job.members ⟨"a", "b"⟩ ++ [(written "n", nested 200)])).write =
        some ⟨"a", "b"⟩ ∧
      Metadata.decode? (bytes "[null,null,null,null]") = some ⟨none, none, none, none⟩ := by
  intro s
  have hs : s = (object spoiled).write := by decide +kernel
  have hbody : IsStringBody (bytes "\\ud800") :=
    show IsStringBody (byte '\\' :: byte 'u' :: (bytes "d800" ++ [])) from
      .unit rfl (by decide +kernel) .nil
  have hzero : IsNumber (bytes "0") := .intro (.inl rfl) .zero .none .none
  have hdocument : IsDocument s (.object spoiled) := hs ▸
    Job.isDocument_write [] _ rfl hbody fun t ht => List.mem_singleton.mp ht ▸ hzero
  refine ⟨⟨hdocument, forall_under_spoiled, ?_⟩, Job.decode?_of_nested _ _, ?_⟩
  · have hkey : (bytes "\\ud800", Json.number (bytes "0")) ∈ spoiled := List.mem_cons_self
    rw [Job.decode?, Json.read?_eq_some_iff.mpr hdocument, Option.bind_eq_bind, Option.bind_some,
      Job.ofJson?, values?_of_unsaid hkey not_isSaid_half]
    rfl
  · refine (Metadata.isReadExactly.eq_some_iff _ _).mpr
      ⟨.array [.null, .null, .null, .null], _, Json.isDocument_write ?_, .array rfl,
        .intro .null .null .null .null⟩
    intro t ht
    simp only [tokens, itemTokens, List.cons_append, List.nil_append, List.mem_cons,
      List.not_mem_nil, or_false] at ht
    rcases ht with rfl | rfl | rfl | rfl | rfl | rfl | rfl | rfl | rfl <;> trivial

end LinkPreview
