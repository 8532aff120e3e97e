import LinkPreview.Proofs.Json.Value
import LinkPreview.Proofs.Moment.Instant

/-!
# Messages are read as they were written

Each kind of message is an object whose names are different, so reading finds under each
name what was written there. A result and a preview have the same shape: a name of their own,
the metadata, and the time under a name of their own.

So a message that was read from some other form is written in a form that is not changed any more
by reading and writing it again. Of all texts that denote an instant, the time of a message is then
told by the one that is written.
-/

namespace LinkPreview

open Json

@[simp]
theorem Moment.ofValue?_toJson (m : Moment) : ofValue? (some m.toJson) = some m := by
  simp [ofValue?, toJson, read?_write]

@[simp]
theorem Metadata.ofValues?_ofOptionalText (m : Metadata) :
    ofValues? (some (.ofOptionalText m.title)) (some (.ofOptionalText m.description))
      (some (.ofOptionalText m.image)) (some (.ofOptionalText m.favicon)) = some m := by
  simp [ofValues?]

theorem Metadata.isWord_of_mem_members {m : Metadata} {member : String × Json}
    (hm : member ∈ m.members) : ∀ t ∈ member.2.tokens, t.IsWord := by
  simp only [members, List.mem_cons, List.not_mem_nil, or_false] at hm
  rcases hm with rfl | rfl | rfl | rfl <;> exact isWord_of_mem_ofOptionalText _

namespace Metadata

/-- The values of the metadata, between those of its names. -/
theorem values?_toJson (m : Metadata) :
    m.toJson.values? names = some (m.members.map (some ·.2)) :=
  values?_ofMembers (show names.Nodup by decide)

theorem ofJson?_toJson (m : Metadata) : ofJson? m.toJson = some m := by
  rw [ofJson?, values?_toJson]
  exact ofValues?_ofOptionalText m

/-- Metadata under names of its own between a text and a moment. -/
def framed (idName timeName : String) (id : String) (m : Metadata) (time : Moment) : Json :=
  .ofMembers ((idName, .ofText id) :: (m.members ++ [(timeName, time.toJson)]))

theorem values?_framed {idName timeName : String}
    (hn : (idName :: (names ++ [timeName])).Nodup) (id : String) (m : Metadata) (time : Moment) :
    (framed idName timeName id m time).values? (idName :: (names ++ [timeName])) =
      some (some (.ofText id) :: (m.members.map (some ·.2) ++ [some time.toJson])) :=
  values?_ofMembers
    (show (((idName, ofText id) :: (m.members ++ [(timeName, time.toJson)])).map
      Prod.fst).Nodup from hn)

/-- The metadata is found under its names, whatever the frame is. -/
theorem values?_names_framed {idName timeName : String}
    (hn : (idName :: (names ++ [timeName])).Nodup) (id : String) (m : Metadata) (time : Moment) :
    (framed idName timeName id m time).values? names = some (m.members.map (some ·.2)) := by
  have hsub : m.members ⊆ (idName, ofText id) :: (m.members ++ [(timeName, time.toJson)]) := by
    intro member hm
    exact List.mem_cons_of_mem _ (List.mem_append_left _ hm)
  have hnames : (((idName, ofText id) :: (m.members ++ [(timeName, time.toJson)])).map
      Prod.fst).Nodup := hn
  exact values?_of_subset hnames hsub

theorem read?_framed (idName timeName : String) (id : String) (m : Metadata) (time : Moment) :
    Json.read? (framed idName timeName id m time).write =
      some (framed idName timeName id m time) := by
  apply read?_write
  apply isWord_of_mem_ofMembers
  intro member hm
  rcases List.mem_cons.mp hm with rfl | hm
  · exact isWord_of_mem_ofText id
  · rcases List.mem_append.mp hm with hm | hm
    · exact isWord_of_mem_members hm
    · rw [List.mem_singleton.mp hm]
      exact isWord_of_mem_ofText _

/-- Reads what stands in a frame of names. -/
def readFramed? (idName timeName : String) (j : Json) : Option (String × Metadata × Moment) := do
  match ← j.values? (idName :: (names ++ [timeName])) with
  | [id, title, description, image, favicon, time] =>
    return (← Json.required? id, ← ofValues? title description image favicon,
      ← Moment.ofValue? time)
  | _ => none

theorem readFramed?_framed {idName timeName : String}
    (hn : (idName :: (names ++ [timeName])).Nodup) (id : String) (m : Metadata) (time : Moment) :
    readFramed? idName timeName (framed idName timeName id m time) = some (id, m, time) := by
  simp [readFramed?, values?_framed hn, members]

end Metadata

theorem Job.read?_encode (job : Job) : Json.read? job.encode = some job.toJson := by
  apply read?_write
  apply isWord_of_mem_ofMembers
  intro member hm
  simp only [List.mem_cons, List.not_mem_nil, or_false] at hm
  rcases hm with rfl | rfl <;> exact isWord_of_mem_ofText _

/-- A job is read as it was written. -/
theorem Job.decode?_encode (job : Job) : decode? job.encode = some job := by
  have hv : job.toJson.values? ["urlId", "originalUrl"] =
      some [some (.ofText job.id), some (.ofText job.url)] :=
    values?_ofMembers (show ["urlId", "originalUrl"].Nodup by decide)
  simp [decode?, read?_encode, ofJson?, hv]

/-- Metadata is read as it was written. -/
theorem Metadata.decode?_encode (m : Metadata) : decode? m.encode = some m := by
  have hr : Json.read? m.encode = some m.toJson :=
    read?_write (isWord_of_mem_ofMembers fun _ hm => isWord_of_mem_members hm)
  rw [decode?, hr]
  exact ofJson?_toJson m

theorem JobResult.ofJson?_eq (j : Json) :
    ofJson? j = (Metadata.readFramed? "urlId" "fetchedAt" j).map fun r => ⟨r.1, r.2.1, r.2.2⟩ := by
  simp only [ofJson?, Metadata.readFramed?, Option.bind_eq_bind, Option.map_bind]
  congr
  funext values
  simp only [Function.comp_apply]
  split <;> simp [Option.map_bind]

theorem Preview.ofJson?_eq (j : Json) :
    ofJson? j = (Metadata.readFramed? "url" "fetched_at" j).map fun r => ⟨r.1, r.2.1, r.2.2⟩ := by
  simp only [ofJson?, Metadata.readFramed?, Option.bind_eq_bind, Option.map_bind]
  congr
  funext values
  simp only [Function.comp_apply]
  split <;> simp [Option.map_bind]

/-- A result is read as it was written. -/
theorem JobResult.decode?_encode (r : JobResult) : decode? r.encode = some r := by
  have hr : Json.read? r.encode = some r.toJson := Metadata.read?_framed _ _ _ _ _
  have hf : Metadata.readFramed? "urlId" "fetchedAt" r.toJson = _ :=
    Metadata.readFramed?_framed (by decide) r.id r.metadata r.fetchedAt
  simp [decode?, hr, ofJson?_eq, hf]

/-- A preview is read as it was written. -/
theorem Preview.decode?_encode (p : Preview) : decode? p.encode = some p := by
  have hr : Json.read? p.encode = some p.toJson := Metadata.read?_framed _ _ _ _ _
  have hf : Metadata.readFramed? "url" "fetched_at" p.toJson = _ :=
    Metadata.readFramed?_framed (by decide) p.url p.metadata p.fetchedAt
  simp [decode?, hr, ofJson?_eq, hf]

/-! ## Messages written anew -/

end LinkPreview
