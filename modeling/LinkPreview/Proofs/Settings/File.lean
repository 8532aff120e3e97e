import LinkPreview.Proofs.Settings
import LinkPreview.Proofs.Text.Utf8
import LinkPreview.Settings.File

/-!
# Which variables a file gives

Loading a file changes the environment line by line, and each line is read with what those before it
have left. What comes of it can be said without a state: `given` looks a variable up in the
environment, and then among the assignments of the lines that can be read, of which the first
counts. Settings are read from these variables, and the file is loaded a second time without any
change, unless the file gives a variable a value with a zero character, which ends the process.

## Implementation notes

Whether a line can be read, and which variable it is about, does not depend on the values of
variables (`map_key_readLine?`). So `readable` and `targets` are functions of the lines alone, and a
second loading, with other variables than the first, comes by the same lines.
-/

namespace LinkPreview.Settings

open Text

theorem Environment.text_set (e : Environment) (key value other : String) :
    (e.set key value).text other = if other = key then some value else e.text other := by
  unfold text set
  split
  · simp [Utf8.decode?_encode]
  · rfl

namespace File

variable {e e' : Environment} {lookup : Lookup} {assigned : List Assignment} {a : Assignment}
  {line : Option (List Char)} {ls : List (Option (List Char))} {key value : String}

/-! ## Lines -/

theorem isSome_readValue? (l l' : Lookup) (m : Mode) (s : List Char) :
    (readValue? l m s).isSome = (readValue? l' m s).isSome := by
  fun_induction readValue? l m s with
  | case13 isWeak c s ih =>
      cases hc : escaped? c with
      | none => simp [readValue?, hc]
      | some d =>
          rw [readValue?, hc]
          simp only [Option.bind_eq_bind, Option.bind_some, Option.isSome_bind]
          exact ih
  | case19 isWeak name c s halpha hbrace hdollar ih =>
      have hbrace : ¬ (c = '\x7b' ∧ name = []) := by simpa using hbrace
      simp [readValue?, halpha, hbrace, hdollar, ih]
  | _ => simp_all [readValue?]

/-- Whether a line can be read, and which variable it is about, does not depend on the values of
variables. -/
theorem map_key_readLine? (l l' : Lookup) (line : List Char) :
    (readLine? l line).map (Option.map Assignment.key) =
      (readLine? l' line).map (Option.map Assignment.key) := by
  simp only [readLine?]
  split
  · rfl
  · cases readTarget? (trim line) with
    | none => rfl
    | some target =>
        have hvalue := isSome_readValue? l l' .plain (target.2.dropWhile isBlank)
        simp only [Option.bind_eq_bind, Option.bind_some]
        split
        · rfl
        · cases hl : readValue? l .plain (target.2.dropWhile isBlank) <;>
            cases hl' : readValue? l' .plain (target.2.dropWhile isBlank) <;>
            simp_all

/-- The variable that a line is about, if it can be read and is about one. -/
def target? (line : Option (List Char)) : Option (Option String) :=
  line.bind fun line => (readLine? (fun _ => none) line).map (Option.map Assignment.key)

/-- Whether a line can be read. -/
def isReadable (line : Option (List Char)) : Bool :=
  (target? line).isSome

/-- The lines before the first one that cannot be read. -/
def readable (ls : List (Option (List Char))) : List (Option (List Char)) :=
  ls.takeWhile isReadable

/-- The variables that the lines are about, up to the first line that cannot be read. -/
def targets (ls : List (Option (List Char))) : List String :=
  (readable ls).filterMap fun line => (target? line).join

theorem target?_eq (lookup : Lookup) (line : Option (List Char)) :
    target? line = (line.bind (readLine? lookup)).map (Option.map Assignment.key) := by
  cases line with
  | none => rfl
  | some line => exact map_key_readLine? _ lookup line

theorem readable_of_read {r : Option Assignment} (h : line.bind (readLine? lookup) = some r) :
    readable (line :: ls) = line :: readable ls := by
  have hline : isReadable line = true := by rw [isReadable, target?_eq lookup, h]; rfl
  rw [readable, List.takeWhile_cons, if_pos hline, readable]

theorem readable_of_unread (h : line.bind (readLine? lookup) = none) :
    readable (line :: ls) = [] := by
  have hline : isReadable line = false := by rw [isReadable, target?_eq lookup, h]; rfl
  rw [readable, List.takeWhile_cons, hline]
  rfl

theorem targets_of_skip (h : line.bind (readLine? lookup) = some none) :
    targets (line :: ls) = targets ls := by
  have htarget : target? line = some none := by rw [target?_eq lookup, h]; rfl
  simp [targets, readable_of_read h, htarget]

theorem targets_of_assign (h : line.bind (readLine? lookup) = some (some a)) :
    targets (line :: ls) = a.key :: targets ls := by
  have htarget : target? line = some (some a.key) := by rw [target?_eq lookup, h]; rfl
  simp [targets, readable_of_read h, htarget]

/-! ## Variables -/

/-- Looks a variable up, then among assignments, of which the first one counts. -/
def lookupWith (lookup : Lookup) (assigned : List Assignment) : Lookup := fun key =>
  match lookup key with
  | some value => some value
  | none => (assigned.find? (·.key == key)).map (·.value)

/-- The assignments of lines behind those that are made already. A line is read with the variables
that these give. -/
def assignmentsFrom (lookup : Lookup) (assigned : List Assignment) :
    List (Option (List Char)) → List Assignment
  | [] => assigned
  | line :: ls =>
    assignmentsFrom lookup
      (assigned ++ (line.bind (readLine? (lookupWith lookup assigned))).join.toList) ls

/-- The assignments of a file, which are those of its lines before the first one that cannot be
read. -/
def assignments (e : Environment) (file : Option (List UInt8)) : List Assignment :=
  assignmentsFrom e.text [] (readable (lines (file.getD [])))

/-- The variables that an environment gives, and a file where the environment does not. -/
def given (e : Environment) (file : Option (List UInt8)) : Lookup :=
  lookupWith e.text (assignments e file)

theorem lookupWith_nil (lookup : Lookup) : lookupWith lookup [] = lookup := by
  funext key
  unfold lookupWith
  cases lookup key <;> rfl

theorem lookupWith_append (lookup : Lookup) (as bs : List Assignment) :
    lookupWith lookup (as ++ bs) = lookupWith (lookupWith lookup as) bs := by
  funext key
  simp only [lookupWith, List.find?_append]
  cases lookup key with
  | some value => rfl
  | none => cases as.find? (·.key == key) <;> rfl

theorem lookupWith_of_some (h : lookup key = some value) :
    lookupWith lookup assigned key = some value := by
  rw [lookupWith, h]

/-! ## Assignments -/

theorem assign?_of_isSome (h : (e.text a.key).isSome = true) : assign? e a = some e :=
  if_pos h

theorem assign?_eq_none_iff :
    assign? e a = none ↔ e.text a.key = none ∧ isSettable a.value = false := by
  cases htext : e.text a.key <;> simp [assign?, htext]

/-- What an assignment changes. -/
theorem eq_or_eq_set_of_assign? (h : assign? e a = some e') :
    (e.text a.key).isSome = true ∧ e' = e ∨
      e.text a.key = none ∧ isSettable a.value = true ∧ e' = e.set a.key a.value := by
  unfold assign? at h
  split at h
  · exact .inl ⟨‹_›, (Option.some.inj h).symm⟩
  · split at h
    · exact .inr ⟨Option.not_isSome_iff_eq_none.mp ‹_›, ‹_›, (Option.some.inj h).symm⟩
    · cases h

theorem text_assign? (h : assign? e a = some e') : e'.text = lookupWith e.text [a] := by
  funext key
  rcases eq_or_eq_set_of_assign? h with ⟨hsome, rfl⟩ | ⟨hnone, -, rfl⟩
  · obtain ⟨value, hvalue⟩ := Option.isSome_iff_exists.mp hsome
    by_cases hkey : a.key = key
    · rw [← hkey, lookupWith_of_some hvalue, hvalue]
    · cases htext : e'.text key <;> simp [lookupWith, htext, hkey]
  · rw [Environment.text_set]
    by_cases hkey : a.key = key
    · simp [lookupWith, ← hkey, hnone]
    · rw [if_neg (Ne.symm hkey)]
      cases htext : e.text key <;> simp [lookupWith, htext, hkey]

theorem text_assign?_append (h : assign? e a = some e') (ht : e.text = lookupWith lookup assigned) :
    e'.text = lookupWith lookup (assigned ++ [a]) := by
  rw [text_assign? h, ht, lookupWith_append]

theorem eq_of_assign? (h : assign? e a = some e')
    (hkey : (e.text key).isSome = true ∨ key ≠ a.key) : e' key = e key := by
  rcases eq_or_eq_set_of_assign? h with ⟨-, rfl⟩ | ⟨hnone, -, rfl⟩
  · rfl
  · refine if_neg ?_
    rintro rfl
    rcases hkey with hsome | hne
    · simp [hnone] at hsome
    · exact hne rfl

theorem isSome_text_of_assign? (h : assign? e a = some e') : (e'.text a.key).isSome = true := by
  rw [text_assign? h]
  cases htext : e.text a.key <;> simp [lookupWith, htext]

/-! ## Values that end the process -/

/-- Whether assignments give a variable a value with a zero character in it. -/
def GivesZero (lookup : Lookup) (assigned : List Assignment) : Prop :=
  ∃ key value, lookup key = none ∧ lookupWith lookup assigned key = some value ∧
    '\x00' ∈ value.toList

theorem isSettable_eq_false_iff : isSettable value = false ↔ '\x00' ∈ value.toList := by
  simp [isSettable]

theorem not_givesZero_nil (lookup : Lookup) : ¬ GivesZero lookup [] := by
  rintro ⟨key, value, hnone, hvalue, -⟩
  rw [lookupWith_nil, hnone] at hvalue
  cases hvalue

theorem GivesZero.append (h : GivesZero lookup assigned) (later : List Assignment) :
    GivesZero lookup (assigned ++ later) := by
  obtain ⟨key, value, hnone, hvalue, hzero⟩ := h
  refine ⟨key, value, hnone, ?_, hzero⟩
  rw [lookupWith_append]
  exact lookupWith_of_some hvalue

theorem givesZero_of_assign? (ht : e.text = lookupWith lookup assigned)
    (h : assign? e a = none) : GivesZero lookup (assigned ++ [a]) := by
  obtain ⟨hnone, hzero⟩ := assign?_eq_none_iff.mp h
  rw [ht] at hnone
  refine ⟨a.key, a.value, ?_, ?_, isSettable_eq_false_iff.mp hzero⟩
  · rw [Option.eq_none_iff_forall_ne_some]
    intro value hvalue
    simp [lookupWith_of_some hvalue] at hnone
  · rw [lookupWith_append, lookupWith, hnone]
    simp

theorem not_givesZero_of_assign? (ht : e.text = lookupWith lookup assigned)
    (h : assign? e a = some e') (hz : ¬ GivesZero lookup assigned) :
    ¬ GivesZero lookup (assigned ++ [a]) := by
  rintro ⟨key, value, hnone, hvalue, hzero⟩
  rw [← text_assign?_append h ht] at hvalue
  rcases eq_or_eq_set_of_assign? h with ⟨-, rfl⟩ | ⟨-, hset, rfl⟩
  · exact hz ⟨key, value, hnone, ht ▸ hvalue, hzero⟩
  · rw [Environment.text_set] at hvalue
    split at hvalue
    · cases hvalue
      simp [isSettable_eq_false_iff.mpr hzero] at hset
    · exact hz ⟨key, value, hnone, ht ▸ hvalue, hzero⟩

/-- The assignment of a line that can be read is the next one. -/
theorem assignmentsFrom_of_read {r : Option Assignment} (h : line.bind (readLine? e.text) = some r)
    (ht : e.text = lookupWith lookup assigned) :
    assignmentsFrom lookup assigned (readable (line :: ls)) =
      assignmentsFrom lookup (assigned ++ r.toList) (readable ls) := by
  rw [readable_of_read h, assignmentsFrom, ← ht, h, Option.join_some]

theorem exists_assignmentsFrom_eq (lookup : Lookup) (assigned : List Assignment)
    (ls : List (Option (List Char))) :
    ∃ later, assignmentsFrom lookup assigned ls = assigned ++ later := by
  induction ls generalizing assigned with
  | nil => exact ⟨[], (List.append_nil _).symm⟩
  | cons line ls ih =>
      obtain ⟨later, hlater⟩ := ih
        (assigned ++ (line.bind (readLine? (lookupWith lookup assigned))).join.toList)
      exact ⟨_, hlater.trans (List.append_assoc _ _ _)⟩

/-! ## Loading -/

theorem load?_cons (e : Environment) (line : Option (List Char))
    (ls : List (Option (List Char))) :
    load? e (line :: ls) =
      match line.bind (readLine? e.text) with
      | none => some e
      | some none => load? e ls
      | some (some a) => (assign? e a).bind (load? · ls) := by
  cases line <;> rfl

/-- A line that cannot be read discards what follows it, and nothing else. -/
theorem load?_of_unreadable (h : isReadable line = false) (before after : List (Option (List Char)))
    (e : Environment) : load? e (before ++ line :: after) = load? e before := by
  induction before generalizing e with
  | nil =>
      have hread : line.bind (readLine? e.text) = none := by
        simpa [isReadable, target?_eq e.text] using h
      rw [List.nil_append, load?_cons, hread, load?]
  | cons first before ih => simp only [List.cons_append, load?_cons, ih]

/-- How lines are loaded: the first of them ends it, is skipped, ends the process, or makes an
assignment. -/
inductive Loading : Environment → List (Option (List Char)) → Option Environment → Prop where
  | ended {e : Environment} {ls : List (Option (List Char))} (hr : readable ls = []) :
      Loading e ls (some e)
  | skip {e : Environment} {line : Option (List Char)} {ls : List (Option (List Char))}
      {result : Option Environment} (hl : line.bind (readLine? e.text) = some none)
      (hrest : Loading e ls result) : Loading e (line :: ls) result
  | crash {e : Environment} {line : Option (List Char)} {ls : List (Option (List Char))}
      {a : Assignment} (hl : line.bind (readLine? e.text) = some (some a))
      (ha : assign? e a = none) : Loading e (line :: ls) none
  | assign {e e₁ : Environment} {line : Option (List Char)} {ls : List (Option (List Char))}
      {a : Assignment} {result : Option Environment}
      (hl : line.bind (readLine? e.text) = some (some a)) (ha : assign? e a = some e₁)
      (hrest : Loading e₁ ls result) : Loading e (line :: ls) result

theorem loading_load? (e : Environment) (ls : List (Option (List Char))) :
    Loading e ls (load? e ls) := by
  induction ls generalizing e with
  | nil => exact .ended rfl
  | cons line ls ih =>
      rw [load?_cons]
      cases hl : line.bind (readLine? e.text) with
      | none => exact .ended (readable_of_unread hl)
      | some r =>
          cases r with
          | none => exact .skip hl (ih e)
          | some a =>
              cases ha : assign? e a with
              | none => simpa only [ha, Option.bind_none] using Loading.crash hl ha
              | some e₁ => simpa only [ha, Option.bind_some] using Loading.assign hl ha (ih e₁)

theorem loading_of_load? (h : load? e ls = some e') : Loading e ls (some e') :=
  h ▸ loading_load? e ls

namespace Loading

variable {result : Option Environment}

/-- Loading leaves a variable as it is that has a text, or that no line is about. -/
theorem eq (h : Loading e ls result) (hr : result = some e')
    (hkey : (e.text key).isSome = true ∨ key ∉ targets ls) : e' key = e key := by
  induction h with
  | ended =>
      cases hr
      rfl
  | skip hl _ ih => exact ih hr (hkey.imp_right fun hne => targets_of_skip hl ▸ hne)
  | crash => cases hr
  | @assign e e₁ line ls a result hl ha _ ih =>
      rw [targets_of_assign hl] at hkey
      have heq : e₁ key = e key :=
        eq_of_assign? ha (hkey.imp_right fun hne => List.ne_of_not_mem_cons hne)
      have htext : e₁.text key = e.text key := by rw [Environment.text, heq, Environment.text]
      rw [← heq]
      exact ih hr (by rw [htext]; exact hkey.imp_right fun hne => List.not_mem_of_not_mem_cons hne)

/-- Each variable that the lines are about has a text when they are loaded. -/
theorem isSome_text (h : Loading e ls result) (hr : result = some e') (hkey : key ∈ targets ls) :
    (e'.text key).isSome = true := by
  induction h with
  | ended hnil => simp [targets, hnil] at hkey
  | skip hl _ ih => exact ih hr (targets_of_skip hl ▸ hkey)
  | crash => cases hr
  | assign hl ha hrest ih =>
      rw [targets_of_assign hl] at hkey
      rcases List.mem_cons.mp hkey with rfl | hkey
      · have hsome := isSome_text_of_assign? ha
        rwa [Environment.text, hrest.eq hr (.inl hsome)]
      · exact ih hr hkey

/-- Loading changes nothing if every variable that the lines are about has a text. -/
theorem eq_self (h : Loading e ls result)
    (ht : ∀ key ∈ targets ls, (e.text key).isSome = true) : result = some e := by
  induction h with
  | ended => rfl
  | skip hl _ ih => exact ih (targets_of_skip hl ▸ ht)
  | crash hl ha =>
      rw [targets_of_assign hl] at ht
      rw [assign?_of_isSome (ht _ List.mem_cons_self)] at ha
      cases ha
  | assign hl ha _ ih =>
      rw [targets_of_assign hl] at ht
      obtain ⟨hfirst, hrest⟩ := List.forall_mem_cons.mp ht
      rw [assign?_of_isSome hfirst] at ha
      cases ha
      exact ih hrest

/-- Loading gives the variables the values that they have without a state. -/
theorem text_eq (h : Loading e ls result) (hr : result = some e')
    (ht : e.text = lookupWith lookup assigned) :
    e'.text = lookupWith lookup (assignmentsFrom lookup assigned (readable ls)) := by
  induction h generalizing assigned with
  | ended hnil =>
      cases hr
      rw [hnil, assignmentsFrom, ht]
  | skip hl _ ih =>
      rw [assignmentsFrom_of_read hl ht]
      exact ih hr (by simpa using ht)
  | crash => cases hr
  | assign hl ha _ ih =>
      rw [assignmentsFrom_of_read hl ht]
      exact ih hr (text_assign?_append ha ht)

/-- The process ends exactly if a variable is given a value that it cannot have. -/
theorem eq_none_iff (h : Loading e ls result) (ht : e.text = lookupWith lookup assigned)
    (hz : ¬ GivesZero lookup assigned) :
    result = none ↔ GivesZero lookup (assignmentsFrom lookup assigned (readable ls)) := by
  induction h generalizing assigned with
  | ended hnil =>
      rw [hnil, assignmentsFrom]
      exact ⟨nofun, fun hzero => absurd hzero hz⟩
  | skip hl _ ih =>
      rw [assignmentsFrom_of_read hl ht]
      simpa using ih ht hz
  | @crash e line ls a hl ha =>
      rw [assignmentsFrom_of_read hl ht]
      obtain ⟨later, hlater⟩ := exists_assignmentsFrom_eq lookup (assigned ++ [a]) (readable ls)
      refine ⟨fun _ => ?_, fun _ => rfl⟩
      rw [Option.toList_some, hlater]
      exact (givesZero_of_assign? ht ha).append later
  | assign hl ha _ ih =>
      rw [assignmentsFrom_of_read hl ht]
      exact ih (text_assign?_append ha ht) (not_givesZero_of_assign? ht ha hz)

end Loading

/-! ## Settings -/

theorem readWithFile_eq_none_iff {file : Option (List UInt8)} :
    readWithFile e file = none ↔ GivesZero e.text (assignments e file) := by
  rw [readWithFile, Option.map_eq_none_iff]
  exact (loading_load? e _).eq_none_iff (lookupWith_nil _).symm (not_givesZero_nil _)

/-- Settings are read from the variables that the environment gives, and the file where the
environment does not, and a second time they are the same. A variable is left as it is that has a
text, or that no line is about. Only where the file gives a variable a value with a zero character,
the process ends. A line that cannot be read discards the lines behind it, and no others. -/
theorem environment_comes_before_file (e : Environment) (file : Option (List UInt8)) :
    (readWithFile e file = none ↔ GivesZero e.text (assignments e file)) ∧
      (¬ GivesZero e.text (assignments e file) → ∃ e',
        readWithFile e file = some (read (given e file), e') ∧
          readWithFile e' file = some (read (given e file), e') ∧ e'.text = given e file ∧
          ∀ key, (e.text key).isSome = true ∨ key ∉ targets (lines (file.getD [])) →
            e' key = e key) ∧
      ∀ before line after, lines (file.getD []) = before ++ line :: after →
        isReadable line = false →
          readWithFile e file = (load? e before).map fun e' => (read e'.text, e') := by
  refine ⟨readWithFile_eq_none_iff, fun hzero => ?_, fun before line after hlines hline => ?_⟩
  · cases hload : load? e (lines (file.getD [])) with
    | none => exact absurd (readWithFile_eq_none_iff.mp (by rw [readWithFile, hload]; rfl)) hzero
    | some e' =>
        have hloading := loading_of_load? hload
        have htext : e'.text = given e file := hloading.text_eq rfl (lookupWith_nil _).symm
        have hagain : load? e' (lines (file.getD [])) = some e' :=
          (loading_load? e' _).eq_self fun _ hkey => hloading.isSome_text rfl hkey
        refine ⟨e', ?_, ?_, htext, fun key hkey => hloading.eq rfl hkey⟩
        · rw [readWithFile, hload, Option.map_some, htext]
        · rw [readWithFile, hagain, Option.map_some, htext]
  · rw [readWithFile, hlines, load?_of_unreadable hline]

/-- A file whose only line gives a variable, on which no setting depends, a zero character. -/
def zeroFile : List UInt8 := [0x41, 0x3D, 0x00]

/-- The environment and the file give variables from which settings can be read, but the process
ends before. -/
theorem zero_character_ends_process :
    read (given (fun _ => none) (some zeroFile)) = .ok defaults ∧
      readWithFile (fun _ => none) (some zeroFile) = none := by
  have hassignments : assignments (fun _ => none) (some zeroFile) = [⟨"A", "\x00"⟩] := by
    decide +kernel
  constructor
  · rw [given, hassignments]
    rfl
  · rw [readWithFile_eq_none_iff, hassignments]
    exact ⟨"A", "\x00", rfl, rfl, by decide⟩

end File

end LinkPreview.Settings
