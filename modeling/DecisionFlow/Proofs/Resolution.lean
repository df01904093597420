import DecisionFlow.Source.Folder

set_option autoImplicit false

/-! # Which file a key leads to

The names of a key are followed one after the other, from the folder or, for a key that starts at
the top, from there. Where they lead is a question of the text alone, and so is whether that is
inside the folder. So what a folder gives for a key depends on nothing but the files inside it. -/

namespace DecisionFlow

namespace Files

/-! ## Where names lead -/

/-- Some names, followed one after the other, lead from one location to another. -/
inductive Location.Leads : Location → List String → Location → Prop where
  /-- All names have been followed. -/
  | done {l : Location} : Leads l [] l
  /-- An empty name and a single point lead nowhere else. -/
  | stay {l m : Location} {name : String} {names : List String} :
    name = "" ∨ name = "." → Leads l names m → Leads l (name :: names) m
  /-- A double point leads up, and stays at the top. -/
  | up {l m : Location} {names : List String} : Leads l.dropLast names m → Leads l (".." :: names) m
  /-- Any other name leads down. -/
  | down {l m : Location} {name : String} {names : List String} :
    name ≠ "" → name ≠ "." → name ≠ ".." → Leads (l ++ [name]) names m → Leads l (name :: names) m

/-- The names between the separators of a path, the empty ones and all points included. -/
def allNames (path : String) : List String :=
  (Text.segments '/' path.toList).map String.ofList

/-- Leaving out the names that lead nowhere else does not change where the others lead. -/
theorem Location.foldl_step_filter (l : Location) (names : List String) :
    Leads l names ((names.filter fun name => name ≠ "" ∧ name ≠ ".").foldl Location.step l) := by
  -- Every step starts where the one before has led, so the location goes with the induction.
  induction names generalizing l with
  | nil => exact .done
  | cons name names ih =>
    by_cases hstay : name = "" ∨ name = "."
    · have hdrop : ¬(name ≠ "" ∧ name ≠ ".") := by grind
      rw [List.filter_cons_of_neg (by simpa using hdrop)]
      exact .stay hstay (ih l)
    · have hkeep : name ≠ "" ∧ name ≠ "." := by grind
      rw [List.filter_cons_of_pos (by simpa using hkeep), List.foldl_cons]
      by_cases hup : name = ".."
      · subst hup
        exact .up (ih l.dropLast)
      · rw [Location.step, if_neg hup]
        exact .down hkeep.1 hkeep.2 hup (ih (l ++ [name]))

theorem Location.Leads.unique {l m m' : Location} {names : List String} (h : Leads l names m)
    (h' : Leads l names m') : m = m' := by
  -- The first name decides which case it is, so the second run takes the same one.
  induction h with
  | done =>
    cases h'
    rfl
  | stay hstay _ ih =>
    cases h' with
    | stay _ hrest => exact ih hrest
    | up => simp at hstay
    | down hne hne' => exact absurd hstay (by simp [hne, hne'])
  | up _ ih =>
    cases h' with
    | stay hstay => simp at hstay
    | up hrest => exact ih hrest
    | down _ _ hne => exact absurd rfl hne
  | down hne hne' hne'' _ ih =>
    cases h' with
    | stay hstay => exact absurd hstay (by simp [hne, hne'])
    | up => exact absurd rfl hne''
    | down _ _ _ hrest => exact ih hrest

/-- A path leads where its names do. -/
theorem Location.follow_eq_iff {l m : Location} {path : String} :
    l.follow path = m ↔ Leads (if isAbsolute path then [] else l) (allNames path) m := by
  have hleads := foldl_step_filter (if isAbsolute path then [] else l) (allNames path)
  constructor
  · rintro rfl
    exact hleads
  · intro h
    exact hleads.unique h

/-! ## Names that are too long -/

/-- Nothing about a location is too long: none of its names, nor the path to it. -/
structure Location.IsShort (l : Location) : Prop where
  names : ∀ name ∈ l, name.utf8ByteSize ≤ Tree.nameLimit
  path : l.text.utf8ByteSize ≤ Tree.pathLimit

theorem Tree.hasLongName_eq_false {t : Tree} {l : Location} {names : List String}
    (h : ∀ name ∈ names, name.utf8ByteSize ≤ nameLimit) : t.hasLongName l names = false := by
  induction names generalizing l with
  | nil => rfl
  | cons name names ih =>
    rw [List.forall_mem_cons] at h
    have hname : ¬nameLimit < name.utf8ByteSize := Nat.not_lt.2 h.1
    simp [hasLongName, hname, ih h.2]

/-- Whatever the files are, a location about which nothing is too long can be looked at. -/
theorem Tree.isOverlong_eq_false {t : Tree} {l : Location} (h : l.IsShort) :
    t.isOverlong l = false := by
  have hpath : ¬pathLimit < l.text.utf8ByteSize := Nat.not_lt.2 h.path
  simp [isOverlong, hpath, hasLongName_eq_false h.names]

end Files

open Files

namespace Folder

variable {f : Folder} {t : Tree} {key : String} {ls : List Location} {l : Location}
  {bytes : List UInt8} {fault : Fault}

/-! ## The search -/

/-- The search among some locations looks at one of them. It does so at the next one as long as
    that is inside the folder, and goes on when there is no file. -/
inductive LooksAt (f : Folder) (t : Tree) : List Location → Location → Prop where
  /-- The location is the next one. -/
  | here {l : Location} {ls : List Location} : l.isInside f.location = true →
    LooksAt f t (l :: ls) l
  /-- There is no file at the next one. -/
  | later {l m : Location} {ls : List Location} : l.isInside f.location = true →
    t.isOverlong l = false → t.file? l = none → LooksAt f t ls m → LooksAt f t (l :: ls) m

/-- The search stays inside the folder. -/
theorem LooksAt.isInside (h : f.LooksAt t ls l) : l.isInside f.location = true := by
  induction h with
  | here hin => exact hin
  | later _ _ _ _ ih => exact ih

theorem LooksAt.mem (h : f.LooksAt t ls l) : l ∈ ls := by
  induction h with
  | here => exact List.mem_cons_self ..
  | later _ _ _ _ ih => exact List.mem_cons_of_mem _ ih

theorem looksAt_cons_iff {m : Location} :
    f.LooksAt t (l :: ls) m ↔ l.isInside f.location = true ∧
      (m = l ∨ t.isOverlong l = false ∧ t.file? l = none ∧ f.LooksAt t ls m) := by
  constructor
  · intro h
    cases h with
    | here hin => exact ⟨hin, Or.inl rfl⟩
    | later hin hshort hnone h => exact ⟨hin, Or.inr ⟨hshort, hnone, h⟩⟩
  · rintro ⟨hin, rfl | ⟨hshort, hnone, h⟩⟩
    · exact .here hin
    · exact .later hin hshort hnone h

/-- The search ends at a location that it looks at: there is a file, or something is too long. -/
structure EndsAt (f : Folder) (t : Tree) (ls : List Location) (l : Location) : Prop where
  looks : f.LooksAt t ls l
  ends : t.isOverlong l = true ∨ t.file? l ≠ none

/-- Among all locations the search gives what it gives at the one where it ends. -/
theorem EndsAt.firstFile_eq (h : f.EndsAt t ls l) : f.firstFile t ls = f.firstFile t [l] := by
  obtain ⟨hlooks, hends⟩ := h
  induction hlooks with
  | here hin =>
    obtain hlong | hfile := hends
    · simp [firstFile, hin, hlong]
    · obtain ⟨bytes, hbytes⟩ := Option.ne_none_iff_exists'.1 hfile
      simp [firstFile, hin, hbytes]
  | later hin hshort hnone _ ih =>
    rw [← ih hends]
    simp [firstFile, hin, hshort, hnone]

/-- A search that ends nowhere finds nothing. -/
theorem firstFile_of_not_endsAt (h : ∀ l, ¬f.EndsAt t ls l) : f.firstFile t ls = .ok none := by
  induction ls with
  | nil => rfl
  | cons l ls ih =>
    by_cases hin : l.isInside f.location = true
    · have hends : ¬(t.isOverlong l = true ∨ t.file? l ≠ none) := fun hends =>
        h l ⟨.here hin, hends⟩
      rw [not_or, Bool.not_eq_true, Classical.not_not] at hends
      obtain ⟨hshort, hnone⟩ := hends
      have hrest : ∀ m, ¬f.EndsAt t ls m := fun m hm =>
        h m ⟨.later hin hshort hnone hm.looks, hm.ends⟩
      simp [firstFile, hin, hshort, hnone, ih hrest]
    · simp [firstFile, hin]

/-- What the search gives: the fault or the file at the location where it ends, or nothing. -/
theorem firstFile_cases (f : Folder) (t : Tree) (ls : List Location) :
    (∃ l, f.EndsAt t ls l ∧ t.isOverlong l = true ∧
      f.firstFile t ls = .error (.nameTooLong l.text)) ∨
    (∃ l bytes, f.EndsAt t ls l ∧ t.isOverlong l = false ∧ t.file? l = some bytes ∧
      f.firstFile t ls = .ok (some bytes)) ∨
    (∀ l, ¬f.EndsAt t ls l) ∧ f.firstFile t ls = .ok none := by
  by_cases h : ∃ l, f.EndsAt t ls l
  · obtain ⟨l, hends⟩ := h
    have hin : l.isInside f.location = true := hends.looks.isInside
    cases hlong : t.isOverlong l with
    | true =>
      refine Or.inl ⟨l, hends, hlong, ?_⟩
      rw [hends.firstFile_eq]
      simp [firstFile, hin, hlong]
    | false =>
      have hfile : t.file? l ≠ none := hends.ends.resolve_left (by simp [hlong])
      obtain ⟨bytes, hbytes⟩ := Option.ne_none_iff_exists'.1 hfile
      refine Or.inr (Or.inl ⟨l, bytes, hends, hlong, hbytes, ?_⟩)
      rw [hends.firstFile_eq]
      simp [firstFile, hin, hlong, hbytes]
  · rw [not_exists] at h
    exact Or.inr (Or.inr ⟨h, firstFile_of_not_endsAt h⟩)

/-! ## The file of a key -/

/-- A path leads from the folder to a location. -/
def LeadsTo (f : Folder) (path : String) (l : Location) : Prop :=
  Location.Leads (if isAbsolute path then [] else f.location) (allNames path) l

theorem leadsTo_iff {path : String} : f.LeadsTo path l ↔ f.location.follow path = l :=
  Location.follow_eq_iff.symm

/-- A folder has a file: it lies inside the folder. -/
structure HasFile (f : Folder) (t : Tree) (l : Location) (bytes : List UInt8) : Prop where
  inside : f.location <+: l
  file : t.file? l = some bytes

/-- The bytes that a key leads to in a folder. -/
inductive Gives (f : Folder) (t : Tree) (key : String) (bytes : List UInt8) : Prop where
  /-- The key leads to the file. -/
  | asIs {l : Location} : f.LeadsTo key l → f.HasFile t l bytes → Gives f t key bytes
  /-- The key leads to no file inside the folder, but with the ending it does. -/
  | completed {l m : Location} : f.LeadsTo key l → f.location <+: l → t.file? l = none →
    ¬ending.toList <:+ key.toList → f.LeadsTo (key ++ ending) m → f.HasFile t m bytes →
    Gives f t key bytes

/-- A key about which nothing keeps its files from being looked up. -/
structure Admits (f : Folder) (key : String) : Prop where
  /-- There is no null character in the key. -/
  possible : isImpossible key = false
  /-- No name is too long where the key leads inside the folder, as it is or with the ending. -/
  short : ∀ l ∈ f.candidates key, f.location <+: l → l.IsShort

theorem endsAt_of_gives (hkey : f.Admits key) (h : f.Gives t key bytes) :
    ∃ l, f.EndsAt t (f.candidates key) l ∧ t.file? l = some bytes := by
  cases h with
  | @asIs l hleads hfile =>
    rw [leadsTo_iff] at hleads
    refine ⟨l, ⟨?_, Or.inr (by simp [hfile.file])⟩, hfile.file⟩
    rw [candidates, hleads]
    exact .here (Location.isInside_iff.2 hfile.inside)
  | @completed l m hleads hin hnone hending hleads' hfile =>
    rw [leadsTo_iff] at hleads hleads'
    have hcandidates : f.candidates key = [l, m] := by
      rw [candidates, hleads, hleads', if_neg]
      rwa [List.isSuffixOf_iff_suffix]
    -- Nothing is too long at the first candidate, so the search does not end there.
    have hshort : t.isOverlong l = false :=
      Tree.isOverlong_eq_false (hkey.short l (by simp [hcandidates]) hin)
    refine ⟨m, ⟨?_, Or.inr (by simp [hfile.file])⟩, hfile.file⟩
    rw [hcandidates]
    exact .later (Location.isInside_iff.2 hin) hshort hnone
      (.here (Location.isInside_iff.2 hfile.inside))

theorem gives_of_looksAt (h : f.LooksAt t (f.candidates key) l) (hfile : t.file? l = some bytes) :
    f.Gives t key bytes := by
  have hhas : f.HasFile t l bytes := ⟨Location.isInside_iff.1 h.isInside, hfile⟩
  rw [candidates, looksAt_cons_iff] at h
  -- The search looks at the first candidate or, when there is another one, at that.
  obtain ⟨hin, rfl | ⟨-, hnone, hrest⟩⟩ := h
  · exact .asIs (leadsTo_iff.2 rfl) hhas
  · by_cases hending : ending.toList.isSuffixOf key.toList = true
    · rw [if_pos hending] at hrest
      exact absurd hrest.mem List.not_mem_nil
    · rw [if_neg hending] at hrest
      rw [List.isSuffixOf_iff_suffix] at hending
      have hl : l = f.location.follow (key ++ ending) := List.mem_singleton.1 hrest.mem
      exact .completed (leadsTo_iff.2 rfl) (Location.isInside_iff.1 hin) hnone hending
        (leadsTo_iff.2 hl.symm) hhas

/-- A location at which the search of an admitted key looks can be looked at. -/
theorem Admits.isOverlong_eq_false (hkey : f.Admits key) (h : f.LooksAt t (f.candidates key) l) :
    t.isOverlong l = false :=
  Tree.isOverlong_eq_false (hkey.short l h.mem (Location.isInside_iff.1 h.isInside))

/-- A folder reads the bytes that a key leads to. -/
theorem readBytes_of_gives (hkey : f.Admits key) (h : f.Gives t key bytes) :
    f.readBytes t key = .ok bytes := by
  obtain ⟨l, hends, hfile⟩ := endsAt_of_gives hkey h
  have hshort := hkey.isOverlong_eq_false hends.looks
  have hfound : f.firstFile t (f.candidates key) = .ok (some bytes) := by
    rw [hends.firstFile_eq]
    simp [firstFile, hends.looks.isInside, hshort, hfile]
  simp [readBytes, hkey.possible, hfound]

/-- A key that leads to no bytes is absent from a folder. -/
theorem readBytes_of_not_gives (hkey : f.Admits key) (h : ∀ bytes, ¬f.Gives t key bytes) :
    f.readBytes t key = .error (.source (.absentFile (f.shownPath key) key)) := by
  have hnone : f.firstFile t (f.candidates key) = .ok none := by
    obtain ⟨l, hends, hlong, -⟩ | ⟨l, bytes, hends, -, hfile, -⟩ | ⟨-, hnone⟩ :=
      firstFile_cases f t (f.candidates key)
    · exact absurd hlong (by simp [hkey.isOverlong_eq_false hends.looks])
    · exact absurd (gives_of_looksAt hends.looks hfile) (h bytes)
    · exact hnone
  simp [readBytes, hkey.possible, hnone]

/-! ## Trees that agree inside the folder -/

/-- Two trees have the same files inside a folder. -/
def Agree (f : Folder) (t u : Tree) : Prop :=
  ∀ l, f.location <+: l → t.file? l = u.file? l

theorem Agree.symm {u : Tree} (h : f.Agree t u) : f.Agree u t :=
  fun l hin => (h l hin).symm

theorem HasFile.of_agree {u : Tree} (h : f.HasFile t l bytes) (htu : f.Agree t u) :
    f.HasFile u l bytes :=
  ⟨h.inside, by rw [← htu l h.inside, h.file]⟩

theorem Gives.of_agree {u : Tree} (h : f.Gives t key bytes) (htu : f.Agree t u) :
    f.Gives u key bytes := by
  cases h with
  | asIs hleads hfile => exact .asIs hleads (hfile.of_agree htu)
  | completed hleads hin hnone hending hleads' hfile =>
    exact .completed hleads hin (by rw [← htu _ hin, hnone]) hending hleads' (hfile.of_agree htu)

theorem readBytes_of_agree {u : Tree} (hkey : f.Admits key) (htu : f.Agree t u) :
    f.readBytes u key = f.readBytes t key := by
  by_cases h : ∃ bytes, f.Gives t key bytes
  · obtain ⟨bytes, hgives⟩ := h
    rw [readBytes_of_gives hkey hgives, readBytes_of_gives hkey (hgives.of_agree htu)]
  · rw [not_exists] at h
    have h' : ∀ bytes, ¬f.Gives u key bytes := fun bytes hgives =>
      h bytes (hgives.of_agree htu.symm)
    rw [readBytes_of_not_gives hkey h, readBytes_of_not_gives hkey h']

/-! ## Loading -/

/-- A folder that keeps nothing leaves its state as it is. -/
theorem load_of_not_keeps (hkeeps : f.keeps = false) (s : FolderState) :
    f.load key s = (f.read s.tree key, s) := by
  rw [load, hkeeps]
  cases f.read s.tree key with
  | ok g => simp [keep, hkeeps]
  | error fault => simp

/-- What a folder that keeps nothing loads for a key: the graph in the file that the key leads to
    inside the folder, as it is or else with the ending, and otherwise the fault that says that
    there is no file. The files outside the folder do not matter. -/
theorem load_resolves (f : Folder) (key : String) (s : FolderState) (hkeeps : f.keeps = false)
    (hkey : f.Admits key) :
    (∀ bytes, f.Gives s.tree key bytes → f.load key s = (graphOfBytes key bytes, s)) ∧
    ((∀ bytes, ¬f.Gives s.tree key bytes) →
      f.load key s = (.error (.source (.absentFile (f.shownPath key) key)), s)) ∧
    ∀ u, f.Agree s.tree u → (f.load key ⟨u, s.kept⟩).1 = (f.load key s).1 := by
  refine ⟨fun bytes hgives => ?_, fun hnone => ?_, fun u hagree => ?_⟩
  · rw [load_of_not_keeps hkeeps, read, readBytes_of_gives hkey hgives]
  · rw [load_of_not_keeps hkeeps, read, readBytes_of_not_gives hkey hnone]
  · rw [load_of_not_keeps hkeeps, load_of_not_keeps hkeeps, read, read,
      readBytes_of_agree hkey hagree]

end Folder

/-! ## Samples -/

namespace Sample

/-- A folder in another one. -/
def folder : Folder :=
  ⟨["srv", "d"], "/srv/d", false⟩

/-- A file in the folder, and one beside it. -/
def folderState : FolderState :=
  ⟨[(["srv", "d", "one.json"], .file [123, 125]), (["srv", "dd"], .file [])], []⟩

/-- Nothing is too long where a key leads that leaves the folder and comes back. -/
theorem admits_returning : folder.Admits "../d/one" := by
  have hcandidates : folder.candidates "../d/one" =
      [["srv", "d", "one"], ["srv", "d", "one.json"]] := by
    decide +kernel
  refine ⟨by decide +kernel, fun l hl _ => ?_⟩
  rw [hcandidates, List.mem_cons, List.mem_singleton] at hl
  obtain rfl | rfl := hl
  · exact ⟨by decide +kernel, by decide +kernel⟩
  · exact ⟨by decide +kernel, by decide +kernel⟩

end Sample

/-- A key that leaves the folder and comes back leads to a file in it, with the ending. -/
theorem Folder.load_resolves_returning :
    Sample.folder.keeps = false ∧ Sample.folder.Admits "../d/one" ∧
    Sample.folder.load "../d/one" Sample.folderState =
      (Folder.graphOfBytes "../d/one" [123, 125], Sample.folderState) := by
  have hgives : Sample.folder.Gives Sample.folderState.tree "../d/one" [123, 125] := by
    have hin : Sample.folder.location <+: ["srv", "d", "one"] := ⟨["one"], rfl⟩
    have hin' : Sample.folder.location <+: ["srv", "d", "one.json"] := ⟨["one.json"], rfl⟩
    exact .completed (Folder.leadsTo_iff.2 (by decide +kernel)) hin (by decide +kernel)
      (by decide +kernel) (Folder.leadsTo_iff.2 (by decide +kernel)) ⟨hin', by decide +kernel⟩
  have hloads := Folder.load_resolves Sample.folder "../d/one" Sample.folderState rfl
    Sample.admits_returning
  exact ⟨rfl, Sample.admits_returning, hloads.1 _ hgives⟩

end DecisionFlow
