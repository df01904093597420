import DecisionFlow.Proofs.Loading
import Mathlib.Data.List.Induction

set_option autoImplicit false

/-! # What a folder remembers

A folder that keeps what it has read remembers, for every key, the graph of the first load of the
key that succeeded. The files may change at any time, whatever the change is: it does not matter to
a key that is remembered, and a key that is not is read from the files as they are. Keys are
remembered each for itself, also those that lead to one file. A folder that keeps nothing always
reads the files as they are. -/

namespace DecisionFlow

open Files

namespace Folder

/-! ## Histories -/

/-- What happens to a folder. -/
inductive Event where
  /-- The graph of a key is loaded. -/
  | load (key : String)
  /-- The files change, in any way. -/
  | change (c : Tree → Tree)

namespace Event

/-- A file is written, unless there is a folder. -/
def write (l : Location) (bytes : List UInt8) : Event :=
  .change fun t => if t.isFolder l then t else t.put l (.file bytes)

/-- A file is removed, if there is one. -/
def unlink (l : Location) : Event :=
  .change fun t => if (t.file? l).isSome then t.remove l else t

/-- A folder is made, unless there is something. -/
def makeFolder (l : Location) : Event :=
  .change fun t => if (t.lookup? l).isSome then t else t.put l .folder

/-- The files after an event. Loads do not change them. -/
def tree : Event → Tree → Tree
  | .load _, t => t
  | .change c, t => c t

/-- Whether an event may matter to a key: loads of other keys do not. -/
def concerns (key : String) : Event → Bool
  | .load other => other = key
  | .change _ => true

end Event

/-- The files after a history. -/
def treeAfter (t : Tree) (history : List Event) : Tree :=
  history.foldl (fun t e => e.tree t) t

/-- The state of a folder after an event. -/
def after (f : Folder) (s : FolderState) : Event → FolderState
  | .load key => (f.load key s).2
  | .change c => { s with tree := c s.tree }

/-- The state of a folder after a history. -/
def run (f : Folder) (s : FolderState) (history : List Event) : FolderState :=
  history.foldl f.after s

/-- What a folder gives for a key of which it remembers nothing. -/
def fresh (f : Folder) (t : Tree) (key : String) : Except Fault Definition :=
  (f.load key ⟨t, []⟩).1

section

variable (f : Folder) (t : Tree) (history : List Event) (key : String)

/-- No load of a key has succeeded in a history that starts with nothing remembered. -/
def NeverLoads : Prop :=
  ∀ before, before ++ [.load key] <+: history →
    ∀ g, (f.load key (f.run ⟨t, []⟩ before)).1 ≠ .ok g

/-- In a history that starts with nothing remembered, the first load of a key that succeeds comes
    after some of the events and gives a graph. -/
structure FirstLoad (before : List Event) (g : Definition) : Prop where
  /-- The key is loaded after these events. -/
  comes : before ++ [.load key] <+: history
  /-- The load gives the graph. -/
  gives : (f.load key (f.run ⟨t, []⟩ before)).1 = .ok g
  /-- No earlier load of the key has succeeded. -/
  never : f.NeverLoads t before key

end

variable {f : Folder} {t : Tree} {history before : List Event} {key other : String} {g : Definition}
  {s s' : FolderState} {e : Event}

@[simp] theorem run_nil (f : Folder) (s : FolderState) : f.run s [] = s := rfl

theorem run_append (f : Folder) (s : FolderState) (history later : List Event) :
    f.run s (history ++ later) = f.run (f.run s history) later :=
  List.foldl_append

/-! ## One load -/

/-- Loads do not change the files. -/
theorem tree_load (f : Folder) (key : String) (s : FolderState) :
    (f.load key s).2.tree = s.tree := by
  unfold load
  split
  · rfl
  · cases f.read s.tree key with
    | ok g =>
      dsimp only [keep]
      split <;> rfl
    | error fault => rfl

theorem tree_after (f : Folder) (s : FolderState) (e : Event) :
    (f.after s e).tree = e.tree s.tree := by
  cases e with
  | load key => exact tree_load f key s
  | change c => rfl

theorem tree_run (f : Folder) (s : FolderState) (history : List Event) :
    (f.run s history).tree = treeAfter s.tree history := by
  induction history generalizing s with
  | nil => rfl
  | cons e history ih =>
    have hrun := ih (f.after s e)
    rw [tree_after] at hrun
    exact hrun

theorem fresh_eq (f : Folder) (t : Tree) (key : String) : f.fresh t key = f.read t key := by
  cases hread : f.read t key <;> simp [fresh, load, hread]

/-- A remembered graph is given again. -/
theorem load_of_kept (hkeeps : f.keeps = true) (h : Fields.get? s.kept key = some g) :
    f.load key s = (.ok g, s) := by
  simp [load, hkeeps, h]

/-- For a key of which nothing is remembered the folder gives what a fresh one does. -/
theorem load_of_not_kept (h : Fields.get? s.kept key = none) :
    (f.load key s).1 = f.fresh s.tree key := by
  rw [fresh_eq, load]
  cases f.read s.tree key <;> simp [h]

/-- What is remembered of a key once a key has been loaded. -/
theorem get?_kept_load (hkeeps : f.keeps = true) :
    Fields.get? (f.load other s).2.kept key = some g ↔
      Fields.get? s.kept key = some g ∨
        Fields.get? s.kept key = none ∧ other = key ∧ (f.load key s).1 = .ok g := by
  cases hkept : Fields.get? s.kept other with
  | some k =>
    rw [load_of_kept hkeeps hkept]
    refine ⟨Or.inl, fun h => h.resolve_right ?_⟩
    rintro ⟨hnone, rfl, -⟩
    simp [hnone] at hkept
  | none =>
    cases hread : f.read s.tree other with
    | error fault =>
      rw [load_of_read_error (fun _ => hkept) hread]
      refine ⟨Or.inl, fun h => h.resolve_right ?_⟩
      rintro ⟨-, rfl, hload⟩
      simp [load_of_read_error (fun _ => hkept) hread] at hload
    | ok k =>
      have hload : f.load other s = (.ok k, ⟨s.tree, Fields.put s.kept other k⟩) := by
        simp [load, hkept, hread, keep, hkeeps]
      rw [hload, Fields.get?_put]
      by_cases hkey : key = other
      · subst hkey
        simp [hkept, hload]
      · simp [hkey, Ne.symm hkey]

theorem get?_kept_load_eq_none_iff (hkeeps : f.keeps = true) :
    Fields.get? (f.load other s).2.kept key = none ↔
      Fields.get? s.kept key = none ∧ (other = key → ∀ g, (f.load key s).1 ≠ .ok g) := by
  simp only [Option.eq_none_iff_forall_ne_some, ne_eq, get?_kept_load hkeeps]
  grind

/-! ## The first load -/

theorem neverLoads_concat_iff : f.NeverLoads t (history ++ [e]) key ↔
    f.NeverLoads t history key ∧
      (e = .load key → ∀ g, (f.load key (f.run ⟨t, []⟩ history)).1 ≠ .ok g) := by
  simp only [NeverLoads, List.prefix_concat_iff]
  constructor
  · refine fun h => ⟨fun before hbefore => h before (.inr hbefore), ?_⟩
    rintro rfl
    exact h history (.inl rfl)
  · rintro ⟨h, hlast⟩ before (hbefore | hbefore)
    · obtain ⟨rfl, he⟩ := List.append_inj' hbefore rfl
      exact hlast (List.singleton_inj.1 he).symm
    · exact h before hbefore

theorem neverLoads_of_not_mem (h : .load key ∉ history) : f.NeverLoads t history key :=
  fun _ hbefore => absurd (hbefore.subset (List.mem_append_right _ (List.mem_singleton_self _))) h

theorem firstLoad_concat_iff : f.FirstLoad t (history ++ [e]) key before g ↔
    f.FirstLoad t history key before g ∨
      before = history ∧ f.NeverLoads t history key ∧ e = .load key ∧
        (f.load key (f.run ⟨t, []⟩ history)).1 = .ok g := by
  constructor
  · intro h
    obtain hlast | hbefore := List.prefix_concat_iff.1 h.comes
    · obtain ⟨rfl, he⟩ := List.append_inj' hlast rfl
      exact .inr ⟨rfl, h.never, (List.singleton_inj.1 he).symm, h.gives⟩
    · exact .inl ⟨hbefore, h.gives, h.never⟩
  · rintro (h | ⟨rfl, hnever, rfl, hgives⟩)
    · exact ⟨h.comes.trans (List.prefix_append _ _), h.gives, h.never⟩
    · exact ⟨List.prefix_rfl, hgives, hnever⟩

theorem FirstLoad.append (h : f.FirstLoad t history key before g) (later : List Event) :
    f.FirstLoad t (history ++ later) key before g :=
  ⟨h.comes.trans (List.prefix_append _ _), h.gives, h.never⟩

/-- A folder that keeps graphs remembers those of the first loads that succeeded, and no others. -/
theorem kept_run (hkeeps : f.keeps = true) (t : Tree) (history : List Event) (key : String) :
    (Fields.get? (f.run ⟨t, []⟩ history).kept key = none ↔ f.NeverLoads t history key) ∧
    ∀ g, Fields.get? (f.run ⟨t, []⟩ history).kept key = some g ↔
      ∃ before, f.FirstLoad t history key before g := by
  induction history using List.reverseRecOn with
  | nil =>
    have hnever : f.NeverLoads t [] key := fun before h => by simp at h
    refine ⟨iff_of_true rfl hnever, fun g => iff_of_false nofun ?_⟩
    rintro ⟨before, h⟩
    simpa using h.comes
  | append_singleton history e ih =>
    obtain ⟨hnone, hsome⟩ := ih
    have hrun : f.run ⟨t, []⟩ (history ++ [e]) = f.after (f.run ⟨t, []⟩ history) e :=
      run_append f _ history [e]
    have hsome' (g : Definition) : Fields.get? (f.run ⟨t, []⟩ (history ++ [e])).kept key = some g ↔
        ∃ before, f.FirstLoad t (history ++ [e]) key before g := by
      simp only [firstLoad_concat_iff, exists_or, exists_eq_left, ← hnone, ← hsome, hrun]
      cases e with
      | load other => simp [after, get?_kept_load hkeeps]
      | change c => simp [after]
    refine ⟨?_, hsome'⟩
    rw [neverLoads_concat_iff, ← hnone, hrun]
    cases e with
    | load other => simp [after, get?_kept_load_eq_none_iff hkeeps]
    | change c => simp [after]

/-! ## One key among others -/

/-- Two states with the same files, in which the same is remembered of a key. -/
structure SameFor (key : String) (s s' : FolderState) : Prop where
  /-- The files are the same. -/
  tree : s.tree = s'.tree
  /-- What is remembered of the key is the same. -/
  kept : Fields.get? s.kept key = Fields.get? s'.kept key

theorem SameFor.trans {s'' : FolderState} (h : SameFor key s s') (h' : SameFor key s' s'') :
    SameFor key s s'' :=
  ⟨h.tree.trans h'.tree, h.kept.trans h'.kept⟩

/-- Where the same is remembered of a key, it loads alike, and the same is remembered then. -/
theorem SameFor.load (h : SameFor key s s') :
    (f.load key s).1 = (f.load key s').1 ∧ SameFor key (f.load key s).2 (f.load key s').2 := by
  rw [Folder.load, Folder.load, h.tree, h.kept]
  cases if f.keeps then Fields.get? s'.kept key else none with
  | some g => exact ⟨rfl, h⟩
  | none =>
    cases f.read s'.tree key with
    | error fault => exact ⟨rfl, h⟩
    | ok g =>
      refine ⟨rfl, ?_⟩
      dsimp only [keep]
      split
      · exact ⟨h.tree, by simp [Fields.get?_put_self]⟩
      · exact h

/-- A load of another key leaves what matters to a key as it is. -/
theorem sameFor_load_of_ne (f : Folder) (h : other ≠ key) (s : FolderState) :
    SameFor key (f.load other s).2 s := by
  refine ⟨tree_load f other s, ?_⟩
  unfold Folder.load
  split
  · rfl
  · cases f.read s.tree other with
    | error fault => rfl
    | ok g =>
      dsimp only [keep]
      split
      · exact Fields.get?_put_of_ne (Ne.symm h) _ _
      · rfl

/-- The loads of other keys may be left out. -/
theorem SameFor.run_filter (h : SameFor key s s') (f : Folder) (history : List Event) :
    SameFor key (f.run s history) (f.run s' (history.filter (Event.concerns key))) := by
  induction history generalizing s s' with
  | nil => exact h
  | cons e history ih =>
    cases e with
    | change c => exact ih ⟨congrArg c h.tree, h.kept⟩
    | load other =>
      by_cases hkey : other = key
      · subst hkey
        rw [List.filter_cons_of_pos (by simp [Event.concerns])]
        exact ih h.load.2
      · rw [List.filter_cons_of_neg (by simp [Event.concerns, hkey])]
        exact ih ((sameFor_load_of_ne f hkey s).trans h)

/-! ## All histories -/

/-- A fresh folder reads the files. Loads do not change them, and a load that fails changes nothing
    at all, so that all later loads are as if it had not been; and what a key loads does not depend
    on the loads of other keys. When a folder keeps graphs, the first load of a key that succeeds
    gives what a fresh folder would give then, every later load of the key gives the same graph
    again, whatever has happened since, and before it the key loads as from a fresh folder; what is
    remembered are the graphs of these first loads. When a folder keeps nothing, every key loads as
    from a fresh folder. -/
theorem load_run (f : Folder) (t : Tree) (history : List Event) :
    let s := f.run ⟨t, []⟩ history
    (∀ u key, f.fresh u key = f.read u key) ∧
    s.tree = treeAfter t history ∧
    (∀ key fault, (f.load key s).1 = .error fault → (f.load key s).2 = s ∧
      ∀ later, f.run ⟨t, []⟩ (history ++ .load key :: later) = f.run ⟨t, []⟩ (history ++ later)) ∧
    (∀ key, (f.load key s).1 =
      (f.load key (f.run ⟨t, []⟩ (history.filter (Event.concerns key)))).1) ∧
    (f.keeps = true →
      (∀ key before g, f.FirstLoad t history key before g →
        f.fresh (treeAfter t before) key = .ok g ∧
          ∀ later, f.load key (f.run s later) = (.ok g, f.run s later)) ∧
      (∀ key, f.NeverLoads t history key → (f.load key s).1 = f.fresh (treeAfter t history) key) ∧
      (∀ key, f.NeverLoads t history key ∨ ∃ before g, f.FirstLoad t history key before g) ∧
      ∀ key g, Fields.get? s.kept key = some g ↔ ∃ before, f.FirstLoad t history key before g) ∧
    (f.keeps = false → ∀ key, f.load key s = (f.fresh (treeAfter t history) key, s)) := by
  intro s
  have htree (history : List Event) : (f.run ⟨t, []⟩ history).tree = treeAfter t history :=
    tree_run f ⟨t, []⟩ history
  have hfresh (hkeeps : f.keeps = true) (history : List Event) (key : String)
      (hnever : f.NeverLoads t history key) :
      (f.load key (f.run ⟨t, []⟩ history)).1 = f.fresh (treeAfter t history) key := by
    rw [← htree]
    exact load_of_not_kept ((kept_run hkeeps t history key).1.2 hnever)
  refine ⟨f.fresh_eq, htree history, fun key fault hload => ?_, fun key => ?_,
    fun hkeeps => ⟨?_, ?_, ?_, ?_⟩, fun hkeeps key => ?_⟩
  · have hstate : (f.load key s).2 = s := (load_error (Prod.ext hload rfl)).1
    refine ⟨hstate, fun later => ?_⟩
    rw [run_append, run_append]
    exact congrArg (fun u => f.run u later) hstate
  · have hsame : SameFor key (⟨t, []⟩ : FolderState) ⟨t, []⟩ := ⟨rfl, rfl⟩
    exact (hsame.run_filter f history).load.1
  · intro key before g h
    constructor
    · rw [← hfresh hkeeps before key h.never]
      exact h.gives
    · intro later
      rw [← run_append]
      exact load_of_kept hkeeps
        (((kept_run hkeeps t (history ++ later) key).2 g).2 ⟨before, h.append later⟩)
  · exact fun key hnever => hfresh hkeeps history key hnever
  · intro key
    obtain ⟨hnone, hsome⟩ := kept_run hkeeps t history key
    cases hkept : Fields.get? s.kept key with
    | none => exact .inl (hnone.1 hkept)
    | some g =>
      obtain ⟨before, h⟩ := (hsome g).1 hkept
      exact .inr ⟨before, g, h⟩
  · exact fun key g => (kept_run hkeeps t history key).2 g
  · rw [load_of_not_keeps hkeeps, fresh_eq, htree]

end Folder

/-! ## Samples -/

/-- A folder that keeps graphs. -/
def Sample.keepingFolder : Folder :=
  { Sample.folder with keeps := true }

/-- A file is loaded under one key, written anew, loaded under another key, and removed. -/
def Sample.rewriting : List Folder.Event :=
  [.load "one",
    .write ["srv", "d", "one.json"] [123, 34, 105, 100, 34, 58, 34, 98, 34, 125],
    .load "one.json", .unlink ["srv", "d", "one.json"], .makeFolder ["srv", "d", "one"]]

/-- Both keys of the file are remembered, each with what the file held when it was loaded first. A
    folder that keeps nothing misses the file in the end. -/
theorem Folder.load_run_rewriting :
    let t := Sample.folderState.tree
    let s := Sample.keepingFolder.run ⟨t, []⟩ Sample.rewriting
    let s' := Sample.folder.run ⟨t, []⟩ Sample.rewriting
    (Sample.keepingFolder.keeps = true ∧
      Sample.keepingFolder.FirstLoad t Sample.rewriting "one" [] ⟨"", "", none, [], []⟩ ∧
      Sample.keepingFolder.load "one" s = (.ok ⟨"", "", none, [], []⟩, s) ∧
      ∃ g, Sample.keepingFolder.load "one.json" s = (.ok g, s) ∧ g.id = "b") ∧
    Sample.folder.keeps = false ∧
      Sample.folder.load "one" s' = (.error (.source (.absentFile "/srv/d/one" "one")), s') := by
  have hfirst : Sample.keepingFolder.FirstLoad Sample.folderState.tree Sample.rewriting "one" []
      ⟨"", "", none, [], []⟩ :=
    ⟨⟨_, rfl⟩, by rfl, neverLoads_of_not_mem (by simp)⟩
  -- The second key is loaded once the file has been written anew.
  obtain ⟨g, hg, hid⟩ : ∃ g, (Sample.keepingFolder.load "one.json" (Sample.keepingFolder.run
      ⟨Sample.folderState.tree, []⟩ (Sample.rewriting.take 2))).1 = .ok g ∧ g.id = "b" := by
    have hread : (Sample.keepingFolder.load "one.json" (Sample.keepingFolder.run
        ⟨Sample.folderState.tree, []⟩ (Sample.rewriting.take 2))).1.toOption.map Definition.id =
          some "b" := by
      decide +kernel
    revert hread
    generalize (Sample.keepingFolder.load "one.json" _).1 = result
    cases result <;> simp [Except.toOption]
  have hsecond : Sample.keepingFolder.FirstLoad Sample.folderState.tree Sample.rewriting "one.json"
      (Sample.rewriting.take 2) g :=
    ⟨⟨_, rfl⟩, hg, neverLoads_of_not_mem (by simp [Sample.rewriting, Event.write])⟩
  obtain ⟨-, -, -, -, hkeeps, -⟩ :=
    load_run Sample.keepingFolder Sample.folderState.tree Sample.rewriting
  obtain ⟨-, -, -, -, -, hforgets⟩ :=
    load_run Sample.folder Sample.folderState.tree Sample.rewriting
  have hone := ((hkeeps rfl).1 _ _ _ hfirst).2 []
  have htwo := ((hkeeps rfl).1 _ _ _ hsecond).2 []
  rw [run_nil] at hone htwo
  refine ⟨⟨rfl, hfirst, hone, g, htwo, hid⟩, rfl, ?_⟩
  rw [hforgets rfl "one"]
  rfl

end DecisionFlow
