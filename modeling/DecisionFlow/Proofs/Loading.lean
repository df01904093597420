import DecisionFlow.Command.Outcome
import DecisionFlow.Proofs.Resolution
import DecisionFlow.Source.Callback
import DecisionFlow.Source.Shelf

set_option autoImplicit false

/-! # How loads fail

Whoever loads a graph is prepared for the faults of sources. A source without graphs, a shelf and a
callback give no others, whatever the callback answers. A folder does: a key for which there can be
no file, names that are too long for any file, and a file that holds no text break a load, and with
it the program. For every other key, and for all other files, its faults are those of sources. These
causes are complete for trees of folders and of files that can be read. -/

namespace DecisionFlow

open Files

/-! ## Reading documents -/

namespace Source

variable {σ : Type} {key : String} {fault : Fault}

/-- Whenever a source fails, its fault is one of sources. -/
def FailsAsSource (source : Source σ) : Prop :=
  ∀ key s fault t, source.load key s = (.error fault, t) → fault.isSourceFault = true

/-- What was found under a key and is no graph is said to be unreadable. -/
theorem accept_unreadable {c : Checked Definition} (h : accept key c = .error fault) :
    ∃ count, fault = .source (.unreadable key count) := by
  cases c with
  | ok g => exact nomatch h
  | bad issues => exact ⟨issues.length, (Except.error.inj h).symm⟩

theorem graphOfBytes_unreadable {bytes : List UInt8} (h : graphOfBytes key bytes = .error fault) :
    ∃ count, fault = .source (.unreadable key count) := by
  unfold graphOfBytes at h
  split at h
  · exact accept_unreadable h
  · exact accept_unreadable h

theorem graphOfDatum_unreadable {j : Json} (h : graphOfDatum key j = .error fault) :
    ∃ count, fault = .source (.unreadable key count) := by
  unfold graphOfDatum at h
  split at h
  · exact accept_unreadable h
  · exact accept_unreadable h

/-- What was found under a key and is no graph is a fault of sources. -/
theorem accept_error {c : Checked Definition} (h : accept key c = .error fault) :
    fault.isSourceFault = true := by
  obtain ⟨count, rfl⟩ := accept_unreadable h
  rfl

end Source

/-! ## Sources in memory -/

section Memory

variable {key : String} {fault : Fault}

/-- A shelf fails at the keys under which there is no graph. -/
theorem Shelf.load_eq_error_iff {s : Shelf} :
    s.load key = .error fault ↔ Fields.get? s key = none ∧ fault = .source (.absent key) := by
  rw [Shelf.load]
  cases Fields.get? s key <;> simp [eq_comm]

theorem Source.shelf_load_eq_error_iff {s t : Shelf} : Source.shelf.load key s = (.error fault, t) ↔
    Fields.get? s key = none ∧ fault = .source (.absent key) ∧ t = s := by
  have hload : Source.shelf.load key s = (s.load key, s) := rfl
  rw [hload, Prod.mk.injEq, Shelf.load_eq_error_iff, and_assoc, eq_comm (a := s)]

/-- Whatever a callback answers, a graph that it does not give is a fault of sources. -/
theorem CallbackAnswer.graph_error {answer : CallbackAnswer}
    (h : answer.graph key = .error fault) : fault.isSourceFault = true := by
  cases answer with
  | datum j =>
    by_cases hnull : j = .null
    · subst hnull
      obtain rfl := Except.error.inj h
      rfl
    · have hgraph : (datum j).graph key = Source.graphOfDatum key j := by
        cases j <;> first | rfl | exact absurd rfl hnull
      obtain ⟨count, rfl⟩ := Source.graphOfDatum_unreadable (hgraph.symm.trans h)
      rfl
  | text s => exact Source.accept_error h
  | bytes bs =>
    obtain ⟨count, rfl⟩ := Source.graphOfBytes_unreadable h
    rfl
  | definition g => exact nomatch h
  | foreign =>
    have haccept : Source.accept key (.problem .notRecord) = .error fault := h
    exact Source.accept_error haccept
  | failed f =>
    -- A fault of sources is passed on as it is, and any other one becomes one here.
    obtain rfl := Except.error.inj h
    split
    · next hsource => exact hsource
    · rfl

end Memory

/-! ## Folders -/

namespace Folder

variable {f : Folder} {t : Tree} {key : String} {fault : Fault} {bytes : List UInt8}

/-- What breaks the load of a key from a folder. -/
inductive Breaks (f : Folder) (t : Tree) (key : String) : Fault → Prop where
  /-- There is a null character in the key. -/
  | impossible : isImpossible key = true → Breaks f t key .impossiblePath
  /-- Something is too long where the search ends. -/
  | tooLong {l : Location} : isImpossible key = false → f.EndsAt t (f.candidates key) l →
    t.isOverlong l = true → Breaks f t key (.nameTooLong l.text)
  /-- The file that the search finds holds no text. -/
  | undecodable {l : Location} {bytes : List UInt8} {u : Text.Utf8Fault} :
    isImpossible key = false → f.EndsAt t (f.candidates key) l → t.isOverlong l = false →
    t.file? l = some bytes → Text.decodeUtf8 bytes = .error u → Breaks f t key (.undecodable u)

/-- What breaks a load is no fault of sources, and the program does not report it. -/
theorem Breaks.not_reported (h : f.Breaks t key fault) :
    fault.isSourceFault = false ∧ fault.title? = none := by
  cases h <;> exact ⟨rfl, rfl⟩

/-- A key that breaks the load breaks the reading. -/
theorem Breaks.read_eq (h : f.Breaks t key fault) : f.read t key = .error fault := by
  cases h with
  | impossible hkey => simp [read, readBytes, hkey]
  | @tooLong l hkey hends hlong =>
    have hfirst : f.firstFile t (f.candidates key) = .error (.nameTooLong l.text) := by
      rw [hends.firstFile_eq]
      simp [firstFile, hends.looks.isInside, hlong]
    simp [read, readBytes, hkey, hfirst]
  | @undecodable l bytes u hkey hends hshort hfile htext =>
    have hfirst : f.firstFile t (f.candidates key) = .ok (some bytes) := by
      rw [hends.firstFile_eq]
      simp [firstFile, hends.looks.isInside, hshort, hfile]
    simp [read, readBytes, hkey, hfirst, graphOfBytes, htext]

/-- A search that ends nowhere says that there is no file. -/
theorem read_of_not_endsAt (hkey : isImpossible key = false)
    (h : ∀ l, ¬f.EndsAt t (f.candidates key) l) :
    f.read t key = .error (.source (.absentFile (f.shownPath key) key)) := by
  simp [read, readBytes, hkey, firstFile_of_not_endsAt h]

/-- Reading fails with what breaks it, or with a fault of sources. -/
theorem read_error (h : f.read t key = .error fault) :
    f.Breaks t key fault ∨ fault.isSourceFault = true := by
  cases hkey : isImpossible key with
  | true =>
    have hbreaks := Breaks.impossible (f := f) (t := t) hkey
    obtain rfl : Fault.impossiblePath = fault := Except.error.inj (hbreaks.read_eq.symm.trans h)
    exact Or.inl hbreaks
  | false =>
    obtain ⟨l, hends, hlong, -⟩ | ⟨l, bytes, hends, hshort, hfile, hfirst⟩ | ⟨hnone, -⟩ :=
      firstFile_cases f t (f.candidates key)
    · have hbreaks := Breaks.tooLong hkey hends hlong
      obtain rfl := Except.error.inj (hbreaks.read_eq.symm.trans h)
      exact Or.inl hbreaks
    · cases htext : Text.decodeUtf8 bytes with
      | error u =>
        have hbreaks := Breaks.undecodable hkey hends hshort hfile htext
        obtain rfl := Except.error.inj (hbreaks.read_eq.symm.trans h)
        exact Or.inl hbreaks
      | ok cs =>
        have hread : f.read t key = Source.graphOfText key (String.ofList cs) := by
          simp [read, readBytes, hkey, hfirst, graphOfBytes, htext]
        exact Or.inr (Source.accept_error (hread.symm.trans h))
    · rw [read_of_not_endsAt hkey hnone] at h
      obtain rfl := Except.error.inj h
      exact Or.inr rfl

/-- A key has to be read from the files: its graph was not kept. -/
def NotKept (f : Folder) (key : String) (s : FolderState) : Prop :=
  f.keeps = true → Fields.get? s.kept key = none

theorem load_of_read_error {s : FolderState} (hkept : f.NotKept key s)
    (h : f.read s.tree key = .error fault) : f.load key s = (.error fault, s) := by
  have hnone : (if f.keeps then Fields.get? s.kept key else none) = none := by
    split
    · rename_i hkeeps
      exact hkept hkeeps
    · rfl
  simp [load, hnone, h]

/-- A load that fails leaves a folder as it is, and fails as the reading does. -/
theorem load_error {s u : FolderState} (h : f.load key s = (.error fault, u)) :
    u = s ∧ f.read s.tree key = .error fault := by
  unfold load at h
  split at h
  · exact absurd h (by simp)
  · cases hread : f.read s.tree key with
    | ok g => simp [hread] at h
    | error e =>
      rw [hread, Prod.mk.injEq, Except.error.injEq] at h
      exact ⟨h.2.symm, by rw [h.1]⟩

end Folder

/-! ## All sources -/

/-- A decision that an engine does not get is a graph that its source does not load, for the same
    reason. -/
theorem State.decisionFor_error {σ : Type} {source : Source σ} {key : String} {s t : State σ}
    {fault : Fault} (h : s.decisionFor source key = (.error fault, t)) :
    source.load key s.store = (.error fault, t.store) := by
  unfold State.decisionFor at h
  split at h
  · exact absurd h (by simp)
  · split at h
    · rename_i e store hload
      obtain ⟨hfault, rfl⟩ := Prod.mk.inj h
      obtain rfl := Except.error.inj hfault
      exact hload
    · exact absurd h (by simp)

/-- The program reports every fault of sources. -/
theorem Fault.title?_of_isSourceFault {fault : Fault} (h : fault.isSourceFault = true) :
    fault.title? = some "DecisionNotFoundError" ∨ fault.title? = some "LoaderError" := by
  cases fault with
  | source c =>
    have htitle : (Fault.source c).title? =
        some (if c.isAbsence then "DecisionNotFoundError" else "LoaderError") := rfl
    rw [htitle]
    cases c.isAbsence
    · exact Or.inr rfl
    · exact Or.inl rfl
  | _ => exact absurd h Bool.false_ne_true

/-- How loads fail. The source without graphs refuses every key, a shelf misses the keys that are
    not on it, and a callback fails with faults of sources only, with absence when it answers
    nothing. A folder fails with a fault of sources or because something breaks the load, which
    nothing that was to load the graph is prepared for; where nothing is found it says so. An
    engine passes on the fault of its source, and the program reports those of sources. -/
theorem Source.load_faults (σ : Type) :
    (∀ key s, Source.empty.load key s = (.error (.source (.refused "NoopLoader" key)), s)) ∧
    (∀ key s fault t, Source.shelf.load key s = (.error fault, t) ↔
      Fields.get? s key = none ∧ fault = .source (.absent key) ∧ t = s) ∧
    (∀ answer, (Source.callback answer).FailsAsSource ∧ ∀ key calls,
      answer key = .datum .null →
        (Source.callback answer).load key calls = (.error (.source (.absent key)), calls + 1)) ∧
    (∀ f key s fault t, (Source.folder f).load key s = (.error fault, t) →
      t = s ∧ (fault.isSourceFault = true ∨ f.Breaks s.tree key fault)) ∧
    (∀ (f : Folder) key s, f.NotKept key s →
      (∀ fault, f.Breaks s.tree key fault → (Source.folder f).load key s = (.error fault, s) ∧
        fault.isSourceFault = false ∧ fault.title? = none) ∧
      (isImpossible key = false → (∀ l, ¬f.EndsAt s.tree (f.candidates key) l) →
        (Source.folder f).load key s =
          (.error (.source (.absentFile (f.shownPath key) key)), s))) ∧
    (∀ (source : Source σ) key s fault t, State.decisionFor source key s = (.error fault, t) →
      source.load key s.store = (.error fault, t.store)) ∧
    ∀ fault : Fault, fault.isSourceFault = true →
      fault.title? = some "DecisionNotFoundError" ∨ fault.title? = some "LoaderError" := by
  refine ⟨fun key s => rfl, fun key s fault t => shelf_load_eq_error_iff, fun answer => ⟨?_, ?_⟩,
    ?_, fun f key s hkept => ⟨?_, ?_⟩, fun source key s fault t => State.decisionFor_error,
    fun fault => Fault.title?_of_isSourceFault⟩
  · intro key calls fault t h
    exact CallbackAnswer.graph_error (Prod.mk.inj h).1
  · intro key calls hnull
    simp [Source.callback, hnull, CallbackAnswer.graph]
  · intro f key s fault t h
    obtain ⟨rfl, hread⟩ := Folder.load_error h
    exact ⟨rfl, (Folder.read_error hread).symm⟩
  · intro fault hbreaks
    exact ⟨Folder.load_of_read_error hkept hbreaks.read_eq, hbreaks.not_reported⟩
  · intro hkey hnone
    exact Folder.load_of_read_error hkept (Folder.read_of_not_endsAt hkey hnone)

/-- A folder with a file that holds no text does not fail as a source should. -/
theorem Source.folder_not_failsAsSource :
    let s : FolderState := ⟨[(["srv", "d", "torn.json"], .file [255])], []⟩
    (Source.folder Sample.folder).load "torn" s = (.error (.undecodable (.badStart 255 0)), s) ∧
    ¬(Source.folder Sample.folder).FailsAsSource := by
  intro s
  have hload : (Source.folder Sample.folder).load "torn" s =
      (.error (.undecodable (.badStart 255 0)), s) := by
    rfl
  exact ⟨hload, fun h => absurd (h _ _ _ _ hload) Bool.false_ne_true⟩

end DecisionFlow
