import DecisionFlow.Proofs.LastElements
import DecisionFlow.Proofs.Loading

set_option autoImplicit false

/-! # What stands on a shelf

A shelf is used step by step: graphs are added and removed, its keys are listed, and graphs are
loaded. What it holds in the end is decided, key by key, by the last step that adds a graph under
the key or removes it, and the keys stand in the order in which they came on the shelf. An offer
that is no graph changes nothing. -/

namespace DecisionFlow

namespace Shelf

/-! ## Steps -/

/-- What may be offered as a graph. -/
inductive Offer where
  /-- A graph. -/
  | definition (g : Definition)
  /-- A datum; a text is read as a document. -/
  | datum (j : Json)
  /-- The bytes of a document. -/
  | bytes (bs : List UInt8)

/-- The graph that is offered under a key, or the fault when it is none. -/
def Offer.graph (key : String) : Offer → Except Fault Definition
  | .definition g => .ok g
  | .datum j => Source.graphOfDatum key j
  | .bytes bs => Source.graphOfBytes key bs

/-- What may be done with a shelf. -/
inductive Step where
  /-- A graph is added under a key. -/
  | add (key : String) (offer : Offer)
  /-- A key is removed. -/
  | remove (key : String)
  /-- The keys are listed. -/
  | keys
  /-- The graph of a key is loaded. -/
  | load (key : String)

/-- What a step gives. -/
inductive Answer where
  /-- Nothing. -/
  | done
  /-- Whether there was something to remove. -/
  | found (present : Bool)
  /-- Keys. -/
  | keys (keys : List String)
  /-- A graph. -/
  | graph (g : Definition)
  /-- A fault. -/
  | failed (fault : Fault)

/-- Takes a step; one that fails leaves the shelf as it is. -/
def step (s : Shelf) : Step → Answer × Shelf
  | .add key offer =>
    match s.add key (offer.graph key) with
    | .ok s' => (.done, s')
    | .error fault => (.failed fault, s)
  | .remove key => (.found (s.remove key).1, (s.remove key).2)
  | .keys => (.keys (Fields.keys s), s)
  | .load key =>
    match s.load key with
    | .ok g => (.graph g, s)
    | .error fault => (.failed fault, s)

/-- The shelf after a history, which starts with nothing on it. -/
def run (history : List Step) : Shelf :=
  history.foldl (fun s st => (s.step st).2) []

theorem run_concat (history : List Step) (st : Step) :
    run (history ++ [st]) = ((run history).step st).2 := by
  simp [run]

/-! ## What decides about a key -/

/-- A step puts a graph under a key: it adds the graph. -/
def Step.Puts (key : String) (g : Definition) (st : Step) : Prop :=
  ∃ offer, st = .add key offer ∧ offer.graph key = .ok g

/-- A step decides about a key: it puts a graph under it or removes it. -/
def Step.Decides (key : String) (st : Step) : Prop :=
  st = .remove key ∨ ∃ g, st.Puts key g

/-- A graph stands under a key: the last step that decides about the key has put it there. -/
def Stands (history : List Step) (key : String) (g : Definition) : Prop :=
  ∃ st, IsLast (Step.Decides key) history st ∧ st.Puts key g

/-- A key has come on the shelf after some of the steps: then a graph is put under it, while none
    stands there, and the key is not removed any more. -/
def Arrives (history : List Step) (key : String) (before : List Step) : Prop :=
  ∃ st after, history = before ++ st :: after ∧ (∃ g, st.Puts key g) ∧ .remove key ∉ after ∧
    ∀ g, ¬Stands before key g

variable {s : Shelf} {history before : List Step} {st : Step} {key : String} {g : Definition}
  {fault : Fault}

theorem step_add_of_ok {offer : Offer} (h : offer.graph key = .ok g) :
    s.step (.add key offer) = (.done, Fields.put s key g) := by
  simp [step, add, h, Except.map]

theorem step_add_of_error {offer : Offer} (h : offer.graph key = .error fault) :
    s.step (.add key offer) = (.failed fault, s) := by
  simp [step, add, h, Except.map]

/-- A step puts a graph on the shelf, removes a key, or leaves the shelf as it is. -/
theorem step_cases (s : Shelf) (st : Step) :
    (∃ key g, st.Puts key g ∧ s.step st = (.done, Fields.put s key g)) ∨
    (∃ key, st = .remove key ∧ s.step st = (.found (Fields.has s key), Fields.erase s key)) ∨
    (∀ key, ¬st.Decides key) ∧ (s.step st).2 = s := by
  cases st with
  | add key offer =>
    cases hgraph : offer.graph key with
    | ok g => exact .inl ⟨key, g, ⟨offer, rfl, hgraph⟩, step_add_of_ok hgraph⟩
    | error fault =>
      refine .inr (.inr ⟨?_, by rw [step_add_of_error hgraph]⟩)
      rintro other (h | ⟨g, offer', h, hg⟩)
      · exact nomatch h
      · cases h
        simp [hgraph] at hg
  | remove key => exact .inr (.inl ⟨key, rfl, rfl⟩)
  | keys => exact .inr (.inr ⟨by simp [Step.Decides, Step.Puts], rfl⟩)
  | load key =>
    refine .inr (.inr ⟨by simp [Step.Decides, Step.Puts], ?_⟩)
    rw [step]
    cases s.load key <;> rfl

theorem Step.Puts.unique {other : String} {k : Definition} (h : st.Puts key g)
    (h' : st.Puts other k) : other = key ∧ k = g := by
  obtain ⟨offer, rfl, hg⟩ := h
  obtain ⟨offer', heq, hk⟩ := h'
  cases heq
  exact ⟨rfl, Except.ok.inj (hk.symm.trans hg)⟩

theorem Step.Puts.ne_remove (h : st.Puts key g) (other : String) : st ≠ .remove other := by
  obtain ⟨offer, rfl, -⟩ := h
  exact nofun

/-- What stands under a key after one more step. -/
theorem get?_step (s : Shelf) (st : Step) (key : String) (g : Definition) :
    Fields.get? (s.step st).2 key = some g ↔
      st.Puts key g ∨ ¬st.Decides key ∧ Fields.get? s key = some g := by
  obtain ⟨other, k, hputs, hstep⟩ | ⟨other, rfl, hstep⟩ | ⟨hnone, hstep⟩ := step_cases s st
  · rw [hstep, Fields.get?_put]
    by_cases hkey : key = other
    · subst hkey
      have hdecides : st.Decides key := .inr ⟨k, hputs⟩
      simp only [if_true, Option.some.injEq, hdecides, not_true, false_and, or_false]
      exact ⟨(· ▸ hputs), fun h => (h.unique hputs).2⟩
    · have hputs' (k' : Definition) : ¬st.Puts key k' := fun h => hkey (hputs.unique h).1
      simp [hkey, hputs', Step.Decides, hputs.ne_remove key]
  · rw [hstep, Fields.get?_erase]
    by_cases hkey : key = other
    · simp [hkey, Step.Decides, Step.Puts]
    · simp [hkey, Step.Decides, Step.Puts, Ne.symm hkey]
  · have hputs : ¬st.Puts key g := fun h => hnone key (.inr ⟨g, h⟩)
    simp [hstep, hputs, hnone key]

theorem stands_concat_iff : Stands (history ++ [st]) key g ↔
    st.Puts key g ∨ ¬st.Decides key ∧ Stands history key g := by
  unfold Stands
  simp only [isLast_concat_iff]
  constructor
  · rintro ⟨last, ⟨-, rfl⟩ | ⟨hnot, hlast⟩, hputs⟩
    · exact .inl hputs
    · exact .inr ⟨hnot, last, hlast, hputs⟩
  · rintro (hputs | ⟨hnot, last, hlast, hputs⟩)
    · exact ⟨st, .inl ⟨.inr ⟨g, hputs⟩, rfl⟩, hputs⟩
    · exact ⟨last, .inr ⟨hnot, hlast⟩, hputs⟩

/-- A shelf holds the graphs that stand under keys, and no others. -/
theorem get?_run (history : List Step) (key : String) (g : Definition) :
    Fields.get? (run history) key = some g ↔ Stands history key g := by
  induction history using List.reverseRecOn with
  | nil => simp [run, Stands, not_isLast_nil]
  | append_singleton history st ih => rw [run_concat, get?_step, stands_concat_iff, ih]

theorem mem_keys_run (history : List Step) (key : String) :
    key ∈ Fields.keys (run history) ↔ ∃ g, Stands history key g := by
  rw [Fields.mem_keys_iff_has, Fields.has, Option.isSome_iff_exists]
  simp only [get?_run]

/-! ## How keys come on a shelf -/

theorem arrives_concat_iff : Arrives (history ++ [st]) key before ↔
    Arrives history key before ∧ st ≠ .remove key ∨
    before = history ∧ (∃ g, st.Puts key g) ∧ ∀ g, ¬Stands history key g := by
  constructor
  · rintro ⟨first, after, hhistory, hputs, hafter, hnone⟩
    obtain ⟨rfl, rfl, rfl⟩ | ⟨rest, rfl, rfl⟩ := concat_eq_append_cons_iff.1 hhistory
    · exact .inr ⟨rfl, hputs, hnone⟩
    · rw [List.mem_append, List.mem_singleton, not_or] at hafter
      exact .inl ⟨⟨first, rest, rfl, hputs, hafter.1, hnone⟩, Ne.symm hafter.2⟩
  · rintro (⟨⟨first, after, rfl, hputs, hafter, hnone⟩, hne⟩ | ⟨rfl, hputs, hnone⟩)
    · exact ⟨first, after ++ [st], by simp, hputs, by simp [hafter, Ne.symm hne], hnone⟩
    · exact ⟨st, [], rfl, hputs, by simp, hnone⟩

theorem Arrives.length_lt (h : Arrives history key before) : before.length < history.length := by
  obtain ⟨st, after, rfl, -⟩ := h
  simp

/-- Something stands under the keys that have come on the shelf. -/
theorem exists_arrives_iff :
    (∃ before, Arrives history key before) ↔ ∃ g, Stands history key g := by
  induction history using List.reverseRecOn with
  | nil => simp [Arrives, Stands, not_isLast_nil]
  | append_singleton history st ih =>
    have hputs (g : Definition) : st.Puts key g → st ≠ .remove key := fun h => h.ne_remove key
    simp only [arrives_concat_iff, stands_concat_iff, Step.Decides]
    grind

/-- Of two keys the first has come on the shelf earlier. -/
def Precedes (history : List Step) (key other : String) : Prop :=
  ∀ before before', Arrives history key before → Arrives history other before' →
    before.length < before'.length

/-- A key that is there has come on the shelf before the next step. -/
theorem Arrives.of_concat (h : Arrives (history ++ [st]) key before)
    (hkey : key ∈ Fields.keys (run history)) : Arrives history key before := by
  obtain ⟨h, -⟩ | ⟨-, -, hnone⟩ := arrives_concat_iff.1 h
  · exact h
  · obtain ⟨g, hg⟩ := (mem_keys_run history key).1 hkey
    exact absurd hg (hnone g)

/-- The keys stand in the order in which they have come on the shelf. -/
theorem keys_run_pairwise (history : List Step) :
    (Fields.keys (run history)).Pairwise (Precedes history) := by
  induction history using List.reverseRecOn with
  | nil => simp [run, Fields.keys]
  | append_singleton history st ih =>
    have hold : (Fields.keys (run history)).Pairwise (Precedes (history ++ [st])) :=
      ih.imp_of_mem fun hk hk' h before before' harrives harrives' =>
        h before before' (harrives.of_concat hk) (harrives'.of_concat hk')
    rw [run_concat]
    obtain ⟨key, g, hputs, hstep⟩ | ⟨key, rfl, hstep⟩ | ⟨-, hstep⟩ := step_cases (run history) st
    · rw [hstep, Fields.keys_put]
      split
      · exact hold
      · next hnew =>
        -- The new key comes after the whole history, and the others have come during it.
        refine List.pairwise_append.2 ⟨hold, List.pairwise_singleton _ _, ?_⟩
        intro old hmem other hother before before' harrives harrives'
        obtain rfl := List.mem_singleton.1 hother
        obtain ⟨h, -⟩ | ⟨rfl, -⟩ := arrives_concat_iff.1 harrives'
        · exact absurd ((mem_keys_run history other).2 (exists_arrives_iff.1 ⟨before', h⟩)) hnew
        · exact (harrives.of_concat hmem).length_lt
    · rw [hstep, Fields.keys_erase]
      exact hold.filter _
    · rw [hstep]
      exact hold

theorem nodup_keys_run (history : List Step) : (Fields.keys (run history)).Nodup := by
  induction history using List.reverseRecOn with
  | nil => simp [run, Fields.keys]
  | append_singleton history st ih =>
    rw [run_concat]
    obtain ⟨key, g, -, hstep⟩ | ⟨key, -, hstep⟩ | ⟨-, hstep⟩ := step_cases (run history) st
    · rw [hstep]
      exact Fields.nodup_keys_put ih key g
    · rw [hstep, Fields.keys_erase]
      exact ih.filter _
    · rw [hstep]
      exact ih

/-! ## Answers -/

/-- An offer that is no graph is said to be unreadable. -/
theorem Offer.graph_error {offer : Offer} (h : offer.graph key = .error fault) :
    ∃ count, fault = .source (.unreadable key count) := by
  cases offer with
  | definition g => exact nomatch h
  | datum j => exact Source.graphOfDatum_unreadable h
  | bytes bs => exact Source.graphOfBytes_unreadable h

theorem load_eq_ok_iff : s.load key = .ok g ↔ Fields.get? s key = some g := by
  rw [load]
  cases Fields.get? s key <;> simp

/-- A shelf is an ordered map that no failure changes. Its keys are distinct; they are those that
    have come on the shelf and were not removed since, in the order in which they have come. A key
    loads the graph that was put under it last and was not removed since; when there is none, the
    load fails and says that the key is absent, and only then. Whoever adds a graph gets no answer;
    an offer that is no graph is answered by a fault of loading, and the shelf stays as it is. A
    removal says whether the key was there, and listing and loading leave the shelf as it is. -/
theorem run_ordered (history : List Step) :
    let s := run history
    (Fields.keys s).Nodup ∧
    (∀ key, key ∈ Fields.keys s ↔ ∃ before, Arrives history key before) ∧
    (Fields.keys s).Pairwise (Precedes history) ∧
    (∀ key g, s.load key = .ok g ↔ Stands history key g) ∧
    (∀ key fault, s.load key = .error fault ↔
      key ∉ Fields.keys s ∧ fault = .source (.absent key)) ∧
    (∀ key, (Fault.source (.absent key)).title? = some "DecisionNotFoundError") ∧
    (∀ key offer,
      (∃ g, offer.graph key = .ok g ∧
        s.step (.add key offer) = (.done, run (history ++ [.add key offer]))) ∨
      ∃ fault, offer.graph key = .error fault ∧ s.step (.add key offer) = (.failed fault, s) ∧
        (∃ count, fault = .source (.unreadable key count)) ∧ fault.title? = some "LoaderError") ∧
    (∀ key, (s.step (.remove key)).1 = .found (decide (key ∈ Fields.keys s))) ∧
    s.step .keys = (.keys (Fields.keys s), s) ∧
    ∀ key, (s.step (.load key)).2 = s ∧
      ((∃ g, s.load key = .ok g ∧ (s.step (.load key)).1 = .graph g) ∨
        ∃ fault, s.load key = .error fault ∧ (s.step (.load key)).1 = .failed fault) := by
  intro s
  refine ⟨nodup_keys_run history,
    fun key => (mem_keys_run history key).trans exists_arrives_iff.symm,
    keys_run_pairwise history, fun key g => load_eq_ok_iff.trans (get?_run history key g),
    fun key fault => ?_, fun key => rfl, fun key offer => ?_, fun key => ?_, rfl,
    fun key => ?_⟩
  · rw [load_eq_error_iff, Fields.mem_keys_iff_has, Fields.has, Option.not_isSome_iff_eq_none]
  · cases hgraph : offer.graph key with
    | ok g =>
      refine .inl ⟨g, rfl, ?_⟩
      rw [run_concat, step_add_of_ok hgraph]
    | error fault =>
      obtain ⟨count, rfl⟩ := offer.graph_error hgraph
      exact .inr ⟨_, rfl, step_add_of_error hgraph, ⟨count, rfl⟩, rfl⟩
  · have hfound : decide (key ∈ Fields.keys s) = Fields.has s key := by
      simp [Fields.mem_keys_iff_has]
    rw [hfound]
    rfl
  · rw [step]
    cases s.load key with
    | ok g => exact ⟨rfl, .inl ⟨g, rfl, rfl⟩⟩
    | error fault => exact ⟨rfl, .inr ⟨fault, rfl, rfl⟩⟩

/-- A graph that is put anew keeps its place, an offer that is no graph changes nothing, and a key
    that was removed comes back at the end. -/
example (g h : Definition) :
    run [.add "a" (.definition g), .add "b" (.definition g), .add "a" (.definition h),
      .add "b" (.datum .null)] = [("a", h), ("b", g)] ∧
    run [.add "a" (.definition g), .add "b" (.definition g), .remove "a",
      .add "a" (.definition h)] = [("b", g), ("a", h)] := by
  constructor <;> rfl

end Shelf

end DecisionFlow
