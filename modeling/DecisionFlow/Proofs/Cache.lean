import Mathlib.Data.List.Pairwise
import DecisionFlow.Proofs.Moves
import DecisionFlow.Proofs.Path

set_option autoImplicit false

/-! # The cache of an engine

The cache and the source drift apart: the source changes while the cache keeps what was loaded. The
engine asks its source for a key when the cache has nothing under it and at no other time, so the
cache holds exactly the decisions that loads gave, at most one for every key. -/

namespace DecisionFlow

variable {σ : Type}

/-! ## Wanting a decision -/

/-- How often an engine has asked its source for a key. -/
def State.loadsOf (s : State σ) (key : String) : Nat :=
  s.loads.countP fun load => load.key = key

namespace State

variable {source : Source σ} {key : String} {s t : State σ} {f : Fault} {d : Decision}

/-- Wanting a decision fails when it is not cached and cannot be loaded. -/
theorem decisionFor_eq_error_iff :
    s.decisionFor source key = (.error f, t) ↔
      Fields.get? s.cache key = none ∧ ∃ store, source.load key s.store = (.error f, store) ∧
        t = { s with store := store, loads := ⟨key, none⟩ :: s.loads } := by
  cases hcache : Fields.get? s.cache key with
  | some d => simp [decisionFor, hcache]
  | none =>
    rcases hload : source.load key s.store with ⟨g | g, store⟩
    · simp [decisionFor, hcache, hload, eq_comm, and_assoc]
    · simp [decisionFor, hcache, hload]

/-- A wanted decision is the cached one, or it is loaded and cached. -/
theorem decisionFor_eq_ok_iff :
    s.decisionFor source key = (.ok d, t) ↔
      Fields.get? s.cache key = some d ∧ t = s ∨
      Fields.get? s.cache key = none ∧ ∃ g store, source.load key s.store = (.ok g, store) ∧
        d = ⟨s.made, g⟩ ∧
        t = { s with
              store := store
              cache := Fields.put s.cache key d
              made := s.made + 1
              loads := ⟨key, some d⟩ :: s.loads } := by
  cases hcache : Fields.get? s.cache key with
  | some d => simp [decisionFor, hcache, eq_comm]
  | none =>
    rcases hload : source.load key s.store with ⟨g | g, store⟩
    · simp [decisionFor, hcache, hload]
    · simp only [decisionFor, hcache, hload, create, Cache.insertIfAbsent]
      constructor
      · intro h
        obtain ⟨hd, rfl⟩ := Prod.mk.inj h
        obtain rfl := Except.ok.inj hd
        exact Or.inr ⟨trivial, g, store, rfl, rfl, rfl⟩
      · rintro (⟨h, _⟩ | ⟨_, g', store', hg, rfl, rfl⟩)
        · simp at h
        · obtain ⟨hg', rfl⟩ := Prod.mk.inj hg
          obtain rfl := Except.ok.inj hg'
          rfl

/-- A decision that was wanted is cached. -/
theorem get?_of_decisionFor (h : s.decisionFor source key = (.ok d, t)) :
    Fields.get? t.cache key = some d := by
  rcases decisionFor_eq_ok_iff.1 h with ⟨hcache, rfl⟩ | ⟨_, g, store, _, _, rfl⟩
  · exact hcache
  · exact Fields.get?_put_self _ _ _

/-- The source is asked for a key once when the key is not cached, and not at all when it is. -/
theorem loadsOf_decisionFor (source : Source σ) (key : String) (s : State σ) :
    (s.decisionFor source key).2.loadsOf key =
      s.loadsOf key + if (Fields.get? s.cache key).isSome then 0 else 1 := by
  rcases h : s.decisionFor source key with ⟨f | d, t⟩
  · obtain ⟨hcache, store, _, rfl⟩ := decisionFor_eq_error_iff.1 h
    simp [loadsOf, hcache]
  · rcases decisionFor_eq_ok_iff.1 h with ⟨hcache, rfl⟩ | ⟨hcache, g, store, _, _, rfl⟩
    · simp [hcache]
    · simp [loadsOf, hcache]

end State

/-- Whether a load was one of the key and gave a decision. -/
def Load.gave (key : String) (load : Load) : Bool :=
  load.key = key && load.decision?.isSome

theorem Load.gave_iff {key : String} {load : Load} :
    Load.gave key load = true ↔ load.key = key ∧ load.decision? ≠ none := by
  simp [Load.gave, Option.isSome_iff_ne_none]

/-! ## Growing caches -/

/-- Between two states the cache has only grown, and the engine has loaded nothing that was cached
    before. -/
structure State.Grows (s t : State σ) : Prop where
  /-- What is cached stays cached. -/
  keeps : ∀ key d, Fields.get? s.cache key = some d → Fields.get? t.cache key = some d
  /-- What is loaded was not cached. -/
  loads : ∃ new, t.loads = new ++ s.loads ∧ ∀ load ∈ new, Fields.get? s.cache load.key = none

namespace State.Grows

variable {s t u : State σ}

theorem refl (s : State σ) : s.Grows s :=
  ⟨fun _ _ h => h, [], rfl, by simp⟩

theorem trans (h : s.Grows t) (h' : t.Grows u) : s.Grows u := by
  obtain ⟨new, hnew, hold⟩ := h.loads
  obtain ⟨newer, hnewer, hnone⟩ := h'.loads
  refine ⟨fun key d hd => h'.keeps key d (h.keeps key d hd), newer ++ new, ?_, ?_⟩
  · rw [hnewer, hnew, List.append_assoc]
  · intro load hmem
    rcases List.mem_append.1 hmem with hmem | hmem
    · -- What was cached at first would still be cached when the newer load was asked for.
      cases hcache : Fields.get? s.cache load.key with
      | none => rfl
      | some d =>
        have hlater := h.keeps _ d hcache
        simp [hnone load hmem] at hlater
    · exact hold load hmem

/-- The engine does not load a key that is cached. -/
theorem loadsOf_eq (h : s.Grows t) {key : String} {d : Decision}
    (hd : Fields.get? s.cache key = some d) : t.loadsOf key = s.loadsOf key := by
  obtain ⟨new, hnew, hnone⟩ := h.loads
  have hzero : new.countP (fun load => load.key = key) = 0 := by
    rw [List.countP_eq_zero]
    intro load hmem hkey
    have hcache := hnone load hmem
    rw [of_decide_eq_true hkey, hd] at hcache
    exact absurd hcache (by simp)
  rw [State.loadsOf, hnew, List.countP_append, hzero, Nat.zero_add, State.loadsOf]

end State.Grows

theorem State.Moves.grows {source : Source σ} {s t : State σ} (h : s.Moves source t) :
    s.Grows t := by
  cases h with
  | clock c => exact ⟨fun _ _ h => h, [], rfl, by simp⟩
  | store store => exact ⟨fun _ _ h => h, [], rfl, by simp⟩
  | create g => exact ⟨fun _ _ h => h, [], rfl, by simp⟩
  | decision key =>
    rcases hd : s.decisionFor source key with ⟨f | d, t⟩
    · obtain ⟨hcache, store, _, rfl⟩ := State.decisionFor_eq_error_iff.1 hd
      exact ⟨fun _ _ h => h, [⟨key, none⟩], rfl, by simpa using hcache⟩
    · rcases State.decisionFor_eq_ok_iff.1 hd with ⟨_, rfl⟩ | ⟨hcache, g, store, _, _, rfl⟩
      · exact .refl _
      · refine ⟨fun other old hold => ?_, [⟨key, some d⟩], rfl, by simpa using hcache⟩
        have hne : other ≠ key := by
          rintro rfl
          simp [hcache] at hold
        exact (Fields.get?_put_of_ne hne s.cache d).trans hold

theorem State.Evolves.grows {source : Source σ} {s t : State σ} (h : s.Evolves source t) :
    s.Grows t := by
  induction h with
  | refl => exact .refl s
  | tail _ hmove ih => exact ih.trans hmove.grows

/-! ## Faithful caches -/

/-- The cache holds what the loads gave, and no decision was loaded twice. -/
structure State.Faithful (s : State σ) : Prop where
  /-- A decision is cached when a load gave it. -/
  cached : ∀ key d, Fields.get? s.cache key = some d ↔ ⟨key, some d⟩ ∈ s.loads
  /-- A key is loaded again only when it could not be loaded before. -/
  once : s.loads.Pairwise fun later earlier => earlier.key = later.key → earlier.decision? = none
  /-- Every load that succeeds makes a decision of its own. -/
  own : s.loads.Pairwise fun later earlier => ∀ d d', later.decision? = some d →
    earlier.decision? = some d' → d'.serial < d.serial
  /-- The decisions to come will be others. -/
  made : ∀ load ∈ s.loads, ∀ d, load.decision? = some d → d.serial < s.made

namespace State.Faithful

variable {s t : State σ}

theorem start (store : σ) (clock : Clock) : (State.start store clock).Faithful where
  cached key d := by simp [State.start]
  once := List.Pairwise.nil
  own := List.Pairwise.nil
  made := by simp [State.start]

/-- Only the cache, the loads and the count of the decisions matter. -/
theorem of_eq (h : s.Faithful) (hcache : t.cache = s.cache) (hloads : t.loads = s.loads)
    (hmade : s.made ≤ t.made) : t.Faithful where
  cached := by rw [hcache, hloads]; exact h.cached
  once := by rw [hloads]; exact h.once
  own := by rw [hloads]; exact h.own
  made load hmem d hd := Nat.lt_of_lt_of_le (h.made load (hloads ▸ hmem) d hd) hmade

/-- What is not cached could not be loaded before. -/
theorem decision?_eq_none (h : s.Faithful) {key : String}
    (hcache : Fields.get? s.cache key = none) {load : Load} (hmem : load ∈ s.loads)
    (hkey : load.key = key) : load.decision? = none := by
  cases hd : load.decision? with
  | none => rfl
  | some d =>
    have heq : load = ⟨key, some d⟩ := by rw [← hkey, ← hd]
    have hget := (h.cached key d).2 (heq ▸ hmem)
    simp [hcache] at hget

theorem decisionFor (h : s.Faithful) (source : Source σ) (key : String) :
    (s.decisionFor source key).2.Faithful := by
  rcases hd : s.decisionFor source key with ⟨f | d, t⟩
  · obtain ⟨hcache, store, _, rfl⟩ := State.decisionFor_eq_error_iff.1 hd
    exact {
      cached := fun other d => by simpa using h.cached other d
      once := List.pairwise_cons.2
        ⟨fun load hmem hkey => h.decision?_eq_none hcache hmem hkey, h.once⟩
      own := List.pairwise_cons.2 ⟨by simp, h.own⟩
      made := by simpa using h.made }
  · rcases State.decisionFor_eq_ok_iff.1 hd with ⟨_, rfl⟩ | ⟨hcache, g, store, _, hserial, rfl⟩
    · exact h
    · exact {
        cached := fun other old => by
          dsimp only
          rw [Fields.get?_put, List.mem_cons, Load.mk.injEq, Option.some.injEq]
          by_cases hother : other = key
          · -- The key had nothing cached, so no earlier load of it gave a decision.
            have hnew : (⟨other, some old⟩ : Load) ∉ s.loads := fun hmem => by
              have hnone := h.decision?_eq_none hcache hmem hother
              simp at hnone
            simp [hother, hother ▸ hnew, eq_comm]
          · rw [if_neg hother, h.cached other old]
            simp [hother]
        once := List.pairwise_cons.2
          ⟨fun load hmem hkey => h.decision?_eq_none hcache hmem hkey, h.once⟩
        own := by
          refine List.pairwise_cons.2 ⟨fun load hmem new old hnew hold => ?_, h.own⟩
          obtain rfl := Option.some.inj hnew
          rw [hserial]
          exact h.made load hmem old hold
        made := by
          intro load hmem new hnew
          rcases List.mem_cons.1 hmem with rfl | hmem
          · obtain rfl := Option.some.inj hnew
            rw [hserial]
            exact Nat.lt_succ_self s.made
          · exact Nat.lt_succ_of_lt (h.made load hmem new hnew) }

theorem moves {source : Source σ} (h : s.Faithful) (hmove : s.Moves source t) : t.Faithful := by
  cases hmove with
  | clock c => exact h.of_eq rfl rfl (Nat.le_refl _)
  | store store => exact h.of_eq rfl rfl (Nat.le_refl _)
  | create g => exact h.of_eq rfl rfl (Nat.le_succ _)
  | decision key => exact h.decisionFor source key

theorem evolves {source : Source σ} (h : s.Faithful) (hs : s.Evolves source t) : t.Faithful := by
  induction hs with
  | refl => exact h
  | tail _ hmove ih => exact ih.moves hmove

/-- At most one load of a key gave a decision. -/
theorem countP_gave_le_one (h : s.Faithful) (key : String) :
    s.loads.countP (Load.gave key) ≤ 1 := by
  rw [List.countP_eq_length_filter]
  have honce := h.once.filter (Load.gave key)
  have hgave : ∀ load ∈ s.loads.filter (Load.gave key), Load.gave key load = true :=
    fun load hmem => (List.mem_filter.1 hmem).2
  rcases hloads : s.loads.filter (Load.gave key) with _ | ⟨later, _ | ⟨earlier, rest⟩⟩
  · simp
  · simp
  · rw [hloads] at honce hgave
    have hlater := Load.gave_iff.1 (hgave later (by simp))
    have hearlier := Load.gave_iff.1 (hgave earlier (by simp))
    have hnone := (List.pairwise_cons.1 honce).1 earlier (by simp)
    exact absurd (hnone (hearlier.1.trans hlater.1.symm)) hearlier.2

/-- Loads that made one decision are one load. -/
theorem load_eq_of_serial (h : s.Faithful) {load load' : Load} (hmem : load ∈ s.loads)
    (hmem' : load' ∈ s.loads) {d d' : Decision} (hd : load.decision? = some d)
    (hd' : load'.decision? = some d') (hserial : d.serial = d'.serial) : load = load' := by
  obtain ⟨i, hi, rfl⟩ := List.getElem_of_mem hmem
  obtain ⟨j, hj, rfl⟩ := List.getElem_of_mem hmem'
  rcases Nat.lt_trichotomy i j with hlt | rfl | hlt
  · have hless := List.pairwise_iff_getElem.1 h.own i j hi hj hlt d d' hd hd'
    omega
  · rfl
  · have hless := List.pairwise_iff_getElem.1 h.own j i hj hi hlt d' d hd' hd
    omega

/-- The decisions under two keys are different decisions. -/
theorem key_eq_of_serial (h : s.Faithful) {key key' : String} {d d' : Decision}
    (hd : Fields.get? s.cache key = some d) (hd' : Fields.get? s.cache key' = some d')
    (hserial : d.serial = d'.serial) : key = key' := by
  have hmem := (h.cached key d).1 hd
  have hmem' := (h.cached key' d').1 hd'
  exact congrArg Load.key (h.load_eq_of_serial hmem hmem' rfl rfl hserial)

end State.Faithful

/-- The step goes past the cache. -/
def Step.PassesCache : Step σ → Prop
  | .load _ | .create _ | .change _ => True
  | .get _ | .evaluate .. | .rerun .. => False

/-! ## Requests -/

namespace Engine

/-- A request for the decision under a key: the user gets it or has it evaluated, or a handler has
    it evaluated while so many more evaluations may wait. -/
inductive Requests (e : Engine σ) (key : String) (s : State σ) :
    Except Fault Answer → State σ → Prop where
  /-- The user gets it. -/
  | get {answer : Except Fault Answer} {t : State σ} :
    e.step s (.get key) = some (answer, t) → Requests e key s answer t
  /-- The user has it evaluated. -/
  | evaluate {context : Json} {o : Options} {answer : Except Fault Answer} {t : State σ} :
    e.step s (.evaluate key context o) = some (answer, t) → Requests e key s answer t
  /-- A handler has it evaluated. -/
  | ask {depth : Nat} {context : Json} {o : Options} {result : Except Fault Report}
    {t : State σ} : e.askAt (depth + 1) key context o s = some (result, t) →
    Requests e key s (result.map .report) t

variable {e : Engine σ} {key : String} {s t : State σ} {answer : Except Fault Answer}

/-- An evaluation first gets the decision for its key. It fails when that fails, and otherwise the
    state evolves from there. -/
theorem askAt_succ_cases {depth : Nat} {context : Json} {o : Options}
    {result : Except Fault Report} (h : e.askAt (depth + 1) key context o s = some (result, t)) :
    (∃ f, s.decisionFor e.source key = (.error f, t) ∧ result = .error f) ∨
      ∃ d u, s.decisionFor e.source key = (.ok d, u) ∧ u.Evolves e.source t := by
  rcases hd : s.decisionFor e.source key with ⟨f | d, u⟩
  · rw [askAt, evaluateKey, hd] at h
    obtain ⟨rfl, rfl⟩ := Prod.mk.inj (Option.some.inj h)
    exact Or.inl ⟨f, rfl, rfl⟩
  · rw [askAt, evaluateKey, hd] at h
    have hask := e.askAt_evolvesBy depth
    exact Or.inr ⟨d, u, rfl, evaluateGraph_evolvesFrom hask e d.graph context o u result t h⟩

/-- So does a request. -/
theorem Requests.cases (h : e.Requests key s answer t) :
    (∃ f, s.decisionFor e.source key = (.error f, t) ∧ answer = .error f) ∨
      ∃ d u, s.decisionFor e.source key = (.ok d, u) ∧ u.Evolves e.source t := by
  cases h with
  | get h =>
    rcases hd : s.decisionFor e.source key with ⟨f | d, u⟩
    · simp only [step, hd, Option.some.injEq, Prod.mk.injEq] at h
      obtain ⟨rfl, rfl⟩ := h
      exact Or.inl ⟨f, rfl, rfl⟩
    · simp only [step, hd, Option.some.injEq, Prod.mk.injEq] at h
      obtain ⟨rfl, rfl⟩ := h
      exact Or.inr ⟨d, u, rfl, .refl u⟩
  | @evaluate context o _ _ h =>
    simp only [step, Option.map_eq_some_iff] at h
    obtain ⟨⟨result, u⟩, hresult, heq⟩ := h
    obtain ⟨rfl, rfl⟩ := Prod.mk.inj heq
    -- The user's evaluation is that of a handler for which all evaluations may still wait.
    have hask : e.askAt (e.depth + 1) key context o s = some (result, u) := hresult
    rcases askAt_succ_cases hask with ⟨f, hd, rfl⟩ | hd
    · exact Or.inl ⟨f, hd, rfl⟩
    · exact Or.inr hd
  | ask h =>
    rcases askAt_succ_cases h with ⟨f, hd, rfl⟩ | hd
    · exact Or.inl ⟨f, hd, rfl⟩
    · exact Or.inr hd

/-- A request asks the source for its key once when the key is not cached, and not at all when it
    is. -/
theorem Requests.loadsOf_eq (h : e.Requests key s answer t) :
    t.loadsOf key = s.loadsOf key + if (Fields.get? s.cache key).isSome then 0 else 1 := by
  have hwanted := State.loadsOf_decisionFor e.source key s
  rcases h.cases with ⟨f, hd, _⟩ | ⟨d, u, hd, hevolves⟩
  · rw [hd] at hwanted
    exact hwanted
  · -- From here on the decision is cached, so the rest of the request does not load the key.
    rw [hd] at hwanted
    rw [hevolves.grows.loadsOf_eq (State.get?_of_decisionFor hd)]
    exact hwanted

/-- A request that fails could not load its decision, and left the cache as it was, or the decision
    is cached. -/
theorem Requests.error_cases {f : Fault} (h : e.Requests key s (.error f) t) :
    Fields.get? s.cache key = none ∧ e.source.load key s.store = (.error f, t.store) ∧
        t.cache = s.cache ∨
      ∃ d u, s.decisionFor e.source key = (.ok d, u) ∧ Fields.get? t.cache key = some d := by
  rcases h.cases with ⟨f', hd, hf⟩ | ⟨d, u, hd, hevolves⟩
  · obtain rfl := Except.error.inj hf
    obtain ⟨hcache, store, hload, rfl⟩ := State.decisionFor_eq_error_iff.1 hd
    exact Or.inl ⟨hcache, hload, rfl⟩
  · exact Or.inr ⟨d, u, hd, hevolves.grows.keeps key d (State.get?_of_decisionFor hd)⟩

/-! ## Sessions -/

/-- A session of some steps comes to the state. -/
def Reachable (e : Engine σ) (s : State σ) : Prop :=
  ∃ store clock steps answers, e.run (State.start store clock) steps = some (answers, s)

theorem Reachable.faithful (h : e.Reachable s) : s.Faithful := by
  obtain ⟨store, clock, steps, answers, hrun⟩ := h
  exact (State.Faithful.start store clock).evolves (run_evolves hrun)

/-- A cached decision is the one that every request for its key gets. -/
theorem askAt_of_get? {d : Decision} (hd : Fields.get? s.cache key = some d) (depth : Nat)
    (context : Json) (o : Options) :
    e.askAt (depth + 1) key context o s =
      e.evaluateGraph (e.askAt depth) d.graph context o s := by
  rw [askAt, evaluateKey, State.decisionFor_of_get? e.source hd]

/-- A step that goes past the cache does not load anything for it either. -/
theorem step_passesCache {step : Step σ} (hstep : step.PassesCache)
    (h : e.step s step = some (answer, t)) : t.cache = s.cache ∧ t.loads = s.loads := by
  cases step with
  | load key | create g | change f =>
    obtain ⟨_, rfl⟩ := Prod.mk.inj (Option.some.inj h)
    exact ⟨rfl, rfl⟩
  | get key => exact hstep.elim
  | evaluate key context o => exact hstep.elim
  | rerun d context o => exact hstep.elim

/-- In a session of any steps, whatever happens to the source: a cached decision stays under its
    key, is what every request for the key gets, at any moment, and its key is not loaded any more.
    A request asks the source for its key when the key is not cached, then once, and at no other
    time, so that at most one load of a key succeeds. When it fails before it has its decision, the
    cache is as it was, and when it fails later, the decision is cached. Decisions made of graphs,
    loads past the engine and changes of the source do not touch the cache. -/
theorem cache_stable {t : State σ} {steps : List (Step σ)} {answers : List (Except Fault Answer)}
    (hs : e.Reachable s) (ht : e.run s steps = some (answers, t)) :
    (∀ key d, Fields.get? s.cache key = some d →
      Fields.get? t.cache key = some d ∧ t.loadsOf key = s.loadsOf key ∧
      e.step t (.get key) = some (.ok (.decision d), t) ∧
      (∀ context o, e.step t (.evaluate key context o) = e.step t (.rerun d context o)) ∧
      ∀ u, s.Evolves e.source u → Fields.get? u.cache key = some d ∧
        ∀ depth context o, e.askAt (depth + 1) key context o u =
          e.evaluateGraph (e.askAt depth) d.graph context o u) ∧
    (∀ key d, Fields.get? t.cache key = some d ↔ ⟨key, some d⟩ ∈ t.loads) ∧
    (∀ key, t.loads.countP (Load.gave key) ≤ 1) ∧
    (∀ key key' d d', Fields.get? t.cache key = some d → Fields.get? t.cache key' = some d' →
      d.serial = d'.serial → key = key') ∧
    (∀ u key answer w, e.Requests key u answer w →
      w.loadsOf key = u.loadsOf key + (if (Fields.get? u.cache key).isSome then 0 else 1) ∧
      ∀ f, answer = .error f →
        Fields.get? u.cache key = none ∧ e.source.load key u.store = (.error f, w.store) ∧
          w.cache = u.cache ∨
        ∃ d v, u.decisionFor e.source key = (.ok d, v) ∧ Fields.get? w.cache key = some d) ∧
    ∀ step answer u, step.PassesCache → e.step t step = some (answer, u) →
      u.cache = t.cache ∧ u.loads = t.loads := by
  have hevolves := run_evolves ht
  have hfaithful := hs.faithful.evolves hevolves
  refine ⟨?_, hfaithful.cached, hfaithful.countP_gave_le_one, ?_, ?_, ?_⟩
  · intro key d hd
    have hd' := hevolves.grows.keeps key d hd
    refine ⟨hd', hevolves.grows.loadsOf_eq hd, ?_, fun context o => ?_, fun u hu => ?_⟩
    · rw [step, State.decisionFor_of_get? e.source hd']
      rfl
    · have hask := askAt_of_get? (e := e) hd' e.depth context o
      exact congrArg (Option.map _) hask
    · have hu' := hu.grows.keeps key d hd
      exact ⟨hu', askAt_of_get? hu'⟩
  · intro key key' d d' hd hd' hserial
    exact hfaithful.key_eq_of_serial hd hd' hserial
  · intro u key answer w h
    refine ⟨h.loadsOf_eq, fun f hf => ?_⟩
    subst hf
    exact h.error_cases
  · intro step answer u hpasses hstep
    exact step_passesCache hpasses hstep

end Engine

/-- A state with the relay on the shelf. -/
def Sample.stocked : State Shelf :=
  State.start [("relay", Sample.relay)] Sample.start.clock

/-- A decision that was got from a shelf stays when the shelf is emptied. -/
theorem Engine.cache_stable_emptied_shelf :
    ∃ s t answers d, Sample.engine.Reachable s ∧
      Sample.engine.run s [.change fun _ => [], .load "relay", .create Sample.ring] =
        some (answers, t) ∧
      t.store = [] ∧ t.loadsOf "relay" = 1 ∧
      Sample.engine.step t (.get "relay") = some (.ok (.decision d), t) := by
  have hget : Sample.engine.run Sample.stocked [.get "relay"] =
      some ([.ok (.decision ⟨0, Sample.relay⟩)],
        (Sample.stocked.decisionFor Source.shelf "relay").2) := rfl
  have hs : Sample.engine.Reachable (Sample.stocked.decisionFor Source.shelf "relay").2 :=
    ⟨_, _, _, _, hget⟩
  have ht : Sample.engine.run (Sample.stocked.decisionFor Source.shelf "relay").2
      [.change fun _ => [], .load "relay", .create Sample.ring] = some (_, _) := rfl
  obtain ⟨hcached, _⟩ := Engine.cache_stable hs ht
  obtain ⟨_, hloads, hget, _⟩ := hcached "relay" ⟨0, Sample.relay⟩ rfl
  exact ⟨_, _, _, _, hs, ht, rfl, hloads, hget⟩

end DecisionFlow
