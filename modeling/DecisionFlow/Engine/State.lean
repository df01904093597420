import DecisionFlow.Handler.Registry
import DecisionFlow.Source.Basic

set_option autoImplicit false

/-! # Decisions, the cache and the clock

A decision is a graph that is ready for evaluation. Every decision has a number of its own, so that
two decisions of one graph can be told apart. An engine keeps the decisions that it loaded in a
cache, from which none is ever dropped, and reads a clock. -/

namespace DecisionFlow

/-! ## Decisions -/

/-- A graph ready for evaluation. -/
structure Decision where
  /-- The number of the decision, different from those of all other decisions. -/
  serial : Nat
  /-- The graph. -/
  graph : Definition

/-! ## The cache -/

/-- Decisions under the keys that they were loaded for. -/
abbrev Cache := Fields Decision

/-- Stores a decision unless there is one under the key, and gives the one that is there then. -/
def Cache.insertIfAbsent (c : Cache) (key : String) (d : Decision) : Decision × Cache :=
  match Fields.get? c key with
  | some stored => (stored, c)
  | none => (d, Fields.put c key d)

/-- A stored decision stays. -/
theorem Cache.insertIfAbsent_of_get? {c : Cache} {key : String} {stored : Decision}
    (h : Fields.get? c key = some stored) (d : Decision) :
    c.insertIfAbsent key d = (stored, c) := by
  simp [Cache.insertIfAbsent, h]

/-- What the insertion gives is what is stored afterwards. -/
theorem Cache.get?_insertIfAbsent (c : Cache) (key : String) (d : Decision) :
    Fields.get? (c.insertIfAbsent key d).2 key = some (c.insertIfAbsent key d).1 := by
  unfold Cache.insertIfAbsent
  split
  · assumption
  · exact Fields.get?_put_self c key d

/-! ## Loads -/

/-- A load that an engine asked of its source. -/
structure Load where
  /-- The key. -/
  key : String
  /-- The decision made of the graph; none when the load failed. -/
  decision? : Option Decision

/-! ## The clock -/

/-- A clock: the readings it will give, in seconds, and how long has been waited besides. -/
structure Clock where
  /-- The readings in the order in which they are taken. -/
  readings : Nat → Float
  /-- How many readings were taken. -/
  taken : Nat
  /-- The seconds that were waited. -/
  waited : Float

namespace Clock

/-- A clock with the given readings. -/
def ofReadings (readings : Nat → Float) : Clock :=
  ⟨readings, 0, 0.0⟩

/-- How many readings of the counting clock are even. -/
def evenReadings : Nat :=
  30000

/-- The readings of the counting clock: a microsecond lies between two of the first, more than any
    walk takes that does not go round in circles. The later ones double every thirty readings, so
    that every deadline passes in the end. -/
def countedReading (n : Nat) : Float :=
  let even := (min n evenReadings).toFloat / 1000000.0
  even.scaleB ((n - evenReadings) / 30 : Nat)

/-- A clock that counts its readings. -/
def counting : Clock :=
  ofReadings countedReading

/-- The time that the next reading shows. -/
def now (c : Clock) : Float :=
  c.readings c.taken + c.waited

/-- The clock after a reading. -/
def tick (c : Clock) : Clock :=
  ⟨c.readings, c.taken + 1, c.waited⟩

/-- The clock after waiting. -/
def wait (c : Clock) (seconds : Float) : Clock :=
  ⟨c.readings, c.taken, c.waited + seconds⟩

end Clock

/-! ## The state of an engine -/

/-- What changes while an engine works: the state of its source, the cache, how many decisions were
    made, which loads were asked for, and the clock. -/
structure State (σ : Type) where
  /-- The state of the source. -/
  store : σ
  /-- The loaded decisions. -/
  cache : Cache
  /-- How many decisions were made. -/
  made : Nat
  /-- The loads that the engine asked for, the latest first. They are noted and never looked at. -/
  loads : List Load
  /-- The clock. -/
  clock : Clock

namespace State

variable {σ : Type}

/-- The state in which an engine starts. -/
def start (store : σ) (clock : Clock) : State σ :=
  ⟨store, [], 0, [], clock⟩

/-- The state after a reading of the clock. -/
def tick (s : State σ) : State σ :=
  { s with clock := s.clock.tick }

/-- The state after waiting. -/
def wait (s : State σ) (seconds : Float) : State σ :=
  { s with clock := s.clock.wait seconds }

/-- Makes a decision of a graph. -/
def create (s : State σ) (g : Definition) : Decision × State σ :=
  (⟨s.made, g⟩, { s with made := s.made + 1 })

/-- The decision for a key: from the cache, or of the graph that the source loads. A graph that
    could not be loaded leaves the cache as it was. -/
def decisionFor (source : Source σ) (key : String) (s : State σ) :
    Except Fault Decision × State σ :=
  match Fields.get? s.cache key with
  | some d => (.ok d, s)
  | none =>
    match source.load key s.store with
    | (.error f, store) =>
      (.error f, { s with store := store, loads := ⟨key, none⟩ :: s.loads })
    | (.ok g, store) =>
      let (d, s) := State.create { s with store := store } g
      let (d, cache) := Cache.insertIfAbsent s.cache key d
      (.ok d, { s with cache := cache, loads := ⟨key, some d⟩ :: s.loads })

/-- A cached decision is given without a look at the source. -/
theorem decisionFor_of_get? (source : Source σ) {key : String} {s : State σ} {d : Decision}
    (h : Fields.get? s.cache key = some d) : s.decisionFor source key = (.ok d, s) := by
  simp [decisionFor, h]

end State

end DecisionFlow
