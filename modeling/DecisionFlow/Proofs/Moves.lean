import Mathlib.Logic.Relation
import DecisionFlow.Engine.Session
import DecisionFlow.Proofs.Journeys

set_option autoImplicit false

/-! # How the state of an engine changes

All that happens to the state of an engine is that time passes, that a decision is wanted for a key,
that the store of the source changes, and that a decision is made. What these four preserve is
preserved by an evaluation, however many evaluations wait inside it and however it ends, and by a
session of any steps. -/

namespace DecisionFlow

variable {σ : Type}

/-! ## Moves -/

/-- One change of a state. -/
inductive State.Moves (source : Source σ) : State σ → State σ → Prop where
  /-- Time passes. -/
  | clock (s : State σ) (c : Clock) : Moves source s { s with clock := c }
  /-- A decision is wanted for a key. -/
  | decision (s : State σ) (key : String) : Moves source s (s.decisionFor source key).2
  /-- The store changes past the engine. -/
  | store (s : State σ) (store : σ) : Moves source s { s with store := store }
  /-- A decision is made of a graph. -/
  | create (s : State σ) (g : Definition) : Moves source s (s.create g).2

/-- Any number of changes of a state. -/
def State.Evolves (source : Source σ) : State σ → State σ → Prop :=
  Relation.ReflTransGen (State.Moves source)

namespace State.Evolves

variable {source : Source σ} {s t u : State σ}

theorem refl (s : State σ) : s.Evolves source s :=
  Relation.ReflTransGen.refl

theorem single (h : s.Moves source t) : s.Evolves source t :=
  Relation.ReflTransGen.single h

theorem trans (h : s.Evolves source t) (h' : t.Evolves source u) : s.Evolves source u :=
  Relation.ReflTransGen.trans h h'

theorem tick (s : State σ) : s.Evolves source s.tick :=
  single (.clock s s.clock.tick)

end State.Evolves

/-! ## Outcomes -/

/-- An outcome, when there is one, leaves a state that the given one evolves to. -/
def Outcome.EvolvesFrom {α : Type} (source : Source σ) (s : State σ) (x : Outcome σ α) : Prop :=
  ∀ result t, x = some (result, t) → s.Evolves source t

namespace Outcome

variable {α β : Type} {source : Source σ} {s : State σ} {x : Outcome σ α}

theorem evolvesFrom_some {result : Except Fault α} {t : State σ} (h : s.Evolves source t) :
    EvolvesFrom source s (some (result, t)) := by
  intro result' t' heq
  obtain ⟨rfl, rfl⟩ := Prod.mk.inj (Option.some.inj heq)
  exact h

/-- What evolves from a later state evolves from the earlier one. -/
theorem EvolvesFrom.of_evolves {t : State σ} (hx : x.EvolvesFrom source t)
    (h : s.Evolves source t) : x.EvolvesFrom source s := by
  intro result u heq
  exact h.trans (hx result u heq)

theorem EvolvesFrom.andThen {next : α → State σ → Outcome σ β} (hx : x.EvolvesFrom source s)
    (hnext : ∀ a t, (next a t).EvolvesFrom source t) :
    (x.andThen next).EvolvesFrom source s := by
  rcases x with _ | ⟨f | a, t⟩
  · intro result u heq
    simp at heq
  · exact evolvesFrom_some (hx _ t rfl)
  · exact (hnext a t).of_evolves (hx _ t rfl)

theorem EvolvesFrom.map {f : Except Fault α × State σ → Except Fault β × State σ}
    (hx : x.EvolvesFrom source s) (hf : ∀ result t, (f (result, t)).2 = t) :
    EvolvesFrom source s (Option.map f x) := by
  rcases x with _ | ⟨result, t⟩
  · intro result u heq
    simp at heq
  · intro result' u heq
    have hu : u = t := by
      rw [← hf result t, Option.some.inj heq]
    exact hu ▸ hx result t rfl

end Outcome

/-! ## Evaluations -/

/-- Whatever is asked for, an outcome leaves a state that the one before evolves to. -/
def Ask.EvolvesBy (source : Source σ) (ask : Ask σ) : Prop :=
  ∀ key context o s, (ask key context o s).EvolvesFrom source s

variable {source : Source σ} {ask : Ask σ}

theorem Action.run_evolvesFrom (hask : ask.EvolvesBy source) (a : Action) (s : State σ) :
    (a.run ask s).EvolvesFrom source s := by
  induction a generalizing s with
  | reply r => exact Outcome.evolvesFrom_some (.refl s)
  | fail f => exact Outcome.evolvesFrom_some (.refl s)
  | evaluate key context o next ih =>
    rw [Action.run]
    rcases hanswer : ask key context o s with _ | ⟨answer, t⟩
    · intro result u heq
      simp at heq
    · exact (ih answer t).of_evolves (hask key context o s answer t hanswer)
  | wait seconds next ih =>
    exact (ih (s.wait seconds)).of_evolves (.single (.clock s _))

theorem Handler.visit_evolvesFrom (hask : ask.EvolvesBy source) (h : Handler) (n : Node)
    (context : Value) (s : State σ) : (h.visit ask n context s).EvolvesFrom source s := by
  intro result t heq
  rw [Handler.visit] at heq
  rcases hrun : (h.act n context).run ask s with _ | ⟨reply, u⟩
  · simp [hrun] at heq
  · simp only [hrun, Option.some.injEq, Prod.mk.injEq] at heq
    exact heq.2 ▸ Action.run_evolvesFrom hask _ s reply u hrun

theorem Route.visit_evolvesFrom {r : Route σ} (hask : r.ask.EvolvesBy source) (station : Station)
    (context : Value) (s : State σ) : (r.visit station context s).EvolvesFrom source s := by
  rw [Route.visit]
  rcases r.handlerFor station.2 s.clock.now with f | h
  · exact Outcome.evolvesFrom_some (.tick s)
  · have hticks : s.Evolves source s.tick.tick := (State.Evolves.tick s).trans (.tick s.tick)
    have hvisit := Handler.visit_evolvesFrom hask h station.2 context s.tick.tick
    exact (hvisit.of_evolves hticks).andThen fun _ t => Outcome.evolvesFrom_some (.tick t)

theorem Route.walk_evolvesFrom {r : Route σ} (hask : r.ask.EvolvesBy source) (steps : Nat)
    (station : Station) (context : Value) (s : State σ) :
    (r.walk steps station context s).EvolvesFrom source s := by
  induction steps generalizing station context s with
  | zero =>
    intro result t heq
    simp [Route.walk] at heq
  | succ steps ih =>
    rw [Route.walk]
    refine (Route.visit_evolvesFrom hask station context s).andThen ?_
    rintro ⟨h, stop⟩ t
    dsimp only
    rcases r.next? h station.2 with _ | next
    · exact Outcome.evolvesFrom_some (.refl t)
    · exact (ih next stop.passedOn t).andThen fun _ u => Outcome.evolvesFrom_some (.refl u)

theorem Journey.report_evolves (o : Options) (started : Float) (j : Journey) (s : State σ) :
    s.Evolves source (j.report o started s).2 := by
  by_cases h : o.includePerformance
  · simpa [Journey.report, h] using State.Evolves.tick s
  · simpa [Journey.report, h] using State.Evolves.refl s

namespace Engine

theorem travel_evolvesFrom (hask : ask.EvolvesBy source) (e : Engine σ) (g : Definition)
    (context : Json) (o : Options) (s : State σ) :
    (e.travel ask g context o s).EvolvesFrom source s := by
  rw [travel]
  rcases deadline s.clock.now o.maxExecutionTimeMs with f | limit
  · exact Outcome.evolvesFrom_some (.tick s)
  · rcases g.start context with f | ⟨entry, v⟩
    · exact Outcome.evolvesFrom_some (.tick s)
    · have hroute : (e.route ask g o limit).ask.EvolvesBy source := hask
      exact (Route.walk_evolvesFrom hroute e.steps entry v s.tick).of_evolves (.tick s)

theorem evaluateGraph_evolvesFrom (hask : ask.EvolvesBy source) (e : Engine σ) (g : Definition)
    (context : Json) (o : Options) (s : State σ) :
    (e.evaluateGraph ask g context o s).EvolvesFrom source s := by
  rw [evaluateGraph_eq_travel]
  refine (travel_evolvesFrom hask e g context o s).andThen fun j t => ?_
  exact Outcome.evolvesFrom_some (j.report_evolves o s.clock.now t)

variable {e : Engine σ}

theorem evaluateKey_evolvesFrom (hask : ask.EvolvesBy e.source) (key : String) (context : Json)
    (o : Options) (s : State σ) :
    (e.evaluateKey ask key context o s).EvolvesFrom e.source s := by
  have hdecision : s.Evolves e.source (s.decisionFor e.source key).2 := .single (.decision s key)
  rw [evaluateKey]
  rcases hd : s.decisionFor e.source key with ⟨f | d, t⟩
  · rw [hd] at hdecision
    exact Outcome.evolvesFrom_some hdecision
  · rw [hd] at hdecision
    exact (evaluateGraph_evolvesFrom hask e d.graph context o t).of_evolves hdecision

/-- However many evaluations may still wait, the state evolves. -/
theorem askAt_evolvesBy (e : Engine σ) (depth : Nat) : (e.askAt depth).EvolvesBy e.source := by
  induction depth with
  | zero =>
    intro key context o s
    exact Outcome.evolvesFrom_some (.refl s)
  | succ depth ih =>
    intro key context o s
    exact evaluateKey_evolvesFrom ih key context o s

/-! ## Sessions -/

theorem step_evolvesFrom (e : Engine σ) (s : State σ) (step : Step σ) :
    (e.step s step).EvolvesFrom e.source s := by
  cases step with
  | load key => exact Outcome.evolvesFrom_some (.single (.store s _))
  | get key => exact Outcome.evolvesFrom_some (.single (.decision s key))
  | create g => exact Outcome.evolvesFrom_some (.single (.create s g))
  | evaluate key context o =>
    exact (evaluateKey_evolvesFrom (e.askAt_evolvesBy e.depth) key context o s).map fun _ _ => rfl
  | rerun d context o =>
    have hask := e.askAt_evolvesBy e.depth
    exact (evaluateGraph_evolvesFrom hask e d.graph context o s).map fun _ _ => rfl
  | change f => exact Outcome.evolvesFrom_some (.single (.store s _))

theorem run_evolves {steps : List (Step σ)} {s t : State σ} {answers : List (Except Fault Answer)}
    (h : e.run s steps = some (answers, t)) : s.Evolves e.source t := by
  induction steps generalizing s answers with
  | nil =>
    obtain ⟨_, rfl⟩ := Prod.mk.inj (Option.some.inj h)
    exact .refl s
  | cons first rest ih =>
    rw [run] at h
    rcases hfirst : e.step s first with _ | ⟨answer, u⟩
    · simp [hfirst] at h
    · simp only [hfirst, Option.map_eq_some_iff] at h
      obtain ⟨⟨answers', u'⟩, hrest, heq⟩ := h
      obtain ⟨_, rfl⟩ := Prod.mk.inj heq
      exact (step_evolvesFrom e s first answer u hfirst).trans (ih hrest)

end Engine

end DecisionFlow
