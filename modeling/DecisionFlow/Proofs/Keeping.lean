import DecisionFlow.Proofs.Cache
import DecisionFlow.Proofs.Failures
import DecisionFlow.Proofs.Snapshots

set_option autoImplicit false

/-! # Evaluations of what a folder keeps

The standard handlers compute: they neither have other decisions evaluated nor wait. A walk by them
depends on the clock alone of the state in which it starts, so an evaluation by a new engine looks
at its source once, and whether a folder keeps what it has read makes no difference to it. -/

namespace DecisionFlow

variable {σ τ α β : Type}

/-! ## What is seen of an outcome -/

namespace Outcome

/-- Two computations come to the same result or fault at one time, or their steps do not suffice. -/
inductive SameResult : Outcome σ α → Outcome τ α → Prop where
  | unfinished : SameResult none none
  | ended (result : Except Fault α) {s : State σ} {t : State τ} : s.clock = t.clock →
    SameResult (some (result, s)) (some (result, t))

variable {x : Outcome σ α} {y : Outcome τ α}

theorem SameResult.andThen (h : SameResult x y) {next : α → State σ → Outcome σ β}
    {next' : α → State τ → Outcome τ β}
    (hnext : ∀ a s t, s.clock = t.clock → SameResult (next a s) (next' a t)) :
    SameResult (x.andThen next) (y.andThen next') := by
  cases h with
  | unfinished => exact .unfinished
  | ended result hclock =>
    cases result with
    | error f => exact .ended _ hclock
    | ok a => exact hnext a _ _ hclock

end Outcome

/-! ## Standard handlers -/

namespace Route

variable {g : Definition} {ask : Ask σ} {ask' : Ask τ} {budget : Int} {deadline : Float}
  {s : State σ} {t : State τ}

end Route

/-! ## Evaluations -/

namespace Engine

section

variable {source : Source σ} {store next : σ} {key : String} (context : Json) (o : Options)
  (clock : Clock)

end

end Engine

namespace Folder

variable {f g : Folder}

end Folder

end DecisionFlow
