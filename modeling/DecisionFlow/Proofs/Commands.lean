import DecisionFlow.Command.Display
import DecisionFlow.Command.Run
import DecisionFlow.Proofs.Keeping
import DecisionFlow.Proofs.Markup
import DecisionFlow.Proofs.Words

set_option autoImplicit false

/-! # Evaluations on the command line

A command line has a new engine evaluate a decision. What the engine depends on is merged from the
options of the command line, the variables of the environment and the defaults, each part by itself;
what the engine comes to decides what the program prints and how it exits. -/

namespace DecisionFlow

/-! ## Settings -/

namespace Settings

variable {env : Environment} {name : String} {s : Settings}

end Settings

namespace Command

/-! ## Options, variables and defaults -/

/-- What a part of the settings comes to: what the options of the command line say, or else what its
    variable in the environment says, or else its default. -/
inductive Chosen {α : Type} (given : α → Prop) (set? : Option String) (reads : String → α → Prop)
    (default : α) : α → Prop where
  /-- The options say it. -/
  | option {a : α} : given a → Chosen given set? reads default a
  /-- The options are silent, and the variable is set. -/
  | environment {text : String} {a : α} : (∀ b, ¬given b) → set? = some text → reads text a →
    Chosen given set? reads default a
  /-- Both are silent. -/
  | default : (∀ b, ¬given b) → set? = none → Chosen given set? reads default default

theorem Chosen.unique {α : Type} {given : α → Prop} {set? : Option String}
    {reads : String → α → Prop} {default a b : α} (hgiven : ∀ a b, given a → given b → a = b)
    (hreads : ∀ text a b, reads text a → reads text b → a = b)
    (ha : Chosen given set? reads default a) (hb : Chosen given set? reads default b) : a = b := by
  cases ha with
  | option ha =>
    cases hb with
    | option hb => exact hgiven a b ha hb
    | environment hsilent _ _ => exact absurd ha (hsilent a)
    | default hsilent _ => exact absurd ha (hsilent a)
  | environment hsilent hset hread =>
    cases hb with
    | option hb => exact absurd hb (hsilent b)
    | environment _ hset' hread' =>
      obtain rfl := Option.some.inj (hset.symm.trans hset')
      exact hreads _ a b hread hread'
    | default _ hunset => exact nomatch hset.symm.trans hunset
  | default hsilent hunset =>
    cases hb with
    | option hb => exact absurd hb (hsilent b)
    | environment _ hset _ => exact nomatch hunset.symm.trans hset
    | default => rfl

variable {env : Environment} {d : Desk} {w : Words} {s : Settings}

/-- What an evaluation on the command line depends on besides its key and its context. -/
structure Merged (env : Environment) (given : List Given) (folder : String) (o : Options) :
    Prop where
  /-- The folder with the decisions. -/
  folder : Chosen (Names given "--decisions-dir") (Fields.get? env "DECISIONS_DIR") Eq "decisions"
    folder
  /-- Whether to report every visit. -/
  trace : Chosen (Chooses given "--trace" "--no-trace") (Fields.get? env "INCLUDE_TRACE")
    (fun text b => Check.wordFlag? text = some b) false o.includeTrace
  /-- Whether to report the time taken. -/
  performance : Chosen (Chooses given "--performance" "--no-performance")
    (Fields.get? env "INCLUDE_PERFORMANCE") (fun text b => Check.wordFlag? text = some b) false
    o.includePerformance
  /-- How many milliseconds the evaluation may take. -/
  budget : Chosen (fun n => ∃ text, Names given "--timeout-ms" text ∧ positive? text = some n)
    (Fields.get? env "MAX_EXECUTION_TIME_MS") (fun text n => Number.Grouped.read text = .ok n) 30000
    o.maxExecutionTimeMs

/-- The parts are merged in one way. -/
theorem Merged.unique {given : List Given} {folder folder' : String} {o o' : Options}
    (h : Merged env given folder o) (h' : Merged env given folder' o') :
    folder' = folder ∧ o' = o := by
  have hflags : ∀ text (a b : Bool), Check.wordFlag? text = some a → Check.wordFlag? text = some b →
      a = b := fun text a b ha hb => Option.some.inj (ha.symm.trans hb)
  have hfolder := h'.folder.unique (fun a b => Names.unique)
    (fun text a b ha hb => ha.symm.trans hb) h.folder
  have htrace := h'.trace.unique (fun a b => Chooses.unique) hflags h.trace
  have hperformance := h'.performance.unique (fun a b => Chooses.unique) hflags h.performance
  have hgiven : ∀ a b, (∃ text, Names given "--timeout-ms" text ∧ positive? text = some a) →
      (∃ text, Names given "--timeout-ms" text ∧ positive? text = some b) → a = b := by
    rintro a b ⟨text, htext, ha⟩ ⟨text', htext', hb⟩
    obtain rfl := htext.unique htext'
    exact Option.some.inj (ha.symm.trans hb)
  have hbudget := h'.budget.unique hgiven
    (fun text a b ha hb => Except.ok.inj (ha.symm.trans hb)) h.budget
  obtain ⟨trace, performance, budget⟩ := o
  obtain ⟨trace', performance', budget'⟩ := o'
  dsimp only at htrace hperformance hbudget
  exact ⟨hfolder, by rw [htrace, hperformance, hbudget]⟩

/-- The request of words that name a key. -/
def Words.request (w : Words) (d : Desk) (key : String) : EvaluateRequest where
  key := key
  context := w.value? "--context"
  contextFile := (w.value? "--context-file").bind d.fileAt?
  folder := w.value? "--decisions-dir"
  trace := w.choice? "--trace" "--no-trace"
  performance := w.choice? "--performance" "--no-performance"
  budget := (w.value? "--timeout-ms").bind positive?
  json := w.has "--json"

end Command

end DecisionFlow
