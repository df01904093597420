import DecisionFlow.Proofs.Faults

set_option autoImplicit false

/-! # What a caller asks to see

A caller may ask for the trace of an evaluation and for its performance. For the trace, every turn
of the walk notes its stop; for the performance, the clock is read once more at the end. Neither
changes anything else: not the result or the fault, not which handlers start one after the other and
where, and not the other part of the report. No turn depends on the log, so two walks with different
logs take the same turns (`Route.Turns.exists_of_log`) and make the same journey
(`Route.walkOn_eq_walk`). -/

namespace DecisionFlow

variable {σ : Type}

/-! ## The parts of a report -/

namespace Report

/-- The keys of the parts that a report has. -/
def parts (r : Report) : List String :=
  "result" :: ((r.trace.map fun _ => "trace").toList ++
    (r.performance.map fun _ => "performance").toList)

theorem keys_toJson (r : Report) : ∃ members, r.toJson = .obj members ∧
    Fields.keys members = r.parts := by
  obtain ⟨result, trace, performance⟩ := r
  refine ⟨_, rfl, ?_⟩
  cases trace <;> cases performance <;> rfl

theorem member?_toJson (r : Report) (key : String) :
    r.toJson.member? key =
      if key = "result" then some r.result.toJson
      else if key = "trace" then
        r.trace.map fun stops => .arr (stops.map fun s => s.toVisit.toJson)
      else if key = "performance" then r.performance.map Performance.toJson
      else none := by
  obtain ⟨result, trace, performance⟩ := r
  simp only [toJson, Json.member?]
  cases trace <;> cases performance <;> grind [Fields.get?]

/-- Two reports of one result that say the same wherever both say something. -/
structure Agrees (r r' : Report) : Prop where
  /-- The result is the same. -/
  result : r.result = r'.result
  /-- A part that both have is the same. -/
  part : ∀ key d d', r.toJson.member? key = some d → r'.toJson.member? key = some d' → d = d'

end Report

/-! ## Evaluations -/

/-- Two evaluations come to the same but for what they report: to the same fault in one state, or to
    reports that agree, in states that differ in the clock at most. -/
inductive Outcome.SameButReport : Outcome σ Report → Outcome σ Report → Prop where
  /-- The steps of both do not suffice. -/
  | unfinished : SameButReport none none
  /-- Both fail. -/
  | error (f : Fault) (s : State σ) : SameButReport (some (.error f, s)) (some (.error f, s))
  /-- Both report. -/
  | ok {r r' : Report} {s s' : State σ} : r.Agrees r' → { s with clock := s'.clock } = s' →
    SameButReport (some (.ok r, s)) (some (.ok r', s'))

namespace Journey

variable {j : Journey} {o o' : Options} {started : Float} {s t t' : State σ} {r r' : Report}

/-- The report of a journey has the parts that were asked for. -/
theorem parts_of_report (h : j.report o started s = (r, t)) :
    r.parts = "result" :: ((if o.includeTrace then ["trace"] else []) ++
      if o.includePerformance then ["performance"] else []) := by
  obtain ⟨_, htrace, hperformance, _⟩ := report_eq_iff.1 h
  rw [Report.parts, htrace, hperformance]
  cases o.includeTrace <;> cases o.includePerformance <;> rfl

/-- Reports of one journey agree, and leave states that differ in the clock at most. -/
theorem report_agrees (h : j.report o started s = (r, t)) (h' : j.report o' started s = (r', t')) :
    r.Agrees r' ∧ { t with clock := t'.clock } = t' := by
  obtain ⟨hresult, htrace, hperformance, rfl⟩ := report_eq_iff.1 h
  obtain ⟨hresult', htrace', hperformance', rfl⟩ := report_eq_iff.1 h'
  refine ⟨⟨hresult.trans hresult'.symm, fun key d d' hd hd' => ?_⟩, ?_⟩
  · rw [Report.member?_toJson, hresult, htrace, hperformance] at hd
    rw [Report.member?_toJson, hresult', htrace', hperformance'] at hd'
    grind
  · cases o.includePerformance <;> cases o'.includePerformance <;> rfl

end Journey

/-! ## Turns -/

namespace Route

variable {r : Route σ} {p q : Standpoint σ} {n : Nat} {log log' : Log}

/-- A walk that stands at one standpoint with a log comes to another one, with the log that it has
    then, after that many turns. -/
inductive Turns (r : Route σ) : Nat → Standpoint σ → Log → Standpoint σ → Log → Prop where
  /-- It stands there. -/
  | here {p : Standpoint σ} {log : Log} : Turns r 0 p log p log
  /-- It takes a turn and comes there. -/
  | onward {n : Nat} {p m q : Standpoint σ} {log noted log' : Log} :
    r.turn p.station p.context log p.state =
      some (.ok (.goes m.station m.context, noted), m.state) →
    Turns r n m noted q log' → Turns r (n + 1) p log q log'

/-- A turn that does not end the walk is a visit, of which the log says no more than its stop. -/
theorem turn_eq_goes_iff {station next : Station} {context passed : Value} {s t : State σ} :
    r.turn station context log s = some (.ok (.goes next passed, log'), t) ↔
      ∃ h stop, r.visit station context s = some (.ok (h, stop), t) ∧
        r.next? h station.2 = some next ∧ passed = stop.passedOn ∧ log' = log.note stop := by
  rw [turn, Outcome.andThen_eq_ok_iff]
  constructor
  · rintro ⟨⟨h, stop⟩, u, hvisit, hturn⟩
    cases hnext : r.next? h station.2 with
    | none => simp [hnext] at hturn
    | some next' =>
      simp only [hnext, Option.some.injEq, Prod.mk.injEq, Except.ok.injEq,
        Departure.goes.injEq] at hturn
      obtain ⟨⟨⟨rfl, rfl⟩, rfl⟩, rfl⟩ := hturn
      exact ⟨h, stop, hvisit, hnext, rfl, rfl⟩
  · rintro ⟨h, stop, hvisit, hnext, rfl, rfl⟩
    exact ⟨(h, stop), t, hvisit, by simp [hnext]⟩

/-- With any log, a turn goes on where a visit does. -/
theorem goes_iff_turn (log : Log) : r.Goes p q ↔ ∃ noted,
    r.turn p.station p.context log p.state =
      some (.ok (.goes q.station q.context, noted), q.state) := by
  simp only [turn_eq_goes_iff]
  constructor
  · rintro ⟨h, stop, hvisit, hnext, hcontext⟩
    exact ⟨_, h, stop, hvisit, hnext, hcontext, rfl⟩
  · rintro ⟨_, h, stop, hvisit, hnext, hcontext, -⟩
    exact ⟨h, stop, hvisit, hnext, hcontext⟩

/-- With another log, a walk comes to the same standpoint after as many turns. -/
theorem Turns.exists_of_log (h : r.Turns n p log q log') (other : Log) :
    ∃ other', r.Turns n p other q other' := by
  induction h generalizing other with
  | here => exact ⟨other, .here⟩
  | @onward _ _ _ _ log _ _ hturn _ ih =>
    obtain ⟨noted, hother⟩ := (goes_iff_turn other).1 ((goes_iff_turn log).2 ⟨_, hturn⟩)
    obtain ⟨other', hrest⟩ := ih noted
    exact ⟨other', .onward hother hrest⟩

/-- A walk comes to the standpoints to which its turns lead. -/
theorem reaches_iff_exists_turns {steps : Nat} (log : Log) :
    r.Reaches steps p q ↔ ∃ n log', n < steps ∧ r.Turns n p log q log' := by
  constructor
  · intro hreach
    induction hreach generalizing log with
    | here => exact ⟨0, log, Nat.succ_pos _, .here⟩
    | onward hgoes _ ih =>
      obtain ⟨noted, hturn⟩ := (goes_iff_turn log).1 hgoes
      obtain ⟨n, log', hn, hturns⟩ := ih noted
      exact ⟨n + 1, log', Nat.succ_lt_succ hn, .onward hturn hturns⟩
  · rintro ⟨n, log', hn, hturns⟩
    induction hturns generalizing steps with
    | here =>
      obtain ⟨steps, rfl⟩ := Nat.exists_eq_succ_of_ne_zero (Nat.ne_zero_of_lt hn)
      exact .here
    | onward hturn _ ih =>
      obtain ⟨steps, rfl⟩ := Nat.exists_eq_succ_of_ne_zero (Nat.ne_zero_of_lt hn)
      exact .onward ((goes_iff_turn _).2 ⟨_, hturn⟩) (ih (Nat.lt_of_succ_lt_succ hn))

end Route

namespace Engine

/-- After that many turns of its walk, an evaluation starts the handler of a node. -/
def StartsAfter (e : Engine σ) (ask : Ask σ) (g : Definition) (context : Json) (o : Options)
    (s : State σ) (n : Nat) (q : Standpoint σ) (h : Handler) : Prop :=
  n < e.steps ∧ ∃ limit entry v log, deadline s.clock.now o.maxExecutionTimeMs = .ok limit ∧
    g.start context = .ok (entry, v) ∧
    (e.route ask g o limit).Turns n ⟨entry, v, s.tick⟩ (.start o.includeTrace) q log ∧
    (e.route ask g o limit).handlerFor q.station.2 q.state.clock.now = .ok h

variable {e : Engine σ} {ask : Ask σ} {g : Definition} {context : Json} {o o' : Options}
  {s : State σ} {n : Nat} {q : Standpoint σ} {h : Handler}

/-- The handlers that an evaluation starts are those that it starts after some number of turns. -/
theorem starts_iff_exists_startsAfter :
    e.Starts ask g context o s q h ↔ ∃ n, e.StartsAfter ask g context o s n q h := by
  simp only [Starts, Route.reaches_iff_exists_turns (.start o.includeTrace)]
  constructor
  · rintro ⟨limit, entry, v, hlimit, hstart, ⟨n, log, hn, hturns⟩, hhandler⟩
    exact ⟨n, hn, limit, entry, v, log, hlimit, hstart, hturns, hhandler⟩
  · rintro ⟨n, hn, limit, entry, v, log, hlimit, hstart, hturns, hhandler⟩
    exact ⟨limit, entry, v, hlimit, hstart, ⟨n, log, hn, hturns⟩, hhandler⟩

/-- Within one budget, an evaluation starts the same handler after as many turns, whatever is asked
    for. -/
theorem StartsAfter.of_budget (hs : e.StartsAfter ask g context o s n q h)
    (hbudget : o'.maxExecutionTimeMs = o.maxExecutionTimeMs) :
    e.StartsAfter ask g context o' s n q h := by
  obtain ⟨hn, limit, entry, v, log, hlimit, hstart, hturns, hhandler⟩ := hs
  obtain ⟨log', hturns'⟩ := hturns.exists_of_log (.start o'.includeTrace)
  refine ⟨hn, limit, entry, v, log', ?_⟩
  rw [route, hbudget]
  exact ⟨hlimit, hstart, hturns', hhandler⟩

end Engine

/-- Observation is transparent. Under two of the four combinations of what may be asked for, with
    one budget and one clock, an evaluation starts the same handlers at the same standpoints one
    after the other, in one context and state, and it comes to the same result or fault; the report
    has the trace exactly when it was asked for and the performance exactly when it was asked for,
    and each of them says the same whether or not the other one was asked for. -/
theorem Engine.observation_transparent (e : Engine σ) (ask : Ask σ) (g : Definition)
    (context : Json) (budget : Int) (s : State σ) (trace performance trace' performance' : Bool) :
    (∀ n q h, e.StartsAfter ask g context ⟨trace, performance, budget⟩ s n q h ↔
      e.StartsAfter ask g context ⟨trace', performance', budget⟩ s n q h) ∧
    Outcome.SameButReport (e.evaluateGraph ask g context ⟨trace, performance, budget⟩ s)
      (e.evaluateGraph ask g context ⟨trace', performance', budget⟩ s) ∧
    ∀ report t,
      e.evaluateGraph ask g context ⟨trace, performance, budget⟩ s = some (.ok report, t) →
      ∃ members, report.toJson = .obj members ∧
        Fields.keys members = "result" :: ((if trace then ["trace"] else []) ++
          if performance then ["performance"] else []) := by
  refine ⟨fun n q h => ⟨fun hs => hs.of_budget rfl, fun hs => hs.of_budget rfl⟩, ?_,
    fun report t hreport => ?_⟩
  · -- Whatever the logs are, both walks make the journey of the walk without one.
    have htravel : e.travel ask g context ⟨trace, performance, budget⟩ s =
        e.travel ask g context ⟨trace', performance', budget⟩ s := rfl
    rw [evaluateGraph_eq_travel, evaluateGraph_eq_travel, htravel]
    rcases e.travel ask g context ⟨trace', performance', budget⟩ s with _ | ⟨f | j, t⟩
    · exact .unfinished
    · exact .error f t
    · obtain ⟨hagrees, hstate⟩ :=
        Journey.report_agrees (t := (j.report _ s.clock.now t).2) rfl rfl
      exact .ok hagrees hstate
  · obtain ⟨j, u, _, hj⟩ := evaluateGraph_eq_ok_iff_travel.1 hreport
    rw [← Journey.parts_of_report hj]
    exact report.keys_toJson

end DecisionFlow
