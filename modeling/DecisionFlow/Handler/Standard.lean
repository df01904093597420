import DecisionFlow.Handler.Basic
import DecisionFlow.Node.Assignments
import DecisionFlow.Node.Switch
import DecisionFlow.Node.Table

set_option autoImplicit false

/-! # The standard handlers

What the nodes of the built-in kinds do. Input and output nodes pass their context on; nodes of the
other kinds compute what their content says. Without content an expression node and a switch pass
their context on too, and a decision table gives nothing. -/

namespace DecisionFlow

/-! ## Contents -/

/-- Reads a content as one kind of record: a content of that kind as it is, and an object by the
    check of the record. -/
def Content.readAs {α : Type} (record : String) (check : Check α) (own? : Content → Option α)
    (c : Content) : Except Fault α :=
  match own? c with
  | some a => .ok a
  | none =>
    match c with
    | .raw members =>
      match check (.obj members) with
      | .ok a => .ok a
      | .bad issues => .error (.invalid record issues)
    | _ => .error (.invalid record [⟨[], .notRecord⟩])

/-- Reads a content as expressions. -/
def Assignments.ofContent : Content → Except Fault Assignments :=
  Content.readAs "ExpressionContent" Assignments.check fun
    | .assignments a => some a
    | _ => none

/-- Reads a content as a decision table. -/
def Table.ofContent : Content → Except Fault Table :=
  Content.readAs "DecisionTableContent" Table.check fun
    | .table t => some t
    | _ => none

/-- Reads a content as a switch. -/
def Switch.ofContent : Content → Except Fault Switch :=
  Content.readAs "SwitchContent" (Switch.check .data) fun
    | .switch s => some s
    | _ => none

/-- The result of a node that computes with its content, given its result without content. -/
def Node.compute {α : Type} (n : Node) (read : Content → Except Fault α) (without : Value)
    (evaluate : α → Except Fault Value) : Action :=
  match n.content with
  | none => .give without
  | some c => .ofResult ((read c).bind evaluate)

/-! ## Handlers -/

namespace Handler

/-- A handler of a built-in kind, under both its tags. -/
def ofKind (kind : NodeKind) (terminal : Bool) (act : Node → Value → Action) : Handler :=
  ⟨kind.tag, defaultAliases kind.tag, terminal, act⟩

/-- Passes the context on. -/
def input : Handler :=
  ofKind .input false fun _ context => .give context

/-- Passes the context on, and ends the evaluation. -/
def output : Handler :=
  ofKind .output true fun _ context => .give context

/-- Gives what the rows of a decision table give. -/
def table : Handler :=
  ofKind .table false fun n context =>
    n.compute Table.ofContent .null fun t => t.evaluate context

/-- Gives the object that the expressions make up. -/
def expression : Handler :=
  ofKind .expression false fun n context =>
    n.compute Assignments.ofContent context fun a =>
      (a.evaluate context).mapError fun fault => .nodeFailed n.id n.tag fault.message

/-- Passes the context on when a branch applies. -/
def switch : Handler :=
  ofKind .switch false fun n context =>
    n.compute Switch.ofContent context fun s => .ok (s.evaluate context)

/-- The handlers of the built-in kinds. -/
def standard : List Handler :=
  [input, output, table, expression, switch]

end Handler

end DecisionFlow
