import DecisionFlow.Command.Options
import DecisionFlow.Proofs.Conditions
import DecisionFlow.Proofs.LastElements

set_option autoImplicit false

/-! # The grammar of command lines

A command line is a sequence of options, each with its value in the next word or attached to it, and
of other words among them; two dashes alone make other words of all that follows. The words are read
as options exactly when they follow the grammar. Of options that say the same thing, the last one
counts. -/

namespace DecisionFlow

namespace Command

variable {known : Fields Arity} {words : List String} {w : Words}

/-! ## Grammar -/

/-- An option of a name is given a value, and no later option has the name. -/
def Names (given : List Given) (name value : String) : Prop :=
  IsLast (fun g => g.name = name) given ⟨name, some value⟩

/-- One of two opposite flags is given, and no later option is one of them. -/
def Chooses (given : List Given) (yes no : String) (choice : Bool) : Prop :=
  ∃ g, IsLast (fun g => g.name = yes ∨ g.name = no) given g ∧ choice = decide (g.name = yes)

namespace Words

theorem value?_eq_some_iff {name value : String} :
    w.value? name = some value ↔ Names w.given name value := by
  rw [value?, Option.bind_eq_some_iff]
  constructor
  · rintro ⟨⟨found, _⟩, hlast, rfl⟩
    have hlast := getLast?_filter_eq_some_iff.1 hlast
    obtain rfl : found = name := hlast.holds
    exact hlast
  · intro h
    exact ⟨_, getLast?_filter_eq_some_iff.2 h, rfl⟩

theorem choice?_eq_some_iff {yes no : String} {choice : Bool} :
    w.choice? yes no = some choice ↔ Chooses w.given yes no choice := by
  rw [choice?, Option.map_eq_some_iff]
  constructor
  · rintro ⟨g, hlast, rfl⟩
    exact ⟨g, getLast?_filter_eq_some_iff.1 hlast, rfl⟩
  · rintro ⟨g, hlast, rfl⟩
    exact ⟨g, getLast?_filter_eq_some_iff.2 hlast, rfl⟩

end Words

variable {given : List Given}

theorem Names.unique {name a b : String} (ha : Names given name a) (hb : Names given name b) :
    a = b := by
  rw [← Words.value?_eq_some_iff (w := ⟨given, []⟩)] at ha hb
  exact Option.some.inj (ha.symm.trans hb)

theorem Chooses.unique {yes no : String} {a b : Bool} (ha : Chooses given yes no a)
    (hb : Chooses given yes no b) : a = b := by
  rw [← Words.choice?_eq_some_iff (w := ⟨given, []⟩)] at ha hb
  exact Option.some.inj (ha.symm.trans hb)

end Command

end DecisionFlow
