import DecisionFlow.Fields
import DecisionFlow.Text.Segment

set_option autoImplicit false

/-! # Command line options

The words of a command line are options and other words. An option that takes a value takes the
next word, whatever it is, or what follows an equals sign. Two dashes alone end the options. -/

namespace DecisionFlow.Command

/-- Whether an option takes a value. -/
inductive Arity where
  | flag | value
  deriving Repr, DecidableEq

/-- An option on a command line, with its value if it takes one. -/
structure Given where
  /-- The name with its dashes. -/
  name : String
  /-- The value. -/
  value : Option String
  deriving Repr, DecidableEq

/-- The words of a command line. -/
structure Words where
  /-- The options in order. -/
  given : List Given
  /-- The other words. -/
  rest : List String
  deriving Repr, DecidableEq

namespace Words

/-- Puts an option in front. -/
def withOption (name : String) (value : Option String) (w : Words) : Words :=
  ⟨⟨name, value⟩ :: w.given, w.rest⟩

/-- Puts another word in front. -/
def withWord (word : String) (w : Words) : Words :=
  ⟨w.given, word :: w.rest⟩

/-- The value of the last option of a name. -/
def value? (w : Words) (name : String) : Option String :=
  ((w.given.filter fun g => g.name = name).getLast?).bind Given.value

/-- Whether an option is there. -/
def has (w : Words) (name : String) : Bool :=
  w.given.any fun g => g.name = name

/-- What the last of two opposite flags says. -/
def choice? (w : Words) (yes no : String) : Option Bool :=
  ((w.given.filter fun g => g.name = yes ∨ g.name = no).getLast?).map fun g => g.name = yes

/-- The first option of some names. -/
def first? (w : Words) (names : List String) : Option String :=
  (w.given.find? fun g => names.contains g.name).map Given.name

end Words

/-- Whether a word is an option. A dash alone is none. -/
def isOption (word : String) : Bool :=
  match word.toList with
  | '-' :: _ :: _ => true
  | _ => false

/-- The name of an option and the value after an equals sign. -/
def splitOption (word : String) : String × Option String :=
  match Text.cut ['='] word.toList with
  | some (name, value) => (String.ofList name, some (String.ofList value))
  | none => (word, none)

/-- Reads words. When options and other words may not be `mixed`, the first other word ends the
    options. None when an option is unknown, lacks its value, or has one that it does not take. -/
def parse (known : Fields Arity) (mixed : Bool) : List String → Option Words
  | [] => some ⟨[], []⟩
  | word :: words =>
    if word = "--" then some ⟨[], words⟩
    else if isOption word then
      match splitOption word with
      | (name, attached) =>
        match Fields.get? known name, attached with
        | none, _ => none
        | some .flag, none => (parse known mixed words).map (Words.withOption name none)
        | some .flag, some _ => none
        | some .value, some v => (parse known mixed words).map (Words.withOption name (some v))
        | some .value, none =>
          match words with
          | [] => none
          | v :: rest => (parse known mixed rest).map (Words.withOption name (some v))
    else if mixed then (parse known mixed words).map (Words.withWord word)
    else some ⟨[], word :: words⟩
termination_by words => words.length

example : parse [("--json", .flag), ("--to", .value)] true ["a", "--to", "-x", "--json", "--", "-b"]
    = some ⟨[⟨"--to", some "-x"⟩, ⟨"--json", none⟩], ["a", "-b"]⟩ := by
  decide +kernel

example : parse [("--json", .flag)] true ["--json=1"] = none := by decide +kernel

example : parse [] false ["-", "--"] = some ⟨[], ["-", "--"]⟩ := by decide +kernel

end DecisionFlow.Command
