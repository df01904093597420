import DecisionFlow.Files.Location

set_option autoImplicit false

/-! # File trees

What is stored where: files with their bytes, and folders. A folder is there when it was made or
when something lies in it. There are no links and no permissions: every file that is found can be
read. -/

namespace DecisionFlow.Files

/-- What may stand at a location. -/
inductive Entry where
  /-- A file with its bytes. -/
  | file (bytes : List UInt8)
  /-- A folder. -/
  | folder
  deriving Repr, DecidableEq

/-- The entries of a tree with their locations. -/
abbrev Tree := List (Location × Entry)

namespace Tree

/-- The entry that was put at a location. -/
def lookup? : Tree → Location → Option Entry
  | [], _ => none
  | (l, e) :: t, location => if l = location then some e else lookup? t location

/-- The bytes of the file at a location, if there is a file. -/
def file? (t : Tree) (location : Location) : Option (List UInt8) :=
  match t.lookup? location with
  | some (.file bytes) => some bytes
  | _ => none

/-- Whether there is a folder at a location. -/
def isFolder (t : Tree) (location : Location) : Bool :=
  location.isEmpty || t.any fun (l, e) =>
    if l = location then e = .folder else Location.isInside l location

/-- Where the names of a path lead, one after the other; every step starts at a folder. -/
def reach? (t : Tree) (l : Location) : List String → Option Location
  | [] => some l
  | name :: names =>
    if t.isFolder l then
      reach? t (if name = "" ∨ name = "." then l else l.step name) names
    else none

/-- What the path of an existing file or folder leads to from a location. -/
def find? (t : Tree) (l : Location) (path : String) : Option Entry :=
  if path = "" then none
  else
    let names := (Text.segments '/' path.toList).map String.ofList
    match t.reach? (if isAbsolute path then [] else l) names with
    | none => none
    | some target => if t.isFolder target then some .folder else t.lookup? target

/-- The most bytes that a name may have. -/
def nameLimit : Nat :=
  255

/-- The most bytes that a path may have. -/
def pathLimit : Nat :=
  4095

/-- Whether one of the names that lead on from a location is too long. Names are looked at as long
    as they are to be found in a folder. -/
def hasLongName (t : Tree) (l : Location) : List String → Bool
  | [] => false
  | name :: names =>
    t.isFolder l && (nameLimit < name.utf8ByteSize || hasLongName t (l ++ [name]) names)

/-- Whether nothing can be looked up at a location because the path that leads to it is too long, or
    one of its names. -/
def isOverlong (t : Tree) (l : Location) : Bool :=
  pathLimit < l.text.utf8ByteSize || t.hasLongName [] l

/-- Drops the entry at a location. -/
def remove (t : Tree) (location : Location) : Tree :=
  t.filter fun (l, _) => l ≠ location

/-- Puts an entry at a location, in place of the one before. -/
def put (t : Tree) (location : Location) (e : Entry) : Tree :=
  (location, e) :: t.remove location

theorem lookup?_remove (t : Tree) (location other : Location) :
    (t.remove location).lookup? other = if other = location then none else t.lookup? other := by
  induction t with
  | nil => simp [remove, lookup?]
  | cons head t ih =>
    obtain ⟨l, e⟩ := head
    unfold remove at ih ⊢
    by_cases hl : l = location
    · subst hl
      by_cases ho : other = l
      · simpa [ho] using ih
      · simp [ho, Ne.symm ho, lookup?] at ih ⊢
        exact ih
    · by_cases ho : other = location
      · subst ho
        simp [hl, lookup?] at ih ⊢
        exact ih
      · by_cases he : l = other <;> simp [hl, ho, he, lookup?] at ih ⊢
        exact ih

theorem lookup?_put (t : Tree) (location other : Location) (e : Entry) :
    (t.put location e).lookup? other = if other = location then some e else t.lookup? other := by
  by_cases h : other = location
  · simp [put, lookup?, h]
  · simp [put, lookup?, h, Ne.symm h, lookup?_remove]

end Tree

end DecisionFlow.Files
