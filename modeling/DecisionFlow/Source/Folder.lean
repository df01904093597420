import DecisionFlow.Files.Tree
import DecisionFlow.Source.Basic
import DecisionFlow.Text.Utf8

set_option autoImplicit false

/-! # Folders

A folder gives the graph in the file that a key leads to, or in the file with the ending `.json`
that it then leads to. A key that leads out of the folder finds nothing. A folder may keep what it
has read, key by key.

The files are those of a tree, in which every file can be read. A file that is found and then
refused would be one more fault of sources; there is none here. -/

namespace DecisionFlow

open Files

/-- A folder that holds graphs. -/
structure Folder where
  /-- Where the folder is. -/
  location : Location
  /-- The path of the folder in messages. -/
  path : String
  /-- Whether graphs are kept once they are read. -/
  keeps : Bool
  deriving Repr, DecidableEq

/-- The files, and the graphs that were kept. -/
structure FolderState where
  /-- The files. -/
  tree : Tree
  /-- The kept graphs. -/
  kept : Fields Definition

namespace Folder

/-- The ending of files that a key may leave out. -/
def ending : String :=
  ".json"

/-- Where the file of a key may be, in the order in which it is looked for. -/
def candidates (f : Folder) (key : String) : List Location :=
  f.location.follow key ::
    if ending.toList.isSuffixOf key.toList then [] else [f.location.follow (key ++ ending)]

/-- The bytes of the first candidate that is a file. A candidate outside the folder ends the
    search. -/
def firstFile (f : Folder) (t : Tree) : List Location → Except Fault (Option (List UInt8))
  | [] => .ok none
  | l :: ls =>
    if l.isInside f.location then
      if t.isOverlong l then .error (.nameTooLong l.text)
      else
        match t.file? l with
        | some bytes => .ok (some bytes)
        | none => firstFile f t ls
    else .ok none

/-- The path of a key in messages. -/
def shownPath (f : Folder) (key : String) : String :=
  ((Shown.ofPath f.path).join (Shown.ofPath key)).text

/-- The bytes of the file that a key leads to. -/
def readBytes (f : Folder) (t : Tree) (key : String) : Except Fault (List UInt8) :=
  if isImpossible key then .error .impossiblePath
  else
    match f.firstFile t (f.candidates key) with
    | .error fault => .error fault
    | .ok none => .error (.source (.absentFile (f.shownPath key) key))
    | .ok (some bytes) => .ok bytes

/-- The graph in the bytes of the file of a key. -/
def graphOfBytes (key : String) (bytes : List UInt8) : Except Fault Definition :=
  match Text.decodeUtf8 bytes with
  | .error fault => .error (.undecodable fault)
  | .ok text => Source.graphOfText key (String.ofList text)

/-- Reads the graph of a key from the files. -/
def read (f : Folder) (t : Tree) (key : String) : Except Fault Definition :=
  match f.readBytes t key with
  | .error fault => .error fault
  | .ok bytes => graphOfBytes key bytes

/-- Keeps a graph that was read, if the folder keeps graphs. -/
def keep (f : Folder) (s : FolderState) (key : String) (g : Definition) : FolderState :=
  if f.keeps then ⟨s.tree, Fields.put s.kept key g⟩ else s

/-- Loads the graph of a key: a kept one, or else from the files. -/
def load (f : Folder) (key : String) (s : FolderState) : Except Fault Definition × FolderState :=
  match if f.keeps then Fields.get? s.kept key else none with
  | some g => (.ok g, s)
  | none =>
    match f.read s.tree key with
    | .ok g => (.ok g, f.keep s key g)
    | .error fault => (.error fault, s)

end Folder

/-- A folder as a source. -/
def Source.folder (f : Folder) : Source FolderState where
  name := "FilesystemLoader"
  load := f.load

end DecisionFlow
