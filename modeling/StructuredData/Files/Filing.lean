import StructuredData.Files.Tree

/-!
# Filing

Work on a file tree is a row of operations.  When one of them fails, the work ends there, and what
the earlier ones have made and written stays.
-/

namespace StructuredData

/-- Work on a file tree that can fail, and leaves the tree as it is at that point. -/
abbrev Filing (ε : Type) := ExceptT ε (StateM FileTree)

namespace Filing

/-- One operation on the tree. -/
def step {ε : Type} (operation : FileTree → Except FileFault FileTree) (wrap : FileFault → ε) :
    Filing ε Unit := do
  match operation (← get) with
  | .ok tree => set tree
  | .error fault => throw (wrap fault)

/-- Makes a directory and those on the way to it. -/
def makeDirectories {ε : Type} (p : Path) (wrap : FileFault → ε) : Filing ε Unit := do
  let (tree, fault) := (← get).grow p
  set tree
  match fault with
  | none => pure ()
  | some fault => throw (wrap fault)

/-- Writes a file whose directory is made if need be.  The written path may lead elsewhere than its
names do. -/
def writeText {ε : Type} (path : Text) (content : Octets) (wrap : FileFault → ε) :
    Filing ε Unit := do
  makeDirectories (Path.ofText path).parent wrap
  step (·.writeText path content) wrap

/-- Writes texts one after another to a file.  When one of them has no octets, the file holds those
before it. -/
def writeTexts {ε : Type} (path : Text) (texts : List Text) (wrap : FileFault → ε)
    (refuse : Utf8.EncodeError → ε) : Filing ε Unit := do
  let (octets, fault) := Utf8.encodeAll texts
  step (·.writeText path octets) wrap
  match fault with
  | none => pure ()
  | some e => throw (refuse e)

/-- The result of some work on a tree, and the tree that the work leaves. -/
def on {ε α : Type} (work : Filing ε α) (tree : FileTree) : Except ε α × FileTree :=
  work.run.run tree

end Filing

end StructuredData
