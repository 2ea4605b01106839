import StructuredData.Files.Path
import StructuredData.Text.Utf8

/-!
# File trees

The files, directories and links below the working directory.  A place is the row of names that
leads to a node; the working directory itself, the directories above it and the root are always
there.  Every operation gives a new tree or names the fault and the path at which it arose.

A link stands for the run directory it names: it can be made and removed, and is neither read nor
written through.

A path is handed to the system as octets.  A text that has none, or in which a null character
stands, is the path of nothing.
-/

namespace StructuredData

/-- What a place can hold. -/
inductive FileNode
  | file (content : Octets)
  | directory
  | link (target : Text)
deriving DecidableEq

/-- The row of names that leads to a node. -/
abbrev Place := List Text

/-- A file tree: places with what they hold. -/
structure FileTree where
  nodes : List (Place × FileNode)

/-- What can be wrong with a path. -/
inductive FileFaultKind
  | notFound
  | notDirectory
  | isDirectory
  | alreadyExists
  | nameTooLong
  | nullCharacter
  | unencodable (error : Utf8.EncodeError)
deriving DecidableEq

/-- A fault and the path, as it was written, at which it arose. -/
structure FileFault where
  kind : FileFaultKind
  path : Text
deriving DecidableEq

namespace FileFaultKind

/-- The system's number for a fault, if it is one that the system finds. -/
def number? : FileFaultKind → Option Nat
  | .notFound => some 2
  | .notDirectory => some 20
  | .isDirectory => some 21
  | .alreadyExists => some 17
  | .nameTooLong => some 36
  | .nullCharacter => none
  | .unencodable _ => none

/-- The words for a fault. -/
def words : FileFaultKind → Text
  | .notFound => "No such file or directory"
  | .notDirectory => "Not a directory"
  | .isDirectory => "Is a directory"
  | .alreadyExists => "File exists"
  | .nameTooLong => "File name too long"
  | .nullCharacter => "embedded null byte"
  | .unencodable e => e.message

/-- Whether a fault is found before the system is asked: the path is none at all. -/
def isInPath (kind : FileFaultKind) : Bool := kind.number?.isNone

end FileFaultKind

/-- The wording of a fault. -/
def FileFault.message (f : FileFault) : Text :=
  match f.kind.number? with
  | none => f.kind.words
  | some number =>
    "[Errno " ++ Text.ofNat number ++ "] " ++ f.kind.words ++ ": " ++ Text.quoted f.path

namespace FileTree

/-- The tree with nothing in it. -/
def empty : FileTree := ⟨[]⟩

/-- The working directory and the directories above it. -/
def isImplicit (place : Place) : Bool := place.all (· = (".." : Text)) || place = [("/" : Text)]

/-- What a place holds. -/
def node? (t : FileTree) (place : Place) : Option FileNode :=
  if isImplicit place then some .directory
  else (t.nodes.find? fun entry => entry.1 = place).map (·.2)

/-- The tree with a place holding the given node. -/
def put (t : FileTree) (place : Place) (node : FileNode) : FileTree :=
  ⟨(t.nodes.filter fun entry => entry.1 ≠ place) ++ [(place, node)]⟩

theorem node?_put_self (t : FileTree) {place : Place} (h : isImplicit place = false)
    (node : FileNode) : (t.put place node).node? place = some node := by
  have hnone : List.find? (fun entry => decide (entry.1 = place))
      (t.nodes.filter fun entry => entry.1 ≠ place) = none := by
    rw [List.find?_eq_none]
    intro entry hm
    simpa using (List.mem_filter.mp hm).2
  unfold node? put
  rw [if_neg (by simp [h]), List.find?_append, hnone]
  simp

theorem node?_put_of_ne (t : FileTree) {place other : Place} (h : other ≠ place)
    (node : FileNode) : (t.put place node).node? other = t.node? other := by
  have hne : decide (place = other) = false := by simp [Ne.symm h]
  unfold node? put
  split
  · rfl
  · rw [List.find?_append, List.find?_filter, List.find?_cons_of_neg (by simp [Ne.symm h])]
    congr 1
    rw [List.find?_nil, Option.or_none]
    congr 1
    funext entry
    by_cases ho : entry.1 = other
    · simp [ho, h]
    · simp [ho]

/-! ## Finding places -/

/-- A place one name further down; one dot stays, two dots lead up. -/
def descend (place : Place) (name : Text) : Place :=
  if name = "." then place
  else if name = ".." then
    if place = [("/" : Text)] then place
    else if isImplicit place then place ++ [name]
    else place.dropLast
  else place ++ [name]

/-- The longest name in octets. -/
def maxNameLength : Nat := 255

/-- The longest path in octets. -/
def maxPathLength : Nat := 4095

/-- Halves of surrogate pairs that stand for one octet each in a path. -/
def isEscapedOctet (c : CodePoint) : Bool := 0xDC80 ≤ c.val && c.val ≤ 0xDCFF

/-- The stretch of a text that keeps it from being a path. -/
def unencodable? (t : Text) : Option Utf8.EncodeError :=
  Utf8.refused? (fun c => c.isSurrogate && !isEscapedOctet c) t

/-- The octets of a path. -/
def pathOctets (t : Text) : Octets :=
  t.flatMap fun c =>
    if isEscapedOctet c then [UInt8.ofNat (c.val - 0xDC00)] else Utf8.encodePoint c

/-- The length of a path in octets. -/
def octetLength (t : Text) : Nat := (pathOctets t).length

/-- Follows a row of names from a place on.  Each place on the way must hold a directory. -/
def follow (t : FileTree) (place : Place) : List Text → Except FileFaultKind Place
  | [] => .ok place
  | name :: rest =>
    match t.node? place with
    | none => .error .notFound
    | some .directory =>
      if maxNameLength < octetLength name then .error .nameTooLong
      else follow t (descend place name) rest
    | some _ => .error .notDirectory

/-- The place from which a path counts. -/
def startPlace : PathStart → Place
  | .workingDirectory => []
  | _ => ["/"]

/-- Follows the steps of a written path; the last one need not lead to anything. -/
def walk (t : FileTree) (written : Text) (steps : List Text) : Except FileFaultKind Place :=
  match unencodable? written with
  | some e => .error (.unencodable e)
  | none =>
    if written.any fun c => c.val = 0 then .error .nullCharacter
    else if maxPathLength < octetLength written then .error .nameTooLong
    else follow t (startPlace (Path.startOf written)) steps

/-- The place a path leads to; its last name need not be there. -/
def resolve (t : FileTree) (p : Path) : Except FileFaultKind Place := t.walk p.text p.names

/-- What a path leads to, if anything. -/
def find? (t : FileTree) (p : Path) : Option FileNode :=
  match t.resolve p with
  | .ok place => t.node? place
  | .error _ => none

/-- Whether a path leads to anything.  A name that is too long is a fault. -/
def exists? (t : FileTree) (p : Path) : Except FileFault Bool :=
  match t.resolve p with
  | .ok place => .ok (t.node? place).isSome
  | .error .nameTooLong => .error ⟨.nameTooLong, p.text⟩
  | .error _ => .ok false

/-- Whether a path leads to a directory. -/
def isDirectory (t : FileTree) (p : Path) : Bool := t.find? p = some .directory

/-- Whether a path leads to a file. -/
def isFile (t : FileTree) (p : Path) : Bool :=
  match t.find? p with
  | some (.file _) => true
  | _ => false

/-- Names the path at which a fault arose. -/
def naming {α : Type} (path : Text) (r : Except FileFaultKind α) : Except FileFault α :=
  r.mapError fun kind => ⟨kind, path⟩

/-! ## Files -/

/-- Whether a text writes a path that must lead to a directory. -/
def endsWithSlash (t : Text) : Bool := t.getLast? = some ('/' : CodePoint)

/-- The octets of the file that a written path leads to. -/
def readText (t : FileTree) (path : Text) : Except FileFault Octets :=
  naming path (
    if path.isEmpty then .error .notFound
    else do
      match t.node? (← t.walk path (Path.steps path)) with
      | none => .error .notFound
      | some (.file content) =>
        if endsWithSlash path then .error .notDirectory else .ok content
      | some _ => .error .isDirectory)

/-- The octets of the file at a path. -/
def read (t : FileTree) (p : Path) : Except FileFault Octets := t.readText p.text

/-- The place of the file that a written path leads to, which is made if it is not there.  A path
that ends in a slash leads to no file, whatever its last name is. -/
def placeToWrite (t : FileTree) (path : Text) : Except FileFaultKind Place := do
  if path.isEmpty then throw .notFound
  let steps := Path.steps path
  if endsWithSlash path && !(steps.getLast?.any Path.isDots) then
    match t.node? (← t.walk path steps.dropLast) with
    | none => throw .notFound
    | some .directory => throw .isDirectory
    | some _ => throw .notDirectory
  let place ← t.walk path steps
  match t.node? place with
  | none | some (.file _) => return place
  | some _ => throw .isDirectory

/-- Writes the file that a written path leads to. -/
def writeText (t : FileTree) (path : Text) (content : Octets) : Except FileFault FileTree :=
  naming path do return t.put (← t.placeToWrite path) (.file content)

/-- Writes the file at a path. -/
def write (t : FileTree) (p : Path) (content : Octets) : Except FileFault FileTree :=
  t.writeText p.text content

/-- Writes octets at the end of the file at a path, which is made if it is not there. -/
def append (t : FileTree) (p : Path) (content : Octets) : Except FileFault FileTree :=
  match t.read p with
  | .ok before => t.write p (before ++ content)
  | .error fault => if fault.kind = .notFound then t.write p content else .error fault

/-! ## Directories and links -/

/-- Makes a directory, whose parent must be there. -/
def makeDirectory (t : FileTree) (p : Path) : Except FileFaultKind FileTree := do
  let place ← t.resolve p
  match t.node? place with
  | none => .ok (t.put place .directory)
  | some _ => .error .alreadyExists

/-- The tree after an operation, which stays as it was when the operation fails. -/
def grown (t : FileTree) : Except FileFault FileTree → FileTree × Option FileFault
  | .ok t => (t, none)
  | .error fault => (t, some fault)

/-- Makes a directory unless it is there. -/
def ensureDirectory (t : FileTree) (p : Path) : Except FileFault FileTree :=
  match t.makeDirectory p with
  | .ok t => .ok t
  | .error kind =>
    if kind ≠ .notFound && t.isDirectory p then .ok t else .error ⟨kind, p.text⟩

/-- The tree with a directory and those on the way to it, which are made unless they are there, and
the fault that keeps one of them from being made.  The fuel is the number of names of the path. -/
def growWith (t : FileTree) (p : Path) : Nat → FileTree × Option FileFault
  | 0 => t.grown (t.ensureDirectory p)
  | fuel + 1 =>
    match t.makeDirectory p with
    | .ok t => (t, none)
    | .error .notFound =>
      match growWith t p.parent fuel with
      | (t, none) => t.grown (t.ensureDirectory p)
      | (t, some fault) => (t, some fault)
    | .error kind => if t.isDirectory p then (t, none) else (t, some ⟨kind, p.text⟩)

/-- The tree with a directory and those on the way to it.  When one of them cannot be made, those
before it stay. -/
def grow (t : FileTree) (p : Path) : FileTree × Option FileFault := t.growWith p p.names.length

/-- Makes a link, replacing a file or a link of the same path. -/
def relink (t : FileTree) (p : Path) (target : Text) : Except FileFault FileTree :=
  naming p.text do
    let place ← t.resolve p
    match t.node? place with
    | some .directory => .error .isDirectory
    | _ => .ok (t.put place (.link target))

end FileTree

end StructuredData
