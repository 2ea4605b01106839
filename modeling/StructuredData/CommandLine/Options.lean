import StructuredData.Number.Reading
import StructuredData.Text.Quoted

/-!
# Options of a command line

A command line is read against a grammar: options with a value each, an option that asks for help,
and at most one argument without a name, which is a value or a command that takes all that follows
it.

An option can be shortened as long as only one option starts that way, its value can follow an
equals sign or, after a short name, follow at once, and behind two hyphens nothing is an option.
What looks like a negative number is a value.
-/

namespace StructuredData

namespace CommandLine

/-- What the value of an option must be. -/
inductive ValueKind
  | any
  | oneOf (choices : List Text)
  | integer

/-- An option: its names, and what value it takes, if any.  An option without a value asks for
help. -/
structure Flag where
  names : List Text
  value : Option ValueKind
  isRequired : Bool

/-- The argument without a name. -/
inductive Positional
  | value (name : Text)
  | command (name : Text) (choices : List Text)

/-- The command line of a program or of one of its commands. -/
structure Grammar where
  program : Text
  flags : List Flag
  positional : Option Positional

/-- Why reading a command line ends early: help is asked for, or the line is faulty. -/
inductive Stop
  | help (program : Text)
  | usage (program message : Text)

/-- What a command line gives: the value of each option that is used, by the option's first name,
the argument without a name, a command with all that follows it, and what could not be placed. -/
structure Given where
  values : List (Text × Text)
  positional : Option Text
  command : Option (Text × List Text)
  extras : List Text

namespace Given

/-- Nothing given. -/
def none : Given := ⟨[], Option.none, Option.none, []⟩

/-- The last value of an option. -/
def value? (g : Given) (name : Text) : Option Text :=
  (g.values.reverse.find? fun v => v.1 = name).map (·.2)

end Given

/-! ## Marks -/

/-- An option as it is used: the option, unless there is none of that name, the name it is used
by, and a value written together with it. -/
structure Use where
  flag : Option Flag
  spelling : Text
  explicit : Option Text

/-- What a part of a command line is. -/
inductive Mark
  | argument
  | separator
  | option (use : Use)

namespace Flag

/-- The names of an option in messages. -/
def shownNames (f : Flag) : Text := Text.join "/" f.names

/-- The name by which an option's value is found. -/
def key (f : Flag) : Text := f.names.head?.getD []

end Flag

namespace Grammar

/-- All names of options, each with its option. -/
def names (g : Grammar) : List (Text × Flag) :=
  g.flags.flatMap fun f => f.names.map fun name => (name, f)

/-- The option of a name. -/
def flag? (g : Grammar) (name : Text) : Option Flag :=
  (g.names.find? fun entry => entry.1 = name).map (·.2)

/-- A faulty line. -/
def fault {α : Type} (g : Grammar) (message : Text) : Except Stop α :=
  .error (.usage g.program message)

/-- A fault in an option or argument. -/
def argumentFault {α : Type} (g : Grammar) (name message : Text) : Except Stop α :=
  g.fault ("argument " ++ name ++ ": " ++ message)

/-- Splits a text at its first equals sign. -/
def splitSign (t : Text) : Text × Option Text :=
  let before := t.takeWhile fun c => c ≠ ('=' : CodePoint)
  match t.drop before.length with
  | [] => (before, none)
  | _ :: after => (before, some after)

/-- Whether a text starts with two hyphens. -/
def isLong : Text → Bool
  | a :: b :: _ => a = '-' && b = '-'
  | _ => false

/-- The options that a text can stand for in short. -/
def candidates (g : Grammar) (t : Text) : List Use :=
  if isLong t then
    let (lead, explicit) := splitSign t
    (g.names.filter fun entry => lead.isPrefixOf entry.1).map fun entry =>
      ⟨some entry.2, entry.1, explicit⟩
  else
    g.names.filterMap fun entry =>
      if entry.1 = t.take 2 then some ⟨some entry.2, entry.1, some (t.drop 2)⟩
      else if t.isPrefixOf entry.1 then some ⟨some entry.2, entry.1, none⟩
      else none

/-- A hyphen followed by digits, or by digits around a point with some after it. -/
def looksNegative : Text → Bool
  | [] => false
  | c :: rest =>
    let body := if rest.getLast? = some Text.newline then rest.dropLast else rest
    let whole := body.takeWhile CodePoint.isDigit
    let fraction := (body.drop whole.length).drop 1
    c = '-' &&
      ((!body.isEmpty && whole.length = body.length) ||
        ((body.drop whole.length).head? = some ('.' : CodePoint) && !fraction.isEmpty &&
          fraction.all CodePoint.isDigit))

/-- What a part of the command line before two hyphens is. -/
def mark (g : Grammar) (t : Text) : Except Stop Mark :=
  if t.head? ≠ some ('-' : CodePoint) then .ok .argument
  else match g.flag? t with
    | some f => .ok (.option ⟨some f, t, none⟩)
    | none =>
      if t.length = 1 then .ok .argument
      else
        let (lead, explicit) := splitSign t
        match explicit, g.flag? lead with
        | some value, some f => .ok (.option ⟨some f, lead, some value⟩)
        | _, _ =>
          match g.candidates t with
          | [use] => .ok (.option use)
          | [] =>
            if looksNegative t || t.contains ' ' then .ok .argument
            else .ok (.option ⟨none, t, none⟩)
          | uses =>
            g.fault ("ambiguous option: " ++ t ++ " could match " ++
              Text.join ", " (uses.map (·.spelling)))

/-- The parts of a command line with what they are. -/
def marks (g : Grammar) : List Text → Except Stop (List (Text × Mark))
  | [] => .ok []
  | t :: rest =>
    if t = "--" then .ok ((t, .separator) :: rest.map fun u => (u, .argument))
    else do
      let m ← g.mark t
      return (t, m) :: (← g.marks rest)

/-! ## Values -/

/-- The fault of a value that is none of the choices. -/
def choiceMessage (value : Text) (choices : List Text) : Text :=
  "invalid choice: " ++ value.quoted ++ " (choose from " ++
    Text.join ", " (choices.map Text.quoted) ++ ")"

/-- Checks the value of an option. -/
def checkValue (g : Grammar) (f : Flag) (kind : ValueKind) (value : Text) : Except Stop Unit :=
  match kind with
  | .any => .ok ()
  | .oneOf choices =>
    if choices.contains value then .ok ()
    else g.argumentFault f.shownNames (choiceMessage value choices)
  | .integer =>
    match Numeral.readInt value with
    | .ok _ => .ok ()
    | .error _ => g.argumentFault f.shownNames ("invalid int value: " ++ value.quoted)

/-- The line with an option given a value. -/
def give (g : Grammar) (f : Flag) (kind : ValueKind) (value : Text) (given : Given) :
    Except Stop Given := do
  g.checkValue f kind value
  return { given with values := given.values ++ [(f.key, value)] }

/-- The fault of text attached to an option that takes no value. -/
def ignored (g : Grammar) (f : Flag) (attached : Text) : Except Stop Unit :=
  g.argumentFault f.shownNames ("ignored explicit argument " ++ attached.quoted)

/-- Checks the letters attached to an option without a value: they are short names of options, the
first one that takes a value ending the row. -/
def checkAttached (g : Grammar) (after : List (Text × Mark)) (f : Flag) :
    Text → Except Stop Unit
  | [] => g.ignored f []
  | c :: rest =>
    match g.flag? ['-', c] with
    | none => g.ignored f (c :: rest)
    | some next =>
      match next.value, rest with
      | none, [] => .ok ()
      | none, _ :: _ => g.checkAttached after next rest
      | some _, _ :: _ => .ok ()
      | some _, [] =>
        match after with
        | (_, .argument) :: _ => .ok ()
        | _ => g.argumentFault next.shownNames "expected one argument"

/-- Reads an option: what is given then, and what is left of the line. -/
def readUse (g : Grammar) (t : Text) (use : Use) (after : List (Text × Mark)) (given : Given) :
    Except Stop (Given × List (Text × Mark)) :=
  match use.flag with
  | none => .ok ({ given with extras := given.extras ++ [t] }, after)
  | some f =>
    match f.value, use.explicit with
    | some kind, some value => do return (← g.give f kind value given, after)
    | some kind, none =>
      match after with
      | (value, .argument) :: rest => do return (← g.give f kind value given, rest)
      | _ => g.argumentFault f.shownNames "expected one argument"
    | none, none => .error (.help g.program)
    | none, some letters => do
      if isLong use.spelling then g.ignored f letters else g.checkAttached after f letters
      .error (.help g.program)

/-! ## The argument without a name -/

/-- Reads the argument without a name, if it comes next: what is given then, and what is left. -/
def readPositional (g : Grammar) (line : List (Text × Mark)) (given : Given) :
    Except Stop (Option (Given × List (Text × Mark))) :=
  let isSeparator (part : Text × Mark) : Bool := part.2 matches .separator
  match g.positional with
  | none => .ok none
  | some (.value _) =>
    if given.positional.isSome then .ok none
    else match line.dropWhile isSeparator with
      | (value, .argument) :: rest =>
        .ok (some ({ given with positional := some value }, rest.dropWhile isSeparator))
      | _ => .ok none
  | some (.command name choices) =>
    if given.command.isSome then .ok none
    else match line, line.dropWhile isSeparator with
      | (first, _) :: rest, (_, .argument) :: _ =>
        if choices.contains first then
          .ok (some ({ given with command := some (first, rest.map (·.1)) }, []))
        else g.argumentFault name (choiceMessage first choices)
      | _, _ => .ok none

/-- Reads a marked line.  The fuel is more than the number of its parts. -/
def readLine (g : Grammar) : Nat → List (Text × Mark) → Given → Except Stop Given
  | 0, _, given => .ok given
  | fuel + 1, line, given => do
    match line with
    | [] => return given
    | (t, .option use) :: after =>
      let (given, rest) ← g.readUse t use after given
      g.readLine fuel rest given
    | _ =>
      match ← g.readPositional line given with
      | some (given, rest) => g.readLine fuel rest given
      | none =>
        let isOption (part : Text × Mark) : Bool := part.2 matches .option _
        let (skipped, rest) := line.span fun part => !isOption part
        g.readLine fuel rest { given with extras := given.extras ++ skipped.map (·.1) }

/-- The names of what is required and not given. -/
def missing (g : Grammar) (given : Given) : List Text :=
  let positional : List Text := match g.positional with
    | some (.value name) => if given.positional.isNone then [name] else []
    | _ => []
  positional ++
    (g.flags.filter fun f => f.isRequired && (given.value? f.key).isNone).map Flag.shownNames

/-- What a command line gives. -/
def read (g : Grammar) (line : List Text) : Except Stop Given := do
  let marked ← g.marks line
  let given ← g.readLine (2 * marked.length + 1) marked .none
  match g.missing given with
  | [] => return given
  | names => g.fault ("the following arguments are required: " ++ Text.join ", " names)

end Grammar

end CommandLine

end StructuredData
