import StructuredData.Number.Basic
import StructuredData.Text.Quoted

/-!
# JSON values

An object is the list of its members in document order.  Putting a member whose name is already
there replaces the value and keeps the place, so a name that a text repeats has the place of its
first occurrence and the value of its last.

`Value.shown` is the form in which messages show a value, and `Value.spelled` the same with a text
left bare; neither is JSON.
-/

namespace StructuredData

/-- A JSON value. -/
inductive Value
  | null
  | bool (b : Bool)
  | number (n : Number)
  | string (t : Text)
  | array (items : List Value)
  | object (members : List (Text × Value))
deriving Inhabited

/-- The members of an object, in order. -/
abbrev Members := List (Text × Value)

namespace Members

/-- The value of a member. -/
def get? (name : Text) : Members → Option Value
  | [] => none
  | m :: rest => if m.1 = name then some m.2 else get? name rest

/-- Gives a member its value: in place where the name is there, at the end otherwise. -/
def put (name : Text) (value : Value) : Members → Members
  | [] => [(name, value)]
  | m :: rest => if m.1 = name then (name, value) :: rest else m :: put name value rest

/-- The members that a row of named values leaves, later values replacing earlier ones. -/
def ofList (ms : List (Text × Value)) : Members :=
  ms.foldl (fun acc m => put m.1 m.2 acc) []

theorem get?_put_self (name : Text) (value : Value) (ms : Members) :
    (put name value ms).get? name = some value := by
  induction ms with
  | nil => simp [put, get?]
  | cons m rest ih =>
    by_cases h : m.1 = name
    · simp [put, get?, h]
    · simp [put, get?, h, ih]

theorem get?_put_of_ne {name other : Text} (h : other ≠ name) (value : Value) (ms : Members) :
    (put name value ms).get? other = ms.get? other := by
  induction ms with
  | nil => simp [put, get?, Ne.symm h]
  | cons m rest ih =>
    rw [put]
    split
    · next hm => simp [get?, hm, Ne.symm h]
    · simp [get?, ih]

end Members

namespace Value

/-! ## Building and inspecting -/

/-- An integer as a value. -/
def ofInt (n : Int) : Value := .number (.int n)

/-- A natural number as a value. -/
def ofNat (n : Nat) : Value := .number (.int n)

/-- The text of a string. -/
def text? : Value → Option Text
  | .string t => some t
  | _ => none

/-- The members of an object, none for any other value. -/
def members : Value → Members
  | .object ms => ms
  | _ => []

/-- Whether the value is an object. -/
def isObject : Value → Bool
  | .object _ => true
  | _ => false

/-- Whether the value is the given text. -/
def isText (t : Text) (v : Value) : Bool := v.text? = some t

/-! ## Shown in messages -/

/-- The word that messages use for the kind of a value. -/
def kindName : Value → Text
  | .null => "NoneType"
  | .bool _ => "bool"
  | .number (.int _) => "int"
  | .number (.float _) => "float"
  | .string _ => "str"
  | .array _ => "list"
  | .object _ => "dict"

/-- Numbers in messages: the special ones in small letters. -/
def shownNumber : NumberStyle := ⟨"nan", "inf"⟩

mutual

/-- The form in which messages show a value, texts between quotation marks. -/
def shown : Value → Text
  | .null => "None"
  | .bool b => if b then "True" else "False"
  | .number n => n.text shownNumber
  | .string t => t.quoted
  | .array items => "[" ++ Text.join ", " (shownItems items) ++ "]"
  | .object ms => "\x7b" ++ Text.join ", " (shownMembers ms) ++ "\x7d"

/-- The shown forms of the elements of an array. -/
def shownItems : List Value → List Text
  | [] => []
  | v :: rest => shown v :: shownItems rest

/-- The shown forms of the members of an object. -/
def shownMembers : List (Text × Value) → List Text
  | [] => []
  | (name, v) :: rest => (name.quoted ++ ": " ++ shown v) :: shownMembers rest

end

/-- A value as a label: a text stands for itself, anything else is shown. -/
def spelled : Value → Text
  | .string t => t
  | v => v.shown

end Value

end StructuredData
