import StructuredData.Proofs.Json.DistinctNames
import StructuredData.Proofs.Json.Reading

/-!
# Values that can be read

Reading sets bounds that values do not have to keep: integers are refused beyond 4300 digits, what
nests too deep is refused, and of the members with one name an object keeps one.  `Value.Plain` says
that a value is within these bounds, and `plain_of_read` that every value which is read is.
-/

namespace StructuredData

/-- Values that can be read: their integers are short enough, their objects name each member once,
and they nest at most so deep. -/
inductive Value.Plain : ℕ → Value → Prop
  | null (depth : ℕ) : Plain depth .null
  | bool (depth : ℕ) (b : Bool) : Plain depth (.bool b)
  | integer (depth : ℕ) {n : ℤ} (hn : n.natAbs < 10 ^ maxIntegerDigits) :
      Plain depth (.number (.int n))
  | float (depth : ℕ) (x : Binary64) : Plain depth (.number (.float x))
  | string (depth : ℕ) (t : Text) : Plain depth (.string t)
  | array {depth : ℕ} {items : List Value} (h : ∀ item ∈ items, Plain depth item) :
      Plain (depth + 1) (.array items)
  | object {depth : ℕ} {ms : Members} (hnodup : (ms.map Prod.fst).Nodup)
      (h : ∀ m ∈ ms, Plain depth m.2) : Plain (depth + 1) (.object ms)

namespace Value.Plain

variable {depth : ℕ} {v : Value}

lemma mono {depth' : ℕ} (h : v.Plain depth) (hle : depth ≤ depth') : v.Plain depth' := by
  induction h generalizing depth' with
  | null => exact .null _
  | bool _ b => exact .bool _ b
  | integer _ hn => exact .integer _ hn
  | float _ x => exact .float _ x
  | string _ t => exact .string _ t
  | array _ ih =>
    obtain ⟨depth', rfl⟩ := Nat.exists_eq_add_of_le' (Nat.one_le_of_lt hle)
    exact .array fun item hitem => ih item hitem (by omega)
  | object hnodup _ ih =>
    obtain ⟨depth', rfl⟩ := Nat.exists_eq_add_of_le' (Nat.one_le_of_lt hle)
    exact .object hnodup fun m hm => ih m hm (by omega)

lemma namesDistinct (h : v.Plain depth) : v.NamesDistinct := by
  induction h with
  | null => exact .null
  | bool _ b => exact .bool b
  | integer | float => exact .number _
  | string _ t => exact .string t
  | array _ ih => exact .array ih
  | object hnodup _ ih => exact .object hnodup ih

/-- The members of a plain object are plain. -/
lemma get? {ms : Members} {name : Text} (h : (Value.object ms).Plain (depth + 1))
    (hv : ms.get? name = some v) : v.Plain depth := by
  obtain ⟨hnodup, hms⟩ : (ms.map Prod.fst).Nodup ∧ ∀ m ∈ ms, m.2.Plain depth := by
    cases h with
    | object hnodup hms => exact ⟨hnodup, hms⟩
  exact hms _ ((Members.get?_eq_some_iff hnodup).mp hv)

lemma natAbs_lt {n : ℤ} (h : (Value.number (.int n)).Plain depth) :
    n.natAbs < 10 ^ maxIntegerDigits := by
  cases h with
  | integer _ hn => exact hn

end Value.Plain

namespace Json

variable {depth : ℕ}

/-- Simple values and all strings are plain, and containers are plain if their parts are. -/
lemma inherited_plain : Inherited (fun _ => True) Value.Plain where
  simple depth v h := by
    cases h with
    | null => exact .null depth
    | bool b => exact .bool depth b
    | integer hn => exact .integer depth hn
    | float x => exact .float depth x
  string depth t _ := .string depth t
  array _ _ hitems := .array hitems
  object _ ms hms :=
    .object (Members.nodup_ofList ms) fun m hm => (hms m (Members.mem_ofList hm)).2

/-- Reading a text gives a plain value. -/
lemma plain_of_read {t : Text} {v : Value} (h : read depth t = .ok v) : v.Plain depth :=
  inherited_plain.of_read (C := fun _ => True) (fun _ _ => trivial) (fun _ _ => trivial) h

/-- Reading a text never gives an object with a name twice. -/
lemma namesDistinct_of_read {t : Text} {v : Value} (h : read depth t = .ok v) : v.NamesDistinct :=
  (plain_of_read h).namesDistinct

end Json

end StructuredData
