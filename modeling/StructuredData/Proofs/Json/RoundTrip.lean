import Mathlib.Data.List.Forall2
import Mathlib.Data.List.Nodup
import StructuredData.Proofs.Json.Floats
import StructuredData.Proofs.Json.Plain
import StructuredData.Proofs.Json.Strings

/-!
# Written values read back

A value that is written is read back as it is, unless reading sets a bound that writing does not
know: integers of many digits and deep nesting are written but refused, and an object with a name
twice is read without its first value.  `Value.Plain` rules these out.  In ASCII the halves of a
surrogate pair are written one by one and read as the pair, which `Value.IsJoined` rules out.

The tokens of a value stand between the two directions.  `adds_write` and `adds_writeLines` say that
the text of a value is cut into its tokens, `takes_tokensOf` that the reader makes the value of
them; all go by induction on the value, with anything at all behind it.
-/

namespace StructuredData

namespace Members

/-- Members whose names are distinct are kept as they are. -/
lemma ofList_eq_self {ms : Members} (h : (ms.map Prod.fst).Nodup) : ofList ms = ms := by
  have hput : ∀ (done : Members) (name : Text) (value : Value), name ∉ done.map Prod.fst →
      put name value done = done ++ [(name, value)] := by
    intro done name value hnew
    induction done with
    | nil => rfl
    | cons m rest ih =>
      rw [List.map_cons, List.mem_cons, not_or] at hnew
      rw [put, if_neg (Ne.symm hnew.1), ih hnew.2, List.cons_append]
  have hfold : ∀ (ms done : Members), ((done ++ ms).map Prod.fst).Nodup →
      ms.foldl (fun acc m => put m.1 m.2 acc) done = done ++ ms := by
    intro ms
    induction ms with
    | nil => simp
    | cons m rest ih =>
      intro done hdone
      have hnew : m.1 ∉ done.map Prod.fst := by
        rw [List.map_append, List.map_cons] at hdone
        intro hmem
        exact (List.nodup_append.mp hdone).2.2 _ hmem _ List.mem_cons_self rfl
      rw [List.foldl_cons, hput done m.1 m.2 hnew, ih _ (by simpa using hdone)]
      simp
  exact hfold ms [] h

end Members

namespace Json

variable {rest : Text} {ts : List Token}

/-! ## The tokens of a value -/

mutual

/-- The tokens of a value. -/
def tokensOf : Value → List Token
  | .string t => [.string t]
  | .array items => .openArray :: (List.intercalate [.comma] (tokenRows items) ++ [.closeArray])
  | .object ms =>
    .openObject :: (List.intercalate [.comma] (memberTokenRows ms) ++ [.closeObject])
  | v => [.scalar v]

/-- The tokens of each element of an array. -/
def tokenRows : List Value → List (List Token)
  | [] => []
  | v :: rest => tokensOf v :: tokenRows rest

/-- The tokens of each member of an object. -/
def memberTokenRows : List (Text × Value) → List (List Token)
  | [] => []
  | (name, v) :: rest => (.string name :: .colon :: tokensOf v) :: memberTokenRows rest

end

lemma intercalate_cons {α : Type} (sep p : List α) (ps : List (List α)) :
    List.intercalate sep (p :: ps) = p ++ ps.flatMap (sep ++ ·) := by
  induction ps generalizing p with
  | nil => simp
  | cons q ps ih => rw [List.intercalate_cons_cons, ih, List.flatMap_cons]; simp

/-! ## From text to tokens -/

/-- In front of a text that does not go on with a number, the text adds the tokens. -/
def Adds (t : Text) (tokens : List Token) : Prop :=
  ∀ rest ts, StopsNumber rest → Lexes rest ts → Lexes (t ++ rest) (tokens ++ ts)

lemma stopsNumber_of_isSpace {c : CodePoint} (hc : isSpace c = true) (t : Text) :
    StopsNumber (c :: t) := by
  rintro d ⟨⟩
  simp only [isSpace, Bool.or_eq_true, decide_eq_true_eq] at hc
  refine ⟨by simp [CodePoint.isAsciiDigit]; omega, ?_, ?_, ?_⟩
  all_goals
    rintro rfl
    revert hc
    decide

lemma stopsNumber_of_mark? {c : CodePoint} {token : Token} (hc : mark? c = some token) (t : Text) :
    StopsNumber (c :: t) := by
  rintro d ⟨⟩
  unfold mark? at hc
  split_ifs at hc with h h h h h h
  all_goals subst h; decide

/-- Blanks and a mark do not go on with a number. -/
lemma stopsNumber_append {blanks : Text} (hblanks : ∀ c ∈ blanks, isSpace c = true)
    (ht : StopsNumber t) : StopsNumber (blanks ++ t) := by
  cases blanks with
  | nil => exact ht
  | cons c blanks => exact stopsNumber_of_isSpace (hblanks c List.mem_cons_self) _

lemma isSpace_of_mem_lineStart {level : ℕ} {c : CodePoint} (hc : c ∈ lineStart level) :
    isSpace c = true := by
  rcases List.mem_cons.mp hc with rfl | hc
  · decide
  · rw [List.eq_of_mem_replicate hc]
    decide

/-- What stands in front of each part of a container but the first. -/
def separator (gap : Text) : Text := "," ++ gap

section Parts

variable {start gap ending : Text} (hstart : ∀ c ∈ start, isSpace c = true)
  (hgap : ∀ c ∈ gap, isSpace c = true) (hending : ∀ c ∈ ending, isSpace c = true)
  {opening closing : CodePoint} {openToken closeToken : Token}
  (hopening : mark? opening = some openToken) (hclosing : mark? closing = some closeToken)
  {parts : List Text} {rows : List (List Token)} (hparts : List.Forall₂ Adds parts rows)

include hgap hending hclosing hparts

/-- The parts of a container after the first, up to its closing mark. -/
lemma lexes_laterParts (h : Lexes rest ts) :
    StopsNumber (parts.flatMap (separator gap ++ ·) ++ (ending ++ closing :: rest)) ∧
      Lexes (parts.flatMap (separator gap ++ ·) ++ (ending ++ closing :: rest))
        (rows.flatMap ([.comma] ++ ·) ++ closeToken :: ts) := by
  have hcomma : mark? (CodePoint.ofChar ',') = some .comma := rfl
  induction hparts with
  | nil =>
    rw [List.flatMap_nil, List.flatMap_nil, List.nil_append, List.nil_append]
    exact ⟨stopsNumber_append hending (stopsNumber_of_mark? hclosing rest),
      lexes_spaces hending (lexes_mark hclosing h)⟩
  | @cons part row parts rows hpart _ ih =>
    refine ⟨stopsNumber_of_mark? hcomma _, ?_⟩
    have hlater := lexes_spaces hgap (hpart _ _ ih.1 ih.2)
    simpa [List.flatMap_cons, separator, Text.ofString] using lexes_mark hcomma hlater

include hstart hopening

/-- A container adds its opening mark, the tokens of its parts with commas between them, and its
closing mark. -/
lemma adds_container :
    Adds ([opening] ++ start ++ Text.join (separator gap) parts ++ ending ++ [closing])
      (openToken :: (List.intercalate [.comma] rows ++ [closeToken])) := by
  intro rest ts _ h
  cases hparts with
  | nil =>
    have hclose := lexes_spaces hstart (lexes_spaces hending (lexes_mark hclosing h))
    simpa [Text.join] using lexes_mark hopening hclose
  | @cons part row parts rows hpart hlater =>
    obtain ⟨hstops, hlexes⟩ := lexes_laterParts hgap hending hclosing hlater h
    have hfirst := lexes_spaces hstart (hpart _ _ hstops hlexes)
    simpa [Text.join, intercalate_cons] using lexes_mark hopening hfirst

end Parts

section Containers

variable {opening closing : CodePoint} {openToken closeToken : Token}
  (hopening : mark? opening = some openToken) (hclosing : mark? closing = some closeToken)
  {parts : List Text} {rows : List (List Token)} (hparts : List.Forall₂ Adds parts rows)

include hopening hclosing hparts

/-- A container on one line. -/
lemma adds_line : Adds ([opening] ++ Text.join ", " parts ++ [closing])
    (openToken :: (List.intercalate [.comma] rows ++ [closeToken])) := by
  have hnone : ∀ c ∈ ([] : Text), isSpace c = true := List.forall_mem_nil _
  have hgap : ∀ c ∈ (" " : Text), isSpace c = true := by decide
  have hadds := adds_container hnone hgap hnone hopening hclosing hparts
  rwa [List.append_nil, List.append_nil] at hadds

/-- A container over several lines. -/
lemma adds_block (level : ℕ) : Adds (block [opening] [closing] level parts)
    (openToken :: (List.intercalate [.comma] rows ++ [closeToken])) := by
  have hline : ∀ level, ∀ c ∈ lineStart level, isSpace c = true :=
    fun level c => isSpace_of_mem_lineStart
  cases hparts with
  | nil => exact adds_line hopening hclosing .nil
  | cons hpart hlater =>
    exact adds_container (hline _) (hline _) (hline _) hopening hclosing (.cons hpart hlater)

end Containers

/-- A member adds its name, a colon and the tokens of its value. -/
lemma adds_member {ascii : Bool} {name text : Text} {tokens : List Token}
    (hname : ascii = true → name.IsJoined) (h : Adds text tokens) :
    Adds (writeString ascii name ++ ": " ++ text) (.string name :: .colon :: tokens) := by
  intro rest ts hrest hts
  have hcolon : mark? (CodePoint.ofChar ':') = some .colon := rfl
  have hspace : isSpace (CodePoint.ofChar ' ') = true := by decide
  have hvalue := lexes_mark hcolon (lexes_space hspace (h rest ts hrest hts))
  simpa [Text.ofString] using lexes_string hname hvalue

lemma tokenRows_eq (items : List Value) : tokenRows items = items.map tokensOf := by
  induction items with
  | nil => rfl
  | cons v rest ih => rw [tokenRows, ih, List.map_cons]

lemma memberTokenRows_eq (ms : Members) :
    memberTokenRows ms = ms.map fun m => .string m.1 :: .colon :: tokensOf m.2 := by
  induction ms with
  | nil => rfl
  | cons m rest ih => rw [memberTokenRows, ih, List.map_cons]

section Writing

variable {ascii : Bool} {depth : ℕ} {v : Value} {writer : Value → Text}

/-- Elements that are written one by one add their tokens one by one. -/
lemma adds_items {items : List Value} (h : ∀ item ∈ items, Adds (writer item) (tokensOf item)) :
    List.Forall₂ Adds (items.map writer) (tokenRows items) := by
  rw [tokenRows_eq, List.forall₂_map_left_iff, List.forall₂_map_right_iff, List.forall₂_same]
  exact h

/-- Members that are written one by one add their tokens one by one. -/
lemma adds_members {ms : Members} (hnames : ascii = true → ∀ m ∈ ms, m.1.IsJoined)
    (h : ∀ m ∈ ms, Adds (writer m.2) (tokensOf m.2)) :
    List.Forall₂ Adds (ms.map fun m => writeString ascii m.1 ++ ": " ++ writer m.2)
      (memberTokenRows ms) := by
  rw [memberTokenRows_eq, List.forall₂_map_left_iff, List.forall₂_map_right_iff, List.forall₂_same]
  exact fun m hm => adds_member (fun hascii => hnames hascii m hm) (h m hm)

lemma writeItems_eq (ascii : Bool) (items : List Value) :
    writeItems ascii items = items.map (write ascii) := by
  induction items with
  | nil => rfl
  | cons v rest ih => rw [writeItems, ih, List.map_cons]

lemma writeMembers_eq (ascii : Bool) (ms : Members) :
    writeMembers ascii ms = ms.map fun m => writeString ascii m.1 ++ ": " ++ write ascii m.2 := by
  induction ms with
  | nil => rfl
  | cons m rest ih => rw [writeMembers, ih, List.map_cons]

lemma writeLinesItems_eq (ascii : Bool) (level : ℕ) (items : List Value) :
    writeLinesItems ascii level items = items.map (writeLines ascii level) := by
  induction items with
  | nil => rfl
  | cons v rest ih => rw [writeLinesItems, ih, List.map_cons]

lemma writeLinesMembers_eq (ascii : Bool) (level : ℕ) (ms : Members) :
    writeLinesMembers ascii level ms =
      ms.map fun m => writeString ascii m.1 ++ ": " ++ writeLines ascii level m.2 := by
  induction ms with
  | nil => rfl
  | cons m rest ih => rw [writeLinesMembers, ih, List.map_cons]

/-- The text of a value on one line adds its tokens. -/
lemma adds_write (h : v.Plain depth) (hjoined : ascii = true → v.IsJoined) :
    Adds (write ascii v) (tokensOf v) := by
  induction h with
  | null => exact fun rest ts _ h => lexes_null h
  | bool _ b => exact fun rest ts _ h => lexes_bool b h
  | integer _ hn => exact fun rest ts hrest h => lexes_integer hn hrest h
  | float _ x => exact fun rest ts hrest h => lexes_float x hrest h
  | string _ t =>
    exact fun rest ts _ h => lexes_string (fun hascii => (hjoined hascii).text) h
  | array _ ih =>
    rw [write, writeItems_eq]
    exact adds_line rfl rfl (adds_items fun item hitem =>
      ih item hitem fun hascii => (hjoined hascii).items item hitem)
  | object _ _ ih =>
    rw [write, writeMembers_eq]
    exact adds_line rfl rfl (adds_members (fun hascii m hm => ((hjoined hascii).members m hm).1)
      fun m hm => ih m hm fun hascii => ((hjoined hascii).members m hm).2)

/-- The text of a value over several lines adds its tokens, at whatever level it is written. -/
lemma adds_writeLines (h : v.Plain depth) (hjoined : ascii = true → v.IsJoined) (level : ℕ) :
    Adds (writeLines ascii level v) (tokensOf v) := by
  induction h generalizing level with
  | null => exact fun rest ts _ h => lexes_null h
  | bool _ b => exact fun rest ts _ h => lexes_bool b h
  | integer _ hn => exact fun rest ts hrest h => lexes_integer hn hrest h
  | float _ x => exact fun rest ts hrest h => lexes_float x hrest h
  | string _ t =>
    exact fun rest ts _ h => lexes_string (fun hascii => (hjoined hascii).text) h
  | array _ ih =>
    rw [writeLines, writeLinesItems_eq]
    exact adds_block rfl rfl (adds_items fun item hitem =>
      ih item hitem (fun hascii => (hjoined hascii).items item hitem) (level + 1)) level
  | object _ _ ih =>
    rw [writeLines, writeLinesMembers_eq]
    exact adds_block rfl rfl (adds_members (fun hascii m hm => ((hjoined hascii).members m hm).1)
      fun m hm => ih m hm (fun hascii => ((hjoined hascii).members m hm).2) (level + 1)) level

lemma adds_pretty (h : v.Plain depth) : Adds (pretty v) (tokensOf v) := by
  have hjoined : false = true → v.IsJoined := nofun
  exact adds_writeLines h hjoined 0

lemma adds_compactAscii (h : v.Plain depth) (hjoined : v.IsJoined) :
    Adds (compactAscii v) (tokensOf v) :=
  adds_write h fun _ => hjoined

end Writing

/-! ## From tokens to the value -/

/-- With fuel for twice the tokens that are left, and some to spare, a reader takes the tokens at
their head and makes the answer of them. -/
def Takes {α : Type} (spare : ℕ)
    (reader : ℕ → List PlacedToken → Except Fault (α × List PlacedToken))
    (tokens : List Token) (answer : α) : Prop :=
  ∀ fuel ts tail, ts.map Prod.snd = tokens ++ tail → 2 * ts.length + spare ≤ fuel →
    ∃ rest, reader fuel ts = .ok (answer, rest) ∧ rest.map Prod.snd = tail

variable {endPosition depth : ℕ} {v : Value}

/-- No value starts with the end of an array, or with what is no token. -/
lemma exists_cons_tokensOf (v : Value) :
    ∃ token tail, tokensOf v = token :: tail ∧ token ≠ .closeArray ∧ token ≠ .stray := by
  cases v <;> exact ⟨_, _, rfl, nofun, nofun⟩

/-- What is behind a token is shorter. -/
lemma length_lt_of_split {ts after : List PlacedToken} {front back : List Token} {token : Token}
    (hts : ts.map Prod.snd = front ++ token :: back) (hafter : after.map Prod.snd = back) :
    after.length + 1 ≤ ts.length := by
  have hlength := congrArg List.length hts
  rw [← hafter] at hlength
  simp only [List.length_map, List.length_append, List.length_cons] at hlength
  omega

/-- The elements of an array, up to its closing bracket. -/
lemma takes_readItems {items : List Value}
    (h : ∀ item ∈ v :: items, Takes 0 (readValue endPosition · depth) (tokensOf item) item) :
    Takes 1 (readItems endPosition · depth)
      (List.intercalate [.comma] (tokenRows (v :: items)) ++ [.closeArray]) (v :: items) := by
  induction items generalizing v with
  | nil =>
    intro fuel ts tail hts hfuel
    obtain ⟨fuel, rfl⟩ : ∃ k, fuel = k + 1 := Nat.exists_eq_add_of_le' (by omega)
    have hsplit : ts.map Prod.snd = tokensOf v ++ .closeArray :: tail := by
      simpa [tokenRows] using hts
    obtain ⟨later, hread, hlater⟩ := h v List.mem_cons_self fuel ts _ hsplit (by omega)
    obtain ⟨⟨p, token⟩, rest, rfl, rfl, hrest⟩ := List.map_eq_cons_iff.mp hlater
    refine ⟨rest, ?_, hrest⟩
    simp only [readItems, hread, bind, Except.bind]
  | cons w items ih =>
    intro fuel ts tail hts hfuel
    obtain ⟨fuel, rfl⟩ : ∃ k, fuel = k + 1 := Nat.exists_eq_add_of_le' (by omega)
    obtain ⟨hv, hitems⟩ := List.forall_mem_cons.mp h
    have hsplit : ts.map Prod.snd = tokensOf v ++ .comma ::
        (List.intercalate [.comma] (tokenRows (w :: items)) ++ [.closeArray] ++ tail) := by
      simpa [tokenRows] using hts
    obtain ⟨later, hread, hlater⟩ := hv fuel ts _ hsplit (by omega)
    obtain ⟨⟨p, token⟩, after, rfl, rfl, hafter⟩ := List.map_eq_cons_iff.mp hlater
    have hshorter := length_lt_of_split hsplit hafter
    obtain ⟨rest, hreadRest, hrest⟩ := ih hitems fuel after tail hafter (by omega)
    refine ⟨rest, ?_, hrest⟩
    simp only [readItems, hread, hreadRest, bind, Except.bind]

/-- The members of an object, up to its closing brace. -/
lemma takes_readMembers {m : Text × Value} {ms : Members}
    (h : ∀ n ∈ m :: ms, Takes 0 (readValue endPosition · depth) (tokensOf n.2) n.2) :
    Takes 1 (readMembers endPosition · depth)
      (List.intercalate [.comma] (memberTokenRows (m :: ms)) ++ [.closeObject]) (m :: ms) := by
  induction ms generalizing m with
  | nil =>
    intro fuel ts tail hts hfuel
    obtain ⟨fuel, rfl⟩ : ∃ k, fuel = k + 1 := Nat.exists_eq_add_of_le' (by omega)
    have hsplit : ts.map Prod.snd =
        .string m.1 :: .colon :: (tokensOf m.2 ++ .closeObject :: tail) := by
      simpa [memberTokenRows] using hts
    obtain ⟨⟨p, name⟩, ts, rfl, rfl, hcolon⟩ := List.map_eq_cons_iff.mp hsplit
    obtain ⟨⟨q, mark⟩, ts, rfl, rfl, hvalue⟩ := List.map_eq_cons_iff.mp hcolon
    rw [List.length_cons, List.length_cons] at hfuel
    obtain ⟨later, hread, hlater⟩ := h m List.mem_cons_self fuel ts _ hvalue (by omega)
    obtain ⟨⟨r, token⟩, rest, rfl, rfl, hrest⟩ := List.map_eq_cons_iff.mp hlater
    refine ⟨rest, ?_, hrest⟩
    simp only [readMembers, hread, bind, Except.bind]
  | cons n ms ih =>
    intro fuel ts tail hts hfuel
    obtain ⟨fuel, rfl⟩ : ∃ k, fuel = k + 1 := Nat.exists_eq_add_of_le' (by omega)
    obtain ⟨hm, hms⟩ := List.forall_mem_cons.mp h
    have hsplit : ts.map Prod.snd = .string m.1 :: .colon :: (tokensOf m.2 ++ .comma ::
        (List.intercalate [.comma] (memberTokenRows (n :: ms)) ++ [.closeObject] ++ tail)) := by
      simpa [memberTokenRows] using hts
    obtain ⟨⟨p, name⟩, ts, rfl, rfl, hcolon⟩ := List.map_eq_cons_iff.mp hsplit
    obtain ⟨⟨q, mark⟩, ts, rfl, rfl, hvalue⟩ := List.map_eq_cons_iff.mp hcolon
    rw [List.length_cons, List.length_cons] at hfuel
    obtain ⟨later, hread, hlater⟩ := hm fuel ts _ hvalue (by omega)
    obtain ⟨⟨r, token⟩, after, rfl, rfl, hafter⟩ := List.map_eq_cons_iff.mp hlater
    have hshorter := length_lt_of_split hvalue hafter
    obtain ⟨rest, hreadRest, hrest⟩ := ih hms fuel after tail hafter (by omega)
    refine ⟨rest, ?_, hrest⟩
    simp only [readMembers, hread, hreadRest, bind, Except.bind]

/-- One token that is a value by itself. -/
lemma takes_single {token : Token}
    (hread : ∀ fuel p rest, readValue endPosition (fuel + 1) depth ((p, token) :: rest) =
      .ok (v, rest)) :
    Takes 0 (readValue endPosition · depth) [token] v := by
  intro fuel ts tail hts hfuel
  obtain ⟨⟨p, t⟩, rest, rfl, rfl, hrest⟩ := List.map_eq_cons_iff.mp hts
  rw [List.length_cons] at hfuel
  obtain ⟨fuel, rfl⟩ : ∃ k, fuel = k + 1 := Nat.exists_eq_add_of_le' (by omega)
  exact ⟨rest, hread fuel p rest, hrest⟩

/-- The tokens of a value, whatever depth there is to spare, are taken as the value. -/
lemma takes_tokensOf (endPosition : ℕ) (h : v.Plain depth) (extra : ℕ) :
    Takes 0 (readValue endPosition · (extra + depth)) (tokensOf v) v := by
  induction h with
  | null => exact takes_single fun _ _ _ => rfl
  | bool _ b => exact takes_single fun _ _ _ => rfl
  | integer | float => exact takes_single fun _ _ _ => rfl
  | string => exact takes_single fun _ _ _ => rfl
  | @array depth items _ ih =>
    intro fuel ts tail hts hfuel
    obtain ⟨⟨p, t⟩, ts, rfl, rfl, hitems⟩ := List.map_eq_cons_iff.mp hts
    rw [List.length_cons] at hfuel
    obtain ⟨fuel, rfl⟩ : ∃ k, fuel = k + 1 := Nat.exists_eq_add_of_le' (by omega)
    dsimp only
    rw [← Nat.add_assoc]
    cases items with
    | nil =>
      obtain ⟨⟨q, t⟩, rest, rfl, rfl, hrest⟩ := List.map_eq_cons_iff.mp hitems
      exact ⟨rest, rfl, hrest⟩
    | cons item items =>
      obtain ⟨rest, hread, hrest⟩ := takes_readItems ih fuel ts tail hitems (by omega)
      refine ⟨rest, ?_, hrest⟩
      obtain ⟨token, later, htoken, hopen, -⟩ := exists_cons_tokensOf item
      rw [tokenRows, intercalate_cons, htoken] at hitems
      obtain ⟨⟨q, t⟩, after, rfl, rfl, -⟩ := List.map_eq_cons_iff.mp hitems
      dsimp only at hread
      rw [readValue, hread]
      · rfl
      · rintro _ _ ⟨⟩
        exact hopen rfl
  | @object depth ms hnodup _ ih =>
    intro fuel ts tail hts hfuel
    obtain ⟨⟨p, t⟩, ts, rfl, rfl, hmembers⟩ := List.map_eq_cons_iff.mp hts
    rw [List.length_cons] at hfuel
    obtain ⟨fuel, rfl⟩ : ∃ k, fuel = k + 1 := Nat.exists_eq_add_of_le' (by omega)
    dsimp only
    rw [← Nat.add_assoc]
    cases ms with
    | nil =>
      obtain ⟨⟨q, t⟩, rest, rfl, rfl, hrest⟩ := List.map_eq_cons_iff.mp hmembers
      exact ⟨rest, rfl, hrest⟩
    | cons m ms =>
      obtain ⟨rest, hread, hrest⟩ := takes_readMembers ih fuel ts tail hmembers (by omega)
      refine ⟨rest, ?_, hrest⟩
      rw [memberTokenRows, intercalate_cons] at hmembers
      obtain ⟨⟨q, t⟩, after, rfl, rfl, -⟩ := List.map_eq_cons_iff.mp hmembers
      dsimp only at hread
      rw [readValue, hread]
      · simp only [bind, Except.bind, Members.ofList_eq_self hnodup]
      · rintro _ _ ⟨⟩

/-! ## Texts -/

/-- Behind a text that adds the tokens of a value, what comes next decides only whether the value is
alone. -/
lemma read_append {written : Text} (hadds : Adds written (tokensOf v)) (h : v.Plain depth)
    {after : Text} {ts : List Token} (hstops : StopsNumber after) (hafter : Lexes after ts) :
    ∃ rest : List PlacedToken, rest.map Prod.snd = ts ∧
      read depth (written ++ after) = match rest with
        | [] => .ok v
        | (p, _) :: _ => .error (.malformed .extraData p) := by
  have htokens : (tokens (written ++ after)).map Prod.snd = tokensOf v ++ ts :=
    hadds after ts hstops hafter _ 0 le_rfl
  obtain ⟨rest, hread, hrest⟩ := takes_tokensOf (written ++ after).length h 0
    (2 * (tokens (written ++ after)).length + 1) _ ts htokens (by omega)
  have hmark : (written ++ after).head?.any (·.val = 0xFEFF) = false := by
    cases htext : written ++ after with
    | nil => rfl
    | cons c later =>
      by_contra hany
      rw [htext, tokens_byteOrderMark (by simpa using hany)] at htokens
      obtain ⟨token, tail, htoken, -, hstray⟩ := exists_cons_tokensOf v
      rw [htoken, List.cons_append, List.map_singleton] at htokens
      exact hstray (List.cons.inj htokens).1.symm
  refine ⟨rest, hrest, ?_⟩
  dsimp only at hread
  rw [Nat.zero_add] at hread
  unfold read
  rw [hmark, if_neg Bool.false_ne_true]
  dsimp only
  rw [hread]
  cases rest <;> rfl

/-- A text that adds the tokens of a plain value is read as this value, also with blanks behind
it. -/
lemma read_blanks {written blanks : Text} (hadds : Adds written (tokensOf v))
    (h : v.Plain depth) (hblanks : ∀ c ∈ blanks, isSpace c = true) :
    read depth (written ++ blanks) = .ok v := by
  have hstops : StopsNumber blanks := by
    have hnil : StopsNumber [] := nofun
    rw [← List.append_nil blanks]
    exact stopsNumber_append hblanks hnil
  have hlexes := lexes_spaces hblanks lexes_nil
  rw [List.append_nil] at hlexes
  obtain ⟨rest, hrest, hread⟩ := read_append hadds h hstops hlexes
  rw [List.map_eq_nil_iff] at hrest
  subst hrest
  exact hread

/-- What stands behind a written value decides only whether it is alone. -/
lemma read_pretty_append (h : v.Plain depth) {after : Text} {ts : List Token}
    (hstops : StopsNumber after) (hafter : Lexes after ts) :
    ∃ rest : List PlacedToken, rest.map Prod.snd = ts ∧
      read depth (pretty v ++ after) = match rest with
        | [] => .ok v
        | (p, _) :: _ => .error (.malformed .extraData p) :=
  read_append (adds_pretty h) h hstops hafter

lemma read_pretty_blanks (h : v.Plain depth) {blanks : Text}
    (hblanks : ∀ c ∈ blanks, isSpace c = true) : read depth (pretty v ++ blanks) = .ok v :=
  read_blanks (adds_pretty h) h hblanks

lemma read_pretty (h : v.Plain depth) : read depth (pretty v) = .ok v := by
  have hread := read_pretty_blanks h (List.forall_mem_nil (isSpace · = true))
  rwa [List.append_nil] at hread

/-- In ASCII a plain value is read back if its texts are joined. -/
lemma read_compactAscii (h : v.Plain depth) (hjoined : v.IsJoined) :
    read depth (compactAscii v) = .ok v := by
  have hread := read_blanks (adds_compactAscii h hjoined) h
    (List.forall_mem_nil (isSpace · = true))
  rwa [List.append_nil] at hread

end Json

end StructuredData
