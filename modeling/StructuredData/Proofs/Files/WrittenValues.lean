import StructuredData.Proofs.Files.JsonFiles
import StructuredData.Proofs.Files.Paths
import StructuredData.Proofs.Json.RoundTrip
import StructuredData.Proofs.Text.Utf8

/-!
# Files that values are written to

A value that is written over several lines to a file is read back from that file.  The text has no
carriage return, so that its line ends stay as they are, and it has octets that can be read if it
holds no half of a surrogate pair.

What is written around the strings of a value is line feeds and printable ASCII, and where the
writer is to keep to ASCII the strings are too (`isLayout_of_mem_prettyAscii`).
-/

namespace StructuredData

/-! ## Line ends -/

namespace Text

/-- The text has no carriage return. -/
def NoReturn (t : Text) : Prop := ∀ c ∈ t, c.val ≠ 13

lemma unifyNewlines_eq_self {t : Text} (h : NoReturn t) : unifyNewlines t = t := by
  induction t with
  | nil => rfl
  | cons c rest ih =>
    obtain ⟨hc, hrest⟩ := List.forall_mem_cons.mp h
    rw [unifyNewlines.eq_def]
    dsimp only
    rw [if_neg hc, ih hrest]

end Text

namespace Json

/-! ## The code points of a written value -/

/-- Line feeds and the printable code points of ASCII. -/
def IsLayout (c : CodePoint) : Prop := c.val = 10 ∨ 32 ≤ c.val ∧ c.val < 127

instance : DecidablePred IsLayout := fun c =>
  inferInstanceAs (Decidable (c.val = 10 ∨ 32 ≤ c.val ∧ c.val < 127))

lemma isLayout_of_isAsciiDigit {c : CodePoint} (hc : c.isAsciiDigit = true) : IsLayout c := by
  simp only [CodePoint.isAsciiDigit, Bool.and_eq_true, decide_eq_true_eq] at hc
  exact .inr (by omega)

lemma isLayout_ofInt (n : ℤ) : ∀ c ∈ Text.ofInt n, IsLayout c := by
  have hdigits : ∀ n, ∀ c ∈ Text.ofNat n, IsLayout c :=
    fun n c hc => isLayout_of_isAsciiDigit (Text.isAsciiDigit_of_mem_ofNat hc)
  cases n with
  | ofNat n => exact hdigits n
  | negSucc n => exact List.forall_mem_cons.mpr ⟨by decide, hdigits (n + 1)⟩

lemma isLayout_spelling {s : Spelling} (h : s.IsFloat) : ∀ c ∈ s.text, IsLayout c := by
  have hfraction : ∀ c ∈ s.fractionText, IsLayout c := by
    unfold Spelling.fractionText
    split_ifs
    · simp
    · exact List.forall_mem_append.mpr ⟨by decide,
        fun c hc => isLayout_of_isAsciiDigit (h.fraction_digits c hc)⟩
  have hexponent : ∀ c ∈ s.exponentText, IsLayout c := by
    unfold Spelling.exponentText
    cases hpart : s.exponent with
    | none => simp
    | some part =>
      have hsign : ∀ negative : Bool, ∀ c ∈ (if negative then "-" else "+" : Text), IsLayout c := by
        decide
      refine List.forall_mem_append.mpr ⟨List.forall_mem_append.mpr ⟨by decide, hsign part.1⟩, ?_⟩
      exact fun c hc => isLayout_of_isAsciiDigit ((h.exponent_digits part hpart).2 c hc)
  exact List.forall_mem_append.mpr ⟨List.forall_mem_append.mpr
    ⟨fun c hc => isLayout_of_isAsciiDigit (h.whole_digits c hc), hfraction⟩, hexponent⟩

lemma isLayout_float (x : Binary64) : ∀ c ∈ x.text writtenNumber, IsLayout c := by
  cases x with
  | nan => exact (by decide : ∀ c ∈ Binary64.nan.text writtenNumber, IsLayout c)
  | infinity negative =>
    exact (by decide : ∀ negative, ∀ c ∈ (Binary64.infinity negative).text writtenNumber,
      IsLayout c) negative
  | finite negative m e hcanonical =>
    obtain ⟨s, htext, hfloat, -⟩ := Binary64.exists_spelling_text writtenNumber negative hcanonical
    have hsign : ∀ negative : Bool, ∀ c ∈ Text.ofString (if negative then "-" else ""),
        IsLayout c := by
      decide
    rw [htext]
    exact List.forall_mem_append.mpr ⟨hsign negative, isLayout_spelling hfloat⟩

lemma isLayout_lineStart (level : ℕ) : ∀ c ∈ lineStart level, IsLayout c := by
  refine List.forall_mem_cons.mpr ⟨by decide, fun c hc => ?_⟩
  rw [List.eq_of_mem_replicate hc]
  decide

section

variable {P : CodePoint → Prop} {ascii : Bool}

lemma forall_mem_block {opening closing : Text} {level : ℕ} {parts : List Text}
    (hlayout : ∀ c, IsLayout c → P c) (hopening : ∀ c ∈ opening, P c)
    (hclosing : ∀ c ∈ closing, P c) (hparts : ∀ part ∈ parts, ∀ c ∈ part, P c) :
    ∀ c ∈ block opening closing level parts, P c := by
  have hline : ∀ level, ∀ c ∈ lineStart level, P c :=
    fun level c hc => hlayout c (isLayout_lineStart level c hc)
  unfold block
  split_ifs
  · exact List.forall_mem_append.mpr ⟨hopening, hclosing⟩
  · have hcomma : ∀ c ∈ "," ++ lineStart (level + 1), P c :=
      List.forall_mem_cons.mpr ⟨hlayout _ (by decide), hline _⟩
    have hjoin : ∀ c ∈ Text.join ("," ++ lineStart (level + 1)) parts, P c := by
      intro c hc
      rcases Text.mem_of_mem_join hc with h | ⟨part, hpart, h⟩
      · exact hcomma c h
      · exact hparts part hpart c h
    simp only [List.forall_mem_append]
    exact ⟨⟨⟨⟨hopening, hline _⟩, hjoin⟩, hline _⟩, hclosing⟩

/-- What holds of the layout and of every written string holds of the text of a value. -/
lemma forall_mem_writeLines (hlayout : ∀ c, IsLayout c → P c)
    (hstring : ∀ t, ∀ c ∈ writeString ascii t, P c) {depth : ℕ} {v : Value} (h : v.Plain depth)
    (level : ℕ) : ∀ c ∈ writeLines ascii level v, P c := by
  induction h generalizing level with
  | null => exact fun c hc => hlayout c ((by decide : ∀ c ∈ Text.ofString "null", IsLayout c) c hc)
  | bool _ b =>
    have hword : ∀ b : Bool, ∀ c ∈ (if b then "true" else "false" : Text), IsLayout c := by decide
    exact fun c hc => hlayout c (hword b c hc)
  | @integer _ n _ => exact fun c hc => hlayout c (isLayout_ofInt n c hc)
  | float _ x => exact fun c hc => hlayout c (isLayout_float x c hc)
  | string _ t => exact hstring t
  | array _ ih =>
    have hmarks : (∀ c ∈ Text.ofString "[", IsLayout c) ∧ ∀ c ∈ Text.ofString "]", IsLayout c := by
      decide
    refine forall_mem_block hlayout (fun c hc => hlayout c (hmarks.1 c hc))
      (fun c hc => hlayout c (hmarks.2 c hc)) ?_
    rw [writeLinesItems_eq]
    intro part hpart
    obtain ⟨item, hitem, rfl⟩ := List.mem_map.mp hpart
    exact ih item hitem (level + 1)
  | object _ _ ih =>
    have hmarks : (∀ c ∈ Text.ofString "\x7b", IsLayout c) ∧
        (∀ c ∈ Text.ofString "\x7d", IsLayout c) ∧ ∀ c ∈ Text.ofString ": ", IsLayout c := by
      decide
    refine forall_mem_block hlayout (fun c hc => hlayout c (hmarks.1 c hc))
      (fun c hc => hlayout c (hmarks.2.1 c hc)) ?_
    rw [writeLinesMembers_eq]
    intro part hpart
    obtain ⟨m, hm, rfl⟩ := List.mem_map.mp hpart
    exact List.forall_mem_append.mpr ⟨List.forall_mem_append.mpr ⟨hstring m.1,
      fun c hc => hlayout c (hmarks.2.2 c hc)⟩, ih m hm (level + 1)⟩

lemma forall_mem_writeString (hquote : P (CodePoint.ofChar '"'))
    (hpoint : ∀ c, ∀ d ∈ writePoint ascii c, P d) (t : Text) : ∀ c ∈ writeString ascii t, P c := by
  have hmark : ∀ c ∈ Text.ofString "\"", P c := List.forall_mem_singleton.mpr hquote
  refine List.forall_mem_append.mpr ⟨List.forall_mem_append.mpr ⟨hmark, fun c hc => ?_⟩, hmark⟩
  obtain ⟨d, -, hd⟩ := List.mem_flatMap.mp hc
  exact hpoint d c hd

end

/-! ## Escapes -/

lemma isLayout_hex (places n : ℕ) : ∀ c ∈ Text.hex places n, IsLayout c := by
  have hdigit : ∀ d < 16, IsLayout (CodePoint.ofChar (Nat.digitChar d)) := by decide
  have hdigits : ∀ c ∈ (Nat.toDigits 16 n).map CodePoint.ofChar, IsLayout c := by
    induction n using Nat.strongRecOn with
    | _ n ih =>
      rw [Nat.toDigits_eq_if (by decide)]
      split_ifs with hn
      · exact List.forall_mem_singleton.mpr (hdigit n hn)
      · rw [List.map_append, List.forall_mem_append]
        exact ⟨ih (n / 16) (by omega),
          List.forall_mem_singleton.mpr (hdigit (n % 16) (Nat.mod_lt _ (by decide)))⟩
  refine List.forall_mem_append.mpr ⟨fun c hc => ?_, hdigits⟩
  rw [List.eq_of_mem_replicate hc]
  decide

lemma isLayout_unitEscape (n : ℕ) : ∀ c ∈ unitEscape n, IsLayout c :=
  List.forall_mem_append.mpr ⟨by decide, isLayout_hex 4 n⟩

/-- One escape among several ways to write a code point. -/
lemma isLayout_or_of_ite {p : Prop} [Decidable p] {escape other : Text} {Q : CodePoint → Prop}
    (hescape : ∀ d ∈ escape, IsLayout d) (hother : ¬p → ∀ d ∈ other, IsLayout d ∨ Q d) :
    ∀ d ∈ (if p then escape else other), IsLayout d ∨ Q d := by
  split_ifs with h
  · exact fun d hd => .inl (hescape d hd)
  · exact hother h

/-- A code point is written as itself or with code points of the layout. -/
lemma isLayout_or_eq_of_mem_writePoint (ascii : Bool) (c : CodePoint) :
    ∀ d ∈ writePoint ascii c,
      IsLayout d ∨ d = c ∧ 0x20 ≤ c.val ∧ ¬ (ascii && 0x7F ≤ c.val) = true := by
  unfold writePoint
  iterate 7
    refine isLayout_or_of_ite (by decide) fun _ => ?_
  refine isLayout_or_of_ite (isLayout_unitEscape _) fun hcontrol => ?_
  split_ifs with hascii hunit
  · exact fun d hd => .inl (isLayout_unitEscape _ d hd)
  · intro d hd
    rcases List.mem_append.mp hd with hd | hd
    · exact .inl (isLayout_unitEscape _ d hd)
    · exact .inl (isLayout_unitEscape _ d hd)
  · exact List.forall_mem_singleton.mpr (.inr ⟨rfl, not_lt.mp hcontrol, hascii⟩)

/-- A value that is written in ASCII is written with the code points of the layout. -/
lemma isLayout_of_mem_prettyAscii {depth : ℕ} {v : Value} (h : v.Plain depth) :
    ∀ c ∈ prettyAscii v, IsLayout c := by
  refine forall_mem_writeLines (fun _ => id) ?_ h 0
  refine forall_mem_writeString (by decide) fun c d hd => ?_
  rcases isLayout_or_eq_of_mem_writePoint _ c d hd with hlayout | ⟨rfl, hprintable, hascii⟩
  · exact hlayout
  · exact .inr ⟨hprintable, by simpa using hascii⟩

/-- Plain values are written without a carriage return. -/
lemma noReturn_pretty {depth : ℕ} {v : Value} (h : v.Plain depth) : Text.NoReturn (pretty v) := by
  have hlayout : ∀ c, IsLayout c → c.val ≠ 13 := by
    intro c hc
    unfold IsLayout at hc
    omega
  refine forall_mem_writeLines hlayout ?_ h 0
  refine forall_mem_writeString (by decide) fun c d hd => ?_
  rcases isLayout_or_eq_of_mem_writePoint _ c d hd with hd | ⟨rfl, hprintable, -⟩
  · exact hlayout d hd
  · omega

/-! ## Values of ASCII -/

/-- A string that needs no escapes for its code points beyond ASCII. -/
lemma writeString_of_ascii {t : Text} (h : ∀ c ∈ t, c.val < 0x7F) :
    writeString true t = writeString false t := by
  have hpoint : ∀ c ∈ t, writePoint true c = writePoint false c := by
    intro c hc
    have hascii : (true && decide (0x7F ≤ c.val)) = false := by
      simpa using h c hc
    unfold writePoint
    rw [hascii, Bool.false_and]
  unfold writeString
  rw [List.flatMap_congr hpoint]

end Json

/-! ## Reading files -/

namespace FileTree

/-- A file that a plain value was written to gives that value. -/
lemma readJson_pretty {tree : FileTree} {depth : ℕ} {path : Text} {v : Value}
    (hv : v.Plain depth)
    (hpoints : ∀ c ∈ Json.pretty v, c.isSurrogate = false)
    (hread : tree.readText path = .ok (Utf8.octets (Json.pretty v))) :
    tree.readJson depth path = .ok v := by
  have hlines : tree.readLines path = .ok (Json.pretty v) := by
    unfold readLines
    rw [hread]
    simp only [Except.mapError, bind, Except.bind, Utf8.decode_octets hpoints, pure, Except.pure]
    rw [Text.unifyNewlines_eq_self (Json.noReturn_pretty hv)]
  exact readJson_eq_ok_iff.mpr ⟨_, hlines, Json.read_pretty hv⟩

end FileTree

end StructuredData
