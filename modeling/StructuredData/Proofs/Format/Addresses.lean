import Mathlib.Data.List.Basic
import StructuredData.Proofs.Format.Strict

/-!
# Mail addresses, image names and postal codes

The patterns of mail addresses, image names and postal codes can fit one text in many ways: a domain
may hold several points, a name several extensions, and a postal code may end in blanks.  Here each
of the three forms is described without saying how a text is read.  A mail address has one sign `@`
and a point somewhere behind it, an image name ends in an extension or goes on with a query, and a
postal code is short and made of certain signs.

`address_forms` says that the formats accept exactly what is described, a line feed at the end of
the text being overlooked.
-/

namespace StructuredData

lemma CodePoint.val_inj {c d : CodePoint} : c.val = d.val ↔ c = d := by
  cases c
  cases d
  rw [CodePoint.mk.injEq]

/-- The text without the line feed that ends it, if there is one. -/
def Text.dropNewline (t : Text) : Text :=
  if t.getLast? = some Text.newline then t.dropLast else t

namespace Format

variable {t head rest : Text} {c : CodePoint}

/-! ## The forms -/

/-- A mail address: no blanks, one sign `@` with something in front of it, and behind it a point
with something on either side. -/
def IsMailAddress (t : Text) : Prop :=
  (∀ c ∈ t, c.isBlank = false) ∧ t.count (CodePoint.ofChar '@') = 1 ∧
    ∃ name host zone : Text, t = name ++ "@" ++ host ++ "." ++ zone ∧
      name ≠ [] ∧ host ≠ [] ∧ zone ≠ []

/-- The code point is the small letter, its capital, or a sign that counts as the letter when case
is ignored: the capital with a dot and the small letter without one for `i`, the long form of `s`,
and the sign of the kelvin for `k`. -/
def IsLetter (letter c : CodePoint) : Prop :=
  c = letter ∨ c.val + 32 = letter.val ∨
    (letter = CodePoint.ofChar 'i' ∧ (c.val = 0x130 ∨ c.val = 0x131)) ∨
    (letter = CodePoint.ofChar 's' ∧ c.val = 0x17F) ∨
    (letter = CodePoint.ofChar 'k' ∧ c.val = 0x212A)

/-- The extensions of image names. -/
def imageExtensions : List Text := ["jpg", "jpeg", "png", "gif", "webp", "svg"]

/-- An extension of image names, in any case. -/
def IsImageExtension (t : Text) : Prop :=
  ∃ extension ∈ imageExtensions, List.Forall₂ IsLetter extension t

/-- The end of an image name: a point and an extension, and after them nothing or a question mark
with no line feed behind it. -/
def IsImageEnding (t : Text) : Prop :=
  ∃ extension : Text, IsImageExtension extension ∧
    (t = "." ++ extension ∨
      ∃ query : Text, t = "." ++ extension ++ "?" ++ query ∧ Text.newline ∉ query)

/-- An image name: a text with such an end. -/
def IsImageName (t : Text) : Prop := ∃ front ending, t = front ++ ending ∧ IsImageEnding ending

/-- A postal code: three to ten digits, hyphens, blanks and letters in any case. -/
def IsPostalCode (t : Text) : Prop :=
  3 ≤ t.length ∧ t.length ≤ 10 ∧ ∀ c ∈ t, c.isAsciiDigit = true ∨ c = CodePoint.ofChar '-' ∨
    c.isBlank = true ∨ ∃ letter : CodePoint, letter.isAsciiLower = true ∧ IsLetter letter c

/-! ## Letters in any case -/

lemma foldCase_eq_iff {letter : CodePoint} (hletter : letter.isAsciiLower = true) :
    foldCase c = letter ↔ IsLetter letter c := by
  have hi : (CodePoint.ofChar 'i').val = 105 := rfl
  have hs : (CodePoint.ofChar 's').val = 115 := rfl
  have hk : (CodePoint.ofChar 'k').val = 107 := rfl
  simp only [CodePoint.isAsciiLower, Bool.and_eq_true, decide_eq_true_eq] at hletter
  simp only [foldCase, IsLetter, CodePoint.isAsciiUpper, Bool.and_eq_true, Bool.or_eq_true,
    decide_eq_true_eq, ← CodePoint.val_inj, hi, hs, hk]
  split_ifs with hupper hdotted hlong hkelvin
  · rw [CodePoint.val_ofNat, if_pos (by omega)]
    omega
  all_goals omega

lemma isPostal_iff :
    isPostal c = true ↔ c.isAsciiDigit = true ∨ c = CodePoint.ofChar '-' ∨
      c.isBlank = true ∨ ∃ letter : CodePoint, letter.isAsciiLower = true ∧ IsLetter letter c := by
  have hfold : (∃ letter : CodePoint, letter.isAsciiLower = true ∧ IsLetter letter c) ↔
      (foldCase c).isAsciiLower = true := by
    constructor
    · rintro ⟨letter, hlower, hletter⟩
      rw [(foldCase_eq_iff hlower).mpr hletter]
      exact hlower
    · intro h
      exact ⟨_, h, (foldCase_eq_iff h).mp rfl⟩
  simp only [isPostal, Bool.or_eq_true, decide_eq_true_eq, hfold]
  tauto

/-- An extension is one of those listed as soon as its letters are folded. -/
lemma isImageExtension_iff : IsImageExtension t ↔ t.map foldCase ∈ imageExtensions := by
  have hlower : ∀ e ∈ imageExtensions, ∀ c ∈ e, c.isAsciiLower = true := by decide
  have hletters : ∀ e ∈ imageExtensions, List.Forall₂ IsLetter e t ↔ e = t.map foldCase := by
    intro e he
    rw [← List.forall₂_eq_eq_eq, List.forall₂_map_right_iff, List.forall₂_iff_get,
      List.forall₂_iff_get]
    refine and_congr_right fun _ => forall₃_congr fun i hi _ => ?_
    rw [eq_comm, foldCase_eq_iff (hlower e he _ (List.get_mem _ _))]
  unfold IsImageExtension
  constructor
  · rintro ⟨e, he, h⟩
    rw [← (hletters e he).mp h]
    exact he
  · intro h
    exact ⟨_, h, (hletters _ h).mpr rfl⟩

/-! ## What the patterns read -/

open Pattern

lemma forall_isMailPart_iff :
    (∀ c ∈ t, isMailPart c = true) ↔
      (∀ c ∈ t, c.isBlank = false) ∧ t.count (CodePoint.ofChar '@') = 0 := by
  simp only [isMailPart, Bool.and_eq_true, Bool.not_eq_true', decide_eq_true_eq]
  rw [List.count_eq_zero, forall₂_and, List.forall_mem_ne']

lemma reads_email :
    (pattern .email).Reads head rest ↔
      IsMailAddress head ∧ (rest = [] ∨ rest = [Text.newline]) := by
  -- the only sign is the one that is read as such exactly if there is none in the three parts
  have hparts (name host zone : Text) :
      ((∀ c ∈ name ++ "@" ++ host ++ "." ++ zone, c.isBlank = false) ∧
        (name ++ "@" ++ host ++ "." ++ zone).count (CodePoint.ofChar '@') = 1) ↔
      (∀ c ∈ name, isMailPart c = true) ∧ (∀ c ∈ host, isMailPart c = true) ∧
        ∀ c ∈ zone, isMailPart c = true := by
    have hsigns : ∀ c ∈ ("@" : Text) ++ ".", c.isBlank = false := by decide
    have hat : ("@" : Text).count (CodePoint.ofChar '@') = 1 := by decide
    have hpoint : ("." : Text).count (CodePoint.ofChar '@') = 0 := by decide
    obtain ⟨hatBlank, hpointBlank⟩ := List.forall_mem_append.mp hsigns
    simp only [forall_isMailPart_iff, List.forall_mem_append, List.count_append, hat, hpoint]
    constructor
    · rintro ⟨⟨⟨⟨⟨hname, -⟩, hhost⟩, -⟩, hzone⟩, hcount⟩
      exact ⟨⟨hname, by omega⟩, ⟨hhost, by omega⟩, hzone, by omega⟩
    · rintro ⟨⟨hname, hnameCount⟩, ⟨hhost, hhostCount⟩, hzone, hzoneCount⟩
      exact ⟨⟨⟨⟨⟨hname, hatBlank⟩, hhost⟩, hpointBlank⟩, hzone⟩, by omega⟩
  have hpattern : pattern .email = all [.run isMailPart 1 none, char '@', .run isMailPart 1 none,
    char '.', .run isMailPart 1 none, .atEnd] := rfl
  simp only [hpattern, reads_all_run, reads_all_char, reads_all_atEnd, Option.mem_def,
    reduceCtorEq, false_implies, implies_true, and_true, Nat.one_le_iff_ne_zero, ne_eq,
    List.length_eq_zero_iff]
  constructor
  · rintro ⟨name, _, rfl, ⟨hname, hnameNe⟩, _, rfl, host, _, rfl, ⟨hhost, hhostNe⟩, _, rfl, zone, _,
      rfl, ⟨hzone, hzoneNe⟩, rfl, hrest⟩
    obtain ⟨hblank, hcount⟩ := (hparts name host zone).mpr ⟨hname, hhost, hzone⟩
    refine ⟨⟨?_, ?_, name, host, zone, ?_, hnameNe, hhostNe, hzoneNe⟩, hrest⟩
    · simpa [Text.ofString] using hblank
    · simpa [Text.ofString] using hcount
    · simp [Text.ofString]
  · rintro ⟨⟨hblank, hcount, name, host, zone, rfl, hnameNe, hhostNe, hzoneNe⟩, hrest⟩
    obtain ⟨hname, hhost, hzone⟩ := (hparts name host zone).mp ⟨hblank, hcount⟩
    refine ⟨name, _, ?_, ⟨hname, hnameNe⟩, _, rfl, host, _, rfl, ⟨hhost, hhostNe⟩, _, rfl, zone, _,
      rfl, ⟨hzone, hzoneNe⟩, rfl, hrest⟩
    simp [Text.ofString]

lemma reads_imageExtension : imageExtension.Reads head rest ↔ IsImageExtension head := by
  have hextensions : anyCase "jpg" ::
      (["jpeg", "png", "gif", "webp", "svg"].map fun s : String => anyCase s) =
        imageExtensions.map anyCase := rfl
  have hword (t : Text) : (anyCase t).Reads head rest ↔ t = head.map foldCase := by
    unfold anyCase
    rw [reads_all_ones, ← List.forall₂_eq_eq_eq, List.forall₂_map_right_iff]
    simp only [decide_eq_true_eq]
    exact ⟨fun h => h.imp fun _ _ => Eq.symm, fun h => h.imp fun _ _ => Eq.symm⟩
  unfold imageExtension
  rw [reads_oneOf, hextensions, isImageExtension_iff]
  simp [hword]

lemma reads_imageUrl :
    (pattern .imageUrl).Reads head rest ↔
      IsImageEnding head ∧ (rest = [] ∨ rest = [Text.newline]) := by
  have hpattern : pattern .imageUrl = all [char '.', imageExtension,
    .maybe (all [char '?', .run notNewline 0 none]), .atEnd] := rfl
  have hquery (t : Text) : (∀ c ∈ t, notNewline c = true) ↔ Text.newline ∉ t := by
    simp only [notNewline, ne_eq, decide_eq_true_eq]
    exact List.forall_mem_ne'
  simp only [hpattern, reads_all_char, reads_all_cons (a := imageExtension), reads_imageExtension,
    reads_all_maybe, reads_all_run, reads_all_nil, reads_all_atEnd, hquery, Option.mem_def,
    reduceCtorEq, false_implies, implies_true, and_true, Nat.zero_le, IsImageEnding]
  constructor
  · rintro ⟨_, rfl, extension, _, rfl, hextension, query, _, rfl, hquery, rfl, hrest⟩
    refine ⟨⟨extension, hextension, hquery.imp ?_ ?_⟩, hrest⟩
    · rintro rfl
      simp [Text.ofString]
    · rintro ⟨_, rfl, later, _, rfl, hlater, rfl⟩
      exact ⟨later, by simp [Text.ofString], hlater⟩
  · rintro ⟨⟨extension, hextension, rfl | ⟨query, rfl, hquery⟩⟩, hrest⟩
    · exact ⟨_, rfl, extension, _, (List.append_nil _).symm, hextension, [], _, rfl, .inl rfl, rfl,
        hrest⟩
    · refine ⟨extension ++ "?" ++ query, by simp [Text.ofString], extension, _,
        List.append_assoc _ _ _, hextension, "?" ++ query, [], by simp, .inr ?_, rfl, hrest⟩
      exact ⟨query, rfl, query, [], by simp, hquery, rfl⟩

lemma reads_postalCode :
    (pattern .postalCode).Reads head rest ↔
      IsPostalCode head ∧ (rest = [] ∨ rest = [Text.newline]) := by
  have hpattern : pattern .postalCode = all [.run isPostal 3 (some 10), .atEnd] := rfl
  simp only [hpattern, reads_all_run, reads_all_atEnd, isPostal_iff, Option.mem_def,
    Option.some.injEq, forall_eq', IsPostalCode]
  constructor
  · rintro ⟨signs, _, rfl, ⟨hsigns, hleast, hmost⟩, rfl, hrest⟩
    rw [List.append_nil]
    exact ⟨⟨hleast, hmost, hsigns⟩, hrest⟩
  · rintro ⟨⟨hleast, hmost, hsigns⟩, hrest⟩
    exact ⟨head, [], (List.append_nil _).symm, ⟨hsigns, hleast, hmost⟩, rfl, hrest⟩

/-! ## The line feed at the end -/

/-- A text is another up to a line feed if it is the other, or is so without its own line feed. -/
lemma exists_upToNewline_iff {P : Text → Prop} :
    (∃ core, UpToNewline core t ∧ P core) ↔ P t ∨ P t.dropNewline := by
  unfold Text.dropNewline UpToNewline
  constructor
  · rintro ⟨core, rfl | rfl, hcore⟩
    · exact .inl hcore
    · rw [if_pos List.getLast?_concat, List.dropLast_concat]
      exact .inr hcore
  · rintro (h | h)
    · exact ⟨t, .inl rfl, h⟩
    · split_ifs at h with hlast
      · exact ⟨t.dropLast, .inr (List.dropLast_append_getLast? _ hlast).symm, h⟩
      · exact ⟨t, .inl rfl, h⟩

/-- Where no text of the form ends in a line feed, only the text without it can have the form. -/
lemma exists_upToNewline_iff_of_dropNewline {P : Text → Prop} (h : P t → t.dropNewline = t) :
    (∃ core, UpToNewline core t ∧ P core) ↔ P t.dropNewline := by
  rw [exists_upToNewline_iff]
  constructor
  · rintro (ht | ht)
    · rw [h ht]
      exact ht
    · exact ht
  · exact .inr

lemma dropNewline_append {front back : Text} (hback : back ≠ []) (hfree : Text.newline ∉ back) :
    (front ++ back).dropNewline = front ++ back := by
  refine if_neg fun hlast => hfree ?_
  rw [List.getLast?_append_of_ne_nil _ hback] at hlast
  exact List.mem_of_getLast? hlast

lemma IsMailAddress.dropNewline_eq (h : IsMailAddress t) : t.dropNewline = t := by
  obtain ⟨hblank, -, name, host, zone, rfl, -, -, hzone⟩ := h
  refine dropNewline_append hzone fun hmem => ?_
  exact absurd (hblank _ (List.mem_append_right _ hmem)) (by decide)

lemma IsImageExtension.newline_notMem (h : IsImageExtension t) : Text.newline ∉ t := by
  intro hmem
  have hfolded : foldCase Text.newline ∉ imageExtensions.flatten := by decide
  exact hfolded (List.mem_flatten_of_mem (isImageExtension_iff.mp h) (List.mem_map_of_mem hmem))

lemma IsImageName.dropNewline_eq (h : IsImageName t) : t.dropNewline = t := by
  obtain ⟨front, _, rfl, extension, hextension, rfl | ⟨query, rfl, hquery⟩⟩ := h
  · refine dropNewline_append (by simp [Text.ofString]) ?_
    rw [List.mem_append, not_or]
    exact ⟨by decide, hextension.newline_notMem⟩
  · refine dropNewline_append (by simp [Text.ofString]) ?_
    simp only [List.mem_append, not_or]
    exact ⟨⟨⟨by decide, hextension.newline_notMem⟩, by decide⟩, hquery⟩

/-! ## What the formats accept -/

lemma hasFormat_email_iff :
    (Value.string t).hasFormat .email = true ↔ IsMailAddress t.dropNewline := by
  rw [@hasFormat_string_iff t _ (fun _ => IsMailAddress) rfl fun _ _ => reads_email]
  exact exists_upToNewline_iff_of_dropNewline IsMailAddress.dropNewline_eq

/-- Names of images may start anywhere, so that anything may stand in front of their end. -/
lemma hasFormat_imageUrl_iff :
    (Value.string t).hasFormat .imageUrl = true ↔ IsImageName t.dropNewline := by
  have haccepts : (Value.string t).hasFormat .imageUrl = (pattern .imageUrl).occurs t := rfl
  rw [haccepts, occurs_iff, ← exists_upToNewline_iff_of_dropNewline IsImageName.dropNewline_eq]
  simp only [reads_imageUrl]
  constructor
  · rintro ⟨front, ending, rest, rfl, hending, rfl | rfl⟩
    · exact ⟨front ++ ending, .inl (by simp), front, ending, rfl, hending⟩
    · exact ⟨front ++ ending, .inr (by simp), front, ending, rfl, hending⟩
  · rintro ⟨_, rfl | rfl, front, ending, rfl, hending⟩
    · exact ⟨front, ending, [], by simp, hending, .inl rfl⟩
    · exact ⟨front, ending, [Text.newline], by simp, hending, .inr rfl⟩

/-- A line feed at the end of a postal code is a blank of it as well. -/
lemma hasFormat_postalCode_iff :
    (Value.string t).hasFormat .postalCode = true ↔
      IsPostalCode t ∨ IsPostalCode t.dropNewline := by
  rw [@hasFormat_string_iff t _ (fun _ => IsPostalCode) rfl fun _ _ => reads_postalCode]
  exact exists_upToNewline_iff

/-- Mail addresses and image names are accepted in their form alone, apart from a line feed at the
end, and postal codes are accepted if they have their form with that line feed or without it. -/
theorem address_forms (t : Text) :
    ((Value.string t).hasFormat .email = true ↔ IsMailAddress t.dropNewline) ∧
    ((Value.string t).hasFormat .imageUrl = true ↔ IsImageName t.dropNewline) ∧
    ((Value.string t).hasFormat .postalCode = true ↔
      IsPostalCode t ∨ IsPostalCode t.dropNewline) :=
  ⟨hasFormat_email_iff, hasFormat_imageUrl_iff, hasFormat_postalCode_iff⟩

end Format

end StructuredData
