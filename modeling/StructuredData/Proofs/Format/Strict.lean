import StructuredData.Format
import StructuredData.Proofs.Text.Pattern

/-!
# Formats that are nearly strict

Dates, prices, currencies and telephone numbers each have a form in which the whole text is to be
written.  Their formats accept the form, and more than it: the digits may be those of any script,
and one line feed may follow (`strict_forms`).  Apart from these two liberties nothing is accepted.
-/

namespace StructuredData

namespace Format

variable {digit digit' : CodePoint → Bool} {t : Text}

/-! ## The forms -/

/-- So many digits. -/
def AreDigits (digit : CodePoint → Bool) (count : ℕ) (t : Text) : Prop :=
  t.length = count ∧ ∀ c ∈ t, digit c = true

/-- A time of day `Thh:mm:ss`, with `.SSS` or not, and with `Z` or not. -/
def IsClock (digit : CodePoint → Bool) (t : Text) : Prop :=
  ∃ hour minute second fraction zone : Text,
    t = "T" ++ hour ++ ":" ++ minute ++ ":" ++ second ++ fraction ++ zone ∧
      AreDigits digit 2 hour ∧ AreDigits digit 2 minute ∧ AreDigits digit 2 second ∧
      (fraction = [] ∨ ∃ digits, fraction = "." ++ digits ∧ AreDigits digit 3 digits) ∧
      (zone = [] ∨ zone = "Z")

/-- A date `YYYY-MM-DD`, with a time of day or not. -/
def IsDate (digit : CodePoint → Bool) (t : Text) : Prop :=
  ∃ year month day clock : Text,
    t = year ++ "-" ++ month ++ "-" ++ day ++ clock ∧
      AreDigits digit 4 year ∧ AreDigits digit 2 month ∧ AreDigits digit 2 day ∧
      (clock = [] ∨ IsClock digit clock)

/-- A price: digits, with a point and one or two further digits or not. -/
def IsPrice (digit : CodePoint → Bool) (t : Text) : Prop :=
  ∃ whole cents : Text, t = whole ++ cents ∧ whole ≠ [] ∧ (∀ c ∈ whole, digit c = true) ∧
    (cents = [] ∨ ∃ digits, cents = "." ++ digits ∧
      (AreDigits digit 1 digits ∨ AreDigits digit 2 digits))

/-- A currency: three letters `A` to `Z`. -/
def IsCurrency (t : Text) : Prop := AreDigits CodePoint.isAsciiUpper 3 t

/-- A telephone number: a plus sign or none, and up to sixteen digits, the first of them one of `1`
to `9`. -/
def IsPhone (digit : CodePoint → Bool) (t : Text) : Prop :=
  ∃ (sign : Text) (first : CodePoint) (later : Text), t = sign ++ first :: later ∧
    (sign = [] ∨ sign = "+") ∧ first.isAsciiDigit = true ∧ first ≠ '0' ∧
    (∀ c ∈ later, digit c = true) ∧ later.length ≤ 15

/-! ## What the patterns read -/

open Pattern

variable {head rest : Text}

lemma reads_digits {n : ℕ} :
    (digits n).Reads head rest ↔ AreDigits CodePoint.isDigit n head := by
  simp only [digits, Reads, AreDigits, Option.mem_def, Option.some.injEq, forall_eq']
  constructor
  · rintro ⟨hp, hleast, hmost⟩
    exact ⟨Nat.le_antisymm hmost hleast, hp⟩
  · rintro ⟨rfl, hp⟩
    exact ⟨hp, Nat.le_refl _, Nat.le_refl _⟩

lemma reads_all_digits {n : ℕ} {ps : List Pattern} :
    (all (digits n :: ps)).Reads head rest ↔
      ∃ first later, head = first ++ later ∧ AreDigits CodePoint.isDigit n first ∧
        (all ps).Reads later rest := by
  simp only [reads_all_cons, reads_digits]

/-- What a time of day is written with. -/
def clockPattern : Pattern :=
  all [char 'T', digits 2, char ':', digits 2, char ':', digits 2,
    .maybe (all [char '.', digits 3]), .maybe (char 'Z')]

lemma reads_clock : clockPattern.Reads head rest ↔ IsClock CodePoint.isDigit head := by
  simp only [clockPattern, reads_all_char, reads_all_digits, reads_all_maybe, reads_all_nil,
    reads_char]
  constructor
  · rintro ⟨_, rfl, hour, _, rfl, hhour, _, rfl, minute, _, rfl, hminute, _, rfl, second, _, rfl,
      hsecond, fraction, _, rfl, hfraction, zone, _, rfl, hzone, rfl⟩
    refine ⟨hour, minute, second, fraction, zone, ?_, hhour, hminute, hsecond, ?_, hzone⟩
    · simp [Text.ofString]
    · refine hfraction.imp_right ?_
      rintro ⟨_, rfl, digits, _, rfl, hdigits, rfl⟩
      exact ⟨digits, by simp [Text.ofString], hdigits⟩
  · rintro ⟨hour, minute, second, fraction, zone, rfl, hhour, hminute, hsecond, hfraction, hzone⟩
    refine ⟨_, ?_, hour, _, rfl, hhour, _, rfl, minute, _, rfl, hminute, _, rfl, second, _, rfl,
      hsecond, fraction, _, rfl, hfraction.imp_right ?_, zone, _, rfl, hzone, rfl⟩
    · simp [Text.ofString]
    · rintro ⟨digits, rfl, hdigits⟩
      exact ⟨_, rfl, digits, _, (List.append_nil _).symm, hdigits, rfl⟩

lemma reads_date :
    (pattern .date).Reads head rest ↔
      IsDate CodePoint.isDigit head ∧ (rest = [] ∨ rest = [Text.newline]) := by
  have hpattern : pattern .date =
      all [digits 4, char '-', digits 2, char '-', digits 2, .maybe clockPattern, .atEnd] := rfl
  simp only [hpattern, reads_all_char, reads_all_digits, reads_all_maybe, reads_clock,
    reads_all_atEnd]
  constructor
  · rintro ⟨year, _, rfl, hyear, _, rfl, month, _, rfl, hmonth, _, rfl, day, _, rfl, hday, clock, _,
      rfl, hclock, rfl, hrest⟩
    exact ⟨⟨year, month, day, clock, by simp [Text.ofString], hyear, hmonth, hday, hclock⟩, hrest⟩
  · rintro ⟨⟨year, month, day, clock, rfl, hyear, hmonth, hday, hclock⟩, hrest⟩
    refine ⟨year, _, ?_, hyear, _, rfl, month, _, rfl, hmonth, _, rfl, day, _, rfl, hday, clock, _,
      rfl, hclock, rfl, hrest⟩
    simp [Text.ofString]

lemma reads_price :
    (pattern .price).Reads head rest ↔
      IsPrice CodePoint.isDigit head ∧ (rest = [] ∨ rest = [Text.newline]) := by
  have hcents (t : Text) : ((∀ c ∈ t, c.isDigit = true) ∧ 1 ≤ t.length ∧ t.length ≤ 2) ↔
      AreDigits CodePoint.isDigit 1 t ∨ AreDigits CodePoint.isDigit 2 t := by
    have hlength : (1 ≤ t.length ∧ t.length ≤ 2) ↔ (t.length = 1 ∨ t.length = 2) := by omega
    rw [hlength, and_comm, or_and_right]
    rfl
  have hpattern : pattern .price = all [.run CodePoint.isDigit 1 none,
      .maybe (all [char '.', .run CodePoint.isDigit 1 (some 2)]), .atEnd] := rfl
  simp only [hpattern, reads_all_run, reads_all_maybe, reads_all_char, reads_all_nil,
    reads_all_atEnd, Option.mem_def, reduceCtorEq, Option.some.injEq, false_implies, implies_true,
    and_true, forall_eq', hcents]
  constructor
  · rintro ⟨whole, _, rfl, ⟨hwhole, hleast⟩, cents, _, rfl, hcents, rfl, hrest⟩
    refine ⟨⟨whole, cents, by simp, List.length_pos_iff.mp hleast, hwhole, ?_⟩, hrest⟩
    refine hcents.imp_right ?_
    rintro ⟨_, rfl, digits, _, rfl, hdigits, rfl⟩
    exact ⟨digits, by simp [Text.ofString], hdigits⟩
  · rintro ⟨⟨whole, cents, rfl, hne, hwhole, hcents⟩, hrest⟩
    refine ⟨whole, _, rfl, ⟨hwhole, List.length_pos_iff.mpr hne⟩, cents, _,
      (List.append_nil _).symm, hcents.imp_right ?_, rfl, hrest⟩
    rintro ⟨digits, rfl, hdigits⟩
    exact ⟨_, rfl, digits, _, (List.append_nil _).symm, hdigits, rfl⟩

lemma reads_currency :
    (pattern .currency).Reads head rest ↔
      IsCurrency head ∧ (rest = [] ∨ rest = [Text.newline]) := by
  have hpattern : pattern .currency = all [.run CodePoint.isAsciiUpper 3 (some 3), .atEnd] := rfl
  simp only [hpattern, reads_all_run, reads_all_atEnd, Option.mem_def, Option.some.injEq,
    forall_eq', IsCurrency, AreDigits]
  constructor
  · rintro ⟨letters, _, rfl, ⟨hletters, hleast, hmost⟩, rfl, hrest⟩
    rw [List.append_nil]
    exact ⟨⟨Nat.le_antisymm hmost hleast, hletters⟩, hrest⟩
  · rintro ⟨⟨hlength, hletters⟩, hrest⟩
    exact ⟨head, [], (List.append_nil _).symm,
      ⟨hletters, Nat.le_of_eq hlength.symm, Nat.le_of_eq hlength⟩, rfl, hrest⟩

lemma reads_phone :
    (pattern .phone).Reads head rest ↔
      IsPhone CodePoint.isDigit head ∧ (rest = [] ∨ rest = [Text.newline]) := by
  have hfirst (c : CodePoint) : (decide (49 ≤ c.val) && decide (c.val ≤ 57)) = true ↔
      c.isAsciiDigit = true ∧ c ≠ CodePoint.ofChar '0' := by
    have hzero : c = CodePoint.ofChar '0' ↔ c.val = 48 :=
      ⟨congrArg CodePoint.val, fun h => CodePoint.mk.injEq _ _ _ _ ▸ h⟩
    simp only [CodePoint.isAsciiDigit, Bool.and_eq_true, decide_eq_true_eq, ne_eq, hzero]
    omega
  have hpattern : pattern .phone = all [.maybe (char '+'),
      .one fun c => decide (49 ≤ c.val) && decide (c.val ≤ 57),
      .run CodePoint.isDigit 0 (some 15), .atEnd] := rfl
  simp only [hpattern, reads_all_run, reads_all_one, reads_all_maybe, reads_char, reads_all_atEnd,
    Option.mem_def, Option.some.injEq, forall_eq', hfirst, Nat.zero_le, true_and]
  constructor
  · rintro ⟨sign, _, rfl, hsign, first, _, rfl, ⟨hdigit, hne⟩, later, _, rfl, ⟨hlater, hlength⟩,
      rfl, hrest⟩
    exact ⟨⟨sign, first, later, by simp, hsign, hdigit, hne, hlater, hlength⟩, hrest⟩
  · rintro ⟨⟨sign, first, later, rfl, hsign, hdigit, hne, hlater, hlength⟩, hrest⟩
    exact ⟨sign, _, rfl, hsign, first, later, rfl, ⟨hdigit, hne⟩, later, [],
      (List.append_nil _).symm, ⟨hlater, hlength⟩, rfl, hrest⟩

/-! ## Digits of any script and of one -/

lemma isDigit_of_isAsciiDigit {c : CodePoint} (h : c.isAsciiDigit = true) : c.isDigit = true := by
  have hfirst : (c.val < 48 + 10) = True ∧ (48 ≤ c.val) = True := by
    simp only [CodePoint.isAsciiDigit, Bool.and_eq_true, decide_eq_true_eq] at h
    simp only [eq_iff_iff, iff_true]
    omega
  simp [CodePoint.isDigit, CodePoint.digitValue?, scriptZeros, hfirst]

/-- Below 128 there are no digits of other scripts. -/
lemma isAsciiDigit_of_isDigit {c : CodePoint} (h : c.isDigit = true) (hascii : c.isAscii = true) :
    c.isAsciiDigit = true := by
  have hzeros : ∀ z ∈ scriptZeros, z = 48 ∨ 128 ≤ z := by decide
  obtain ⟨value, hvalue⟩ := Option.isSome_iff_exists.mp h
  obtain ⟨z, hz, -⟩ := Option.map_eq_some_iff.mp hvalue
  have hrange := List.find?_some hz
  have hzero := hzeros z (List.mem_of_find?_eq_some hz)
  simp only [Bool.and_eq_true, decide_eq_true_eq, CodePoint.isAscii] at hrange hascii
  simp only [CodePoint.isAsciiDigit, Bool.and_eq_true, decide_eq_true_eq]
  omega

/-- What the forms hold besides digits of their class. -/
def isSign (c : CodePoint) : Bool :=
  c.isAsciiUpper || c.isAsciiDigit || c ∈ ("-:.+" : Text)

/-- Every code point is a digit of the class or a sign. -/
def Holds (digit : CodePoint → Bool) (t : Text) : Prop :=
  ∀ c ∈ t, digit c = true ∨ isSign c = true

/-- A form that takes nothing of its digits but that they are of the class, and that holds little
besides. -/
structure IsDigitForm (IsForm : (CodePoint → Bool) → Text → Prop) : Prop where
  imp : ∀ {digit digit' : CodePoint → Bool} {t : Text}, IsForm digit t →
    (∀ c ∈ t, digit c = true → digit' c = true) → IsForm digit' t
  holds : ∀ {digit : CodePoint → Bool} {t : Text}, IsForm digit t → Holds digit t

lemma holds_append {u : Text} : Holds digit (t ++ u) ↔ Holds digit t ∧ Holds digit u :=
  List.forall_mem_append

lemma holds_of_signs (h : ∀ c ∈ t, isSign c = true) : Holds digit t := fun c hc => .inr (h c hc)

lemma AreDigits.imp {count : ℕ} (h : AreDigits digit count t)
    (himp : ∀ c ∈ t, digit c = true → digit' c = true) : AreDigits digit' count t :=
  ⟨h.1, fun c hc => himp c hc (h.2 c hc)⟩

lemma AreDigits.holds {count : ℕ} (h : AreDigits digit count t) : Holds digit t :=
  fun c hc => .inl (h.2 c hc)

lemma isDigitForm_clock : IsDigitForm IsClock where
  imp := by
    rintro digit digit' _ ⟨hour, minute, second, fraction, zone, rfl, hhour, hminute, hsecond,
      hfraction, hzone⟩ himp
    simp only [List.forall_mem_append] at himp
    obtain ⟨⟨⟨⟨⟨⟨⟨-, hinHour⟩, -⟩, hinMinute⟩, -⟩, hinSecond⟩, hinFraction⟩, -⟩ := himp
    refine ⟨hour, minute, second, fraction, zone, rfl, hhour.imp hinHour, hminute.imp hinMinute,
      hsecond.imp hinSecond, hfraction.imp_right ?_, hzone⟩
    rintro ⟨digits, rfl, hdigits⟩
    exact ⟨digits, rfl, hdigits.imp (List.forall_mem_append.mp hinFraction).2⟩
  holds := by
    rintro digit _ ⟨hour, minute, second, fraction, zone, rfl, hhour, hminute, hsecond, hfraction,
      hzone⟩
    simp only [holds_append]
    refine ⟨⟨⟨⟨⟨⟨⟨holds_of_signs (by decide), hhour.holds⟩, holds_of_signs (by decide)⟩,
      hminute.holds⟩, holds_of_signs (by decide)⟩, hsecond.holds⟩, ?_⟩, ?_⟩
    · obtain rfl | ⟨digits, rfl, hdigits⟩ := hfraction
      · exact holds_of_signs nofun
      · exact holds_append.mpr ⟨holds_of_signs (by decide), hdigits.holds⟩
    · obtain rfl | rfl := hzone <;> exact holds_of_signs (by decide)

lemma isDigitForm_date : IsDigitForm IsDate where
  imp := by
    rintro digit digit' _ ⟨year, month, day, clock, rfl, hyear, hmonth, hday, hclock⟩ himp
    simp only [List.forall_mem_append] at himp
    obtain ⟨⟨⟨⟨⟨hinYear, -⟩, hinMonth⟩, -⟩, hinDay⟩, hinClock⟩ := himp
    exact ⟨year, month, day, clock, rfl, hyear.imp hinYear, hmonth.imp hinMonth, hday.imp hinDay,
      hclock.imp_right (isDigitForm_clock.imp · hinClock)⟩
  holds := by
    rintro digit _ ⟨year, month, day, clock, rfl, hyear, hmonth, hday, hclock⟩
    simp only [holds_append]
    refine ⟨⟨⟨⟨⟨hyear.holds, holds_of_signs (by decide)⟩, hmonth.holds⟩,
      holds_of_signs (by decide)⟩, hday.holds⟩, ?_⟩
    obtain rfl | hclock := hclock
    · exact holds_of_signs nofun
    · exact isDigitForm_clock.holds hclock

lemma isDigitForm_price : IsDigitForm IsPrice where
  imp := by
    rintro digit digit' _ ⟨whole, cents, rfl, hne, hwhole, hcents⟩ himp
    obtain ⟨hinWhole, hinCents⟩ := List.forall_mem_append.mp himp
    refine ⟨whole, cents, rfl, hne, fun c hc => hinWhole c hc (hwhole c hc), hcents.imp_right ?_⟩
    rintro ⟨digits, rfl, hdigits⟩
    have hinDigits := (List.forall_mem_append.mp hinCents).2
    exact ⟨digits, rfl, hdigits.imp (·.imp hinDigits) (·.imp hinDigits)⟩
  holds := by
    rintro digit _ ⟨whole, cents, rfl, -, hwhole, hcents⟩
    refine holds_append.mpr ⟨fun c hc => .inl (hwhole c hc), ?_⟩
    obtain rfl | ⟨digits, rfl, hdigits⟩ := hcents
    · exact holds_of_signs nofun
    · exact holds_append.mpr
        ⟨holds_of_signs (by decide), hdigits.elim AreDigits.holds AreDigits.holds⟩

lemma isDigitForm_currency : IsDigitForm fun _ => IsCurrency where
  imp h _ := h
  holds h := holds_of_signs fun c hc => by simp [isSign, h.2 c hc]

lemma isDigitForm_phone : IsDigitForm IsPhone where
  imp := by
    rintro digit digit' _ ⟨sign, first, later, rfl, hsign, hfirst, hne, hlater, hlength⟩ himp
    obtain ⟨-, hinNumber⟩ := List.forall_mem_append.mp himp
    obtain ⟨-, hinLater⟩ := List.forall_mem_cons.mp hinNumber
    exact ⟨sign, first, later, rfl, hsign, hfirst, hne, fun c hc => hinLater c hc (hlater c hc),
      hlength⟩
  holds := by
    rintro digit _ ⟨sign, first, later, rfl, hsign, hfirst, -, hlater, -⟩
    refine holds_append.mpr ⟨?_, List.forall_mem_cons.mpr ⟨?_, fun c hc => .inl (hlater c hc)⟩⟩
    · obtain rfl | rfl := hsign <;> exact holds_of_signs (by decide)
    · exact .inr (by simp [isSign, hfirst])

/-! ## What the formats accept -/

/-- The text is the given one, up to a line feed that may follow. -/
def UpToNewline (core t : Text) : Prop := t = core ∨ t = core ++ [Text.newline]

/-- The text ends in no line feed, and its digits are those of ASCII. -/
def IsPlainText (t : Text) : Prop :=
  t.getLast? ≠ some Text.newline ∧ ∀ c ∈ t, c.isDigit = true → c.isAsciiDigit = true

/-- The format accepts the text if it has the form, with digits of any script and with or without a
line feed behind it, and only then.  So the text has the form with the digits of ASCII if it is
accepted and takes neither liberty, and only then. -/
def IsNearlyStrict (f : Format) (IsForm : (CodePoint → Bool) → Text → Prop) (t : Text) : Prop :=
  ((Value.string t).hasFormat f = true ↔
    ∃ core, UpToNewline core t ∧ IsForm CodePoint.isDigit core) ∧
  (IsForm CodePoint.isAsciiDigit t ↔ (Value.string t).hasFormat f = true ∧ IsPlainText t)

variable {f : Format} {IsForm : (CodePoint → Bool) → Text → Prop}

lemma hasFormat_string_iff (hstart : f.fromStart = true)
    (hreads : ∀ head rest, f.pattern.Reads head rest ↔
      IsForm CodePoint.isDigit head ∧ (rest = [] ∨ rest = [Text.newline])) :
    (Value.string t).hasFormat f = true ↔
      ∃ core, UpToNewline core t ∧ IsForm CodePoint.isDigit core := by
  have haccepts : (Value.string t).hasFormat f = f.pattern.fits t := by
    simp [Value.hasFormat, Value.plainText?, accepts, hstart]
  rw [haccepts, fits_iff]
  simp only [hreads]
  constructor
  · rintro ⟨core, rest, rfl, hcore, rfl | rfl⟩
    · exact ⟨core, .inl (List.append_nil core), hcore⟩
    · exact ⟨core, .inr rfl, hcore⟩
  · rintro ⟨core, rfl | rfl, hcore⟩
    · exact ⟨t, [], (List.append_nil t).symm, hcore, .inl rfl⟩
    · exact ⟨core, [Text.newline], rfl, hcore, .inr rfl⟩

/-- What a form with the digits of ASCII holds. -/
lemma isPlainText_of_holds (h : Holds CodePoint.isAsciiDigit t) : IsPlainText t := by
  have hmarks : ∀ c ∈ ("-:.+" : Text), c.isAscii = true := by decide
  have hascii : ∀ c ∈ t, c.isAscii = true ∧ c ≠ Text.newline := by
    intro c hc
    have hsign : isSign c = true := by
      obtain hdigit | hsign := h c hc
      · simp [isSign, hdigit]
      · exact hsign
    constructor
    · simp only [isSign, CodePoint.isAsciiUpper, CodePoint.isAsciiDigit, CodePoint.isAscii,
        Bool.or_eq_true, Bool.and_eq_true, decide_eq_true_eq] at hsign ⊢
      obtain (hupper | hdigit) | hmem := hsign
      · omega
      · omega
      · exact decide_eq_true_eq.mp (hmarks c hmem)
    · rintro rfl
      exact absurd hsign (by decide)
  exact ⟨fun hlast => (hascii _ (List.mem_of_getLast? hlast)).2 rfl,
    fun c hc hdigit => isAsciiDigit_of_isDigit hdigit (hascii c hc).1⟩

lemma isNearlyStrict (hform : IsDigitForm IsForm) (hstart : f.fromStart = true)
    (hreads : ∀ head rest, f.pattern.Reads head rest ↔
      IsForm CodePoint.isDigit head ∧ (rest = [] ∨ rest = [Text.newline])) (t : Text) :
    IsNearlyStrict f IsForm t := by
  have hformat := hasFormat_string_iff (t := t) hstart hreads
  refine ⟨hformat, ?_⟩
  rw [hformat]
  constructor
  · intro h
    exact ⟨⟨t, .inl rfl, hform.imp h fun _ _ => isDigit_of_isAsciiDigit⟩,
      isPlainText_of_holds (hform.holds h)⟩
  · rintro ⟨⟨core, rfl | rfl, hcore⟩, hlast, hdigits⟩
    · exact hform.imp hcore hdigits
    · exact absurd List.getLast?_concat hlast

/-- Dates, prices, currencies and telephone numbers are accepted in their form alone, apart from
digits of other scripts and from a line feed at the end. -/
theorem strict_forms (t : Text) :
    IsNearlyStrict .date IsDate t ∧ IsNearlyStrict .price IsPrice t ∧
      IsNearlyStrict .currency (fun _ => IsCurrency) t ∧ IsNearlyStrict .phone IsPhone t :=
  ⟨isNearlyStrict isDigitForm_date rfl (fun _ _ => reads_date) t,
    isNearlyStrict isDigitForm_price rfl (fun _ _ => reads_price) t,
    isNearlyStrict isDigitForm_currency rfl (fun _ _ => reads_currency) t,
    isNearlyStrict isDigitForm_phone rfl (fun _ _ => reads_phone) t⟩

/-- A date with a line feed behind it is accepted, and so is a price in Devanagari digits. -/
theorem looseForms_accepted :
    ((Value.string "2024-01-15\n").hasFormat .date = true ∧
      ¬ IsDate CodePoint.isAsciiDigit "2024-01-15\n") ∧
    (Value.string [CodePoint.ofNat 0x967]).hasFormat .price = true ∧
      ¬ IsPrice CodePoint.isAsciiDigit [CodePoint.ofNat 0x967] := by
  refine ⟨⟨by decide +kernel, fun h => ?_⟩, by decide +kernel, fun h => ?_⟩
  · exact (isPlainText_of_holds (isDigitForm_date.holds h)).1 rfl
  · have hdigits := (isPlainText_of_holds (isDigitForm_price.holds h)).2
    exact absurd (hdigits (CodePoint.ofNat 0x967) List.mem_cons_self) (by decide)

end Format

end StructuredData
