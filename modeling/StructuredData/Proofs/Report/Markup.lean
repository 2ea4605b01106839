import StructuredData.Proofs.Number.Decimal
import StructuredData.Proofs.Text.Occurrences
import StructuredData.Report.Rendering

/-!
# The markup of HTML reports

A report page is put together from fixed pieces and from inserted texts.  Each piece is described by
the tags of sections and list items that begin in it and by its marks, the signs that delimit tags
and attribute values (`Carries`).  Descriptions add up when pieces are put together
(`Carries.append`), and every inserted text has the empty one, because it is escaped
(`carries_escape`).  So the description of the whole page follows from the shape of the report
(`ReportShape`) alone, whatever its texts say.
-/

namespace StructuredData

/-! ## Shapes -/

/-- A text that is given and not empty. -/
def isShown (t : Option Text) : Bool := t.any fun t => !t.isEmpty

/-- What shows of a finding in the markup of a page: whether it has a place and whether it has a
suggestion.  Its severity only names the class of its item. -/
structure FindingShape where
  located : Bool
  advised : Bool
deriving DecidableEq

/-- The shape of a finding. -/
def Finding.shape (f : Finding) : FindingShape := ⟨isShown f.path, isShown f.suggestion⟩

/-- What shows of a report in the markup of a page. -/
structure ReportShape where
  documents : List (List FindingShape)
  pageFindings : List FindingShape
  recommendations : Nat
deriving DecidableEq

/-- The shape of a page report. -/
def PageReport.shape (r : PageReport) : ReportShape where
  documents := r.documents.map fun d => d.findings.toList.map Finding.shape
  pageFindings := r.pageFindings.map Finding.shape
  recommendations := r.recommendations.length

/-- The marks of a list item for a finding. -/
def FindingShape.marks (withPath : Bool) (s : FindingShape) : Text :=
  "<\"\"><><>" ++ (if withPath && s.located then ("<><>" : Text) else []) ++
    (if s.advised then ("<\"\"><>" : Text) else []) ++ "<>"

/-- The marks of the section of a document. -/
def sectionMarks (findings : List FindingShape) : Text :=
  "<\"\"><><\"\"><><><><>" ++
    (if findings.isEmpty then ([] : Text)
      else "<>" ++ findings.flatMap (FindingShape.marks true) ++ "<>") ++ "<>"

/-- The marks of a heading with a list below it. -/
def listingMarks (items : List Text) : Text :=
  if items.isEmpty then [] else "<><><>" ++ items.flatten ++ "<>"

/-- The marks of a page for a report of the given shape. -/
def ReportShape.marks (s : ReportShape) : Text :=
  "<><\"\"><><\"\"><><><>\"\"<><><><><><\"\"><>" ++ s.documents.flatMap sectionMarks ++
    listingMarks (s.pageFindings.map (FindingShape.marks false)) ++
    listingMarks (List.replicate s.recommendations "<><>") ++ "<><>"

/-! ## Markup -/

namespace Html

open Text

/-- The signs that delimit tags and attribute values. -/
def isMark (c : CodePoint) : Bool := c = '<' || c = '>' || c = '"'

/-- The marks of a text, in order. -/
def marks (t : Text) : Text := t.filter isMark

/-- A piece of a page in which so many sections and list items begin, and with these marks.  No tag
of a section or an item runs from the piece into what follows. -/
structure Carries (t : Text) (sections items : Nat) (signs : Text) : Prop where
  closed_sections : isClosedFor "<section" t = true
  closed_items : isClosedFor "<li" t = true
  sections_eq : occurrences "<section" t = sections
  items_eq : occurrences "<li" t = items
  marks_eq : marks t = signs

instance (t : Text) (s i : Nat) (m : Text) : Decidable (Carries t s i m) :=
  decidable_of_iff
    (isClosedFor "<section" t = true ∧ isClosedFor "<li" t = true ∧
      occurrences "<section" t = s ∧ occurrences "<li" t = i ∧ marks t = m)
    ⟨fun ⟨h₁, h₂, h₃, h₄, h₅⟩ => ⟨h₁, h₂, h₃, h₄, h₅⟩,
      fun ⟨h₁, h₂, h₃, h₄, h₅⟩ => ⟨h₁, h₂, h₃, h₄, h₅⟩⟩

variable {t u m n : Text} {s i s' i' : Nat}

/-! ## Pieces without tags -/

lemma carries_of_not_mem_marks (h : ('<' : CodePoint) ∉ marks t) : Carries t 0 0 (marks t) := by
  have hopen : ('<' : CodePoint) ∉ t := fun hmem => h (List.mem_filter.mpr ⟨hmem, rfl⟩)
  exact ⟨isClosedFor_of_not_mem hopen, isClosedFor_of_not_mem hopen, occurrences_of_not_mem hopen,
    occurrences_of_not_mem hopen, rfl⟩

lemma carries_of_unmarked (h : ∀ c ∈ t, isMark c = false) : Carries t 0 0 [] := by
  have hnone : marks t = [] := List.filter_eq_nil_iff.mpr fun c hc => by simp [h c hc]
  have hplain := carries_of_not_mem_marks (t := t)
  rw [hnone] at hplain
  exact hplain List.not_mem_nil

lemma carries_nil : Carries [] 0 0 [] := carries_of_unmarked fun _ hc => absurd hc List.not_mem_nil

lemma isMark_eq_false_of_mem_escapePoint {c d : CodePoint} (h : d ∈ escapePoint c) :
    isMark d = false := by
  have hamp : ∀ d ∈ ("&amp;" : Text), isMark d = false := by decide
  have hlt : ∀ d ∈ ("&lt;" : Text), isMark d = false := by decide
  have hgt : ∀ d ∈ ("&gt;" : Text), isMark d = false := by decide
  have hapos : ∀ d ∈ ("&#39;" : Text), isMark d = false := by decide
  have hquot : ∀ d ∈ ("&#34;" : Text), isMark d = false := by decide
  unfold escapePoint at h
  split_ifs at h with _ hlt' hgt' _ hquot'
  · exact hamp d h
  · exact hlt d h
  · exact hgt d h
  · exact hapos d h
  · exact hquot d h
  · rw [List.mem_singleton.mp h]
    simp [isMark, hlt', hgt', hquot']

/-- An inserted text has no marks, and no tag begins in it. -/
theorem carries_escape (t : Text) : Carries (escape t) 0 0 [] := by
  refine carries_of_unmarked fun d hd => ?_
  obtain ⟨c, -, hc⟩ := List.mem_flatMap.mp hd
  exact isMark_eq_false_of_mem_escapePoint hc

lemma carries_blanks (n : Nat) : Carries (blanks n) 0 0 [] :=
  carries_of_unmarked fun _ hc => List.eq_of_mem_replicate hc ▸ rfl

lemma isMark_eq_false_of_isAsciiDigit {c : CodePoint} (h : c.isAsciiDigit = true) :
    isMark c = false := by
  rw [isMark, Bool.or_eq_false_iff, Bool.or_eq_false_iff]
  refine ⟨⟨?_, ?_⟩, ?_⟩ <;>
  · rw [decide_eq_false_iff_not]
    rintro rfl
    exact absurd h (by decide)

lemma carries_ofNat (n : Nat) : Carries (Text.ofNat n) 0 0 [] :=
  carries_of_unmarked fun _ hc => isMark_eq_false_of_isAsciiDigit (isAsciiDigit_of_mem_ofNat hc)

/-! ## Pieces put together -/

theorem Carries.append (ht : Carries t s i m) (hu : Carries u s' i' n) :
    Carries (t ++ u) (s + s') (i + i') (m ++ n) where
  closed_sections := isClosedFor_append ht.closed_sections hu.closed_sections
  closed_items := isClosedFor_append ht.closed_items hu.closed_items
  sections_eq := by rw [occurrences_append ht.closed_sections, ht.sections_eq, hu.sections_eq]
  items_eq := by rw [occurrences_append ht.closed_items, ht.items_eq, hu.items_eq]
  marks_eq := by rw [marks, List.filter_append, ← marks, ← marks, ht.marks_eq, hu.marks_eq]

theorem Carries.flatMap {α : Type} {piece : α → Text} {items : α → Nat} {signs : α → Text}
    (h : ∀ a, Carries (piece a) s (items a) (signs a)) (as : List α) :
    Carries (as.flatMap piece) (as.length * s) (as.map items).sum (as.flatMap signs) := by
  induction as with
  | nil =>
    rw [List.length_nil, Nat.zero_mul]
    exact carries_nil
  | cons a rest ih =>
    rw [List.length_cons, Nat.succ_mul, Nat.add_comm]
    exact (h a).append ih

lemma Carries.flatMap_items {α : Type} {piece : α → Text} {signs : α → Text}
    (h : ∀ a, Carries (piece a) 0 1 (signs a)) (as : List α) :
    Carries (as.flatMap piece) 0 as.length (as.flatMap signs) := by
  have hrow := Carries.flatMap h as
  rwa [Nat.mul_zero, List.map_const', List.sum_replicate_nat, Nat.mul_one] at hrow

lemma carries_ofInt (n : Int) : Carries (Text.ofInt n) 0 0 [] := by
  cases n with
  | ofNat n => exact carries_ofNat n
  | negSucc n =>
    have hsign : Carries "-" 0 0 [] := by decide
    exact hsign.append (carries_ofNat (n + 1))

/-! ## Pieces of a page -/

lemma ofString_append (a b : String) : ofString (a ++ b) = ofString a ++ ofString b := by
  simp [ofString]

lemma ofString_rule (selector declarations : String) :
    ofString (rule selector declarations) =
      "    " ++ ofString selector ++ " \x7b " ++ ofString declarations ++ " \x7d\n" := by
  simp [rule, ofString_append]

lemma carries_style : Carries style 0 0 "\"\"" := by
  have hmarks : marks style = "\"\"" := by
    unfold style
    simp only [ofString_append, ofString_rule, -String.reduceAppend]
    decide +kernel
  have hopen : ('<' : CodePoint) ∉ marks style := by
    rw [hmarks]
    decide
  exact hmarks ▸ carries_of_not_mem_marks hopen

lemma carries_head (title : Text) :
    Carries (head title) 0 0 "<><\"\"><><\"\"><><><>\"\"<><><>" := by
  have hopening : Carries
      "<!DOCTYPE html>\n<html lang=\"en\">\n<head>\n  <meta charset=\"UTF-8\">\n  <title>" 0 0
      "<><\"\"><><\"\"><>" := by decide
  have hstyle : Carries "</title>\n  <style>\n" 0 0 "<><>" := by decide
  have hclosing : Carries "  </style>\n</head>\n<body>\n" 0 0 "<><><>" := by decide
  exact hopening |>.append (carries_escape title) |>.append hstyle |>.append carries_style
    |>.append hclosing

lemma carries_overview (r : PageReport) (title : Text) (now : Moment) :
    Carries (overview r title now) 0 0 "<><><\"\"><>" := by
  have hline (count : Nat) {noun : Text} (h : Carries noun 0 0 []) :
      Carries ("    " ++ Text.ofNat count ++ noun) 0 0 [] :=
    carries_blanks 4 |>.append (carries_ofNat count) |>.append h
  have hheading : Carries "  <h1>" 0 0 "<>" := by decide
  have hmeta : Carries "</h1>\n  <p class=\"meta\">\n    Generated " 0 0 "<><\"\">" := by decide
  have hdot : Carries " &middot;\n" 0 0 [] := by decide
  have hclosing : Carries "  </p>\n\n" 0 0 "<>" := by decide
  have hschemas : Carries " schemas &middot;\n" 0 0 [] := by decide
  have herrors : Carries " errors &middot;\n" 0 0 [] := by decide
  have hwarnings : Carries " warnings &middot;\n" 0 0 [] := by decide
  have hnotes : Carries " suggestions\n" 0 0 [] := by decide
  exact hheading |>.append (carries_escape title) |>.append hmeta
    |>.append (carries_escape now.shown) |>.append hdot |>.append (hline _ hschemas)
    |>.append (hline _ herrors) |>.append (hline _ hwarnings) |>.append (hline _ hnotes)
    |>.append hclosing

lemma carries_around {opening closing : Text} (ho : Carries opening 0 0 m)
    (hc : Carries closing 0 0 n) (t : Option Text) :
    Carries (around opening closing t) 0 0 (if isShown t then m ++ n else []) := by
  cases t with
  | none => exact carries_nil
  | some t =>
    unfold around
    by_cases hempty : t.isEmpty = true
    · simpa [isShown, hempty] using carries_nil
    · simpa [isShown, hempty] using (ho.append (carries_escape t)).append hc

theorem carries_findingItem (indent : Nat) (withPath : Bool) (f : Finding) :
    Carries (findingItem indent withPath f) 0 1 (f.shape.marks withPath) := by
  have hitem : Carries "<li class=\"" 0 1 "<\"" := by decide
  have hclass : Carries "\">\n" 0 0 "\">" := by decide
  have hstrong : Carries "<strong>" 0 0 "<>" := by decide
  have hmessage : Carries "</strong> " 0 0 "<>" := by decide
  have hbreak : Carries "\n" 0 0 [] := by decide
  have hpath : Carries (if withPath then around "<code>" "</code>" f.path else []) 0 0
      (if withPath && f.shape.located then ("<><>" : Text) else []) := by
    cases withPath with
    | false => exact carries_nil
    | true =>
      have hopening : Carries "<code>" 0 0 "<>" := by decide
      have hclosing : Carries "</code>" 0 0 "<>" := by decide
      exact carries_around hopening hclosing f.path
  have hsuggestion : Carries (around "<div class=\"suggestion\">" "</div>" f.suggestion) 0 0
      (if f.shape.advised then ("<\"\"><>" : Text) else []) := by
    have hopening : Carries "<div class=\"suggestion\">" 0 0 "<\"\">" := by decide
    have hclosing : Carries "</div>" 0 0 "<>" := by decide
    exact carries_around hopening hclosing f.suggestion
  have hclosing : Carries "</li>\n" 0 0 "<>" := by decide
  have h := carries_blanks indent |>.append hitem |>.append (carries_escape f.severity.name)
    |>.append hclass |>.append (carries_blanks (indent + 2)) |>.append hstrong
    |>.append (carries_escape f.severity.heading) |>.append hmessage
    |>.append (carries_escape f.message) |>.append hbreak |>.append hpath |>.append hsuggestion
    |>.append (carries_blanks indent) |>.append hclosing
  rwa [List.append_nil, List.append_nil, List.append_nil] at h

lemma carries_findingItems (indent : Nat) (withPath : Bool) (fs : List Finding) :
    Carries (fs.flatMap (findingItem indent withPath)) 0 fs.length
      ((fs.map Finding.shape).flatMap (FindingShape.marks withPath)) := by
  rw [List.flatMap_map]
  exact Carries.flatMap_items (carries_findingItem indent withPath) fs

theorem carries_documentSection (d : ValidatedDocument) :
    Carries (documentSection d) 1 d.findings.toList.length
      (sectionMarks (d.findings.toList.map Finding.shape)) := by
  have hopening : Carries "  <section class=\"doc\">\n    <h2>" 1 0 "<\"\"><>" := by decide
  have hblank : Carries " " 0 0 [] := by decide
  have hscore : Carries "\n      <span class=\"score " 0 0 "<\"" := by decide
  have hband : Carries "\">" 0 0 "\">" := by decide
  have hsummary : Carries "/100</span>\n    </h2>\n    <p>" 0 0 "<><><>" := by decide
  have hparagraph : Carries "</p>\n" 0 0 "<>" := by decide
  have hlist : Carries
      (if d.findings.toList.isEmpty then ([] : Text)
        else "    <ul>\n" ++ d.findings.toList.flatMap (findingItem 6 true) ++ "    </ul>\n")
      0 d.findings.toList.length
      (if (d.findings.toList.map Finding.shape).isEmpty then ([] : Text)
        else "<>" ++ (d.findings.toList.map Finding.shape).flatMap (FindingShape.marks true) ++
          "<>") := by
    rcases hnone : d.findings.toList with _ | ⟨f, rest⟩
    · exact carries_nil
    · have hul : Carries "    <ul>\n" 0 0 "<>" := by decide
      have hend : Carries "    </ul>\n" 0 0 "<>" := by decide
      have h := hul |>.append (carries_findingItems 6 true (f :: rest)) |>.append hend
      simp only [Nat.zero_add, Nat.add_zero] at h
      exact h
  have hclosing : Carries "  </section>\n" 0 0 "<>" := by decide
  have h := hopening |>.append (carries_escape d.findings.status.icon) |>.append hblank
    |>.append (carries_escape d.submission.label.spelled) |>.append hscore
    |>.append (carries_escape d.findings.band.name) |>.append hband
    |>.append (carries_ofInt d.findings.score) |>.append hsummary
    |>.append (carries_escape d.findings.summary) |>.append hparagraph |>.append hlist
    |>.append hclosing
  simp only [List.append_nil, Nat.add_zero, Nat.zero_add] at h
  exact h

theorem carries_listing {α : Type} {heading : Text} {item : α → Text} {signs : α → Text}
    (hheading : Carries heading 0 0 []) (hitem : ∀ a, Carries (item a) 0 1 (signs a))
    (as : List α) :
    Carries (listing heading (as.map item)) 0 as.length (listingMarks (as.map signs)) := by
  rcases as with _ | ⟨a, rest⟩
  · exact carries_nil
  · have hopening : Carries "  <h2>" 0 0 "<>" := by decide
    have hul : Carries "</h2>\n  <ul>\n" 0 0 "<><>" := by decide
    have hend : Carries "  </ul>\n" 0 0 "<>" := by decide
    have h := hopening |>.append hheading |>.append hul
      |>.append (Carries.flatMap_items hitem (a :: rest)) |>.append hend
    simp only [List.flatMap_def, List.append_nil, Nat.zero_add, Nat.add_zero] at h
    exact h

lemma carries_recommendationItem (advice : Text) :
    Carries (recommendationItem advice) 0 1 "<><>" := by
  have hopening : Carries "    <li>" 0 1 "<>" := by decide
  have hclosing : Carries "</li>\n" 0 0 "<>" := by decide
  exact hopening |>.append (carries_escape advice) |>.append hclosing

/-! ## The page -/

theorem carries_html (r : PageReport) (title : Text) (now : Moment) :
    Carries (r.html title now) r.documents.length
      ((r.documents.map fun d => d.findings.toList.length).sum + r.pageFindings.length +
        r.recommendations.length)
      r.shape.marks := by
  have hsections : Carries (r.documents.flatMap documentSection) r.documents.length
      (r.documents.map fun d => d.findings.toList.length).sum
      (r.shape.documents.flatMap sectionMarks) := by
    have h := Carries.flatMap carries_documentSection r.documents
    rw [Nat.mul_one] at h
    rwa [PageReport.shape, List.flatMap_map]
  have hbreak : Carries "\n" 0 0 [] := by decide
  have hpage : Carries
      (listing "Page-level findings" (r.pageFindings.map (findingItem 4 false))) 0
      r.pageFindings.length
      (listingMarks (r.shape.pageFindings.map (FindingShape.marks false))) := by
    rw [PageReport.shape, List.map_map]
    exact carries_listing (by decide) (carries_findingItem 4 false) r.pageFindings
  have hadvice : Carries (listing "Recommendations" (r.recommendations.map recommendationItem)) 0
      r.recommendations.length
      (listingMarks (List.replicate r.shape.recommendations "<><>")) := by
    rw [PageReport.shape, ← List.map_const']
    exact carries_listing (by decide) carries_recommendationItem r.recommendations
  have hclosing : Carries "</body>\n</html>" 0 0 "<><>" := by decide
  have h := carries_head title |>.append (carries_overview r title now) |>.append hsections
    |>.append hbreak |>.append hpage |>.append hbreak |>.append hadvice |>.append hclosing
  simp only [List.append_nil, Nat.add_zero, Nat.zero_add] at h
  exact h

end Html

/-- No text of a report can change the structure of its page: there is one section for each
document, one list item for each finding and each recommendation, and the marks in between are those
of the shape of the report. -/
theorem PageReport.html_structure (r : PageReport) (title : Text) (now : Moment) :
    ∃ page, r.renderNamed "html" title now = .ok page ∧
      Text.occurrences "<section" page = r.documents.length ∧
      Text.occurrences "<li" page =
        (r.documents.map fun d => d.findings.toList.length).sum + r.pageFindings.length +
          r.recommendations.length ∧
      Html.marks page = r.shape.marks :=
  have h := Html.carries_html r title now
  ⟨r.html title now, rfl, h.sections_eq, h.items_eq, h.marks_eq⟩

end StructuredData
