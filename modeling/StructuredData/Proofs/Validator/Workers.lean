import StructuredData.Proofs.Json.Depth
import StructuredData.Proofs.Page.Aggregation
import StructuredData.Proofs.Validator.Totality
import StructuredData.Service

/-!
# Workers show by depth only

A row of items is validated by any number of workers as by one, however the workers' tasks finish,
but for the depth up to which texts are read: in a pool it is another than where documents are
validated one after another.  The documents are those of validating the items' submissions in turn
up to the one depth or the other, in the order of the items, and so is the failure
(`workers_show_by_depth`).  An item that describes no submission fails the row whatever the other
items hold; only where there is no such item does the first document that cannot be validated fail
it.

So the number of workers makes no difference unless some text nests deeper than the one depth and no
deeper than the other.  Then it does (`deepRow_shows`).
-/

namespace StructuredData

namespace Validator

/-- The documents that a row of items describes, validated one after another. -/
def validateItemsInTurn (v : Validator) (depth : ℕ) (items : List Value) :
    Except Failure (List ValidatedDocument) := do
  let ss ← (Submission.ofItems items).mapError .item
  (v.validateInTurn depth ss).mapError .validation

/-- The depth up to which the texts of a row of items are read by so many workers. -/
def itemsDepth (depths : Depths) (workers : Option ℤ) (items : List Value) : ℕ :=
  if workers.any (1 < ·) && 1 < items.length then depths.pooled else depths.inTurn

/-- The tasks that finish are enough for the pool that validates a row of items.  Where an item
describes no submission there is no pool, and nothing is asked for. -/
def SufficesFor (v : Validator) (depths : Depths) (finish : List ℕ) (items : List Value) : Prop :=
  ∀ ss, Submission.ofItems items = .ok ss →
    Pool.Suffices finish (ss.map (v.validateDocument depths.pooled))

variable {v : Validator} {depth : ℕ} {depths : Depths} {items : List Value} {ss : List Submission}

/-- It is enough that every task finishes, in whatever order. -/
lemma sufficesFor_of_perm (v : Validator) {finish : List ℕ}
    (h : finish.Perm (List.range items.length)) : v.SufficesFor depths finish items := by
  intro ss hss
  have hlength : ss.length = items.length := (Outcome.mapM_eq_ok.mp hss).length_eq.symm
  refine Pool.suffices_of_perm ?_
  rwa [List.length_map, hlength]

lemma validateItemsScheduled_eq_inTurn {finish : List ℕ} (workers : Option ℤ)
    (h : v.SufficesFor depths finish items) :
    v.validateItemsScheduled depths finish workers items =
      v.validateItemsInTurn (itemsDepth depths workers items) items := by
  unfold validateItemsScheduled validateItemsInTurn
  cases hitems : Submission.ofItems items with
  | error fault => rfl
  | ok ss =>
    have hdepth : depthAtWork depths workers ss = itemsDepth depths workers items := by
      unfold depthAtWork usesPool itemsDepth
      rw [(Outcome.mapM_eq_ok.mp hitems).length_eq]
    change (v.validateScheduled depths finish workers ss).mapError _ =
      (v.validateInTurn _ ss).mapError _
    rw [v.validateScheduled_eq_inTurn workers (h ss hitems), hdepth]

/-! ## What a row of items ends with -/

/-- The documents come in the order of the items, each with what is found in it alone. -/
lemma validateItemsInTurn_eq_ok_iff {documents : List ValidatedDocument} :
    v.validateItemsInTurn depth items = .ok documents ↔
      List.Forall₂ (fun item d => Submission.ofItem item = .ok d.submission ∧
        v.validate depth d.submission = .ok d.findings) items documents := by
  have hstep (item : Value) (d : ValidatedDocument) :
      (∃ s, Submission.ofItem item = .ok s ∧ v.validateDocument depth s = .ok d) ↔
        Submission.ofItem item = .ok d.submission ∧
          v.validate depth d.submission = .ok d.findings := by
    simp only [validateDocument_eq_ok_iff]
    constructor
    · rintro ⟨s, hitem, rfl, hfs⟩
      exact ⟨hitem, hfs⟩
    · rintro ⟨hitem, hfs⟩
      exact ⟨_, hitem, rfl, hfs⟩
  unfold validateItemsInTurn Submission.ofItems validateInTurn
  simp only [Outcome.bind_eq_ok, Outcome.mapError_eq_ok, Outcome.mapM_eq_ok,
    Outcome.exists_forall₂_forall₂_iff, hstep]

/-- The failures of a row of items are those of its items and those of its documents, and the
latter come only where there are none of the former. -/
lemma validateItemsInTurn_eq_error_iff {f : Failure} :
    v.validateItemsInTurn depth items = .error f ↔
      (∃ fault, Submission.ofItems items = .error fault ∧ f = .item fault) ∨
      ∃ ss fault, Submission.ofItems items = .ok ss ∧ v.validateInTurn depth ss = .error fault ∧
        f = .validation fault := by
  unfold validateItemsInTurn
  simp only [Outcome.bind_eq_error, Outcome.mapError_eq_error, Outcome.mapError_eq_ok,
    exists_and_left, eq_comm (a := f)]

/-- Documents in turn fail with the first that cannot be validated. -/
lemma validateInTurn_eq_error_iff {fault : ValidationFault} :
    v.validateInTurn depth ss = .error fault ↔
      ∃ done s rest, ss = done ++ s :: rest ∧ (∀ a ∈ done, ∃ fs, v.validate depth a = .ok fs) ∧
        v.validate depth s = .error fault := by
  have hok (s : Submission) : (∃ d, v.validateDocument depth s = .ok d) ↔
      ∃ fs, v.validate depth s = .ok fs := by
    simp only [validateDocument, Outcome.bind_pure_eq_ok]
    exact ⟨fun ⟨_, fs, hfs, _⟩ => ⟨fs, hfs⟩, fun ⟨fs, hfs⟩ => ⟨_, fs, hfs, rfl⟩⟩
  unfold validateInTurn
  simp only [Outcome.mapM_eq_error, validateDocument_eq_error_iff, hok]

/-! ## Two depths -/

/-- Documents whose texts nest deep enough for both depths or for neither are validated alike. -/
lemma validateInTurn_congr {depth' : ℕ} (h : ∀ s ∈ ss, s.nesting ≤ depth ↔ s.nesting ≤ depth') :
    v.validateInTurn depth ss = v.validateInTurn depth' ss := by
  have hdocuments : ss.map (v.validateDocument depth) = ss.map (v.validateDocument depth') := by
    refine List.map_congr_left fun s hs => ?_
    unfold validateDocument
    rw [validate_congr (Submission.parsed?_congr (h s hs))]
  have hcollected := congrArg (List.mapM id) hdocuments
  rwa [List.mapM_map, List.mapM_map] at hcollected

lemma validateItemsInTurn_congr {depth' : ℕ} (h : ∀ ss, Submission.ofItems items = .ok ss →
      ∀ s ∈ ss, s.nesting ≤ depth ↔ s.nesting ≤ depth') :
    v.validateItemsInTurn depth items = v.validateItemsInTurn depth' items := by
  unfold validateItemsInTurn
  cases hitems : Submission.ofItems items with
  | error fault => rfl
  | ok ss =>
    change (v.validateInTurn depth ss).mapError _ = (v.validateInTurn depth' ss).mapError _
    rw [validateInTurn_congr (h ss hitems)]

/-- In whatever order the tasks of the workers finish, a row of items ends as if its documents were
read up to a depth that goes by the number of workers and validated one after another.  There are
documents, one for each item in the order of the items and with what is found in it alone; or some
item describes no submission, and the first such fails the row, whatever would be found in the
documents; or else the first document that cannot be validated does.  If each text nests deep enough
for both depths or for neither, then the number of workers makes no difference at all. -/
theorem workers_show_by_depth (v : Validator) (depths : Depths) (items : List Value) :
    (∀ (workers : Option ℤ) (finish : List ℕ), v.SufficesFor depths finish items →
      v.validateItemsScheduled depths finish workers items =
        v.validateItemsInTurn (itemsDepth depths workers items) items) ∧
    (∀ finish : List ℕ, finish.Perm (List.range items.length) →
      v.SufficesFor depths finish items) ∧
    (∀ depth documents, v.validateItemsInTurn depth items = .ok documents ↔
      List.Forall₂ (fun item d => Submission.ofItem item = .ok d.submission ∧
        v.validate depth d.submission = .ok d.findings) items documents) ∧
    (∀ depth fault, v.validateItemsInTurn depth items = .error (.item fault) ↔
      ∃ done item rest, items = done ++ item :: rest ∧
        (∀ a ∈ done, ∃ s, Submission.ofItem a = .ok s) ∧ Submission.ofItem item = .error fault) ∧
    (∀ depth fault, v.validateItemsInTurn depth items = .error (.validation fault) ↔
      ∃ ss done s rest, Submission.ofItems items = .ok ss ∧ ss = done ++ s :: rest ∧
        (∀ a ∈ done, ∃ fs, v.validate depth a = .ok fs) ∧ v.validate depth s = .error fault) ∧
    (∀ depth f, v.validateItemsInTurn depth items = .error f →
      (∃ fault, f = .item fault) ∨ ∃ fault, f = .validation fault) ∧
    ((∀ ss, Submission.ofItems items = .ok ss →
        ∀ s ∈ ss, s.nesting ≤ depths.pooled ↔ s.nesting ≤ depths.inTurn) →
      ∀ workers, v.validateItemsInTurn (itemsDepth depths workers items) items =
        v.validateItemsInTurn depths.inTurn items) := by
  refine ⟨fun workers finish => validateItemsScheduled_eq_inTurn workers,
    fun finish => v.sufficesFor_of_perm, fun depth documents => validateItemsInTurn_eq_ok_iff,
    fun depth fault => ?_, fun depth fault => ?_, fun depth f hf => ?_, fun hnesting workers => ?_⟩
  · rw [validateItemsInTurn_eq_error_iff]
    simp [Submission.ofItems, Outcome.mapM_eq_error]
  · rw [validateItemsInTurn_eq_error_iff]
    simp [validateInTurn_eq_error_iff]
  · obtain ⟨fault, -, rfl⟩ | ⟨ss, fault, -, -, rfl⟩ := validateItemsInTurn_eq_error_iff.mp hf
    · exact .inl ⟨fault, rfl⟩
    · exact .inr ⟨fault, rfl⟩
  · unfold itemsDepth
    split_ifs
    · exact validateItemsInTurn_congr hnesting
    · rfl

/-- A row whose second document cannot be validated. -/
def overlongRow : List Value :=
  [.array [.string "Person", .string "\x7b\x7d"],
    .array [.string "Product", .string overlongRating],
    .object [("type", .string "Event"), ("schema", .string "\x7b\x7d")]]

theorem overlongRow_fails_in_turn :
    (Validator.mk RequirementTable.packaged {}).SufficesFor .hundredDown [1, 0] overlongRow ∧
    (Validator.mk RequirementTable.packaged {}).validateItemsScheduled .hundredDown [1, 0] (some 2)
      overlongRow = .error (.validation .ratingTooLarge) ∧
    (Validator.mk RequirementTable.packaged {}).validateItemsScheduled .hundredDown [] (some 2)
      (overlongRow ++ [.null]) = .error (.item (.notIterable "NoneType")) := by
  have hfirst : ((Validator.mk RequirementTable.packaged {}).validate Depths.hundredDown.pooled
      (.ofTexts "Person" "\x7b\x7d")).toOption.isSome = true := by
    decide +kernel
  have hsecond : (Validator.mk RequirementTable.packaged {}).validate Depths.hundredDown.pooled
      (.ofTexts "Product" overlongRating) = .error .ratingTooLarge := by
    decide +kernel
  have hitems : Submission.ofItems overlongRow = .ok [.ofTexts "Person" "\x7b\x7d",
      .ofTexts "Product" overlongRating, .ofTexts "Event" "\x7b\x7d"] := rfl
  obtain ⟨fs, hfs⟩ := Outcome.exists_eq_ok_of_isSome hfirst
  -- the third task is called off: the second one fails
  have hfinish : (Validator.mk RequirementTable.packaged {}).SufficesFor .hundredDown [1, 0]
      overlongRow := by
    intro ss hss i hi hbefore
    rw [hitems] at hss
    cases hss
    match i with
    | 0 | 1 => simp
    | 2 =>
      obtain ⟨d, hd⟩ := hbefore _ (List.mem_cons_of_mem _ List.mem_cons_self)
      rw [validateDocument_eq_error_iff.mpr hsecond] at hd
      cases hd
    | i + 3 =>
      simp only [List.length_map, List.length_cons, List.length_nil] at hi
      omega
  obtain ⟨hturn, -, -, -, hvalidation, -⟩ :=
    workers_show_by_depth (Validator.mk RequirementTable.packaged {}) .hundredDown overlongRow
  obtain ⟨hturn', -, -, hitem, -⟩ := workers_show_by_depth
    (Validator.mk RequirementTable.packaged {}) .hundredDown (overlongRow ++ [.null])
  refine ⟨hfinish, ?_, ?_⟩
  · rw [hturn (some 2) [1, 0] hfinish, hvalidation]
    refine ⟨_, [_], _, [_], hitems, rfl, ?_, hsecond⟩
    simpa using ⟨fs, hfs⟩
  · rw [hturn' (some 2) [] (fun ss hss => nomatch hss), hitem]
    refine ⟨overlongRow, .null, [], rfl, ?_, rfl⟩
    exact Outcome.mapM_isOk_iff.mp ⟨_, hitems⟩

/-- A row of two persons, the first of whom is nine hundred lists. -/
def deepRow : List Value :=
  [.array [.string "Person", .string (Text.nestedLists 900)],
    .array [.string "Person", .string "\x7b\x7d"]]

/-- A hundred calls down, one worker finds a text that cannot be read where two find a list. -/
theorem deepRow_shows :
    (Validator.mk RequirementTable.packaged {}).validateItems .hundredDown (some 1) deepRow ≠
      (Validator.mk RequirementTable.packaged {}).validateItems .hundredDown (some 2) deepRow := by
  have hcounts : ((Validator.mk RequirementTable.packaged {}).validateItems .hundredDown (some 1)
        deepRow).toOption.map (fun ds => ds.map fun d => d.findings.errors.length) ≠
      ((Validator.mk RequirementTable.packaged {}).validateItems .hundredDown (some 2)
        deepRow).toOption.map (fun ds => ds.map fun d => d.findings.errors.length) := by
    decide +kernel
  intro hsame
  rw [hsame] at hcounts
  exact hcounts rfl

end Validator

end StructuredData
