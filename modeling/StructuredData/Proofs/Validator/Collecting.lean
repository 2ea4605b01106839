import StructuredData.Proofs.Validator.Remarks

/-!
# Groups of checks at work on one collector

A document goes through five groups of checks, which share one collector.  A group that is given a
collector leaves what is there and adds to it what it would have put into an empty one.  So the
groups cannot get in each other's way, and validation puts down what each of them alone has to say,
one after another (`groups_only_add`).
-/

namespace StructuredData

namespace Validator

open Checking

variable {v : Validator} {d : Document} {label : Value} {depth : ℕ} {s : Submission} {fs : Findings}

/-- The groups of checks that a document goes through, in their order.  The checks of one type go by
the document's own type where it names one. -/
def groups (v : Validator) (d : Document) (label : Value) : List (Checking Unit) :=
  [Checking.keywords d, Checking.requirements v.table d label,
    Checking.typeSpecific v.thresholds d (d.resolvedLabel label),
    Checking.datatypes v.thresholds d, Checking.content v.thresholds d label]

lemma check_eq_forM (v : Validator) (d : Document) (label : Value) :
    v.check d label = (v.groups d label).forM id := by
  simp only [check, groups, List.forM_eq_forM, List.forM_cons, List.forM_nil, id_eq,
    bind_pure_unit]

lemma onlyAdds_of_mem_groups (v : Validator) (d : Document) (label : Value) :
    ∀ g ∈ v.groups d label, g.OnlyAdds := by
  simp only [groups, List.forall_mem_cons]
  refine ⟨?keywords, ?requirements, ?typeSpecific, ?datatypes, ?content, List.forall_mem_nil _⟩
  case keywords => exact (Check.records_keywords d).onlyAdds
  case requirements => exact (Check.makes_requirements v.table d label).onlyAdds
  case typeSpecific => exact (Check.records_typeSpecific v.thresholds d _).onlyAdds
  case datatypes => exact (Check.makes_datatypes v.thresholds d).onlyAdds
  case content => exact (Check.records_content v.thresholds d label).onlyAdds

lemma validate_eq_ok_iff_on (h : s.document? depth = some d) :
    v.validate depth s = .ok fs ↔ (v.check d s.label).on .empty = (.ok (), fs) := by
  unfold validate checkSubmission
  rw [h]
  dsimp only
  rcases (v.check d s.label).on .empty with ⟨_ | _, _⟩ <;> simp

/-- Each group of checks only adds to the collector, whatever is in it.  So do several groups one
after another, in whatever order: they come to their end if each of them does alone, and leave
behind what was there what each of them leaves alone.  A document gets a result if each of the five
groups alone comes to its end, and each list of the result is what the five alone find, in this
order. -/
theorem groups_only_add (v : Validator) (d : Document) (label : Value) :
    (∀ g ∈ v.groups d label, g.OnlyAdds) ∧
    (∀ gs ⊆ v.groups d label, ∀ fs fs', (gs.forM id).on fs = (.ok (), fs') ↔
      (∀ g ∈ gs, g.ending = .ok ()) ∧ fs' = gs.foldl (fun fs g => fs ++ g.alone) fs) ∧
    ∀ (depth : ℕ) (s : Submission), s.document? depth = some d → s.label = label → ∀ fs,
      v.validate depth s = .ok fs ↔
        (∀ g ∈ v.groups d label, g.ending = .ok ()) ∧
          fs = (Checking.keywords d).alone ++ (Checking.requirements v.table d label).alone ++
            (Checking.typeSpecific v.thresholds d (d.resolvedLabel label)).alone ++
            (Checking.datatypes v.thresholds d).alone ++
            (Checking.content v.thresholds d label).alone := by
  have hadds := onlyAdds_of_mem_groups v d label
  refine ⟨hadds, fun gs hgs fs fs' => on_forM_eq_ok_iff fun g hg => hadds g (hgs hg), ?_⟩
  rintro depth s hdocument rfl fs
  rw [validate_eq_ok_iff_on hdocument, check_eq_forM, on_forM_eq_ok_iff hadds]
  rfl

/-- An article that says little, handed in as a product. -/
def leaflet : Text :=
  "\x7b\"@type\": \"Article\", \"headline\": \"\", \"description\": \"Sale\"\x7d"

theorem leaflet_groups :
    ∃ (d : Document) (fs : Findings),
      (Submission.ofTexts "Product" leaflet).document? 985 = some d ∧
      (Validator.mk RequirementTable.packaged {}).validate 985 (.ofTexts "Product" leaflet) =
        .ok fs ∧
      fs.warnings = (Checking.keywords d).alone.warnings ++
        (Checking.requirements RequirementTable.packaged d (.string "Product")).alone.warnings ++
        (Checking.typeSpecific {} d (d.resolvedLabel (.string "Product"))).alone.warnings ++
        (Checking.datatypes {} d).alone.warnings ++
        (Checking.content {} d (.string "Product")).alone.warnings ∧
      fs.warnings.length = 10 := by
  have hread : ((Submission.ofTexts "Product" leaflet).document? 985).isSome = true := by
    decide +kernel
  have hcount : ((Validator.mk RequirementTable.packaged {}).validate 985
      (.ofTexts "Product" leaflet)).toOption.map (fun fs => fs.warnings.length) = some 10 := by
    decide +kernel
  obtain ⟨d, hd⟩ := Option.isSome_iff_exists.mp hread
  obtain ⟨fs, hfs, hlength⟩ := Option.map_eq_some_iff.mp hcount
  have hvalidated := Outcome.eq_ok_of_toOption hfs
  obtain ⟨-, -, hvalidate⟩ :=
    groups_only_add (Validator.mk RequirementTable.packaged {}) d (.string "Product")
  obtain ⟨-, hlists⟩ := (hvalidate 985 _ hd rfl fs).mp hvalidated
  exact ⟨d, fs, hd, hvalidated, congrArg Findings.warnings hlists, hlength⟩

end Validator

end StructuredData
