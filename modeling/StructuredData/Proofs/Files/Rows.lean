import StructuredData.Proofs.Files.Making

/-!
# Work that puts a row of nodes

Work below a base that is a row of operations puts down the nodes of a row, one after another, until
one of the operations fails.  `Puts` says so for one piece of work, whatever the tree holds, and is
kept when pieces are put together.

A text that cannot be encoded is found out only when a file is there to be written to, so that work
may put down its last node and fail nevertheless.  Where that is ruled out for the end of a row
(`Completes`), it is for the whole of it.
-/

namespace StructuredData

open StructuredData.Path FileTree

variable {base : Path} {b : Place} {q : List Text} {t t' : FileTree}

namespace Filing

variable {ε α β : Type} {row row' : List (List Text × FileNode)}

/-- Below the base the work puts down the first nodes of the row, all of them if it ends well. -/
def Puts (base : Path) (b : Place) (work : Filing ε α) (row : List (List Text × FileNode)) : Prop :=
  ∀ t, Stands t base b → ∃ done, done <+: row ∧ Gains t base b done (work.on t).2 ∧
    ((∃ a, (work.on t).1 = .ok a) → done = row)

/-- Below the base the work puts down the first nodes of the row, and all of them if and only if it
ends well. -/
def Completes (base : Path) (b : Place) (work : Filing ε α)
    (row : List (List Text × FileNode)) : Prop :=
  ∀ t, Stands t base b → ∃ done, done <+: row ∧ Gains t base b done (work.on t).2 ∧
    ((∃ a, (work.on t).1 = .ok a) ↔ done = row)

lemma Completes.puts {work : Filing ε α} (h : Completes base b work row) :
    Puts base b work row := by
  intro t hstands
  obtain ⟨done, hdone, hgains, hall⟩ := h t hstands
  exact ⟨done, hdone, hgains, hall.mp⟩

lemma puts_pure (a : α) : Puts base b (pure a : Filing ε α) [] :=
  fun t _ => ⟨[], List.prefix_rfl, .refl t, fun _ => rfl⟩

lemma puts_throw (e : ε) : Puts base b (throw e : Filing ε α) row :=
  fun t _ => ⟨[], List.nil_prefix, .refl t, fun ⟨_, h⟩ => nomatch h⟩

lemma puts_bind {work : Filing ε α} {next : α → Filing ε β} (hrow : IsRow row)
    (hrow' : IsRow row') (h : Puts base b work row)
    (hnext : ∀ a t t', work.on t = (.ok a, t') → Puts base b (next a) row') :
    Puts base b (work >>= next) (row ++ row') := by
  intro t hstands
  obtain ⟨done, hdone, hgains, hall⟩ := h t hstands
  rw [on_bind]
  cases hwork : work.on t with
  | mk result after =>
    rw [hwork] at hgains hall
    cases result with
    | error e =>
      exact ⟨done, hdone.trans (List.prefix_append _ _), hgains, fun ⟨_, h⟩ => nomatch h⟩
    | ok a =>
      obtain rfl := hall ⟨a, rfl⟩
      obtain ⟨later, hlater, hgains', hall'⟩ :=
        hnext a t after hwork after (hstands.mono hgains.keeps)
      exact ⟨done ++ later, (List.prefix_append_right_inj done).mpr hlater,
        hgains.trans hstands hrow (hrow'.of_front hlater) hgains', fun h => by rw [hall' h]⟩

/-- Work that completes what is left of a row completes the row. -/
lemma completes_bind {work : Filing ε α} {next : α → Filing ε β} (hrow : IsRow row)
    (hrow' : IsRow row') (hne : row' ≠ []) (h : Puts base b work row)
    (hnext : ∀ a t t', work.on t = (.ok a, t') → Completes base b (next a) row') :
    Completes base b (work >>= next) (row ++ row') := by
  intro t hstands
  obtain ⟨done, hdone, hgains, hall⟩ := h t hstands
  rw [on_bind]
  cases hwork : work.on t with
  | mk result after =>
    rw [hwork] at hgains hall
    cases result with
    | error e =>
      -- what was to come next is missing
      refine ⟨done, hdone.trans (List.prefix_append _ _), hgains, iff_of_false nofun ?_⟩
      rintro rfl
      have hlength := hdone.length_le
      rw [List.length_append] at hlength
      have hpositive := List.length_pos_iff.mpr hne
      omega
    | ok a =>
      obtain rfl := hall ⟨a, rfl⟩
      obtain ⟨later, hlater, hgains', hall'⟩ :=
        hnext a t after hwork after (hstands.mono hgains.keeps)
      refine ⟨done ++ later, (List.prefix_append_right_inj done).mpr hlater,
        hgains.trans hstands hrow (hrow'.of_front hlater) hgains', ?_⟩
      rw [List.append_right_inj]
      exact hall'

lemma completes_step {operation : FileTree → Except FileFault FileTree} {wrap : FileFault → ε}
    {e : List Text × FileNode}
    (h : ∀ t t', Stands t base b → operation t = .ok t' → Gains t base b [e] t') :
    Completes base b (step operation wrap) [e] := by
  intro t hstands
  rw [on_step]
  cases hoperation : operation t with
  | ok after =>
    exact ⟨[e], List.prefix_rfl, h t after hstands hoperation, iff_of_true ⟨(), rfl⟩ rfl⟩
  | error fault => exact ⟨[], List.nil_prefix, .refl t, iff_of_false nofun nofun⟩

lemma puts_makeDirectories (hq : ∀ name ∈ q, IsName name) (wrap : FileFault → ε) :
    Puts base b (makeDirectories (base.below q) wrap) (directories q) := by
  intro t hstands
  rw [on_makeDirectories]
  cases hgrow : t.grow (base.below q) with
  | mk after fault =>
    obtain ⟨row, hinit, hgains, hall⟩ := grows_of_grow hstands hq hgrow
    cases fault with
    | none => exact ⟨row, hinit, hgains, fun _ => hall.mp rfl⟩
    | some fault => exact ⟨row, hinit, hgains, fun ⟨_, h⟩ => nomatch h⟩

/-- Texts are written to a file as far as they have octets. -/
lemma puts_writeTexts (hq : ∀ name ∈ q, IsName name) (hne : q ≠ []) (texts : List Text)
    (wrap : FileFault → ε) (refuse : Utf8.EncodeError → ε) :
    Puts base b (writeTexts (base.below q).text texts wrap refuse)
      [(q, .file (Utf8.encodeAll texts).1)] := by
  intro t hstands
  rw [on_writeTexts]
  cases hwrite : t.writeText (base.below q).text (Utf8.encodeAll texts).1 with
  | error fault => exact ⟨[], List.nil_prefix, .refl t, fun ⟨_, h⟩ => nomatch h⟩
  | ok after =>
    exact ⟨_, List.prefix_rfl, gains_of_write hstands hq hne hwrite, fun _ => rfl⟩

lemma puts_forM {γ : Type} {f : γ → Filing ε Unit} {g : γ → List Text × FileNode} {xs : List γ}
    (hg : ∀ x ∈ xs, IsRow [g x]) (h : ∀ x ∈ xs, Puts base b (f x) [g x]) :
    Puts base b (xs.forM f) (xs.map g) := by
  induction xs with
  | nil => exact puts_pure ()
  | cons x xs ih =>
    obtain ⟨hx, hxs⟩ := List.forall_mem_cons.mp h
    obtain ⟨hgx, hgxs⟩ := List.forall_mem_cons.mp hg
    have hrow : IsRow (xs.map g) := by
      intro e he
      obtain ⟨y, hy, rfl⟩ := List.mem_map.mp he
      exact hgxs y hy (g y) List.mem_cons_self
    change Puts base b (f x >>= fun _ => xs.forM f) ([g x] ++ xs.map g)
    exact puts_bind hgx hrow hx fun _ _ _ _ => ih hgxs hxs

end Filing

end StructuredData
