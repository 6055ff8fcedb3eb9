import Mathlib.Data.List.Forall2
import PortalApi.Library.Table

/-! Tables that never lose a row: rows are added at the end, and a row that was there
only becomes a later version of itself. -/

set_option autoImplicit false

namespace Library.Table

variable {α : Type}

def Grows (advances : α → α → Prop) (fresh : α → Prop) (before after : List α) : Prop :=
  ∃ kept added, after = kept ++ added ∧ List.Forall₂ advances before kept ∧
    ∀ row ∈ added, fresh row

section Grows

variable {advances : α → α → Prop} {fresh : α → Prop} {before after rows : List α}

theorem Grows.refl (still : ∀ row, advances row row) (rows : List α) :
    Grows advances fresh rows rows :=
  ⟨rows, [], (List.append_nil rows).symm, List.forall₂_same.mpr fun row _ => still row, by simp⟩

theorem Grows.append (still : ∀ row, advances row row) {row : α} (new : fresh row) :
    Grows advances fresh rows (rows ++ [row]) :=
  ⟨rows, [row], rfl, List.forall₂_same.mpr fun row _ => still row, by simpa using new⟩

theorem Grows.update {matches? : α → Bool} {rewrite : α → α}
    (still : ∀ row, advances row row)
    (rewritten : ∀ row ∈ rows, matches? row = true → advances row (rewrite row)) :
    Grows advances fresh rows (update matches? rewrite rows) := by
  refine ⟨_, [], (List.append_nil _).symm, ?_, by simp⟩
  refine List.forall₂_map_right_iff.mpr (List.forall₂_same.mpr fun row member => ?_)
  split
  · next chosen => exact rewritten row member chosen
  · exact still row

/-- A row that was there is found again in a later version. -/
theorem Grows.version (grows : Grows advances fresh before after) {row : α}
    (member : row ∈ before) : ∃ later ∈ after, advances row later := by
  obtain ⟨kept, added, rfl, versions, _⟩ := grows
  obtain ⟨index, bound, rfl⟩ := List.getElem_of_mem member
  have inside : index < kept.length := versions.length_eq ▸ bound
  exact ⟨kept[index], List.mem_append_left added (List.getElem_mem inside), versions.get bound inside⟩

theorem forall₂_join {first second whole : α → α → Prop}
    (join : ∀ row next later, first row next → second next later → whole row later)
    {befores middles afters : List α} (start : List.Forall₂ first befores middles)
    (rest : List.Forall₂ second middles afters) : List.Forall₂ whole befores afters := by
  induction start generalizing afters with
  | nil =>
      cases rest
      exact .nil
  | cons now _ ih =>
      cases rest with
      | cons next rest => exact .cons (join _ _ _ now next) (ih rest)

theorem forall₂_forall {relates : α → α → Prop} {holds holdsAfter : α → Prop}
    (kept : ∀ row next, holds row → relates row next → holdsAfter next)
    {befores afters : List α} (related : List.Forall₂ relates befores afters)
    (each : ∀ row ∈ befores, holds row) : ∀ row ∈ afters, holdsAfter row := by
  induction related with
  | nil => simp
  | cons now _ ih =>
      obtain ⟨first, rest⟩ := List.forall_mem_cons.mp each
      exact List.forall_mem_cons.mpr ⟨kept _ _ first now, ih rest⟩

theorem Grows.trans {second whole : α → α → Prop} {freshSecond freshWhole : α → Prop}
    {last : List α} (first : Grows advances fresh before after)
    (rest : Grows second freshSecond after last)
    (join : ∀ {row next later}, advances row next → second next later → whole row later)
    (renewed : ∀ {row next}, fresh row → second row next → freshWhole next)
    (older : ∀ {row}, freshSecond row → freshWhole row) :
    Grows whole freshWhole before last := by
  obtain ⟨kept, added, rfl, versions, new⟩ := first
  obtain ⟨rekept, readded, rfl, reversions, renew⟩ := rest
  have front := List.forall₂_take kept.length reversions
  have back := List.forall₂_drop kept.length reversions
  rw [List.take_left] at front
  rw [List.drop_left] at back
  refine ⟨rekept.take kept.length, rekept.drop kept.length ++ readded, ?_, ?_, ?_⟩
  · rw [← List.append_assoc, List.take_append_drop]
  · refine forall₂_join ?_ versions front
    exact fun _ _ _ => join
  · refine List.forall_mem_append.mpr ⟨forall₂_forall ?_ back new, ?_⟩
    · exact fun _ _ => renewed
    · exact fun row member => older (renew row member)

end Grows

end Library.Table
