import Mathlib.Data.List.Nodup
import Mathlib.Data.List.Basic
import Mathlib.Data.Set.Function
import Mathlib.Logic.Function.Basic

/-! Tables as lists of rows in insertion order, with the effect of UPDATE and
of identity columns, and what each write keeps of a declared key. -/

set_option autoImplicit false

namespace Library.Table

variable {α β κ : Type}

/-- `UPDATE`: rewrite every row that matches, in place. -/
def update (matches? : α → Bool) (rewrite : α → α) (rows : List α) : List α :=
  rows.map fun row => if matches? row then rewrite row else row

/-- The next value of an identity column: above all values in use, by a gap. -/
def nextIdentity (used : List Nat) (gap : Nat) : Nat := used.foldr max 0 + 1 + gap

theorem nextIdentity_above {used : List Nat} {gap value : Nat} (member : value ∈ used) :
    value < nextIdentity used gap := by
  have bounded : value ≤ used.foldr max 0 := by
    induction used with
    | nil => cases member
    | cons head tail ih =>
        rcases List.mem_cons.mp member with rfl | inTail
        · exact Nat.le_max_left _ _
        · exact Nat.le_trans (ih inTail) (Nat.le_max_right _ _)
  unfold nextIdentity
  omega

theorem mem_update {matches? : α → Bool} {rewrite : α → α} {rows : List α} {row : α} :
    row ∈ update matches? rewrite rows ↔
      (row ∈ rows ∧ matches? row = false) ∨
        ∃ old ∈ rows, matches? old = true ∧ rewrite old = row := by
  simp only [update, List.mem_map]
  constructor
  · rintro ⟨old, member, same⟩
    cases chosen : matches? old with
    | false =>
        have same : old = row := by simpa [chosen] using same
        exact .inl ⟨same ▸ member, same ▸ chosen⟩
    | true => exact .inr ⟨old, member, chosen, by simpa [chosen] using same⟩
  · rintro (⟨member, kept⟩ | ⟨old, member, chosen, same⟩)
    · exact ⟨row, member, by simp [kept]⟩
    · exact ⟨old, member, by simp [chosen, same]⟩

theorem map_update {matches? : α → Bool} {rewrite : α → α} {rows : List α} {column : α → κ}
    (kept : ∀ row, column (rewrite row) = column row) :
    (update matches? rewrite rows).map column = rows.map column := by
  simp only [update, List.map_map]
  apply List.map_congr_left
  intro row _
  simp only [Function.comp_apply]
  split
  · exact kept row
  · rfl

/-- An update commutes with a view of the rows that it does not depend on. -/
theorem map_update_map {matches? : α → Bool} {rewrite view : α → α} {rows : List α}
    (twice : ∀ row, view (view row) = view row)
    (selects : ∀ row, matches? (view row) = matches? row)
    (rewrites : ∀ row, view (rewrite (view row)) = view (rewrite row)) :
    (update matches? rewrite (rows.map view)).map view = (update matches? rewrite rows).map view := by
  simp only [update, List.map_map]
  apply List.map_congr_left
  intro row _
  simp only [Function.comp_apply, selects]
  split
  · exact rewrites row
  · exact twice row

/-- A row that no update touches a column of is found again by that column. -/
theorem exists_mem_update {matches? : α → Bool} {rewrite : α → α} {rows : List α} {column : α → κ}
    (kept : ∀ row, column (rewrite row) = column row) {row : α} (member : row ∈ rows) :
    ∃ updated ∈ update matches? rewrite rows, column updated = column row := by
  have present : column row ∈ (update matches? rewrite rows).map column := by
    rw [map_update kept]
    exact List.mem_map_of_mem member
  exact List.mem_map.mp present

theorem update_eq_self {matches? : α → Bool} {rewrite : α → α} {rows : List α}
    (untouched : ∀ row ∈ rows, matches? row = false) : update matches? rewrite rows = rows := by
  unfold update
  conv_rhs => rw [← List.map_id rows]
  apply List.map_congr_left
  intro row member
  simp [untouched row member]

theorem update_congr {matches? selects? : α → Bool} {rewrite : α → α} {rows : List α}
    (same : ∀ row ∈ rows, matches? row = selects? row) :
    update matches? rewrite rows = update selects? rewrite rows := by
  unfold update
  apply List.map_congr_left
  intro row member
  rw [same row member]

theorem nodup_append_fresh {column : α → κ} {rows : List α} {row : α}
    (unique : (rows.map column).Nodup) (fresh : ∀ old ∈ rows, column old ≠ column row) :
    ((rows ++ [row]).map column).Nodup := by
  simp only [List.map_append, List.map_cons, List.map_nil, List.nodup_append]
  refine ⟨unique, by simp, ?_⟩
  intro value present other singleton equal
  obtain ⟨old, member, rfl⟩ := List.mem_map.mp present
  exact fresh old member (equal.trans (by simpa using singleton))

theorem nodup_update {matches? : α → Bool} {rewrite : α → α} {column : α → κ} {rows : List α}
    (unique : (rows.map column).Nodup) (kept : ∀ row, column (rewrite row) = column row) :
    ((update matches? rewrite rows).map column).Nodup := by
  rwa [map_update kept]

theorem nodup_filter {column : α → κ} {rows : List α} (unique : (rows.map column).Nodup)
    (keeps : α → Bool) : ((rows.filter keeps).map column).Nodup :=
  unique.sublist (List.filter_sublist.map column)

theorem nodup_append_identity {column : α → Nat} {rows : List α} {row : α} {gap : Nat}
    (unique : (rows.map column).Nodup) (drawn : column row = nextIdentity (rows.map column) gap) :
    ((rows ++ [row]).map column).Nodup := by
  apply nodup_append_fresh unique
  intro old member same
  have above : column old < nextIdentity (rows.map column) gap :=
    nextIdentity_above (List.mem_map_of_mem member)
  omega

theorem eq_of_key {column : α → κ} {rows : List α} (unique : (rows.map column).Nodup)
    {left right : α} (leftMember : left ∈ rows) (rightMember : right ∈ rows)
    (same : column left = column right) : left = right :=
  List.inj_on_of_nodup_map unique leftMember rightMember same

/-- A search that only rows with one key can pass finds the one row that has it. -/
theorem filter_eq_singleton {column : α → κ} {rows : List α} (unique : (rows.map column).Nodup)
    {keeps : α → Bool} {row : α} (member : row ∈ rows) (kept : keeps row = true)
    (only : ∀ other ∈ rows, keeps other = true → column other = column row) :
    rows.filter keeps = [row] := by
  induction rows with
  | nil => cases member
  | cons head tail ih =>
      simp only [List.map_cons, List.nodup_cons] at unique
      rcases List.mem_cons.mp member with rfl | inTail
      · have none : tail.filter keeps = [] := by
          rw [List.filter_eq_nil_iff]
          intro other present passes
          have same := only other (List.mem_cons_of_mem _ present) passes
          exact unique.1 (same ▸ List.mem_map_of_mem present)
        simp [kept, none]
      · have refused : keeps head = false := by
          cases passes : keeps head with
          | false => rfl
          | true =>
              have same := only head List.mem_cons_self passes
              exact absurd (same ▸ List.mem_map_of_mem inTail) unique.1
        simp only [List.filter_cons, refused, Bool.false_eq_true, ↓reduceIte]
        exact ih unique.2 inTail fun other present => only other (List.mem_cons_of_mem _ present)

/-! What a write leaves of the rows that a filter keeps. -/

section Filter

variable {keeps : α → Bool} {rows : List α}

theorem filter_append_other {row : α} (other : keeps row = false) :
    (rows ++ [row]).filter keeps = rows.filter keeps := by
  simp [List.filter_append, other]

theorem filter_filter_kept {stays : α → Bool}
    (kept : ∀ row ∈ rows, keeps row = true → stays row = true) :
    (rows.filter stays).filter keeps = rows.filter keeps := by
  rw [List.filter_filter]
  apply List.filter_congr
  intro row member
  cases chosen : keeps row with
  | false => rfl
  | true => simp [kept row member chosen]

theorem filter_update_other {matches? : α → Bool} {rewrite : α → α}
    (other : ∀ row ∈ rows, matches? row = true → keeps row = false ∧ keeps (rewrite row) = false) :
    (update matches? rewrite rows).filter keeps = rows.filter keeps := by
  induction rows with
  | nil => rfl
  | cons head tail ih =>
      have tailSame := ih fun row member => other row (List.mem_cons_of_mem _ member)
      cases chosen : matches? head with
      | false =>
          have first : update matches? rewrite (head :: tail) =
              head :: update matches? rewrite tail := by simp [update, chosen]
          rw [first, List.filter_cons, List.filter_cons, tailSame]
      | true =>
          have first : update matches? rewrite (head :: tail) =
              rewrite head :: update matches? rewrite tail := by simp [update, chosen]
          obtain ⟨before, after⟩ := other head List.mem_cons_self chosen
          rw [first, List.filter_cons_of_neg (by simp [after]),
            List.filter_cons_of_neg (by simp [before]), tailSame]

/-- A search by the key finds the row that has it. -/
theorem find_eq_some [DecidableEq κ] {column : α → κ} (unique : (rows.map column).Nodup) {row : α}
    (member : row ∈ rows) : rows.find? (fun other => column other = column row) = some row := by
  cases found : rows.find? (fun other => column other = column row) with
  | none =>
      have missing := List.find?_eq_none.mp found row member
      simp at missing
  | some other =>
      have same : column other = column row := by simpa using List.find?_some found
      rw [eq_of_key unique (List.mem_of_find?_eq_some found) member same]

end Filter

section Matching

variable {relates : α → β → Prop} {rows : List α} {targets : List β}

/-- Every row can be given a target of its own that it relates to. -/
def Matching (relates : α → β → Prop) (rows : List α) (targets : List β) : Prop :=
  ∃ assign : α → β, Set.InjOn assign {row | row ∈ rows} ∧
    ∀ row ∈ rows, assign row ∈ targets ∧ relates row (assign row)

theorem Matching.nil [Nonempty β] : Matching relates ([] : List α) targets := by
  obtain ⟨target⟩ := ‹Nonempty β›
  refine ⟨fun _ => target, ?_, ?_⟩
  · intro row member
    cases member
  · intro row member
    cases member

theorem Matching.mono {more : List β} (matching : Matching relates rows targets)
    (subset : targets ⊆ more) : Matching relates rows more := by
  obtain ⟨assign, injective, assigned⟩ := matching
  exact ⟨assign, injective, fun row member =>
    ⟨subset (assigned row member).1, (assigned row member).2⟩⟩

/-- A new row and a new target of its own extend a matching. -/
theorem Matching.append (matching : Matching relates rows targets) {row : α} {target : β}
    (newRow : row ∉ rows) (newTarget : target ∉ targets) (related : relates row target) :
    Matching relates (rows ++ [row]) (targets ++ [target]) := by
  classical
  obtain ⟨assign, injective, assigned⟩ := matching
  have old : ∀ other ∈ rows, Function.update assign row target other = assign other := by
    intro other member
    have different : other ≠ row := by
      intro same
      exact newRow (same ▸ member)
    exact Function.update_of_ne different _ _
  have new : Function.update assign row target row = target := Function.update_self _ _ _
  have outside : ∀ other ∈ rows, assign other ≠ target := by
    intro other member same
    exact newTarget (same ▸ (assigned other member).1)
  refine ⟨Function.update assign row target, ?_, ?_⟩
  · intro first firstMember second secondMember same
    rcases List.mem_append.mp firstMember with firstOld | firstNew
    · rcases List.mem_append.mp secondMember with secondOld | secondNew
      · rw [old first firstOld, old second secondOld] at same
        exact injective firstOld secondOld same
      · obtain rfl := List.mem_singleton.mp secondNew
        rw [old first firstOld, new] at same
        exact absurd same (outside first firstOld)
    · obtain rfl := List.mem_singleton.mp firstNew
      rcases List.mem_append.mp secondMember with secondOld | secondNew
      · rw [old second secondOld, new] at same
        exact absurd same.symm (outside second secondOld)
      · exact (List.mem_singleton.mp secondNew).symm
  · intro other member
    rcases List.mem_append.mp member with present | added
    · rw [old other present]
      exact ⟨List.mem_append_left _ (assigned other present).1, (assigned other present).2⟩
    · obtain rfl := List.mem_singleton.mp added
      rw [new]
      exact ⟨List.mem_append_right _ (List.mem_singleton.mpr rfl), related⟩

end Matching

end Library.Table
