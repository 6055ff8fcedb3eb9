import Mathlib.Data.List.Sort
import Mathlib.Data.Set.Card

/-! The most frequent items of a list: grouped, counted, sorted and cut off. The
result is described by the counts alone, and depends on nothing else. -/

set_option autoImplicit false

namespace Library.Ranking

variable {α : Type}

/-- A test that orders all items, several of which may stand in one place. -/
structure Orders (le : α → α → Bool) : Prop where
  total : ∀ left right, le left right = true ∨ le right left = true
  transitive : ∀ first second third, le first second = true → le second third = true →
    le first third = true

/-- A test that orders all items in a line. -/
structure LinearlyOrders (le : α → α → Bool) : Prop extends Orders le where
  antisymmetric : ∀ left right, le left right = true → le right left = true → left = right

theorem Orders.sorted {le : α → α → Bool} (orders : Orders le) (items : List α) :
    (items.insertionSort fun left right => le left right).Pairwise
      fun left right => le left right = true := by
  have total : Std.Total fun left right => le left right = true := ⟨orders.total⟩
  have transitive : IsTrans α fun left right => le left right = true := ⟨orders.transitive⟩
  exact List.pairwise_insertionSort _ items

/-- The more frequent first, and equally frequent ones in their own order. -/
def precedes (le : α → α → Bool) (left right : α × Nat) : Bool :=
  left.2 > right.2 || (left.2 = right.2 && le left.1 right.1)

theorem precedes_iff {le : α → α → Bool} {left right : α × Nat} :
    precedes le left right = true ↔
      right.2 < left.2 ∨ (left.2 = right.2 ∧ le left.1 right.1 = true) := by
  simp [precedes]

theorem LinearlyOrders.precedes {le : α → α → Bool} (orders : LinearlyOrders le) :
    LinearlyOrders (precedes le) where
  total left right := by
    rw [precedes_iff, precedes_iff]
    rcases Nat.lt_trichotomy left.2 right.2 with less | same | greater
    · exact .inr (.inl less)
    · rcases orders.total left.1 right.1 with before | behind
      · exact .inl (.inr ⟨same, before⟩)
      · exact .inr (.inr ⟨same.symm, behind⟩)
    · exact .inl (.inl greater)
  transitive first second third before behind := by
    rw [precedes_iff] at before behind ⊢
    rcases before with more | ⟨same, earlier⟩
    · left
      rcases behind with less | ⟨equal, _⟩
      · omega
      · omega
    · rcases behind with less | ⟨equal, later⟩
      · left
        omega
      · exact .inr ⟨same.trans equal, orders.transitive _ _ _ earlier later⟩
  antisymmetric left right before behind := by
    rw [precedes_iff] at before behind
    rcases before with more | ⟨same, earlier⟩
    · omega
    · rcases behind with less | ⟨_, later⟩
      · omega
      · exact Prod.ext (orders.antisymmetric _ _ earlier later) same

variable [BEq α] [DecidableEq α]

/-- Each item that occurs, with how often it does. -/
def tally (items : List α) : List (α × Nat) :=
  items.dedup.map fun item => (item, items.count item)

def top (le : α → α → Bool) (limit : Nat) (items : List α) : List (α × Nat) :=
  ((tally items).insertionSort fun left right => precedes le left right).take limit

/-- The exact top of a count: different counted items in order, as many as the
limit allows, and no other item before any of them. -/
structure Top (le : α → α → Bool) (limit : Nat) (count : α → Nat) (ranked : List (α × Nat)) :
    Prop where
  distinct : (ranked.map Prod.fst).Nodup
  counted : ∀ entry ∈ ranked, 0 < entry.2 ∧ entry.2 = count entry.1
  ordered : ranked.Pairwise fun left right => precedes le left right = true
  length : ranked.length = min limit {item | 0 < count item}.ncard
  maximal : ∀ entry ∈ ranked, ∀ item, 0 < count item → item ∉ ranked.map Prod.fst →
    precedes le entry (item, count item) = true

section Tally

variable {items others : List α}

theorem mem_tally {entry : α × Nat} :
    entry ∈ tally items ↔ entry.1 ∈ items ∧ entry.2 = items.count entry.1 := by
  simp only [tally, List.mem_map, List.mem_dedup]
  constructor
  · intro tallied
    obtain ⟨item, member, rfl⟩ := tallied
    exact ⟨member, rfl⟩
  · intro counts
    obtain ⟨member, counted⟩ := counts
    exact ⟨entry.1, member, Prod.ext rfl counted.symm⟩

theorem map_fst_tally : (tally items).map Prod.fst = items.dedup := by
  simp [tally, Function.comp_def]

theorem tally_perm (same : items.Perm others) : (tally items).Perm (tally others) := by
  have counts : (fun item => (item, items.count item)) = fun item => (item, others.count item) :=
    funext fun item => Prod.ext rfl (same.count_eq item)
  rw [tally, tally, counts]
  exact same.dedup.map _

/-- As many items are counted as there are different ones. -/
theorem ncard_counted [LawfulBEq α] : {item | 0 < items.count item}.ncard = items.dedup.length := by
  have counted : {item | 0 < items.count item} = (items.toFinset : Set α) := by
    ext item
    simp [List.count_pos_iff]
  rw [counted, Set.ncard_coe_finset, List.card_toFinset]

end Tally

section Sorted

variable [LawfulBEq α] {le : α → α → Bool} {limit : Nat} {items others : List α}

/-- What is kept of a sorted tally is the exact top. -/
theorem top_of_sorted {ranking : List (α × Nat)} (permuted : ranking.Perm (tally items))
    (sorted : ranking.Pairwise fun left right => precedes le left right = true) :
    Top le limit items.count (ranking.take limit) where
  distinct := by
    have names : (ranking.map Prod.fst).Nodup := by
      rw [(permuted.map Prod.fst).nodup_iff, map_fst_tally]
      exact items.nodup_dedup
    exact names.sublist ((List.take_sublist limit ranking).map Prod.fst)
  counted entry member := by
    obtain ⟨occurs, counted⟩ := mem_tally.mp (permuted.mem_iff.mp (List.mem_of_mem_take member))
    exact ⟨counted ▸ List.count_pos_iff.mpr occurs, counted⟩
  ordered := sorted.sublist (List.take_sublist limit ranking)
  length := by
    rw [List.length_take, permuted.length_eq, ncard_counted, tally, List.length_map]
  maximal entry member item counted absent := by
    have listed : (item, items.count item) ∈ ranking :=
      permuted.mem_iff.mpr (mem_tally.mpr ⟨List.count_pos_iff.mp counted, rfl⟩)
    rw [← List.take_append_drop limit ranking] at sorted listed
    rcases List.mem_append.mp listed with kept | cut
    · exact absurd (List.mem_map_of_mem kept) absent
    · exact (List.pairwise_append.mp sorted).2.2 entry member _ cut

/-- Grouping, counting, sorting and cutting off gives the exact top. -/
theorem top_spec (orders : LinearlyOrders le) (limit : Nat) (items : List α) :
    Top le limit items.count (top le limit items) :=
  top_of_sorted (List.perm_insertionSort _ _) (orders.precedes.toOrders.sorted _)

/-- The top depends on the counts alone. -/
theorem top_congr (orders : LinearlyOrders le) (limit : Nat)
    (counts : ∀ item, items.count item = others.count item) :
    top le limit items = top le limit others := by
  have same : items.Perm others := List.perm_iff_count.mpr counts
  have permuted : ((tally items).insertionSort fun left right => precedes le left right).Perm
      ((tally others).insertionSort fun left right => precedes le left right) :=
    (List.perm_insertionSort _ _).trans
      ((tally_perm same).trans (List.perm_insertionSort _ _).symm)
  have equal := permuted.eq_of_pairwise (fun left right _ _ => orders.precedes.antisymmetric _ _)
    (orders.precedes.toOrders.sorted _) (orders.precedes.toOrders.sorted _)
  rw [top, top, equal]

end Sorted

end Library.Ranking
