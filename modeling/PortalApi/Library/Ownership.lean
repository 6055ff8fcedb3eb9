import PortalApi.Library.Program
import Mathlib.Data.Finset.Basic
import Mathlib.Logic.Function.Basic

/-! Programs that own memory. A heap knows the blocks that are allocated and every
misuse so far: an access or a release of a block that is not, a release by the
call for another kind, an access through NULL. An owning program is compared
with a plain one that asks for the same operations. -/

set_option autoImplicit false

namespace Library

universe u

/-- An allocated block. Names are not used again, so a released block stays told
apart from later ones at its address. -/
structure Block (κ : Type) where
  name : Nat
  kind : κ
  deriving DecidableEq

inductive Fault (κ : Type) where
  | nullPointer
  | dangling (block : Block κ)
  | mismatched (block : Block κ)

structure Heap (κ : Type) where
  next : Nat
  live : Finset (Block κ)
  faults : List (Fault κ)

/-- A pointer to a block that its holder has to release. -/
structure Pointer (κ α : Type) where
  block : Block κ
  target : α

/-- A pointer that does not own: into a block of another owner, or to memory that
outlives every use. -/
structure Borrowed (κ α : Type) where
  owner : Option (Block κ)
  target : α

namespace Heap

variable {κ : Type} [DecidableEq κ]

def fault (heap : Heap κ) (fault : Fault κ) : Heap κ := { heap with faults := heap.faults ++ [fault] }

def acquire (kind : κ) (heap : Heap κ) : Block κ × Heap κ :=
  let block := { name := heap.next, kind }
  (block, { heap with next := heap.next + 1, live := insert block heap.live })

def access (block : Block κ) (heap : Heap κ) : Heap κ :=
  if block ∈ heap.live then heap else heap.fault (.dangling block)

def release (kind : κ) (block : Block κ) (heap : Heap κ) : Heap κ :=
  if block ∉ heap.live then heap.fault (.dangling block)
  else if block.kind ≠ kind then heap.fault (.mismatched block)
  else { heap with live := heap.live.erase block }

/-- The parent takes over the block, which is released with it from now on. -/
def adopt (parent child : Block κ) (heap : Heap κ) : Heap κ :=
  let used := (heap.access parent).access child
  { used with live := used.live.erase child }

/-- No live block has a name still to be given. -/
def Sound (heap : Heap κ) : Prop := ∀ block ∈ heap.live, block.name < heap.next

theorem Sound.fresh {heap : Heap κ} (sound : heap.Sound) (kind : κ) :
    (heap.acquire kind).1 ∉ heap.live :=
  fun member => Nat.lt_irrefl _ (sound _ member)

theorem Sound.acquire {heap : Heap κ} (sound : heap.Sound) (kind : κ) :
    (heap.acquire kind).2.Sound := by
  intro block member
  rcases Finset.mem_insert.mp member with rfl | earlier
  · exact Nat.lt_succ_self _
  · exact Nat.lt_succ_of_lt (sound block earlier)

theorem Sound.erase {heap : Heap κ} (sound : heap.Sound) (block : Block κ) :
    Sound { heap with live := heap.live.erase block } :=
  fun other member => sound other (Finset.mem_of_mem_erase member)

theorem access_live {heap : Heap κ} {block : Block κ} (live : block ∈ heap.live) :
    heap.access block = heap := if_pos live

theorem release_live {heap : Heap κ} {block : Block κ} (live : block ∈ heap.live) :
    heap.release block.kind block = { heap with live := heap.live.erase block } := by
  simp [release, live]

theorem adopt_live {heap : Heap κ} {parent child : Block κ} (held : parent ∈ heap.live)
    (live : child ∈ heap.live) :
    heap.adopt parent child = { heap with live := heap.live.erase child } := by
  simp [adopt, access_live held, access_live live]

end Heap

/-- The live blocks are the common ones and those of the owners, each of one only. -/
structure Divided {ι κ : Type} (common : Finset (Block κ)) (owned : ι → Finset (Block κ))
    (live : Finset (Block κ)) : Prop where
  mem : ∀ block, block ∈ live ↔ block ∈ common ∨ ∃ owner, block ∈ owned owner
  common : ∀ owner, Disjoint (owned owner) common
  apart : ∀ first second, first ≠ second → Disjoint (owned first) (owned second)

namespace Divided

variable {ι κ : Type} [DecidableEq ι] [DecidableEq κ] {common live fresh : Finset (Block κ)}
  {owned : ι → Finset (Block κ)}

/-- An owner may exchange its blocks for any that no other has. -/
theorem update (divided : Divided common owned live) (owner : ι)
    (new : Disjoint fresh (live \ owned owner)) :
    Divided common (Function.update owned owner fresh) (fresh ∪ live \ owned owner) := by
  have others : ∀ other, other ≠ owner → Disjoint fresh (owned other) := by
    intro other different
    refine Finset.disjoint_left.mpr fun block taken given => Finset.disjoint_left.mp new taken ?_
    refine Finset.mem_sdiff.mpr ⟨(divided.mem block).mpr (.inr ⟨other, given⟩), ?_⟩
    exact Finset.disjoint_left.mp (divided.apart other owner different) given
  refine ⟨fun block => ?_, fun other => ?_, fun first second different => ?_⟩
  · simp only [Finset.mem_union, Finset.mem_sdiff, divided.mem block]
    constructor
    · rintro (taken | ⟨shared | ⟨other, given⟩, left⟩)
      · exact .inr ⟨owner, by simpa using taken⟩
      · exact .inl shared
      · have different : other ≠ owner := fun same => left (same ▸ given)
        exact .inr ⟨other, by simpa [different] using given⟩
    · rintro (shared | ⟨other, given⟩)
      · exact .inr ⟨.inl shared, fun taken =>
          Finset.disjoint_left.mp (divided.common owner) taken shared⟩
      · by_cases same : other = owner
        · subst same
          exact .inl (by simpa using given)
        · have given : block ∈ owned other := by simpa [same] using given
          exact .inr ⟨.inr ⟨other, given⟩,
            Finset.disjoint_left.mp (divided.apart other owner same) given⟩
  · by_cases same : other = owner
    · subst same
      rw [Function.update_self]
      refine new.mono_right fun block shared => Finset.mem_sdiff.mpr ⟨?_, fun taken => ?_⟩
      · exact (divided.mem block).mpr (.inl shared)
      · exact Finset.disjoint_left.mp (divided.common other) taken shared
    · rw [Function.update_of_ne same]
      exact divided.common other
  · by_cases same : first = owner
    · subst same
      rw [Function.update_self, Function.update_of_ne different.symm]
      exact others second different.symm
    · rw [Function.update_of_ne same]
      by_cases last : second = owner
      · subst last
        rw [Function.update_self]
        exact (others first same).symm
      · rw [Function.update_of_ne last]
        exact divided.apart first second different

end Divided

section Programs

variable {Op : Type u} {Answer : Op → Type} {α β γ δ σ : Type}

/-- Two programs that ask for the same operations whatever admitted answers they
get, and end related. -/
inductive Lockstep (admitted : (op : Op) → Answer op → Prop) (ends : α → β → Prop) :
    Program Answer α → Program Answer β → Prop where
  | done {value : α} {other : β} : ends value other →
      Lockstep admitted ends (.done value) (.done other)
  | call (op : Op) {next : Answer op → Program Answer α} {other : Answer op → Program Answer β} :
      (∀ answer, admitted op answer → Lockstep admitted ends (next answer) (other answer)) →
      Lockstep admitted ends (.call op next) (.call op other)

variable {admitted : (op : Op) → Answer op → Prop}

theorem Lockstep.bind {middle : α → β → Prop} {ends : γ → δ → Prop} {program : Program Answer α}
    {plain : Program Answer β} {next : α → Program Answer γ} {other : β → Program Answer δ}
    (first : Lockstep admitted middle program plain)
    (rest : ∀ value result, middle value result →
      Lockstep admitted ends (next value) (other result)) :
    Lockstep admitted ends (program >>= next) (plain >>= other) := by
  induction first with
  | done related => exact rest _ _ related
  | call op _ ih => exact .call op fun answer given => ih answer given

theorem Lockstep.mono {middle ends : α → β → Prop} {program : Program Answer α}
    {plain : Program Answer β} (lockstep : Lockstep admitted middle program plain)
    (weaker : ∀ value result, middle value result → ends value result) :
    Lockstep admitted ends program plain := by
  induction lockstep with
  | done related => exact .done (weaker _ _ related)
  | call op _ ih => exact .call op fun answer given => ih answer given

/-- In step the two leave the same state, whatever answers are given. -/
theorem Lockstep.run {ends : α → β → Prop} {program : Program Answer α}
    {plain : Program Answer β} {semantics : Semantics Answer σ}
    (answers : ∀ op state, admitted op (semantics op state).1)
    (lockstep : Lockstep admitted ends program plain) (state : σ) :
    ends (program.run semantics state).1 (plain.run semantics state).1 ∧
      (program.run semantics state).2 = (plain.run semantics state).2 := by
  induction lockstep generalizing state with
  | done related => exact ⟨related, rfl⟩
  | call op _ ih => exact ih _ (answers op state) _

end Programs

/-- A program that works on a heap as well. -/
abbrev Owning {Op : Type u} (Answer : Op → Type) (κ α : Type) := StateT (Heap κ) (Program Answer) α

section Owning

variable {Op : Type u} {Answer : Op → Type} {κ α β γ δ : Type}

namespace Owning

variable [DecidableEq κ]

def acquire (kind : κ) : Owning Answer κ (Block κ) := fun heap => pure (heap.acquire kind)

def access (block : Block κ) : Owning Answer κ Unit := fun heap => pure ((), heap.access block)

def release (kind : κ) (block : Block κ) : Owning Answer κ Unit :=
  fun heap => pure ((), heap.release kind block)

def adopt (parent child : Block κ) : Owning Answer κ Unit :=
  fun heap => pure ((), heap.adopt parent child)

/-- Every way out of the body goes through the cleanup. -/
def cleaningUp (cleanup : Owning Answer κ Unit) (body : Owning Answer κ α) : Owning Answer κ α := do
  let value ← body
  cleanup
  return value

/-- The release of what a pointer points to unless it is NULL. -/
def relinquish (kind : κ) : Option (Block κ) → Owning Answer κ Unit
  | none => pure ()
  | some block => release kind block

/-- An access through a pointer that must not be NULL. -/
def reach : Option (Block κ) → Owning Answer κ Unit
  | none => fun heap => pure ((), heap.fault .nullPointer)
  | some block => access block

/-- What is behind a pointer that does not own. -/
def read (borrowed : Borrowed κ α) : Owning Answer κ α := do
  match borrowed.owner with
  | none => return borrowed.target
  | some owner =>
    access owner
    return borrowed.target

/-- What is behind a pointer that is looked at only when it is not NULL. -/
def examine (borrowed : Option (Borrowed κ α)) : Owning Answer κ (Option α) :=
  match borrowed with
  | none => return none
  | some borrowed => do return some (← read borrowed)

/-- What is behind a pointer that must not be NULL. -/
def dereference [Inhabited α] (borrowed : Option (Borrowed κ α)) : Owning Answer κ α :=
  match borrowed with
  | none => fun heap => pure (default, heap.fault .nullPointer)
  | some borrowed => read borrowed

end Owning

/-- Where these blocks are live the program only reads, and finds this value. -/
def Reads (live : Finset (Block κ)) (program : Owning Answer κ α) (value : α) : Prop :=
  ∀ heap, live ⊆ heap.live → program heap = pure (value, heap)

/-- With these blocks live, and no others, the program does without a fault what
the plain one does, and ends with its result and the live blocks as said. -/
def Tracks (admitted : (op : Op) → Answer op → Prop) (live : Finset (Block κ))
    (program : Owning Answer κ α) (plain : Program Answer β)
    (ends : α → β → Finset (Block κ) → Prop) : Prop :=
  ∀ heap, heap.Sound → heap.live = live →
    Lockstep admitted
      (fun ended result => ended.2.Sound ∧ ended.2.faults = heap.faults ∧
        ends ended.1 result ended.2.live)
      (program heap) plain

/-- The result of the plain program, and the live blocks as before. -/
def Restores (live : Finset (Block κ)) (value result : α) (after : Finset (Block κ)) : Prop :=
  value = result ∧ after = live

/-- A part that asks for nothing and leaves these live blocks. -/
abbrev Leaves (admitted : (op : Op) → Answer op → Prop) (live : Finset (Block κ))
    (program : Owning Answer κ Unit) (after : Finset (Block κ)) : Prop :=
  Tracks admitted live program (pure ()) fun _ _ final => final = after

section Rules

variable {admitted : (op : Op) → Answer op → Prop} {live : Finset (Block κ)} {block : Block κ}

theorem Reads.pure (value : α) : Reads live (pure value : Owning Answer κ α) value :=
  fun _ _ => rfl

theorem Reads.bind {program : Owning Answer κ α} {next : α → Owning Answer κ β} {first : α}
    {second : β} (before : Reads live program first) (after : Reads live (next first) second) :
    Reads live (program >>= next) second := by
  intro heap within
  show (program heap >>= fun ended => next ended.1 ended.2) = _
  rw [before heap within]
  exact after heap within

theorem Reads.mono {program : Owning Answer κ α} {value : α} {larger : Finset (Block κ)}
    (reads : Reads live program value) (within : live ⊆ larger) : Reads larger program value :=
  fun heap whole => reads heap (within.trans whole)

theorem Tracks.pure {value : α} {result : β} {ends : α → β → Finset (Block κ) → Prop}
    (related : ends value result live) :
    Tracks admitted live (pure value) (pure result : Program Answer β) ends :=
  fun _ sound same => .done ⟨sound, rfl, same ▸ related⟩

theorem Tracks.bind {program : Owning Answer κ α} {plain : Program Answer β}
    {next : α → Owning Answer κ γ} {other : β → Program Answer δ}
    {middle : α → β → Finset (Block κ) → Prop} {ends : γ → δ → Finset (Block κ) → Prop}
    (first : Tracks admitted live program plain middle)
    (rest : ∀ value result after, middle value result after →
      Tracks admitted after (next value) (other result) ends) :
    Tracks admitted live (program >>= next) (plain >>= other) ends := by
  intro heap sound same
  refine (first heap sound same).bind fun ended result related => ?_
  obtain ⟨kept, faultless, reached⟩ := related
  have later := rest ended.1 result ended.2.live reached ended.2 kept rfl
  rw [faultless] at later
  exact later

theorem Tracks.mono {program : Owning Answer κ α} {plain : Program Answer β}
    {middle ends : α → β → Finset (Block κ) → Prop} (tracks : Tracks admitted live program plain middle)
    (weaker : ∀ value result after, middle value result after → ends value result after) :
    Tracks admitted live program plain ends := by
  intro heap sound same
  exact (tracks heap sound same).mono fun ended result related =>
    ⟨related.1, related.2.1, weaker _ _ _ related.2.2⟩

/-- What follows a program that tracks the whole plain one. -/
theorem Tracks.finish {program : Owning Answer κ α} {plain : Program Answer β}
    {next : α → Owning Answer κ γ} {middle : α → β → Finset (Block κ) → Prop}
    {ends : γ → β → Finset (Block κ) → Prop} (first : Tracks admitted live program plain middle)
    (rest : ∀ value result after, middle value result after →
      Tracks admitted after (next value) (Pure.pure result) ends) :
    Tracks admitted live (program >>= next) plain ends := by
  rw [← plain.bind_pure]
  exact first.bind rest

/-- A part that asks for nothing, before the rest. -/
theorem Tracks.silent {program : Owning Answer κ α} {next : α → Owning Answer κ γ}
    {plain : Program Answer β} {middle : α → Finset (Block κ) → Prop}
    {ends : γ → β → Finset (Block κ) → Prop}
    (first : Tracks admitted live program (Pure.pure () : Program Answer Unit)
      fun value _ after => middle value after)
    (rest : ∀ value after, middle value after → Tracks admitted after (next value) plain ends) :
    Tracks admitted live (program >>= next) plain ends := by
  have both : Tracks admitted live (program >>= next)
      ((Pure.pure () : Program Answer Unit) >>= fun _ => plain) ends :=
    first.bind fun value _ after reached => rest value after reached
  exact both

theorem Tracks.leaves {program : Owning Answer κ Unit} {next : Unit → Owning Answer κ α}
    {plain : Program Answer β} {after : Finset (Block κ)} {ends : α → β → Finset (Block κ) → Prop}
    (first : Leaves admitted live program after)
    (rest : Tracks admitted after (next ()) plain ends) :
    Tracks admitted live (program >>= next) plain ends :=
  first.silent fun _ _ same => same ▸ rest

theorem Tracks.cleaningUp {cleanup : Owning Answer κ Unit} {body : Owning Answer κ α}
    {plain : Program Answer β} {middle ends : α → β → Finset (Block κ) → Prop}
    (first : Tracks admitted live body plain middle)
    (clean : ∀ value result held, middle value result held →
      ∃ after, Leaves admitted held cleanup after ∧ ends value result after) :
    Tracks admitted live (Owning.cleaningUp cleanup body) plain ends := by
  refine first.finish fun value result held reached => ?_
  obtain ⟨after, leaves, ended⟩ := clean value result held reached
  exact .leaves leaves (.pure ended)

theorem Tracks.ite {condition : Prop} [Decidable condition] {accepted refused : Owning Answer κ α}
    {plain other : Program Answer β} {ends : α → β → Finset (Block κ) → Prop}
    (taken : condition → Tracks admitted live accepted plain ends)
    (left : ¬ condition → Tracks admitted live refused other ends) :
    Tracks admitted live (if condition then accepted else refused)
      (if condition then plain else other) ends := by
  by_cases holds : condition
  · rw [if_pos holds, if_pos holds]
    exact taken holds
  · rw [if_neg holds, if_neg holds]
    exact left holds

/-- An operation asked for by both. -/
theorem Tracks.perform {op : Op} {next : Answer op → Owning Answer κ α}
    {other : Answer op → Program Answer β} {ends : α → β → Finset (Block κ) → Prop}
    (rest : ∀ answer, admitted op answer → Tracks admitted live (next answer) (other answer) ends) :
    Tracks admitted live (liftM (Program.perform op : Program Answer (Answer op)) >>= next)
      (Program.perform op >>= other) ends :=
  fun heap sound same => .call op fun answer given => rest answer given heap sound same

theorem Tracks.last {program : Owning Answer κ α} {plain : Program Answer β}
    {ends : α → β → Finset (Block κ) → Prop}
    (tracks : Tracks admitted live program (plain >>= Pure.pure) ends) :
    Tracks admitted live program plain ends :=
  plain.bind_pure ▸ tracks

/-- An operation that ends both. -/
theorem Tracks.operation {op : Op} :
    Tracks admitted live (liftM (Program.perform op : Program Answer (Answer op)) : Owning Answer κ _)
      (Program.perform op) (Restores live) :=
  fun _ sound same => .call op fun _ _ => .done ⟨sound, rfl, rfl, same⟩

theorem Tracks.reads {program : Owning Answer κ α} {value : α} {next : α → Owning Answer κ β}
    {plain : Program Answer γ} {ends : β → γ → Finset (Block κ) → Prop}
    (reads : Reads live program value) (rest : Tracks admitted live (next value) plain ends) :
    Tracks admitted live (program >>= next) plain ends := by
  intro heap sound same
  have later := rest heap sound same
  show Lockstep _ _ (program heap >>= fun ended => next ended.1 ended.2) _
  rw [reads heap same.ge]
  exact later

section Blocks

variable [DecidableEq κ] {plain : Program Answer γ} {ends : β → γ → Finset (Block κ) → Prop}

theorem Reads.access (held : block ∈ live) :
    Reads live (Owning.access block : Owning Answer κ Unit) () := by
  intro heap within
  simp only [Owning.access, Heap.access_live (within held)]

theorem Reads.reach {pointer : Option (Block κ)} (given : pointer = some block) (held : block ∈ live) :
    Reads live (Owning.reach pointer : Owning Answer κ Unit) () :=
  given ▸ .access held

theorem Reads.read {borrowed : Borrowed κ α} (held : ∀ owner ∈ borrowed.owner, owner ∈ live) :
    Reads live (Owning.read borrowed : Owning Answer κ α) borrowed.target := by
  unfold Owning.read
  cases owned : borrowed.owner with
  | none => exact .pure _
  | some owner => exact .bind (.access (held owner owned)) (.pure _)

theorem Reads.examine {owner : Option (Block κ)} {target : Option α}
    (held : target ≠ none → ∀ block ∈ owner, block ∈ live) :
    Reads live
      (Owning.examine (target.map fun target => { owner, target }) : Owning Answer κ (Option α))
      target := by
  cases target with
  | none => exact .pure _
  | some target => exact .bind (.read (held (by simp))) (.pure _)

theorem Tracks.acquire {kind : κ} {next : Block κ → Owning Answer κ β}
    (rest : ∀ block, block ∉ live → block.kind = kind →
      Tracks admitted (insert block live) (next block) plain ends) :
    Tracks admitted live (Owning.acquire kind >>= next) plain ends := by
  intro heap sound same
  subst same
  exact rest (heap.acquire kind).1 (sound.fresh kind) rfl (heap.acquire kind).2
    (sound.acquire kind) rfl

theorem Tracks.acquired {kind : κ} :
    Tracks admitted live (Owning.acquire kind) (Pure.pure () : Program Answer Unit)
      fun block _ after => block ∉ live ∧ block.kind = kind ∧ after = insert block live := by
  intro heap sound same
  subst same
  exact .done ⟨sound.acquire kind, rfl, sound.fresh kind, rfl, rfl⟩

theorem Tracks.release {kind : κ} {next : Unit → Owning Answer κ β} (held : block ∈ live)
    (released : block.kind = kind)
    (rest : Tracks admitted (live.erase block) (next ()) plain ends) :
    Tracks admitted live (Owning.release kind block >>= next) plain ends := by
  intro heap sound same
  subst same released
  have after := rest { heap with live := heap.live.erase block } (sound.erase block) rfl
  show Lockstep _ _ (next () (heap.release block.kind block)) _
  rw [Heap.release_live held]
  exact after

theorem Tracks.adopt {parent : Block κ} {next : Unit → Owning Answer κ β} (kept : parent ∈ live)
    (held : block ∈ live) (rest : Tracks admitted (live.erase block) (next ()) plain ends) :
    Tracks admitted live (Owning.adopt parent block >>= next) plain ends := by
  intro heap sound same
  subst same
  have after := rest { heap with live := heap.live.erase block } (sound.erase block) rfl
  show Lockstep _ _ (next () (heap.adopt parent block)) _
  rw [Heap.adopt_live kept held]
  exact after

theorem Leaves.release {kind : κ} (held : block ∈ live) (released : block.kind = kind) :
    Leaves admitted live (Owning.release kind block) (live.erase block) := by
  intro heap sound same
  subst same released
  refine .done ⟨?_, ?_, ?_⟩
  · exact Heap.release_live held ▸ sound.erase block
  · rw [Heap.release_live held]
  · rw [Heap.release_live held]

/-- The release of the last block that was acquired. -/
theorem Leaves.released {kind : κ} (fresh : block ∉ live) (released : block.kind = kind) :
    Leaves admitted (insert block live) (Owning.release kind block) live := by
  have last : Leaves admitted (insert block live) (Owning.release kind block) _ :=
    .release (Finset.mem_insert_self _ _) released
  rwa [Finset.erase_insert fresh] at last

theorem Tracks.released {kind : κ} {next : Unit → Owning Answer κ β} (fresh : block ∉ live)
    (released : block.kind = kind) (rest : Tracks admitted live (next ()) plain ends) :
    Tracks admitted (insert block live) (Owning.release kind block >>= next) plain ends :=
  .leaves (.released fresh released) rest

/-- A block that lives as long as the body that uses it. -/
theorem Tracks.scoped {kind : κ} {body : Block κ → Owning Answer κ α} {plain : Program Answer α}
    (rest : ∀ block, block ∉ live → Tracks admitted (insert block live) (body block) plain
      (Restores (insert block live))) :
    Tracks admitted live
      (Owning.acquire kind >>= fun block => Owning.cleaningUp (Owning.release kind block) (body block))
      plain (Restores live) := by
  refine .acquire fun block fresh released => .cleaningUp (rest block fresh) ?_
  intro value result held restored
  obtain ⟨same, rfl⟩ := restored
  exact ⟨live, .released fresh released, same, rfl⟩

end Blocks

end Rules

end Owning

end Library
