import PortalApi.Http.Request
import PortalApi.Memory.Response

/-! `request.c` with the memory it handles: the body and its buffer, the tokener,
and the JSON object that the texts of a request are borrowed from. -/

set_option autoImplicit false

namespace PortalApi.Memory

open Library Owning

/-- `const char *` into memory of another owner. -/
abbrev Text := Borrowed Resource Bytes

/-- The body of a request: its block, the block of its data unless that is NULL,
and what is in them. -/
structure PortalHttpRequestBody where
  block : Block Resource
  data : Option (Block Resource)
  fields : PortalApi.PortalHttpRequestBody

/-- A successful `realloc` gives the old block back. -/
def reallocated (data : Option (Block Resource)) : Managed (Block Resource) := do
  relinquish .bodyBuffer data
  acquire .bodyBuffer

def PortalHttpRequestBody.store (body : PortalHttpRequestBody) (data : Bytes) :
    Managed PortalHttpRequestBody := do
  reach body.data
  return { body with fields := body.fields.store data }

def portalHttpRequestBodyAppend (body : PortalHttpRequestBody) (data : Option Bytes)
    (size : UInt64) : Managed (Option (Bool × PortalHttpRequestBody)) :=
  match data with
  | none => return some (false, body)
  | some data => do
    access body.block
    if size > portalHttpMaxBodySize - body.fields.length then
      return some (false, body)
    else
      let required := body.fields.length + size + 1
      if required > body.fields.capacity then
        match doubleUntil required 64
            (if body.fields.capacity = 0 then 4096 else body.fields.capacity) with
        | none => return none
        | some capacity =>
          match ← realloc body.fields.data capacity with
          | none => return some (false, body)
          | some resized => do
            let buffer ← reallocated body.data
            let grown : PortalHttpRequestBody :=
              { body with data := some buffer, fields := { body.fields with data := resized, capacity } }
            return some (true, ← grown.store data)
      else
        return some (true, ← body.store data)

/-- The caller's pointer is set to NULL. -/
def portalHttpRequestBodyDestroy (body : Option PortalHttpRequestBody) :
    Managed (Option PortalHttpRequestBody) := do
  match body with
  | none => return none
  | some body => do
    access body.block
    relinquish .bodyBuffer body.data
    release .requestBody body.block
    return none

/-- What the parse is left with: the tree it returned, given back unless it is the
one object of the body. -/
def portalHttpRequestParseJson (jsonC : JsonC) (body : PortalHttpRequestBody) :
    Managed (Option JsonPointer) := do
  access body.block
  let content := body.fields.content
  if content.length = 0 || content.length > intMax then
    return none
  else if ← allocate .jsonTokener then
    let tokener ← acquire .jsonTokener
    reach body.data
    match (jsonC.parseEx content).json with
    | none => do
      access tokener
      release .jsonTokener tokener
      return none
    | some json => do
      let block ← acquire .jsonObject
      access tokener
      reach body.data
      release .jsonTokener tokener
      access block
      match parsedObject jsonC content with
      | none => do
        release .jsonObject block
        return none
      | some _ => return some { block, target := json }
  else return none

/-- The text belongs to the object. -/
def portalHttpJsonString (json : Option JsonPointer) (key : Bytes)
    (minimumLength maximumLength : Nat) : Managed (Option Text) :=
  match json with
  | none => return none
  | some json => do
    access json.block
    return (PortalApi.portalHttpJsonString (some json.target) key minimumLength maximumLength).map
      fun target => { owner := some json.block, target }

def portalHttpJsonOptionalString (json : Option JsonPointer) (key : Bytes) (maximumLength : Nat) :
    Managed (Option Text) :=
  match json with
  | none => return none
  | some json => do
    access json.block
    return (PortalApi.portalHttpJsonOptionalString (some json.target) key maximumLength).map
      fun target => { owner := some json.block, target }

/-- A body and its blocks beside the other live ones. -/
inductive Holds (rest : Finset (Block Resource)) :
    PortalHttpRequestBody → Finset (Block Resource) → Prop where
  | bare {block : Block Resource} {fields : PortalApi.PortalHttpRequestBody} : block ∉ rest →
      block.kind = .requestBody → fields.capacity = 0 → fields.length = 0 →
      Holds rest { block, data := none, fields } (insert block rest)
  | filled {block data : Block Resource} {fields : PortalApi.PortalHttpRequestBody} :
      block ∉ rest → block.kind = .requestBody → data ∉ insert block rest →
      data.kind = .bodyBuffer →
      Holds rest { block, data := some data, fields } (insert data (insert block rest))

/-- A parsed object beside the other live blocks. -/
inductive Parsed (live : Finset (Block Resource)) :
    Option JsonPointer → Option Json → Finset (Block Resource) → Prop where
  | null : Parsed live none none live
  | object {block : Block Resource} {json : Json} : block ∉ live → block.kind = .jsonObject →
      Parsed live (some { block, target := json }) (some json) (insert block live)

section Tracks

variable {admitted : (operation : Operation) → operation.Answer → Prop}
  {rest live : Finset (Block Resource)} {body : PortalHttpRequestBody}

/-- What an append returns, and the body it leaves beside the other live blocks. -/
inductive Appended (rest live : Finset (Block Resource)) :
    Option (Bool × PortalHttpRequestBody) → Option (Bool × PortalApi.PortalHttpRequestBody) →
      Finset (Block Resource) → Prop where
  | hangs : Appended rest live none none live
  | returns {stored : Bool} {body : PortalHttpRequestBody} {after : Finset (Block Resource)} :
      Holds rest body after → Appended rest live (some (stored, body)) (some (stored, body.fields)) after

theorem Holds.block_mem (holds : Holds rest body live) : body.block ∈ live := by
  cases holds <;> simp

theorem Holds.data_mem (holds : Holds rest body live) : ∀ block ∈ body.data, block ∈ live := by
  cases holds with
  | bare _ _ _ _ => simp
  | filled _ _ _ _ => simp

/-- The block of the body is live with the others when its data are given back. -/
theorem Holds.relinquish (holds : Holds rest body live) :
    Leaves admitted live (Owning.relinquish .bodyBuffer body.data) (insert body.block rest) := by
  cases holds with
  | bare _ _ _ _ => exact .pure rfl
  | filled _ _ fresh kind => exact .released fresh kind

theorem Holds.reallocated (holds : Holds rest body live) :
    Tracks admitted live (reallocated body.data) (pure () : Handler Unit) fun data _ after =>
      ∀ fields, Holds rest { body with data := some data, fields } after := by
  have block : body.block ∉ rest ∧ body.block.kind = .requestBody := by
    cases holds <;> exact ⟨by assumption, by assumption⟩
  refine .leaves holds.relinquish (Tracks.acquired.mono fun data _ after acquired fields => ?_)
  obtain ⟨fresh, kind, rfl⟩ := acquired
  exact .filled block.1 block.2 fresh kind

/-- The flag of a body is not memory. -/
theorem Holds.marked (holds : Holds rest body live) :
    Holds rest { body with fields := { body.fields with responseQueued := true } } live := by
  cases holds with
  | bare block kind capacity length => exact .bare block kind capacity length
  | filled block kind data dataKind => exact .filled block kind data dataKind

theorem Holds.store (holds : Holds rest body live) (content : Bytes) (allocated : body.data ≠ none) :
    Holds rest { body with fields := body.fields.store content } live := by
  cases holds with
  | bare _ _ _ _ => exact absurd rfl allocated
  | filled block kind data dataKind => exact .filled block kind data dataKind

/-- The data are written where there is a buffer. -/
theorem PortalHttpRequestBody.store_reads (content : Bytes) (allocated : body.data ≠ none)
    (held : ∀ block ∈ body.data, block ∈ live) :
    Reads live (body.store content) { body with fields := body.fields.store content } := by
  unfold PortalHttpRequestBody.store
  cases given : body.data with
  | none => exact absurd given allocated
  | some block => exact .bind (.access (held block given)) (.pure _)

/-- A body with room for more and the terminator has a buffer. -/
theorem Holds.allocated (holds : Holds rest body live) {size : UInt64}
    (fits : ¬ size > portalHttpMaxBodySize - body.fields.length)
    (roomy : ¬ body.fields.length + size + 1 > body.fields.capacity) : body.data ≠ none := by
  cases holds with
  | filled _ _ _ _ => simp
  | bare _ _ capacity length =>
      simp only [length, capacity, gt_iff_lt, UInt64.not_lt, UInt64.le_iff_toNat_le,
        UInt64.toNat_add, UInt64.toNat_sub, portalHttpMaxBodySize] at fits roomy
      simp at fits roomy
      omega

theorem portalHttpRequestBodyAppend_tracks (holds : Holds rest body live) (data : Option Bytes)
    (size : UInt64) :
    Tracks admitted live (portalHttpRequestBodyAppend body data size)
      (PortalApi.portalHttpRequestBodyAppend body.fields data size) (Appended rest live) := by
  cases data with
  | none => exact .pure (.returns holds)
  | some data =>
      refine .reads (.access holds.block_mem) (.ite (fun _ => .pure (.returns holds)) fun fits => ?_)
      refine .ite (fun _ => ?_) fun roomy => ?_
      · generalize doubleUntil _ _ _ = capacity
        cases capacity with
        | none => exact .pure .hangs
        | some capacity =>
            refine .perform fun answer _ => ?_
            cases answer with
            | none => exact .pure (.returns holds)
            | some resized =>
                refine .silent holds.reallocated fun buffer after held => ?_
                have whole := held { body.fields with data := resized, capacity }
                exact .reads (PortalHttpRequestBody.store_reads data (by simp) whole.data_mem)
                  (.pure (.returns (held _)))
      · have allocated : body.data ≠ none := holds.allocated fits roomy
        refine .reads (PortalHttpRequestBody.store_reads data allocated holds.data_mem) (.pure (.returns ?_))
        exact holds.store data allocated

/-- The body and its data are given back, and nothing else. -/
theorem portalHttpRequestBodyDestroy_tracks (holds : Holds rest body live) :
    Tracks admitted live (portalHttpRequestBodyDestroy (some body)) (pure () : Handler Unit)
      fun left _ after => left = none ∧ after = rest := by
  have block : body.block ∉ rest ∧ body.block.kind = .requestBody := by
    cases holds <;> exact ⟨by assumption, by assumption⟩
  refine .reads (.access holds.block_mem) (.leaves holds.relinquish ?_)
  exact .released block.1 block.2 (.pure ⟨rfl, rfl⟩)

/-- A body whose content is not empty has a buffer. -/
theorem Holds.data_of_content (holds : Holds rest body live) (nonempty : body.fields.content.length ≠ 0) :
    ∃ data, body.data = some data ∧ data ∈ live := by
  cases holds with
  | bare _ _ _ length => simp [PortalApi.PortalHttpRequestBody.content, length] at nonempty
  | filled _ _ _ _ => exact ⟨_, rfl, Finset.mem_insert_self _ _⟩

theorem parsedObject_some {jsonC : JsonC} {content : Bytes} {json parsed : Json}
    (given : (jsonC.parseEx content).json = some json)
    (kept : parsedObject jsonC content = some parsed) : parsed = json := by
  simp only [parsedObject, given] at kept
  split at kept
  · cases kept
  · exact (Option.some.inj kept).symm

/-- The tokener is given back, and the tree too unless it is returned. -/
theorem portalHttpRequestParseJson_tracks (holds : Holds rest body live) (jsonC : JsonC) :
    Tracks admitted live (portalHttpRequestParseJson jsonC body)
      (PortalApi.portalHttpRequestParseJson jsonC body.fields.content) (Parsed live) := by
  refine .reads (.access holds.block_mem) (.ite (fun _ => .pure .null) fun sized => ?_)
  have nonempty : body.fields.content.length ≠ 0 := by
    simp only [Bool.or_eq_true, decide_eq_true_eq, not_or] at sized
    exact sized.1
  obtain ⟨data, given, buffer⟩ := holds.data_of_content nonempty
  refine .perform fun created _ => .ite (fun _ => ?_) fun _ => .pure .null
  refine .acquire fun tokener fresh kind => ?_
  have present : tokener ∈ insert tokener live := Finset.mem_insert_self _ _
  refine .reads (Reads.reach given (Finset.mem_insert_of_mem buffer)) ?_
  cases tree : (jsonC.parseEx body.fields.content).json with
  | none =>
      have refused : parsedObject jsonC body.fields.content = none := by simp [parsedObject, tree]
      rw [refused]
      exact .reads (.access present) (.released fresh kind (.pure .null))
  | some json =>
      refine .acquire fun block other jsonKind => .reads (.access (by simp)) ?_
      refine .reads (Reads.reach given (by simp [buffer])) (.release (by simp) kind ?_)
      have apart : tokener ≠ block := by
        intro same
        exact other (same ▸ present)
      have left : (insert block (insert tokener live)).erase tokener = insert block live := by
        rw [Finset.erase_insert_of_ne apart.symm, Finset.erase_insert fresh]
      have unused : block ∉ live := fun member => other (Finset.mem_insert_of_mem member)
      have held : block ∈ insert block live := Finset.mem_insert_self _ _
      rw [left]
      refine .reads (.access held) ?_
      cases kept : parsedObject jsonC body.fields.content with
      | none => exact .released unused jsonKind (.pure .null)
      | some parsed =>
          obtain rfl := parsedObject_some tree kept
          exact .pure (.object unused jsonKind)

/-- The object that the texts of a request belong to is live. -/
def JsonHeld (live : Finset (Block Resource)) (json : Option JsonPointer) : Prop :=
  ∀ pointer ∈ json, pointer.block ∈ live

/-- A text of the object, or NULL. -/
def textOf (json : Option JsonPointer) (text : Option Bytes) : Option Text :=
  text.map fun target => { owner := json.map (·.block), target }

variable {json : Option JsonPointer} {key : Bytes}

theorem JsonHeld.string (held : JsonHeld live json) (minimum maximum : Nat) :
    Reads live (portalHttpJsonString json key minimum maximum)
      (textOf json (PortalApi.portalHttpJsonString (json.map (·.target)) key minimum maximum)) := by
  cases json with
  | none => exact .pure _
  | some json => exact .bind (.access (held json rfl)) (.pure _)

theorem JsonHeld.optionalString (held : JsonHeld live json) (maximum : Nat) :
    Reads live (portalHttpJsonOptionalString json key maximum)
      (textOf json (PortalApi.portalHttpJsonOptionalString (json.map (·.target)) key maximum)) := by
  cases json with
  | none => exact .pure _
  | some json => exact .bind (.access (held json rfl)) (.pure _)

theorem JsonHeld.examine (held : JsonHeld live json) (text : Option Bytes) :
    Reads live (examine (textOf json text) : Managed _) text :=
  .examine fun _ owner member => by
    obtain ⟨pointer, given, rfl⟩ := Option.map_eq_some_iff.mp member
    exact held pointer given

theorem JsonHeld.text (held : JsonHeld live json) (text : Bytes) :
    Reads live (read { owner := json.map (·.block), target := text } : Managed _) text :=
  .read fun owner member => by
    obtain ⟨pointer, given, rfl⟩ := Option.map_eq_some_iff.mp member
    exact held pointer given

end Tracks

end PortalApi.Memory
