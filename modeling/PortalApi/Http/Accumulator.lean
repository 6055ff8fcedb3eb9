import PortalApi.Http.Request

/-! The body accumulator of `request.c`: its buffer stays large enough for the
content and its terminator, and none of its arithmetic wraps around. -/

set_option autoImplicit false

namespace PortalApi

open Library

/-- The largest accepted body, in bytes. -/
def maxBody : Nat := 1048576

theorem portalHttpMaxBodySize_toNat : portalHttpMaxBodySize.toNat = maxBody := by decide

/-- The buffer holds the content and a terminator, or has not been allocated. -/
structure PortalHttpRequestBody.WellFormed (body : PortalHttpRequestBody) : Prop where
  allocated : body.data.length = body.capacity.toNat
  length_le : body.length.toNat ≤ maxBody
  capacity_le : body.capacity.toNat ≤ 2 * maxBody
  room : body.capacity.toNat = 0 ∧ body.length.toNat = 0 ∨
    body.length.toNat < body.capacity.toNat

theorem PortalHttpRequestBody.zeroed_wellFormed : zeroed.WellFormed where
  allocated := rfl
  length_le := by decide
  capacity_le := by decide
  room := .inl ⟨rfl, rfl⟩

theorem PortalHttpRequestBody.WellFormed.length_content {body : PortalHttpRequestBody}
    (wellFormed : body.WellFormed) : body.content.length = body.length.toNat := by
  have allocated := wellFormed.allocated
  have room := wellFormed.room
  simp only [PortalHttpRequestBody.content, List.length_take]
  omega

/-- The loop `while (capacity < required) capacity *= 2`, from a capacity to the
one it leaves, where no doubling wraps around. -/
inductive ExactDoubling (required : UInt64) : UInt64 → UInt64 → Prop where
  | enough {capacity : UInt64} : required ≤ capacity → ExactDoubling required capacity capacity
  | doubled {capacity result : UInt64} : capacity < required →
      (capacity * 2).toNat = capacity.toNat * 2 →
      ExactDoubling required (capacity * 2) result → ExactDoubling required capacity result

theorem ExactDoubling.reaches {required capacity result : UInt64}
    (doubling : ExactDoubling required capacity result) : required.toNat ≤ result.toNat := by
  induction doubling with
  | enough reached => exact UInt64.le_iff_toNat_le.mp reached
  | doubled _ _ _ ih => exact ih

theorem ExactDoubling.power {required capacity result : UInt64}
    (doubling : ExactDoubling required capacity result) :
    ∃ times, result.toNat = capacity.toNat * 2 ^ times := by
  induction doubling with
  | enough _ => exact ⟨0, by simp⟩
  | doubled _ exact_ _ ih =>
      obtain ⟨times, same⟩ := ih
      exact ⟨times + 1, by rw [same, exact_, Nat.mul_assoc, ← Nat.pow_succ']⟩

/-- What has to be doubled for a body ends at less than twice what is required. -/
theorem ExactDoubling.within {required capacity result : UInt64} {bound : Nat}
    (doubling : ExactDoubling required capacity result) (needed : required.toNat ≤ bound + 1)
    (within : capacity.toNat ≤ 2 * bound) : result.toNat ≤ 2 * bound := by
  induction doubling with
  | enough _ => exact within
  | doubled short exact_ _ ih =>
      apply ih
      have less := UInt64.lt_iff_toNat_lt.mp short
      omega

/-- The capacity doubles until it is enough, and never shifts a bit out. -/
theorem doubleUntil_spec (required capacity : UInt64) (fuel : Nat)
    (bounded : required.toNat ≤ maxBody + 1)
    (enough : required.toNat ≤ capacity.toNat * 2 ^ fuel) :
    ∃ result, doubleUntil required fuel capacity = some result ∧
      ExactDoubling required capacity result := by
  induction fuel generalizing capacity with
  | zero =>
      have reached : required ≤ capacity := by
        rw [UInt64.le_iff_toNat_le]
        omega
      exact ⟨capacity, if_neg (UInt64.not_lt.mpr reached), .enough reached⟩
  | succ fuel ih =>
      by_cases short : capacity < required
      · have small : capacity.toNat < required.toNat := UInt64.lt_iff_toNat_lt.mp short
        have doubled : (capacity * 2).toNat = capacity.toNat * 2 := by
          rw [UInt64.toNat_mul]
          simp only [maxBody] at *
          exact Nat.mod_eq_of_lt (by simp; omega)
        obtain ⟨result, reached, doubling⟩ := ih (capacity * 2)
          (by rw [doubled, Nat.mul_assoc, ← Nat.pow_succ']; exact enough)
        refine ⟨result, ?_, .doubled short doubled doubling⟩
        simpa only [doubleUntil, short, ↓reduceIte] using reached
      · exact ⟨capacity, by simp only [doubleUntil, short, ↓reduceIte],
          .enough (UInt64.not_lt.mp short)⟩

theorem length_overwrite {buffer data : Bytes} {start : Nat}
    (fits : start + data.length ≤ buffer.length) :
    (overwrite buffer start data).length = buffer.length := by
  simp only [overwrite, List.length_append, List.length_take, List.length_drop]
  omega

theorem take_overwrite {buffer data : Bytes} {start : Nat} (fits : start ≤ buffer.length) :
    (overwrite buffer start data).take (start + data.length) = buffer.take start ++ data := by
  have length : (buffer.take start ++ data).length = start + data.length := by
    simp only [List.length_append, List.length_take]
    omega
  rw [overwrite, ← length, List.take_left']
  rfl

theorem take_overwrite_of_le {buffer data : Bytes} {start size : Nat} (fits : start ≤ buffer.length)
    (before : size ≤ start) : (overwrite buffer start data).take size = buffer.take size := by
  have length : size ≤ (buffer.take start).length := by
    simp only [List.length_take]
    omega
  rw [overwrite, List.append_assoc, List.take_append_of_le_length length, List.take_take,
    Nat.min_eq_left before]

theorem PortalHttpRequestBody.store_length {body : PortalHttpRequestBody} {data : Bytes}
    (limited : body.length.toNat + data.length ≤ maxBody) :
    (body.length + UInt64.ofNat data.length).toNat = body.length.toNat + data.length := by
  rw [UInt64.toNat_add, UInt64.toNat_ofNat']
  simp only [maxBody] at *
  omega

theorem PortalHttpRequestBody.WellFormed.store_spec {body : PortalHttpRequestBody}
    (wellFormed : body.WellFormed) (data : Bytes)
    (limited : body.length.toNat + data.length ≤ maxBody)
    (room : body.length.toNat + data.length < body.capacity.toNat) :
    (body.store data).WellFormed ∧ (body.store data).content = body.content ++ data := by
  have length := store_length limited
  have allocated := wellFormed.allocated
  have copied : (overwrite body.data body.length.toNat data).length = body.data.length :=
    length_overwrite (by omega)
  constructor
  · constructor
    · simp only [PortalHttpRequestBody.store, length]
      rw [length_overwrite (by simp only [copied, List.length_singleton]; omega), copied, allocated]
    · simpa only [PortalHttpRequestBody.store, length] using limited
    · exact wellFormed.capacity_le
    · right
      simpa only [PortalHttpRequestBody.store, length] using room
  · simp only [PortalHttpRequestBody.store, PortalHttpRequestBody.content, length]
    rw [take_overwrite_of_le (by omega) (Nat.le_refl _), take_overwrite (by omega)]

theorem Environment.realloc_some {environment : Environment} {buffer resized : Bytes}
    {size : UInt64} (granted : environment.realloc buffer size = some resized)
    (larger : buffer.length ≤ size.toNat) :
    resized.length = size.toNat ∧ resized.take buffer.length = buffer := by
  unfold Environment.realloc at granted
  split at granted
  · obtain rfl := Option.some.inj granted
    have kept : buffer.take size.toNat = buffer := List.take_of_length_le larger
    rw [kept]
    constructor
    · simp only [List.length_append, List.length_map, List.length_range]
      omega
    · exact List.take_left' rfl
  · cases granted

theorem PortalHttpRequestBody.store_terminated {body : PortalHttpRequestBody} {data : Bytes}
    (allocated : body.data.length = body.capacity.toNat)
    (limited : body.length.toNat + data.length ≤ maxBody)
    (room : body.length.toNat + data.length < body.capacity.toNat) :
    (body.store data).data[(body.store data).length.toNat]? = some 0 := by
  have length := store_length limited
  have copied : (overwrite body.data body.length.toNat data).length = body.data.length :=
    length_overwrite (by omega)
  simp only [PortalHttpRequestBody.store, length]
  rw [overwrite, List.append_assoc, List.getElem?_append_right (by simp), List.length_take, copied,
    Nat.min_eq_left (by omega), Nat.sub_self]
  rfl

/-! ### One append -/

/-- `size_t required`: the content with the new data and a terminator. -/
def PortalHttpRequestBody.required (body : PortalHttpRequestBody) (size : UInt64) : UInt64 :=
  body.length + size + 1

/-- The capacity that is doubled. -/
def PortalHttpRequestBody.initialCapacity (body : PortalHttpRequestBody) : UInt64 :=
  if body.capacity = 0 then 4096 else body.capacity

/-- The four ways an append with a data pointer ends. -/
inductive Append (environment : Environment) (body : PortalHttpRequestBody) (data : Bytes)
    (size : UInt64) : Bool × PortalHttpRequestBody → Prop where
  | tooLarge : maxBody < body.length.toNat + size.toNat →
      Append environment body data size (false, body)
  | fits : body.length.toNat + size.toNat ≤ maxBody →
      body.length.toNat + size.toNat < body.capacity.toNat →
      Append environment body data size (true, body.store data)
  | grown {capacity : UInt64} {resized : Bytes} : body.length.toNat + size.toNat ≤ maxBody →
      body.capacity.toNat ≤ body.length.toNat + size.toNat →
      doubleUntil (body.required size) 64 body.initialCapacity = some capacity →
      environment.realloc body.data capacity = some resized →
      Append environment body data size
        (true, PortalHttpRequestBody.store { body with data := resized, capacity } data)
  | unavailable {capacity : UInt64} : body.length.toNat + size.toNat ≤ maxBody →
      body.capacity.toNat ≤ body.length.toNat + size.toNat →
      doubleUntil (body.required size) 64 body.initialCapacity = some capacity →
      environment.realloc body.data capacity = none → Append environment body data size (false, body)

section Append

variable (postgres : Postgres) (environment : Environment) (exchange : Exchange)
  {body : PortalHttpRequestBody} {data : Bytes} {size : UInt64}

/-- The guard's subtraction does not wrap around. -/
theorem PortalHttpRequestBody.WellFormed.left (wellFormed : body.WellFormed) :
    (portalHttpMaxBodySize - body.length).toNat = maxBody - body.length.toNat := by
  rw [UInt64.toNat_sub_of_le, portalHttpMaxBodySize_toNat]
  rw [UInt64.le_iff_toNat_le, portalHttpMaxBodySize_toNat]
  exact wellFormed.length_le

theorem PortalHttpRequestBody.required_toNat (limited : body.length.toNat + size.toNat ≤ maxBody) :
    (body.required size).toNat = body.length.toNat + size.toNat + 1 := by
  rw [required, UInt64.toNat_add, UInt64.toNat_add]
  simp only [maxBody, UInt64.toNat_one] at *
  omega

theorem PortalHttpRequestBody.WellFormed.initialCapacity (wellFormed : body.WellFormed) :
    body.initialCapacity.toNat ≤ 2 * maxBody ∧ 0 < body.initialCapacity.toNat := by
  unfold PortalHttpRequestBody.initialCapacity
  split
  · decide
  · next allocatedBefore =>
      refine ⟨wellFormed.capacity_le, Nat.pos_of_ne_zero fun zero => allocatedBefore ?_⟩
      exact UInt64.toNat_inj.mp zero

/-- The loop ends, and no doubling wraps around. -/
theorem PortalHttpRequestBody.WellFormed.doubles (wellFormed : body.WellFormed)
    (limited : body.length.toNat + size.toNat ≤ maxBody) :
    ∃ capacity, doubleUntil (body.required size) 64 body.initialCapacity = some capacity ∧
      ExactDoubling (body.required size) body.initialCapacity capacity := by
  have positive := wellFormed.initialCapacity.2
  apply doubleUntil_spec
  · rw [required_toNat limited]
    omega
  · rw [required_toNat limited]
    simp only [maxBody] at limited
    omega

theorem PortalHttpRequestBody.WellFormed.doubling (wellFormed : body.WellFormed)
    {capacity : UInt64} (limited : body.length.toNat + size.toNat ≤ maxBody)
    (doubled : doubleUntil (body.required size) 64 body.initialCapacity = some capacity) :
    ExactDoubling (body.required size) body.initialCapacity capacity := by
  obtain ⟨other, same, doubling⟩ := wellFormed.doubles limited
  rw [doubled] at same
  exact Option.some.inj same ▸ doubling

/-- A buffer that grew holds what it held. -/
theorem PortalHttpRequestBody.WellFormed.resized (wellFormed : body.WellFormed)
    {capacity : UInt64} {resized : Bytes} (limited : body.length.toNat + size.toNat ≤ maxBody)
    (needed : body.capacity.toNat ≤ body.length.toNat + size.toNat)
    (doubled : doubleUntil (body.required size) 64 body.initialCapacity = some capacity)
    (granted : environment.realloc body.data capacity = some resized) :
    PortalHttpRequestBody.WellFormed { body with data := resized, capacity } ∧
      PortalHttpRequestBody.content { body with data := resized, capacity } = body.content ∧
      body.length.toNat + size.toNat < capacity.toNat := by
  have allocated := wellFormed.allocated
  have required := PortalHttpRequestBody.required_toNat limited
  have doubling := wellFormed.doubling limited doubled
  have reaches := doubling.reaches
  obtain ⟨length, kept⟩ := Environment.realloc_some granted (by omega)
  have holds : body.length.toNat ≤ body.data.length := by
    have room := wellFormed.room
    omega
  refine ⟨⟨length, wellFormed.length_le, doubling.within (by omega) wellFormed.initialCapacity.1,
    .inr ?_⟩, ?_, by omega⟩
  · simp only
    omega
  · simp only [PortalHttpRequestBody.content]
    rw [← kept, List.take_take, Nat.min_eq_left holds]

theorem run_portalHttpRequestBodyAppend (wellFormed : body.WellFormed) (data : Bytes)
    (size : UInt64) :
    ∃ outcome, (portalHttpRequestBodyAppend body (some data) size).run
        (interpret postgres environment) exchange = (some outcome, exchange) ∧
      Append environment body data size outcome := by
  unfold portalHttpRequestBodyAppend
  simp only
  by_cases large : size > portalHttpMaxBodySize - body.length
  · have exceeds : maxBody - body.length.toNat < size.toNat := by
      rw [← wellFormed.left]
      exact UInt64.lt_iff_toNat_lt.mp large
    rw [if_pos large]
    exact ⟨_, rfl, .tooLarge (by omega)⟩
  rw [if_neg large]
  have limited : body.length.toNat + size.toNat ≤ maxBody := by
    have small : ¬ maxBody - body.length.toNat < size.toNat := by
      rw [← wellFormed.left]
      exact fun less => large (UInt64.lt_iff_toNat_lt.mpr less)
    have length_le := wellFormed.length_le
    omega
  have required : (body.length + size + 1).toNat = body.length.toNat + size.toNat + 1 :=
    PortalHttpRequestBody.required_toNat limited
  by_cases short : body.length + size + 1 > body.capacity
  · have needed := UInt64.lt_iff_toNat_lt.mp short
    obtain ⟨capacity, doubled, _⟩ := wellFormed.doubles limited
    have grows : doubleUntil (body.length + size + 1) 64
        (if body.capacity = 0 then 4096 else body.capacity) = some capacity := doubled
    rw [if_pos short]
    simp only [grows, Program.run_bind, run_realloc]
    cases granted : environment.realloc body.data capacity with
    | none => exact ⟨_, rfl, .unavailable limited (by omega) doubled granted⟩
    | some resized => exact ⟨_, rfl, .grown limited (by omega) doubled granted⟩
  · rw [if_neg short]
    have enough : ¬ body.capacity.toNat < body.length.toNat + size.toNat + 1 := by
      rw [← required]
      exact fun less => short (UInt64.lt_iff_toNat_lt.mpr less)
    exact ⟨_, rfl, .fits limited (by omega)⟩

variable {environment}

/-- The buffer behind a body: none, or a power of two of pages that ends in a terminator. -/
def PortalHttpRequestBody.Buffered (body : PortalHttpRequestBody) : Prop :=
  (body.data = [] ∧ body.length = 0 ∧ body.capacity = 0) ∨
    ((∃ times, body.capacity.toNat = 4096 * 2 ^ times) ∧
      body.data[body.length.toNat]? = some 0)

theorem PortalHttpRequestBody.Buffered.initialCapacity (buffered : body.Buffered) :
    ∃ times, body.initialCapacity.toNat = 4096 * 2 ^ times := by
  unfold PortalHttpRequestBody.initialCapacity
  split
  · exact ⟨0, by decide⟩
  · next allocated =>
      rcases buffered with none | some
      · exact absurd none.2.2 allocated
      · exact some.1

/-- One append keeps the buffer, and takes the data in exactly when it returns true. -/
theorem Append.keeps {outcome : Bool × PortalHttpRequestBody}
    (append : Append environment body data size outcome)
    (wellFormed : body.WellFormed) (buffered : body.Buffered)
    (readable : size.toNat ≤ maxBody → data.length = size.toNat) :
    outcome.2.WellFormed ∧ outcome.2.Buffered ∧
      outcome.2.content = body.content ++ if outcome.1 then data else [] := by
  cases append with
  | tooLarge _ => exact ⟨wellFormed, buffered, by simp⟩
  | unavailable _ _ _ _ => exact ⟨wellFormed, buffered, by simp⟩
  | fits limited room =>
      have sized := readable (by omega)
      rw [← sized] at limited room
      have stored := wellFormed.store_spec data limited room
      refine ⟨stored.1, .inr ⟨?_, ?_⟩, stored.2⟩
      · rcases buffered with none | some
        · rw [none.2.2] at room
          exact absurd room (Nat.not_lt_zero _)
        · exact some.1
      · exact PortalHttpRequestBody.store_terminated wellFormed.allocated limited room
  | grown limited needed doubled granted =>
      have sized := readable (by omega)
      obtain ⟨resized, content, room⟩ := wellFormed.resized environment limited needed doubled granted
      obtain ⟨times, power⟩ := (wellFormed.doubling limited doubled).power
      obtain ⟨before, initial⟩ := buffered.initialCapacity
      rw [← sized] at limited room
      have stored := resized.store_spec data limited room
      refine ⟨stored.1, .inr ⟨⟨before + times, ?_⟩, ?_⟩, content ▸ stored.2⟩
      · simp only [PortalHttpRequestBody.store]
        rw [power, initial, Nat.mul_assoc, ← Nat.pow_add]
      · exact PortalHttpRequestBody.store_terminated resized.allocated limited room

theorem Append.unchanged {outcome : Bool × PortalHttpRequestBody}
    (append : Append environment body data size outcome)
    (refused : outcome.1 = false) : outcome.2 = body := by
  cases append with
  | tooLarge _ => rfl
  | unavailable _ _ _ _ => rfl
  | fits _ _ => cases refused
  | grown _ _ _ _ => cases refused

/-- An append is refused for its size, or for want of memory that it needs. -/
theorem Append.refused_iff {outcome : Bool × PortalHttpRequestBody}
    (append : Append environment body data size outcome) :
    outcome.1 = false ↔ maxBody < body.length.toNat + size.toNat ∨
      (body.capacity < body.required size ∧
        ∃ capacity, doubleUntil (body.required size) 64 body.initialCapacity = some capacity ∧
          environment.realloc body.data capacity = none) := by
  cases append with
  | tooLarge large => exact iff_of_true rfl (.inl large)
  | unavailable limited needed doubled failed =>
      refine iff_of_true rfl (.inr ⟨?_, _, doubled, failed⟩)
      rw [UInt64.lt_iff_toNat_lt, PortalHttpRequestBody.required_toNat limited]
      omega
  | fits limited room =>
      refine iff_of_false nofun ?_
      intro refused
      rcases refused with large | ⟨short, -⟩
      · omega
      · rw [UInt64.lt_iff_toNat_lt, PortalHttpRequestBody.required_toNat limited] at short
        omega
  | grown limited needed doubled granted =>
      refine iff_of_false nofun ?_
      intro refused
      rcases refused with large | ⟨-, _, same, failed⟩
      · omega
      · rw [doubled] at same
        obtain rfl := Option.some.inj same
        rw [granted] at failed
        cases failed

end Append

end PortalApi
