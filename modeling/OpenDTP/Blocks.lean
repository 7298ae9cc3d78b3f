import Mathlib.Data.List.Induction
import Mathlib.Tactic.Ring

/-! Lists cut into blocks of a fixed size. A consumer that is fed one element at a time and presses
every full buffer presses exactly the blocks of what it was fed, and is left with the rest. -/

namespace OpenDTP.Blocks

variable {α σ : Type*}

/-- The full blocks of a list, in order. -/
def blocks (size : Nat) (items : List α) : List (List α) :=
  (List.range (items.length / size)).map fun index => (items.drop (size * index)).take size

/-- What is left behind the full blocks. -/
def leftover (size : Nat) (items : List α) : List α := items.drop (size * (items.length / size))

section

variable {size : Nat}

theorem length_blocks (items : List α) : (blocks size items).length = items.length / size := by
  simp [blocks]

theorem length_leftover (items : List α) : (leftover size items).length = items.length % size := by
  rw [leftover, List.length_drop]
  have split := Nat.div_add_mod items.length size
  omega

theorem leftover_lt (positive : 0 < size) (items : List α) :
    (leftover size items).length < size := by
  rw [length_leftover]
  exact Nat.mod_lt _ positive

theorem blocks_nil : blocks size ([] : List α) = [] := by
  simp [blocks]

/-- Behind a whole number of blocks the cutting starts afresh. -/
theorem blocks_append (positive : 0 < size) {front : List α} {count : Nat}
    (whole : front.length = size * count) (back : List α) :
    blocks size (front ++ back) = blocks size front ++ blocks size back := by
  have frontCount : front.length / size = count := by
    rw [whole, Nat.mul_div_cancel_left _ positive]
  have allCount : (front ++ back).length / size = count + back.length / size := by
    rw [List.length_append, whole, Nat.mul_add_div positive]
  unfold blocks
  rw [allCount, frontCount, List.range_add, List.map_append, List.map_map]
  congr 1
  · apply List.map_congr_left
    intro index member
    have below : index < count := List.mem_range.mp member
    have room : size * index + size ≤ front.length := by
      calc size * index + size = size * (index + 1) := by ring
        _ ≤ size * count := Nat.mul_le_mul_left _ below
        _ = front.length := whole.symm
    rw [List.drop_append_of_le_length (by omega), List.take_append_of_le_length]
    rw [List.length_drop]
    omega
  · apply List.map_congr_left
    intro index _
    change ((front ++ back).drop (size * (count + index))).take size = _
    rw [Nat.mul_add, ← whole, List.drop_length_add_append]

theorem leftover_append (positive : 0 < size) {front : List α} {count : Nat}
    (whole : front.length = size * count) (back : List α) :
    leftover size (front ++ back) = leftover size back := by
  have allCount : (front ++ back).length / size = count + back.length / size := by
    rw [List.length_append, whole, Nat.mul_add_div positive]
  rw [leftover, allCount, Nat.mul_add, ← whole, List.drop_length_add_append]
  rfl

theorem blocks_short {items : List α} (short : items.length < size) : blocks size items = [] := by
  simp [blocks, Nat.div_eq_of_lt short]

theorem leftover_short {items : List α} (short : items.length < size) :
    leftover size items = items := by
  simp [leftover, Nat.div_eq_of_lt short]

theorem blocks_one (positive : 0 < size) {items : List α} (exact : items.length = size) :
    blocks size items = [items] := by
  have one : items.length / size = 1 := by rw [exact, Nat.div_self positive]
  have whole : items.take size = items := by rw [← exact, List.take_length]
  simp [blocks, one, whole]

theorem leftover_one {items : List α} (exact : items.length = size) :
    leftover size items = [] := by
  apply List.eq_nil_of_length_eq_zero
  rw [length_leftover, exact, Nat.mod_self]

/-- The part in front of the leftover is a whole number of blocks. -/
theorem split (items : List α) : ∃ front count, items = front ++ leftover size items ∧
    front.length = size * count := by
  refine ⟨items.take (size * (items.length / size)), items.length / size, ?_, ?_⟩
  · exact (List.take_append_drop _ items).symm
  · rw [List.length_take, Nat.min_eq_left (Nat.mul_div_le _ _)]

end

/-- One more element concerns the leftover only. -/
theorem blocks_snoc {size : Nat} (positive : 0 < size) (items : List α) (item : α) :
    blocks size (items ++ [item]) =
      blocks size items ++ blocks size (leftover size items ++ [item]) := by
  obtain ⟨front, count, parts, whole⟩ := @split α size items
  have short := leftover_lt positive items
  generalize leftover size items = rest at parts short ⊢
  subst parts
  rw [List.append_assoc, blocks_append positive whole, blocks_append positive whole,
    blocks_short short, List.append_nil]

theorem leftover_snoc {size : Nat} (positive : 0 < size) (items : List α) (item : α) :
    leftover size (items ++ [item]) = leftover size (leftover size items ++ [item]) := by
  obtain ⟨front, count, parts, whole⟩ := @split α size items
  generalize leftover size items = rest at parts ⊢
  subst parts
  rw [List.append_assoc, leftover_append positive whole]

/-! ### Pressing full buffers -/

/-- One element goes into the buffer, and a full buffer is pressed. -/
def feed (press : σ → List α → σ) (size : Nat) (state : σ × List α) (item : α) : σ × List α :=
  if (state.2 ++ [item]).length = size then (press state.1 (state.2 ++ [item]), [])
  else (state.1, state.2 ++ [item])

theorem foldl_feed (press : σ → List α → σ) {size : Nat} (positive : 0 < size) (start : σ)
    (items : List α) :
    items.foldl (feed press size) (start, []) =
      ((blocks size items).foldl press start, leftover size items) := by
  induction items using List.reverseRecOn with
  | nil => simp [blocks_nil, leftover]
  | append_singleton items item ih =>
    have bound := leftover_lt positive items
    rw [List.foldl_append, ih, blocks_snoc positive, leftover_snoc positive, List.foldl_append]
    simp only [List.foldl_cons, List.foldl_nil, feed]
    by_cases full : (leftover size items ++ [item]).length = size
    · rw [if_pos full, blocks_one positive full, leftover_one full]
      rfl
    · have short : (leftover size items ++ [item]).length < size := by
        rw [List.length_append] at full ⊢
        simp only [List.length_singleton] at full ⊢
        omega
      rw [if_neg full, blocks_short short, leftover_short short]
      rfl

/-! ### Chaining -/

/-- A list that is a whole number of blocks is its blocks put together. -/
theorem flatten_blocks {size : Nat} (positive : 0 < size) {items : List α} {count : Nat}
    (whole : items.length = size * count) : (blocks size items).flatten = items := by
  induction count generalizing items with
  | zero =>
    rw [Nat.mul_zero, List.length_eq_zero_iff] at whole
    rw [whole, blocks_nil]
    rfl
  | succ count ih =>
    have room : size ≤ items.length := by
      rw [whole]
      exact Nat.le_mul_of_pos_right size (Nat.succ_pos count)
    have first : (items.take size).length = size := List.length_take_of_le room
    have rest : (items.drop size).length = size * count := by
      rw [List.length_drop, whole, Nat.mul_succ, Nat.add_sub_cancel]
    calc (blocks size items).flatten
        = (blocks size (items.take size ++ items.drop size)).flatten := by
          rw [List.take_append_drop]
      _ = (blocks size (items.take size) ++ blocks size (items.drop size)).flatten := by
          rw [blocks_append positive (first.trans (Nat.mul_one size).symm)]
      _ = items.take size ++ items.drop size := by
          rw [List.flatten_append, blocks_one positive first, ih rest, List.flatten_singleton]
      _ = items := List.take_append_drop size items

/-- The full blocks of a list put together are its front. -/
theorem flatten_blocks_take {size : Nat} (positive : 0 < size) (items : List α) :
    (blocks size items).flatten = items.take (size * (items.length / size)) := by
  have front : (items.take (size * (items.length / size))).length =
      size * (items.length / size) := List.length_take_of_le (Nat.mul_div_le _ _)
  have rest : (items.drop (size * (items.length / size))).length < size :=
    leftover_lt positive items
  calc (blocks size items).flatten
      = (blocks size (items.take (size * (items.length / size)) ++
          items.drop (size * (items.length / size)))).flatten := by
        rw [List.take_append_drop]
    _ = (blocks size (items.take (size * (items.length / size)))).flatten := by
        rw [blocks_append positive front, blocks_short rest, List.append_nil]
    _ = items.take (size * (items.length / size)) := flatten_blocks positive front

/-- Two chains that end alike, neither of them the end of the other, meet in a collision of their
step. -/
theorem collision_of_foldl (step : σ → α → σ) (start : σ) {first second : List α}
    (apart : ¬ first <:+ second) (apart' : ¬ second <:+ first)
    (same : first.foldl step start = second.foldl step start) :
    ∃ state item other another, item ∈ first ∧ another ∈ second ∧
      (state, item) ≠ (other, another) ∧ step state item = step other another := by
  induction first using List.reverseRecOn generalizing second with
  | nil => exact absurd (List.nil_suffix) apart
  | append_singleton first item ih =>
    induction second using List.reverseRecOn with
    | nil => exact absurd (List.nil_suffix) apart'
    | append_singleton second another _ =>
      rw [List.foldl_append, List.foldl_append] at same
      by_cases equal : (first.foldl step start, item) = (second.foldl step start, another)
      · -- the last links are the same, so the chains in front of them end alike
        obtain ⟨ends, rfl⟩ := Prod.mk.inj equal
        have further {early late : List α} (tail : early <:+ late) :
            early ++ [item] <:+ late ++ [item] := by
          obtain ⟨front, rfl⟩ := tail
          exact ⟨front, (List.append_assoc _ _ _).symm⟩
        obtain ⟨state, left, other, right, here, there, different, meets⟩ :=
          ih (fun tail => apart (further tail)) (fun tail => apart' (further tail)) ends
        exact ⟨state, left, other, right, List.mem_append_left _ here, List.mem_append_left _ there,
          different, meets⟩
      · exact ⟨_, item, _, another, List.mem_append_right _ (List.mem_singleton_self item),
          List.mem_append_right _ (List.mem_singleton_self another), equal, same⟩

end OpenDTP.Blocks
