import Mathlib.Data.Set.Card

/-!
# A queue in one linear buffer

Items are written at `head` and read at `tail`; neither wraps around. The room behind `head` is
only regained when the queue runs empty (`read`) or when its contents are moved to the front
(`zero`). Cells at and above `head` hold nothing that is read, so a queue stores the cells below
`head` only, and `head` is their number.
-/

/-- Cells `[0, head)` of a buffer of `size` cells, those below `tail` already read. -/
structure LinearQueue (α : Type) where
  size : Nat
  stored : List α
  tail : Nat
  tail_le : tail ≤ stored.length
  stored_le : stored.length ≤ size
  deriving DecidableEq

namespace LinearQueue

variable {α : Type}

def empty (size : Nat) : LinearQueue α := ⟨size, [], 0, Nat.le_refl _, Nat.zero_le _⟩

variable (q : LinearQueue α)

def head : Nat := q.stored.length

def available : Nat := q.size - q.head

def data : Nat := q.head - q.tail

def contents : List α := q.stored.drop q.tail

def zero : LinearQueue α where
  size := q.size
  stored := q.contents
  tail := 0
  tail_le := Nat.zero_le _
  stored_le := Nat.le_trans (by simp [contents]) q.stored_le

/-- Read `n` items; a queue read to its end starts again at the front. -/
def read (n : Nat) : LinearQueue α :=
  if more : n < q.data then
    { q with tail := q.tail + n, tail_le := by simp only [data, head] at more; omega }
  else empty q.size

variable (items : List α)

/-- Write at `head`. -/
def write (room : items.length ≤ q.available) :
    LinearQueue α where
  size := q.size
  stored := q.stored ++ items
  tail := q.tail
  tail_le := by have := q.tail_le; simp only [List.length_append]; omega
  stored_le := by
    have := q.stored_le
    simp only [available, head] at room
    simp only [List.length_append]
    omega

/-! ### Sizes -/

variable (n : Nat)

@[simp] theorem head_empty : (empty n : LinearQueue α).head = 0 := rfl
@[simp] theorem contents_empty : (empty n : LinearQueue α).contents = [] := rfl
@[simp] theorem contents_zero : q.zero.contents = q.contents := rfl

@[simp] theorem length_contents : q.contents.length = q.data := by
  simp [contents, data, head]

@[simp] theorem data_zero : q.zero.data = q.data := by
  rw [← length_contents, contents_zero, length_contents]

theorem head_zero : q.zero.head = q.data := length_contents q

theorem head_eq : q.head = q.tail + q.data := by
  have := q.tail_le
  simp only [data, head]
  omega

theorem contents_eq_nil {q : LinearQueue α} : q.contents = [] ↔ q.data = 0 := by
  rw [← length_contents, List.length_eq_zero_iff]

/-! ### Reading and writing -/

theorem read_of_le {q : LinearQueue α} {n : Nat} (all : q.data ≤ n) : q.read n = empty q.size :=
  dif_neg (Nat.not_lt.mpr all)

@[simp] theorem size_read : (q.read n).size = q.size := by
  unfold read
  split <;> rfl

@[simp] theorem contents_read : (q.read n).contents = q.contents.drop n := by
  unfold read
  split
  next more => simp [contents, List.drop_drop]
  next all =>
    rw [contents_empty, eq_comm, List.drop_eq_nil_iff, length_contents]
    exact Nat.not_lt.mp all

@[simp] theorem data_read : (q.read n).data = q.data - n := by
  rw [← length_contents, contents_read, List.length_drop, length_contents]

theorem head_read_of_data {q : LinearQueue α} {n : Nat} (none : (q.read n).data = 0) :
    (q.read n).head = 0 := by
  rw [data_read] at none
  rw [read_of_le (by omega), head_empty]

@[simp] theorem size_write (room) :
    (q.write items room).size = q.size := rfl

@[simp] theorem head_write (room) :
    (q.write items room).head = q.head + items.length := List.length_append

theorem available_write (room) : (q.write items room).available = q.available - items.length := by
  simp only [available, size_write, head_write]
  omega

@[simp] theorem contents_write (room) : (q.write items room).contents = q.contents ++ items := by
  simp [write, contents, List.drop_append_of_le_length q.tail_le]

end LinearQueue
