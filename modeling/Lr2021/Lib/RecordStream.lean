set_option autoImplicit false

/-! A stream of elements that holds whole records, oldest first, and behind them loose
elements of no record. Records that are added behind loose elements are loose themselves. -/
namespace RecordStream

variable {α : Type}

structure Stream (α : Type) where
  records : List (List α)
  loose : List α

namespace Stream

def empty : Stream α := { records := [], loose := [] }

/-- The elements in a row. -/
def flat (s : Stream α) : List α := s.records.flatten ++ s.loose

def push [DecidableEq α] (s : Stream α) (record : List α) : Stream α :=
  if s.loose = [] then { s with records := s.records ++ [record] }
  else { s with loose := s.loose ++ record }

def spill (s : Stream α) (garbage : List α) : Stream α := { s with loose := s.loose ++ garbage }

/-- The records have one length. -/
def Sized (len : Nat) (s : Stream α) : Prop := ∀ record ∈ s.records, record.length = len

/-- What a stream becomes by additions: no record or loose element moves. -/
structure Grows (s s' : Stream α) : Prop where
  records : s.records <+: s'.records
  loose : s.loose <+: s'.loose
  blocked : s.loose ≠ [] → s'.records = s.records

variable {s s' : Stream α} {len : Nat}

theorem flat_push [DecidableEq α] (s : Stream α) (record : List α) :
    (s.push record).flat = s.flat ++ record := by
  unfold push flat
  split
  · rename_i none
    simp only [none, List.flatten_append, List.append_nil, List.flatten_singleton]
  · exact (List.append_assoc _ _ _).symm

theorem flat_spill (s : Stream α) (garbage : List α) :
    (s.spill garbage).flat = s.flat ++ garbage := (List.append_assoc _ _ _).symm

theorem Sized.push [DecidableEq α] (sized : s.Sized len) {record : List α}
    (length : record.length = len) : (s.push record).Sized len := by
  unfold Stream.push
  split
  · intro r member
    rcases List.mem_append.mp member with old | new
    · exact sized r old
    · rw [List.mem_singleton.mp new]
      exact length
  · exact sized

theorem Grows.refl (s : Stream α) : Grows s s := ⟨List.prefix_rfl, List.prefix_rfl, fun _ => rfl⟩

theorem Grows.trans {s'' : Stream α} (first : Grows s s') (second : Grows s' s'') :
    Grows s s'' := by
  refine ⟨first.records.trans second.records, first.loose.trans second.loose, ?_⟩
  intro blocked
  rw [second.blocked, first.blocked blocked]
  intro gone
  have start := first.loose
  rw [gone, List.prefix_nil] at start
  exact blocked start

theorem grows_push [DecidableEq α] (s : Stream α) (record : List α) : Grows s (s.push record) := by
  unfold push
  split
  · exact ⟨List.prefix_append _ _, List.prefix_rfl, fun blocked => absurd ‹_› blocked⟩
  · exact ⟨List.prefix_rfl, List.prefix_append _ _, fun _ => rfl⟩

theorem grows_spill (s : Stream α) (garbage : List α) : Grows s (s.spill garbage) :=
  ⟨List.prefix_rfl, List.prefix_append _ _, fun _ => rfl⟩

/-- The first elements of a stream with a record are that record. -/
theorem flat_of_record {first : List α} (sized : s.Sized len) (start : [first] <+: s.records) :
    len ≤ s.flat.length ∧ s.flat.take len = first ∧
      s.flat.drop len = (Stream.mk s.records.tail s.loose).flat ∧
      s.records = first :: s.records.tail := by
  obtain ⟨rest, records⟩ := start
  have split : s.flat = first ++ (rest.flatten ++ s.loose) := by
    rw [flat, ← records, List.singleton_append, List.flatten_cons, List.append_assoc]
  have length : first.length = len := by
    apply sized
    rw [← records]
    exact List.mem_cons_self
  refine ⟨?_, ?_, ?_, ?_⟩
  · rw [split, List.length_append, length]
    exact Nat.le_add_right _ _
  · rw [split, ← length, List.take_left]
  · rw [split, ← length, List.drop_left, flat, ← records]
    rfl
  · rw [← records]
    rfl

/-- Without records, the first elements are loose ones. -/
theorem flat_of_loose (none : s.records = []) : s.flat = s.loose := by
  rw [flat, none, List.flatten_nil, List.nil_append]

end Stream

/-- Records that were taken and records that wait come from what was added: in that order,
none twice and none made up. -/
def Owes (added taken : List (List α)) (s : Stream α) : Prop :=
  (taken ++ s.records).Sublist added

section Owing

variable {added taken : List (List α)} {s : Stream α}

theorem Owes.push [DecidableEq α] (owes : Owes added taken s) (record : List α) :
    Owes (added ++ [record]) taken (s.push record) := by
  unfold Owes Stream.push at *
  split
  · rw [← List.append_assoc]
    exact owes.append (List.Sublist.refl _)
  · exact owes.trans (List.sublist_append_left _ _)

theorem Owes.take {first : List α} {rest : List (List α)} {left : List α}
    (owes : Owes added taken s) (records : s.records = first :: rest) :
    Owes added (taken ++ [first]) { records := rest, loose := left } := by
  unfold Owes at *
  rwa [records, List.append_cons] at owes

end Owing
end RecordStream
