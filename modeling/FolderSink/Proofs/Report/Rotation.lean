import FolderSink.Number.Double
/-! The rule by which a log rotates, on lists of records. A write looks at the current log:
when it is there and holds at least the byte limit, it becomes the newest rotated log, the
older ones move back by one and only `keep` of them stay, and the record starts a new current
log; otherwise the record extends the current log.

Main statement: after any sequence of writes from no files (`sound_writes`) the number of
rotated logs is the smaller of the number of rotations and `keep`; the rotated logs, oldest
first, and then the current log hold a contiguous suffix of the records, in order, each record
once; and every rotated log holds at least the limit. -/
namespace FolderSink

namespace Logger

/-- The log files as lists of records: the current log, the rotated logs newest first, and
the number of rotations so far. -/
structure Rotation where
  current : List String
  rotated : List (List String)
  count : Nat
deriving DecidableEq, Repr

namespace Rotation

/-- No log files yet. -/
def empty : Rotation := ⟨[], [], 0⟩

/-- Whether a log of these records holds at least `limit` bytes. -/
def reached (limit : Double) (f : List String) : Bool :=
  !(Double.ofNat (String.join f).utf8ByteSize).lt limit

/-- Write one record. -/
def write (limit : Double) (keep : Nat) (s : Rotation) (r : String) : Rotation :=
  if s.current ≠ [] ∧ reached limit s.current then
    ⟨[r], (s.current :: s.rotated).take keep, s.count + 1⟩
  else ⟨s.current ++ [r], s.rotated, s.count⟩

/-- What the rule keeps after the records `rs` have been written. -/
structure Sound (limit : Double) (keep : Nat) (rs : List String) (s : Rotation) : Prop where
  length : s.rotated.length = min s.count keep
  suffix : s.rotated.reverse.flatten ++ s.current <:+ rs
  current : rs ≠ [] → s.current ≠ []
  full : ∀ f ∈ s.rotated, f ≠ [] ∧ reached limit f = true

variable {limit : Double} {keep : Nat}

theorem sound_empty : Sound limit keep [] empty where
  length := by simp [empty]
  suffix := by simp [empty]
  current := fun h => absurd rfl h
  full := by simp [empty]

theorem suffix_append_right {α : Type} {a b : List α} (h : a <:+ b) (c : List α) :
    a ++ c <:+ b ++ c := by
  obtain ⟨t, rfl⟩ := h
  exact ⟨t, by simp⟩

/-- The rotated logs that stay after a rotation, oldest first, are a suffix of those before
followed by the log just rotated. -/
theorem flatten_reverse_take_suffix (cur : List String) (rot : List (List String)) (keep : Nat) :
    ((cur :: rot).take keep).reverse.flatten <:+ rot.reverse.flatten ++ cur := by
  obtain ⟨t, ht⟩ := (List.take_prefix keep (cur :: rot)).reverse
  refine ⟨t.flatten, ?_⟩
  rw [← List.flatten_append, ht]
  simp

/-- One write keeps the rule's invariant. -/
theorem Sound.write {rs : List String} {s : Rotation} (h : Sound limit keep rs s) (r : String) :
    Sound limit keep (rs ++ [r]) (s.write limit keep r) := by
  unfold Rotation.write
  split
  · rename_i hrot
    refine ⟨?_, ?_, fun _ => List.cons_ne_nil r [], ?_⟩
    · simp only [List.length_take, List.length_cons, h.length]
      omega
    · exact suffix_append_right ((flatten_reverse_take_suffix _ _ _).trans h.suffix) [r]
    · intro f hf
      rcases List.mem_cons.1 (List.mem_of_mem_take hf) with rfl | hf
      · exact ⟨hrot.1, hrot.2⟩
      · exact h.full f hf
  · refine ⟨h.length, ?_, fun _ => by simp, h.full⟩
    simpa using suffix_append_right h.suffix [r]

/-- Writing more records keeps the invariant: the run lemma of `Sound.write`. -/
theorem Sound.writes {done : List String} {s : Rotation} (h : Sound limit keep done s) :
    ∀ rs : List String, Sound limit keep (done ++ rs) (rs.foldl (Rotation.write limit keep) s) := by
  intro rs
  induction rs generalizing done s with
  | nil => simpa using h
  | cons r rs ih => simpa using ih (h.write r)

/-- Every sequence of writes from no files keeps the rule's invariant. -/
theorem sound_writes (rs : List String) :
    Sound limit keep rs (rs.foldl (write limit keep) empty) := by
  simpa using sound_empty.writes rs

end Rotation

end Logger

end FolderSink
