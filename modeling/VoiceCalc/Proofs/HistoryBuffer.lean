-- The history as a bounded buffer: whatever mix of pushes and clears it has seen, it holds the
-- entries pushed since the last clear, newest first, cut to its capacity. A capacity from one up
-- to the largest size a buffer may have makes an empty history; a larger one makes none.
import VoiceCalc.Engine

namespace VoiceCalc

/-- An operation on a history: put an entry in front, or drop every entry. -/
inductive HistoryOp (α : Type)
  | push (x : α)
  | clear

variable {α : Type}

/-- The entries pushed since the last clear, oldest first, after one more operation. -/
def HistoryOp.record (acc : List α) : HistoryOp α → List α
  | .push x => acc ++ [x]
  | .clear => []

/-- The entries pushed since the last clear, or since the start when there was none, oldest
first. -/
def sinceLastClear (ops : List (HistoryOp α)) : List α := ops.foldl HistoryOp.record []

namespace History

def perform (h : History α) : HistoryOp α → History α
  | .push x => h.push x
  | .clear => h.clear

def performAll (h : History α) (ops : List (HistoryOp α)) : History α := ops.foldl perform h

@[simp] theorem capacity_perform (h : History α) (op : HistoryOp α) :
    (h.perform op).capacity = h.capacity := by
  cases op <;> rfl

/-- Cutting to `n` before putting an entry in front and cutting again is cutting once. -/
theorem take_cons_take (x : α) (l : List α) (n : Nat) : (x :: l.take n).take n = (x :: l).take n := by
  cases n with
  | zero => rfl
  | succ k => simp [List.take_take]

/-- One operation keeps the history holding the newest entries pushed since the last clear: a push
puts its entry in front, the oldest falling off when full, and a clear empties it. -/
theorem entries_perform {h : History α} {acc : List α} (hh : h.entries = acc.reverse.take h.capacity)
    (op : HistoryOp α) : (h.perform op).entries = (HistoryOp.record acc op).reverse.take h.capacity := by
  cases op with
  | push x =>
    rw [HistoryOp.record, List.reverse_append, List.reverse_singleton, List.singleton_append,
      ← take_cons_take, ← hh]
    rfl
  | clear => simp [perform, HistoryOp.record]

theorem entries_performAll_of {h : History α} {acc : List α}
    (hh : h.entries = acc.reverse.take h.capacity) (ops : List (HistoryOp α)) :
    (h.performAll ops).entries = (ops.foldl HistoryOp.record acc).reverse.take h.capacity := by
  induction ops generalizing h acc with
  | nil => exact hh
  | cons op ops ih =>
    have h' := entries_perform hh op
    rw [← capacity_perform h op] at h'
    rw [performAll, List.foldl_cons, List.foldl_cons, ← capacity_perform h op]
    exact ih h'

/-- The entries of an empty history, after any operations, are those pushed since the last clear,
newest first, as many as the capacity holds. -/
theorem entries_performAll {h : History α} (he : h.entries = []) (ops : List (HistoryOp α)) :
    (h.performAll ops).entries = (sinceLastClear ops).reverse.take h.capacity :=
  entries_performAll_of (by simp [he] : h.entries = ([] : List α).reverse.take h.capacity) ops

theorem foldl_record_push (xs acc : List α) :
    (xs.map HistoryOp.push).foldl HistoryOp.record acc = acc ++ xs := by
  induction xs generalizing acc with
  | nil => simp
  | cons x xs ih => simp [HistoryOp.record, ih]

/-- Pushing entries onto any history puts them in front, newest first, and keeps as many entries
as the capacity holds. -/
theorem entries_pushAll (h : History α) (xs : List α) :
    (h.performAll (xs.map .push)).entries = (xs.reverse ++ h.entries).take h.capacity := by
  have hh : h.entries = h.entries.reverse.reverse.take h.capacity := by
    rw [List.reverse_reverse, List.take_of_length_le h.length_le]
  rw [entries_performAll_of hh, foldl_record_push, List.reverse_append, List.reverse_reverse]

/-- A capacity from one to the largest size makes an empty history of that capacity. -/
theorem make_of_le {n : Int} (h1 : 1 ≤ n) (h2 : n ≤ largest) :
    ∃ h : History α, make n = .ok h ∧ h.capacity = n.toNat ∧ h.entries = [] := by
  unfold make
  rw [dif_neg (by omega), if_neg (by omega)]
  exact ⟨_, rfl, rfl, rfl⟩

theorem make_of_largest_lt {n : Int} (h : largest < n) :
    (make n : Except CapacityError (History α)) = .error .beyondLargest := by
  unfold make
  rw [dif_neg (by omega), if_pos h]

end History

/-- For every capacity `n` of at least one up to the largest size a buffer may have, the history
made with it holds, after any pushes and clears, the entries pushed since the last clear, newest
first, as many as `n` allows, and its size is their number. A capacity beyond the largest size
makes no history at all. A snapshot is the list of entries itself, a value of its own, so nothing
done with it reaches the history. -/
theorem history_holds_newest_since_clear (n : Int) (hn : 1 ≤ n) :
    (n ≤ History.largest → ∃ h : History α, History.make n = .ok h ∧
      ∀ ops : List (HistoryOp α),
        (h.performAll ops).entries = (sinceLastClear ops).reverse.take n.toNat ∧
          (h.performAll ops).size = ((sinceLastClear ops).reverse.take n.toNat).length) ∧
    (History.largest < n → (History.make n : Except CapacityError (History α)) = .error .beyondLargest) := by
  refine ⟨fun hl => ?_, History.make_of_largest_lt⟩
  obtain ⟨h, hm, hc, he⟩ := History.make_of_le hn hl
  refine ⟨h, hm, fun ops => ?_⟩
  have hall := History.entries_performAll he ops
  rw [hc] at hall
  exact ⟨hall, by rw [History.size, hall]⟩

theorem history_of_three_after_pushes_and_a_clear :
    (1 : Int) ≤ 3 ∧
    ((3 : Int) ≤ History.largest → ∃ h : History String, History.make 3 = .ok h ∧
      ∀ ops : List (HistoryOp String),
        (h.performAll ops).entries = (sinceLastClear ops).reverse.take (3 : Int).toNat ∧
          (h.performAll ops).size = ((sinceLastClear ops).reverse.take (3 : Int).toNat).length) ∧
    (History.largest < (3 : Int) →
      (History.make 3 : Except CapacityError (History String)) = .error .beyondLargest) :=
  ⟨by decide, history_holds_newest_since_clear 3 (by decide)⟩

/-- A capacity of 2^63 makes no history: it is beyond the largest size a buffer may have. -/
theorem history_beyond_largest_size :
    (History.make 9223372036854775808 : Except CapacityError (History String)) = .error .beyondLargest :=
  rfl

end VoiceCalc
