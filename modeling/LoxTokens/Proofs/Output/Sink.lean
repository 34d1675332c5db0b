import LoxTokens.Output.Sink

/-! What a sink takes of one write after another is what it takes of all of them together, and where
flushes between the writes may fail, how far a sequence of writes gets. -/

namespace LoxTokens.Sink

/-- Whether a sink takes all of some bytes. -/
def fits (sink : Sink) (bytes : List UInt8) : Bool := sink.settings.budget.all (bytes.length ≤ ·)

/-- Bytes that do not fit are more than the budget. -/
theorem fits_eq_false_iff {sink : Sink} {bytes : List UInt8} :
    sink.fits bytes = false ↔ ∃ room, sink.settings.budget = some room ∧ room < bytes.length := by
  simp [fits, Option.all_eq_false]

/-- A write succeeds exactly when the bytes fit. -/
theorem writeFailure?_eq (sink : Sink) (bytes : List UInt8) :
    sink.writeFailure? bytes = if sink.fits bytes then none else some .closed := by
  -- Bytes are refused when they are more than the budget.
  cases budget : sink.settings.budget with
  | none => simp [writeFailure?, refused, fits, budget]
  | some room => simp [writeFailure?, refused, fits, budget]

/-- Two writes in a row leave what one write of both leaves. -/
theorem write_write (sink : Sink) (left right : List UInt8) :
    (sink.write left).write right = sink.write (left ++ right) := by
  cases budget : sink.settings.budget with
  | none => simp [write, taken, budget]
  | some room => simp [write, taken, budget, List.take_append, Nat.sub_sub]

/-- What comes after bytes that do not fit is lost. -/
theorem write_append_of_not_fits {sink : Sink} {left : List UInt8} (full : sink.fits left = false)
    (right : List UInt8) : sink.write (left ++ right) = sink.write left := by
  -- The budget is spent on the one write as on the other.
  obtain ⟨room, budget, beyond⟩ := fits_eq_false_iff.mp full
  have spent : room - left.length = 0 := Nat.sub_eq_zero_of_le (Nat.le_of_lt beyond)
  have spentToo : room - (left.length + right.length) = 0 := by omega
  simp [write, taken, budget, List.take_append, spent, spentToo]

/-- After bytes that fit, others fit when they all fit together. -/
theorem fits_write {sink : Sink} {left : List UInt8} (fits : sink.fits left)
    (right : List UInt8) : (sink.write left).fits right = sink.fits (left ++ right) := by
  cases budget : sink.settings.budget with
  | none => simp [Sink.fits, write, budget]
  | some room =>
    have within : left.length ≤ room := by simpa [Sink.fits, budget] using fits
    simp only [Sink.fits, write, budget, Option.map_some, Option.all_some, List.length_append,
      decide_eq_decide]
    omega

/-- Bytes that do not fit do not fit with more bytes after them. -/
theorem fits_append_of_not_fits {sink : Sink} {left : List UInt8} (full : sink.fits left = false)
    (right : List UInt8) : sink.fits (left ++ right) = false := by
  obtain ⟨room, budget, beyond⟩ := fits_eq_false_iff.mp full
  exact fits_eq_false_iff.mpr ⟨room, budget, by rw [List.length_append]; omega⟩

/-- No bytes always fit. -/
theorem fits_nil (sink : Sink) : sink.fits [] = true := by
  simp [fits]

/-- A write of no bytes leaves a sink as it is. -/
theorem write_nil (sink : Sink) : sink.write [] = sink := by
  obtain ⟨received, budget, nextFlushes, flushFails⟩ := sink
  cases budget <;> simp [write, taken]

/-- The sink after some writes in turn, up to the first one that fails, and how that one failed. -/
def writeAll (sink : Sink) : List (List UInt8) → Option Failure × Sink
  | [] => (none, sink)
  | bytes :: later =>
    let after := sink.write bytes
    match sink.writeFailure? bytes with
    | some failure => (some failure, after)
    | none => after.writeAll later

/-- It makes no difference how bytes are cut into writes, even if one fails in its middle. -/
theorem writeAll_eq (sink : Sink) (writes : List (List UInt8)) :
    sink.writeAll writes = (sink.writeFailure? writes.flatten, sink.write writes.flatten) := by
  -- After a write that fits, the others meet the sink that is left.
  induction writes generalizing sink with
  | nil =>
    rw [writeAll, List.flatten_nil, write_nil, writeFailure?_eq, if_pos (fits_nil sink)]
  | cons bytes later ih =>
    rw [writeAll, List.flatten_cons]
    simp only [writeFailure?_eq]
    cases whole : sink.fits bytes with
    | true =>
      rw [if_pos rfl, ih, writeFailure?_eq, fits_write whole, write_write]
    | false =>
      -- Nothing of what comes later is taken, written or not.
      rw [if_neg Bool.false_ne_true, fits_append_of_not_fits whole,
        write_append_of_not_fits whole]
      rfl

/-- What failed when some writes in turn were followed by a flush, and the sink after that. -/
def putInTurn (sink : Sink) (writes : List (List UInt8)) : Option Failure × Sink :=
  match sink.writeAll writes with
  | (some failure, written) => (some failure, written)
  | (none, written) => (written.flushFailure?, written.flushed)

/-- A flush after writes in turn is one after a write of all of them. -/
theorem putInTurn_eq (sink : Sink) (writes : List (List UInt8)) :
    sink.putInTurn writes = sink.put writes.flatten := by
  rw [putInTurn, writeAll_eq, put]
  cases sink.writeFailure? writes.flatten <;> rfl

/-- What is flushed after it is received as what is only written. -/
theorem received_put (sink : Sink) (bytes : List UInt8) :
    (sink.put bytes).2.received = sink.received ++ sink.taken bytes := by
  rw [put]
  cases sink.writeFailure? bytes <;> rfl

/-- Bytes that are flushed fail when they do not fit, or when the flush does. -/
theorem put_fst_eq (sink : Sink) (bytes : List UInt8) :
    (sink.put bytes).1 = if sink.fits bytes then sink.flushFailure? else some .closed := by
  rw [put, writeFailure?_eq]
  -- Writing has no part in whether flushing fails.
  cases sink.fits bytes <;> rfl

/-- The sink after some bytes, each of them flushed, up to the first failure, and that failure. -/
def putAll (sink : Sink) : List (List UInt8) → Option Failure × Sink
  | [] => (none, sink)
  | bytes :: later =>
    match sink.put bytes with
    | (some failure, after) => (some failure, after)
    | (none, after) => after.putAll later

/-- Whether a number of flushes of a sink work, one after the other. -/
def flushesFor (sink : Sink) (count : Nat) : Bool :=
  (sink.settings.nextFlushes.take count).all (!·) &&
    (count ≤ sink.settings.nextFlushes.length || !sink.settings.flushFails)

/-- Some flushes work when the first of them does, and then the others. -/
theorem flushesFor_succ (sink : Sink) (count : Nat) :
    sink.flushesFor (count + 1) = (!sink.flushFails && sink.flushed.flushesFor count) := by
  -- The first flush is the first of those that are listed, and where none are, like all others.
  cases listed : sink.settings.nextFlushes with
  | nil =>
    cases always : sink.settings.flushFails <;>
      simp [flushesFor, Sink.flushFails, flushed, listed, always]
  | cons fails later => simp [flushesFor, Sink.flushFails, flushed, listed, Bool.and_assoc]

/-- Whether a sink has room for some bytes and hands them on, when each of them is flushed. -/
def delivers (sink : Sink) (writes : List (List UInt8)) : Bool :=
  sink.fits writes.flatten && sink.flushesFor writes.length

/-- Bytes are delivered when nothing fails in putting them out one after the other. -/
theorem delivers_eq (sink : Sink) (writes : List (List UInt8)) :
    sink.delivers writes = (sink.putAll writes).1.isNone := by
  induction writes generalizing sink with
  | nil => simp [delivers, putAll, fits_nil, flushesFor]
  | cons bytes later ih =>
    rw [delivers, List.flatten_cons, List.length_cons, flushesFor_succ, putAll, put,
      writeFailure?_eq]
    cases whole : sink.fits bytes with
    | false => simp [fits_append_of_not_fits whole]
    | true =>
      -- A flush leaves the bytes and the budget alone, and a write leaves the flushes alone.
      have room : (sink.write bytes).flushed.fits later.flatten =
          sink.fits (bytes ++ later.flatten) := fits_write whole _
      have failure : (sink.write bytes).flushFailure? = sink.flushFailure? := rfl
      have rest : (sink.fits (bytes ++ later.flatten) && sink.flushed.flushesFor later.length) =
          ((sink.write bytes).flushed.putAll later).1.isNone := by
        rw [← ih, delivers, room]
        rfl
      rw [if_pos rfl, failure, flushFailure?]
      cases sink.flushFails with
      | true => simp
      | false => simpa using rest

/-- What comes after bytes that are delivered meets the sink that is left, and else nothing does. -/
theorem putAll_append (sink : Sink) (earlier later : List (List UInt8)) :
    sink.putAll (earlier ++ later) =
      if sink.delivers earlier then (sink.putAll earlier).2.putAll later
      else sink.putAll earlier := by
  rw [delivers_eq]
  -- The first of the writes is the one that fails, or it leaves the sink that the others meet.
  induction earlier generalizing sink with
  | nil => rfl
  | cons bytes earlier ih =>
    rcases given : sink.put bytes with ⟨failure, after⟩
    cases failure with
    | some failure => simp [putAll, given]
    | none => simpa [putAll, given] using ih after

/-- All of two sequences is delivered when the one is, and then the other. -/
theorem delivers_append (sink : Sink) (earlier later : List (List UInt8)) :
    sink.delivers (earlier ++ later) =
      (sink.delivers earlier && (sink.putAll earlier).2.delivers later) := by
  rw [delivers_eq, putAll_append]
  cases whole : sink.delivers earlier with
  | true => exact (delivers_eq _ later).symm
  | false => exact (delivers_eq sink earlier).symm.trans whole

/-- Of two sequences that are delivered, the first one is. -/
theorem delivers_of_append {sink : Sink} {earlier later : List (List UInt8)}
    (whole : sink.delivers (earlier ++ later)) : sink.delivers earlier := by
  rw [delivers_append, Bool.and_eq_true] at whole
  exact whole.1

/-- What is not delivered fails. -/
theorem exists_failure_of_not_delivers {sink : Sink} {writes : List (List UInt8)}
    (broken : sink.delivers writes = false) : ∃ failure, (sink.putAll writes).1 = some failure := by
  rwa [delivers_eq, Option.isNone_eq_false_iff, Option.isSome_iff_exists] at broken

/-- Putting one thing is putting all of that. -/
theorem putAll_singleton (sink : Sink) (bytes : List UInt8) :
    sink.putAll [bytes] = sink.put bytes := by
  rcases given : sink.put bytes with ⟨failure, after⟩
  rw [putAll, given]
  cases failure <;> rfl

/-- Whether no flush of a sink is going to fail. -/
def flushesWork (sink : Sink) : Bool :=
  sink.settings.nextFlushes.all (!·) && !sink.settings.flushFails

/-- Where all flushes work, the next one does, and so do those after it. -/
theorem flushesWork_flushed {sink : Sink} (works : sink.flushesWork) :
    sink.flushFails = false ∧ sink.flushed.flushesWork := by
  obtain ⟨next, always⟩ : (∀ fails ∈ sink.settings.nextFlushes, fails = false) ∧
      sink.settings.flushFails = false := by simpa [flushesWork] using works
  -- The next flush is the first of those that are listed, and where none are, like all others.
  cases listed : sink.settings.nextFlushes with
  | nil => simp [Sink.flushFails, flushed, flushesWork, listed, always]
  | cons fails later =>
    rw [listed] at next
    obtain ⟨first, others⟩ := List.forall_mem_cons.mp next
    simpa [Sink.flushFails, flushed, flushesWork, listed, always, first] using others

/-- Where all flushes work, a write that is flushed fails when its bytes do not fit. -/
theorem put_of_flushesWork {sink : Sink} (works : sink.flushesWork) (bytes : List UInt8) :
    sink.put bytes =
      if sink.fits bytes then (none, (sink.write bytes).flushed)
      else (some .closed, sink.write bytes) := by
  have flushes : (sink.write bytes).flushFailure? = none := by
    show sink.flushFailure? = none
    rw [flushFailure?, (flushesWork_flushed works).1, if_neg Bool.false_ne_true]
  rw [put, writeFailure?_eq]
  cases sink.fits bytes <;> simp [flushes]

/-- Where all flushes work, it makes no difference between which bytes there are any. -/
theorem putAll_of_flushesWork {sink : Sink} (works : sink.flushesWork)
    (writes : List (List UInt8)) :
    (sink.putAll writes).1 = (if sink.fits writes.flatten then none else some .closed) ∧
      (sink.putAll writes).2.received = (sink.write writes.flatten).received := by
  -- A flush leaves the bytes and the budget of a sink alone.
  induction writes generalizing sink with
  | nil => simp [putAll, write_nil, fits_nil]
  | cons bytes later ih =>
    rw [putAll, put_of_flushesWork works, List.flatten_cons]
    cases whole : sink.fits bytes with
    | false =>
      simp [fits_append_of_not_fits whole, write_append_of_not_fits whole]
    | true =>
      have left : (sink.write bytes).flushesWork := works
      obtain ⟨failure, received⟩ := ih (flushesWork_flushed left).2
      have fitting : (sink.write bytes).flushed.fits later.flatten =
          sink.fits (bytes ++ later.flatten) := fits_write whole _
      have writing : ((sink.write bytes).flushed.write later.flatten).received =
          (sink.write (bytes ++ later.flatten)).received := by
        rw [← write_write]
        rfl
      rw [fitting] at failure
      rw [writing] at received
      exact ⟨failure, received⟩

/-- Where all flushes work, bytes are delivered when they fit. -/
theorem delivers_of_flushesWork {sink : Sink} (works : sink.flushesWork)
    (writes : List (List UInt8)) : sink.delivers writes = sink.fits writes.flatten := by
  rw [delivers_eq, (putAll_of_flushesWork works writes).1]
  cases sink.fits writes.flatten <;> rfl

/-- A sink without limits takes and hands on whatever it is given. -/
theorem put_of_unlimited {sink : Sink} (unlimited : sink.settings = {}) (bytes : List UInt8) :
    sink.put bytes = (none, { sink with received := sink.received ++ bytes }) := by
  obtain ⟨received, settings⟩ := sink
  obtain rfl : settings = {} := unlimited
  rfl

/-- A sink without limits takes and hands on all that it is given. -/
theorem putAll_of_unlimited {sink : Sink} (unlimited : sink.settings = {})
    (writes : List (List UInt8)) :
    sink.putAll writes = (none, { sink with received := sink.received ++ writes.flatten }) := by
  -- Such a sink is left with more bytes and the same settings.
  induction writes generalizing sink with
  | nil => simp [putAll]
  | cons bytes later ih =>
    have rest := ih (show ({ sink with received := sink.received ++ bytes } : Sink).settings = {}
      from unlimited)
    rw [putAll, put_of_unlimited unlimited, List.flatten_cons, ← List.append_assoc]
    exact rest

/-- A sink without limits delivers all that it is given. -/
theorem delivers_of_unlimited {sink : Sink} (unlimited : sink.settings = {})
    (writes : List (List UInt8)) : sink.delivers writes = true := by
  rw [delivers_eq, putAll_of_unlimited unlimited]
  rfl

end LoxTokens.Sink
