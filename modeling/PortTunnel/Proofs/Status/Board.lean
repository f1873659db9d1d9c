import PortTunnel.Proofs.NameMap
import PortTunnel.Status.Snapshot

/-!
# What a board shows

What a board answers about a forward after a report.  A report changes one entry
and only while that is open, so a closed forward stays as it is.
-/

namespace PortTunnel.Status.Board

variable (board : Board) (id other : String)

theorem get?_report (state : State) (failure : Option Failure) :
    (board.report id state failure).entries.get? other =
      if other = id ∧ board.isOpen id = true then
        (board.entries.get? other).map (·.reported state failure)
      else board.entries.get? other := by
  cases isOpen : board.isOpen id with
  | false => simp [report, update?, isOpen]
  | true =>
      by_cases same : other = id
      · simp [report, update?, isOpen, tell, same]
      · simp [report, update?, isOpen, tell, same]

theorem get?_reportRetry (attempt : UInt32) (delay : Span) :
    (board.reportRetry id attempt delay).entries.get? other =
      if other = id ∧ board.isOpen id = true then
        (board.entries.get? other).map fun entry => { entry with retryCount := attempt }
      else board.entries.get? other := by
  cases isOpen : board.isOpen id with
  | false => simp [reportRetry, updateRetry?, isOpen]
  | true =>
      by_cases same : other = id
      · simp [reportRetry, updateRetry?, isOpen, tell, same]
      · simp [reportRetry, updateRetry?, isOpen, tell, same]

/-- The state of an entry after a report is the reported one. -/
@[simp]
theorem reported_state (entry : Entry) (state : State) (failure : Option Failure) :
    (entry.reported state failure).state = state := by
  cases state <;> rfl

variable {board id}

/-- Reports on a forward are accepted if it has an entry that is not closed. -/
theorem isOpen_iff :
    board.isOpen id = true ↔
      ∃ entry, board.entries.get? id = some entry ∧ entry.state ≠ .closed := by
  unfold isOpen state?
  cases found : board.entries.get? id with
  | none => simp
  | some entry => cases state_eq : entry.state <;> simp [state_eq]

theorem not_isOpen_of_closed (closed : board.state? id = some .closed) :
    board.isOpen id = false := by
  simp [isOpen, closed]

/-- A forward that has an entry is open or closed. -/
theorem isOpen_or_closed (entered : (board.entries.get? id).isSome = true) :
    board.isOpen id = true ∨ board.state? id = some .closed := by
  obtain ⟨entry, found⟩ := Option.isSome_iff_exists.1 entered
  by_cases state_eq : entry.state = .closed
  · exact .inr (by simp [state?, found, state_eq])
  · exact .inl (isOpen_iff.2 ⟨entry, found, state_eq⟩)

/-- A report shows if it is accepted. -/
theorem state?_report (state : State) (failure : Option Failure) :
    (board.report id state failure).state? other =
      if other = id ∧ board.isOpen id = true then some state else board.state? other := by
  unfold state?
  rw [get?_report]
  split
  · rename_i accepted
    obtain ⟨entry, found, -⟩ := isOpen_iff.1 accepted.2
    rw [accepted.1, found]
    simp
  · rfl

/-- Announcing a retry changes no state. -/
@[simp]
theorem state?_reportRetry (attempt : UInt32) (delay : Span) :
    (board.reportRetry id attempt delay).state? other = board.state? other := by
  unfold state?
  rw [get?_reportRetry]
  split
  · simp [Option.map_map, Function.comp_def]
  · rfl

/-- A forward that is entered shows as idle. -/
theorem get?_register (forward : Forward) :
    (board.register forward).entries.get? other =
      if other = forward.id then some { forward := forward } else board.entries.get? other :=
  NameMap.get?_insert _ _ _ _

/-- A snapshot shows the entries of the board. -/
theorem get?_snapshot (counters : String → Counters) :
    (board.snapshot counters).get? other =
      (board.entries.get? other).map fun entry => ⟨entry, counters other⟩ := by
  simp only [NameMap.get?, snapshot, List.find?_map, Function.comp_def, Option.map_map]
  cases found : board.entries.toList.find? (·.1 == other) with
  | none => rfl
  | some entry =>
      obtain rfl : entry.1 = other := by simpa using List.find?_some found
      rfl

end PortTunnel.Status.Board
