import PortTunnel.Proofs.Status.Replay
import PortTunnel.Proofs.Tunnel.Moves

/-!
# Calls that overlap

A call first changes the table, which no other call can touch meanwhile.  It then
tells its event, and by that time others may have changed the table.  When the
tasks of several sessions and of the run report at once, each of them is at most
between the two parts of one call.

The table is never wrong: the updates of a forward are as if they had been made by
calls one after another.  But an event can be overtaken by a later one, and then
followers may be told of a forward after it was told to be closed.  The main result
says that they see all forwards as the table has them exactly as long as no event
is overtaken.
-/

namespace PortTunnel.Status

open Tunnel.Session (sampleForward)

/-! ## Parts of calls -/

/-- An update of the table and the event that tells it. -/
structure Ticket where
  /-- The task that makes the call. -/
  caller : Nat
  /-- The number of updates before this one. -/
  place : Nat
  event : Event
  deriving DecidableEq

/-- A board and the calls that are under way. -/
structure Traffic where
  board : Board
  /-- The number of updates so far. -/
  updates : Nat := 0
  /-- The updates whose events have not been told. -/
  pending : List Ticket := []

/-- One part of a call. -/
inductive Happening where
  /-- The table was changed. -/
  | updated (ticket : Ticket)
  /-- A notice was dropped, which ends the call. -/
  | dropped (caller : Nat) (notice : Notice)
  /-- The event was told, which ends the call. -/
  | told (ticket : Ticket)
  deriving DecidableEq

/-- The parts of calls can follow each other in any order, but a task makes one call at a
time. -/
inductive Traffic.Step (traffic : Traffic) : Happening → Traffic → Prop
  | update {caller : Nat} {notice : Notice} {changed : Board}
      (idle : ∀ ticket ∈ traffic.pending, ticket.caller ≠ caller)
      (changes : traffic.board.change? notice = some changed) :
      Step traffic (.updated ⟨caller, traffic.updates, notice.event⟩)
        { board := changed
          updates := traffic.updates + 1
          pending := traffic.pending ++ [⟨caller, traffic.updates, notice.event⟩] }
  | drop {caller : Nat} {notice : Notice}
      (idle : ∀ ticket ∈ traffic.pending, ticket.caller ≠ caller)
      (refused : traffic.board.change? notice = none) :
      Step traffic (.dropped caller notice) traffic
  | tell {ticket : Ticket} (waits : ticket ∈ traffic.pending) :
      Step traffic (.told ticket)
        { traffic with
          board := traffic.board.tell ticket.event
          pending := traffic.pending.erase ticket }

/-! ## What has happened -/

/-- The update that a part made. -/
def Happening.update? : Happening → Option Ticket
  | updated ticket => some ticket
  | _ => none

/-- The update whose event a part told. -/
def Happening.telling? : Happening → Option Ticket
  | told ticket => some ticket
  | _ => none

/-- All updates, in the order in which they took effect. -/
def updatesIn (history : List Happening) : List Ticket :=
  history.filterMap Happening.update?

/-- The updates whose events were told, in the order in which they were. -/
def tellingsIn (history : List Happening) : List Ticket :=
  history.filterMap Happening.telling?

/-- The updates of one forward. -/
def about (id : String) (tickets : List Ticket) : List Ticket :=
  tickets.filter (·.event.id == id)

theorem mem_about_iff {id : String} {ticket : Ticket} {tickets : List Ticket} :
    ticket ∈ about id tickets ↔ ticket ∈ tickets ∧ ticket.event.id = id := by
  simp [about]

theorem about_append (id : String) (first second : List Ticket) :
    about id (first ++ second) = about id first ++ about id second :=
  List.filter_append ..

theorem about_singleton (id : String) (ticket : Ticket) :
    about id [ticket] = if ticket.event.id = id then [ticket] else [] := by
  by_cases same : ticket.event.id = id <;> simp [about, same]

section Histories

variable (history : List Happening) (ticket : Ticket) (caller : Nat) (notice : Notice)

@[simp]
theorem updatesIn_updated :
    updatesIn (history ++ [.updated ticket]) = updatesIn history ++ [ticket] := by
  simp [updatesIn, Happening.update?]

@[simp]
theorem updatesIn_dropped :
    updatesIn (history ++ [.dropped caller notice]) = updatesIn history := by
  simp [updatesIn, Happening.update?]

@[simp]
theorem updatesIn_told : updatesIn (history ++ [.told ticket]) = updatesIn history := by
  simp [updatesIn, Happening.update?]

@[simp]
theorem tellingsIn_updated : tellingsIn (history ++ [.updated ticket]) = tellingsIn history := by
  simp [tellingsIn, Happening.telling?]

@[simp]
theorem tellingsIn_dropped :
    tellingsIn (history ++ [.dropped caller notice]) = tellingsIn history := by
  simp [tellingsIn, Happening.telling?]

@[simp]
theorem tellingsIn_told :
    tellingsIn (history ++ [.told ticket]) = tellingsIn history ++ [ticket] := by
  simp [tellingsIn, Happening.telling?]

end Histories

/-! ## Nothing is lost -/

/-- What a history tells about the traffic that it leads to from a board. -/
structure Kept (board : Board) (history : List Happening) (traffic : Traffic) : Prop where
  /-- Places tell the order of updates. -/
  ordered : (updatesIn history).Pairwise (·.place < ·.place)
  placed : ∀ ticket ∈ updatesIn history, ticket.place < traffic.updates
  /-- The event of each update has been told, or it will be. -/
  conserved : (updatesIn history).Perm (tellingsIn history ++ traffic.pending)
  past : board.told.size ≤ traffic.board.told.size
  told_eq : ∀ id, traffic.board.toldAbout id board.told.size =
    (about id (tellingsIn history)).map (·.event)
  /-- The updates of a forward make its entry what it is. -/
  mirrors : ∀ id entry, board.entries.get? id = some entry →
    Mirrors traffic.board id entry.view ((about id (updatesIn history)).map (·.event))
  /-- There are none of a forward that is not registered. -/
  unknown : ∀ id, board.entries.get? id = none →
    traffic.board.entries.get? id = none ∧ about id (updatesIn history) = []

section Keeping

variable {board : Board} {history : List Happening} {traffic next : Traffic}

theorem kept_nil (board : Board) : Kept board [] { board := board } := by
  constructor
  case ordered => exact .nil
  case placed => exact nofun
  case conserved => exact .nil
  case past => exact Nat.le_refl _
  case told_eq => exact fun id => board.toldAbout_size id
  case mirrors => exact fun id entry found => .begun found
  case unknown => exact fun id absent => ⟨absent, rfl⟩

theorem Kept.update {notice : Notice} {changed : Board} (kept : Kept board history traffic)
    (caller : Nat) (changes : traffic.board.change? notice = some changed) :
    Kept board (history ++ [.updated ⟨caller, traffic.updates, notice.event⟩])
      { board := changed
        updates := traffic.updates + 1
        pending := traffic.pending ++ [⟨caller, traffic.updates, notice.event⟩] } := by
  have same_told : changed.told = traffic.board.told := by
    obtain ⟨-, rfl⟩ := Board.change?_eq_some_iff.1 changes
    rfl
  constructor
  case ordered =>
    rw [updatesIn_updated]
    refine List.pairwise_append.2 ⟨kept.ordered, List.pairwise_singleton _ _, ?_⟩
    intro ticket member last isLast
    rw [List.mem_singleton.1 isLast]
    exact kept.placed ticket member
  case placed =>
    rw [updatesIn_updated, List.forall_mem_append]
    constructor
    · exact fun ticket member => Nat.lt_succ_of_lt (kept.placed ticket member)
    · simp
  case conserved =>
    rw [updatesIn_updated, tellingsIn_updated, ← List.append_assoc]
    exact kept.conserved.append_right _
  case past => exact same_told ▸ kept.past
  case told_eq =>
    intro id
    rw [tellingsIn_updated, ← kept.told_eq, Board.toldAbout, Board.toldAbout, same_told]
  case mirrors =>
    intro id entry found
    have mirrors := kept.mirrors id entry found
    rw [updatesIn_updated, about_append, about_singleton]
    by_cases same : notice.event.id = id
    · rw [if_pos same, List.map_append]
      exact mirrors.change changes (notice.event_id ▸ same)
    · have different : notice.id ≠ id := notice.event_id ▸ same
      rw [if_neg same, List.append_nil]
      exact mirrors.of_entries_eq
        ((Board.get?_of_change? changes).trans (if_neg (Ne.symm different)))
  case unknown =>
    intro id absent
    obtain ⟨absent', none_⟩ := kept.unknown id absent
    have different : notice.id ≠ id := by
      rintro rfl
      obtain ⟨entry, found, -⟩ := Board.isOpen_iff.1 (Board.change?_eq_some_iff.1 changes).1
      cases absent'.symm.trans found
    constructor
    · rw [Board.get?_of_change? changes, if_neg (Ne.symm different), absent']
    · have elsewhere : notice.event.id ≠ id := notice.event_id ▸ different
      rw [updatesIn_updated, about_append, none_, about_singleton, if_neg elsewhere]
      rfl

theorem Kept.tell {ticket : Ticket} (kept : Kept board history traffic)
    (waits : ticket ∈ traffic.pending) :
    Kept board (history ++ [.told ticket])
      { traffic with
        board := traffic.board.tell ticket.event
        pending := traffic.pending.erase ticket } := by
  constructor
  case ordered => simpa using kept.ordered
  case placed => simpa using kept.placed
  case conserved =>
    rw [updatesIn_told, tellingsIn_told, List.append_assoc]
    exact kept.conserved.trans ((List.perm_cons_erase waits).append_left _)
  case past =>
    apply Nat.le_trans kept.past
    rw [Board.tell, Array.size_push]
    exact Nat.le_succ _
  case told_eq =>
    intro id
    rw [Board.toldAbout_tell _ kept.past, kept.told_eq, tellingsIn_told, about_append,
      about_singleton, List.map_append]
    split <;> rfl
  case mirrors =>
    intro id entry found
    rw [updatesIn_told]
    exact (kept.mirrors id entry found).of_entries_eq rfl
  case unknown =>
    intro id absent
    rw [updatesIn_told]
    exact kept.unknown id absent

theorem Kept.drop (kept : Kept board history traffic) (caller : Nat) (notice : Notice) :
    Kept board (history ++ [.dropped caller notice]) traffic := by
  constructor
  case ordered => simpa using kept.ordered
  case placed => simpa using kept.placed
  case conserved => simpa using kept.conserved
  case past => exact kept.past
  case told_eq => simpa using kept.told_eq
  case mirrors => simpa using kept.mirrors
  case unknown => simpa using kept.unknown

theorem kept_of_trail (trail : Trail Traffic.Step { board := board } history traffic) :
    Kept board history traffic := by
  induction trail with
  | here => exact kept_nil board
  | onward _ step ih =>
      cases step with
      | update idle changes => exact ih.update _ changes
      | drop => exact ih.drop _ _
      | tell waits => exact ih.tell waits

theorem Kept.conserved_about (kept : Kept board history traffic) (id : String) :
    (about id (updatesIn history)).Perm
      (about id (tellingsIn history) ++ about id traffic.pending) := by
  rw [← about_append]
  exact kept.conserved.filter _

/-- No update of a forward comes after one that closes it. -/
theorem Kept.closing (kept : Kept board history traffic) (id : String) {early late : List Event}
    {message : Option String}
    (events_eq : (about id (updatesIn history)).map (·.event) =
      early ++ .stateChanged id .closed message :: late) : late = [] := by
  cases found : board.entries.get? id with
  | none => simp [(kept.unknown id found).2] at events_eq
  | some entry => exact ((kept.mirrors id entry found).closing early late message events_eq).1

/-- No update is told twice. -/
theorem Kept.nodup (kept : Kept board history traffic) :
    (tellingsIn history ++ traffic.pending).Nodup := by
  apply kept.conserved.nodup
  refine kept.ordered.imp fun before same => ?_
  rw [same] at before
  exact Nat.lt_irrefl _ before

end Keeping

/-! ## Overtaking -/

/-- The event of an update was told while that of an earlier one of the same forward was still
to be told. -/
def Overtaken (id : String) (history : List Happening) : Prop :=
  ∃ early ticket late other,
    history = early ++ .told ticket :: late ∧ ticket.event.id = id ∧
      other ∈ about id (updatesIn early) ∧ other ∉ tellingsIn early ∧ other.place < ticket.place

/-- What followers are told of a forward agrees with the table. -/
structure Orderly (board : Board) (id : String) (history : List Happening) (traffic : Traffic) :
    Prop where
  /-- Events are told in the order in which their updates took effect. -/
  inOrder : about id (tellingsIn history) <+: about id (updatesIn history)
  /-- Nothing is told after the forward was told to be closed. -/
  closedLast : ∀ early late message, traffic.board.toldAbout id board.told.size =
    early ++ .stateChanged id .closed message :: late → late = []
  /-- When no event is still to be told, all that were tell what the table shows. -/
  shown : about id traffic.pending = [] → ∀ entry, board.entries.get? id = some entry →
    ∃ entry', traffic.board.entries.get? id = some entry' ∧
      entry'.view = entry.view.replay (traffic.board.toldAbout id board.told.size)

section Overtaking

variable {board : Board} {history : List Happening} {traffic next : Traffic} {id : String}
  {ticket : Ticket} {happening : Happening}

theorem Overtaken.onward (overtaken : Overtaken id history) (happening : Happening) :
    Overtaken id (history ++ [happening]) := by
  obtain ⟨early, ticket, late, other, rfl, about_, updated, untold, before⟩ := overtaken
  exact ⟨early, ticket, late ++ [happening], other, by simp, about_, updated, untold, before⟩

/-- If an event is told that is not the next one in order, it overtakes that one. -/
theorem Kept.overtaken_or_next (kept : Kept board history traffic)
    (waits : ticket ∈ traffic.pending) (about_ : ticket.event.id = id)
    (inOrder : about id (tellingsIn history) <+: about id (updatesIn history)) :
    Overtaken id (history ++ [.told ticket]) ∨
      about id (tellingsIn history) ++ [ticket] <+: about id (updatesIn history) := by
  obtain ⟨rest, parts⟩ := inOrder
  have updated : ticket ∈ about id (updatesIn history) :=
    mem_about_iff.2 ⟨kept.conserved.mem_iff.2 (List.mem_append_right _ waits), about_⟩
  have untold : ticket ∉ tellingsIn history := fun told =>
    (List.nodup_append.1 kept.nodup).2.2 ticket told ticket waits rfl
  have sorted : (about id (updatesIn history)).Pairwise (·.place < ·.place) :=
    kept.ordered.filter _
  have nodup : (about id (updatesIn history)).Nodup :=
    (kept.conserved.nodup_iff.2 kept.nodup).filter _
  rw [← parts] at updated sorted nodup
  have inRest : ticket ∈ rest := by
    rcases List.mem_append.1 updated with told | later
    · exact (untold (mem_about_iff.1 told).1).elim
    · exact later
  cases rest with
  | nil => cases inRest
  | cons first rest =>
      rcases List.mem_cons.1 inRest with rfl | later
      · exact .inr ⟨rest, by rw [← parts]; simp⟩
      · have isUpdate : first ∈ about id (updatesIn history) := by simp [← parts]
        have isUntold : first ∉ tellingsIn history := fun told =>
          (List.nodup_append.1 nodup).2.2 first
            (mem_about_iff.2 ⟨told, (mem_about_iff.1 isUpdate).2⟩) first List.mem_cons_self rfl
        have before : first.place < ticket.place :=
          (List.pairwise_cons.1 (List.pairwise_append.1 sorted).2.1).1 ticket later
        exact .inl ⟨history, ticket, [], first, rfl, about_, isUpdate, isUntold, before⟩

/-- Events are told in order as long as none is overtaken. -/
theorem inOrder_of_not_overtaken
    (trail : Trail Traffic.Step { board := board } history traffic)
    (smooth : ¬ Overtaken id history) :
    about id (tellingsIn history) <+: about id (updatesIn history) := by
  induction trail with
  | here => exact List.prefix_rfl
  | @onward history middle happening last trail step ih =>
      have inOrder := ih fun overtaken => smooth (overtaken.onward happening)
      cases step with
      | update =>
          rw [updatesIn_updated, tellingsIn_updated, about_append]
          exact inOrder.trans (List.prefix_append _ _)
      | drop =>
          rw [updatesIn_dropped, tellingsIn_dropped]
          exact inOrder
      | @tell ticket waits =>
          rw [updatesIn_told, tellingsIn_told, about_append, about_singleton]
          by_cases about_ : ticket.event.id = id
          · rw [if_pos about_]
            have kept := kept_of_trail trail
            rcases kept.overtaken_or_next waits about_ inOrder with overtaken | next
            · exact (smooth overtaken).elim
            · exact next
          · rw [if_neg about_, List.append_nil]
            exact inOrder

/-- An event that overtakes another is told out of order. -/
theorem Kept.not_overtaken (kept : Kept board history traffic)
    (inOrder : about id (tellingsIn history) <+: about id (updatesIn history)) :
    ¬ Overtaken id history := by
  rintro ⟨early, ticket, late, other, rfl, about_, updated, untold, before⟩
  have updates_eq : updatesIn (early ++ .told ticket :: late) =
      updatesIn early ++ updatesIn late := by
    rw [updatesIn, List.filterMap_append]
    rfl
  have tellings_eq : about id (tellingsIn (early ++ .told ticket :: late)) =
      about id (tellingsIn early) ++ ticket :: about id (tellingsIn late) := by
    simp [tellingsIn, Happening.telling?, about, about_]
  have sorted : (about id (updatesIn (early ++ .told ticket :: late))).Pairwise
      (·.place < ·.place) :=
    kept.ordered.filter _
  have isUpdate : other ∈ about id (updatesIn (early ++ .told ticket :: late)) := by
    rw [updates_eq, about_append]
    exact List.mem_append_left _ updated
  obtain ⟨rest, parts⟩ := inOrder
  rw [tellings_eq, List.append_assoc, List.cons_append] at parts
  rw [← parts] at sorted isUpdate
  -- The other event was not told before this one, so it comes later in the order of places.
  rcases List.mem_append.1 isUpdate with told | member
  · exact untold (mem_about_iff.1 told).1
  · rcases List.mem_cons.1 member with rfl | later
    · exact Nat.lt_irrefl _ before
    · have after := (List.pairwise_cons.1 (List.pairwise_append.1 sorted).2.1).1 other later
      exact Nat.lt_asymm before after

end Overtaking

/-- Calls on a board may overlap in any way.  The events of a forward agree with the table exactly
if none of them is told while an earlier one is still to be told. -/
theorem orderly_iff_not_overtaken {board : Board} {history : List Happening} {traffic : Traffic}
    (trail : Trail Traffic.Step { board := board } history traffic) (id : String) :
    Orderly board id history traffic ↔ ¬ Overtaken id history := by
  have kept := kept_of_trail trail
  constructor
  · exact fun orderly => kept.not_overtaken orderly.inOrder
  · intro smooth
    have inOrder := inOrder_of_not_overtaken trail smooth
    constructor
    case inOrder => exact inOrder
    case closedLast =>
      intro early late message told_eq
      rw [kept.told_eq] at told_eq
      obtain ⟨rest, parts⟩ := inOrder
      have events_eq := congrArg (List.map (·.event)) parts
      rw [List.map_append, told_eq, List.append_assoc, List.cons_append] at events_eq
      exact (List.append_eq_nil_iff.1 (kept.closing id events_eq.symm)).1
    case shown =>
      intro none_ entry found
      have same : about id (tellingsIn history) = about id (updatesIn history) := by
        apply inOrder.eq_of_length
        rw [(kept.conserved_about id).length_eq, none_, List.append_nil]
      rw [kept.told_eq, same]
      exact (kept.mirrors id entry found).shown

/-! ## Two calls on one forward -/

/-- A board with a forward that connects. -/
def connectingBoard : Board :=
  ((default : Board).register sampleForward).report sampleForward.id .connecting none

/-- The session of the forward reports that it is active. -/
def activation : Notice :=
  .report sampleForward.id .active none

/-- The run reports that it has not waited any longer for the session. -/
def abandonment : Notice :=
  .report sampleForward.id .closed (some (.shutdownTimeout { nanos := 5000000000 }))

/-- Both have changed the table, first the session and then the run, and neither has told its
event. -/
def underWay : Traffic where
  board := { connectingBoard with
    entries := (connectingBoard.entries.modify sampleForward.id activation.apply).modify
      sampleForward.id abandonment.apply }
  updates := 2
  pending := [⟨0, 0, activation.event⟩, ⟨1, 1, abandonment.event⟩]

theorem trail_underWay :
    Trail Traffic.Step { board := connectingBoard }
      [.updated ⟨0, 0, activation.event⟩, .updated ⟨1, 1, abandonment.event⟩] underWay := by
  have first := @Traffic.Step.update { board := connectingBoard } 0 activation _ nofun rfl
  refine Trail.cons first (.single (@Traffic.Step.update _ 1 abandonment _ ?_ rfl))
  intro ticket member
  rw [List.mem_singleton.1 member]
  exact Nat.zero_ne_one

/-- If the session tells its event first, followers see the forward active and then closed. -/
theorem reports_in_order_are_orderly :
    ∃ history traffic, Trail Traffic.Step { board := connectingBoard } history traffic ∧
      traffic.board.toldAbout sampleForward.id connectingBoard.told.size =
        [activation.event, abandonment.event] ∧
          Orderly connectingBoard sampleForward.id history traffic := by
  have telling := trail_underWay.onward (.tell List.mem_cons_self)
  have trail := telling.onward (.tell List.mem_cons_self)
  refine ⟨_, _, trail, rfl, (orderly_iff_not_overtaken trail _).2 ?_⟩
  rintro ⟨early, ticket, late, other, history_eq, -, updated, untold, before⟩
  rcases concat_eq_append_cons history_eq with ⟨rfl, told_eq, -⟩ | ⟨rest, history_eq, -⟩
  · -- When the run tells its event, the session has told the only earlier one.
    cases told_eq
    rcases List.mem_cons.1 (mem_about_iff.1 updated).1 with rfl | member
    · exact untold List.mem_cons_self
    · rw [List.mem_singleton.1 member] at before
      exact Nat.lt_irrefl _ before
  · rcases concat_eq_append_cons history_eq with ⟨rfl, told_eq, -⟩ | ⟨rest, history_eq, -⟩
    · cases told_eq
      exact Nat.not_lt_zero _ before
    · have isTold : .told ticket ∈ early ++ .told ticket :: rest := by simp
      rw [← history_eq] at isTold
      simp at isTold

/-- If the run tells its event first, followers see the forward closed and then active again,
which the table does not show. -/
theorem closed_forward_comes_back :
    ∃ history traffic, Trail Traffic.Step { board := connectingBoard } history traffic ∧
      traffic.pending = [] ∧ traffic.board.state? sampleForward.id = some .closed ∧
        traffic.board.toldAbout sampleForward.id connectingBoard.told.size =
          [abandonment.event, activation.event] ∧
            ¬ Orderly connectingBoard sampleForward.id history traffic := by
  have telling := trail_underWay.onward (.tell (List.mem_cons_of_mem _ List.mem_cons_self))
  have trail := telling.onward (.tell List.mem_cons_self)
  refine ⟨_, _, trail, rfl, rfl, rfl, fun orderly => ?_⟩
  have nothing := orderly.closedLast [] [activation.event] _ rfl
  cases nothing

end PortTunnel.Status
