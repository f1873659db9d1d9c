import Mathlib.Data.List.Induction
import PortTunnel.Proofs.Forward.Identity
import PortTunnel.Proofs.Status.Replay

/-!
# Forwards that share a board

A board knows forwards by their ids alone.  What it shows and tells of an id comes from the
calls about that id, whatever else is called before, between and after them.  The ids of
plain forwards are as good as the forwards themselves.  So a board that serves many of them
has one entry for each identity, and shows and tells of a forward what a board would that
serves nobody else.
-/

namespace PortTunnel.Status

variable {board other : Board} {id : String} {calls : List Call}

/-! ## What calls do to one id -/

namespace Board

theorem get?_notify (board : Board) (notice : Notice) (id : String) :
    (board.notify notice).entries.get? id =
      if id = notice.id ∧ board.isOpen notice.id = true then
        (board.entries.get? id).map notice.apply
      else board.entries.get? id := by
  cases notice with
  | report of state failure => exact board.get?_report of id state failure
  | retry of attempt delay => exact board.get?_reportRetry of id attempt delay

/-- Two boards show the same of an id and have told the same about it. -/
structure AgreesOn (board other : Board) (id : String) : Prop where
  entry_eq : board.entries.get? id = other.entries.get? id
  told_eq : board.toldAbout id 0 = other.toldAbout id 0

namespace AgreesOn

theorem isOpen_eq (agrees : board.AgreesOn other id) : board.isOpen id = other.isOpen id := by
  simp only [isOpen, state?, agrees.entry_eq]

/-- A notice does the same to both boards. -/
theorem notify {notice : Notice} (agrees : board.AgreesOn other notice.id) :
    (board.notify notice).AgreesOn (other.notify notice) notice.id := by
  constructor
  case entry_eq => rw [get?_notify, get?_notify, agrees.isOpen_eq, agrees.entry_eq]
  case told_eq =>
    -- Both boards accept the notice, or neither does.
    cases isOpen : board.isOpen notice.id with
    | false =>
        have isOpen' : other.isOpen notice.id = false := agrees.isOpen_eq.symm.trans isOpen
        rw [notify_of_dropped (change?_eq_none_iff.2 isOpen),
          notify_of_dropped (change?_eq_none_iff.2 isOpen'), agrees.told_eq]
    | true =>
        have isOpen' : other.isOpen notice.id = true := agrees.isOpen_eq.symm.trans isOpen
        rw [toldAbout_notify (change?_eq_some_iff.2 ⟨isOpen, rfl⟩) (Nat.zero_le _),
          toldAbout_notify (change?_eq_some_iff.2 ⟨isOpen', rfl⟩) (Nat.zero_le _), agrees.told_eq]

/-- So does any call about the id. -/
theorem perform {call : Call} (agrees : board.AgreesOn other call.id) :
    (board.perform call).AgreesOn (other.perform call) call.id := by
  cases call with
  | notify notice => exact agrees.notify
  | register forward =>
      constructor
      case entry_eq =>
        have registered (board : Board) :
            (board.register forward).entries.get? forward.id = some { forward := forward } :=
          (get?_register _ _).trans (if_pos rfl)
        exact (registered board).trans (registered other).symm
      case told_eq => exact agrees.told_eq

/-- A call about another id makes no difference. -/
theorem perform_of_ne {call : Call} (agrees : board.AgreesOn other id) (elsewhere : call.id ≠ id) :
    (board.perform call).AgreesOn other id where
  entry_eq := (get?_perform_of_ne _ elsewhere).trans agrees.entry_eq
  told_eq := (toldAbout_perform_of_ne (Nat.zero_le _) elsewhere).trans agrees.told_eq

/-- The calls about other ids can be left out. -/
theorem performAll (agrees : board.AgreesOn other id) (calls : List Call) :
    (board.performAll calls).AgreesOn (other.performAll (calls.filter (·.id == id))) id := by
  induction calls generalizing board other with
  | nil => exact agrees
  | cons call calls ih =>
      by_cases about : call.id = id
      · rw [List.filter_cons_of_pos (by simpa using about)]
        subst about
        exact ih agrees.perform
      · rw [List.filter_cons_of_neg (by simpa using about)]
        exact ih (agrees.perform_of_ne about)

end AgreesOn

end Board

/-! ## What is entered -/

/-- A report leaves an entry with its forward. -/
@[simp]
theorem Entry.forward_reported (entry : Entry) (state : State) (failure : Option Failure) :
    (entry.reported state failure).forward = entry.forward := by
  cases state <;> rfl

theorem Notice.forward_apply (notice : Notice) (entry : Entry) :
    (notice.apply entry).forward = entry.forward := by
  cases notice with
  | report id state failure => exact entry.forward_reported state failure
  | retry id attempt delay => rfl

namespace Board

/-- The board has an entry for each id that was registered, for a forward that was. -/
structure Enters (calls : List Call) (board : Board) : Prop where
  registered : ∀ id entry, board.entries.get? id = some entry →
    entry.forward.id = id ∧ .register entry.forward ∈ calls
  entered : ∀ forward, .register forward ∈ calls →
    ∃ entry, board.entries.get? forward.id = some entry

theorem Enters.register (enters : Enters calls board) (forward : Forward) :
    Enters (calls ++ [.register forward]) (board.register forward) := by
  constructor
  case registered =>
    intro id entry found
    rw [get?_register] at found
    split at found
    · rename_i same
      cases found
      exact ⟨same.symm, List.mem_append_right _ List.mem_cons_self⟩
    · exact (enters.registered id entry found).imp_right (List.mem_append_left _)
  case entered =>
    intro other member
    rw [get?_register]
    split
    · exact ⟨_, rfl⟩
    · rename_i different
      rcases List.mem_append.1 member with before | last
      · exact enters.entered other before
      · cases List.mem_singleton.1 last
        exact (different rfl).elim

theorem Enters.notify (enters : Enters calls board) (notice : Notice) :
    Enters (calls ++ [.notify notice]) (board.notify notice) := by
  constructor
  case registered =>
    intro id entry found
    have grown {forward : Forward} (member : .register forward ∈ calls) :
        .register forward ∈ calls ++ [.notify notice] := List.mem_append_left _ member
    rw [get?_notify] at found
    split at found
    · obtain ⟨before, foundBefore, rfl⟩ := Option.map_eq_some_iff.1 found
      rw [notice.forward_apply]
      exact (enters.registered id before foundBefore).imp_right grown
    · exact (enters.registered id entry found).imp_right grown
  case entered =>
    intro forward member
    obtain ⟨entry, found⟩ := enters.entered forward (by simpa using member)
    rw [get?_notify, found]
    split
    · exact ⟨_, rfl⟩
    · exact ⟨_, rfl⟩

theorem enters_performAll (calls : List Call) :
    Enters calls ((default : Board).performAll calls) := by
  induction calls using List.reverseRecOn with
  | nil =>
      have absent (id : String) : (default : Board).entries.get? id = none := rfl
      constructor
      case registered =>
        intro id entry found
        cases (absent id).symm.trans found
      case entered =>
        intro forward member
        cases member
  | append_singleton calls call ih =>
      rw [performAll, List.foldl_append]
      cases call with
      | register forward => exact ih.register forward
      | notify notice => exact ih.notify notice

end Board

/-! ## Calls for forwards -/

/-- What is asked of a board for a forward. -/
inductive Request where
  | register
  | report (state : State) (failure : Option Failure)
  | retry (attempt : UInt32) (delay : Span)
  deriving DecidableEq

/-- The call that is made for a forward. -/
def Request.call (forward : Forward) : Request → Call
  | register => .register forward
  | report state failure => .notify (.report forward.id state failure)
  | retry attempt delay => .notify (.retry forward.id attempt delay)

theorem Request.id_call (request : Request) (forward : Forward) :
    (request.call forward).id = forward.id := by
  cases request <;> rfl

/-- The calls that are made for forwards. -/
def callsFor (requests : List (Forward × Request)) : List Call :=
  requests.map fun (forward, request) => request.call forward

/-- The forwards that are registered. -/
def registeredBy (requests : List (Forward × Request)) : List Forward :=
  requests.filterMap fun (forward, request) => if request = .register then some forward else none

/-- The requests for forwards of an identity. -/
def requestsOf (identity : Identity) (requests : List (Forward × Request)) :
    List (Forward × Request) :=
  requests.filter fun (forward, _) => forward.identity = identity

/-- A board that has served forwards has not taken one for another. -/
structure TellsApart (requests : List (Forward × Request)) (board : Board) : Prop where
  /-- It has one entry for each identity that was registered. -/
  names_perm : board.entries.names.Perm
    ((Forward.identities (registeredBy requests)).map Identity.text)
  /-- What it shows of a forward is its own. -/
  own : ∀ forward : Forward, forward.IsPlain → ∀ entry,
    board.entries.get? forward.id = some entry → entry.forward.identity = forward.identity
  /-- All that it shows and tells of a forward comes from the requests for it. -/
  alone : ∀ forward : Forward, forward.IsPlain →
    board.AgreesOn ((default : Board).performAll (callsFor (requestsOf forward.identity requests)))
      forward.id

section Requests

variable {requests : List (Forward × Request)} {forward : Forward}

theorem mem_registeredBy_iff :
    forward ∈ registeredBy requests ↔ (forward, .register) ∈ requests := by
  simp [registeredBy]

theorem register_mem_callsFor_iff :
    .register forward ∈ callsFor requests ↔ forward ∈ registeredBy requests := by
  rw [mem_registeredBy_iff, callsFor, List.mem_map]
  constructor
  · rintro ⟨⟨other, request⟩, member, call_eq⟩
    cases request <;> cases call_eq
    exact member
  · intro member
    exact ⟨_, member, rfl⟩

/-- The calls about the id of a plain forward are those that are made for its identity. -/
theorem callsFor_filter_id (plain : ∀ request ∈ requests, request.1.IsPlain)
    (isPlain : forward.IsPlain) :
    (callsFor requests).filter (·.id == forward.id) =
      callsFor (requestsOf forward.identity requests) := by
  rw [callsFor, callsFor, requestsOf, List.filter_map]
  apply congrArg
  apply List.filter_congr
  intro request member
  rw [Bool.eq_iff_iff]
  simpa [Request.id_call] using Forward.id_eq_id_iff_of_isPlain (plain request member) isPlain

/-- A board tells plain forwards apart, whatever is asked of it for them. -/
theorem tellsApart_of_isPlain (plain : ∀ request ∈ requests, request.1.IsPlain) :
    TellsApart requests ((default : Board).performAll (callsFor requests)) := by
  have enters := Board.enters_performAll (callsFor requests)
  have plain' : ∀ forward ∈ registeredBy requests, forward.IsPlain := by
    intro forward member
    exact plain _ (mem_registeredBy_iff.1 member)
  constructor
  case names_perm =>
    apply Forward.perm_texts plain' (NameMap.nodup_names _)
    intro id
    rw [NameMap.mem_names_iff]
    constructor
    · rintro ⟨entry, found⟩
      obtain ⟨id_eq, member⟩ := enters.registered id entry found
      exact ⟨entry.forward, register_mem_callsFor_iff.1 member, id_eq⟩
    · rintro ⟨forward, member, rfl⟩
      exact enters.entered forward (register_mem_callsFor_iff.2 member)
  case own =>
    intro forward isPlain entry found
    obtain ⟨id_eq, member⟩ := enters.registered forward.id entry found
    apply (Forward.id_eq_id_iff_of_isPlain _ isPlain).1 id_eq
    exact plain' _ (register_mem_callsFor_iff.1 member)
  case alone =>
    intro forward isPlain
    rw [← callsFor_filter_id plain isPlain]
    exact Board.AgreesOn.performAll ⟨rfl, rfl⟩ _

end Requests

end PortTunnel.Status
