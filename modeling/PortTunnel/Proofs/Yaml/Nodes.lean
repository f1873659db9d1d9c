import PortTunnel.Yaml.Document
import PortTunnel.Yaml.Scalar

/-!
# The tree of a document

The events of a document tell off a tree of nodes.  A document shows a node at a
position when the events from there on are those of the node.  It shows no two
nodes at one position, so the tree of a document is settled by its events.
-/

namespace PortTunnel.Yaml

/-- A node of a document, with all the nodes that are in it. -/
inductive Node where
  | alias (anchor : Nat)
  | scalar (tag : Tag) (content : String) (style : Style)
  | sequence (items : List Node)
  | mapping (entries : List (Node × Node))
  /-- What an empty text holds. -/
  | void

namespace Node

mutual

/-- The events that tell off a node. -/
def events : Node → List Event
  | .alias anchor => [.alias anchor]
  | .scalar tag content style => [.scalar tag content style]
  | .sequence items => .sequenceStart :: (itemsEvents items ++ [.sequenceEnd])
  | .mapping entries => .mappingStart :: (entriesEvents entries ++ [.mappingEnd])
  | .void => [.void]

/-- The events of the items of a sequence. -/
def itemsEvents : List Node → List Event
  | [] => []
  | item :: rest => item.events ++ itemsEvents rest

/-- The events of the entries of a mapping. -/
def entriesEvents : List (Node × Node) → List Event
  | [] => []
  | (key, value) :: rest => key.events ++ (value.events ++ entriesEvents rest)

end

/-- The first event of a node. -/
def start : Node → Event
  | .alias anchor => .alias anchor
  | .scalar tag content style => .scalar tag content style
  | .sequence _ => .sequenceStart
  | .mapping _ => .mappingStart
  | .void => .void

theorem events_eq_cons (node : Node) : ∃ rest, node.events = node.start :: rest := by
  cases node <;> simp [events, start]

theorem start_ne_sequenceEnd (node : Node) : node.start ≠ .sequenceEnd := by
  cases node <;> simp [start]

theorem start_ne_mappingEnd (node : Node) : node.start ≠ .mappingEnd := by
  cases node <;> simp [start]

theorem length_events_pos (node : Node) : 0 < node.events.length := by
  obtain ⟨rest, parts⟩ := node.events_eq_cons
  simp [parts]

end Node

namespace Document

variable {document : Document}

theorem event_eq_ok_iff {position : Nat} {event : Event} :
    document.event position = .ok event ↔ document.events[position]? = some event := by
  cases found : document.events[position]? <;> simp [Document.event, found]

/-! ## What a document shows -/

/-- The events from a position on start with the given ones. -/
def Shows (document : Document) : Nat → List Event → Prop
  | _, [] => True
  | position, event :: rest =>
      document.events[position]? = some event ∧ document.Shows (position + 1) rest

instance decidableShows (document : Document) :
    ∀ position events, Decidable (document.Shows position events)
  | _, [] => isTrue trivial
  | position, _ :: rest =>
      have := decidableShows document (position + 1) rest
      inferInstanceAs (Decidable (_ ∧ _))

theorem shows_cons {position : Nat} {event : Event} {rest : List Event} :
    document.Shows position (event :: rest) ↔
      document.event position = .ok event ∧ document.Shows (position + 1) rest := by
  rw [event_eq_ok_iff]
  rfl

theorem shows_append {position : Nat} {events more : List Event} :
    document.Shows position (events ++ more) ↔
      document.Shows position events ∧ document.Shows (position + events.length) more := by
  induction events generalizing position with
  | nil => simp [Shows]
  | cons event rest ih =>
      rw [List.cons_append, shows_cons, shows_cons, ih, List.length_cons, Nat.add_assoc,
        Nat.add_comm 1, and_assoc]

/-- What is shown lies within the document. -/
theorem Shows.le_size {position : Nat} {events : List Event}
    (shown : document.Shows position events) (within : position ≤ document.events.size) :
    position + events.length ≤ document.events.size := by
  induction events generalizing position with
  | nil => exact within
  | cons event rest ih =>
      have before : position < document.events.size := (Array.getElem?_eq_some_iff.1 shown.1).1
      have behind := ih shown.2 before
      rw [List.length_cons]
      omega

theorem Shows.event {position : Nat} {node : Node} (shown : document.Shows position node.events) :
    document.event position = .ok node.start := by
  obtain ⟨rest, parts⟩ := node.events_eq_cons
  rw [parts] at shown
  exact (shows_cons.1 shown).1

theorem Shows.start_eq {position : Nat} {node other : Node}
    (shown : document.Shows position node.events)
    (shown' : document.Shows position other.events) : node.start = other.start :=
  Except.ok.inj (shown.event.symm.trans shown'.event)

mutual

/-- At a position a document shows at most one node. -/
theorem Shows.unique {position : Nat} : ∀ {node other : Node},
    document.Shows position node.events → document.Shows position other.events → node = other
  | .alias _, other, shown, shown' => by
      have same := shown.start_eq shown'
      cases other <;> simp_all [Node.start]
  | .scalar .., other, shown, shown' => by
      have same := shown.start_eq shown'
      cases other <;> simp_all [Node.start]
  | .void, other, shown, shown' => by
      have same := shown.start_eq shown'
      cases other <;> simp_all [Node.start]
  | .sequence items, other, shown, shown' => by
      have same := shown.start_eq shown'
      cases other with
      | sequence others => rw [Shows.items_unique shown.2 shown'.2]
      | _ => simp [Node.start] at same
  | .mapping entries, other, shown, shown' => by
      have same := shown.start_eq shown'
      cases other with
      | mapping others => rw [Shows.entries_unique shown.2 shown'.2]
      | _ => simp [Node.start] at same

/-- At a position a document shows the items of at most one sequence. -/
theorem Shows.items_unique {position : Nat} : ∀ {items others : List Node},
    document.Shows position (Node.itemsEvents items ++ [.sequenceEnd]) →
      document.Shows position (Node.itemsEvents others ++ [.sequenceEnd]) → items = others
  | [], [], _, _ => rfl
  | [], other :: _, shown, shown' => by
      rw [Node.itemsEvents, List.append_assoc, shows_append] at shown'
      exact absurd (Except.ok.inj (shown'.1.event.symm.trans (shows_cons.1 shown).1))
        other.start_ne_sequenceEnd
  | item :: _, [], shown, shown' => by
      rw [Node.itemsEvents, List.append_assoc, shows_append] at shown
      exact absurd (Except.ok.inj (shown.1.event.symm.trans (shows_cons.1 shown').1))
        item.start_ne_sequenceEnd
  | item :: rest, other :: others, shown, shown' => by
      rw [Node.itemsEvents, List.append_assoc, shows_append] at shown shown'
      obtain rfl := Shows.unique shown.1 shown'.1
      rw [Shows.items_unique shown.2 shown'.2]

/-- At a position a document shows the entries of at most one mapping. -/
theorem Shows.entries_unique {position : Nat} : ∀ {entries others : List (Node × Node)},
    document.Shows position (Node.entriesEvents entries ++ [.mappingEnd]) →
      document.Shows position (Node.entriesEvents others ++ [.mappingEnd]) → entries = others
  | [], [], _, _ => rfl
  | [], (key, _) :: _, shown, shown' => by
      rw [Node.entriesEvents, List.append_assoc, shows_append] at shown'
      exact absurd (Except.ok.inj (shown'.1.event.symm.trans (shows_cons.1 shown).1))
        key.start_ne_mappingEnd
  | (key, _) :: _, [], shown, shown' => by
      rw [Node.entriesEvents, List.append_assoc, shows_append] at shown
      exact absurd (Except.ok.inj (shown.1.event.symm.trans (shows_cons.1 shown').1))
        key.start_ne_mappingEnd
  | (key, value) :: rest, (key', value') :: others, shown, shown' => by
      rw [Node.entriesEvents, List.append_assoc, shows_append, List.append_assoc, shows_append]
        at shown shown'
      obtain rfl := Shows.unique shown.1 shown'.1
      obtain rfl := Shows.unique shown.2.1 shown'.2.1
      rw [Shows.entries_unique shown.2.2 shown'.2.2]

end

/-! ## Scalars and what refers to them -/

/-- The scalar that a node is or refers to. -/
def scalar? (document : Document) : Node → Option (Tag × String × Style)
  | .scalar tag content style => some (tag, content, style)
  | .alias anchor =>
      match document.event (document.anchorPosition anchor) with
      | .ok (.scalar tag content style) => some (tag, content, style)
      | _ => none
  | .sequence _ | .mapping _ | .void => none

/-- The text that a node is or refers to. -/
def text? (document : Document) (node : Node) : Option String :=
  (document.scalar? node).map fun scalar => scalar.2.1

/-- The natural number of 64 bits that a node is or refers to. -/
def natural? (document : Document) (node : Node) : Option Nat :=
  match document.scalar? node with
  | some (tag, content, style) =>
      if Scalar.mayBeInteger tag style then Scalar.unsigned? (Number.twoTo 64 - 1) content.toList
      else none
  | none => none

/-! ## The root -/

/-- Nothing has been given a name before the first event, and that one is no alias. -/
structure Partial.Rooted (document : Partial) : Prop where
  nameless : document.events.size = 0 → document.names = []
  root : ∀ anchor, document.events[0]? ≠ some (.alias anchor)

theorem Partial.rooted_empty : Partial.empty.Rooted :=
  ⟨fun _ => rfl, by simp [Partial.empty]⟩

theorem Partial.rooted_push {document : Partial} {event : Event}
    (root : ∀ anchor, document.events[0]? ≠ some (.alias anchor))
    (first : document.events.size = 0 → ∀ anchor, event ≠ .alias anchor) :
    (document.push event).Rooted := by
  constructor
  case nameless => simp [Partial.push]
  case root =>
    intro anchor
    rw [Partial.push, Array.getElem?_push]
    split
    case isTrue isLast =>
      rw [Ne, Option.some.injEq]
      exact first isLast.symm anchor
    case isFalse => exact root anchor

theorem Partial.events_setAnchor (document : Partial) (name? : Option String) :
    (document.setAnchor name?).events = document.events := by
  cases name? <;> rfl

/-- The root stays what it is while more is read behind it. -/
theorem root_of_read {isFirst : Bool} {fuel : Nat} {before : Partial} {teller : Teller}
    {document : Document} (rooted : before.Rooted)
    (result : (read isFirst fuel before teller).1 = some document) (anchor : Nat) :
    document.events[0]? ≠ some (.alias anchor) := by
  induction fuel generalizing before teller with
  | zero =>
      obtain rfl := Option.some.inj result
      exact rooted.root anchor
  | succ fuel ih =>
      have closed : ∀ fault?, some (before.close fault?) = some document →
          document.events[0]? ≠ some (.alias anchor) := by
        rintro fault? same
        obtain rfl := Option.some.inj same
        exact rooted.root anchor
      have pushed : ∀ (name? : Option String) {event : Event} {teller : Teller},
          (∀ anchor, event ≠ .alias anchor) →
            (read isFirst fuel ((before.setAnchor name?).push event) teller).1 = some document →
              document.events[0]? ≠ some (.alias anchor) := by
        intro name? event teller other result
        refine ih (Partial.rooted_push ?_ fun _ => other) result
        rw [Partial.events_setAnchor]
        exact rooted.root
      simp only [read] at result
      cases told : teller.tell with
      | error fault => exact closed _ (by simpa only [told] using result)
      | ok next =>
        obtain ⟨happening, teller⟩ := next
        simp only [told] at result
        cases happening with
        | streamStart | documentStart => exact ih rooted result
        | streamEnd =>
            dsimp only at result
            split at result
            · split at result
              · obtain rfl := Option.some.inj result
                exact (Partial.rooted_push rooted.root fun _ _ => Event.noConfusion).root anchor
              · exact closed _ result
            · cases result
        | documentEnd => exact closed _ result
        | «alias» name =>
            dsimp only at result
            split at result
            · rename_i found
              -- An alias has a name to refer to, and so it is not the first event.
              refine ih (Partial.rooted_push rooted.root fun empty => ?_) result
              simp [rooted.nameless empty] at found
            · exact closed _ result
        | scalar name? tag content style => exact pushed name? (fun _ => Event.noConfusion) result
        | sequenceStart name? => exact pushed name? (fun _ => Event.noConfusion) result
        | mappingStart name? => exact pushed name? (fun _ => Event.noConfusion) result
        | sequenceEnd => exact pushed none (fun _ => Event.noConfusion) result
        | mappingEnd => exact pushed none (fun _ => Event.noConfusion) result

/-- The root of a text refers to nothing. -/
theorem root_ofText (text : String) (anchor : Nat) :
    (ofText text).1.event 0 ≠ .ok (.alias anchor) := by
  rw [Ne, event_eq_ok_iff]
  simp only [ofText]
  split
  case isFalse => simp
  case isTrue =>
    have root := @root_of_read true (stepLimit (unmarked text)) .empty
      (Teller.ofText (unmarked text))
    split
    case h_1 document teller told =>
      rw [told] at root
      split <;> exact root Partial.rooted_empty rfl anchor
    case h_2 document told =>
      rw [told] at root
      exact root Partial.rooted_empty rfl anchor
    case h_3 => simp

end Document

end PortTunnel.Yaml
