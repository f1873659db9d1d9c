import PortTunnel.Proofs.Except
import PortTunnel.Proofs.Yaml.Nodes
import PortTunnel.Schema.Record

/-!
# Where the readings of a YAML document end

Who reads a value takes up the events of one node, and ends behind them; and so does
who passes over a value without reading it.  Two readings that start at one position
thus end at one position, however different they are.
-/

namespace PortTunnel.Schema

open Yaml (Document Event Node)

variable {α β : Type} {document : Document} {path : Path}

/-! ## Positions -/

namespace Position

variable {position middle behind : Position} {fuel : Nat}

/-- The events from one position to another are the given ones. -/
structure Passes (position : Position) (document : Document) (events : List Event)
    (behind : Position) : Prop where
  shown : document.Shows position.event events
  landed : behind.event = position.event + events.length

theorem passes_event {event : Event} (found : document.event position.event = .ok event)
    (landed : behind.event = position.event + 1) : position.Passes document [event] behind :=
  ⟨Document.shows_cons.2 ⟨found, trivial⟩, landed⟩

theorem Passes.append {events more : List Event} (first : position.Passes document events middle)
    (second : middle.Passes document more behind) :
    position.Passes document (events ++ more) behind := by
  have shown := second.shown
  rw [first.landed] at shown
  refine ⟨Document.shows_append.2 ⟨first.shown, shown⟩, ?_⟩
  rw [second.landed, first.landed, List.length_append, Nat.add_assoc]

/-- From the position on the document has less events than there are steps to go. -/
structure Covered (position : Position) (document : Document) (fuel : Nat) : Prop where
  within : position.event ≤ document.events.size
  enough : document.events.size < position.event + fuel

theorem not_covered_zero : ¬position.Covered document 0 := fun covered =>
  absurd covered.enough (Nat.not_lt.2 covered.within)

theorem covered_next {event : Event} (found : document.event position.event = .ok event) :
    position.next.Covered document (fuelFor document) := by
  have before := (Array.getElem?_eq_some_iff.1 (Document.event_eq_ok_iff.1 found)).1
  constructor
  · exact before
  · rw [fuelFor, Position.next]
    omega

/-- Who passes something has a step less to go. -/
theorem Covered.step {events : List Event} (covered : position.Covered document (fuel + 1))
    (passes : position.Passes document events behind) (some : 0 < events.length) :
    behind.Covered document fuel := by
  have within := passes.shown.le_size covered.within
  have enough := covered.enough
  have landed := passes.landed
  constructor <;> omega

/-- An entry takes up the events of its key and of its value. -/
theorem Passes.entry {key content : Node} {entries : List (Node × Node)} {last : Position}
    {more : List Event} (first : position.Passes document key.events middle)
    (second : middle.Passes document content.events last)
    (third : last.Passes document (Node.entriesEvents entries ++ more) behind) :
    position.Passes document (Node.entriesEvents ((key, content) :: entries) ++ more) behind := by
  rw [Node.entriesEvents, List.append_assoc, List.append_assoc]
  exact first.append (second.append third)

/-- Who passes an entry has a step less to go. -/
theorem Covered.entry {key content : Node} (covered : position.Covered document (fuel + 1))
    (first : position.Passes document key.events middle)
    (second : middle.Passes document content.events behind) : behind.Covered document fuel := by
  apply covered.step (first.append second)
  rw [List.length_append]
  exact Nat.add_pos_left key.length_events_pos _

end Position

/-! ## Passing over a value -/

/-- A collection is passed over when all that is in it can be. -/
theorem yamlSkip_collection {first last : Event} {inner : List Event}
    {fuel depth event jumps : Nat} (opens : first = .sequenceStart ∨ first = .mappingStart)
    (closes : last = .sequenceEnd ∨ last = .mappingEnd)
    (shown : document.Shows event (first :: (inner ++ [last])))
    (inside : yamlSkip (inner.length + (fuel + 1)) (depth + 1) document ⟨event + 1, jumps⟩ =
      yamlSkip (fuel + 1) (depth + 1) document ⟨event + 1 + inner.length, jumps⟩) :
    yamlSkip ((first :: (inner ++ [last])).length + fuel) depth document ⟨event, jumps⟩ =
      if depth = 0 then .ok ⟨event + (first :: (inner ++ [last])).length, jumps⟩
      else yamlSkip fuel depth document ⟨event + (first :: (inner ++ [last])).length, jumps⟩ := by
  have started := (Document.shows_cons.1 shown).1
  have ended := (Document.shows_cons.1 (Document.shows_append.1 shown.2).2).1
  have length : (first :: (inner ++ [last])).length = inner.length + 2 := by simp
  have steps : inner.length + 2 + fuel = inner.length + (fuel + 1) + 1 := by omega
  have place : event + 1 + inner.length + 1 = event + (inner.length + 2) := by omega
  have entered : yamlSkip (inner.length + (fuel + 1) + 1) depth document ⟨event, jumps⟩ =
      yamlSkip (inner.length + (fuel + 1)) (depth + 1) document ⟨event + 1, jumps⟩ := by
    rcases opens with rfl | rfl <;> simp only [yamlSkip, started, Position.next]
  rw [length, steps, entered, inside, ← place]
  rcases closes with rfl | rfl <;>
    simp only [yamlSkip, ended, Position.next, Nat.add_one_le_iff, Nat.lt_one_iff,
      Nat.add_sub_cancel]

mutual

/-- Within a collection one who passes over a node goes on behind it. -/
theorem yamlSkip_node (fuel depth jumps : Nat) : ∀ {node : Node} {event : Nat},
    document.Shows event node.events →
      yamlSkip (node.events.length + fuel) (depth + 1) document ⟨event, jumps⟩ =
        yamlSkip fuel (depth + 1) document ⟨event + node.events.length, jumps⟩
  | .alias _, event, shown | .scalar .., event, shown | .void, event, shown => by
      have found := shown.event
      simp only [Node.start] at found
      simp only [Node.events, List.length_singleton, Nat.add_comm 1, yamlSkip, found, Position.next,
        Nat.beq_eq_true_eq, Nat.add_one_ne_zero, if_false]
  | .sequence items, event, shown => by
      have inside := yamlSkip_items (fuel + 1) (depth + 1) jumps (Document.shows_append.1 shown.2).1
      exact yamlSkip_collection (.inl rfl) (.inl rfl) shown inside
  | .mapping entries, event, shown => by
      have inside :=
        yamlSkip_entries (fuel + 1) (depth + 1) jumps (Document.shows_append.1 shown.2).1
      exact yamlSkip_collection (.inr rfl) (.inr rfl) shown inside

theorem yamlSkip_items (fuel depth jumps : Nat) : ∀ {items : List Node} {event : Nat},
    document.Shows event (Node.itemsEvents items) →
      yamlSkip ((Node.itemsEvents items).length + fuel) (depth + 1) document ⟨event, jumps⟩ =
        yamlSkip fuel (depth + 1) document ⟨event + (Node.itemsEvents items).length, jumps⟩
  | [], event, _ => by simp [Node.itemsEvents]
  | item :: rest, event, shown => by
      have parts := Document.shows_append.1 shown
      rw [Node.itemsEvents, List.length_append, Nat.add_assoc, yamlSkip_node _ _ _ parts.1,
        yamlSkip_items _ _ _ parts.2, Nat.add_assoc]

theorem yamlSkip_entries (fuel depth jumps : Nat) :
    ∀ {entries : List (Node × Node)} {event : Nat},
      document.Shows event (Node.entriesEvents entries) →
        yamlSkip ((Node.entriesEvents entries).length + fuel) (depth + 1) document
            ⟨event, jumps⟩ =
          yamlSkip fuel (depth + 1) document
            ⟨event + (Node.entriesEvents entries).length, jumps⟩
  | [], event, _ => by simp [Node.entriesEvents]
  | (key, value) :: rest, event, shown => by
      have parts := Document.shows_append.1 shown
      have more := Document.shows_append.1 parts.2
      rw [Node.entriesEvents, List.length_append, List.length_append, Nat.add_assoc,
        Nat.add_assoc, yamlSkip_node _ _ _ parts.1, yamlSkip_node _ _ _ more.1,
        yamlSkip_entries _ _ _ more.2, Nat.add_assoc, Nat.add_assoc]

end

/-- The position behind a node that was passed over. -/
def Position.over (position : Position) (node : Node) : Position :=
  ⟨position.event + node.events.length, position.jumps⟩

theorem Position.passes_over {position : Position} {node : Node}
    (shown : document.Shows position.event node.events) :
    position.Passes document node.events (position.over node) :=
  ⟨shown, rfl⟩

/-- One who passes over a value ends behind its node. -/
theorem yamlSkip_of_shows {position : Position} {node : Node}
    (shown : document.Shows position.event node.events)
    (within : position.event ≤ document.events.size) :
    yamlSkip (fuelFor document) 0 document position = .ok (position.over node) := by
  have enough : node.events.length ≤ fuelFor document := by
    have inside := shown.le_size within
    rw [fuelFor]
    omega
  obtain ⟨more, parts⟩ := Nat.exists_eq_add_of_le enough
  rw [parts, Position.over]
  cases node with
  | «alias» | scalar | void =>
      have found := shown.event
      simp only [Node.start] at found
      simp [Node.events, Nat.add_comm 1, yamlSkip, found, Position.next]
  | sequence items =>
      have inside := yamlSkip_items (more + 1) 0 position.jumps (Document.shows_append.1 shown.2).1
      exact yamlSkip_collection (.inl rfl) (.inl rfl) shown inside
  | mapping entries =>
      have inside :=
        yamlSkip_entries (more + 1) 0 position.jumps (Document.shows_append.1 shown.2).1
      exact yamlSkip_collection (.inr rfl) (.inr rfl) shown inside

/-! ## Aliases and scalars -/

section Aliases

variable {reading : YamlReading α} {position behind : Position} {value : α}

/-- Where no alias stands, the value itself is read. -/
theorem followingAlias_eq_ok_iff {event : Event}
    (found : document.event position.event = .ok event)
    (other : ∀ anchor, event ≠ .alias anchor) :
    followingAlias reading document path position = .ok (value, behind) ↔
      reading document path position = .ok (value, behind) := by
  cases event with
  | «alias» anchor => exact absurd rfl (other anchor)
  | _ => cases result : reading document path position <;> simp [followingAlias, found, result]

/-- Where an alias stands, the value is read that it refers to. -/
theorem followingAlias_alias_eq_ok_iff {anchor : Nat}
    (found : document.event position.event = .ok (.alias anchor)) :
    followingAlias reading document path position = .ok (value, behind) ↔
      position.jumps < document.events.size * 100 ∧
        ∃ inner, reading document path ⟨document.anchorPosition anchor, position.jumps + 1⟩ =
            .ok (value, inner) ∧
          behind = ⟨position.event + 1, inner.jumps⟩ := by
  by_cases few : position.jumps < document.events.size * 100
  case neg =>
    have many : document.events.size * 100 < position.jumps + 1 := by omega
    simp [followingAlias, found, few, many]
  case pos =>
    have within : ¬document.events.size * 100 < position.jumps + 1 := by omega
    cases result : reading document path ⟨document.anchorPosition anchor, position.jumps + 1⟩ with
    | error refusal => simp [followingAlias, found, within, result]
    | ok reached =>
        obtain ⟨there, inner⟩ := reached
        simp [followingAlias, found, few, within, result, and_assoc, eq_comm]

/-- The position behind a node whose value has been read. -/
def Position.past (position : Position) (node : Node) : Position :=
  ⟨position.event + node.events.length,
    match node with
    | .alias _ => position.jumps + 1
    | _ => position.jumps⟩

theorem Position.passes_past {node : Node} (shown : document.Shows position.event node.events) :
    position.Passes document node.events (position.past node) :=
  ⟨shown, rfl⟩

/-- Each alias takes up an event, so there are not too many of them. -/
theorem Position.past_jumps_le {node : Node} (few : position.jumps ≤ position.event) :
    (position.past node).jumps ≤ (position.past node).event := by
  have some := node.length_events_pos
  cases node <;>
    dsimp only [Position.past] <;>
    omega

theorem Position.jumps_lt {event : Event} (few : position.jumps ≤ position.event)
    (found : document.event position.event = .ok event) :
    position.jumps < document.events.size * 100 := by
  have before := (Array.getElem?_eq_some_iff.1 (Document.event_eq_ok_iff.1 found)).1
  omega

/-- A scalar is read where a node is one or refers to one, as long as aliases are followed. -/
theorem yamlScalar_eq_ok_iff {expected : String}
    {read : Yaml.Tag → String → Yaml.Style → Except Problem α} {node : Node}
    (shown : document.Shows position.event node.events) :
    yamlScalar expected read document path position = .ok (value, behind) ↔
      (∃ scalar, document.scalar? node = some scalar ∧
          read scalar.1 scalar.2.1 scalar.2.2 = .ok value) ∧
        behind = position.past node ∧
          ∀ anchor, node = .alias anchor → position.jumps < document.events.size * 100 := by
  have found := shown.event
  cases node with
  | «alias» anchor =>
      rw [yamlScalar, followingAlias_alias_eq_ok_iff found]
      simp only [Document.scalar?, Position.past, Node.events, List.length_singleton]
      cases target : document.event (document.anchorPosition anchor) with
      | error fault => simp
      | ok event =>
          cases event with
          | scalar tag content style =>
              cases result : read tag content style <;>
                simp [result, Position.next, and_comm, and_left_comm]
          | _ => simp [yamlMismatch]
  | scalar tag content style =>
      simp only [Node.start] at found
      rw [yamlScalar, followingAlias_eq_ok_iff found nofun]
      cases result : read tag content style <;>
        simp [found, result, Document.scalar?, Position.past, Position.next, Node.events, eq_comm]
  | sequence | mapping | void =>
      simp only [Node.start] at found
      rw [yamlScalar, followingAlias_eq_ok_iff found nofun]
      simp [found, Document.scalar?, yamlMismatch]

end Aliases

/-! ## Readings -/

/-- Whatever is read is the value of one node, and the reading ends behind it. -/
def YamlReading.Lands (reading : YamlReading α) : Prop :=
  ∀ ⦃document : Document⦄ ⦃path : Path⦄ ⦃position behind : Position⦄ ⦃value : α⦄,
    reading document path position = .ok (value, behind) →
      ∃ node : Node, position.Passes document node.events behind

namespace YamlReading

variable {reading : YamlReading α}

theorem Lands.followingAlias (lands : reading.Lands) : (followingAlias reading).Lands := by
  intro document path position behind value read
  cases found : document.event position.event with
  | error fault => simp [Schema.followingAlias, found] at read
  | ok event =>
      by_cases isAlias : ∃ anchor, event = .alias anchor
      · obtain ⟨anchor, rfl⟩ := isAlias
        obtain ⟨-, inner, -, rfl⟩ := (followingAlias_alias_eq_ok_iff found).1 read
        exact ⟨.alias anchor, Position.passes_event found rfl⟩
      · have other : ∀ anchor, event ≠ .alias anchor := fun anchor same => isAlias ⟨anchor, same⟩
        exact lands ((followingAlias_eq_ok_iff found other).1 read)

theorem lands_scalar (expected : String)
    (read : Yaml.Tag → String → Yaml.Style → Except Problem α) :
    (yamlScalar expected read).Lands := by
  apply Lands.followingAlias
  intro document path position behind value result
  cases found : document.event position.event with
  | error fault => simp [found] at result
  | ok event =>
      cases event with
      | scalar tag content style =>
          cases here : read tag content style with
          | error problem => simp [found, here] at result
          | ok there =>
              simp only [found, here, Except.ok.injEq, Prod.mk.injEq] at result
              obtain ⟨-, rfl⟩ := result
              exact ⟨.scalar tag content style, Position.passes_event found rfl⟩
      | _ => simp [found, yamlMismatch] at result

end YamlReading

namespace Reader

variable {reader : Reader α}

theorem lands_text (expected : String) : (text expected).yaml.Lands :=
  YamlReading.lands_scalar expected fun _ content _ => .ok content

theorem lands_formed (expected : String) (problem : Problem) (form? : String → Option α) :
    (formed expected problem form?).yaml.Lands :=
  YamlReading.lands_scalar _ _

theorem lands_unsigned (bits : Nat) (expected : String) : (unsigned bits expected).yaml.Lands :=
  YamlReading.lands_scalar _ _

theorem lands_signed (expected : String) : (signed expected).yaml.Lands :=
  YamlReading.lands_scalar _ _

theorem yaml_map_eq_ok_iff {change : α → β} {position behind : Position} {value : β} :
    (reader.map change).yaml document path position = .ok (value, behind) ↔
      ∃ raw, reader.yaml document path position = .ok (raw, behind) ∧ change raw = value := by
  simp only [map, map_eq_ok_iff]
  constructor
  · rintro ⟨⟨raw, there⟩, read, same⟩
    obtain ⟨changed, rfl⟩ := Prod.mk.inj same
    exact ⟨raw, read, changed⟩
  · rintro ⟨raw, read, rfl⟩
    exact ⟨(raw, behind), read, rfl⟩

theorem lands_map (lands : reader.yaml.Lands) (change : α → β) : (reader.map change).yaml.Lands := by
  intro document path position behind value read
  obtain ⟨raw, readRaw, -⟩ := yaml_map_eq_ok_iff.1 read
  exact lands readRaw

theorem lands_present {reading : YamlReading α} (lands : reading.Lands) :
    (yamlPresent reading).Lands := by
  intro document path position behind value read
  have present : (reading document path position >>= fun here => pure (some here.1, here.2)) =
      .ok (value, behind) → ∃ node : Node, position.Passes document node.events behind := by
    intro found
    obtain ⟨⟨there, landing⟩, result, same⟩ := bind_eq_ok_iff.1 found
    obtain ⟨-, rfl⟩ := Prod.mk.inj (Except.ok.inj same)
    exact lands result
  cases found : document.event position.event with
  | error fault => simp [yamlPresent, found] at read
  | ok event =>
      simp only [yamlPresent, found] at read
      cases event with
      | scalar tag content style =>
          cases there : presence tag content style with
          | error problem => simp [there] at read
          | ok isPresent =>
              cases isPresent with
              | true => exact present (by simpa only [there] using read)
              | false =>
                  simp only [there, Except.ok.injEq, Prod.mk.injEq] at read
                  exact ⟨.scalar tag content style, Position.passes_event found (read.2 ▸ rfl)⟩
      | void =>
          simp only [Except.ok.injEq, Prod.mk.injEq] at read
          exact ⟨.void, Position.passes_event found (read.2 ▸ rfl)⟩
      | _ => exact present read

theorem lands_optional (lands : reader.yaml.Lands) : reader.optional.yaml.Lands := by
  intro document path position behind value read
  cases found : document.event position.event with
  | error fault => simp [optional, found] at read
  | ok event =>
      simp only [optional, found] at read
      cases event with
      | «alias» anchor =>
          dsimp only at read
          split at read
          · cases read
          · split at read
            · obtain ⟨-, rfl⟩ := Prod.mk.inj (Except.ok.inj read)
              exact ⟨.alias anchor, Position.passes_event found rfl⟩
            · cases read
      | _ => exact lands_present lands read

/-! ## Lists and maps -/

/-- A collection without entries is a node of one event. -/
theorem exists_node_of_isEmptyCollection {event : Event} {position : Position}
    (found : document.event position.event = .ok event) (empty : isEmptyCollection event = true) :
    ∃ node : Node, position.Passes document node.events position.next := by
  cases event with
  | scalar tag content style => exact ⟨.scalar tag content style, Position.passes_event found rfl⟩
  | void => exact ⟨.void, Position.passes_event found rfl⟩
  | _ => cases empty

theorem exists_node_of_empty {event : Event} {position behind : Position} {empty value : α}
    {refusal : YamlRefusal} (found : document.event position.event = .ok event)
    (read : (if isEmptyCollection event then .ok (empty, position.next) else .error refusal) =
      Except.ok (value, behind)) :
    ∃ node : Node, position.Passes document node.events behind := by
  split at read
  case isFalse => cases read
  case isTrue isEmpty =>
    obtain ⟨-, rfl⟩ := Prod.mk.inj (Except.ok.inj read)
    exact exists_node_of_isEmptyCollection found isEmpty

/-- Where a sequence does not end, an item is read and the others behind it. -/
theorem yamlItems_of_ne_end {reading : YamlReading α} {fuel index : Nat}
    {position behind : Position} {values : List α} {event : Event}
    (found : document.event position.event = .ok event) (more : event ≠ .sequenceEnd)
    (read : yamlItems reading (fuel + 1) index document path position = .ok (values, behind)) :
    ∃ value middle others, reading document (.index index :: path) position = .ok (value, middle) ∧
      yamlItems reading fuel (index + 1) document path middle = .ok (others, behind) := by
  have step : (reading document (.index index :: path) position >>= fun here =>
      yamlItems reading fuel (index + 1) document path here.2 >>= fun others =>
        pure (here.1 :: others.1, others.2)) = .ok (values, behind) := by
    cases event with
    | sequenceEnd => exact absurd rfl more
    | _ => simpa only [yamlItems, found] using read
  obtain ⟨⟨value, middle⟩, readHere, step⟩ := bind_eq_ok_iff.1 step
  obtain ⟨⟨others, last⟩, readRest, same⟩ := bind_eq_ok_iff.1 step
  obtain ⟨-, rfl⟩ := Prod.mk.inj (Except.ok.inj same)
  exact ⟨value, middle, others, readHere, readRest⟩

/-- Items that are read up to the end of a sequence are nodes one behind the other. -/
theorem exists_items_of_yamlItems {reading : YamlReading α} (lands : reading.Lands)
    {fuel index : Nat} {position behind : Position} {values : List α}
    (covered : position.Covered document fuel)
    (read : yamlItems reading fuel index document path position = .ok (values, behind)) :
    ∃ items, position.Passes document (Node.itemsEvents items ++ [.sequenceEnd]) behind := by
  induction fuel generalizing index position values with
  | zero => exact absurd covered Position.not_covered_zero
  | succ fuel ih =>
      cases found : document.event position.event with
      | error fault => simp [yamlItems, found] at read
      | ok event =>
          by_cases ended : event = .sequenceEnd
          · subst ended
            simp only [yamlItems, found, Except.ok.injEq, Prod.mk.injEq] at read
            exact ⟨[], Position.passes_event found (read.2 ▸ rfl)⟩
          · obtain ⟨value, middle, others, readHere, readRest⟩ := yamlItems_of_ne_end found ended read
            obtain ⟨item, first⟩ := lands readHere
            obtain ⟨items, second⟩ := ih (covered.step first item.length_events_pos) readRest
            have whole := first.append second
            rw [← List.append_assoc] at whole
            exact ⟨item :: items, whole⟩

/-- Where a map does not end, a name and a value are read, and the others behind them. -/
theorem yamlMembers_of_ne_end {reading : YamlReading α} {fuel : Nat} {map result : NameMap α}
    {position behind : Position} {event : Event}
    (found : document.event position.event = .ok event) (more : event ≠ .mappingEnd)
    (read : yamlMembers reading (fuel + 1) map document path position = .ok (result, behind)) :
    ∃ name middle value last, (text "a string").yaml document path position = .ok (name, middle) ∧
      reading document (keyStep event :: path) middle = .ok (value, last) ∧
        yamlMembers reading fuel (map.insert name value) document path last =
          .ok (result, behind) := by
  have step : ((text "a string").yaml document path position >>= fun name =>
      reading document (keyStep event :: path) name.2 >>= fun here =>
        yamlMembers reading fuel (map.insert name.1 here.1) document path here.2) =
          .ok (result, behind) := by
    cases event with
    | mappingEnd => exact absurd rfl more
    | _ => simpa only [yamlMembers, found] using read
  obtain ⟨⟨name, middle⟩, readName, step⟩ := bind_eq_ok_iff.1 step
  obtain ⟨⟨value, last⟩, readHere, readRest⟩ := bind_eq_ok_iff.1 step
  exact ⟨name, middle, value, last, readName, readHere, readRest⟩

/-- Entries that are read up to the end of a map are pairs of nodes. -/
theorem exists_entries_of_yamlMembers {reading : YamlReading α} (lands : reading.Lands)
    {fuel : Nat} {map result : NameMap α} {position behind : Position}
    (covered : position.Covered document fuel)
    (read : yamlMembers reading fuel map document path position = .ok (result, behind)) :
    ∃ entries, position.Passes document (Node.entriesEvents entries ++ [.mappingEnd]) behind := by
  induction fuel generalizing map position with
  | zero => exact absurd covered Position.not_covered_zero
  | succ fuel ih =>
      cases found : document.event position.event with
      | error fault => simp [yamlMembers, found] at read
      | ok event =>
          by_cases ended : event = .mappingEnd
          · subst ended
            simp only [yamlMembers, found, Except.ok.injEq, Prod.mk.injEq] at read
            exact ⟨[], Position.passes_event found (read.2 ▸ rfl)⟩
          · obtain ⟨name, middle, value, last, readName, readHere, readRest⟩ :=
              yamlMembers_of_ne_end found ended read
            obtain ⟨key, first⟩ := lands_text _ readName
            obtain ⟨content, second⟩ := lands readHere
            obtain ⟨entries, third⟩ := ih (covered.entry first second) readRest
            exact ⟨(key, content) :: entries, first.entry second third⟩

theorem lands_list (lands : reader.yaml.Lands) : reader.list.yaml.Lands := by
  simp only [list]
  apply YamlReading.Lands.followingAlias
  intro document path position behind values read
  cases found : document.event position.event with
  | error fault => simp [found] at read
  | ok event =>
      simp only [found] at read
      cases event with
      | sequenceStart =>
          obtain ⟨items, inside⟩ :=
            exists_items_of_yamlItems lands (Position.covered_next found) read
          exact ⟨.sequence items, (Position.passes_event found rfl).append inside⟩
      | _ => exact exists_node_of_empty found read

theorem lands_keyed (lands : reader.yaml.Lands) : reader.keyed.yaml.Lands := by
  simp only [keyed]
  apply YamlReading.Lands.followingAlias
  intro document path position behind map read
  cases found : document.event position.event with
  | error fault => simp [found] at read
  | ok event =>
      simp only [found] at read
      cases event with
      | mappingStart =>
          obtain ⟨entries, inside⟩ :=
            exists_entries_of_yamlMembers lands (Position.covered_next found) read
          exact ⟨.mapping entries, (Position.passes_event found rfl).append inside⟩
      | _ => exact exists_node_of_empty found read

end Reader

end PortTunnel.Schema
