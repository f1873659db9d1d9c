import PortTunnel.Proofs.Cluster.Link

/-!
# Sharing a link

Requests arrive at a link, are answered and are dropped in any order.  Whatever the order,
the link is established at most once and all channels are opened through it.  When a
request fails to establish the link, or is dropped while it tries, the next one can try;
and when the cluster takes one request at a time, a request that is dropped leaves its
turn to the next.

The history of a link is the trail of its labels, each with the answer that the request of
the label received.
-/

namespace PortTunnel.Cluster.Link

variable {Id : Type} [DecidableEq Id]

/-! ## Histories -/

/-- A label that was followed, and the answer that its request received. -/
abbrev Entry (Id : Type) := Label Id × Option (Except Failure Unit)

/-- One step, noted down as an entry of a history. -/
def Goes (link : Link Id) (entry : Entry Id) (next : Link Id) : Prop :=
  link.step entry.1 = some (next, entry.2)

/-- Whether a label tells that the link has been established. -/
def Label.isEstablished : Label Id → Bool
  | .established _ _ => true
  | _ => false

/-- How often the link was established. -/
def establishments (history : List (Entry Id)) : Nat :=
  history.countP (·.1.isEstablished)

section Trails

variable {start link next : Link Id} {history : List (Entry Id)} {label : Label Id}
  {answer : Option (Except Failure Unit)} {id : Id}

theorem Moves.goes (moves : Moves link label next answer) : Goes link (label, answer) next :=
  moves.step

theorem sound_empty : ({} : Link Id).Sound := by
  constructor
  case nodup => exact List.nodup_nil
  case pending | reached | through => exact nofun
  case alone => exact nofun
  case exclusive => exact nofun

theorem Sound.trail (sound : start.Sound) (trail : Trail Goes start history link) : link.Sound :=
  trail.preserves sound fun sound step => sound.move (step_eq_some_iff.1 step)

theorem sound_of_trail (trail : Trail Goes {} history link) : link.Sound :=
  sound_empty.trail trail

/-- What a step does to the link itself. -/
theorem Moves.established_eq (sound : link.Sound) (moves : Moves link label next answer) :
    (label.isEstablished = false ∧ next.established = link.established) ∨
      ∃ id serializes, label = .established id serializes ∧ answer = none ∧
        link.established = none ∧ next.established = some ⟨link.count, serializes⟩ := by
  cases moves with
  | @established id serializes tries =>
      exact .inr ⟨id, serializes, rfl, rfl, sound.pending id tries, rfl⟩
  | _ => exact .inl ⟨rfl, rfl⟩

/-- A link that is established stays so. -/
theorem established_of_trail {established : Established} (sound : start.Sound)
    (present : start.established = some established) (trail : Trail Goes start history link) :
    link.established = some established := by
  induction trail with
  | here => exact present
  | @onward history middle entry last trail step ih =>
      rcases (step_eq_some_iff.1 step).established_eq (sound.trail trail) with
        ⟨-, same⟩ | ⟨id, serializes, -, -, absent, -⟩
      · rw [same, ih]
      · rw [ih] at absent
        cases absent

/-- A link has been established once if it is, and else never. -/
theorem establishments_eq (trail : Trail Goes {} history link) :
    establishments history = link.established.toList.length := by
  induction trail with
  | here => rfl
  | @onward history middle entry last trail step ih =>
      rw [establishments, List.countP_append, List.countP_singleton]
      change establishments history + _ = _
      rcases (step_eq_some_iff.1 step).established_eq (sound_of_trail trail) with
        ⟨other, same⟩ | ⟨id, serializes, label_eq, -, absent, present⟩
      · rw [other, same, ih]
        simp
      · rw [label_eq, present, ih, absent]
        simp [Label.isEstablished]

/-- A link that is established was so by a request that was at it, and takes one request at a
time if that was what it learned. -/
theorem exists_established_mem {established : Established} (trail : Trail Goes {} history link)
    (present : link.established = some established) :
    ∃ id, (Label.established id established.serializes, none) ∈ history := by
  induction trail with
  | here => cases present
  | @onward history middle entry last trail step ih =>
      rcases (step_eq_some_iff.1 step).established_eq (sound_of_trail trail) with
        ⟨-, same⟩ | ⟨id, serializes, label_eq, answer_eq, -, now⟩
      · rw [same] at present
        rcases ih present with ⟨id, member⟩
        exact ⟨id, List.mem_append_left _ member⟩
      · cases now.symm.trans present
        have entry_eq : entry = (.established id serializes, none) := Prod.ext label_eq answer_eq
        exact ⟨id, List.mem_append_right _ (List.mem_singleton.2 entry_eq.symm)⟩

/-- A step about one request leaves the others where they are. -/
theorem Moves.stage?_of_ne {other : Id} (moves : Moves link label next answer)
    (different : other ≠ label.id) : next.stage? other = link.stage? other := by
  cases moves with
  | @request id unknown =>
      exact (stage?_request link id other unknown).trans (if_neg different)
  | establish | established | proceed | call =>
      exact (stage?_setStage link _ other _).trans (if_neg different)
  | notEstablished | answered | drop => exact (stage?_remove link _ other).trans (if_neg different)

end Trails

/-- A link can go on to a state in which it has been established so many times more. -/
def Reaches (link : Link Id) (times : Nat) (next : Link Id) : Prop :=
  ∃ history, Trail Goes link history next ∧ establishments history = times

namespace Reaches

variable {link middle next : Link Id} {times more : Nat}

theorem here (link : Link Id) : Reaches link 0 link :=
  ⟨[], .here, rfl⟩

theorem trans (first : Reaches link times middle) (second : Reaches middle more next) :
    Reaches link (times + more) next := by
  rcases first with ⟨before, trail, rfl⟩
  rcases second with ⟨after, rest, rfl⟩
  exact ⟨before ++ after, trail.trans rest, List.countP_append⟩

theorem single {label : Label Id} {answer : Option (Except Failure Unit)}
    (step : link.step label = some (next, answer)) :
    Reaches link (if label.isEstablished then 1 else 0) next := by
  have goes : Goes link (label, answer) next := step
  exact ⟨_, .single goes, List.countP_singleton⟩

end Reaches

/-! ## What can be done -/

section Doing

variable {link next : Link Id} {id other : Id} {label : Label Id}
  {answer : Option (Except Failure Unit)}

/-- A request can establish a link that nobody has established and nobody is establishing. -/
theorem exists_establish (sound : link.Sound) (seeks : link.stage? id = some .seeking)
    (absent : link.established = none) (nobody : ∀ other, link.stage? other ≠ some .establishing) :
    ∃ later, Goes link (.establish id, none) later := by
  have idle : link.isBeingEstablished = false := by
    rw [Bool.eq_false_iff]
    intro busy
    rcases (isBeingEstablished_iff sound.nodup).1 busy with ⟨other, tries⟩
    exact nobody other tries
  exact ⟨_, (Moves.establish seeks absent idle).goes⟩

/-- A request that waits for its turn can call, unless the link takes one request at a time and
another one calls. -/
theorem exists_call (sound : link.Sound) (waits : link.stage? id = some .queued)
    (free : ∀ established, link.established = some established →
      established.serializes = true → ∀ other, ¬ link.Calls other) :
    ∃ later, Goes link (.call id, none) later := by
  rcases Option.ne_none_iff_exists'.1 (sound.reached id waits) with ⟨established, present⟩
  have unlocked (serializes : established.serializes = true) : link.callCount = 0 :=
    (callCount_eq_zero_iff sound.nodup).2 (free established present serializes)
  exact ⟨_, (Moves.call waits present unlocked).goes⟩

/-- Once the request that was at it is gone, nobody is establishing the link, and it is not
established. -/
theorem Sound.unestablished_of_gone (sound : link.Sound) (tries : link.stage? id = some .establishing)
    (label_eq : label = .drop id ∨ ∃ failure, label = .notEstablished id failure)
    (moves : Moves link label next answer) :
    next.established = none ∧ ∀ other, next.stage? other ≠ some .establishing := by
  have gone : next = link.remove id := by
    rcases label_eq with rfl | ⟨failure, rfl⟩
    · cases moves
      rfl
    · cases moves
      rfl
  subst gone
  constructor
  · exact sound.pending id tries
  · intro other also
    rcases eq_of_stage?_eq (stage?_remove link id other) also with ⟨-, ⟨⟩⟩ | ⟨different, before⟩
    exact different (sound.alone other id before tries)

end Doing

/-! ## The main statement -/

/-- What holds of a link in every state, and of its history. -/
structure Shared (history : List (Entry Id)) (link : Link Id) : Prop where
  /-- The link has been established at most once. -/
  once : establishments history ≤ 1
  /-- If it is established, then by a request that was told whether the cluster takes one
  request at a time. -/
  created : ∀ established, link.established = some established →
    ∃ id, (Label.established id established.serializes, none) ∈ history
  /-- All channels were opened through the link that is established. -/
  channels : ∀ before id after,
    history = before ++ (.answered id (.ok ()), some (.ok ())) :: after →
      ∃ state established, Trail Goes {} before state ∧
        state.stage? id = some (.calling established.number) ∧
          state.established = some established ∧ link.established = some established
  /-- A step about one request leaves the others where they are. -/
  apart : ∀ label answer next, Goes link (label, answer) next →
    ∀ other, other ≠ label.id → next.stage? other = link.stage? other
  /-- A failure to establish the link is the answer to the request that was at it. -/
  failures : ∀ id failure answer next, Goes link (.notEstablished id failure, answer) next →
    link.stage? id = some .establishing ∧ answer = some (.error failure) ∧
      next.stage? id = none ∧ next.established = none
  /-- When that request has failed or is dropped, every request that waits for the link can try
  to establish it, and so can every new one. -/
  retried : ∀ id label answer next, link.stage? id = some .establishing →
    (label = .drop id ∨ ∃ failure, label = .notEstablished id failure) →
      Goes link (label, answer) next → ∀ other,
        (next.stage? other = some .seeking → ∃ later, Goes next (.establish other, none) later) ∧
        (next.stage? other = none → ∃ asked later, Goes next (.request other, none) asked ∧
          Goes asked (.establish other, none) later)
  /-- A request that waits for the link waits for another one that is establishing it; else it
  can try itself, or go on. -/
  tries : ∀ id, link.stage? id = some .seeking →
    (∃ other, link.stage? other = some .establishing) ∨
      (∃ next, Goes link (.establish id, none) next) ∨ ∃ next, Goes link (.proceed id, none) next
  /-- A cluster that takes one request at a time has no more than one to answer. -/
  exclusive : ∀ established, link.established = some established →
    established.serializes = true → link.callCount ≤ 1
  /-- A request that waits for its turn waits for another one that calls; else it can call. -/
  unlocked : ∀ id, link.stage? id = some .queued →
    (∃ next, Goes link (.call id, none) next) ∨
      ∃ established other, link.established = some established ∧
        established.serializes = true ∧ other ≠ id ∧ link.Calls other
  /-- When a request that calls is answered or dropped, every one that waits for its turn can
  call. -/
  released : ∀ id label answer next, link.Calls id →
    (label = .drop id ∨ ∃ given, label = .answered id given) → Goes link (label, answer) next →
      ∀ other, next.stage? other = some .queued → ∃ later, Goes next (.call other, none) later

/-- Whatever order requests come, are answered and are dropped in, they share one link. -/
theorem shared_of_trail {history : List (Entry Id)} {link : Link Id}
    (trail : Trail Goes {} history link) : Shared history link := by
  have sound := sound_of_trail trail
  constructor
  case once =>
    rw [establishments_eq trail]
    cases link.established <;> simp
  case created => exact fun established present => exists_established_mem trail present
  case channels =>
    rintro before id after rfl
    rcases trail.step_at with ⟨state, later, first, step, rest⟩
    have soundThen := sound_of_trail first
    cases step_eq_some_iff.1 step with
    | @answered _ _ number calls =>
        rcases soundThen.through id number calls with ⟨serializes, present⟩
        exact ⟨state, ⟨number, serializes⟩, first, calls, present,
          established_of_trail (soundThen.remove id) present rest⟩
  case apart =>
    exact fun label answer next step other different =>
      (step_eq_some_iff.1 step).stage?_of_ne different
  case failures =>
    intro id failure answer next step
    cases step_eq_some_iff.1 step with
    | notEstablished tries =>
        exact ⟨tries, rfl, (stage?_remove link id id).trans (if_pos rfl), sound.pending id tries⟩
  case retried =>
    intro id label answer next tries label_eq step other
    have moves := step_eq_some_iff.1 step
    have soundNext := sound.move moves
    rcases sound.unestablished_of_gone tries label_eq moves with ⟨absent, nobody⟩
    constructor
    · exact fun seeks => exists_establish soundNext seeks absent nobody
    · intro unknown
      have asks := Moves.request unknown
      have stage?_eq (third : Id) := stage?_request next other third unknown
      have nobodyYet (third : Id) :
          ({ next with requests := next.requests ++ [(other, .seeking)] } : Link Id).stage? third ≠
            some .establishing := by
        intro also
        rcases eq_of_stage?_eq (stage?_eq third) also with ⟨-, ⟨⟩⟩ | ⟨-, before⟩
        exact nobody third before
      have seeks := (stage?_eq other).trans (if_pos rfl)
      rcases exists_establish (soundNext.move asks) seeks absent nobodyYet with ⟨later, tries⟩
      exact ⟨_, later, asks.goes, tries⟩
  case tries =>
    intro id seeks
    cases present : link.established with
    | some established => exact .inr (.inr ⟨_, (Moves.proceed seeks present).goes⟩)
    | none =>
        by_cases busy : ∃ other, link.stage? other = some .establishing
        · exact .inl busy
        · rw [not_exists] at busy
          exact .inr (.inl (exists_establish sound seeks present busy))
  case exclusive =>
    intro established present serializes
    exact callCount_le_one sound.nodup (sound.exclusive established present serializes)
  case unlocked =>
    intro id waits
    by_cases locked : ∃ established other, link.established = some established ∧
        established.serializes = true ∧ other ≠ id ∧ link.Calls other
    · exact .inr locked
    · refine .inl (exists_call sound waits fun established present serializes other calls => ?_)
      apply locked
      refine ⟨established, other, present, serializes, ?_, calls⟩
      rintro rfl
      rcases calls with ⟨number, calls⟩
      cases waits.symm.trans calls
  case released =>
    intro id label answer next calls label_eq step other waits
    have moves := step_eq_some_iff.1 step
    have gone : next = link.remove id := by
      rcases label_eq with rfl | ⟨given, rfl⟩
      · cases moves
        rfl
      · cases moves
        rfl
    subst gone
    refine exists_call (sound.remove id) waits fun established present serializes third also => ?_
    rcases also with ⟨number, also⟩
    rcases eq_of_stage?_eq (stage?_remove link id third) also with ⟨-, ⟨⟩⟩ | ⟨different, before⟩
    exact different (sound.exclusive established present serializes third id ⟨number, before⟩ calls)

end PortTunnel.Cluster.Link
