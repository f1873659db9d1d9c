import Mathlib.Data.List.Nodup
import PortTunnel.Cluster.Link
import PortTunnel.Proofs.Trail

/-!
# The moves of a link

The steps of a link as a relation, with one rule for each thing that may happen to a
request.  All that later proofs ask of the requests is what each of them waits for, so
each operation comes with the answer to that question.

The invariant says who may be where: nobody establishes a link that is established, only
one request at a time establishes it, requests call through the link that is established,
and one at a time if that link takes no more.
-/

namespace PortTunnel.Cluster.Link

variable {Id : Type} [DecidableEq Id]

/-! ## Steps -/

/-- The steps of a link, with the answer that the request receives. -/
inductive Moves (link : Link Id) : Label Id → Link Id → Option (Except Failure Unit) → Prop
  | request {id : Id} (unknown : link.stage? id = none) :
      Moves link (.request id) { link with requests := link.requests ++ [(id, .seeking)] } none
  | establish {id : Id} (seeks : link.stage? id = some .seeking)
      (absent : link.established = none) (idle : link.isBeingEstablished = false) :
      Moves link (.establish id) (link.setStage id .establishing) none
  | established {id : Id} {serializes : Bool} (tries : link.stage? id = some .establishing) :
      Moves link (.established id serializes)
        { link.setStage id .queued with
          established := some ⟨link.count, serializes⟩
          count := link.count + 1 }
        none
  | notEstablished {id : Id} {failure : Failure} (tries : link.stage? id = some .establishing) :
      Moves link (.notEstablished id failure) (link.remove id) (some (.error failure))
  | proceed {id : Id} {established : Established} (seeks : link.stage? id = some .seeking)
      (present : link.established = some established) :
      Moves link (.proceed id) (link.setStage id .queued) none
  | call {id : Id} {established : Established} (waits : link.stage? id = some .queued)
      (present : link.established = some established)
      (free : established.serializes = true → link.callCount = 0) :
      Moves link (.call id) (link.setStage id (.calling established.number)) none
  | answered {id : Id} {answer : Except Failure Unit} {number : Nat}
      (calls : link.stage? id = some (.calling number)) :
      Moves link (.answered id answer) (link.remove id) (some answer)
  | drop {id : Id} {stage : RequestStage} (known : link.stage? id = some stage) :
      Moves link (.drop id) (link.remove id) none

/-- A step of the function is a move. -/
theorem Moves.of_step {link next : Link Id} {label : Label Id}
    {answer : Option (Except Failure Unit)} (step : link.step label = some (next, answer)) :
    Moves link label next answer := by
  unfold Link.step at step
  split at step
  · rename_i id unknown
    cases step
    exact .request unknown
  · rename_i id seeks
    split at step
    · rename_i free
      cases step
      rw [Bool.and_eq_true, Option.isNone_iff_eq_none, Bool.not_eq_true'] at free
      exact .establish seeks free.1 free.2
    · cases step
  · rename_i id serializes tries
    cases step
    exact .established tries
  · rename_i id failure tries
    cases step
    exact .notEstablished tries
  · rename_i id seeks
    split at step
    · rename_i present
      cases step
      rcases Option.isSome_iff_exists.1 present with ⟨established, present⟩
      exact .proceed seeks present
    · cases step
  · rename_i id waits
    split at step
    · rename_i established present
      split at step
      · cases step
      · rename_i unlocked
        cases step
        apply Moves.call waits present
        intro serializes
        by_contra calling
        apply unlocked
        simp [serializes, calling]
    · cases step
  · rename_i id answer number calls
    cases step
    exact .answered calls
  · rename_i id stage known
    cases step
    exact .drop known
  · cases step

/-- A move is a step of the function. -/
theorem Moves.step {link next : Link Id} {label : Label Id}
    {answer : Option (Except Failure Unit)} (moves : Moves link label next answer) :
    link.step label = some (next, answer) := by
  cases moves with
  | @call id established waits present free =>
      have unlocked : ¬ (established.serializes && link.callCount != 0) = true := by
        intro locked
        rw [Bool.and_eq_true, bne_iff_ne] at locked
        exact locked.2 (free locked.1)
      simp only [Link.step, Label.id, waits, present]
      rw [if_neg unlocked]
  | drop known => simp [Link.step, Label.id, known]
  | _ => simp_all [Link.step, Label.id]

/-- The relation holds exactly what the step function does. -/
theorem step_eq_some_iff {link next : Link Id} {label : Label Id}
    {answer : Option (Except Failure Unit)} :
    link.step label = some (next, answer) ↔ Moves link label next answer :=
  ⟨Moves.of_step, Moves.step⟩

/-- Only a request that is known goes on. -/
theorem Moves.known {link next : Link Id} {label : Label Id}
    {answer : Option (Except Failure Unit)} (moves : Moves link label next answer) :
    label = .request label.id ∨ ∃ stage, link.stage? label.id = some stage := by
  cases moves with
  | request => exact .inl rfl
  | establish known | established known | notEstablished known | proceed known | call known
  | answered known | drop known => exact .inr ⟨_, known⟩

/-! ## What requests wait for -/

section Stages

variable (link : Link Id) (id other : Id)

theorem stage?_request (unknown : link.stage? id = none) :
    ({ link with requests := link.requests ++ [(id, .seeking)] } : Link Id).stage? other =
      if other = id then some .seeking else link.stage? other := by
  unfold stage? at unknown ⊢
  rw [List.find?_append]
  by_cases same : other = id
  · subst same
    rw [if_pos rfl, Option.map_eq_none_iff.1 unknown]
    simp
  · rw [if_neg same]
    simp [Ne.symm same]

theorem stage?_setStage (stage : RequestStage) :
    (link.setStage id stage).stage? other =
      if other = id then (link.stage? id).map fun _ => stage else link.stage? other := by
  have sameId : ((·.1 == other) ∘ fun request : Id × RequestStage =>
      if request.1 = id then (id, stage) else request) = (·.1 == other) := by
    funext request
    rw [Function.comp_apply]
    split
    · rename_i same
      rw [same]
    · rfl
  unfold stage? setStage
  rw [List.find?_map, sameId]
  cases found : link.requests.find? (·.1 == other) with
  | none =>
      by_cases same : other = id
      · subst same
        simp [found]
      · simp [same]
  | some request =>
      have named : request.1 = other := by simpa using List.find?_some found
      by_cases same : other = id
      · subst same
        simp [found, named]
      · simp [same, named]

theorem stage?_remove :
    (link.remove id).stage? other = if other = id then none else link.stage? other := by
  unfold stage? remove
  rw [List.find?_filter]
  by_cases same : other = id
  · subst same
    simp [List.find?_eq_none]
  · rw [if_neg same]
    congr 2
    funext request
    by_cases named : request.1 = other
    · simp [named, same]
    · simp [named]

end Stages

/-! ## The invariant -/

/-- The names of the requests of a link. -/
def ids (link : Link Id) : List Id :=
  link.requests.map (·.1)

/-- A request waits for the answer of the cluster. -/
def Calls (link : Link Id) (id : Id) : Prop :=
  ∃ number, link.stage? id = some (.calling number)

/-- What every link keeps. -/
structure Sound (link : Link Id) : Prop where
  /-- Requests have different names. -/
  nodup : link.ids.Nodup
  /-- Nobody establishes a link that is established, -/
  pending : ∀ id, link.stage? id = some .establishing → link.established = none
  /-- and only one request at a time establishes one that is not. -/
  alone : ∀ id other, link.stage? id = some .establishing →
    link.stage? other = some .establishing → id = other
  /-- Who waits for its turn does so at an established link, -/
  reached : ∀ id, link.stage? id = some .queued → link.established ≠ none
  /-- and who calls does so through it. -/
  through : ∀ id number, link.stage? id = some (.calling number) →
    ∃ serializes, link.established = some ⟨number, serializes⟩
  /-- Links that take one request at a time have no more than one. -/
  exclusive : ∀ established, link.established = some established →
    established.serializes = true → ∀ id other, link.Calls id → link.Calls other → id = other

section Requests

variable {link : Link Id} {id : Id}

omit [DecidableEq Id] in
theorem mem_ids_iff_exists : id ∈ link.ids ↔ ∃ stage, (id, stage) ∈ link.requests := by
  simp [ids]

/-- A request waits for what the list of requests says. -/
theorem mem_requests_iff (nodup : link.ids.Nodup) {stage : RequestStage} :
    (id, stage) ∈ link.requests ↔ link.stage? id = some stage := by
  unfold stage?
  constructor
  · intro listed
    cases found : link.requests.find? (·.1 == id) with
    | none =>
        have unlisted := List.find?_eq_none.1 found (id, stage) listed
        simp at unlisted
    | some request =>
        have named : request.1 = id := by simpa using List.find?_some found
        have member := List.mem_of_find?_eq_some found
        have same : request = (id, stage) := List.inj_on_of_nodup_map nodup member listed named
        simp [same]
  · intro waits
    rcases Option.map_eq_some_iff.1 waits with ⟨request, found, rfl⟩
    have named : request.1 = id := by simpa using List.find?_some found
    rw [← named]
    exact List.mem_of_find?_eq_some found

theorem isBeingEstablished_iff (nodup : link.ids.Nodup) :
    link.isBeingEstablished = true ↔ ∃ id, link.stage? id = some .establishing := by
  simp only [isBeingEstablished, List.any_eq_true, Prod.exists, beq_iff_eq]
  constructor
  · rintro ⟨id, stage, listed, rfl⟩
    exact ⟨id, (mem_requests_iff nodup).1 listed⟩
  · rintro ⟨id, tries⟩
    exact ⟨id, .establishing, (mem_requests_iff nodup).2 tries, rfl⟩

theorem callCount_eq_zero_iff (nodup : link.ids.Nodup) :
    link.callCount = 0 ↔ ∀ id, ¬ link.Calls id := by
  simp only [callCount, List.countP_eq_zero, Prod.forall]
  constructor
  · rintro none_ id ⟨number, calls⟩
    exact none_ id _ ((mem_requests_iff nodup).2 calls) rfl
  · intro none_ id stage listed calls
    split at calls
    · apply none_ id
      exact ⟨_, (mem_requests_iff nodup).1 listed⟩
    · cases calls

/-- If calling requests are all the same there is at most one. -/
theorem callCount_le_one (nodup : link.ids.Nodup)
    (same : ∀ id other, link.Calls id → link.Calls other → id = other) : link.callCount ≤ 1 := by
  by_cases none_ : ∀ id, ¬ link.Calls id
  · rw [(callCount_eq_zero_iff nodup).2 none_]
    exact Nat.zero_le 1
  · rw [not_forall_not] at none_
    rcases none_ with ⟨caller, calls⟩
    have named : link.callCount ≤ link.ids.count caller := by
      rw [callCount, ids, List.count, List.countP_map]
      apply List.countP_mono_left
      rintro ⟨id, stage⟩ listed isCalling
      split at isCalling
      · rename_i number stage_eq
        have also : link.Calls id := ⟨number, (mem_requests_iff nodup).1 (stage_eq ▸ listed)⟩
        simpa using same id caller also calls
      · cases isCalling
    exact Nat.le_trans named (List.nodup_iff_count_le_one.1 nodup caller)

end Requests

/-! ## What moves keep -/

section Keeping

variable {link : Link Id} {id : Id}

omit [DecidableEq Id] in
theorem ids_request (link : Link Id) (id : Id) (stage : RequestStage) :
    ({ link with requests := link.requests ++ [(id, stage)] } : Link Id).ids = link.ids ++ [id] := by
  simp [ids]

theorem ids_setStage (link : Link Id) (id : Id) (stage : RequestStage) :
    (link.setStage id stage).ids = link.ids := by
  unfold ids setStage
  rw [List.map_map]
  apply List.map_congr_left
  intro request _
  rw [Function.comp_apply]
  split
  · rename_i same
    exact same.symm
  · rfl

theorem ids_remove (link : Link Id) (id : Id) :
    (link.remove id).ids = link.ids.filter (· != id) := by
  simp [ids, remove, List.filter_map, Function.comp_def]

theorem not_mem_ids (unknown : link.stage? id = none) : id ∉ link.ids := by
  intro listed
  rcases mem_ids_iff_exists.1 listed with ⟨stage, member⟩
  have absent := List.find?_eq_none.1 (Option.map_eq_none_iff.1 unknown) _ member
  simp at absent

/-- A request that is known is put into another stage, and no other is. -/
theorem stage?_setStage_of_known {before : RequestStage} (known : link.stage? id = some before)
    (stage : RequestStage) (other : Id) :
    (link.setStage id stage).stage? other =
      if other = id then some stage else link.stage? other := by
  rw [stage?_setStage, known, Option.map_some]

/-- What another request waits for does not depend on this one. -/
theorem eq_of_stage?_eq {next : Link Id} {other : Id} {stage : Option RequestStage}
    {waits : RequestStage}
    (stage?_eq : next.stage? other = if other = id then stage else link.stage? other)
    (now : next.stage? other = some waits) :
    (other = id ∧ stage = some waits) ∨ (other ≠ id ∧ link.stage? other = some waits) := by
  rw [now] at stage?_eq
  by_cases same : other = id
  · rw [if_pos same] at stage?_eq
    exact .inl ⟨same, stage?_eq.symm⟩
  · rw [if_neg same] at stage?_eq
    exact .inr ⟨same, stage?_eq.symm⟩

/-- A step keeps the invariant if nobody comes to establish the link or to call by it, and nobody
queues too early. -/
theorem Sound.of_before {next : Link Id} (sound : link.Sound) (nodup : next.ids.Nodup)
    (established_eq : next.established = link.established)
    (before : ∀ {other stage}, stage ≠ .seeking → stage ≠ .queued →
      next.stage? other = some stage → link.stage? other = some stage)
    (reached : ∀ other, next.stage? other = some .queued → link.established ≠ none) :
    next.Sound := by
  constructor
  case nodup => exact nodup
  case pending =>
    intro other tries
    rw [established_eq]
    exact sound.pending other (before nofun nofun tries)
  case alone =>
    intro one other tries also
    exact sound.alone one other (before nofun nofun tries) (before nofun nofun also)
  case reached =>
    intro other waits
    rw [established_eq]
    exact reached other waits
  case through =>
    intro other number calls
    rw [established_eq]
    exact sound.through other number (before nofun nofun calls)
  case exclusive =>
    rw [established_eq]
    rintro established present serializes one other ⟨first, calls⟩ ⟨second, also⟩
    exact sound.exclusive established present serializes one other
      ⟨first, before nofun nofun calls⟩ ⟨second, before nofun nofun also⟩

theorem Sound.remove (sound : link.Sound) (id : Id) : (link.remove id).Sound := by
  have before {other : Id} {stage : RequestStage}
      (waits : (link.remove id).stage? other = some stage) : link.stage? other = some stage := by
    rcases eq_of_stage?_eq (stage?_remove link id other) waits with ⟨-, ⟨⟩⟩ | ⟨-, waited⟩
    exact waited
  apply sound.of_before
  case nodup =>
    rw [ids_remove]
    exact sound.nodup.filter _
  case established_eq => rfl
  case before => exact fun _ _ => before
  case reached => exact fun other waits => sound.reached other (before waits)

theorem Sound.request (sound : link.Sound) (unknown : link.stage? id = none) :
    ({ link with requests := link.requests ++ [(id, .seeking)] } : Link Id).Sound := by
  have before {other : Id} {stage : RequestStage} (different : stage ≠ .seeking)
      (waits : ({ link with requests := link.requests ++ [(id, .seeking)] } : Link Id).stage? other =
        some stage) : link.stage? other = some stage := by
    rcases eq_of_stage?_eq (stage?_request link id other unknown) waits with
      ⟨-, seeks⟩ | ⟨-, waited⟩
    · exact (different (Option.some.inj seeks).symm).elim
    · exact waited
  apply sound.of_before
  case nodup =>
    rw [ids_request, List.nodup_append]
    refine ⟨sound.nodup, by simp, ?_⟩
    intro other listed last isLast same
    rw [List.mem_singleton] at isLast
    exact not_mem_ids unknown (isLast ▸ same ▸ listed)
  case established_eq => rfl
  case before => exact fun different _ => before different
  case reached => exact fun other waits => sound.reached other (before nofun waits)

theorem Sound.proceed (sound : link.Sound) (seeks : link.stage? id = some .seeking)
    (present : link.established ≠ none) : (link.setStage id .queued).Sound := by
  apply sound.of_before
  case nodup =>
    rw [ids_setStage]
    exact sound.nodup
  case established_eq => rfl
  case before =>
    intro other stage _ different waits
    rcases eq_of_stage?_eq (stage?_setStage_of_known seeks .queued other) waits with
      ⟨-, queued⟩ | ⟨-, waited⟩
    · exact (different (Option.some.inj queued).symm).elim
    · exact waited
  case reached => exact fun _ _ => present

theorem Sound.establish (sound : link.Sound) (seeks : link.stage? id = some .seeking)
    (absent : link.established = none) (idle : link.isBeingEstablished = false) :
    (link.setStage id .establishing).Sound := by
  have cases_of {other : Id} {stage : RequestStage}
      (waits : (link.setStage id .establishing).stage? other = some stage) :=
    eq_of_stage?_eq (stage?_setStage_of_known seeks .establishing other) waits
  have nobody (other : Id) : link.stage? other ≠ some .establishing := by
    intro tries
    have busy := (isBeingEstablished_iff sound.nodup).2 ⟨other, tries⟩
    rw [idle] at busy
    cases busy
  constructor
  case nodup =>
    rw [ids_setStage]
    exact sound.nodup
  case pending => exact fun _ _ => absent
  case alone =>
    intro one other tries also
    rcases cases_of tries with ⟨rfl, -⟩ | ⟨-, before⟩
    · rcases cases_of also with ⟨rfl, -⟩ | ⟨-, before⟩
      · rfl
      · exact (nobody other before).elim
    · exact (nobody one before).elim
  case reached =>
    intro other waits
    rcases cases_of waits with ⟨-, ⟨⟩⟩ | ⟨-, before⟩
    exact sound.reached other before
  case through =>
    intro other number calls
    rcases cases_of calls with ⟨-, ⟨⟩⟩ | ⟨-, before⟩
    exact sound.through other number before
  case exclusive =>
    intro established present
    exact nomatch absent.symm.trans present

theorem Sound.established (sound : link.Sound) (tries : link.stage? id = some .establishing)
    (serializes : Bool) :
    ({ link.setStage id .queued with
        established := some ⟨link.count, serializes⟩
        count := link.count + 1 } : Link Id).Sound := by
  have absent := sound.pending id tries
  have cases_of {other : Id} {stage : RequestStage}
      (waits : (link.setStage id .queued).stage? other = some stage) :=
    eq_of_stage?_eq (stage?_setStage_of_known tries .queued other) waits
  -- Before there was no link, so nobody called.
  have nobody (other : Id) (number : Nat) : link.stage? other ≠ some (.calling number) := by
    intro calls
    rcases sound.through other number calls with ⟨before, present⟩
    exact nomatch absent.symm.trans present
  constructor
  case nodup =>
    have same := ids_setStage link id .queued
    exact same ▸ sound.nodup
  case pending =>
    intro other also
    rcases cases_of also with ⟨-, ⟨⟩⟩ | ⟨different, before⟩
    exact (different (sound.alone other id before tries)).elim
  case alone =>
    intro one other also
    rcases cases_of also with ⟨-, ⟨⟩⟩ | ⟨different, before⟩
    exact (different (sound.alone one id before tries)).elim
  case reached => exact nofun
  case through =>
    intro other number calls
    rcases cases_of calls with ⟨-, ⟨⟩⟩ | ⟨-, before⟩
    exact (nobody other number before).elim
  case exclusive =>
    rintro _ _ _ one other ⟨number, calls⟩
    rcases cases_of calls with ⟨-, ⟨⟩⟩ | ⟨-, before⟩
    exact (nobody one number before).elim

theorem Sound.call (sound : link.Sound) {established : Established}
    (waits : link.stage? id = some .queued) (present : link.established = some established)
    (free : established.serializes = true → link.callCount = 0) :
    (link.setStage id (.calling established.number)).Sound := by
  have cases_of {other : Id} {stage : RequestStage}
      (reached : (link.setStage id (.calling established.number)).stage? other = some stage) :=
    eq_of_stage?_eq (stage?_setStage_of_known waits (.calling established.number) other) reached
  constructor
  case nodup =>
    rw [ids_setStage]
    exact sound.nodup
  case pending =>
    intro other tries
    rcases cases_of tries with ⟨-, ⟨⟩⟩ | ⟨-, before⟩
    exact sound.pending other before
  case alone =>
    intro one other tries also
    rcases cases_of tries with ⟨-, ⟨⟩⟩ | ⟨-, before⟩
    rcases cases_of also with ⟨-, ⟨⟩⟩ | ⟨-, too⟩
    exact sound.alone one other before too
  case reached =>
    intro other queued
    rcases cases_of queued with ⟨-, ⟨⟩⟩ | ⟨-, before⟩
    exact sound.reached other before
  case through =>
    intro other number calls
    rcases cases_of calls with ⟨-, ⟨⟩⟩ | ⟨-, before⟩
    · exact ⟨established.serializes, present⟩
    · exact sound.through other number before
  case exclusive =>
    intro established' found serializes
    cases present.symm.trans found
    have nobody := (callCount_eq_zero_iff sound.nodup).1 (free serializes)
    have only {other : Id} (calls : (link.setStage id (.calling established.number)).Calls other) :
        other = id := by
      rcases calls with ⟨number, calls⟩
      rcases cases_of calls with ⟨same, -⟩ | ⟨-, before⟩
      · exact same
      · exact (nobody other ⟨number, before⟩).elim
    intro one other calls also
    rw [only calls, only also]

theorem Sound.move {next : Link Id} {label : Label Id} {answer : Option (Except Failure Unit)}
    (sound : link.Sound) (moves : Moves link label next answer) : next.Sound := by
  cases moves with
  | request unknown => exact sound.request unknown
  | establish seeks absent idle => exact sound.establish seeks absent idle
  | established tries => exact sound.established tries _
  | proceed seeks present => exact sound.proceed seeks (present ▸ nofun)
  | call waits present free => exact sound.call waits present free
  | notEstablished | answered | drop => exact sound.remove _

end Keeping

end PortTunnel.Cluster.Link
