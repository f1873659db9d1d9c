/-!
# Trails

Sessions, links and runs are machines whose steps carry labels.  A trail is a
finite run of such a machine together with the labels on the way.  The labels of
a trail are all that the system chose, so a statement about every trail is a
statement about every order in which things may happen.

The last label comes last, and trails grow at their end.  Induction over a trail
therefore asks what one more step preserves.
-/

namespace PortTunnel

universe u v

variable {S : Type u} {L : Type v} {next : S → L → S → Prop}

/-- A list that has grown at its end is split at its last element or before it. -/
theorem concat_eq_append_cons {labels before after : List L} {last label : L}
    (all_eq : labels ++ [last] = before ++ label :: after) :
    (labels = before ∧ last = label ∧ after = []) ∨
      ∃ rest, labels = before ++ label :: rest ∧ after = rest ++ [last] := by
  rcases List.eq_nil_or_concat after with rfl | ⟨rest, final, rfl⟩
  · obtain ⟨labels_eq, last_eq⟩ := List.append_inj' all_eq rfl
    exact .inl ⟨labels_eq, List.singleton_inj.1 last_eq, rfl⟩
  · rw [List.concat_eq_append, ← List.cons_append, ← List.append_assoc] at all_eq
    obtain ⟨labels_eq, last_eq⟩ := List.append_inj' all_eq rfl
    rw [List.concat_eq_append, List.singleton_inj.1 last_eq]
    exact .inr ⟨rest, labels_eq, rfl⟩

/-- `Trail next start labels stop` holds if the labels lead from `start` to `stop`. -/
inductive Trail (next : S → L → S → Prop) (start : S) : List L → S → Prop
  | here : Trail next start [] start
  | onward {labels : List L} {middle : S} {label : L} {stop : S}
      (trail : Trail next start labels middle) (step : next middle label stop) :
      Trail next start (labels ++ [label]) stop

namespace Trail

/-- One step is a trail. -/
theorem single {start stop : S} {label : L} (step : next start label stop) :
    Trail next start [label] stop :=
  here.onward step

/-- Trails that meet can be joined. -/
theorem trans {start middle stop : S} {first second : List L}
    (before : Trail next start first middle) (after : Trail next middle second stop) :
    Trail next start (first ++ second) stop := by
  induction after with
  | here => simpa using before
  | @onward labels late label last _ step ih =>
      rw [← List.append_assoc]
      exact ih.onward step

/-- A step in front of a trail. -/
theorem cons {start middle stop : S} {label : L} {labels : List L}
    (step : next start label middle) (after : Trail next middle labels stop) :
    Trail next start (label :: labels) stop :=
  (single step).trans after

/-- A trail passes through a state between any two parts of its labels. -/
theorem split {start stop : S} {first second : List L}
    (trail : Trail next start (first ++ second) stop) :
    ∃ middle, Trail next start first middle ∧ Trail next middle second stop := by
  generalize all_eq : first ++ second = all at trail
  induction trail generalizing second with
  | here =>
      obtain ⟨rfl, rfl⟩ := List.append_eq_nil_iff.1 all_eq
      exact ⟨start, here, here⟩
  | @onward labels late label last trail step ih =>
      rcases List.eq_nil_or_concat second with rfl | ⟨rest, final, rfl⟩
      · rw [List.append_nil] at all_eq
        subst all_eq
        exact ⟨last, trail.onward step, here⟩
      · rw [List.concat_eq_append, ← List.append_assoc] at all_eq
        obtain ⟨labels_eq, final_eq⟩ := List.append_inj' all_eq rfl
        obtain ⟨middle, before, after⟩ := ih labels_eq
        obtain rfl : final = label := by simpa using final_eq
        rw [List.concat_eq_append]
        exact ⟨middle, before, after.onward step⟩

/-- A trail without labels stays where it is. -/
theorem eq_of_nil {start stop : S} (trail : Trail next start [] stop) : stop = start := by
  generalize none_eq : ([] : List L) = labels at trail
  cases trail with
  | here => rfl
  | onward => simp at none_eq

/-- The last step of a trail. -/
theorem last_step {start stop : S} {labels : List L} {label : L}
    (trail : Trail next start (labels ++ [label]) stop) :
    ∃ middle, Trail next start labels middle ∧ next middle label stop := by
  generalize all_eq : labels ++ [label] = all at trail
  cases trail with
  | here => simp at all_eq
  | @onward earlier middle final _ trail step =>
      obtain ⟨labels_eq, final_eq⟩ := List.append_inj' all_eq rfl
      obtain rfl : label = final := by simpa using final_eq
      subst labels_eq
      exact ⟨middle, trail, step⟩

/-- The step of a trail at one of its labels. -/
theorem step_at {start stop : S} {before after : List L} {label : L}
    (trail : Trail next start (before ++ label :: after) stop) :
    ∃ middle later, Trail next start before middle ∧ next middle label later ∧
      Trail next later after stop := by
  rw [← List.singleton_append, ← List.append_assoc] at trail
  obtain ⟨later, first, rest⟩ := trail.split
  obtain ⟨middle, first, step⟩ := first.last_step
  exact ⟨middle, later, first, step, rest⟩

/-- What every step preserves holds along the whole trail. -/
theorem preserves {Holds : S → Prop} {start stop : S} {labels : List L}
    (trail : Trail next start labels stop) (begins : Holds start)
    (goesOn : ∀ {state label later}, Holds state → next state label later → Holds later) :
    Holds stop := by
  induction trail with
  | here => exact begins
  | onward _ step ih => exact goesOn ih step

/-- Where the labels decide every step, they decide the end of a trail. -/
theorem functional
    (unique : ∀ {state label later later'},
      next state label later → next state label later' → later = later')
    {start stop stop' : S} {labels : List L} (trail : Trail next start labels stop)
    (trail' : Trail next start labels stop') : stop = stop' := by
  induction trail generalizing stop' with
  | here => exact trail'.eq_of_nil.symm
  | onward _ step ih =>
      obtain ⟨middle, before, step'⟩ := trail'.last_step
      rw [ih before] at step
      exact unique step step'

end Trail

/-- Follow labels one after another, as long as they can happen. -/
def follow (step : S → L → Option S) : S → List L → Option S
  | state, [] => some state
  | state, label :: labels => (step state label).bind fun later => follow step later labels

/-- What labels lead to when they are followed is the end of their trail. -/
theorem follow_eq_some_iff {step : S → L → Option S} {start stop : S} {labels : List L} :
    follow step start labels = some stop ↔
      Trail (fun state label later => step state label = some later) start labels stop := by
  constructor
  · intro followed
    induction labels generalizing start with
    | nil =>
        cases followed
        exact .here
    | cons label labels ih =>
        obtain ⟨middle, step_eq, rest⟩ := Option.bind_eq_some_iff.1 followed
        exact .cons step_eq (ih rest)
  · intro trail
    induction labels generalizing start with
    | nil => rw [trail.eq_of_nil, follow]
    | cons label labels ih =>
        have parts : Trail _ start ([label] ++ labels) stop := trail
        obtain ⟨middle, first, rest⟩ := parts.split
        have one : Trail _ start ([] ++ [label]) middle := first
        obtain ⟨before, stays, step_eq⟩ := one.last_step
        rw [stays.eq_of_nil] at step_eq
        rw [follow, step_eq]
        exact ih rest

end PortTunnel
