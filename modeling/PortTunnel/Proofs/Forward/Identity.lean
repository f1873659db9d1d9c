import Mathlib.Data.List.Dedup
import PortTunnel.Forward.Basic
import PortTunnel.Proofs.Number.Decimal

/-!
# What ids tell

The id of a forward is a text without escapes: a context, a namespace or a name may hold
the separators as well.  The two ports stand last, though, and digits are no separators,
so they can be read off from the end of any id.  Forwards with different local ports
therefore have different ids, whatever they are called.

Before the ports stand four parts with slashes between them.  Where the namespace and the
name have no slash of their own, as all names of a cluster have none, the last three parts
can be read off from the end as well, and the rest is the context, however many slashes it
has.  So plain forwards of one id differ at most in where they listen and in the container.
-/

namespace PortTunnel

/-- Where a list ends in values of one kind, the last value of another kind divides it. -/
theorem append_cons_inj_of_forall {α : Type} (IsTail : α → Prop) {first second : List α}
    {mark : α} {tail tail' : List α} (unmarked : ¬ IsTail mark)
    (all : ∀ value ∈ tail, IsTail value) (all' : ∀ value ∈ tail', IsTail value)
    (same : first ++ mark :: tail = second ++ mark :: tail') :
    first = second ∧ tail = tail' := by
  rcases List.append_eq_append_iff.1 same with
    ⟨between, second_eq, rest_eq⟩ | ⟨between, first_eq, rest_eq⟩
  · cases between with
    | nil =>
        rw [List.append_nil] at second_eq
        exact ⟨second_eq.symm, (List.cons.inj rest_eq).2⟩
    | cons head between =>
        -- Otherwise the mark would be one of the values after the other mark.
        apply (unmarked (all mark _)).elim
        rw [(List.cons.inj rest_eq).2]
        exact List.mem_append_right _ List.mem_cons_self
  · cases between with
    | nil =>
        rw [List.append_nil] at first_eq
        exact ⟨first_eq, (List.cons.inj rest_eq).2.symm⟩
    | cons head between =>
        apply (unmarked (all' mark _)).elim
        rw [(List.cons.inj rest_eq).2]
        exact List.mem_append_right _ List.mem_cons_self

/-- Two texts that end in a mark and a number are equal only if both parts are. -/
theorem append_mark_repr_inj {first second : List Char} {mark : Char} {number number' : Nat}
    (unmarked : mark.isDigit = false)
    (same : first ++ mark :: number.repr.toList = second ++ mark :: number'.repr.toList) :
    first = second ∧ number = number' := by
  have isMark : ¬ mark.isDigit = true := by simp [unmarked]
  rcases append_cons_inj_of_forall (fun digit => digit.isDigit = true) isMark
    (fun _ => Number.isDigit_of_mem_repr) (fun _ => Number.isDigit_of_mem_repr) same with
    ⟨first_eq, digits_eq⟩
  rw [Nat.toList_repr, Nat.toList_repr] at digits_eq
  have numbers_eq := congrArg (Nat.ofDigitChars 10 · 0) digits_eq
  exact ⟨first_eq, by simpa [Nat.ofDigitChars_toDigits] using numbers_eq⟩

namespace Forward

/-- What stands before the ports in an id. -/
def resourceText (forward : Forward) : String :=
  forward.context ++ "/" ++ forward.space ++ "/" ++ forward.kind.name ++ "/" ++ forward.name

theorem toList_id (forward : Forward) :
    forward.id.toList =
      forward.resourceText.toList ++ ':' :: forward.localPort.toNat.repr.toList ++ ['-'] ++
        '>' :: forward.remotePort.toNat.repr.toList := by
  simp [id, label, resourceText, String.toList_append]

/-- The ports can be read off from an id, and so can the text before them. -/
theorem id_eq_id_iff {forward other : Forward} :
    forward.id = other.id ↔
      forward.resourceText = other.resourceText ∧ forward.localPort = other.localPort ∧
        forward.remotePort = other.remotePort := by
  rw [← String.toList_inj, toList_id, toList_id]
  constructor
  · intro same
    rcases append_mark_repr_inj rfl same with ⟨before, remote_eq⟩
    rcases append_mark_repr_inj rfl (List.append_cancel_right before) with ⟨text_eq, local_eq⟩
    exact ⟨String.toList_injective text_eq, UInt16.toNat_inj.1 local_eq,
      UInt16.toNat_inj.1 remote_eq⟩
  · rintro ⟨text_eq, local_eq, remote_eq⟩
    rw [text_eq, local_eq, remote_eq]

/-- Forwards with different local ports have different ids. -/
theorem nodup_ids {forwards : List Forward} (distinct : (forwards.map (·.localPort)).Nodup) :
    (forwards.map Forward.id).Nodup := by
  apply List.Pairwise.map Forward.id ?_ (List.pairwise_map.1 distinct)
  intro forward other different same
  exact different (id_eq_id_iff.1 same).2.1

end Forward

/-! ## Plain forwards -/

namespace ResourceKind

theorem name_injective : Function.Injective name := by
  intro kind other same
  cases kind <;> cases other <;> first | rfl | exact absurd same (by decide)

/-- No kind has a slash in its name. -/
theorem slash_notMem_name (kind : ResourceKind) : '/' ∉ kind.name.toList := by
  cases kind <;> decide

end ResourceKind

/-- Two texts that end in a slash and a part without one are equal only if both parts are. -/
theorem append_slash_inj {first second : List Char} {part part' : String}
    (plain : '/' ∉ part.toList) (plain' : '/' ∉ part'.toList)
    (same : first ++ '/' :: part.toList = second ++ '/' :: part'.toList) :
    first = second ∧ part = part' := by
  have apart {text : String} (plain : '/' ∉ text.toList) (letter : Char)
      (member : letter ∈ text.toList) : letter ≠ '/' := by
    rintro rfl
    exact plain member
  obtain ⟨first_eq, part_eq⟩ := append_cons_inj_of_forall (· ≠ '/') (not_not_intro rfl)
    (apart plain) (apart plain') same
  exact ⟨first_eq, String.toList_injective part_eq⟩

/-- What the id of a forward names.  The local address and the container are no part of it. -/
structure Identity where
  context : String
  space : String
  kind : ResourceKind
  name : String
  localPort : UInt16
  remotePort : UInt16
  deriving DecidableEq

/-- An identity as an id. -/
def Identity.text (identity : Identity) : String :=
  identity.context ++ "/" ++ identity.space ++ "/" ++ identity.kind.name ++ "/" ++ identity.name
    ++ ":" ++ identity.localPort.toNat.repr ++ "->" ++ identity.remotePort.toNat.repr

namespace Forward

/-- What is named by the id of a forward. -/
def identity (forward : Forward) : Identity where
  context := forward.context
  space := forward.space
  kind := forward.kind
  name := forward.name
  localPort := forward.localPort
  remotePort := forward.remotePort

/-- The namespace and the name have no slash, as all names of a cluster.  A context may have
any. -/
structure IsPlain (forward : Forward) : Prop where
  space : '/' ∉ forward.space.toList
  name : '/' ∉ forward.name.toList

/-- The identities of forwards, each once. -/
def identities (forwards : List Forward) : List Identity :=
  (forwards.map identity).dedup

variable {forward other : Forward}

theorem text_identity (forward : Forward) : forward.identity.text = forward.id :=
  rfl

theorem mem_identities_iff {forwards : List Forward} {identity : Identity} :
    identity ∈ identities forwards ↔ ∃ forward ∈ forwards, forward.identity = identity := by
  rw [identities, List.mem_dedup, List.mem_map]

theorem identity_eq_iff :
    forward.identity = other.identity ↔
      forward.context = other.context ∧ forward.space = other.space ∧ forward.kind = other.kind ∧
        forward.name = other.name ∧ forward.localPort = other.localPort ∧
          forward.remotePort = other.remotePort := by
  simp [identity]

theorem toList_resourceText (forward : Forward) :
    forward.resourceText.toList =
      forward.context.toList ++ '/' :: forward.space.toList ++ '/' :: forward.kind.name.toList ++
        '/' :: forward.name.toList := by
  simp [resourceText, String.toList_append]

/-- What stands before the ports can be taken apart if the forwards are plain. -/
theorem resourceText_eq_iff (plain : forward.IsPlain) (plain' : other.IsPlain) :
    forward.resourceText = other.resourceText ↔
      forward.context = other.context ∧ forward.space = other.space ∧ forward.kind = other.kind ∧
        forward.name = other.name := by
  constructor
  · intro same
    have same := congrArg String.toList same
    rw [toList_resourceText, toList_resourceText] at same
    -- The parts come off one after another, from the end.
    obtain ⟨same, name_eq⟩ := append_slash_inj plain.name plain'.name same
    obtain ⟨same, kind_eq⟩ :=
      append_slash_inj forward.kind.slash_notMem_name other.kind.slash_notMem_name same
    obtain ⟨context_eq, space_eq⟩ := append_slash_inj plain.space plain'.space same
    exact ⟨String.toList_injective context_eq, space_eq, ResourceKind.name_injective kind_eq,
      name_eq⟩
  · rintro ⟨context_eq, space_eq, kind_eq, name_eq⟩
    simp only [resourceText, context_eq, space_eq, kind_eq, name_eq]

/-- Plain forwards have the same id exactly if the ids name the same. -/
theorem id_eq_id_iff_of_isPlain (plain : forward.IsPlain) (plain' : other.IsPlain) :
    forward.id = other.id ↔ forward.identity = other.identity := by
  rw [id_eq_id_iff, resourceText_eq_iff plain plain', identity_eq_iff]
  tauto

/-- A slash in a namespace may be taken for the end of the context. -/
example : ({ (default : Forward) with context := "x", space := "y/z" }).id =
    ({ (default : Forward) with context := "x/y", space := "z" }).id := by
  decide

/-- A list without repetitions of the ids of plain forwards has one for each identity. -/
theorem perm_texts {forwards : List Forward} {ids : List String}
    (plain : ∀ forward ∈ forwards, forward.IsPlain) (nodup : ids.Nodup)
    (mem_iff : ∀ id, id ∈ ids ↔ ∃ forward ∈ forwards, forward.id = id) :
    ids.Perm ((identities forwards).map Identity.text) := by
  have distinct : ((identities forwards).map Identity.text).Nodup := by
    apply List.Nodup.map_on _ (List.nodup_dedup _)
    intro identity member identity' member' same
    obtain ⟨forward, listed, rfl⟩ := mem_identities_iff.1 member
    obtain ⟨other, listed', rfl⟩ := mem_identities_iff.1 member'
    exact (id_eq_id_iff_of_isPlain (plain forward listed) (plain other listed')).1 same
  rw [List.perm_ext_iff_of_nodup nodup distinct]
  intro id
  rw [mem_iff, List.mem_map]
  constructor
  · rintro ⟨forward, listed, rfl⟩
    exact ⟨forward.identity, mem_identities_iff.2 ⟨forward, listed, rfl⟩, text_identity forward⟩
  · rintro ⟨identity, member, rfl⟩
    obtain ⟨forward, listed, rfl⟩ := mem_identities_iff.1 member
    exact ⟨forward, listed, (text_identity forward).symm⟩

end Forward

end PortTunnel
