import Mathlib.Data.List.TakeWhile
import PortTunnel.Proofs.Address.Octets

/-!
# Addresses read back

Groups of version six are written in hexadecimal digits with colons between them, and
the longest run of zeros is left out.  Whatever is left out is what the reader fills in,
so an address of either version is read from its text.
-/

namespace PortTunnel.Address

/-! ## Hexadecimal digits -/

theorem digitValue?_digitChar {digit : Nat} (small : digit < 16) :
    digitValue? 16 digit.digitChar = some digit := by
  interval_cases digit <;> rfl

theorem digitChar_ne_point {digit : Nat} (small : digit < 16) : digit.digitChar ≠ '.' := by
  interval_cases digit <;> decide

/-- Digits are read into the number that they stand for. -/
theorem readDigits_toDigits (number : Nat) (rest : List Char) :
    readDigits 16 0 0 (Nat.toDigits 16 number ++ rest) =
      readDigits 16 number (Nat.toDigits 16 number).length rest := by
  induction number using Nat.strongRecOn generalizing rest with
  | ind number ih =>
    rw [Nat.toDigits_eq_if (by decide)]
    split
    case isTrue small => simp [readDigits, digitValue?_digitChar small]
    case isFalse large =>
      -- The digits before the last one are those of a sixteenth of the number.
      have last := digitValue?_digitChar (Nat.mod_lt number (by decide : 0 < 16))
      rw [List.append_assoc, ih (number / 16) (by omega), List.singleton_append, readDigits, last]
      simp only [List.length_append, List.length_singleton, Nat.div_add_mod']

theorem ne_point_of_mem_toDigits {number : Nat} {digit : Char}
    (member : digit ∈ Nat.toDigits 16 number) : digit ≠ '.' := by
  induction number using Nat.strongRecOn with
  | ind number ih =>
    rw [Nat.toDigits_eq_if (by decide)] at member
    split at member
    case isTrue small =>
      rw [List.mem_singleton.1 member]
      exact digitChar_ne_point small
    case isFalse large =>
      rcases List.mem_append.1 member with earlier | last
      · exact ih (number / 16) (by omega) earlier
      · rw [List.mem_singleton.1 last]
        exact digitChar_ne_point (Nat.mod_lt number (by decide))

/-! ## Groups -/

open Groups (groupText groupsText)

/-- A text that does not continue a group in front of it: it is empty or goes on with a
colon. -/
def EndsGroup (rest : List Char) : Prop :=
  ∀ next ∈ rest.head?, next = ':'

theorem endsGroup_nil : EndsGroup [] := by
  simp [EndsGroup]

theorem endsGroup_colon (rest : List Char) : EndsGroup (':' :: rest) := by
  simp [EndsGroup]

/-- A group is read from its digits. -/
theorem readGroup?_append (group : UInt16) {rest : List Char} (ends : EndsGroup rest) :
    readGroup? ((groupText group).toList ++ rest) = some (group, rest) := by
  have few : (Nat.toDigits 16 group.toNat).length ≤ 4 := by
    rw [Nat.length_toDigits_le_iff (by decide) (by decide)]
    exact group.toNat_lt
  have someDigit : 0 < (Nat.toDigits 16 group.toNat).length := Nat.length_toDigits_pos
  have stops : readDigits 16 group.toNat (Nat.toDigits 16 group.toNat).length rest =
      (group.toNat, (Nat.toDigits 16 group.toNat).length, rest) := by
    cases rest with
    | nil => rfl
    | cons next rest =>
        rw [ends next rfl]
        rfl
  have inRange : ¬ 4 < (Nat.toDigits 16 group.toNat).length := Nat.not_lt.2 few
  simp only [readGroup?, groupText, String.toList_ofList, readDigits_toDigits, stops]
  simp [inRange, Nat.ne_of_gt someDigit]

theorem readMark?_readDigits {digits rest : List Char} (value count : Nat)
    (plain : '.' ∉ digits) (ends : EndsGroup rest) :
    readMark? '.' (readDigits 10 value count (digits ++ rest)).2.2 = none := by
  induction digits generalizing value count with
  | nil =>
      cases rest with
      | nil => rfl
      | cons next rest =>
          rw [ends next rfl]
          rfl
  | cons digit digits ih =>
      have other : digit ≠ '.' := fun same => plain (same ▸ List.mem_cons_self)
      rw [List.cons_append, readDigits]
      split
      case h_1 => exact ih _ _ fun member => plain (List.mem_cons_of_mem _ member)
      case h_2 => simp [readMark?, other]

/-- Where a colon comes before any point, there are no dotted octets. -/
theorem readOctets?_eq_none (digits : List Char) {rest : List Char} (plain : '.' ∉ digits)
    (ends : EndsGroup rest) : readOctets? (digits ++ rest) = none := by
  have noPoint := readMark?_readDigits 0 0 plain ends
  cases read : readOctet? (digits ++ rest) with
  | none => simp [readOctets?, read]
  | some octet =>
      -- What is left behind an octet is what its digits leave.
      have left : octet.2 = (readDigits 10 0 0 (digits ++ rest)).2.2 := by
        simp only [readOctet?] at read
        split at read
        · cases read
        · split at read
          · cases read
          · rw [← Option.some.inj read]
      simp [readOctets?, read, left, noPoint]

theorem ne_point_of_mem_groupText {group : UInt16} {digit : Char}
    (member : digit ∈ (groupText group).toList) : digit ≠ '.' := by
  rw [groupText, String.toList_ofList] at member
  exact ne_point_of_mem_toDigits member

theorem readOctets?_groupText (group : UInt16) {rest : List Char} (ends : EndsGroup rest) :
    readOctets? ((groupText group).toList ++ rest) = none :=
  readOctets?_eq_none _ (fun member => ne_point_of_mem_groupText member rfl) ends

/-! ## Runs of groups -/

/-- Groups with a colon before each of them. -/
def ledGroups (groups : List UInt16) : List Char :=
  groups.flatMap fun group => ':' :: (groupText group).toList

theorem toList_groupsText_cons (group : UInt16) (groups : List UInt16) :
    (groupsText (group :: groups)).toList = (groupText group).toList ++ ledGroups groups := by
  induction groups generalizing group with
  | nil => simp [groupsText, ledGroups]
  | cons next groups ih =>
      have later := ih next
      simp only [groupsText, List.map_cons, String.intercalate_cons_cons, String.toList_append,
        ledGroups, List.flatMap_cons] at later ⊢
      rw [later]
      simp

/-- A text behind which no run of groups goes on: its end, or two colons. -/
def EndsRun (rest : List Char) : Prop :=
  rest = [] ∨ ∃ others, rest = ':' :: ':' :: others

theorem endsGroup_ledGroups (groups : List UInt16) {rest : List Char} (ends : EndsRun rest) :
    EndsGroup (ledGroups groups ++ rest) := by
  cases groups with
  | nil =>
      rcases ends with rfl | ⟨others, rfl⟩
      · exact endsGroup_nil
      · exact endsGroup_colon _
  | cons group groups => exact endsGroup_colon _

/-- Where a run has ended, no more groups are read. -/
theorem readGroups_of_endsRun (isFirst : Bool) (room : Nat) {rest : List Char}
    (ends : EndsRun rest) : readGroups isFirst room rest = ([], false, rest) := by
  cases room with
  | zero => rfl
  | succ room => rcases ends with rfl | ⟨others, rfl⟩ <;> cases isFirst <;> cases room <;> rfl

/-- A group that does not start a dotted address is read, and then the other ones. -/
theorem readGroups_group {isFirst : Bool} {room : Nat} {characters behind rest : List Char}
    {group : UInt16} (colon : readColon? isFirst characters = some behind)
    (undotted : readOctets? behind = none) (read : readGroup? behind = some (group, rest)) :
    readGroups isFirst (room + 1) characters =
      (group :: (readGroups false room rest).1, (readGroups false room rest).2) := by
  cases room <;> simp [readGroups, colon, undotted, read]

theorem readGroups_ledGroups {groups : List UInt16} {room : Nat} {rest : List Char}
    (fits : groups.length ≤ room) (ends : EndsRun rest) :
    readGroups false room (ledGroups groups ++ rest) = (groups, false, rest) := by
  induction groups generalizing room with
  | nil => exact readGroups_of_endsRun false room ends
  | cons group groups ih =>
      obtain ⟨room, rfl⟩ : ∃ less, room = less + 1 :=
        ⟨room - 1, by rw [List.length_cons] at fits; omega⟩
      have endsHere := endsGroup_ledGroups groups ends
      have colon : readColon? false (ledGroups (group :: groups) ++ rest) =
          some ((groupText group).toList ++ (ledGroups groups ++ rest)) := by
        simp [readColon?, ledGroups, readMark?]
      rw [readGroups_group colon (readOctets?_groupText group endsHere)
        (readGroup?_append group endsHere), ih (Nat.le_of_succ_le_succ fits)]

/-- Groups are read from their text. -/
theorem readGroups_groupsText {groups : List UInt16} {room : Nat} {rest : List Char}
    (fits : groups.length ≤ room) (ends : EndsRun rest) :
    readGroups true room ((groupsText groups).toList ++ rest) = (groups, false, rest) := by
  cases groups with
  | nil => exact readGroups_of_endsRun true room ends
  | cons group groups =>
      obtain ⟨room, rfl⟩ : ∃ less, room = less + 1 :=
        ⟨room - 1, by rw [List.length_cons] at fits; omega⟩
      have endsHere := endsGroup_ledGroups groups ends
      rw [toList_groupsText_cons, List.append_assoc, readGroups_group rfl
        (readOctets?_groupText group endsHere) (readGroup?_append group endsHere),
        readGroups_ledGroups (Nat.le_of_succ_le_succ fits) ends]

/-- No dotted octets stand where groups are written. -/
theorem readOctets?_groupsText (groups : List UInt16) {rest : List Char} (ends : EndsRun rest) :
    readOctets? ((groupsText groups).toList ++ rest) = none := by
  cases groups with
  | nil => exact readOctets?_eq_none [] nofun (endsGroup_ledGroups [] ends)
  | cons group groups =>
      rw [toList_groupsText_cons, List.append_assoc]
      exact readOctets?_groupText group (endsGroup_ledGroups groups ends)

/-! ## The zeros that are left out -/

/-- Around the longest run of zeros stand the groups in front of it and behind it. -/
theorem longestZeros_parts (start : Nat) (groups : List UInt16) :
    ∃ before behind, (Groups.longestZeros start groups).1 = start + before.length ∧
      groups = before ++ List.replicate (Groups.longestZeros start groups).2 0 ++ behind := by
  induction groups generalizing start with
  | nil => exact ⟨[], [], rfl, rfl⟩
  | cons group rest ih =>
      simp only [Groups.longestZeros]
      split
      case isTrue =>
        refine ⟨[], (group :: rest).dropWhile (· == 0), rfl, ?_⟩
        have zeros : (group :: rest).takeWhile (· == 0) =
            List.replicate (Groups.leadingZeros (group :: rest)) 0 := by
          rw [List.eq_replicate_iff]
          exact ⟨rfl, fun zero member => by simpa using List.mem_takeWhile_imp member⟩
        rw [List.nil_append, ← zeros, List.takeWhile_append_dropWhile]
      case isFalse =>
        obtain ⟨before, behind, place, parts⟩ := ih (start + 1)
        refine ⟨group :: before, behind, ?_, ?_⟩
        · rw [place, List.length_cons]
          omega
        · rw [List.cons_append, List.cons_append, ← parts]

/-! ## Whole addresses -/

/-- The texts of an address of version six. -/
inductive Written (groups : Groups) : List Char → Prop
  /-- The last two groups are written as octets. -/
  | embedding (octets : Octets)
      (parts : groups.toList = List.replicate 5 0 ++ 0xffff :: groupsOfOctets octets) :
      Written groups (':' :: ':' :: ((groupText 0xffff).toList ++ ':' :: octets.text.toList))
  /-- Zeros between the groups are left out. -/
  | abbreviated (head tail : List UInt16) (short : head.length + tail.length < 8)
      (parts : groups.toList =
        head ++ List.replicate (8 - head.length - tail.length) 0 ++ tail) :
      Written groups ((groupsText head).toList ++ ':' :: ':' :: (groupsText tail).toList)
  | full : Written groups ((groupsText groups.toList).toList ++ [])

/-- The octets that an address embeds are its last two groups. -/
theorem groupsOfOctets_of_embedded? {groups : Groups} {octets : Octets}
    (embeds : groups.embedded? = some octets) :
    groups.toList = List.replicate 5 0 ++ 0xffff :: groupsOfOctets octets := by
  have joined (group : UInt16) :
      (group / 256).toUInt8.toUInt16 * 256 + group.toUInt8.toUInt16 = group := by
    apply UInt16.toNat_inj.1
    have bound := group.toNat_lt
    simp
    omega
  simp only [Groups.embedded?] at embeds
  split at embeds
  case h_1 high low parts =>
    cases embeds
    rw [parts, groupsOfOctets, joined, joined]
    rfl
  case h_2 => cases embeds

theorem written_text (groups : Groups) : Written groups groups.text.toList := by
  cases embeds : groups.embedded? with
  | some octets =>
      have digits : (groupText 0xffff).toList = ['f', 'f', 'f', 'f'] := by decide
      have written := Written.embedding octets (groupsOfOctets_of_embedded? embeds)
      simpa [Groups.text, embeds, digits] using written
  | none =>
      obtain ⟨before, behind, place, parts⟩ := longestZeros_parts 0 groups.toList
      simp only [Groups.text, embeds]
      generalize Groups.longestZeros 0 groups.toList = longest at place parts
      obtain ⟨start, length⟩ := longest
      simp only [Nat.zero_add] at place parts
      subst place
      split
      case isTrue long =>
        have size := groups.length_eq
        rw [parts] at size
        simp only [List.length_append, List.length_replicate] at size
        have front : groups.toList.take before.length = before := by
          rw [parts, List.append_assoc, List.take_left]
        have back : groups.toList.drop (before.length + length) = behind := by
          rw [parts, List.drop_left' (by simp)]
        have zeros : length = 8 - before.length - behind.length := by omega
        rw [front, back]
        simpa using Written.abbreviated before behind (by omega) (zeros ▸ parts)
      case isFalse =>
        have written : Written groups _ := .full
        simpa using written

theorem ofList_toList (groups : Groups) : Groups.ofList groups.toList = groups := by
  obtain ⟨list, length_eq⟩ := groups
  simp [Groups.ofList, ← length_eq]

/-- Groups with a run of zeros left out are read with the zeros filled in. -/
theorem ofGroupText?_of_parts (head : List UInt16) {tail : List UInt16} {endsDotted : Bool}
    {groups : Groups} {characters rest : List Char} (short : head.length < 8)
    (readHead : readGroups true 8 characters = (head, false, ':' :: ':' :: rest))
    (readTail : readGroups true (7 - head.length) rest = (tail, endsDotted, []))
    (parts : groups.toList = head ++ List.replicate (8 - head.length - tail.length) 0 ++ tail) :
    ofGroupText? characters = some groups := by
  have notAll : ¬ head.length = 8 := Nat.ne_of_lt short
  simp only [ofGroupText?, readHead, readTail, ← parts, ofList_toList]
  simp [notAll]

/-- An address is read from each of its texts. -/
theorem Written.ofGroupText? {groups : Groups} {characters : List Char}
    (written : Written groups characters) : ofGroupText? characters = some groups := by
  cases written with
  | embedding octets parts =>
      have ends := endsGroup_colon octets.text.toList
      have readTail : readGroups true 7 ((groupText 0xffff).toList ++ ':' :: octets.text.toList) =
          (0xffff :: groupsOfOctets octets, true, []) := by
        rw [readGroups_group rfl (readOctets?_groupText _ ends) (readGroup?_append _ ends)]
        simp [readGroups, readColon?, readMark?, readOctets?_text]
      exact ofGroupText?_of_parts [] (by decide)
        (readGroups_of_endsRun true 8 (.inr ⟨_, rfl⟩)) readTail parts
  | abbreviated head tail short parts =>
      have fits : tail.length ≤ 7 - head.length := by omega
      have readTail := readGroups_groupsText fits (.inl rfl)
      rw [List.append_nil] at readTail
      exact ofGroupText?_of_parts head (by omega) (readGroups_groupsText (by omega) (.inr ⟨_, rfl⟩))
        readTail parts
  | full =>
      have read := readGroups_groupsText (Nat.le_of_eq groups.length_eq) (.inl rfl)
      simp only [Address.ofGroupText?, read]
      simp [groups.length_eq, ofList_toList]

/-- No text of version six is one of version four as well. -/
theorem Written.ofOctetText? {groups : Groups} {characters : List Char}
    (written : Written groups characters) : ofOctetText? characters = none := by
  have undotted : readOctets? characters = none := by
    cases written with
    | embedding octets => exact readOctets?_eq_none [] nofun (endsGroup_colon _)
    | abbreviated head tail => exact readOctets?_groupsText head (.inr ⟨_, rfl⟩)
    | full => exact readOctets?_groupsText groups.toList (.inl rfl)
  simp only [Address.ofOctetText?, undotted]

/-- An address of either version is read from its text. -/
theorem ofText?_text (address : Address) : ofText? address.text = some address := by
  cases address with
  | v4 octets => simp only [ofText?, text, ofOctetText?_text]
  | v6 groups =>
      have written := written_text groups
      simp only [ofText?, text, written.ofOctetText?, written.ofGroupText?, Option.map_some]

end PortTunnel.Address
