import PortTunnel.Proofs.Trail
import PortTunnel.Tunnel.Pump

/-!
# What a pump carries

The labels that a pump has followed tell which bytes it read and which it wrote.
A course is a list of labels that a pump can follow from its beginning, with the
stage that it has come to; there is none after a failure.

In every course the bytes written are the first of the bytes read, and only the
last chunk may be missing in part.  Chunks are counted when they have been
written whole.  The end of the first stream is read, and the second stream is
shut, when nothing is missing.
-/

namespace PortTunnel.Tunnel.Pump

/-! ## Steps -/

/-- The steps of a pump. -/
inductive Moves : Pump → Label → Outcome → Prop
  | read {chunk : List UInt8} (nonempty : chunk ≠ []) (fits : chunk.length ≤ chunkLimit) :
      Moves reading (.read chunk) (.continues (writing chunk.length chunk) 0)
  | readEnd : Moves reading .readEnd (.continues shutting 0)
  | readFailed {reason : String} : Moves reading (.readFailed reason) (.readBroke reason)
  | wrote {size : Nat} {bytes left : List UInt8} (nonempty : bytes ≠ []) (more : left ≠ []) :
      Moves (writing size (bytes ++ left)) (.wrote bytes) (.continues (writing size left) 0)
  | wroteLast {size : Nat} {bytes : List UInt8} (nonempty : bytes ≠ []) :
      Moves (writing size bytes) (.wrote bytes) (.continues reading size)
  | writeFailed {size : Nat} {rest : List UInt8} {reason : String} :
      Moves (writing size rest) (.writeFailed reason) (.writeBroke reason)
  | shut : Moves shutting .shut (.continues finished 0)

theorem Moves.of_step {pump : Pump} {label : Label} {outcome : Outcome} :
    pump.step label = some outcome → Moves pump label outcome := by
  fun_cases step pump label <;> intro step
  case case2 chunk fits =>
    simp only [Bool.or_eq_true, List.isEmpty_iff, decide_eq_true_eq, not_or, Nat.not_lt] at fits
    cases step
    exact .read fits.1 fits.2
  case case3 => cases step; exact .readEnd
  case case4 => cases step; exact .readFailed
  case case6 size rest bytes isPart left none_ =>
    simp only [Bool.or_eq_true, Bool.not_eq_true', not_or, Bool.not_eq_false, List.isEmpty_iff,
      List.isPrefixOf_iff_prefix] at isPart
    obtain ⟨nonempty, after, rfl⟩ := isPart
    rw [List.isEmpty_iff, show left = after from List.drop_left] at none_
    subst none_
    cases step
    rw [List.append_nil]
    exact .wroteLast nonempty
  case case7 size rest bytes isPart left some_ =>
    simp only [Bool.or_eq_true, Bool.not_eq_true', not_or, Bool.not_eq_false, List.isEmpty_iff,
      List.isPrefixOf_iff_prefix] at isPart
    obtain ⟨nonempty, after, rfl⟩ := isPart
    have left_eq : left = after := List.drop_left
    rw [List.isEmpty_iff] at some_
    cases step
    rw [left_eq] at some_ ⊢
    exact .wrote nonempty some_
  case case8 => cases step; exact .writeFailed
  case case9 => cases step; exact .shut
  all_goals cases step

theorem Moves.step {pump : Pump} {label : Label} {outcome : Outcome}
    (moves : Moves pump label outcome) : pump.step label = some outcome := by
  cases moves with
  | read nonempty fits => simp [Pump.step, nonempty, fits]
  | wrote nonempty more => simp [Pump.step, nonempty, more]
  | wroteLast nonempty => simp [Pump.step, nonempty]
  | readEnd | readFailed | writeFailed | shut => rfl

/-- The relation holds exactly what the step function does. -/
theorem step_eq_some_iff {pump : Pump} {label : Label} {outcome : Outcome} :
    pump.step label = some outcome ↔ Moves pump label outcome :=
  ⟨Moves.of_step, Moves.step⟩

/-- Whether a pump may read again. -/
def isOpen : Pump → Bool
  | reading | writing _ _ => true
  | shutting | finished => false

/-- Only the end of the first stream keeps a pump from reading again. -/
theorem isOpen_of_step {pump next : Pump} {label : Label} {carried : Nat}
    (step : pump.step label = some (.continues next carried)) (goesOn : label ≠ .readEnd)
    (open_ : pump.isOpen = true) : next.isOpen = true := by
  cases step_eq_some_iff.1 step with
  | readEnd => exact (goesOn rfl).elim
  | shut => cases open_
  | read | wrote | wroteLast => rfl

theorem eq_readFailed_of_step {pump : Pump} {label : Label} {reason : String}
    (step : pump.step label = some (.readBroke reason)) : label = .readFailed reason := by
  cases step_eq_some_iff.1 step
  rfl

theorem eq_writeFailed_of_step {pump : Pump} {label : Label} {reason : String}
    (step : pump.step label = some (.writeBroke reason)) : label = .writeFailed reason := by
  cases step_eq_some_iff.1 step
  rfl

/-! ## What the labels tell -/

/-- The bytes that a label brings. -/
def Label.chunk : Label → List UInt8
  | read chunk => chunk
  | _ => []

/-- The bytes that a label takes away. -/
def Label.written : Label → List UInt8
  | wrote bytes => bytes
  | _ => []

/-- Whether reading or writing failed. -/
def Label.isFailure : Label → Bool
  | readFailed _ | writeFailed _ => true
  | _ => false

/-- All bytes read. -/
def input (labels : List Label) : List UInt8 :=
  labels.flatMap Label.chunk

/-- All bytes written. -/
def output (labels : List Label) : List UInt8 :=
  labels.flatMap Label.written

/-- The size of the last chunk after a label, given the size before. -/
def nextRead (size : Nat) : Label → Nat
  | .read chunk => chunk.length
  | _ => size

/-- The size of the last chunk that was read. -/
def lastRead (labels : List Label) : Nat :=
  labels.foldl nextRead 0

/-- The bytes of the chunks that were written whole: all that was read, apart from the last
chunk as long as some of it is missing. -/
def counted (labels : List Label) : Nat :=
  if output labels = input labels then (input labels).length
  else (input labels).length - lastRead labels

@[simp]
theorem input_concat (labels : List Label) (label : Label) :
    input (labels ++ [label]) = input labels ++ label.chunk := by
  simp [input]

@[simp]
theorem output_concat (labels : List Label) (label : Label) :
    output (labels ++ [label]) = output labels ++ label.written := by
  simp [output]

@[simp]
theorem lastRead_concat (labels : List Label) (label : Label) :
    lastRead (labels ++ [label]) = nextRead (lastRead labels) label := by
  simp [lastRead]

theorem counted_of_eq {labels : List Label} (level : output labels = input labels) :
    counted labels = (input labels).length :=
  if_pos level

/-! ## Courses -/

/-- The labels that a pump can follow from its beginning, and the stage that it comes to. -/
inductive Course : List Label → Option Pump → Prop
  | begun : Course [] (some reading)
  | onward {labels : List Label} {pump next : Pump} {label : Label} {carried : Nat}
      (course : Course labels (some pump)) (moves : Moves pump label (.continues next carried)) :
      Course (labels ++ [label]) (some next)
  | broke {labels : List Label} {pump : Pump} {label : Label} {outcome : Outcome}
      (course : Course labels (some pump)) (moves : Moves pump label outcome)
      (fails : label.isFailure = true) : Course (labels ++ [label]) none

/-- A chunk of some size is being written, of which `rest` is left. -/
structure Midway (labels : List Label) (size : Nat) (rest : List UInt8) : Prop where
  rest_ne : rest ≠ []
  size_eq : size = lastRead labels
  parts : ∃ before done, output labels = before ++ done ∧ input labels = before ++ done ++ rest ∧
    size = (done ++ rest).length

/-- What a pump has done when it has come to a stage. -/
def Stands (labels : List Label) : Option Pump → Prop
  | some reading => output labels = input labels ∧ .readEnd ∉ labels ∧ .shut ∉ labels
  | some (writing size rest) => Midway labels size rest ∧ .readEnd ∉ labels ∧ .shut ∉ labels
  | some shutting => output labels = input labels ∧ .readEnd ∈ labels ∧ .shut ∉ labels
  | some finished =>
      ∃ early, labels = early ++ [.shut] ∧ output early = input early ∧ .readEnd ∈ early ∧
        .shut ∉ early
  | none =>
      (output labels = input labels ∨ ∃ size rest, Midway labels size rest) ∧
        .readEnd ∉ labels ∧ .shut ∉ labels

section Standing

variable {labels : List Label} {pump next : Pump} {label : Label} {outcome : Outcome}
  {size carried : Nat} {rest : List UInt8}

theorem Midway.output_ne (midway : Midway labels size rest) : output labels ≠ input labels := by
  obtain ⟨before, done, output_eq, input_eq, -⟩ := midway.parts
  rw [output_eq, input_eq, ne_eq, List.self_eq_append_right]
  exact midway.rest_ne

theorem Midway.output_isPrefix (midway : Midway labels size rest) :
    output labels <+: input labels := by
  obtain ⟨before, done, output_eq, input_eq, -⟩ := midway.parts
  rw [output_eq, input_eq]
  exact List.prefix_append _ _

/-- A chunk that is being written is not counted yet. -/
theorem Midway.counted_add (midway : Midway labels size rest) :
    counted labels + size = (input labels).length := by
  have size_eq := midway.size_eq
  obtain ⟨before, done, output_eq, input_eq, length_eq⟩ := midway.parts
  rw [counted, if_neg midway.output_ne, ← size_eq, input_eq, length_eq]
  simp only [List.length_append]
  omega

theorem Midway.input_le (midway : Midway labels size rest) :
    (input labels).length ≤ (output labels).length + size := by
  obtain ⟨before, done, output_eq, input_eq, length_eq⟩ := midway.parts
  rw [output_eq, input_eq, length_eq]
  simp only [List.length_append]
  omega

/-- A label that neither brings nor takes bytes changes no count. -/
theorem counted_concat_of_idle (labels : List Label) {label : Label}
    (idle : ∀ size, label.chunk = [] ∧ label.written = [] ∧ nextRead size label = size) :
    counted (labels ++ [label]) = counted labels := by
  obtain ⟨brings, takes, keeps⟩ := idle (lastRead labels)
  simp [counted, brings, takes, keeps]

/-- A step counts a chunk when it has written the last of it. -/
theorem Stands.move (stands : Stands labels (some pump))
    (moves : Moves pump label (.continues next carried)) :
    Stands (labels ++ [label]) (some next) ∧
      counted (labels ++ [label]) = counted labels + carried := by
  cases moves with
  | @read chunk nonempty fits =>
      obtain ⟨level, noEnd, noShut⟩ := stands
      have midway : Midway (labels ++ [.read chunk]) chunk.length chunk := by
        constructor
        case rest_ne => exact nonempty
        case size_eq => simp [nextRead]
        case parts =>
          exact ⟨input labels, [], by simp [level, Label.written], by simp [Label.chunk]⟩
      refine ⟨⟨midway, by simp [noEnd], by simp [noShut]⟩, ?_⟩
      have counted_eq := midway.counted_add
      rw [input_concat, List.length_append, Label.chunk] at counted_eq
      rw [counted_of_eq level]
      omega
  | readEnd =>
      obtain ⟨level, noEnd, noShut⟩ := stands
      refine ⟨⟨?_, by simp, by simp [noShut]⟩, ?_⟩
      · simpa [Label.chunk, Label.written] using level
      · exact counted_concat_of_idle labels fun _ => ⟨rfl, rfl, rfl⟩
  | @wrote size bytes left nonempty more =>
      obtain ⟨midway, noEnd, noShut⟩ := stands
      have later : Midway (labels ++ [.wrote bytes]) size left := by
        obtain ⟨before, done, output_eq, input_eq, length_eq⟩ := midway.parts
        constructor
        case rest_ne => exact more
        case size_eq => simpa [nextRead] using midway.size_eq
        case parts =>
          refine ⟨before, done ++ bytes, ?_, ?_, ?_⟩
          · simp [output_eq, Label.written]
          · simp [input_eq, Label.chunk]
          · simp [length_eq]
      refine ⟨⟨later, by simp [noEnd], by simp [noShut]⟩, ?_⟩
      have counted_eq := midway.counted_add
      have counted_eq' := later.counted_add
      have unread : input (labels ++ [.wrote bytes]) = input labels := by simp [Label.chunk]
      rw [unread] at counted_eq'
      omega
  | @wroteLast size bytes nonempty =>
      obtain ⟨midway, noEnd, noShut⟩ := stands
      have level : output (labels ++ [.wrote bytes]) = input (labels ++ [.wrote bytes]) := by
        obtain ⟨before, done, output_eq, input_eq, -⟩ := midway.parts
        simp [output_eq, input_eq, Label.written, Label.chunk]
      refine ⟨⟨level, by simp [noEnd], by simp [noShut]⟩, ?_⟩
      have unread : input (labels ++ [.wrote bytes]) = input labels := by simp [Label.chunk]
      rw [counted_of_eq level, unread, midway.counted_add]
  | shut =>
      obtain ⟨level, ended, noShut⟩ := stands
      refine ⟨⟨labels, rfl, level, ended, noShut⟩, ?_⟩
      exact counted_concat_of_idle labels fun _ => ⟨rfl, rfl, rfl⟩

/-- A failure loses no byte that was written before. -/
theorem Stands.fail (stands : Stands labels (some pump)) (moves : Moves pump label outcome)
    (fails : label.isFailure = true) :
    Stands (labels ++ [label]) none ∧ counted (labels ++ [label]) = counted labels := by
  cases moves with
  | readFailed =>
      obtain ⟨level, noEnd, noShut⟩ := stands
      refine ⟨⟨.inl ?_, by simp [noEnd], by simp [noShut]⟩, ?_⟩
      · simpa [Label.chunk, Label.written] using level
      · exact counted_concat_of_idle labels fun _ => ⟨rfl, rfl, rfl⟩
  | @writeFailed size rest reason =>
      obtain ⟨midway, noEnd, noShut⟩ := stands
      have later : Midway (labels ++ [.writeFailed reason]) size rest := by
        constructor
        case rest_ne => exact midway.rest_ne
        case size_eq => simpa [nextRead] using midway.size_eq
        case parts => simpa [Label.chunk, Label.written] using midway.parts
      refine ⟨⟨.inr ⟨size, rest, later⟩, by simp [noEnd], by simp [noShut]⟩, ?_⟩
      exact counted_concat_of_idle labels fun _ => ⟨rfl, rfl, rfl⟩
  | read | readEnd | wrote | wroteLast | shut => cases fails

end Standing

theorem Course.stands {labels : List Label} {status : Option Pump} (course : Course labels status) :
    Stands labels status := by
  induction course with
  | begun => exact ⟨rfl, List.not_mem_nil, List.not_mem_nil⟩
  | onward _ moves ih => exact (ih.move moves).1
  | broke _ moves fails ih => exact (ih.fail moves fails).1

theorem Course.lastRead_le {labels : List Label} {status : Option Pump}
    (course : Course labels status) : lastRead labels ≤ chunkLimit := by
  induction course with
  | begun => exact Nat.zero_le _
  | onward _ moves ih =>
      rw [lastRead_concat]
      cases moves with
      | read nonempty fits => exact fits
      | readEnd | wrote | wroteLast | shut => exact ih
  | broke _ moves fails ih =>
      rw [lastRead_concat]
      cases moves with
      | readFailed | writeFailed => exact ih
      | read | readEnd | wrote | wroteLast | shut => cases fails

/-! ## Faithful copies -/

/-- What the labels of a pump tell about the two streams and the count. -/
structure Faithful (labels : List Label) : Prop where
  /-- The bytes written are the first of the bytes read, in their order. -/
  inOrder : output labels <+: input labels
  /-- The end of the first stream is read when all bytes before have been written, and nothing
  is read or written after it. -/
  whole : .readEnd ∈ labels → output labels = input labels
  /-- The second stream is shut once, last, and after the end of the first. -/
  shutLast : ∀ early late, labels = early ++ .shut :: late →
    late = [] ∧ .readEnd ∈ early ∧ output early = input early
  /-- Only written bytes are counted. -/
  counted_le : counted labels ≤ (output labels).length
  /-- At most the last chunk that was read has been written and not counted. -/
  le_counted : (output labels).length ≤ counted labels + lastRead labels
  lastRead_le : lastRead labels ≤ chunkLimit
  /-- At the end of the first stream all of it has been counted. -/
  counted_whole : .readEnd ∈ labels → counted labels = (input labels).length

/-- All that is read is written, or some of the last chunk is left. -/
theorem Stands.level_or_midway {labels : List Label} {status : Option Pump}
    (stands : Stands labels status) :
    output labels = input labels ∨ ∃ size rest, Midway labels size rest := by
  cases status with
  | none => exact stands.1
  | some pump =>
      cases pump with
      | reading | shutting => exact .inl stands.1
      | writing size rest => exact .inr ⟨size, rest, stands.1⟩
      | finished =>
          obtain ⟨early, rfl, level, -⟩ := stands
          exact .inl (by simpa [Label.chunk, Label.written] using level)

/-- The end of the first stream is read only when nothing is missing. -/
theorem Stands.level_of_ended {labels : List Label} {status : Option Pump}
    (stands : Stands labels status) (ended : .readEnd ∈ labels) :
    output labels = input labels := by
  cases status with
  | none => exact (stands.2.1 ended).elim
  | some pump =>
      cases pump with
      | reading | shutting => exact stands.1
      | writing => exact (stands.2.1 ended).elim
      | finished =>
          obtain ⟨early, rfl, level, -⟩ := stands
          simpa [Label.chunk, Label.written] using level

theorem Stands.shutLast {labels early late : List Label} {status : Option Pump}
    (stands : Stands labels status) (labels_eq : labels = early ++ .shut :: late) :
    late = [] ∧ .readEnd ∈ early ∧ output early = input early := by
  have shuts : .shut ∈ labels := by simp [labels_eq]
  cases status with
  | none => exact (stands.2.2 shuts).elim
  | some pump =>
      cases pump with
      | reading | writing | shutting => exact (stands.2.2 shuts).elim
      | finished =>
          obtain ⟨before, rfl, level, ended, noShut⟩ := stands
          rcases concat_eq_append_cons labels_eq with ⟨rfl, -, rfl⟩ | ⟨front, rfl, -⟩
          · exact ⟨rfl, ended, level⟩
          · exact (noShut (by simp)).elim

/-- Every pump copies faithfully, whatever has happened to it. -/
theorem Course.faithful {labels : List Label} {status : Option Pump}
    (course : Course labels status) : Faithful labels := by
  have stands := course.stands
  constructor
  case inOrder =>
    rcases stands.level_or_midway with level | ⟨size, rest, midway⟩
    · exact level ▸ List.prefix_rfl
    · exact midway.output_isPrefix
  case whole => exact stands.level_of_ended
  case shutLast => exact fun early late => stands.shutLast
  case counted_le =>
    rcases stands.level_or_midway with level | ⟨size, rest, midway⟩
    · exact Nat.le_of_eq (level ▸ counted_of_eq level)
    · have counted_eq := midway.counted_add
      have input_le := midway.input_le
      omega
  case le_counted =>
    rcases stands.level_or_midway with level | ⟨size, rest, midway⟩
    · rw [counted_of_eq level, level]
      exact Nat.le_add_right _ _
    · rw [← midway.size_eq, midway.counted_add]
      exact midway.output_isPrefix.length_le
  case lastRead_le => exact course.lastRead_le
  case counted_whole => exact fun ended => counted_of_eq (stands.level_of_ended ended)

/-- A pump that has followed no label is at its beginning. -/
theorem Course.eq_reading {status : Option Pump} (course : Course [] status) :
    status = some reading := by
  generalize none_eq : ([] : List Label) = labels at course
  cases course with
  | begun => rfl
  | onward | broke => simp at none_eq

/-- The labels of a pump read from a stream: they bring its first bytes, and its end when they
have brought all of them. -/
def Feeds (stream : List UInt8) (labels : List Label) : Prop :=
  input labels <+: stream ∧ (.readEnd ∈ labels → input labels = stream)

/-- Whatever stream is read, its first bytes are written.  At its end all of them have been, and
they have been counted. -/
theorem Faithful.delivers {labels : List Label} {stream : List UInt8} (faithful : Faithful labels)
    (feeds : Feeds stream labels) :
    output labels <+: stream ∧
      (.readEnd ∈ labels → output labels = stream ∧ counted labels = stream.length) := by
  constructor
  · exact faithful.inOrder.trans feeds.1
  · intro ended
    rw [faithful.whole ended, faithful.counted_whole ended, feeds.2 ended]
    exact ⟨rfl, rfl⟩

end PortTunnel.Tunnel.Pump
