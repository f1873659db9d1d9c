import PortTunnel.Config.Loading

/-!
# What loading a configuration comes to

A configuration is loaded if its file holds a text, both readings of the text succeed,
and the version that the first one finds is understood.
-/

namespace PortTunnel.Config

open Schema

theorem ofJson_eq_ok_iff {α : Type} {reader : Reader α} {text : String} {value : α} :
    ofJson reader text = .ok value ↔
      reader.json .document (Json.Draft.ofText text).1 = .ok value ∧
        (Json.Draft.ofText text).2 = false := by
  cases read : reader.json .document (Json.Draft.ofText text).1 with
  | error refusal => cases refusal <;> simp [ofJson, read]
  | ok found => cases trailing : (Json.Draft.ofText text).2 <;> simp [ofJson, read, trailing]

theorem ofYaml_eq_ok_iff {α : Type} {reader : Reader α} {text : String} {value : α} :
    ofYaml reader text = .ok value ↔
      (∃ behind, reader.yaml (Yaml.Document.ofText text).1 [] ⟨0, 0⟩ = .ok (value, behind)) ∧
        (Yaml.Document.ofText text).1.fault = none ∧ (Yaml.Document.ofText text).2 = false := by
  cases read : reader.yaml (Yaml.Document.ofText text).1 [] ⟨0, 0⟩ with
  | error refusal => cases refusal <;> simp [ofYaml, read]
  | ok found =>
      obtain ⟨there, behind⟩ := found
      cases fault : (Yaml.Document.ofText text).1.fault <;>
        cases another : (Yaml.Document.ofText text).2 <;> simp [ofYaml, read, fault, another]

/-- No reading of its own takes a text for one of a newer format. -/
theorem decode_ne_newerVersion {α : Type} {format : Format} {reader : Reader α} {text : String}
    {version : UInt32} : decode format reader text ≠ .error (.newerVersion version) := by
  cases format with
  | yaml =>
      simp only [decode, ofYaml]
      split <;> simp
      split <;> simp
  | json =>
      simp only [decode, ofJson]
      split <;> simp
      split <;> simp

/-- A text describes a configuration if both readings accept it and its version is
understood. -/
theorem ofText_eq_ok_iff {format : Format} {text : String} {config : Config} :
    ofText format text = .ok config ↔
      ∃ version, decode format versionRecord.reader text = .ok version ∧
        version ≤ newestVersion ∧ decode format record.reader text = .ok config := by
  cases probed : decode format versionRecord.reader text with
  | error cause => simp [ofText, probed, bind, Except.bind]
  | ok version =>
      by_cases newer : newestVersion < version
      · simp [ofText, probed, bind, Except.bind, newer, UInt32.not_le.2 newer]
      · simp [ofText, probed, bind, Except.bind, newer, UInt32.not_lt.1 newer]

/-- A text is of a newer format if the first reading finds a version that is not understood. -/
theorem ofText_eq_newerVersion_iff {format : Format} {text : String} {version : UInt32} :
    ofText format text = .error (.newerVersion version) ↔
      decode format versionRecord.reader text = .ok version ∧ newestVersion < version := by
  cases probed : decode format versionRecord.reader text with
  | error cause =>
      have other : cause ≠ .newerVersion version := fun same =>
        decode_ne_newerVersion (same ▸ probed)
      simp [ofText, probed, bind, Except.bind, other]
  | ok found =>
      by_cases newer : newestVersion < found
      · simp only [ofText, probed, bind, Except.bind, newer, if_true, Except.error.injEq,
          LoadError.newerVersion.injEq, Except.ok.injEq]
        exact ⟨fun same => ⟨same, same ▸ newer⟩, And.left⟩
      · simp only [ofText, probed, bind, Except.bind, newer, if_false, Except.ok.injEq,
          decode_ne_newerVersion, false_iff, not_and]
        exact fun same => same ▸ newer

/-! ## Files -/

theorem text?_bytes (text : String) : (File.bytes text.toUTF8).text? = .ok text := by
  have valid : String.fromUTF8? text.toUTF8 = some text := by
    simpa [String.fromUTF8?, String.fromUTF8] using text.isValidUTF8
  simp only [File.text?, valid]

theorem load_bytes (path text : String) :
    load path (.bytes text.toUTF8) = ofText (.ofPath path) text := by
  simp only [load, text?_bytes]

theorem load_of_text {path text : String} {file : File} (readable : file.text? = .ok text) :
    load path file = ofText (.ofPath path) text := by
  simp only [load, readable]

/-- What is loaded comes from a text. -/
theorem exists_text_of_load {path : String} {file : File} {config : Config}
    (loaded : load path file = .ok config) :
    ∃ text, file.text? = .ok text ∧ ofText (.ofPath path) text = .ok config := by
  cases found : file.text? with
  | error cause => cases cause <;> simp [load, found] at loaded
  | ok text =>
      simp only [load, found] at loaded
      exact ⟨text, rfl, loaded⟩

end PortTunnel.Config
