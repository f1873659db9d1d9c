import PortTunnel.Proofs.Config.Layout
import PortTunnel.Proofs.Config.Version

/-!
# Saving and loading configurations

Both readings of a file find in a JSON text what was written there.  No configuration
that is loaded is newer than the program, so saving it as JSON and loading it again
loses nothing.
-/

namespace PortTunnel.Config

open Json (IsPrinted)
open Schema

/-! ## Loading -/

/-- The version of a written configuration is found by the lenient reading. -/
theorem json_versionRecord_toJson (config : Config) :
    versionRecord.reader.json .document (Json.Draft.ofValue config.toJson) =
      .ok config.version := by
  have readHere := readsBack_word32 .document config.version
  apply Record.jsonMembers_cons_eq_ok_iff.2
  refine ⟨"version", rfl, .inr ⟨_, _, field?_version.2, List.not_mem_nil,
    RecordField.json_of_eq_ok_iff.2 ⟨_, readHere, rfl⟩, ?_⟩⟩
  apply Record.jsonMembers_of_unknown rfl
  · simp [versionRecord, Record.field?, RecordField.of]
  · simp [versionRecord, Record.missing?, RecordField.of]

/-- A written configuration is the one that its text describes. -/
theorem ofText_of_isPrinted {config : Config} {text : String}
    (understood : config.version ≤ newestVersion) (printed : IsPrinted config.toJson text) :
    ofText .json text = .ok config := by
  have read := Json.Draft.ofText_of_isPrinted (exact_toJson config) printed
  rw [ofText_eq_ok_iff]
  refine ⟨config.version, ?_, understood, ?_⟩
  · rw [decode, ofJson_eq_ok_iff, read]
    exact ⟨json_versionRecord_toJson config, rfl⟩
  · rw [decode, ofJson_eq_ok_iff, read]
    exact ⟨readsBack_config .document config, rfl⟩

/-- A configuration that is understood is loaded from the JSON text it is saved as, in
either form, and nothing of it is lost or changed.  What a JSON file was loaded as is
always such a configuration, so loading it, saving it and loading it again is loading
it once. -/
theorem saved_config_loads_back (path : String) (isJson : Format.ofPath path = .json) :
    (∀ config : Config, config.version ≤ newestVersion →
        ∀ text, IsPrinted config.toJson text → load path (.bytes text.toUTF8) = .ok config) ∧
      ∀ source file config, Format.ofPath source = .json → load source file = .ok config →
        ∀ text, IsPrinted config.toJson text → load path (.bytes text.toUTF8) = .ok config := by
  have saved : ∀ config : Config, config.version ≤ newestVersion →
      ∀ text, IsPrinted config.toJson text → load path (.bytes text.toUTF8) = .ok config := by
    intro config understood text printed
    rw [load_bytes, isJson]
    exact ofText_of_isPrinted understood printed
  refine ⟨saved, ?_⟩
  intro source file config sourceIsJson loaded
  obtain ⟨text, -, accepted⟩ := exists_text_of_load loaded
  rw [sourceIsJson] at accepted
  exact saved config (version_le_of_ofText accepted)

/-- A configuration that says all there is to say, in unusual words. -/
def unusual : Config where
  version := 0
  settings :=
    { initialDelayMs := 18446744073709551615
      maxDelayMs := 0
      maxRetries := some 4294967295
      shutdownGraceMs := 1 }
  defaults :=
    { kubeconfig := some "C:\\\"kube\"", context := some "", bindAddress := some ⟨0, 255, 10, 9⟩ }
  environments := .ofList
    [("zürich\n", { parent := some "\x01\t", description := some "—" }),
      ("",
        { target := { context := some "null" }
          namespaces := .ofList
            [("[]", []),
              ("web",
                [{ kind := "Pod "
                   name := "\r"
                   container := some "\x7f"
                   ports := [⟨-9223372036854775808, 9223372036854775807, some ⟨127, 0, 0, 1⟩⟩,
                     ⟨0, -1, none⟩] }])] })]

theorem unusual_config_loads_back :
    load "Config.JSON" (.bytes unusual.toJson.pretty.toUTF8) = .ok unusual ∧
      load "sparse.json" (.bytes "[1]".toUTF8) = .ok {} ∧
        load "full.json" (.bytes (toJson {}).compact.toUTF8) = .ok {} := by
  have sparse : load "sparse.json" (.bytes "[1]".toUTF8) = .ok {} := by
    rw [load_bytes]
    rfl
  exact ⟨(saved_config_loads_back "Config.JSON" rfl).1 unusual (by decide) _ (.inr rfl), sparse,
    (saved_config_loads_back "full.json" rfl).2 "sparse.json" _ {} rfl sparse _ (.inl rfl)⟩

end PortTunnel.Config
