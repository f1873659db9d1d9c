import PortTunnel.Config.Layout
import PortTunnel.Proofs.Schema.Entries

/-!
# Configurations in YAML land

Whatever part of a configuration is read from a YAML document takes up one node.
-/

namespace PortTunnel.Config

open Schema

/-! ## Scalars -/

theorem lands_word32 : word32.yaml.Lands :=
  Reader.lands_map (Reader.lands_unsigned 32 "u32") _

theorem lands_word64 : word64.yaml.Lands :=
  Reader.lands_map (Reader.lands_unsigned 64 "u64") _

theorem lands_signed64 : signed64.yaml.Lands :=
  Reader.lands_map (Reader.lands_signed "i64") _

theorem lands_string : string.yaml.Lands :=
  Reader.lands_text "a string"

theorem lands_path : path.yaml.Lands :=
  Reader.lands_text "path string"

theorem lands_octets : octets.yaml.Lands :=
  Reader.lands_formed _ _ _

/-! ## Records -/

theorem lands_settings : Settings.record.reader.yaml.Lands := by
  apply Record.lands_reader rfl
  simp only [Settings.record, List.forall_mem_cons]
  exact ⟨RecordField.lands_of lands_word64 _ _ _, RecordField.lands_of lands_word64 _ _ _,
    RecordField.lands_of (Reader.lands_optional lands_word32) _ _ _,
    RecordField.lands_of lands_word64 _ _ _, List.forall_mem_nil _⟩

theorem lands_target : Target.record.reader.yaml.Lands := by
  apply Record.lands_reader rfl
  simp only [Target.record, List.forall_mem_cons]
  exact ⟨RecordField.lands_of (Reader.lands_optional lands_path) _ _ _,
    RecordField.lands_of (Reader.lands_optional lands_string) _ _ _,
    RecordField.lands_of (Reader.lands_optional lands_octets) _ _ _, List.forall_mem_nil _⟩

theorem lands_portPair : PortPair.record.reader.yaml.Lands := by
  apply Record.lands_reader rfl
  simp only [PortPair.record, List.forall_mem_cons]
  exact ⟨RecordField.lands_of lands_signed64 _ _ _, RecordField.lands_of lands_signed64 _ _ _,
    RecordField.lands_of (Reader.lands_optional lands_octets) _ _ _, List.forall_mem_nil _⟩

theorem lands_declaration : Declaration.record.reader.yaml.Lands := by
  apply Record.lands_reader rfl
  simp only [Declaration.record, List.forall_mem_cons]
  exact ⟨RecordField.lands_of lands_string _ _ _, RecordField.lands_of lands_string _ _ _,
    RecordField.lands_of (Reader.lands_optional lands_string) _ _ _,
    RecordField.lands_of (Reader.lands_list lands_portPair) _ _ _, List.forall_mem_nil _⟩

theorem lands_namespace : namespaceRecord.reader.yaml.Lands := by
  apply Record.lands_reader rfl
  simp only [namespaceRecord, List.forall_mem_cons]
  exact ⟨RecordField.lands_of (Reader.lands_list lands_declaration) _ _ _, List.forall_mem_nil _⟩

theorem lands_environment : Environment.record.reader.yaml.Lands := by
  apply Record.lands_reader rfl
  simp only [Environment.record, List.forall_mem_cons]
  exact ⟨RecordField.lands_of (Reader.lands_optional lands_string) _ _ _,
    RecordField.lands_of (Reader.lands_optional lands_string) _ _ _,
    RecordField.lands_of (Reader.lands_optional lands_path) _ _ _,
    RecordField.lands_of (Reader.lands_optional lands_string) _ _ _,
    RecordField.lands_of (Reader.lands_optional lands_octets) _ _ _,
    RecordField.lands_of (Reader.lands_keyed lands_namespace) _ _ _, List.forall_mem_nil _⟩

theorem lands_fields : ∀ field ∈ record.fields, field.yaml.Lands := by
  simp only [record, List.forall_mem_cons]
  exact ⟨RecordField.lands_of lands_word32 _ _ _, RecordField.lands_of lands_settings _ _ _,
    RecordField.lands_of lands_target _ _ _,
    RecordField.lands_of (Reader.lands_keyed lands_environment) _ _ _, List.forall_mem_nil _⟩

end PortTunnel.Config
