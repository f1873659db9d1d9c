import PortTunnel.Config.Layout
import PortTunnel.Proofs.Address.Octets
import PortTunnel.Proofs.Json.Printing
import PortTunnel.Proofs.Schema.ReadBack

/-!
# Configurations as values, read back

Each record of a configuration is found in the value that is written for it:
what is left out of the text is what the record has without being told.  The
values are exact, so that nothing is lost on the way through their texts either.
-/

namespace PortTunnel.Config

open Json (Exact)
open Schema

/-! ## Scalars -/

theorem readsBack_word32 : word32.ReadsBack fun number => naturalJson number.toNat := by
  have words : Number.twoTo 32 = 4294967296 := rfl
  refine Reader.readsBack_map (fun source number => ?_) fun number => UInt32.ofNat_toNat
  exact Reader.json_unsigned (words ▸ number.toNat_lt) "u32" source

theorem readsBack_word64 : word64.ReadsBack fun number => naturalJson number.toNat := by
  refine Reader.readsBack_map (fun source number => ?_) fun number => UInt64.ofNat_toNat
  exact Reader.json_unsigned (Number.twoTo_sixtyFour ▸ number.toNat_lt) "u64" source

theorem readsBack_signed64 : signed64.ReadsBack fun number => .integer number.toInt := by
  refine Reader.readsBack_map (fun source number => ?_) fun number => Int64.ofInt_toInt number
  exact Reader.json_signed number.le_toInt number.toInt_lt "i64" source

theorem readsBack_string : string.ReadsBack .text :=
  Reader.readsBack_text _

theorem readsBack_path : path.ReadsBack .text :=
  Reader.readsBack_text _

theorem readsBack_octets : octets.ReadsBack octetsJson :=
  Reader.readsBack_formed Address.ofOctetText?_text

/-! ## Records

The members of each record stand in the order of its fields.  Where one is left
out, `rfl` tells that the blank record has no value for it either.
-/

theorem readsBack_settings : Settings.record.reader.ReadsBack Settings.toJson := by
  intro source settings
  apply Record.json_of_fills (by decide)
  apply Record.Fills.of (readsBack_word64 source _)
  apply Record.Fills.of (readsBack_word64 source _)
  apply Record.Fills.present readsBack_word32 (by simp [naturalJson]) _ rfl
  apply Record.Fills.of (readsBack_word64 source _)
  exact .done settings

theorem readsBack_target :
    Target.record.reader.ReadsBack fun target => .object target.members := by
  intro source target
  apply Record.json_of_fills (by decide)
  rw [← List.append_nil target.members]
  simp only [Target.members, List.append_assoc]
  apply Record.Fills.present readsBack_path (by simp) _ rfl
  apply Record.Fills.present readsBack_string (by simp) _ rfl
  apply Record.Fills.present readsBack_octets (by simp [octetsJson]) _ rfl
  exact .done target

theorem readsBack_portPair : PortPair.record.reader.ReadsBack PortPair.toJson := by
  intro source pair
  apply Record.json_of_fills (by decide)
  rw [← List.append_nil (presentMember _ _ _)]
  apply Record.Fills.of (readsBack_signed64 source _)
  apply Record.Fills.of (readsBack_signed64 source _)
  apply Record.Fills.present readsBack_octets (by simp [octetsJson]) _ rfl
  exact .done pair

theorem readsBack_declaration : Declaration.record.reader.ReadsBack Declaration.toJson := by
  intro source declaration
  apply Record.json_of_fills (by decide)
  apply Record.Fills.of (readsBack_string source _)
  apply Record.Fills.of (readsBack_string source _)
  apply Record.Fills.present readsBack_string (by simp) _ rfl
  apply Record.Fills.of (readsBack_portPair.list source _)
  exact .done declaration

theorem readsBack_namespace : namespaceRecord.reader.ReadsBack namespaceJson := by
  intro source declarations
  apply Record.json_of_fills (by decide)
  apply Record.Fills.of (readsBack_declaration.list source _)
  exact .done declarations

theorem readsBack_environment : Environment.record.reader.ReadsBack Environment.toJson := by
  intro source environment
  apply Record.json_of_fills (by decide)
  -- The members for the target stand among those of the environment.
  simp only [Target.members, List.append_assoc]
  apply Record.Fills.present readsBack_string (by simp) _ rfl
  apply Record.Fills.present readsBack_string (by simp) _ rfl
  apply Record.Fills.present readsBack_path (by simp) _ rfl
  apply Record.Fills.present readsBack_string (by simp) _ rfl
  apply Record.Fills.present readsBack_octets (by simp [octetsJson]) _ rfl
  apply Record.Fills.of (readsBack_namespace.keyed source _)
  exact .done environment

theorem readsBack_config : record.reader.ReadsBack toJson := by
  intro source config
  apply Record.json_of_fills (by decide)
  apply Record.Fills.of (readsBack_word32 source _)
  apply Record.Fills.of (readsBack_settings source _)
  apply Record.Fills.of (readsBack_target source _)
  apply Record.Fills.of (readsBack_environment.keyed source _)
  exact .done config

/-! ## What is written is exact -/

theorem exact_naturalJson {number : Nat} (fits : number ≤ Json.greatestWord) :
    Exact (naturalJson number) := by
  apply Exact.integer
  · have zero : (0 : Int) ≤ number := Int.natCast_nonneg number
    have lower : -(Number.twoTo 63 : Int) ≤ 0 := by simp
    exact Int.le_trans lower zero
  · exact Int.ofNat_le.2 fits

theorem greatestWord_eq : Json.greatestWord = 18446744073709551615 :=
  rfl

theorem exact_word32 (number : UInt32) : Exact (naturalJson number.toNat) := by
  apply exact_naturalJson
  have bound := number.toNat_lt
  have greatest := greatestWord_eq
  omega

theorem exact_word64 (number : UInt64) : Exact (naturalJson number.toNat) := by
  apply exact_naturalJson
  have bound := number.toNat_lt
  have greatest := greatestWord_eq
  omega

theorem exact_signed64 (number : Int64) : Exact (.integer number.toInt) := by
  apply Exact.integer number.le_toInt
  have bound := number.toInt_lt
  have greatest := greatestWord_eq
  omega

theorem exact_presentMember {α : Type} {toJson : α → Json.Value}
    (exact : ∀ value, Exact (toJson value)) (name : String) (value? : Option α) :
    ∀ member ∈ presentMember name toJson value?, Exact member.2 := by
  cases value? with
  | none => simp [presentMember]
  | some value => simpa [presentMember] using exact value

theorem exact_mapJson {α : Type} {toJson : α → Json.Value} (exact : ∀ value, Exact (toJson value))
    (map : NameMap α) : Exact (mapJson toJson map) := by
  apply Exact.object
  rw [List.forall_mem_map]
  exact fun entry _ => exact entry.2

theorem exact_listJson {α : Type} {toJson : α → Json.Value} (exact : ∀ value, Exact (toJson value))
    (values : List α) : Exact (.array (values.map toJson)) := by
  apply Exact.array
  rw [List.forall_mem_map]
  exact fun value _ => exact value

theorem exact_octetsJson (octets : Octets) : Exact (octetsJson octets) :=
  .text _

theorem exact_settings (settings : Settings) : Exact settings.toJson := by
  apply Exact.object
  simp only [List.forall_mem_append, List.forall_mem_cons]
  exact ⟨⟨⟨exact_word64 _, exact_word64 _, List.forall_mem_nil _⟩, exact_presentMember exact_word32 _ _⟩,
    exact_word64 _, List.forall_mem_nil _⟩

theorem exact_targetMembers (target : Target) : ∀ member ∈ target.members, Exact member.2 := by
  simp only [Target.members, List.forall_mem_append]
  exact ⟨⟨exact_presentMember .text _ _, exact_presentMember .text _ _⟩,
    exact_presentMember exact_octetsJson _ _⟩

theorem exact_portPair (pair : PortPair) : Exact pair.toJson := by
  apply Exact.object
  simp only [List.forall_mem_append, List.forall_mem_cons]
  exact ⟨⟨exact_signed64 _, exact_signed64 _, List.forall_mem_nil _⟩, exact_presentMember exact_octetsJson _ _⟩

theorem exact_declaration (declaration : Declaration) : Exact declaration.toJson := by
  apply Exact.object
  simp only [List.forall_mem_append, List.forall_mem_cons]
  exact ⟨⟨⟨.text _, .text _, List.forall_mem_nil _⟩, exact_presentMember .text _ _⟩,
    exact_listJson exact_portPair _, List.forall_mem_nil _⟩

theorem exact_namespace (declarations : List Declaration) : Exact (namespaceJson declarations) := by
  apply Exact.object
  simp only [List.forall_mem_cons]
  exact ⟨exact_listJson exact_declaration _, List.forall_mem_nil _⟩

theorem exact_environment (environment : Environment) : Exact environment.toJson := by
  apply Exact.object
  simp only [List.forall_mem_append, List.forall_mem_cons]
  exact ⟨⟨⟨exact_presentMember .text _ _, exact_presentMember .text _ _⟩,
    exact_targetMembers _⟩, exact_mapJson exact_namespace _, List.forall_mem_nil _⟩

theorem exact_toJson (config : Config) : Exact config.toJson := by
  apply Exact.object
  simp only [List.forall_mem_cons]
  exact ⟨exact_word32 _, exact_settings _, .object (exact_targetMembers _),
    exact_mapJson exact_environment _, List.forall_mem_nil _⟩

end PortTunnel.Config
