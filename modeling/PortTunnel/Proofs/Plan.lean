import PortTunnel.Plan
import PortTunnel.Proofs.Address.Groups
import PortTunnel.Proofs.Config.RoundTrip

/-!
# Plans read back

A plan printed for programs tells all there is to know about its forwards: whoever reads
it as a list of forwards finds the same ones in the same order.
-/

namespace PortTunnel

open Json (Exact)
open Schema

/-! ## Forwards as values -/

theorem ResourceKind.ofName?_name (kind : ResourceKind) : ofName? kind.name = some kind := by
  cases kind <;> decide

theorem ResourceKind.readsBack : reader.ReadsBack fun kind => .text kind.name := by
  intro source kind
  simp [reader, Reader.choice, Reader.chosen, Json.Draft.ofValue, ofName?_name]

namespace Forward

theorem readsBack_port : port.ReadsBack fun number => .integer number.toNat := by
  have words : Number.twoTo 16 = 65536 := rfl
  refine Reader.readsBack_map (fun source number => ?_) fun number => UInt16.ofNat_toNat
  exact Reader.json_unsigned (words ▸ number.toNat_lt) "u16" source

theorem readsBack_address : address.ReadsBack fun value => .text value.text :=
  Reader.readsBack_formed Address.ofText?_text

/-- The container is the only field that may be left out, and it is the last one. -/
theorem members_eq (forward : Forward) :
    forward.members =
      [("context", .text forward.context), ("namespace", .text forward.space),
        ("kind", .text forward.kind.name), ("name", .text forward.name),
        ("localPort", .integer forward.localPort.toNat),
        ("remotePort", .integer forward.remotePort.toNat),
        ("bindAddress", .text forward.bindAddress.text)]
        ++ (Config.presentMember "container" .text forward.container ++ []) := by
  cases container_eq : forward.container <;> simp [members, Config.presentMember, container_eq]

theorem readsBack_toJson : record.reader.ReadsBack toJson := by
  intro source forward
  apply Record.json_of_fills (by decide)
  rw [members_eq]
  apply Record.Fills.of (Reader.readsBack_text _ source _)
  apply Record.Fills.of (Reader.readsBack_text _ source _)
  apply Record.Fills.of (ResourceKind.readsBack source _)
  apply Record.Fills.of (Reader.readsBack_text _ source _)
  apply Record.Fills.of (readsBack_port source _)
  apply Record.Fills.of (readsBack_port source _)
  apply Record.Fills.of (readsBack_address source _)
  apply Record.Fills.present (Reader.readsBack_text _) (by simp) _ rfl
  exact .done forward

theorem exact_port (number : UInt16) : Exact (.integer number.toNat) := by
  apply Config.exact_naturalJson
  have bound := number.toNat_lt
  have greatest := Config.greatestWord_eq
  omega

theorem exact_toJson (forward : Forward) : Exact forward.toJson := by
  apply Exact.object
  rw [members_eq]
  simp only [List.forall_mem_append, List.forall_mem_cons]
  exact ⟨⟨.text _, .text _, .text _, .text _, exact_port _, exact_port _, .text _,
    List.forall_mem_nil _⟩, Config.exact_presentMember .text _ _, List.forall_mem_nil _⟩

end Forward

/-! ## Plans -/

namespace Plan

/-- A plan as JSON is a text of the list of its forwards. -/
theorem ofText_json (forwards : List Forward) :
    Json.Draft.ofText (json forwards) =
      (Json.Draft.ofValue (.array (forwards.map Forward.toJson)), false) := by
  have exact := Config.exact_listJson Forward.exact_toJson forwards
  have lineEnd : Json.Blank ['\n'] := by simp [Json.Blank, Json.Draft.isSpace]
  exact Json.Draft.ofText_of_spells Json.Value.blank_nil (Json.Value.spells_indented exact 0)
    lineEnd (by simp [json, Json.Value.pretty])

/-- The forwards of a plan are read from its text, in their order and with all their fields. -/
theorem printed_plan_reads_back (forwards : List Forward) :
    Config.ofJson Forward.record.reader.list (text true forwards) = .ok forwards := by
  rw [Config.ofJson_eq_ok_iff, text, if_pos rfl, ofText_json]
  exact ⟨Forward.readsBack_toJson.list .document forwards, rfl⟩

end Plan

end PortTunnel
