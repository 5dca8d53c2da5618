import Countersign.Proofs.Receipts
import Countersign.Proofs.RunStep
import Mathlib

/-! The two modes of a dispatch. They fail alike, and what a dry run encodes for others is the call
that would have been submitted: decoded and read, it gives that call back. -/

namespace Countersign

theorem Coin.readable (c : Coin) (depth : ℕ) : c.toJson.Readable (depth + 1) :=
  .ofEntries (by simpa using ⟨.text c.denom, .text c.amount⟩)

theorem Coin.readable_list (coins : List Coin) (depth : ℕ) :
    (Json.list (coins.map toJson)).Readable (depth + 2) := by
  refine .list fun v hv => ?_
  obtain ⟨c, -, rfl⟩ := List.mem_map.1 hv
  exact c.readable depth

theorem StoredMessage.readable (m : StoredMessage) (depth : ℕ) : m.toJson.Readable (depth + 5) := by
  cases m with
  | bankSend recipient amount =>
    have hsend : (Json.ofEntries [("to_address", .text recipient),
        ("amount", .list (amount.map Coin.toJson))]).Readable (depth + 3) :=
      .ofEntries (by simpa using ⟨.text recipient, Coin.readable_list amount depth⟩)
    exact .ofEntries (by simpa using .ofEntries (by simpa using hsend))
  | wasmExecute contract payload funds =>
    have hexecute : (Json.ofEntries [("contract_addr", .text contract), ("msg", .text payload),
        ("funds", .list (funds.map Coin.toJson))]).Readable (depth + 3) :=
      .ofEntries (by simpa using
        ⟨.text contract, .text payload, Coin.readable_list funds depth⟩)
    exact .ofEntries (by simpa using .ofEntries (by simpa using hexecute))

namespace MultisigCall

theorem readable (call : MultisigCall) (depth : ℕ) : call.toJson.Readable (depth + 8) := by
  have hid : ∀ (id : UInt64) (depth : ℕ), (Json.ofNat id.toNat).Readable depth := fun id depth =>
    Json.readable_ofNat id.toNat_lt
  cases call with
  | propose title description messages =>
    have hmessages : (Json.list (messages.map StoredMessage.toJson)).Readable (depth + 6) := by
      refine .list fun v hv => ?_
      obtain ⟨m, -, rfl⟩ := List.mem_map.1 hv
      exact m.readable depth
    exact .ofEntries (by simpa using .ofEntries (by simpa using
      ⟨.text title, .text description, hmessages⟩))
  | vote id choice =>
    exact .ofEntries (by simpa using .ofEntries (by simpa using ⟨hid id _, .text choice⟩))
  | execute id => exact .ofEntries (by simpa using .ofEntries (by simpa using hid id _))

/-- The message is base64 of a JSON text that reads as the body of the call, and as the call. -/
def EncodedIn (call : MultisigCall) (message : String) : Prop :=
  ∃ bytes text, Base64.decode? message.toList = some bytes ∧ Base64.toText? bytes = some text ∧
    Json.parse? text = some call.toJson ∧ read? call.toJson = some call

theorem encodedIn_encodeJson (call : MultisigCall) : call.EncodedIn (encodeJson call.toJson) := by
  have hreadable : call.toJson.Readable Document.greatestDepth := call.readable 119
  refine ⟨call.toJson.write.toUTF8.data.toList, call.toJson.write, ?_, ?_, ?_, call.read?_toJson⟩
  · rw [StoredMessage.encodeJson_eq hreadable, Base64.ofText_eq_ofBytes, Base64.decode?_ofBytes]
  · exact Base64.toText?_eq_some.2 rfl
  · exact Json.parse?_write hreadable

end MultisigCall

namespace Dispatcher

/-- A dry run fails exactly when a submission fails before anything is handed over, and with the same
error. Otherwise there is a call that the one encodes and the other hands over, once. -/
theorem dryRun_agrees (d : Dispatcher) (r : Resolution) (signer : String) (candidate : Message) :
    let dry := { d with mode := .dryRun }.dispatch r signer candidate
    let submitted := { d with mode := .submit, connected := true }.dispatch r signer candidate
    (∀ e, dry = .failed e ↔ submitted = .failed e) ∧
      ((∃ e, dry = .failed e) ∨ ∃ call message,
        d.callFor r.proposal.action r.proposal.id candidate = .ok call ∧
        submitted = .submit [.execute signer d.multisig call.toJson []]
          (fun reply => Dialogue.ofExcept (d.judge r.proposal reply)) ∧
        dry = .done (.encoded r.proposal.action r.proposal.id message) ∧
        call.EncodedIn message) := by
  intro dry submitted
  -- the mode plays no part in the body of the call
  cases hbody : d.bodyFor r.proposal candidate with
  | error e =>
    have hdry : dry = .failed e := dispatch_failed signer hbody
    have hsubmitted : submitted = .failed e := dispatch_failed signer hbody
    exact ⟨fun e' => by rw [hdry, hsubmitted], .inl ⟨e, hdry⟩⟩
  | ok body =>
    obtain ⟨call, hcall, rfl⟩ := bodyFor_ok hbody
    have hdry : dry = .done (.encoded r.proposal.action r.proposal.id (encodeJson call.toJson)) :=
      dispatch_dryRun signer rfl hbody
    have hsubmitted : submitted = .submit [.execute signer d.multisig call.toJson []]
        fun reply => Dialogue.ofExcept (d.judge r.proposal reply) :=
      dispatch_submit (d := { d with mode := .submit, connected := true }) rfl rfl hbody
    refine ⟨fun e => ?_, .inr ⟨call, _, hcall, hsubmitted, hdry, call.encodedIn_encodeJson⟩⟩
    rw [hdry, hsubmitted]
    exact iff_of_false nofun nofun

end Dispatcher
end Countersign
