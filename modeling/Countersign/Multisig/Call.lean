import Countersign.Message.Basic

/-! Calls to the multisig contract itself. -/

namespace Countersign

inductive MultisigCall where
  | propose (title description : String) (messages : List StoredMessage)
  | vote (id : UInt64) (choice : String)
  | execute (id : UInt64)
  deriving DecidableEq, Repr

namespace MultisigCall

def read? (v : Json) : Option MultisigCall := do
  let (name, content) ← Record.variant? v
  match name with
  | "propose" =>
    let f ← Record.content? ["title", "description", "msgs"] content
    return .propose (← f.required? "title" Record.text?) (← f.required? "description" Record.text?)
      (← f.required? "msgs" (Record.list? StoredMessage.read?))
  | "vote" =>
    let f ← Record.content? ["proposal_id", "vote"] content
    return .vote (← f.required? "proposal_id" Record.word64?) (← f.required? "vote" Record.text?)
  | "execute" =>
    let f ← Record.content? ["proposal_id"] content
    return .execute (← f.required? "proposal_id" Record.word64?)
  | _ => none

def toJson : MultisigCall → Json
  | .propose title description messages =>
    .ofEntries [("propose", .ofEntries [
      ("title", .text title),
      ("description", .text description),
      ("msgs", .list (messages.map StoredMessage.toJson))])]
  | .vote id choice =>
    .ofEntries [("vote", .ofEntries [("proposal_id", .ofNat id.toNat), ("vote", .text choice)])]
  | .execute id => .ofEntries [("execute", .ofEntries [("proposal_id", .ofNat id.toNat)])]

end MultisigCall
end Countersign
