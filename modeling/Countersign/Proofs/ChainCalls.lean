import Countersign.Proofs.RunStep
import Countersign.Proofs.WrittenRecords
import Mathlib

/-! What a call of the multisig changes on the chain held in memory. -/

namespace Countersign

namespace Chain

variable {c : Chain}

def ballot (id : UInt64) (voter : String) : Json :=
  voteEntry id (.text voter) (.text "yes")

theorem listed_ballot (id : UInt64) (voter : String) :
    Listed VoteRecord.read? "voter" VoteRecord.voter (ballot id voter) ⟨voter, .yes, 1⟩ :=
  ⟨rfl, rfl⟩

theorem votesOn_alter {c' : Chain} {id : UInt64} {change : List Json → List Json}
    (h : c'.votes = c.votes.alter (toString id) [] change) (other : UInt64) :
    c'.votesOn other = if other = id then change (c.votesOn id) else c.votesOn other := by
  rw [votesOn, h]
  split
  · next hid => rw [hid, Keyed.get?_alter_self, Option.getD_some, votesOn]
  · next hid =>
    have hkey : toString other ≠ toString id := fun he => hid (toString_injective he)
    rw [Keyed.get?_alter_of_ne hkey, votesOn]

/-! ### Calls -/

theorem accept_vote (c : Chain) (signer contract : String) (id : UInt64) (choice : String) :
    c.accept [.execute signer contract (MultisigCall.vote id choice).toJson []] =
      (.ok (c.vote signer contract id).1, (c.vote signer contract id).2) := by
  have hnot : (MultisigCall.vote id choice).toJson.get? "propose" = none := rfl
  have hbody : (MultisigCall.vote id choice).toJson.get? "vote" =
    some (.ofEntries [("proposal_id", .ofNat id.toNat), ("vote", .text choice)]) := rfl
  have hid : ((Json.ofEntries [("proposal_id", .ofNat id.toNat),
      ("vote", .text choice)]).getD "proposal_id").word64? = some id :=
    Json.word64?_ofNat_toNat id
  simp only [accept, hnot, hbody, hid, Option.getD_some]

theorem accept_execute (c : Chain) (signer contract : String) (id : UInt64) :
    c.accept [.execute signer contract (MultisigCall.execute id).toJson []] =
      c.execute contract id := by
  have hnot : (MultisigCall.execute id).toJson.get? "propose" = none := rfl
  have hnot' : (MultisigCall.execute id).toJson.get? "vote" = none := rfl
  have hbody : (MultisigCall.execute id).toJson.get? "execute" =
    some (.ofEntries [("proposal_id", .ofNat id.toNat)]) := rfl
  have hid : ((Json.ofEntries [("proposal_id", .ofNat id.toNat)]).getD "proposal_id").word64? =
      some id :=
    Json.word64?_ofNat_toNat id
  simp only [accept, hnot, hnot', hbody, hid, Option.getD_some]

def proposalBody (title description : String) (messages : List StoredMessage) : Json :=
  .ofEntries [
    ("title", .text title),
    ("description", .text description),
    ("msgs", .list (messages.map StoredMessage.toJson))]

theorem accept_propose (c : Chain) (signer contract title description : String)
    (messages : List StoredMessage) :
    c.accept [.execute signer contract
        (MultisigCall.propose title description messages).toJson []] =
      (.ok (c.propose signer contract (proposalBody title description messages)).1,
        (c.propose signer contract (proposalBody title description messages)).2) := by
  have hbody : (MultisigCall.propose title description messages).toJson.get? "propose" =
    some (proposalBody title description messages) := rfl
  simp only [accept, hbody]

/-! ### Proposals by their ids -/

def next (c : Chain) : UInt64 :=
  UInt64.ofNat (c.proposals.length + 1)

def opened (id : UInt64) (call : Json) : Json :=
  .ofEntries [
    ("id", .ofNat id.toNat),
    ("title", call.getD "title"),
    ("description", call.getD "description"),
    ("msgs", call.getD "msgs"),
    ("status", .text "open")]

theorem propose_eq (c : Chain) (signer contract : String) (call : Json) :
    (c.propose signer contract call).2 = { c with
      proposals := c.proposals ++ [opened c.next call]
      votes := c.votes.alter (toString c.next) [] fun _ => [ballot c.next signer] } := rfl

end Chain
end Countersign
