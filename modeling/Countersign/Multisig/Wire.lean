import Countersign.Proposal.Status

/-! What the multisig and its group answer: proposals, votes and members. -/

namespace Countersign

structure ProposalRecord where
  id : UInt64
  title : String
  description : String
  messages : List Json
  status : ProposalStatus
  deriving Repr

inductive Vote where
  | yes | no | abstain | veto
  deriving DecidableEq, Repr

structure VoteRecord where
  voter : String
  vote : Vote
  weight : UInt64
  deriving DecidableEq, Repr

structure Member where
  address : String
  weight : UInt64
  deriving DecidableEq, Repr

namespace ProposalRecord

def read? (v : Json) : Option ProposalRecord := do
  let f ← Record.fields? ["id", "title", "description", "msgs", "status"] v
  return {
    id := ← f.required? "id" Record.word64?
    title := ← f.withDefault? "title" Record.text? ""
    description := ← f.withDefault? "description" Record.text? ""
    messages := ← f.withDefault? "msgs" (Record.list? some) []
    status := ← f.required? "status" ProposalStatus.read? }

def readPage? (v : Json) : Option (List ProposalRecord) := do
  (← Record.fields? ["proposals"] v).required? "proposals" (Record.list? read?)

end ProposalRecord

namespace Vote

def ofName? : String → Option Vote
  | "yes" => some .yes
  | "no" => some .no
  | "abstain" => some .abstain
  | "veto" => some .veto
  | _ => none

def read? (v : Json) : Option Vote :=
  (Record.unit? v).bind ofName?

end Vote

namespace VoteRecord

def read? (v : Json) : Option VoteRecord := do
  let f ← Record.fields? ["voter", "vote", "weight"] v
  return {
    voter := ← f.required? "voter" Record.text?
    vote := ← f.required? "vote" Vote.read?
    weight := ← f.withDefault? "weight" Record.word64? 0 }

def readPage? (v : Json) : Option (List VoteRecord) := do
  (← Record.fields? ["votes"] v).required? "votes" (Record.list? read?)

end VoteRecord

namespace Member

def read? (v : Json) : Option Member := do
  let f ← Record.fields? ["addr", "weight"] v
  return {
    address := ← f.required? "addr" Record.text?
    weight := ← f.withDefault? "weight" Record.word64? 0 }

def readPage? (v : Json) : Option (List Member) := do
  (← Record.fields? ["members"] v).required? "members" (Record.list? read?)

end Member
end Countersign
