import Countersign.Message.Stored
import Countersign.Proposal.Status

/-! What the chain reports about one proposal. -/

namespace Countersign

/-- Addresses in ascending order, each once. -/
abbrev Roster := List String

namespace Roster

def insert (address : String) : Roster → Roster
  | [] => [address]
  | a :: rest =>
    if address < a then address :: a :: rest
    else if address = a then a :: rest
    else a :: insert address rest

def ofList (addresses : List String) : Roster :=
  addresses.foldr insert []

theorem mem_insert {a b : String} {r : Roster} : b ∈ insert a r ↔ b = a ∨ b ∈ r := by
  induction r with
  | nil => simp [insert]
  | cons c rest ih =>
    by_cases hlt : a < c
    · simp [insert, hlt]
    · by_cases heq : a = c
      · simp [insert, heq]
      · simp only [insert, hlt, if_false, heq, List.mem_cons, ih]
        exact or_left_comm

theorem mem_ofList {b : String} {addresses : List String} :
    b ∈ ofList addresses ↔ b ∈ addresses := by
  induction addresses with
  | nil => simp [ofList]
  | cons a rest ih => simpa [ofList, mem_insert] using or_congr_right ih

end Roster

structure Snapshot where
  id : UInt64
  status : ProposalStatus
  approvers : Roster
  messages : List StoredMessage
  deriving DecidableEq, Repr

end Countersign
