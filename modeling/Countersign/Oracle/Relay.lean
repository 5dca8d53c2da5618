import Countersign.Receipt.Group
import Countersign.Text.Blank
import Countersign.Text.Numeral

/-!
The id of a proposal that a contract opened, from the events of the transaction. A contract called
directly heads its own result; calls relayed by a multisig share the first result, where ids and
addresses are matched by position.
-/

namespace Countersign.Relay

def wasm : String := "wasm"
def contractAddress : String := "contract_address"
def proposalId : String := "proposal_id"

inductive Policy where
  | first
  | last
  deriving DecidableEq, Repr

/-- The last result headed by the contract decides, also when it carries no id. -/
def direct? (groups : List EventGroup) (contract : String) : Option String :=
  groups.foldl (fun found g =>
    if g.first? wasm contractAddress = some contract then g.first? wasm proposalId else found) none

/-- The ids at the positions where `contract` stands; a position may have none. -/
def matching (contract : String) : List String → List String → List (Option String)
  | [], _ => []
  | a :: addresses, ids =>
    if a = contract then ids.head? :: matching contract addresses ids.tail
    else matching contract addresses ids.tail

def relayed? (policy : Policy) (groups : List EventGroup) (contract : String) : Option String := do
  let g ← groups.head?
  let found := matching contract (g.values wasm contractAddress) (g.values wasm proposalId)
  match policy with
  | .first => found.head?.join
  | .last => found.getLast?.join

def proposalId? (groups : List EventGroup) (contract : String) : Option String :=
  (direct? groups contract).or (relayed? .last groups contract)

def created? (groups : List EventGroup) : Option UInt64 := do
  let g ← groups.head?
  let id ← g.first? wasm proposalId
  Text.word64? (Text.trimmed id.toList)

end Countersign.Relay
