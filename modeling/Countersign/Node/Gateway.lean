import Countersign.Base64
import Countersign.Node.Dialogue
import Countersign.Url.Basic

/-! The REST gateway of a node: the address under which it answers a query, and how a reply is read. -/

namespace Countersign

inductive GatewayRoute where
  | terra
  | cosmwasm
  deriving DecidableEq, Repr

structure Gateway where
  base : Url.Address
  route : GatewayRoute := .terra

namespace Gateway

structure Request where
  address : Url.Address
  contract : String
  question : Json

structure Response where
  status : Nat
  body : String

/-- There is none when the base has no list of segments. -/
def address? (g : Gateway) (contract : String) (question : Json) : Option Url.Address :=
  let encoded := Base64.ofText question.write
  match g.route with
  | .terra =>
    (g.base.extend? ["terra", "wasm", "v1beta1", "contracts", contract, "store"]).map
      (·.appendPair "query_msg" encoded)
  | .cosmwasm => g.base.extend? ["cosmwasm", "wasm", "v1", "contract", contract, "smart", encoded]

def answerKey : GatewayRoute → String
  | .terra => "query_result"
  | .cosmwasm => "data"

def occursIn (part : List Char) : List Char → Bool
  | [] => part.isEmpty
  | c :: cs => part.isPrefixOf (c :: cs) || occursIn part cs

def speaksOfNotFound (body : String) : Bool :=
  occursIn "not found".toList (body.toList.map Char.toLower)

/-- A response without the expected entry is itself the answer. -/
def read (route : GatewayRoute) (r : Response) : QueryReply :=
  if 200 ≤ r.status ∧ r.status < 300 then
    match Json.parse? r.body with
    | some v => .ok ((v.get? (answerKey route)).getD v)
    | none => .error .unreadable
  else if r.status = 404 ∨ speaksOfNotFound r.body then .error (.notFound r.body)
  else
    let status := r.status
    let body := r.body
    .error (.transport s!"HTTP {status}: {body}")

def ask {σ : Type} (g : Gateway) (fetch : σ → Request → Option Response × σ) (network : σ)
    (contract : String) (question : Json) : QueryReply × σ :=
  match g.address? contract question with
  | none =>
    let base := g.base.write
    (.error (.transport s!"LCD url '{base}' cannot be a base"), network)
  | some address =>
    let shown := address.anonymous.write
    if address.anonymous.isAskable then
      match fetch network ⟨address, contract, question⟩ with
      | (some response, network) => (read g.route response, network)
      | (none, network) =>
        (.error (.transport s!"error sending request for url ({shown})"), network)
    else (.error (.transport s!"builder error for url ({shown})"), network)

def node {σ : Type} (g : Gateway) (fetch : σ → Request → Option Response × σ) : Node σ where
  answer := g.ask fetch
  accept network _ := (.error (.transport "The gateway takes no messages"), network)

end Gateway
end Countersign
