import Countersign.Node.Dialogue

/-!
A chain held in memory that answers for a multisig and its group, and applies the calls submitted to
it. Its records are JSON as a node gives it.
-/

namespace Countersign

/-- Proposals are listed oldest first, votes by the id of their proposal in decimal. -/
structure Chain where
  threshold : Json := .null
  members : List Json := []
  proposals : List Json := []
  votes : Keyed (List Json) := []

namespace Chain

def keyLE : Option String → Option String → Bool
  | none, _ => true
  | some _, none => false
  | some a, some b => !(b < a)

def place (key : String) (item : Json) : List Json → List Json
  | [] => [item]
  | other :: rest =>
    if keyLE ((item.getD key).text?) ((other.getD key).text?) then item :: other :: rest
    else other :: place key item rest

def sortBy (key : String) (items : List Json) : List Json :=
  items.foldr (place key) []

def isAfter (cursor : Option String) (key : Option String) : Bool :=
  match cursor, key with
  | none, _ => true
  | some _, none => false
  | some c, some k => c < k

/-- One page: items in ascending key order strictly after the cursor, at most as many as the limit. -/
def page (key : String) (items : List Json) (body : Json) : List Json :=
  let limit := ((body.getD "limit").word64?.map UInt64.toNat).getD 10
  let cursor := (body.getD "start_after").text?
  ((sortBy key items).filter fun item => isAfter cursor (item.getD key).text?).take limit

def idOf (v : Json) : Option UInt64 :=
  (v.getD "id").word64?

def proposal? (c : Chain) (id : UInt64) : Option Json :=
  c.proposals.find? fun p => idOf p == some id

def votesOn (c : Chain) (id : UInt64) : List Json :=
  (c.votes.get? (toString id)).getD []

def answerTo (c : Chain) (kind : String) (body : Json) : QueryReply :=
  let id := ((body.getD "proposal_id").word64?).getD 0
  match kind with
  | "threshold" => .ok c.threshold
  | "list_members" => .ok (.ofEntries [("members", .list (page "addr" c.members body))])
  | "proposal" =>
    match c.proposal? id with
    | some p => .ok p
    | none => .error (.notFound s!"proposal {id}")
  | "reverse_proposals" =>
    let limit := ((body.getD "limit").word64?.map UInt64.toNat).getD 30
    .ok (.ofEntries [("proposals", .list (c.proposals.reverse.take limit))])
  | "list_votes" => .ok (.ofEntries [("votes", .list (page "voter" (c.votesOn id) body))])
  | kind => .error (.transport s!"unexpected query {kind}")

def queryParts? : Json → Option (String × Json)
  | .object ((kind, body) :: _) => some (kind, body)
  | _ => none

def answer (c : Chain) (question : Json) : QueryReply :=
  match queryParts? question with
  | some (kind, body) => c.answerTo kind body
  | none => .error (.transport "empty query")

/-! ### Calls -/

def voteEntry (id : UInt64) (voter vote : Json) : Json :=
  .ofEntries [
    ("proposal_id", .ofNat id.toNat), ("voter", voter), ("vote", vote), ("weight", .ofNat 1)]

def addVote (c : Chain) (id : UInt64) (voter vote : Json) : Chain :=
  { c with votes := c.votes.push (toString id) (voteEntry id voter vote) }

def addMember (c : Chain) (address : Json) : Chain :=
  { c with members := c.members ++ [.ofEntries [("addr", address), ("weight", .ofNat 1)]] }

def setStatus (status : Json) : Json → Json
  | .object entries => .object (Entries.put "status" status entries)
  | p => p

def setStatusOf (c : Chain) (id : UInt64) (status : Json) : Chain :=
  { c with proposals := c.proposals.map fun p => if idOf p = some id then setStatus status p else p }

def markExecuted (id : UInt64) : List Json → List Json
  | [] => []
  | p :: rest =>
    if idOf p = some id then setStatus (.text "executed") p :: rest else p :: markExecuted id rest

def receipt (attributes : List (String × String)) : TxReceipt where
  hash := "5F1D0C0FFEE"
  logs := []
  rawLog := (Json.list [(TxResult.mk none none
    [⟨"wasm", attributes.map fun (key, value) => ⟨key, value⟩⟩]).toJson]).write
  code := 0

/-- A new open proposal with the next number as its id. The vote of the one who makes it is the only one
on it, whatever was recorded under that id before. -/
def propose (c : Chain) (sender contract : String) (call : Json) : TxReceipt × Chain :=
  let id := UInt64.ofNat (c.proposals.length + 1)
  let proposal := Json.ofEntries [
    ("id", .ofNat id.toNat),
    ("title", call.getD "title"),
    ("description", call.getD "description"),
    ("msgs", call.getD "msgs"),
    ("status", .text "open")]
  (receipt [("contract_address", contract), ("action", "propose"), ("proposal_id", toString id)],
    { c with
      proposals := c.proposals ++ [proposal]
      votes := c.votes.alter (toString id) [] fun _ => [voteEntry id (.text sender) (.text "yes")] })

def vote (c : Chain) (sender contract : String) (id : UInt64) : TxReceipt × Chain :=
  (receipt [("contract_address", contract), ("action", "vote"), ("proposal_id", toString id)],
    c.addVote id (.text sender) (.text "yes"))

def targetOf (proposal : Json) : String :=
  match proposal.getD "msgs" with
  | .list (m :: _) =>
    ((((m.getD "wasm").getD "execute").getD "contract_addr").text?).getD ""
  | _ => ""

def execute (c : Chain) (contract : String) (id : UInt64) : SubmitReply × Chain :=
  match c.proposal? id with
  | none =>
    (.error (.provider 400 (.ofEntries [("message", .text s!"proposal {id} not found")])), c)
  | some p =>
    (.ok (receipt [
      ("contract_address", contract), ("action", "execute"), ("proposal_id", toString id),
      ("contract_address", targetOf p), ("method", "begin_proposal"), ("proposal_id", "42")]),
      { c with proposals := markExecuted id c.proposals })

def accept (c : Chain) (messages : List Message) : SubmitReply × Chain :=
  match messages with
  | .execute sender contract call _ :: _ =>
    let idIn (body : Json) := ((body.getD "proposal_id").word64?).getD 0
    match call.get? "propose", call.get? "vote", call.get? "execute" with
    | some body, _, _ => let (r, c) := c.propose sender contract body; (.ok r, c)
    | none, some body, _ => let (r, c) := c.vote sender contract (idIn body); (.ok r, c)
    | none, none, some body => c.execute contract (idIn body)
    | none, none, none => (.error (.transport "unknown multisig call"), c)
  | _ => (.error (.transport "expected one execute message"), c)

def node : Node Chain where
  answer c _ question := (c.answer question, c)
  accept := accept

end Chain

/-- A chain with replies prepared in advance, which are used up first: replies to a kind of query,
and replies to submissions. -/
structure Rehearsal where
  chain : Chain := {}
  answers : Keyed (List QueryReply) := []
  receipts : List SubmitReply := []

namespace Rehearsal

def prepareAnswers (r : Rehearsal) (kind : String) (replies : List QueryReply) : Rehearsal :=
  { r with answers := r.answers.alter kind [] fun _ => replies }

def prepareReceipts (r : Rehearsal) (replies : List SubmitReply) : Rehearsal :=
  { r with receipts := replies }

def answer (r : Rehearsal) (question : Json) : QueryReply × Rehearsal :=
  let kind := ((Chain.queryParts? question).map Prod.fst).getD ""
  match r.answers.get? kind with
  | some (reply :: _) => (reply, { r with answers := r.answers.alter kind [] List.tail })
  | _ => (r.chain.answer question, r)

def accept (r : Rehearsal) (messages : List Message) : SubmitReply × Rehearsal :=
  match r.receipts with
  | reply :: rest => (reply, { r with receipts := rest })
  | [] =>
    let (reply, chain) := r.chain.accept messages
    (reply, { r with chain })

def node : Node Rehearsal where
  answer r _ question := r.answer question
  accept := accept

end Rehearsal
end Countersign
