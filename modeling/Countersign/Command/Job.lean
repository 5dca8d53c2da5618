import Countersign.Command.Basic
import Countersign.Command.Report
import Countersign.Feed.Consumer
import Countersign.Feed.Frame

/-!
Carrying out a command, up to what it needs from outside: a file, a network with a gateway, or a feed.
-/

namespace Countersign

structure Inquiry where
  gateway : Gateway
  printed : List String
  dialogue : Dialogue Fault (List String)

namespace Inquiry

def conclude {σ : Type} (q : Inquiry) (fetch : σ → Gateway.Request → Option Gateway.Response × σ)
    (network : σ) : Report × σ :=
  let p := q.dialogue.play (q.gateway.node fetch) network
  let report := match p.outcome with
    | .done lines => { output := q.printed ++ lines }
    | .failed f => f.report q.printed
    | .stalled => Fault.report { message := "A listing has no end" } q.printed
  (report, p.state)

end Inquiry

/-- Waiting for rounds of a contract, at most `count` if that is given. -/
structure Watch where
  settings : Feed.Settings
  contract : String
  count : Option Nat

namespace Watch

def heard (w : Watch) (l : Feed.Link) : List Round :=
  let hub := Feed.Hub.subscribe w.contract () {}
  let c : Feed.Consumer Unit := { settings := w.settings, hub, plan := [.stream l.items true] }
  (c.start fun _ _ _ _ => {}).hub.calls.map Feed.Call.round

/-- The report of a watch that ends. One that finds nobody tries again for ever. At least one round is
awaited. -/
def conclude? (w : Watch) (e : Feed.Endpoint) : Option Report :=
  match w.settings.subscribe e, w.count with
  | .ok link, some count =>
    let rounds := w.heard link
    let count := max 1 count
    if count ≤ rounds.length then some { output := (rounds.take count).map Report.roundLine }
    else none
  | _, _ => none

end Watch

/-- What a command still needs from outside. -/
inductive Job where
  | finished (report : Report)
  | reading (path : String) (next : Except String String → Report)
  | asking (inquiry : Inquiry)
  | watching (watch : Watch)

namespace Command

def gatewayOf (t : Target) : Except Fault Gateway :=
  match Url.parse t.gateway with
  | .ok base => .ok ⟨base, t.route⟩
  | .error e =>
    let gateway := t.gateway
    .error { message := s!"invalid LCD url '{gateway}'", causes := [e.message] }

def walletOf (t : Target) : Wallet where
  multisig := t.multisig
  group := t.group

def flagOf (text : String) : Except Fault (String × String) :=
  match text.toList.dropWhile (· != '=') with
  | _ :: value => .ok (String.ofList (text.toList.takeWhile (· != '=')), String.ofList value)
  | [] => .error { message := s!"flag '{text}' must look like key=value" }

def prepare (o : Order) (multisig : String) : Except Fault Prepared := do
  let instruction ← (Instruction.find o.instruction).mapError fun e => { message := e.message }
  let flags ← o.flags.mapM flagOf
  let id := o.instruction
  (instruction.prepare ⟨o.arguments, flags⟩ o.contract multisig).mapError fun e =>
    { message := s!"preparing {id}", causes := [e.message] }

def multisigJob (o : Order) (t : Target) : Job :=
  match prepare o t.multisig with
  | .error f => .finished (f.report [])
  | .ok prepared =>
    match gatewayOf t with
    | .error f => .finished (f.report [prepared.summary])
    | .ok gateway => .asking {
        gateway
        printed := [prepared.summary]
        dialogue := do
          let r ← ((walletOf t).run .dryRun prepared o.signer o.proposal).mapError RunError.fault
          return Report.run t.multisig o.json r }

def inspectJob (proposal : Option UInt64) (signer : Option String) (t : Target) : Job :=
  match gatewayOf t with
  | .error f => .finished (f.report [])
  | .ok gateway => .asking {
      gateway
      printed := []
      dialogue := do
        let r ← ((walletOf t).inspect proposal signer).mapError ResolveError.fault
        return Report.inspection r }

def decodeFile (path : String) (rounds json : Bool) : Except String String → Report
  | .ok raw => Report.decoded rounds json raw
  | .error cause => Fault.report { message := s!"read log file '{path}'", causes := [cause] } []

def watchJob (url contract : String) (count : Option Nat) : Job :=
  let settings : Feed.Settings := { url }
  match settings.address with
  | .ok _ => .watching ⟨settings, contract, count⟩
  | .error e => .finished (Fault.report { message := e.message } [])

def job : Command → Job
  | .decodeLog (.inline raw) rounds json => .finished (Report.decoded rounds json raw)
  | .decodeLog (.file path) rounds json => .reading path (decodeFile path rounds json)
  | .watch url contract count => watchJob url contract count
  | .multisig order target => multisigJob order target
  | .inspect proposal signer target => inspectJob proposal signer target
  | .instructions => .finished Report.instructions

end Command

def Command.Stop.report : Command.Stop → Report
  | .usage => { code := 2 }
  | .help => {}
  | .version => { output := ["chainquorum 0.2.0"] }

end Countersign
