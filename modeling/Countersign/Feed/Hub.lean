import Countersign.Oracle.Extract

/-!
Subscriptions to the rounds of contracts. Each round of a batch goes to the subscriptions that were
listed when the batch began and are still active when their turn comes. The callbacks called may
themselves subscribe, cancel any subscription, or close the hub.
-/

namespace Countersign.Feed

/-- What a callback of kind `β` may do to the hub that calls it. -/
inductive Act (β : Type) where
  | cancel (id : Nat)
  | subscribe (contract : String) (callback : β)
  | close

/-- What a callback does when it is called. If it fails, it does so after its acts. -/
structure Reaction (β : Type) where
  acts : List (Act β) := []
  fails : Bool := false

abbrev Behaviour (β : Type) := β → (id call : Nat) → Round → Reaction β

structure Subscription (β : Type) where
  id : Nat
  contract : String
  callback : β
  active : Bool := true
  calls : Nat := 0

def Subscription.describe {β : Type} (s : Subscription β) : String :=
  "Subscription \x7b " ++
    s!"id: {s.id}, contract_address: {Text.quoted s.contract}, active: {s.active}" ++ " \x7d"

structure Call where
  id : Nat
  round : Round
  failed : Bool
  deriving DecidableEq, Repr

structure Hub (β : Type) where
  subscriptions : List (Subscription β) := []
  listed : List Nat := []
  closed : Bool := false
  calls : List Call := []

namespace Hub

variable {β : Type}

def subscribe (contract : String) (callback : β) (h : Hub β) : Hub β :=
  let id := h.subscriptions.length + 1
  { h with
    subscriptions := h.subscriptions ++ [{ id, contract, callback, active := !h.closed }]
    listed := if h.closed then h.listed else h.listed ++ [id] }

def find? (h : Hub β) (id : Nat) : Option (Subscription β) :=
  h.subscriptions.find? (·.id == id)

def isActive (h : Hub β) (id : Nat) : Bool :=
  (h.find? id).any (·.active)

def modify (id : Nat) (change : Subscription β → Subscription β) (h : Hub β) : Hub β :=
  { h with subscriptions := h.subscriptions.map fun s => if s.id = id then change s else s }

def cancel (id : Nat) (h : Hub β) : Hub β :=
  { h.modify id fun s => { s with active := false } with listed := h.listed.filter (· != id) }

/-- End every subscription that is listed. One made later is not active. -/
def close (h : Hub β) : Hub β :=
  { h with
    subscriptions := h.subscriptions.map fun s =>
      if s.id ∈ h.listed then { s with active := false } else s
    listed := []
    closed := true }

def perform (h : Hub β) : Act β → Hub β
  | .cancel id => h.cancel id
  | .subscribe contract callback => h.subscribe contract callback
  | .close => h.close

def call (react : Behaviour β) (round : Round) (h : Hub β) (id : Nat) : Hub β :=
  match h.find? id with
  | none => h
  | some s =>
    if s.active then
      let reaction := react s.callback id (s.calls + 1) round
      let called := h.modify id fun s => { s with calls := s.calls + 1 }
      reaction.acts.foldl perform
        { called with calls := h.calls ++ [⟨id, round, reaction.fails⟩] }
    else h

/-- A round goes to the targets that follow its contract; one without a contract goes nowhere. -/
def deliverRound (react : Behaviour β) (targets : List (Subscription β)) (h : Hub β)
    (r : SourcedRound) : Hub β :=
  ((targets.filter fun s => r.contract = some s.contract).map Subscription.id).foldl
    (call react r.round) h

def targets (h : Hub β) : List (Subscription β) :=
  h.listed.filterMap h.find?

def deliver (react : Behaviour β) (rounds : List SourcedRound) (h : Hub β) : Hub β :=
  rounds.foldl (deliverRound react h.targets) h

end Hub
end Countersign.Feed
