import Countersign.Record

/-! The status of a proposal on the chain, and the step that a signer takes next. -/

namespace Countersign

/-- `none` stands for a proposal that is not there. -/
inductive ProposalStatus where
  | pending | open | passed | rejected | executed | none
  deriving DecidableEq, Repr

namespace ProposalStatus

def all : List ProposalStatus :=
  [.pending, .open, .passed, .rejected, .executed, .none]

def name : ProposalStatus → String
  | .pending => "pending"
  | .open => "open"
  | .passed => "passed"
  | .rejected => "rejected"
  | .executed => "executed"
  | .none => "none"

def ofName? (s : String) : Option ProposalStatus :=
  all.find? (·.name == s)

/-- Whether a proposal can still receive a vote or be executed. -/
def isActionable : ProposalStatus → Bool
  | .pending | .open | .passed => true
  | .rejected | .executed | .none => false

def read? (v : Json) : Option ProposalStatus :=
  (Record.unit? v).bind ofName?

def toJson (s : ProposalStatus) : Json :=
  .text s.name

theorem ofName?_name (s : ProposalStatus) : ofName? s.name = some s := by
  cases s <;> rfl

end ProposalStatus

inductive NextAction where
  | create | approve | execute | none
  deriving DecidableEq, Repr

namespace NextAction

def all : List NextAction :=
  [.create, .approve, .execute, .none]

def name : NextAction → String
  | .create => "CREATE"
  | .approve => "APPROVE"
  | .execute => "EXECUTE"
  | .none => "NONE"

def progressive : NextAction → String
  | .create => "CREATING"
  | .approve => "APPROVING"
  | .execute => "EXECUTING"
  | .none => "NONE"

def ofName? (s : String) : Option NextAction :=
  all.find? (·.name == s)

def read? (v : Json) : Option NextAction :=
  (Record.unit? v).bind ofName?

def toJson (a : NextAction) : Json :=
  .text a.name

end NextAction
end Countersign
