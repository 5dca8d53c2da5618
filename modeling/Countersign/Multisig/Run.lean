import Countersign.Multisig.Instruction
import Countersign.Multisig.Wallet

/-! One run of an instruction: resolve, dispatch, and read the proposal again after a submission. -/

namespace Countersign

inductive RunError where
  | resolve (source : ResolveError)
  | dispatch (source : DispatchError)
  deriving DecidableEq, Repr

def RunError.message : RunError → String
  | .resolve source => source.message
  | .dispatch source => source.message

/-- `resolution` is what the decision was made on; there is no outcome when nothing is to be done. -/
structure RunReport where
  resolution : Resolution
  outcome : Option DispatchOutcome := none
  after : Option Resolution := none

namespace RunReport

def latest (r : RunReport) : Resolution :=
  r.after.getD r.resolution

def postInstructions (r : RunReport) : String :=
  r.latest.postInstructions

end RunReport

namespace Wallet

def dispatcher (w : Wallet) (mode : DispatchMode) (prepared : Prepared) : Dispatcher where
  multisig := w.multisig
  title := prepared.id
  mode := mode
  connected := mode = .submit
  afterExecute := prepared.afterExecute

def run (w : Wallet) (mode : DispatchMode) (prepared : Prepared) (signer : String)
    (id : Option UInt64) : Dialogue RunError RunReport := do
  let resolution ← (w.resolve id prepared.message signer).mapError .resolve
  if resolution.proposal.action = .none then return { resolution }
  let outcome ← ((w.dispatcher mode prepared).dispatch resolution signer prepared.message).mapError
    .dispatch
  match outcome with
  | .submitted _ _ (some id) _ =>
    let after ← (w.inspect (some id) (some signer)).mapError .resolve
    return { resolution, outcome := some outcome, after := some after }
  | _ => return { resolution, outcome := some outcome }

end Wallet
end Countersign
