import Countersign.Message.Basic
import Countersign.Proposal.Error
import Countersign.Receipt.Transaction

/-!
A run against a node as a tree: what is asked or submitted, and how the run goes on after each reply.
Playing it against a node gives the outcome and everything that was exchanged.
-/

namespace Countersign

inductive SubmitError where
  | provider (status : UInt16) (body : Json)
  | transport (text : String)
  deriving Repr

/-- The most telling text there is: the `message` of the body, or the whole error. -/
def SubmitError.message : SubmitError → String
  | .provider status body =>
    ((body.get? "message").bind Json.text?).getD s!"Provider error ({status}): {body.write}"
  | .transport text => text

abbrev QueryReply := Except QueryError Json

abbrev SubmitReply := Except SubmitError TxReceipt

/-- A run that ends with `α` or fails with `ε`. It is stalled when it gives up on a listing. -/
inductive Dialogue (ε α : Type) where
  | done (result : α)
  | failed (error : ε)
  | stalled
  | query (contract : String) (question : Json) (next : QueryReply → Dialogue ε α)
  | submit (messages : List Message) (next : SubmitReply → Dialogue ε α)

namespace Dialogue

variable {ε ε' α β : Type}

def bind (f : α → Dialogue ε β) : Dialogue ε α → Dialogue ε β
  | .done a => f a
  | .failed e => .failed e
  | .stalled => .stalled
  | .query contract question next => .query contract question fun r => (next r).bind f
  | .submit messages next => .submit messages fun r => (next r).bind f

def mapError (f : ε → ε') : Dialogue ε α → Dialogue ε' α
  | .done a => .done a
  | .failed e => .failed (f e)
  | .stalled => .stalled
  | .query contract question next => .query contract question fun r => (next r).mapError f
  | .submit messages next => .submit messages fun r => (next r).mapError f

instance : Monad (Dialogue ε) where
  pure := .done
  bind d f := d.bind f

def ofExcept : Except ε α → Dialogue ε α
  | .ok a => .done a
  | .error e => .failed e

def ask (contract : String) (question : Json) (read : Json → Option α) : Dialogue QueryError α :=
  .query contract question fun
    | .error e => .failed e
    | .ok v =>
      match read v with
      | some a => .done a
      | none => .failed .unreadable

end Dialogue

/-- A node that answers queries and takes messages, by what it has become so far. -/
structure Node (σ : Type) where
  answer : σ → String → Json → QueryReply × σ
  accept : σ → List Message → SubmitReply × σ

inductive Outcome (ε α : Type) where
  | done (result : α)
  | failed (error : ε)
  | stalled
  deriving DecidableEq, Repr

inductive Exchange where
  | query (contract : String) (question : Json) (reply : QueryReply)
  | submission (messages : List Message) (reply : SubmitReply)

structure Play (σ ε α : Type) where
  outcome : Outcome ε α
  exchanges : List Exchange
  state : σ

def Dialogue.play {σ ε α : Type} (node : Node σ) (state : σ) : Dialogue ε α → Play σ ε α
  | .done a => ⟨.done a, [], state⟩
  | .failed e => ⟨.failed e, [], state⟩
  | .stalled => ⟨.stalled, [], state⟩
  | .query contract question next =>
    let (reply, state) := node.answer state contract question
    let rest := (next reply).play node state
    { rest with exchanges := .query contract question reply :: rest.exchanges }
  | .submit messages next =>
    let (reply, state) := node.accept state messages
    let rest := (next reply).play node state
    { rest with exchanges := .submission messages reply :: rest.exchanges }

end Countersign
