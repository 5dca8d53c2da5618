import Countersign.Message.Coin

/-! Why a query fails, and why the state of a proposal cannot be resolved. -/

namespace Countersign

inductive QueryError where
  | notFound (text : String)
  | transport (text : String)
  | unreadable
  deriving DecidableEq, Repr

def QueryError.message : QueryError → String
  | .notFound text => s!"Not found: {text}"
  | .transport text => s!"Query transport error: {text}"
  | .unreadable => "Query response could not be deserialized"

inductive ResolveError where
  | proposalNotFound (id : UInt64)
  /-- A query about one proposal, or about the multisig when there is no id. -/
  | query (proposal : Option UInt64) (source : QueryError)
  | messageMismatch (id : UInt64)
  | unsupportedThreshold (kind : String)
  | incomparable (source : MessageError)
  deriving DecidableEq, Repr

def ResolveError.message : ResolveError → String
  | .proposalNotFound id => s!"Proposal {id} not found"
  | .query (some id) source => s!"Query for proposal {id} failed: {source.message}"
  | .query none source => s!"Query for multisig state failed: {source.message}"
  | .messageMismatch id => s!"The transaction generated is different from proposal {id}"
  | .unsupportedThreshold kind => s!"Unsupported threshold kind '{kind}'"
  | .incomparable source => s!"Message error: {source.message}"

end Countersign
