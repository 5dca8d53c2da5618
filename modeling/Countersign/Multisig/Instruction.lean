import Countersign.Oracle.Relay
import Countersign.Message.Basic
import Countersign.Multisig.Dispatch

/-! The contract calls that can be put through a multisig, each with its arguments and checks. -/

namespace Countersign

inductive InstructionError where
  | missingArgument (name : String)
  | invalidInput (text : String)
  | unknown (id : String)
  deriving DecidableEq, Repr

def InstructionError.message : InstructionError → String
  | .missingArgument name => s!"Missing argument: {name}"
  | .invalidInput text => s!"Invalid input: {text}"
  | .unknown id => s!"Unknown instruction: {id}"

structure Arguments where
  positional : List String
  flags : List (String × String)

def Arguments.flag? (a : Arguments) (name : String) : Option String :=
  (a.flags.reverse).lookup name

def addressCharset : List Char :=
  "qpzry9x8gf2tvdw0s3jn54khce6mua7l".toList

/-- Prefix, characters and length of an address; the checksum is left to the chain. -/
def checkAddress (address : String) : Except InstructionError Unit :=
  match address.toList with
  | 't' :: 'e' :: 'r' :: 'r' :: 'a' :: '1' :: data =>
    if 38 ≤ address.utf8ByteSize ∧ address.utf8ByteSize ≤ 64 ∧ data.all (addressCharset.contains ·)
    then .ok ()
    else .error (.invalidInput s!"Invalid address: {address}")
  | _ => .error (.invalidInput s!"Invalid address prefix (expected: 'terra'): {address}")

inductive Instruction where
  | beginProposal
  | proposeContract
  | removeAccess
  deriving DecidableEq, Repr

structure Prepared where
  id : String
  contract : String
  message : Message
  summary : String
  afterExecute : Option AfterExecute

namespace Instruction

def all : List Instruction :=
  [.beginProposal, .proposeContract, .removeAccess]

def target : Instruction → String
  | .beginProposal => "ocr2"
  | .proposeContract => "proxy_ocr2"
  | .removeAccess => "access_controller"

def function : Instruction → String
  | .beginProposal => "begin_proposal"
  | .proposeContract => "propose_contract"
  | .removeAccess => "remove_access"

def id (i : Instruction) : String :=
  i.target ++ ":" ++ i.function

def category : Instruction → String
  | .beginProposal => "OCR"
  | .proposeContract => "Proxies"
  | .removeAccess => "Access Controller"

def examples : Instruction → List String
  | .beginProposal => ["chainquorum multisig ocr2:begin_proposal <CONTRACT_ADDRESS>"]
  | .proposeContract =>
    ["chainquorum multisig proxy_ocr2:propose_contract <PROXY_ADDRESS> <OCR2_ADDRESS>"]
  | .removeAccess =>
    ["chainquorum multisig access_controller:remove_access <AC_ADDRESS> " ++
      "--flag address=<ADDRESS>"]

def find (id : String) : Except InstructionError Instruction :=
  match all.find? (·.id == id) with
  | some i => .ok i
  | none => .error (.unknown id)

def addressOf (address : Option String) : Except InstructionError String :=
  match address with
  | some a => .ok a
  | none => .error (.missingArgument "address")

def parameters (i : Instruction) (args : Arguments) : Except InstructionError Json :=
  match i with
  | .beginProposal => .ok (.object [])
  | .proposeContract => do
    let address ← addressOf ((args.flag? "address").or args.positional.head?)
    match checkAddress address with
    | .ok () => return .object [("address", .text address)]
    | .error _ => throw (.invalidInput "Invalid ocr2 contract address")
  | .removeAccess => do
    let address ← addressOf (args.flag? "address")
    checkAddress address
    return .object [("address", .text address)]

def summary (i : Instruction) (contract : String) (parameters : Json) : String :=
  match i with
  | .removeAccess =>
    let address := ((parameters.get? "address").bind Json.text?).getD ""
    s!"Removing access for {address} on {contract} ({i.id})"
  | i => s!"Executing {i.id} from contract {contract}\nInput Params: {parameters.write}"

def openedProposal (contract : String) : AfterExecute := fun events =>
  (Relay.proposalId? events contract).map fun id => [("proposalId", .text id)]

def prepare (i : Instruction) (args : Arguments) (contract sender : String) :
    Except InstructionError Prepared := do
  let parameters ← i.parameters args
  return {
    id := i.id
    contract
    message := .call sender contract (.object [(i.function, parameters)])
    summary := i.summary contract parameters
    afterExecute := if i = .beginProposal then some (openedProposal contract) else none }

end Instruction
end Countersign
