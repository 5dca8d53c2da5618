import Countersign.Command.Line
import Countersign.Logging
import Countersign.Node.Gateway
import Countersign.Text.Numeral

/-! The commands of the program, read from the words of a command line and from the environment. -/

namespace Countersign

inductive LogSource where
  | file (path : String)
  | inline (raw : String)
  deriving DecidableEq, Repr

structure Target where
  gateway : String
  route : GatewayRoute
  multisig : String
  group : String
  deriving DecidableEq, Repr

/-- What is to be put through a multisig, and for whom. -/
structure Order where
  instruction : String
  contract : String
  arguments : List String
  flags : List String
  signer : String
  proposal : Option UInt64
  json : Bool
  deriving DecidableEq, Repr

inductive Command where
  | decodeLog (source : LogSource) (rounds json : Bool)
  | watch (url contract : String) (count : Option Nat)
  | multisig (order : Order) (target : Target)
  | inspect (proposal : Option UInt64) (signer : Option String) (target : Target)
  | instructions
  deriving DecidableEq, Repr

structure Invocation where
  logging : Logging
  command : Command
  deriving DecidableEq, Repr

namespace Command

def isWord64 (text : String) : Bool :=
  (Text.word64? text.toList).isSome

def route? : String → Option GatewayRoute
  | "terra" => some .terra
  | "cosmwasm" => some .cosmwasm
  | _ => none

/-! ### Grammars -/

def targetOptions : List OptionSpec :=
  [{ name := "lcd" }, { name := "lcd-api", accepts := fun s => (route? s).isSome },
    { name := "multisig" }, { name := "group" }]

def decodeLogGrammar : Grammar where
  options := [{ name := "file" }, { name := "log" }, { name := "rounds", kind := .switch },
    { name := "json", kind := .switch }]

def watchGrammar : Grammar where
  options := [{ name := "ws" }, { name := "contract" }, { name := "count", accepts := isWord64 }]

def multisigGrammar : Grammar where
  options := [{ name := "flag", kind := .repeatable }, { name := "signer" },
    { name := "proposal", accepts := isWord64 }, { name := "json", kind := .switch }] ++ targetOptions
  limit := none

def inspectGrammar : Grammar where
  options := [{ name := "proposal", accepts := isWord64 }, { name := "signer" }] ++ targetOptions

def grammar? : String → Option Grammar
  | "decode-log" => some decodeLogGrammar
  | "watch" => some watchGrammar
  | "multisig" => some multisigGrammar
  | "inspect" => some inspectGrammar
  | "instructions" => some { options := [] }
  | _ => none

/-! ### Commands -/

def required {α : Type} : Option α → Except Stop α
  | some a => .ok a
  | none => .error .usage

def word64? (l : Line) (name : String) : Option UInt64 :=
  (l.value? name).bind fun s => Text.word64? s.toList

def environmentNames : List String :=
  ["LCD_URL", "CW3_FLEX_MULTISIG", "CW4_GROUP"]

def targetOf (environment : List (String × String)) (l : Line) : Except Stop Target := do
  let option (name stand : String) := required ((l.value? name).or (environment.lookup stand))
  return {
    gateway := ← option "lcd" "LCD_URL"
    route := ((l.value? "lcd-api").bind route?).getD .terra
    multisig := ← option "multisig" "CW3_FLEX_MULTISIG"
    group := ← option "group" "CW4_GROUP" }

def sourceOf (l : Line) : Except Stop LogSource :=
  match l.value? "file", l.value? "log" with
  | some path, none => .ok (.file path)
  | none, some raw => .ok (.inline raw)
  | _, _ => .error .usage

def orderOf (l : Line) : Except Stop Order :=
  match l.positional with
  | instruction :: contract :: arguments => do
    return {
      instruction, contract, arguments
      flags := l.values? "flag"
      signer := ← required (l.value? "signer")
      proposal := word64? l "proposal"
      json := l.has "json" }
  | _ => .error .usage

def ofLine (environment : List (String × String)) (name : String) (l : Line) :
    Except Stop Command :=
  match name with
  | "decode-log" => return .decodeLog (← sourceOf l) (l.has "rounds") (l.has "json")
  | "watch" =>
    return .watch (← required (l.value? "ws")) (← required (l.value? "contract"))
      ((word64? l "count").map UInt64.toNat)
  | "multisig" => return .multisig (← orderOf l) (← targetOf environment l)
  | "inspect" =>
    return .inspect (word64? l "proposal") (l.value? "signer") (← targetOf environment l)
  | "instructions" => .ok .instructions
  | _ => .error .usage

def splitName : List String → Line → Except Stop (Line × String × List String)
  | [], _ => .error .usage
  | word :: rest, l =>
    match Word.of word with
    | .plain => .ok (l, word, rest)
    | .separator => .error .usage
    | .short letters => do
      splitName rest (← letters.foldlM (fun l letter =>
        if letter = 'V' then .error .version else Grammar.addLetter l letter) l)
    | .long "version" none => .error .version
    | .long _ _ => do splitName rest (← Grammar.read { options := [] } [word] l)

def helpOn : List String → Stop
  | [] => .help
  | name :: _ => if name = "help" ∨ (grammar? name).isSome then .help else .usage

def read (environment : List (String × String)) (words : List String) :
    Except Stop Invocation := do
  let (before, name, rest) ← splitName words {}
  if name = "help" then throw (helpOn rest)
  let l ← (← required (grammar? name)).read rest {}
  let command ← ofLine environment name l
  let given (switch : String) := before.has switch || l.has switch
  return {
    logging := {
      level := if given "verbose" then "debug" else "info"
      json := given "log-json" }
    command }

end Command
end Countersign
