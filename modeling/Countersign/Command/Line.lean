/-!
Words of a command line: switches, options with a value, and positional arguments, in any order. Every
switch is given at most once, and so is every option that is not repeatable.
-/

namespace Countersign.Command

inductive Stop where
  | usage
  | help
  | version
  deriving DecidableEq, Repr

inductive OptionKind where
  | switch
  | value
  | repeatable
  deriving DecidableEq, Repr

structure OptionSpec where
  name : String
  kind : OptionKind := .value
  accepts : String → Bool := fun _ => true

structure Grammar where
  options : List OptionSpec
  limit : Option Nat := some 0

structure Line where
  switches : List String := []
  values : List (String × String) := []
  positional : List String := []
  deriving Repr

namespace Line

def has (l : Line) (name : String) : Bool :=
  l.switches.contains name

def value? (l : Line) (name : String) : Option String :=
  l.values.lookup name

def values? (l : Line) (name : String) : List String :=
  (l.values.filter (·.1 == name)).map Prod.snd

end Line

inductive Word where
  | plain
  | separator
  | short (letters : List Char)
  | long (name : String) (value : Option String)

def Word.of (text : String) : Word :=
  match text.toList with
  | ['-', '-'] => .separator
  | '-' :: '-' :: cs =>
    let value := (cs.dropWhile (· != '=')).tail?
    .long (String.ofList (cs.takeWhile (· != '='))) (value.map String.ofList)
  | '-' :: c :: cs => .short (c :: cs)
  | _ => .plain

namespace Grammar

def addSwitch (name : String) (l : Line) : Except Stop Line :=
  if l.has name then .error .usage else .ok { l with switches := l.switches ++ [name] }

def addValue (o : OptionSpec) (value : String) (l : Line) : Except Stop Line :=
  if (o.kind = .value ∧ (l.value? o.name).isSome) ∨ !o.accepts value then .error .usage
  else .ok { l with values := l.values ++ [(o.name, value)] }

def addPositional (g : Grammar) (l : Line) (value : String) : Except Stop Line :=
  if g.limit.any (· ≤ l.positional.length) then .error .usage
  else .ok { l with positional := l.positional ++ [value] }

def addLetter (l : Line) (letter : Char) : Except Stop Line :=
  match letter with
  | 'v' => addSwitch "verbose" l
  | 'h' => .error .help
  | _ => .error .usage

def common : List OptionSpec :=
  [⟨"verbose", .switch, fun _ => true⟩, ⟨"log-json", .switch, fun _ => true⟩]

def find? (g : Grammar) (name : String) : Option OptionSpec :=
  (g.options ++ common).find? (·.name == name)

/-- A value never looks like an option. -/
def isValue (text : String) : Bool :=
  match Word.of text with
  | .plain => true
  | _ => false

def read (g : Grammar) : List String → Line → Except Stop Line
  | [], l => .ok l
  | word :: rest, l =>
    match Word.of word with
    | .separator => rest.foldlM g.addPositional l
    | .plain => do g.read rest (← g.addPositional l word)
    | .short letters => do g.read rest (← letters.foldlM addLetter l)
    | .long name value =>
      match g.find? name, value, rest with
      | none, none, _ => if name = "help" then .error .help else .error .usage
      | none, some _, _ => .error .usage
      | some o, some value, rest => do
        if o.kind = .switch then throw .usage
        g.read rest (← addValue o value l)
      | some o, none, rest =>
        if o.kind = .switch then do g.read rest (← addSwitch name l)
        else
          match rest with
          | [] => .error .usage
          | value :: rest =>
            if isValue value then do g.read rest (← addValue o value l) else .error .usage

end Grammar
end Countersign.Command
