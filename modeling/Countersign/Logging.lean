import Countersign.Record

/-! How much is logged: a level for everything, and levels for single components. -/

namespace Countersign

structure Logging where
  level : String := "info"
  components : List (String × String) := []
  json : Bool := false
  deriving DecidableEq, Repr

namespace Logging

def readLevels? (v : Json) : Option (List (String × String)) := do
  let levels ← (← v.entries?).mapM fun e => e.2.text?.map (e.1, ·)
  return Entries.ofList levels

def read? (v : Json) : Option Logging := do
  let f ← Record.fields? ["level", "components", "json"] v
  return {
    level := ← f.withDefault? "level" Record.text? "info"
    components := ← f.withDefault? "components" readLevels? []
    json := ← f.withDefault? "json" Record.bool? false }

def toJson (l : Logging) : Json :=
  .ofEntries [
    ("level", .text l.level),
    ("components", .object (l.components.map fun (component, level) => (component, .text level))),
    ("json", .bool l.json)]

def withComponent (l : Logging) (component level : String) : Logging :=
  { l with components := Entries.put component level l.components }

def targetOf (component : String) : String :=
  component.map fun c => if c = '-' then '_' else c

def directives (l : Logging) : String :=
  l.level ++ String.join (l.components.map fun (component, level) =>
    "," ++ targetOf component ++ "=" ++ level)

end Logging
end Countersign
