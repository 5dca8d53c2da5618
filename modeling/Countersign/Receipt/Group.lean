import Countersign.Keyed
import Countersign.Receipt.Basic

/-!
Events grouped by type and their values by key. No value is overwritten: a key that comes again adds
to its list, so lists that a contract emits in parallel can be matched by position.
-/

namespace Countersign

abbrev Attributes := Keyed (List String)

def Event.grouped (e : Event) (attrs : Attributes) : Attributes :=
  e.attributes.foldl (fun attrs a => attrs.push a.key a.value) attrs

/-- Events of one type merged, and each event by itself. -/
structure EventGroup where
  merged : Keyed Attributes
  single : List (String × Attributes)
  deriving DecidableEq, Repr

namespace EventGroup

def empty : EventGroup :=
  ⟨[], []⟩

def push (g : EventGroup) (e : Event) : EventGroup where
  merged := g.merged.alter e.kind [] e.grouped
  single := g.single ++ [(e.kind, e.grouped [])]

def ofEvents (events : List Event) : EventGroup :=
  events.foldl push empty

def occurrences (g : EventGroup) (kind : String) : List Attributes :=
  (g.single.filter (·.1 == kind)).map Prod.snd

def event? (g : EventGroup) (kind : String) : Option Attributes :=
  g.merged.get? kind

def values (g : EventGroup) (kind key : String) : List String :=
  ((g.event? kind).bind (·.get? key)).getD []

def first? (g : EventGroup) (kind key : String) : Option String :=
  (g.values kind key).head?

def contains (g : EventGroup) (kind : String) : Bool :=
  g.merged.contains kind

def kinds (g : EventGroup) : List String :=
  g.merged.keys

def isEmpty (g : EventGroup) : Bool :=
  g.merged.isEmpty

def toOrderedJson (g : EventGroup) : Json :=
  .object (g.merged.map fun (kind, attrs) =>
    (kind, .object (attrs.map fun (key, values) => (key, .list (values.map .text)))))

theorem ofEvents_concat (events : List Event) (e : Event) :
    ofEvents (events ++ [e]) = (ofEvents events).push e := by
  simp [ofEvents]

theorem occurrences_push (g : EventGroup) (e : Event) (kind : String) :
    (g.push e).occurrences kind =
      g.occurrences kind ++ if e.kind = kind then [e.grouped []] else [] := by
  by_cases h : e.kind = kind <;> simp [push, occurrences, h]

end EventGroup

def TxResult.group (r : TxResult) : EventGroup :=
  .ofEvents r.events

end Countersign
