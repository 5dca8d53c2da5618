import Countersign.Node.Dialogue

/-! Listings that a contract gives page by page, each page after the last key of the one before. -/

namespace Countersign

structure Listing (α : Type) where
  contract : String
  question : Option String → Json
  readPage? : Json → Option (List α)
  key : α → String
  fullPage : Nat

namespace Listing

variable {α : Type}

def pageQuery (kind : String) (body : List (String × Json)) (size : UInt32)
    (cursor : Option String) : Json :=
  .ofEntries [(kind, .ofEntries <|
    body ++ [("limit", .ofNat size.toNat)] ++
      (cursor.map fun key => ("start_after", Json.text key)).toList)]

/-- Whether a page asked for after `cursor` is the last one. A cursor handed back ends the listing. -/
def isLast (l : Listing α) (cursor : Option String) (page : List α) : Bool :=
  page.length < l.fullPage || page.isEmpty || page.getLast?.map l.key == cursor

/-- The entries after `cursor`, of at most this many pages. -/
def after (l : Listing α) : (pages : Nat) → Option String → Dialogue QueryError (List α)
  | 0, _ => .stalled
  | pages + 1, cursor => do
    let page ← Dialogue.ask l.contract (l.question cursor) l.readPage?
    if l.isLast cursor page then return page
    else return page ++ (← l.after pages (page.getLast?.map l.key))

def all (l : Listing α) (pages : Nat) : Dialogue QueryError (List α) :=
  l.after pages none

end Listing
end Countersign
