import Courier.Shape.Model

/-! Links from one page of a queue listing to its neighbours, and sets of them. -/

namespace Courier

/-- A link: how its target relates to the page, and the target's address. -/
structure Link where
  relation : String
  href : String
  deriving DecidableEq, Repr

namespace Link

/-- By relation, then by address, both by code point. -/
def before (a b : Link) : Bool :=
  decide (a.relation < b.relation) || (a.relation == b.relation && decide (a.href < b.href))

/-- The relation stands under `rel`; the full name counts only where `rel` is absent. -/
def check (v : Json) : Checked Link :=
  (Checked.entries v).bind fun es =>
    let relation : Checked String :=
      match es.get? "rel", es.get? "relation" with
      | none, some x => .under (.field "relation") (checkText x)
      | _, _ => .required es "rel" checkText
    (relation.map Link.mk).and (.required es "href" checkText)

def toJson (l : Link) : Json := .obj [("relation", .str l.relation), ("href", .str l.href)]

instance : Model Link := ⟨"Link", check, toJson⟩

/-- Puts a link into an ordered list, unless it is there. -/
def insert (l : Link) : List Link → List Link
  | [] => [l]
  | m :: ms => if l = m then m :: ms else if l.before m then l :: m :: ms else m :: insert l ms

end Link

/-- A set of links, as its members in order without repetition. -/
structure LinkSet where
  members : List Link
  deriving DecidableEq, Repr

namespace LinkSet

def ofList (ls : List Link) : LinkSet := ⟨ls.foldr Link.insert []⟩

def toList (s : LinkSet) : List Link := s.members

end LinkSet

end Courier
