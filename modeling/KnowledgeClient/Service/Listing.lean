import KnowledgeClient.Json.Record

/-!
# Listings

The service answers a request for many records with a listing: the records, and
perhaps how many there are in all.
-/

namespace KnowledgeClient

/-- A listing of records. -/
structure Listing (α : Type) where
  total : Option Int
  results : List α
deriving DecidableEq, Repr

namespace Listing

variable {α : Type}

/-- What has been read of a listing. -/
structure Draft (α : Type) where
  total : Option (Option Int)
  results : Option (List α)

/-- How a listing is read: it needs its results. -/
def schema (item : List Char → Json.Read α) : Json.Schema (Draft α) (Listing α) where
  name := "Listing"
  fields :=
    [{ Content := Option Int
       name := "total"
       required := false
       read := Json.readOptional Json.readInteger
       get? := Draft.total
       set := fun total draft => { draft with total := some total } },
      { Content := List α
        name := "results"
        required := true
        read := Json.readItems item
        get? := Draft.results
        set := fun results draft => { draft with results := some results } }]
  start := ⟨none, none⟩
  finish := fun draft =>
    { total := draft.total.getD none
      results := draft.results.getD [] }

/-- The listing of a JSON text. -/
def read (item : List Char → Json.Read α) (text : String) : Except Json.Fault (Listing α) :=
  Json.readAll (schema item).read text

end Listing

end KnowledgeClient
