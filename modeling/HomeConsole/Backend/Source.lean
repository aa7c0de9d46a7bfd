import HomeConsole.Backend.Endpoint
import HomeConsole.Backend.Error
import HomeConsole.Backend.Record

/-!
# Sources of records

A source answers each read of the backend. A catalogue is a source in memory: a list of records, or
one failure for every read.
-/

namespace HomeConsole

/-- What a read gives. -/
abbrev Outcome (α : Type) := Except ReadError α

/-- The answer to a read, of the kind that the read asks for. -/
inductive Answer where
  | list (outcome : Outcome (List Record))
  | one (outcome : Outcome Record)

/-- Something that answers reads, alike every time. -/
structure Source where
  list : Outcome (List Record)
  get : String → Outcome Record

/-- The answer to one read. -/
def Source.answer (source : Source) : Endpoint → Answer
  | .list => .list source.list
  | .one id => .one (source.get id)

/-- The id that a read asks for. -/
def Endpoint.id? : Endpoint → Option String
  | .list => none
  | .one id => some id

/-- Records in memory, or a failure for every read. -/
structure Catalogue where
  records : List Record := []
  failure : Option ReadError := none

namespace Catalogue

/-- The answer about an id that no record has. -/
def notFound : ReadError := .api 404 "module not found"

/-- All records. -/
def list (catalogue : Catalogue) : Outcome (List Record) :=
  match catalogue.failure with
  | some error => .error error
  | none => .ok catalogue.records

/-- The first record with an id. -/
def get (catalogue : Catalogue) (id : String) : Outcome Record :=
  match catalogue.failure with
  | some error => .error error
  | none =>
    match catalogue.records.find? (·.id? == some id) with
    | some record => .ok record
    | none => .error notFound

/-- The catalogue as a source. -/
def source (catalogue : Catalogue) : Source := ⟨catalogue.list, catalogue.get⟩

end Catalogue

end HomeConsole
