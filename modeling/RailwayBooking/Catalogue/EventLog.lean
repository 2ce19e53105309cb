import Mathlib.Data.List.Basic

namespace RailwayBooking.Catalogue

/-- How events about keyed records are read: the record that an event is about, and what the
event makes of its document. -/
structure Reader (Event Key Doc : Type) where
  key : Event → Key
  apply : Event → Option Doc → Option Doc

namespace Reader

variable {Event Key Doc : Type} [DecidableEq Key]

/-- The events about one record, in the order of the log. -/
def about (R : Reader Event Key Doc) (k : Key) (log : List Event) : List Event :=
  log.filter (fun e => R.key e = k)

def replay (R : Reader Event Key Doc) (k : Key) (log : List Event) : Option Doc :=
  (R.about k log).foldl (fun d e => R.apply e d) none

def Mirrors (R : Reader Event Key Doc) (log : List Event) (view : Key → Option Doc) : Prop :=
  ∀ k, R.replay k log = view k

end Reader

end RailwayBooking.Catalogue
