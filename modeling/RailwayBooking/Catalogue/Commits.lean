import RailwayBooking.Catalogue.EventLog
import RailwayBooking.Catalogue.Operations

namespace RailwayBooking.Catalogue

open Concurrency

variable {K : Kind}

abbrev CatalogueTx (K : Kind) := Tx (service K)

abbrev CatalogueWorld (K : Kind) := World (service K) (Call K)

section Rows

/-- The row of a record. -/
def rowOf (d : Db K) (k : Id) : Option K.Row := d.rows.find? (fun r => K.id r = k)

/-- The events about a record, in the order in which they were inserted. -/
def eventsOf (d : Db K) (k : Id) : List K.Event := d.outbox.filter (fun e => K.recordId e = k)

variable {d : Db K} {k : Id} {row : K.Row}

theorem rowOf_id (h : rowOf d k = some row) : K.id row = k := by
  simpa using List.find?_some h

theorem rowOf_mem (h : rowOf d k = some row) : row ∈ d.rows := List.mem_of_find?_eq_some h

theorem rowOf_eq_none : rowOf d k = none ↔ ∀ r ∈ d.rows, K.id r ≠ k := by
  simp [rowOf, List.find?_eq_none]

theorem taken_eq_false : taken d row = false ↔
    ∀ r ∈ d.rows, K.id r ≠ K.id row → ∀ c ∈ K.columns r, c ∉ K.columns row := by
  simp [taken]

end Rows

section Histories

/-- A change of a record, and the event that announces it. -/
inductive Change : Option K.Row → K.Row → K.Event → Prop
  | created {eventId : Id} {row : K.Row} {e : K.Event} (h : K.created eventId row = some e) :
      Change none row e
  | updated {eventId : Id} {data : K.Data} {now : Nat} {row : K.Row} {e : K.Event}
      (h : K.updated eventId (K.set data now row) = some e) :
      Change (some row) (K.set data now row) e
  | deactivated {eventId : Id} {now : Nat} {row : K.Row} {e : K.Event}
      (h : K.deactivated eventId (K.set K.inactive now row) = some e) :
      Change (some row) (K.set K.inactive now row) e

/-- The events of a record from its creation on, and its row after them. -/
inductive Recorded : Option K.Row → List K.Event → Prop
  | none : Recorded none []
  | change {old : Option K.Row} {es : List K.Event} (h : Recorded old es) {row : K.Row}
      {e : K.Event} (hc : Change old row e) : Recorded (some row) (es ++ [e])

variable {old : Option K.Row} {row : K.Row} {e : K.Event} {es : List K.Event}

theorem Change.recordId (h : Change old row e) : K.recordId e = K.id row := by
  cases h with
  | created h => exact (K.named_created _ _ _ h).2
  | updated h => exact (K.named_updated _ _ _ h).2
  | deactivated h => exact (K.named_deactivated _ _ _ h).2

theorem Change.found (h : Change old row e) {r : K.Row} (hr : old = some r) : K.id r = K.id row := by
  cases h <;> cases hr <;> simp

theorem Recorded.created (h : Recorded old es) (hne : es ≠ []) :
    ∃ eventId row e, K.created eventId row = some e ∧ es.head? = some e := by
  induction h with
  | none => exact absurd rfl hne
  | @change _ _ h row e hc ih =>
    cases h with
    | none =>
      cases hc with
      | created hcreated => exact ⟨_, row, e, hcreated, rfl⟩
    | change h' hc' =>
      obtain ⟨eventId, row, e, hcreated, hhead⟩ := ih (by simp)
      refine ⟨eventId, row, e, hcreated, ?_⟩
      rw [List.head?_append, hhead]
      rfl

theorem Recorded.row_induction {P : K.Row → Prop}
    (hcreated : ∀ eventId row e, K.created eventId row = some e → P row)
    (hupdated : ∀ eventId row e, K.updated eventId row = some e → P row)
    (hset : ∀ now row, P row → P (K.set K.inactive now row)) (h : Recorded old es) :
    ∀ row, old = some row → P row := by
  induction h with
  | none => rintro row ⟨⟩
  | change h hc ih =>
    rintro _ ⟨rfl⟩
    cases hc with
    | created he => exact hcreated _ _ _ he
    | updated he => exact hupdated _ _ _ he
    | deactivated he => exact hset _ _ (ih _ rfl)

/-- A reader that sees of a row what `document` gives, from the events alone. -/
structure Reads {Doc : Type} (R : Reader K.Event Id Doc) (document : K.Row → Doc) : Prop where
  key : ∀ e, R.key e = K.recordId e
  created : ∀ {eventId row e}, K.created eventId row = some e →
    ∀ d, R.apply e d = some (document row)
  updated : ∀ {eventId row e}, K.updated eventId row = some e →
    ∀ d, R.apply e d = some (document row)
  deactivated : ∀ {eventId now row e}, K.deactivated eventId (K.set K.inactive now row) = some e →
    R.apply e (some (document row)) = some (document (K.set K.inactive now row))

variable {Doc : Type} {R : Reader K.Event Id Doc} {document : K.Row → Doc}

theorem Reads.change (hR : Reads R document) (h : Change old row e) :
    R.apply e (old.map document) = some (document row) := by
  cases h with
  | created h => exact hR.created h none
  | updated h => exact hR.updated h _
  | deactivated h => exact hR.deactivated h

theorem Reads.recorded (hR : Reads R document) (h : Recorded old es) :
    es.foldl (fun d e => R.apply e d) none = old.map document := by
  induction h with
  | none => rfl
  | change h hc ih => rw [List.foldl_concat, ih, hR.change hc, Option.map_some]

theorem Reads.mirrors (hR : Reads R document) {d : Db K}
    (h : ∀ k, Recorded (rowOf d k) (eventsOf d k)) :
    R.Mirrors d.outbox (fun k => (rowOf d k).map document) := by
  intro k
  have habout : R.about k d.outbox = eventsOf d k := by
    simp only [Reader.about, eventsOf, hR.key]
  rw [Reader.replay, habout, hR.recorded (h k)]

end Histories

/-- The id was drawn by call `i`, and no event of the outbox has it. -/
structure Drawn (uuid : Id) (i : Nat) (w : CatalogueWorld K) : Prop where
  drawn : ∃ n < w.env.drawn, uuid = Nat.pair i n
  unused : ∀ e ∈ w.db.outbox, K.eventId e ≠ uuid

def changeWrite : Option K.Row → K.Row → Write K
  | none, row => .created row
  | some old, row => .updated old row

/-- The transactions that the calls commit. -/
inductive Commit (t : CatalogueTx K) (w : CatalogueWorld K) : Prop
  | changed (old : Option K.Row) (row : K.Row) (event : K.Event) (change : Change old row event)
      (found : rowOf w.db (K.id row) = old) (free : taken w.db row = false)
      (drawn : Drawn (K.eventId event) t.owner w)
      (writes : t.writes = [changeWrite old row, .outbox event])
  | kept (writes : t.writes = [])

/-- What the tables and the outbox keep up. -/
structure Inv (w : CatalogueWorld K) : Prop where
  ids : (w.db.rows.map K.id).Nodup
  columns : ∀ r ∈ w.db.rows, ∀ r' ∈ w.db.rows, ∀ c ∈ K.columns r, c ∈ K.columns r' → r = r'
  recorded : ∀ k, Recorded (rowOf w.db k) (eventsOf w.db k)
  events : (w.db.outbox.map K.eventId).Nodup
  drawn : ∀ e ∈ w.db.outbox, ∃ i, ∃ n < w.env.drawn, K.eventId e = Nat.pair i n

end RailwayBooking.Catalogue
