import RailwayBooking.Concurrency.History
import RailwayBooking.Kafka.OutboxDelivery

namespace RailwayBooking.Kafka

open Concurrency OutboxPublisherWorker PostgresOutboxRepository

/-- Of two rows of one aggregate and topic, the first was created earlier. -/
def OutboxRow.Origin.Precedes (x y : OutboxRow.Origin) : Prop :=
  x.aggregateType = y.aggregateType ∧ x.aggregateId = y.aggregateId ∧ x.topic = y.topic ∧
    x.createdAt < y.createdAt

instance (x y : OutboxRow.Origin) : Decidable (x.Precedes y) :=
  inferInstanceAs (Decidable (_ ∧ _))

theorem OutboxRow.Origin.Precedes.irrefl (x : OutboxRow.Origin) : ¬ x.Precedes x :=
  fun h => Nat.lt_irrefl _ h.2.2.2

namespace OutboxPublisherWorker

def Poll.unsent : Poll → List OutboxEvent
  | .connecting events => events
  | .sending e rest => e :: rest
  | .marking _ rest | .failing _ _ rest => rest
  | .idle | .claiming => []

theorem Poll.unsent_publishing (events : List OutboxEvent) :
    (Poll.publishing events).unsent = events := by
  cases events <;> rfl

end OutboxPublisherWorker

namespace Outbox

def origins (s : Outbox) : List OutboxRow.Origin := s.rows.map OutboxRow.origin

/-- The broker has accepted a row for the first time only after every row of its
aggregate and topic that was created earlier. -/
def InOrder (s : Outbox) : Prop :=
  ∀ x ∈ s.origins, ∀ y ∈ s.origins, x.Precedes y →
    ∀ before later, s.acceptedIds = before ++ y.id :: later → x.id ∈ before

/-- Rows of one aggregate and topic are inserted in the order of their creation.
A claim takes no row while an earlier one of its aggregate and topic is neither
accepted nor taken with it. A send that the broker does not accept has no later
row of its aggregate and topic behind it in the batch. -/
def orderly (s : Outbox) : Label → Prop
  | .insert id createdAt data =>
      ∀ x ∈ s.origins, ¬ (OutboxRow.create id createdAt s.now data).origin.Precedes x
  | .run i skipped o =>
      (s.polls i = .claiming → o.applies = true → ∀ r ∈ selectPending batchSize skipped s.rows,
        ∀ x ∈ s.origins, x.Precedes r.origin →
          x.id ∈ s.acceptedIds ∨ ∃ r' ∈ selectPending batchSize skipped s.rows, r'.origin = x) ∧
      ∀ e rest, s.polls i = .sending e rest → o.applies = false → e.id ∈ s.acceptedIds ∨
        ∀ x ∈ s.origins, ∀ y ∈ s.origins, x.id = e.id → x.Precedes y →
          y.id ∉ rest.map OutboxEvent.id
  | _ => True

/-- Of a list about to be sent, each event comes after the earlier rows of its
aggregate and topic, unless these have been accepted. -/
def Queued (s : Outbox) (events : List OutboxEvent) : Prop :=
  ∀ pre e post, events = pre ++ e :: post → ∀ x ∈ s.origins, ∀ y ∈ s.origins, y.id = e.id →
    x.Precedes y → x.id ∈ s.acceptedIds ∨ x.id ∈ pre.map OutboxEvent.id

structure Queues (s : Outbox) : Prop where
  accepted : ∀ id ∈ s.acceptedIds, id ∈ s.origins.map (·.id)
  known : ∀ i, ∀ e ∈ (s.polls i).unsent, e.id ∈ s.origins.map (·.id)
  queued : ∀ i, Queued s (s.polls i).unsent
  order : InOrder s

section Queues

variable {s : Outbox}

theorem queued_nil : Queued s [] := by
  intro pre e post he
  exact absurd he.symm (List.append_ne_nil_of_right_ne_nil pre (List.cons_ne_nil e post))

/-- A step that sends nothing and inserts nothing. Its poll drops what it has yet
to send, or none of it. -/
theorem Queues.stay (h : Queues s) {s' : Outbox} (ho : s'.origins = s.origins)
    (ha : s'.acceptedIds = s.acceptedIds)
    (hp : ∀ j, (s'.polls j).unsent = (s.polls j).unsent ∨ (s'.polls j).unsent = []) :
    Queues s' where
  accepted := by
    rw [ho, ha]
    exact h.accepted
  known j e he := by
    rw [ho]
    obtain hj | hj := hp j
    · exact h.known j e (hj ▸ he)
    · rw [hj] at he
      cases he
  queued j := by
    obtain hj | hj := hp j
    · rw [hj]
      intro pre e post he
      rw [ho, ha]
      exact h.queued j pre e post he
    · rw [hj]
      exact queued_nil
  order := by
    unfold InOrder
    rw [ho, ha]
    exact h.order

theorem unsent_setPoll {i : Nat} {p : Poll}
    (hp : p.unsent = (s.polls i).unsent ∨ p.unsent = []) (j : Nat) :
    ((s.setPoll i p).polls j).unsent = (s.polls j).unsent ∨
      ((s.setPoll i p).polls j).unsent = [] := by
  rw [setPoll_polls]
  split
  · next hj => exact hj ▸ hp
  · exact .inl rfl

theorem Queues.setPoll (h : Queues s) {i : Nat} {p : Poll}
    (hp : p.unsent = (s.polls i).unsent ∨ p.unsent = []) : Queues (s.setPoll i p) :=
  h.stay rfl rfl (unsent_setPoll hp)

theorem Queues.rows (h : Queues s) {rows : List OutboxRow}
    (ho : rows.map OutboxRow.origin = s.rows.map OutboxRow.origin) :
    Queues { s with rows := rows } :=
  h.stay ho rfl (fun _ => .inl rfl)

theorem queued_claimed (hn : (s.rows.map OutboxRow.id).Nodup) {skipped : List Uuid}
    (hc : ∀ r ∈ selectPending batchSize skipped s.rows, ∀ x ∈ s.origins, x.Precedes r.origin →
      x.id ∈ s.acceptedIds ∨ ∃ r' ∈ selectPending batchSize skipped s.rows, r'.origin = x) :
    Queued s (claimed batchSize skipped s.rows) := by
  intro pre e post he x hx y hy hye hxy
  obtain ⟨preRows, restRows, hrows, rfl, hrest⟩ := List.map_eq_append_iff.mp he
  obtain ⟨r, postRows, rfl, rfl, rfl⟩ := List.map_eq_cons_iff.mp hrest
  have hr : r ∈ selectPending batchSize skipped s.rows := by
    rw [hrows]
    exact List.mem_append_right _ List.mem_cons_self
  obtain ⟨r', hr', rfl⟩ := List.mem_map.mp hy
  obtain rfl := eq_of_id hn hr' (mem_selectPending hr).1 hye
  obtain ha | ⟨q, hq, rfl⟩ := hc r' hr x hx hxy
  · exact .inl ha
  · apply Or.inr
    rw [hrows] at hq
    have hsorted : (selectPending batchSize skipped s.rows).Pairwise _ := sorted_selectPending
    rw [hrows, List.pairwise_append] at hsorted
    obtain hq | hq := List.mem_append.mp hq
    · rw [List.map_map]
      exact List.mem_map_of_mem (f := OutboxEvent.id ∘ OutboxRow.event) hq
    · obtain rfl | hq := List.mem_cons.mp hq
      · exact absurd hxy (OutboxRow.Origin.Precedes.irrefl _)
      · have hle := (List.pairwise_cons.mp hsorted.2.1).1 q hq
        exact absurd hxy.2.2.2 (Nat.not_lt.mpr hle)

theorem Queues.claimPendingEvents (h : Queues s) (hn : (s.rows.map OutboxRow.id).Nodup) {i : Nat}
    {skipped : List Uuid}
    (hc : ∀ r ∈ selectPending batchSize skipped s.rows, ∀ x ∈ s.origins, x.Precedes r.origin →
      x.id ∈ s.acceptedIds ∨ ∃ r' ∈ selectPending batchSize skipped s.rows, r'.origin = x)
    {p : Poll} (hp : p = .idle ∨ p = .connecting (claimed batchSize skipped s.rows)) :
    Queues ((s.effect i skipped (.claimPendingEvents batchSize)).setPoll i p) := by
  have ho : ((s.effect i skipped (.claimPendingEvents batchSize)).setPoll i p).origins =
      s.origins := claimPendingEvents_origin s.now s.rows batchSize skipped
  have ha : ((s.effect i skipped (.claimPendingEvents batchSize)).setPoll i p).acceptedIds =
      s.acceptedIds := rfl
  constructor
  · rw [ho, ha]
    exact h.accepted
  · intro j e he
    rw [ho]
    rw [setPoll_polls, effect_polls] at he
    split at he
    · obtain rfl | rfl := hp
      · cases he
      · obtain ⟨r, hr, _, rfl⟩ := mem_claimed he
        rw [origins, ← map_id_origin]
        exact List.mem_map_of_mem hr
    · exact h.known j e he
  · intro j pre e post he
    rw [ho, ha]
    rw [setPoll_polls, effect_polls] at he
    split at he
    · obtain rfl | rfl := hp
      · exact queued_nil pre e post he
      · exact queued_claimed hn hc pre e post he
    · exact h.queued j pre e post he
  · unfold InOrder
    rw [ho, ha]
    exact h.order

theorem Queues.send (h : Queues s) {i : Nat} {e : OutboxEvent} {rest : List OutboxEvent}
    (hi : s.polls i = .sending e rest) {skipped : List Uuid} {p : Poll} (hp : p.unsent = rest) :
    Queues ((s.effect i skipped (.send e.id (message e))).setPoll i p) := by
  have hu : (s.polls i).unsent = e :: rest := by rw [hi]; rfl
  have ho : ((s.effect i skipped (.send e.id (message e))).setPoll i p).origins = s.origins := rfl
  have ha : ((s.effect i skipped (.send e.id (message e))).setPoll i p).acceptedIds =
      s.acceptedIds ++ [e.id] := acceptedIds_send e.id (message e)
  constructor
  · intro id hid
    rw [ha] at hid
    rw [ho]
    obtain hid | hid := List.mem_append.mp hid
    · exact h.accepted id hid
    · obtain rfl := List.mem_singleton.mp hid
      exact h.known i e (hu ▸ List.mem_cons_self)
  · intro j e' he'
    rw [ho]
    rw [setPoll_polls, effect_polls] at he'
    split at he'
    · exact h.known i e' (hu ▸ List.mem_cons_of_mem _ (hp ▸ he'))
    · exact h.known j e' he'
  · intro j pre e' post he' x hx y hy hye hxy
    rw [ho] at hx hy
    rw [ha]
    rw [setPoll_polls, effect_polls] at he'
    split at he'
    · rw [hp] at he'
      obtain hm | hm := h.queued i (e :: pre) e' post (by rw [hu, he']; rfl) x hx y hy hye hxy
      · exact .inl (List.mem_append_left _ hm)
      · obtain hm | hm := List.mem_cons.mp hm
        · exact .inl (List.mem_append_right _ (List.mem_singleton.mpr hm))
        · exact .inr hm
    · obtain hm | hm := h.queued j pre e' post he' x hx y hy hye hxy
      · exact .inl (List.mem_append_left _ hm)
      · exact .inr hm
  · intro x hx y hy hxy before later he
    rw [ho] at hx hy
    rw [ha] at he
    obtain ⟨rfl, hid⟩ | ⟨later', he⟩ := append_singleton_cases he
    · obtain hm | hm := h.queued i [] e rest hu x hx y hy hid hxy
      · exact hm
      · cases hm
    · exact h.order x hx y hy hxy before later' he

theorem Queues.unsent (h : Queues s) {i : Nat} {e : OutboxEvent} {rest : List OutboxEvent}
    (hi : s.polls i = .sending e rest)
    (hc : e.id ∈ s.acceptedIds ∨ ∀ x ∈ s.origins, ∀ y ∈ s.origins, x.id = e.id → x.Precedes y →
      y.id ∉ rest.map OutboxEvent.id) (error : String) :
    Queues (s.setPoll i (.failing e error rest)) := by
  have hu : (s.polls i).unsent = e :: rest := by rw [hi]; rfl
  refine ⟨h.accepted, fun j e' he' => ?_, fun j pre e' post he' x hx y hy hye hxy => ?_, h.order⟩
  · rw [setPoll_polls] at he'
    split at he'
    · exact h.known i e' (hu ▸ List.mem_cons_of_mem _ he')
    · exact h.known j e' he'
  · rw [setPoll_polls] at he'
    split at he'
    · obtain hm | hm := h.queued i (e :: pre) e' post (by rw [hu, show rest = _ from he']; rfl)
        x hx y hy hye hxy
      · exact .inl hm
      · obtain hm | hm := List.mem_cons.mp hm
        · obtain hc | hc := hc
          · exact .inl (show x.id ∈ s.acceptedIds from hm ▸ hc)
          · apply absurd _ (hc x hx y hy hm hxy)
            rw [show rest = _ from he', hye]
            exact List.mem_map_of_mem (List.mem_append_right _ List.mem_cons_self)
        · exact .inr hm
    · exact h.queued j pre e' post he' x hx y hy hye hxy

theorem Queues.insert (h : Queues s) {id : Uuid} (hid : id ∉ s.rows.map OutboxRow.id)
    {createdAt : Nat} {data : CreateOutboxEventData}
    (hc : ∀ x ∈ s.origins, ¬ (OutboxRow.create id createdAt s.now data).origin.Precedes x) :
    Queues { s with rows := s.rows ++ [OutboxRow.create id createdAt s.now data] } := by
  have ho : ({ s with rows := s.rows ++ [OutboxRow.create id createdAt s.now data] } :
      Outbox).origins = s.origins ++ [(OutboxRow.create id createdAt s.now data).origin] := by
    simp [origins]
  have hnew : ∀ x ∈ s.origins, x.id ≠ id := by
    intro x hx he
    rw [map_id_origin] at hid
    exact hid (he ▸ List.mem_map_of_mem hx)
  -- of two rows in order, the later one is not the new one
  have hpair : ∀ x ∈ s.origins ++ [(OutboxRow.create id createdAt s.now data).origin],
      ∀ y ∈ s.origins, x.Precedes y → x ∈ s.origins := by
    intro x hx y hy hxy
    obtain hx | hx := List.mem_append.mp hx
    · exact hx
    · rw [List.mem_singleton.mp hx] at hxy
      exact absurd hxy (hc y hy)
  have hold : ∀ i, i ∈ s.origins.map (·.id) → ∀ y ∈ s.origins ++
      [(OutboxRow.create id createdAt s.now data).origin], y.id = i → y ∈ s.origins := by
    intro i hi y hy he
    obtain hy | hy := List.mem_append.mp hy
    · exact hy
    · obtain ⟨z, hz, rfl⟩ := List.mem_map.mp hi
      rw [List.mem_singleton.mp hy] at he
      exact absurd he.symm (hnew z hz)
  constructor
  · intro i hi
    rw [ho, List.map_append]
    exact List.mem_append_left _ (h.accepted i hi)
  · intro j e he
    rw [ho, List.map_append]
    exact List.mem_append_left _ (h.known j e he)
  · intro j pre e post he x hx y hy hye hxy
    rw [ho] at hx hy
    have hm : e ∈ (s.polls j).unsent := by
      rw [show (s.polls j).unsent = _ from he]
      exact List.mem_append_right _ List.mem_cons_self
    have hy := hold e.id (h.known j e hm) y hy hye
    exact h.queued j pre e post he x (hpair x hx y hy hxy) y hy hye hxy
  · intro x hx y hy hxy before later he
    rw [ho] at hx hy
    have hm : y.id ∈ s.acceptedIds := by
      rw [show s.acceptedIds = _ from he]
      exact List.mem_append_right _ List.mem_cons_self
    have hy := hold y.id (h.accepted _ hm) y hy rfl
    exact h.order x (hpair x hx y hy hxy) y hy hxy before later he

end Queues

theorem queues_performs {s s' : Outbox} {i : Nat} {skipped : List Uuid} {o : Outcome}
    (h : Queues s) (hn : (s.rows.map OutboxRow.id).Nodup) (hc : orderly s (.run i skipped o))
    (hp : Performs s i skipped o s') : Queues s' := by
  cases hp with
  | claimed point applies next => exact h.claimPendingEvents hn (hc.1 point applies) next
  | refused point => exact h.setPoll (.inr rfl)
  | connected point next =>
    apply h.setPoll
    rw [point]
    obtain rfl | rfl := next
    · exact .inr rfl
    · exact .inl (Poll.unsent_publishing _)
  | sent point _ next =>
    apply h.send point
    obtain rfl | ⟨error, rfl⟩ := next <;> rfl
  | unsent point => exact h.unsent point (hc.2 _ _ point rfl) _
  | @marked _ e rest p point _ next =>
    apply (h.rows (markPublished_origin s.now s.rows e.id)).setPoll
    show p.unsent = (s.polls i).unsent ∨ p.unsent = []
    rw [point]
    obtain rfl | ⟨error, rfl⟩ := next
    · exact .inl (Poll.unsent_publishing _)
    · exact .inl rfl
  | unmarked point =>
    apply h.setPoll
    rw [point]
    exact .inl rfl
  | @failed _ e error rest point _ =>
    apply (h.rows (markFailed_origin s.now s.rows e.id error e.retryCount)).setPoll
    show (Poll.publishing rest).unsent = (s.polls i).unsent ∨ (Poll.publishing rest).unsent = []
    rw [point]
    exact .inl (Poll.unsent_publishing _)
  | unfailed point =>
    apply h.setPoll
    rw [point]
    exact .inl (Poll.unsent_publishing _)

theorem queues_step {s s' : Outbox} {a : Label} (h : Queues s)
    (hn : (s.rows.map OutboxRow.id).Nodup) (hc : orderly s a) (hs : s.step a = some s') :
    Queues s' := by
  cases a with
  | insert id createdAt data =>
    simp only [step] at hs
    split at hs
    · next hi =>
      cases hs
      exact h.insert hi.2 hc
    · cases hs
  | poll i =>
    simp only [step] at hs
    split at hs
    · cases hs
      exact h.setPoll (.inr rfl)
    · cases hs
  | run i skipped o => exact queues_performs h hn hc (performs hs)
  | requeueFailedEvents =>
    cases hs
    exact h.rows (requeueFailedEvents_origin s.now s.rows)
  | resetStuckProcessingEvents =>
    cases hs
    exact h.rows (resetStuckProcessingEvents_origin s.now s.rows)
  | crash i =>
    cases hs
    exact h.setPoll (.inr rfl)
  | tick d =>
    cases hs
    exact h.stay rfl rfl (fun _ => .inl rfl)

theorem queues_run {now : Nat} {s : Outbox} (h : System.Run system orderly (init now) s) :
    Queues s := by
  apply System.Run.invariant (I := Queues) _ _ h
  · exact ⟨nofun, nofun, fun _ => queued_nil, nofun⟩
  · intro s a s' hr hi hc hs
    exact queues_step hi (inv_run hr).ids hc hs

/-- Events of one aggregate and topic reach the broker in the order of their
creation, as long as none overtakes an earlier one that is still on its way. -/
theorem in_order_of_orderly (now : Nat) {s : Outbox}
    (h : System.Run system orderly (init now) s) : InOrder s :=
  (queues_run h).order

def orderlyGuard (s : Outbox) : Label → Bool
  | .insert id createdAt data =>
      s.origins.all (fun x => !decide ((OutboxRow.create id createdAt s.now data).origin.Precedes x))
  | .run i skipped o =>
      match s.polls i with
      | .claiming => s.origins.all (fun x => s.acceptedIds.contains x.id ||
          (selectPending batchSize skipped s.rows).all (fun r => !decide (x.Precedes r.origin)) ||
            ((selectPending batchSize skipped s.rows).map OutboxRow.origin).contains x)
      | .sending e rest => o.applies || s.acceptedIds.contains e.id || rest.isEmpty
      | _ => true
  | _ => true

theorem orderly_of_guard (s : Outbox) (a : Label) (h : orderlyGuard s a = true) :
    orderly s a := by
  cases a with
  | insert id createdAt data =>
    intro x hx
    simpa using List.all_eq_true.mp h x hx
  | run i skipped o =>
    refine ⟨fun hp _ r hr x hx hxr => ?_, fun e rest hp ho => ?_⟩
    · simp only [orderlyGuard, hp] at h
      have hall := List.all_eq_true.mp h x hx
      rw [Bool.or_eq_true, Bool.or_eq_true] at hall
      obtain (hall | hall) | hall := hall
      · exact .inl (List.contains_iff_mem.mp hall)
      · have hno := List.all_eq_true.mp hall r hr
        simp [hxr] at hno
      · exact .inr (List.mem_map.mp (List.contains_iff_mem.mp hall))
    · simp only [orderlyGuard, hp, ho, Bool.false_or, Bool.or_eq_true, List.contains_iff_mem,
        List.isEmpty_iff] at h
      obtain h | rfl := h
      · exact .inl h
      · exact .inr (fun _ _ _ _ _ _ => List.not_mem_nil)
  | poll | requeueFailedEvents | resetStuckProcessingEvents | crash | tick => trivial

/-- Two events of a booking, the second send lost and made again. -/
theorem in_order_of_orderly_retried : ∃ s, System.Run system orderly (init 0) s ∧
    s.acceptedIds = [⟨0, 0⟩, ⟨0, 1⟩, ⟨0, 1⟩] ∧ InOrder s := by
  obtain ⟨s, h, ht⟩ := System.exists_run (T := system) orderly (init 0) orderlyGuard
    [.insert ⟨0, 0⟩ 0 sampleData, .tick 1, .insert ⟨0, 1⟩ 1 sampleData, .poll 0, .run 0 [] .ok,
      .run 0 [] .ok, .run 0 [] .ok, .run 0 [] .ok, .run 0 [] (.lost "timeout"), .run 0 [] .ok,
      .tick 60000, .requeueFailedEvents, .poll 1, .run 1 [] .ok, .run 1 [] .ok, .run 1 [] .ok]
    (fun s => s.acceptedIds = [⟨0, 0⟩, ⟨0, 1⟩, ⟨0, 1⟩])
    (fun s a _ => orderly_of_guard s a) (by decide)
  exact ⟨s, h, of_decide_eq_true ht, in_order_of_orderly 0 h⟩

def overtaken (s : Outbox) : Bool :=
  s.origins.any (fun x => s.origins.any (fun y => decide (x.Precedes y) &&
    s.acceptedIds.contains y.id && !s.acceptedIds.contains x.id))

theorem not_inOrder_of_overtaken {s : Outbox} (h : overtaken s = true) : ¬ InOrder s := by
  intro ho
  obtain ⟨x, hx, h⟩ := List.any_eq_true.mp h
  obtain ⟨y, hy, h⟩ := List.any_eq_true.mp h
  simp only [Bool.and_eq_true, decide_eq_true_eq, List.contains_iff_mem, Bool.not_eq_true',
    ← Bool.not_eq_true] at h
  obtain ⟨before, later, he⟩ := List.append_of_mem h.1.2
  apply h.2
  rw [he]
  exact List.mem_append_left _ (ho x hx y hy h.1.1 before later he)

/-- The send of the first event fails, and the second goes out while it waits for
its retry. -/
theorem not_in_order : ¬ ∀ s, System.Run system (fun _ _ => True) (init 0) s → InOrder s := by
  intro hall
  obtain ⟨s, h, ht⟩ := System.exists_run (T := system) (fun _ _ => True) (init 0)
    (fun _ _ => true)
    [.insert ⟨0, 0⟩ 0 sampleData, .tick 1, .insert ⟨0, 1⟩ 1 sampleData, .poll 0, .run 0 [] .ok,
      .run 0 [] .ok, .run 0 [] (.fault "broker unavailable"), .run 0 [] .ok, .run 0 [] .ok]
    overtaken (fun _ _ _ _ => trivial) (by decide)
  exact not_inOrder_of_overtaken ht (hall s h)

end Outbox

end RailwayBooking.Kafka
