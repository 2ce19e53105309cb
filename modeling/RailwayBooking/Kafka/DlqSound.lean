import RailwayBooking.Kafka.DlqWrapper

namespace RailwayBooking.Kafka

open Concurrency

variable {V : Service} {M : Machine V} {D : Discipline M} {K : Consumer V} {E : Type}

/-- The consumer's own operations keep every lasting fact, and the errors that the
discipline admits are all passed on. -/
structure ConsumerSound (D : Discipline M) (K : Consumer V) : Prop where
  raises : ∀ e, D.raises e → K.isNonRetryable e = false
  heartbeat : ∀ i c ts w (F : World V M.Call → Prop), Lasting D F → F w →
    Ok D i c (fun _ ts' w => ts' = ts ∧ F w) (Outside D ts) K.heartbeat ts w
  sendToDlq : ∀ i c ts w (F : World V M.Call → Prop), Lasting D F → F w →
    Ok D i c (fun _ ts' w => ts' = ts ∧ F w) (Outside D ts) K.sendToDlq ts w

variable (hK : ConsumerSound D K) {i : Nat} {c : M.Call} {ts : Stack V} {w : World V M.Call}
  {F : World V M.Call → Prop}

include hK

theorem ok_delivered (hF : Lasting D F) {process : E → Code V Unit} {e : E}
    (h : Ok D i c (fun _ ts' w => ts' = ts ∧ F w) (Outside D ts) (process e) ts w) :
    Ok D i c (fun _ ts' w => ts' = ts ∧ F w) (Outside D ts)
      (createDlqConsumerHandler K process (.event e)) ts w := by
  have hj : Ok D i c (fun _ ts' w => ts' = ts ∧ F w) (Outside D ts)
      (jsonProcessor K process (.event e)) ts w := by
    refine Ok.ensure h ?_ ?_
    · rintro _ ts' w' ⟨rfl, hf⟩
      refine Ok.mono (fun _ _ _ hq => hq) ?_ (hK.heartbeat i c ts' w' F hF hf)
      exact fun _ _ _ hx => hx
    · rintro e' ts' w' ⟨hr, rfl⟩
      refine Ok.mono ?_ (fun _ _ _ hx => hx)
        (hK.heartbeat i c ts' w' (fun _ => True) lasting_true trivial)
      rintro _ ts'' w'' ⟨rfl, -⟩
      exact ⟨hr, rfl⟩
  refine Ok.attempt hj ?_
  rintro e' ts' w' ⟨hr, rfl⟩
  rw [hK.raises e' hr]
  exact ⟨hr, rfl⟩

omit hK

theorem ok_routed
    (hbeat : ∀ w, Ok D i c (fun _ ts' _ => ts' = ts) (fun _ ts' _ => ts' = ts) K.heartbeat ts w)
    (hdlq : ∀ w, Ok D i c (fun _ ts' _ => ts' = ts) (fun _ ts' _ => ts' = ts) K.sendToDlq ts w)
    {process : E → Code V Unit} {m : Message E}
    (h : ∀ e, m = .event e →
      Ok D i c (fun _ ts' _ => ts' = ts) (fun _ ts' _ => ts' = ts) (process e) ts w) :
    Ok D i c (fun _ ts' _ => ts' = ts) (fun _ ts' _ => ts' = ts)
      (createDlqConsumerHandler K process m) ts w := by
  have hb : ∀ ts' w', ts' = ts → Ok D i c (fun _ ts' _ => ts' = ts) (fun _ ts' _ => ts' = ts)
      K.heartbeat ts' w' := by
    rintro _ w' rfl
    exact hbeat w'
  have hj : Ok D i c (fun _ ts' _ => ts' = ts) (fun _ ts' _ => ts' = ts)
      (jsonProcessor K process m) ts w := by
    cases m with
    | tombstone => exact rfl
    | malformed =>
      have hraise : Ok D i c (fun _ ts' _ => ts' = ts) (fun _ ts' _ => ts' = ts)
          (Program.raise K.parseError : Code V Unit) ts w := rfl
      exact Ok.ensure hraise (fun _ ts' w' hq => hb ts' w' hq) (fun _ ts' w' hq => hb ts' w' hq)
    | event e =>
      exact Ok.ensure (h e rfl) (fun _ ts' w' hq => hb ts' w' hq) (fun _ ts' w' hq => hb ts' w' hq)
  refine Ok.attempt hj ?_
  rintro e' ts' w' rfl
  split
  · exact rfl
  · exact hdlq w'

include hK

theorem ok_undelivered {process : E → Code V Unit} {m : Message E} (hm : ∀ e, m ≠ .event e) :
    Ok D i c (fun _ ts' _ => ts' = ts) (fun _ _ _ => True)
      (createDlqConsumerHandler K process m) ts w := by
  refine Ok.mono (fun _ _ _ hq => hq) (fun _ _ _ _ => trivial)
    (ok_routed (fun w' => ?_) (fun w' => ?_) fun e he => absurd he (hm e))
  · exact Ok.mono (fun _ _ _ hq => hq.1) (fun _ _ _ hx => hx.2)
      (hK.heartbeat i c ts w' _ lasting_true trivial)
  · exact Ok.mono (fun _ _ _ hq => hq.1) (fun _ _ _ hx => hx.2)
      (hK.sendToDlq i c ts w' _ lasting_true trivial)

end RailwayBooking.Kafka
