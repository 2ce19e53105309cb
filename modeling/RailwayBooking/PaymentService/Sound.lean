import RailwayBooking.PaymentService.Facts

namespace RailwayBooking.PaymentService

open Concurrency

variable {i : Nat} {c : Call} {h : Nat} {t : PaymentTx} {ts : Stack paymentService}
  {w : PaymentWorld} (F : PaymentWorld → Prop)

/-- What is known of the committed state, and survives the other calls, while
transaction `t` is open. -/
abbrev Held (i : Nat) (t : PaymentTx) (ts : Stack paymentService) (F : PaymentWorld → Prop) :
    Prop :=
  Stable discipline i (t.locks ++ ts.locks) F

abbrev OkIn (i : Nat) (c : Call) {α : Type} (Q : α → Stack paymentService → PaymentWorld → Prop)
    (h : Nat) (ts : Stack paymentService) (p : PaymentCode α) (t : PaymentTx) (w : PaymentWorld) :
    Prop :=
  Ok discipline i c Q (Inside discipline h ts) p ((h, t) :: ts) w

/-- Code that leaves the open transactions as they were, and `F` true. -/
abbrev OkOut (i : Nat) (c : Call) {α : Type} (F : PaymentWorld → Prop)
    (ts : Stack paymentService) (p : PaymentCode α) (w : PaymentWorld) : Prop :=
  Ok discipline i c (fun _ ts' w => ts' = ts ∧ F w) (Outside discipline ts) p ts w

abbrev OkBody (i : Nat) (c : Call) {α : Type} (h : Nat) (ts : Stack paymentService)
    (p : PaymentCode α) (t : PaymentTx) (w : PaymentWorld) : Prop :=
  OkIn i c (Commits discipline i c h ts fun _ ts' _ => ts' = ts ∧ True) h ts p t w

theorem ok_aux {a : Aux} :
    OkOut i c (fun _ => True) ts (Code.aux (V := paymentService) a) w :=
  Ok.aux_any lawful lasting_true trivial fun _ _ => trivial

section Within

variable (hs : Held i t ts F) (hF : F w)

include hs hF

theorem ok_randomUUID {Q : Uuid → Stack paymentService → PaymentWorld → Prop}
    (hq : ∀ w' uuid, Inv w' → F w' → Drawn uuid i w' → Q uuid ((h, t) :: ts) w') :
    OkIn i c Q h ts randomUUID t w := by
  refine Ok.aux F hs hF (fun _ _ => trivial) fun w' hi _ hf _ ch r e he => ?_
  have hd : discipline.drift w' e := lawful.ask _ _ c _ _ _ _ trivial he
  have hf' := hs.drift w' e hd hf
  have hi' := lasting_inv.drift w' e hd hi
  cases he
  refine ⟨fun x hx => ?_, fun x hx => by cases hx⟩
  cases hx
  exact hq _ _ hi' hf' (drawn_fresh hi rfl)

theorem ok_now {Q : Nat → Stack paymentService → PaymentWorld → Prop}
    (hq : ∀ w' n, F w' → Q n ((h, t) :: ts) w') : OkIn i c Q h ts now t w := by
  refine Ok.aux F hs hF (fun _ _ => trivial) fun w' _ _ hf _ ch r e he => ?_
  have hf' := hs.drift w' e (lawful.ask _ _ c _ _ _ _ trivial he) hf
  cases he
  exact ⟨fun x hx => hq _ _ hf', fun x hx => by cases hx⟩

theorem ok_announce {event : Uuid → OutboxEvent}
    (hc : ∀ w uuid, F w → Drawn uuid i w →
      Commit c (t.record (.insertOutbox (event uuid)) () [.outbox (event uuid)] []) w) :
    OkBody i c h ts
      (do
        let eventId ← randomUUID
        insertOutbox (some h) (event eventId)) t w := by
  refine Ok.seq (ok_randomUUID F hs hF fun w₁ uuid _ hf₁ hd => ?_)
  have hstable := hs.and _ (stable_drawn uuid)
  refine Ok.sql lawful _ hstable ⟨hf₁, hd⟩ fun w₂ _ _ hf₂ _ a ws ks hr => ?_
  cases hr
  refine ⟨_, rfl, _, hstable.mono _ ?_, hf₂, fun w₃ _ _ hf₃ _ => ⟨hc w₃ uuid hf₃.1 hf₃.2, rfl, trivial⟩⟩
  intro k hk
  simpa [Tx.rowKeys, Write.keys] using hk

end Within

section CreateOrder

variable {request : CreateOrderRequest} {input : CreateOrderInput}

theorem ok_createOrderTransaction (hv : createOrderRequestSchema request = .ok input)
    (paymentOrderId : Uuid) (razorpayOrderId : Id) :
    OkOut i (.createOrder request) (fun _ => True) ts
      (createOrderTransaction input paymentOrderId razorpayOrderId) w := by
  refine Ok.transaction lawful _ (lasting_true.stable _ i _) trivial fun h w _ _ _ => ?_
  refine Ok.seq (ok_randomUUID _ (lasting_true.stable _ i _) trivial fun w₁ id _ _ _ => ?_)
  refine Ok.seq (ok_now _ (lasting_true.stable _ i _) trivial fun w₂ createdAt _ => ?_)
  refine Ok.seq (Ok.sql lawful _ (lasting_true.stable _ i _) trivial fun w₃ _ _ _ _ a ws ks hr => ?_)
  simp only [paymentService, run] at hr
  split at hr
  · cases hr
  · next habsent =>
    split at hr
    · cases hr
    · next hamount =>
      cases hr
      simp only [Tx.start, Tx.view, List.foldl_nil, List.any_eq_true, decide_eq_true_eq, not_exists,
        not_and, Bool.or_eq_true, not_or] at habsent
      have hnew : w₃.db.row id = none := row_eq_none.mpr fun p hp => (habsent p hp).1
      have horder : ∀ p ∈ w₃.db.payments, p.paymentOrderId ≠ paymentOrderId :=
        fun p hp => (habsent p hp).2
      refine ok_announce (fun w => w.db.row id = none ∧
          ∀ p ∈ w.db.payments, p.paymentOrderId ≠ paymentOrderId)
        ((stable_row _ none ?_).and _ (stable_order ?_)) ⟨hnew, horder⟩ fun w₄ uuid hf hd => ?_
      · simp [Tx.rowKeys, Write.keys, newPayment]
      · simp [Tx.rowKeys, Write.keys, newPayment]
      · exact .ordered rfl hv hf.1 hf.2 ((Tx.answered_record _ _ _ _ _).record _ _ _ _)
          (not_le.mp hamount) hd rfl

theorem ok_createOrder (hv : createOrderRequestSchema request = .ok input) :
    OkOut i (.createOrder request) (fun _ => True) ts (createOrder input) w := by
  refine Ok.seq (Ok.read lawful _ (lasting_true.stable _ i _) trivial
    (fun d a ws ks hr => by cases hr; rfl) fun w₁ _ _ _ _ existing _ _ _ => ?_)
  refine Ok.bind ?_ ok_aux
  rintro key ts' w₂ ⟨rfl, -⟩
  dsimp only
  split
  · exact ⟨rfl, trivial⟩
  · refine Ok.bind ?_ ok_aux
    rintro paymentOrderId ts₁ w₃ ⟨rfl, -⟩
    refine Ok.bind ?_ ok_aux
    rintro razorpayOrderId ts₂ w₄ ⟨rfl, -⟩
    refine Ok.bind ?_ (ok_createOrderTransaction hv paymentOrderId razorpayOrderId)
    exact fun _ _ _ hq => hq

end CreateOrder

section Capture

variable {input : VerifyPaymentInput} {read : Payment}

theorem filter_open (hi : Inv w) {row : Payment} (hrow : w.db.row read.id = some row)
    (hsame : read.Same row) :
    w.db.payments.filter (fun p => p.paymentOrderId = read.paymentOrderId && p.isOpen) =
      if row.isOpen then [row] else [] := by
  obtain ⟨hmem, -⟩ := mem_of_row hrow
  have hall := filter_eq_singleton hi.orders hmem
  rw [hsame.paymentOrderId] at hall
  rw [← List.filter_filter, List.filter_comm, hall]
  by_cases ho : row.isOpen = true <;> simp [ho]

theorem run_captureOpen (hi : Inv w) {row : Payment} (hrow : w.db.row read.id = some row)
    (hsame : read.Same row) {params : CapturePaymentParams}
    (hp : params.paymentOrderId = read.paymentOrderId) : run (.captureOpen params) w.db =
      .ok (if row.isOpen then (1, [.put (row.captured params)], []) else (0, [], [])) := by
  simp only [run, hp, filter_open hi hrow hsame]
  by_cases ho : row.isOpen = true <;> simp [ho]

theorem ok_captured (hs : Held i t ts F) (hF : F w)
    (hc : ∀ (w : PaymentWorld) (uuid : Uuid) (found : Option Payment), F w → Drawn uuid i w →
      Commit c ((t.record (.findByPaymentOrderId read.paymentOrderId) found [] []).record
        (.insertOutbox (.paymentSuccess read.id (successEvent input read uuid))) ()
        [.outbox (.paymentSuccess read.id (successEvent input read uuid))] []) w) :
    OkBody i c h ts
      (do
        let updated ← findByPaymentOrderId (some h) read.paymentOrderId
        match updated with
        | none => raise (.api 500 .internalError "Failed to update payment status.")
        | some _ => do
          let eventId ← randomUUID
          insertOutbox (some h) (.paymentSuccess read.id (successEvent input read eventId))) t w := by
  refine Ok.seq (Ok.sql lawful F hs hF fun w₁ _ _ hf₁ _ found ws ks hr => ?_)
  cases hr
  cases hfound : (t.view w₁.db).payments.find?
      (fun p => p.paymentOrderId = read.paymentOrderId) with
  | none => exact ⟨trivial, _, rfl⟩
  | some _ =>
    refine ok_announce F (hs.mono _ ?_) hf₁ fun w₂ uuid hf₂ hd => hc w₂ uuid _ hf₂ hd
    intro k hk
    simpa [Tx.rowKeys] using hk

theorem ok_captureTransaction (hw : Seen read w) :
    OkOut i c (fun _ => True) ts (captureTransaction input read) w := by
  refine Ok.transaction lawful _ ((lasting_seen read).stable _ i _) hw fun h w₁ _ _ hseen => ?_
  rw [updateStatusToCaptured, Program.bind_eq, Program.bind_eq, Program.handle_assoc]
  refine Ok.seq (Ok.sql lawful _ ((lasting_seen read).stable _ i _) hseen
    fun w₂ hi _ hseen₂ _ a ws ks hr => ?_)
  obtain ⟨row, hrow, hsame⟩ := hseen₂
  have hid := (mem_of_row hrow).2
  have hrun : run (.captureOpen (input.params read)) w₂.db = .ok (a, ws, ks) := hr
  rw [run_captureOpen hi hrow hsame rfl] at hrun
  cases hopen : row.isOpen with
  | true =>
    rw [if_pos hopen] at hrun
    cases hrun
    refine ok_captured _ (stable_row read.id (some row) ?_) hrow
      fun w₃ uuid found hrow₃ hd => ?_
    · simp [Tx.rowKeys, Write.keys, Payment.captured, hid]
    · refine .captured rfl hrow₃ hsame hopen
        (((Tx.answered_record _ _ _ _ _).record _ _ _ _).record _ _ _ _) (fun params => ?_) hd rfl
      refine Tx.not_answered_record _ _ _ _ (Tx.not_answered_record _ _ _ _
        (Tx.not_answered_record _ _ _ _ (Tx.not_answered_start _ _ _ _) ?_) ?_) ?_
      · simp
      · simp
      · simp
  | false =>
    rw [if_neg (by simp [hopen])] at hrun
    cases hrun
    refine ok_captured _ (((lasting_seen read).stable _ i _).and _
      ((lasting_closed read.id).stable _ i _)) ⟨⟨row, hrow, hsame⟩, row, hrow, hopen⟩
      fun w₃ uuid found hf₃ hd => ?_
    obtain ⟨⟨row', hrow', hsame'⟩, row'', hrow'', hclosed⟩ := hf₃
    obtain rfl : row' = row'' := Option.some.inj (hrow'.symm.trans hrow'')
    exact .recaptured rfl hrow' hsame' hclosed
      (((Tx.answered_record _ _ _ _ _).record _ _ _ _).record _ _ _ _) hd rfl

theorem ok_findByRazorpayOrderId {razorpayOrderId : Id}
    {Q : Option Payment → Stack paymentService → PaymentWorld → Prop}
    (hq : ∀ w found, (∀ read, found = some read → Seen read w) → Q found ts w) :
    Ok discipline i c Q (Outside discipline ts) (findByRazorpayOrderId none razorpayOrderId) ts w := by
  refine Ok.read lawful _ (lasting_true.stable _ i _) trivial
    (fun d a ws ks hr => by cases hr; rfl) fun w₁ hi _ _ _ found ws ks hr => ?_
  cases hr
  exact hq w₁ _ fun read hread => seen_of_mem hi (List.mem_of_find?_eq_some hread)

theorem ok_verifyAndCapture : OkOut i c (fun _ => True) ts (verifyAndCapture input) w := by
  refine Ok.bind ?_ ok_aux
  rintro valid ts' w₁ ⟨rfl, -⟩
  cases valid with
  | false => exact ⟨trivial, rfl⟩
  | true =>
    refine Ok.seq (ok_findByRazorpayOrderId fun w₂ found hseen => ?_)
    cases found with
    | none => exact ⟨trivial, rfl⟩
    | some read =>
      dsimp only
      split
      · exact ⟨rfl, trivial⟩
      · refine Ok.bind ?_ (ok_captureTransaction (hseen read rfl))
        exact fun _ _ _ hq => hq

end Capture

section Failure

variable {read : Payment} {reason : String}

theorem ok_failTransaction (hw : Seen read w) :
    OkOut i c (fun _ => True) ts (failTransaction read reason) w := by
  refine Ok.transaction lawful _ ((lasting_seen read).stable _ i _) hw fun h w₁ _ _ hseen => ?_
  refine Ok.seq (Ok.sql lawful _ ((lasting_seen read).stable _ i _) hseen
    fun w₂ _ _ hseen₂ _ a ws ks hr => ?_)
  obtain ⟨row, hrow, hsame⟩ := hseen₂
  have hid := (mem_of_row hrow).2
  have hfind : w₂.db.payments.find? (fun p => p.id = read.id) = some row := hrow
  simp only [paymentService, run, Tx.start, Tx.view, List.foldl_nil, hfind] at hr
  cases hr
  refine ok_announce _ (stable_row read.id (some row) ?_) hrow fun w₃ uuid hrow₃ hd => ?_
  · simp [Tx.rowKeys, Write.keys, Payment.failed, hid]
  · exact .failed rfl hrow₃ hsame ((Tx.answered_record _ _ _ _ _).record _ _ _ _) hd rfl

theorem ok_markAsFailed {razorpayOrderId : Id} {reason : Option String} :
    OkOut i c (fun _ => True) ts (markAsFailed razorpayOrderId reason) w := by
  refine Ok.seq (ok_findByRazorpayOrderId fun w₁ found hseen => ?_)
  cases found with
  | none => exact ⟨rfl, trivial⟩
  | some read =>
    dsimp only
    split
    · exact ⟨rfl, trivial⟩
    · exact ok_failTransaction (hseen read rfl)

end Failure

section Webhook

variable {webhook : WebhookBody} {signature : Id}

theorem ok_captureWebhook : OkOut i c (fun _ => True) ts (captureWebhook webhook signature) w := by
  unfold captureWebhook
  split
  · exact Ok.bind (fun _ _ _ hq => hq) ok_verifyAndCapture
  · exact ⟨rfl, trivial⟩

theorem ok_failWebhook : OkOut i c (fun _ => True) ts (failWebhook webhook) w := by
  unfold failWebhook
  split
  · exact ⟨rfl, trivial⟩
  · split
    · exact ⟨rfl, trivial⟩
    · exact ok_markAsFailed

theorem ok_handleWebhook {rawBody : RawBody} :
    OkOut i c (fun _ => True) ts (handleWebhook rawBody signature) w := by
  refine Ok.bind ?_ ok_aux
  rintro valid ts' w₁ ⟨rfl, -⟩
  cases valid with
  | false => exact ⟨trivial, rfl⟩
  | true =>
    cases hjson : rawBody.json with
    | none => exact ⟨trivial, rfl⟩
    | some parsed =>
      rw [if_neg (by simp)]
      dsimp only
      split
      · refine Ok.bind ?_ ok_captureWebhook
        exact fun _ _ _ hq => hq
      · split
        · refine Ok.bind ?_ ok_failWebhook
          exact fun _ _ _ hq => hq
        · exact ⟨rfl, trivial⟩

end Webhook

theorem sound : discipline.Sound := by
  intro i c w _ _
  have hout : OkOut i c (fun _ => True) [] (machine.body c) w := by
    cases c with
    | createOrder request =>
      simp only [machine, body]
      split
      · exact ⟨trivial, rfl⟩
      · next input hv => exact Ok.bind (fun _ _ _ hq => hq) (ok_createOrder hv)
    | verifyAndCapture input => exact Ok.bind (fun _ _ _ hq => hq) ok_verifyAndCapture
    | markAsFailed razorpayOrderId reason => exact Ok.bind (fun _ _ _ hq => hq) ok_markAsFailed
    | handleWebhook rawBody signature => exact Ok.bind (fun _ _ _ hq => hq) ok_handleWebhook
  exact Ok.mono (fun _ _ _ _ => trivial) (fun _ _ _ _ => trivial) hout

section Reach

variable {S : Scope machine} {s : Settings} {p : Pool machine}

theorem wellFormed_pool (s : Settings) : WellFormed discipline s.pool :=
  wellFormed_init ⟨List.nodup_nil, List.nodup_nil, nofun⟩

/-- What every admitted commit keeps holds in every reachable pool. -/
theorem reachable_keeps (hS : S.Within discipline) (h : Reachable S s.pool p)
    {F : PaymentWorld → Prop} (hF : Keeps discipline S F) (h₀ : F s.pool.world) : F p.world :=
  Reachable.keeps lawful sound hS (wellFormed_pool s) hF h₀ h

end Reach

end RailwayBooking.PaymentService
