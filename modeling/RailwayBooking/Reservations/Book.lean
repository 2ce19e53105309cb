import Mathlib.Data.List.Basic

namespace RailwayBooking.Reservations

inductive Phase
  | held
  | confirmed
  deriving DecidableEq, Repr

/-- Who has each leg of each resource. -/
abbrev Book (R O : Type) := R → Nat → Option (O × Phase)

/-- The atomic operations of an owner: it takes resources from one leg up to another, makes sure
of what it holds of resources, or gives them back. -/
inductive Op (R O : Type)
  | hold (owner : O) (resources : List R) (start stop : Nat)
  | confirm (owner : O) (resources : List R)
  | release (owner : O) (resources : List R)
  deriving DecidableEq

variable {R O : Type} [DecidableEq R] [DecidableEq O]

section

namespace Book

def empty : Book R O := fun _ _ => none

end Book

namespace Op

def owner : Op R O → O
  | .hold owner _ _ _ | .confirm owner _ | .release owner _ => owner

def Enabled : Op R O → Book R O → Prop
  | .hold _ resources start stop, b => ∀ r ∈ resources, ∀ n, start ≤ n → n < stop → b r n = none
  | .confirm owner resources, b => ∀ r ∈ resources, ∀ n phase, b r n = some (owner, phase) →
      phase = .held
  | .release _ _, _ => True

def apply : Op R O → Book R O → Book R O
  | .hold owner resources start stop, b => fun r n =>
      if r ∈ resources ∧ start ≤ n ∧ n < stop then some (owner, .held) else b r n
  | .confirm owner resources, b => fun r n =>
      if r ∈ resources ∧ (b r n).map Prod.fst = some owner then some (owner, .confirmed) else b r n
  | .release owner resources, b => fun r n =>
      if r ∈ resources ∧ (b r n).map Prod.fst = some owner then none else b r n

end Op

variable (o : O) (b : Book R O)

@[simp] theorem Op.apply_confirm_nil : Op.apply (.confirm o []) b = b := by
  funext r n
  simp [Op.apply]

@[simp] theorem Op.apply_release_nil : Op.apply (.release o []) b = b := by
  funext r n
  simp [Op.apply]

end

/-- The book after operations each of which was enabled. -/
inductive Legal : List (Op R O) → Book R O → Prop
  | nil : Legal [] Book.empty
  | concat {ops : List (Op R O)} {b : Book R O} (h : Legal ops b) {op : Op R O}
      (enabled : op.Enabled b) : Legal (ops ++ [op]) (op.apply b)

variable {ops : List (Op R O)} {b : Book R O} {op : Op R O} {r : R} {n : Nat} {o : O} {phase : Phase}

section Ownership

def Keeps (ops : List (Op R O)) (o : O) (r : R) (n : Nat) : Prop :=
  ∃ before resources start stop after, ops = before ++ .hold o resources start stop :: after ∧
    r ∈ resources ∧ start ≤ n ∧ n < stop ∧
    ∀ resources, r ∈ resources → .release o resources ∉ after

omit [DecidableEq R] [DecidableEq O] in
theorem Keeps.concat (h : Keeps ops o r n)
    (hop : ∀ resources, r ∈ resources → op ≠ .release o resources) : Keeps (ops ++ [op]) o r n := by
  obtain ⟨before, resources, start, stop, after, rfl, hr, hstart, hstop, hlater⟩ := h
  refine ⟨before, resources, start, stop, after ++ [op], by simp, hr, hstart, hstop,
    fun rs hrs hmem => ?_⟩
  obtain hmem | hmem := List.mem_append.mp hmem
  · exact hlater rs hrs hmem
  · exact hop rs hrs (List.mem_singleton.mp hmem).symm

theorem Legal.keeps (h : Legal ops b) (hb : b r n = some (o, phase)) : Keeps ops o r n := by
  induction h generalizing phase with
  | nil => cases hb
  | @concat ops b h op henabled ih =>
    cases op with
    | hold owner resources start stop =>
      by_cases hin : r ∈ resources ∧ start ≤ n ∧ n < stop
      · have hself : Op.apply (.hold owner resources start stop) b r n = some (owner, .held) :=
          if_pos hin
        rw [hself] at hb
        cases hb
        exact ⟨ops, resources, start, stop, [], rfl, hin.1, hin.2.1, hin.2.2, by simp⟩
      · have hsame : Op.apply (.hold owner resources start stop) b r n = b r n := if_neg hin
        exact (ih (hsame ▸ hb)).concat fun _ _ he => by cases he
    | confirm owner resources =>
      by_cases hin : r ∈ resources ∧ (b r n).map Prod.fst = some owner
      · have hself : Op.apply (.confirm owner resources) b r n = some (owner, .confirmed) :=
          if_pos hin
        rw [hself] at hb
        cases hb
        obtain ⟨⟨_, phase'⟩, hb', rfl⟩ := Option.map_eq_some_iff.mp hin.2
        exact (ih hb').concat fun _ _ he => by cases he
      · have hsame : Op.apply (.confirm owner resources) b r n = b r n := if_neg hin
        exact (ih (hsame ▸ hb)).concat fun _ _ he => by cases he
    | release owner resources =>
      by_cases hin : r ∈ resources ∧ (b r n).map Prod.fst = some owner
      · have hself : Op.apply (.release owner resources) b r n = none := if_pos hin
        rw [hself] at hb
        cases hb
      · have hsame : Op.apply (.release owner resources) b r n = b r n := if_neg hin
        have hb' : b r n = some (o, phase) := hsame ▸ hb
        refine (ih hb').concat fun rs hrs he => hin ?_
        cases he
        exact ⟨hrs, by rw [hb']; rfl⟩

theorem Op.Enabled.kept (h : op.Enabled b) (hb : b r n = some (o, phase))
    (hno : ∀ resources, r ∈ resources → op ≠ .release o resources) :
    ∃ phase', op.apply b r n = some (o, phase') := by
  cases op with
  | hold owner resources start stop =>
    have hfree : ¬ (r ∈ resources ∧ start ≤ n ∧ n < stop) := by
      rintro ⟨hr, hstart, hstop⟩
      rw [h r hr n hstart hstop] at hb
      cases hb
    exact ⟨phase, (if_neg hfree).trans hb⟩
  | confirm owner resources =>
    by_cases hin : r ∈ resources ∧ (b r n).map Prod.fst = some owner
    · have howner : o = owner := by
        rw [hb] at hin
        exact Option.some.inj hin.2
      subst howner
      exact ⟨.confirmed, if_pos hin⟩
    · exact ⟨phase, (if_neg hin).trans hb⟩
  | release owner resources =>
    have hout : ¬ (r ∈ resources ∧ (b r n).map Prod.fst = some owner) := by
      rintro ⟨hr, howner⟩
      rw [hb] at howner
      cases howner
      exact hno resources hr rfl
    exact ⟨phase, (if_neg hout).trans hb⟩

theorem Legal.kept (h : Legal ops b) (hk : Keeps ops o r n) : ∃ phase, b r n = some (o, phase) := by
  induction h with
  | nil =>
    obtain ⟨before, resources, start, stop, after, heq, -⟩ := hk
    exact absurd (congrArg List.length heq) (by simp)
  | @concat ops b h op henabled ih =>
    obtain ⟨before, resources, start, stop, after, heq, hr, hstart, hstop, hlater⟩ := hk
    obtain rfl | ⟨after, last, rfl⟩ := after.eq_nil_or_concat
    · obtain ⟨-, hop⟩ := List.append_inj' heq rfl
      cases hop
      exact ⟨.held, if_pos ⟨hr, hstart, hstop⟩⟩
    · rw [List.concat_eq_append] at heq hlater
      rw [← List.cons_append, ← List.append_assoc] at heq
      obtain ⟨rfl, hop⟩ := List.append_inj' heq rfl
      cases hop
      obtain ⟨phase, hb⟩ := ih ⟨before, resources, start, stop, after, rfl, hr, hstart, hstop,
        fun rs hrs hmem => hlater rs hrs (List.mem_append_left _ hmem)⟩
      refine henabled.kept hb fun rs hrs he => hlater rs hrs ?_
      rw [← he]
      exact List.mem_append_right _ (List.mem_singleton_self _)

theorem Legal.owner_iff (h : Legal ops b) : (b r n).map Prod.fst = some o ↔ Keeps ops o r n := by
  rw [Option.map_eq_some_iff]
  constructor
  · rintro ⟨⟨_, phase⟩, hb, rfl⟩
    exact h.keeps hb
  · intro hk
    obtain ⟨phase, hb⟩ := h.kept hk
    exact ⟨(o, phase), hb, rfl⟩

omit [DecidableEq R] [DecidableEq O] in
theorem keeps_filterMap {α : Type} {f : α → Option (Op R O)} {log : List α} :
    Keeps (log.filterMap f) o r n ↔ ∃ before entry after resources start stop,
      log = before ++ entry :: after ∧ f entry = some (.hold o resources start stop) ∧
        r ∈ resources ∧ start ≤ n ∧ n < stop ∧
        ∀ later ∈ after, ∀ resources, r ∈ resources → f later ≠ some (.release o resources) := by
  constructor
  · rintro ⟨before, resources, start, stop, after, heq, hr, hstart, hstop, hlater⟩
    obtain ⟨first, rest, rfl, rfl, hrest⟩ := List.filterMap_eq_append_iff.mp heq
    obtain ⟨skipped, entry, last, rfl, hskipped, hentry, rfl⟩ := List.filterMap_eq_cons_iff.mp hrest
    refine ⟨first ++ skipped, entry, last, resources, start, stop, by simp, hentry, hr, hstart,
      hstop, fun later hmem rs hrs he => hlater rs hrs ?_⟩
    exact List.mem_filterMap.mpr ⟨later, hmem, he⟩
  · rintro ⟨before, entry, after, resources, start, stop, rfl, hentry, hr, hstart, hstop, hlater⟩
    refine ⟨before.filterMap f, resources, start, stop, after.filterMap f, ?_, hr, hstart, hstop,
      fun rs hrs hmem => ?_⟩
    · rw [List.filterMap_append, List.filterMap_cons_some hentry]
    · obtain ⟨later, hmem, he⟩ := List.mem_filterMap.mp hmem
      exact hlater later hmem rs hrs he

end Ownership

end RailwayBooking.Reservations
