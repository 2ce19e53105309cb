import RailwayBooking.Redis.Store

namespace RailwayBooking.Redis

inductive IdempotencyState
  | processing
  | processed
  deriving DecidableEq, Repr

structure Leases where
  processingLeaseSeconds : Nat
  processedTtlSeconds : Nat
  deriving DecidableEq

section

variable {K : Type} [DecidableEq K] (l : Leases) (s : Store K IdempotencyState) (now : Nat) (k : K)

def reserveIfNew : Bool × Store K IdempotencyState :=
  s.setNx now k .processing (now + 1000 * l.processingLeaseSeconds)

def markProcessed : Store K IdempotencyState :=
  s.set k .processed (now + 1000 * l.processedTtlSeconds)

/-- Only a key that is still `PROCESSING` is deleted. -/
def release : Store K IdempotencyState :=
  if s.get now k = some .processing then s.del k else s

variable {l s now k} {k' : K}

theorem get_reserveIfNew (h : (reserveIfNew l s now k).2.get now k' = some .processed) :
    s.get now k' = some .processed := by
  unfold reserveIfNew Store.setNx at h
  split at h
  · exact h
  · by_cases hk : k' = k
    · subst hk
      simp at h
    · simpa [hk] using h

theorem get_markProcessed (h : (markProcessed l s now k).get now k' = some .processed) :
    k' = k ∨ s.get now k' = some .processed := by
  by_cases hk : k' = k
  · exact .inl hk
  · exact .inr (by simpa [markProcessed, hk] using h)

theorem get_release (h : (release s now k).get now k' = some .processed) :
    s.get now k' = some .processed := by
  unfold release at h
  split at h
  · by_cases hk : k' = k
    · subst hk
      simp at h
    · simpa [hk] using h
  · exact h

theorem reserveIfNew_refused (h : (reserveIfNew l s now k).1 = false) :
    s.get now k = some .processing ∨ s.get now k = some .processed := by
  unfold reserveIfNew Store.setNx at h
  split at h
  · next v hv =>
    cases v with
    | processing => exact .inl hv
    | processed => exact .inr hv
  · cases h

end

end RailwayBooking.Redis
