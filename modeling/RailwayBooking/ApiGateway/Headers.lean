import Mathlib.Data.List.Dedup
import Mathlib.Data.List.Nodup

namespace RailwayBooking.ApiGateway

def lower (s : String) : String := String.ofList (s.toList.map Char.toLower)

/-- What stands under a name in `req.headers`. -/
inductive HeaderValue
  | one (value : String)
  | many (values : List String)
  deriving DecidableEq

namespace HeaderValue

def lines : HeaderValue → List String
  | .one value => [value]
  | .many values => values

/-- A name is in lower case, and `set-cookie` is the one with a list. -/
def Under (key : String) : HeaderValue → Prop
  | .one _ => lower key = key ∧ key ≠ "set-cookie"
  | .many values => key = "set-cookie" ∧ values ≠ []

end HeaderValue

def keptOnce : List String :=
  ["age", "authorization", "content-length", "content-type", "etag", "expires", "from", "host",
    "if-modified-since", "if-unmodified-since", "last-modified", "location", "max-forwards",
    "proxy-authorization", "referer", "retry-after", "server", "user-agent"]

/-- `req.headers`. -/
structure Headers where
  entries : List (String × HeaderValue)
  nodup : (entries.map Prod.fst).Nodup
  under : ∀ e ∈ entries, e.2.Under e.1

abbrev RawHeaders := List (String × String)

section Lookup

variable {K V : Type} [DecidableEq K] {key : K}

theorem lookup_filterMap_keyed (f : K → Option V) (l : List K) :
    (l.filterMap (fun k => (f k).map (fun v => (k, v)))).lookup key =
      if key ∈ l then f key else none := by
  induction l with
  | nil => rfl
  | cons k l ih =>
    by_cases hk : key = k
    · subst hk
      rw [if_pos List.mem_cons_self]
      cases hf : f key with
      | none =>
        rw [List.filterMap_cons_none (by rw [hf]; rfl), ih, hf, ite_self]
      | some v => rw [List.filterMap_cons_some (by rw [hf]; rfl), List.lookup_cons_self]
    · have hmem : key ∈ k :: l ↔ key ∈ l := by simp [hk]
      simp only [hmem]
      rw [← ih]
      cases hf : f k with
      | none => rw [List.filterMap_cons_none (by rw [hf]; rfl)]
      | some v =>
        rw [List.filterMap_cons_some (by rw [hf]; rfl), List.lookup_cons, beq_false_of_ne hk]

omit [DecidableEq K] in
theorem map_fst_filterMap_keyed (f : K → Option V) (l : List K) :
    ((l.filterMap (fun k => (f k).map (fun v => (k, v)))).map Prod.fst).Sublist l := by
  induction l with
  | nil => exact List.Sublist.slnil
  | cons k l ih =>
    cases hf : f k with
    | none =>
      rw [List.filterMap_cons_none (by rw [hf]; rfl)]
      exact ih.cons k
    | some v =>
      rw [List.filterMap_cons_some (by rw [hf]; rfl)]
      exact ih.cons_cons k

theorem lookup_filter_fst (p : K → Bool) (l : List (K × V)) :
    (l.filter (fun e => p e.1)).lookup key = if p key then l.lookup key else none := by
  induction l with
  | nil => simp
  | cons e l ih =>
    obtain ⟨k, v⟩ := e
    by_cases hk : key = k
    · subst hk
      by_cases hp : p key
      · simp [hp]
      · simp [hp, ih]
    · by_cases hp : p k
      · simp [hp, List.lookup_cons, beq_false_of_ne hk, ih]
      · simp [hp, List.lookup_cons, beq_false_of_ne hk, ih]

end Lookup

namespace Headers

section Wire

/-- The values of the lines with a name, in whatever case it is written. -/
def values (raw : RawHeaders) (key : String) : List String :=
  raw.filterMap (fun line => if lower line.1 = key then some line.2 else none)

def merge (key : String) : List String → Option HeaderValue
  | [] => none
  | value :: rest =>
    if key = "set-cookie" then some (.many (value :: rest))
    else if key ∈ keptOnce then some (.one value)
    else some (.one (String.intercalate (if key = "cookie" then "; " else ", ") (value :: rest)))

def names (raw : RawHeaders) : List String := (raw.map (fun line => lower line.1)).dedup

theorem lower_lower (s : String) : lower (lower s) = lower s := by
  have hnot : ∀ c : Char, ¬ (c.toLower.val ≥ 'A'.val ∧ c.toLower.val ≤ 'Z'.val) := by
    intro c
    unfold Char.toLower
    split
    · next h =>
      rintro ⟨-, hle⟩
      have hlow : 65 ≤ c.val.toNat := h.1
      have hhigh : c.val.toNat ≤ 90 := h.2
      have hsum : (c.val + ('a'.val - 'A'.val)).toNat ≤ 90 := hle
      rw [UInt32.toNat_add, show ('a'.val - 'A'.val).toNat = 32 from rfl] at hsum
      omega
    · next h => exact h
  rw [lower, lower, String.toList_ofList, List.map_map]
  congr 2
  funext c
  exact dif_neg (hnot c)

theorem under_of_merge {key : String} {vs : List String} {v : HeaderValue} (hkey : lower key = key)
    (h : merge key vs = some v) : v.Under key := by
  cases vs with
  | nil => cases h
  | cons value rest =>
    unfold merge at h
    dsimp only at h
    split at h
    · next hset =>
      obtain rfl := Option.some.inj h
      exact ⟨hset, List.cons_ne_nil _ _⟩
    · next hset =>
      split at h <;>
      · obtain rfl := Option.some.inj h
        exact ⟨hkey, hset⟩

/-- The headers of a request that comes in. -/
def incoming (raw : RawHeaders) : Headers where
  entries := (names raw).filterMap (fun key => (merge key (values raw key)).map (fun v => (key, v)))
  nodup := (List.nodup_dedup _).sublist (map_fst_filterMap_keyed _ _)
  under e he := by
    obtain ⟨key, hkey, heq⟩ := List.mem_filterMap.mp he
    obtain ⟨v, hv, rfl⟩ := Option.map_eq_some_iff.mp heq
    obtain ⟨line, -, rfl⟩ := List.mem_map.mp (List.mem_dedup.mp hkey)
    exact under_of_merge (lower_lower line.1) hv

def outgoing (h : Headers) : RawHeaders :=
  h.entries.flatMap (fun e => e.2.lines.map (fun line => (e.1, line)))

end Wire

variable (h : Headers)

def get (key : String) : Option HeaderValue := h.entries.lookup key

/-- `delete req.headers[key]`, for some keys. -/
def deleteAll (keys : List String) : Headers where
  entries := h.entries.filter (fun e => !keys.contains e.1)
  nodup := h.nodup.sublist (List.filter_sublist.map _)
  under e he := h.under e (List.mem_filter.mp he).1

/-- `req.headers[key] = value`. -/
def set (key value : String) (hkey : lower key = key ∧ key ≠ "set-cookie") : Headers where
  entries := (h.deleteAll [key]).entries ++ [(key, .one value)]
  nodup := by
    rw [List.map_append, List.nodup_append]
    refine ⟨(h.deleteAll [key]).nodup, List.nodup_singleton _, ?_⟩
    rintro k hk k' hk' rfl
    obtain ⟨e, he, rfl⟩ := List.mem_map.mp hk
    obtain ⟨-, hne⟩ := List.mem_filter.mp he
    simp at hk' hne
    exact hne hk'
  under e he := by
    obtain he | he := List.mem_append.mp he
    · exact (h.deleteAll [key]).under e he
    · obtain rfl := List.mem_singleton.mp he
      exact hkey

variable {h} {key : String}

@[simp] theorem get_deleteAll {keys : List String} :
    (h.deleteAll keys).get key = if key ∈ keys then none else h.get key := by
  rw [get, deleteAll, lookup_filter_fst (fun k => !keys.contains k)]
  by_cases hkey : key ∈ keys
  · simp [hkey]
  · simp [hkey, get]

@[simp] theorem get_set_same {value : String} (hkey : lower key = key ∧ key ≠ "set-cookie") :
    (h.set key value hkey).get key = some (.one value) := by
  have hnone : (h.deleteAll [key]).entries.lookup key = none := by
    change (h.deleteAll [key]).get key = none
    simp
  rw [get, set, List.lookup_append, hnone]
  simp

@[simp] theorem get_set_ne {key' value : String} {hkey : lower key = key ∧ key ≠ "set-cookie"}
    (hne : key' ≠ key) : (h.set key value hkey).get key' = h.get key' := by
  have hsame : (h.deleteAll [key]).get key' = h.get key' := by simp [hne]
  have hnone : [(key, HeaderValue.one value)].lookup key' = none := by
    simpa [List.lookup_eq_none_iff] using hne
  rw [get, set, List.lookup_append, hnone, Option.or_none]
  exact hsame

theorem get_incoming {raw : RawHeaders} : (incoming raw).get key = merge key (values raw key) := by
  rw [get, incoming, lookup_filterMap_keyed (fun key => merge key (values raw key))]
  split
  · rfl
  · next hnot =>
    have hnil : values raw key = [] := by
      rw [values, List.filterMap_eq_nil_iff]
      intro line hline
      rw [if_neg]
      rintro rfl
      exact hnot (List.mem_dedup.mpr (List.mem_map_of_mem hline))
    rw [hnil]
    rfl

theorem lower_key {e : String × HeaderValue} (he : e ∈ h.entries) : lower e.1 = e.1 := by
  have hunder := h.under e he
  obtain ⟨key, value | values⟩ := e
  · exact hunder.1
  · rw [hunder.1]
    decide

theorem values_flatMap (es : List (String × HeaderValue)) (hlower : ∀ e ∈ es, lower e.1 = e.1)
    (hnodup : (es.map Prod.fst).Nodup) :
    values (es.flatMap (fun e => e.2.lines.map (fun line => (e.1, line)))) key =
      ((es.lookup key).map HeaderValue.lines).getD [] := by
  induction es with
  | nil => rfl
  | cons e es ih =>
    obtain ⟨k, v⟩ := e
    obtain ⟨hnot, hnodup⟩ := List.nodup_cons.mp hnodup
    have hrest := ih (fun e he => hlower e (List.mem_cons_of_mem _ he)) hnodup
    rw [List.flatMap_cons, values, List.filterMap_append]
    rw [values] at hrest
    rw [hrest, List.filterMap_map]
    have hk : lower k = k := hlower (k, v) List.mem_cons_self
    by_cases hkey : k = key
    · subst hkey
      have hnone : es.lookup k = none := by
        rw [List.lookup_eq_none_iff]
        intro e he
        have hne : k ≠ e.1 := by
          rintro rfl
          exact hnot (List.mem_map.mpr ⟨e, he, rfl⟩)
        simpa using hne
      rw [hnone, List.lookup_cons_self]
      simp [hk]
    · rw [List.lookup_cons, beq_false_of_ne (Ne.symm hkey)]
      simp [hk, hkey]

theorem get_incoming_outgoing : (incoming h.outgoing).get key = h.get key := by
  rw [get_incoming, outgoing, values_flatMap h.entries (fun _ he => lower_key he) h.nodup]
  cases hget : h.get key with
  | none =>
    rw [get] at hget
    rw [hget]
    rfl
  | some v =>
    rw [get] at hget
    rw [hget]
    obtain ⟨before, after, heq, -⟩ := List.lookup_eq_some_iff.mp hget
    have hmem : (key, v) ∈ h.entries := heq ▸ List.mem_append_right _ List.mem_cons_self
    have hunder := h.under _ hmem
    cases v with
    | one value =>
      obtain ⟨-, hset⟩ := hunder
      simp [HeaderValue.lines, merge, hset]
    | many values =>
      obtain ⟨rfl, hne⟩ := hunder
      obtain ⟨value, rest, rfl⟩ := List.exists_cons_of_ne_nil hne
      rfl

end Headers

end RailwayBooking.ApiGateway
