/-
Dictionaries that remember the order in which their keys were inserted, as
association lists.
-/
import Mathlib.Data.List.Induction
import Mathlib.Data.List.Nodup

/-- A dictionary: its items in insertion order. -/
abbrev Dict (κ α : Type*) := List (κ × α)

namespace Dict

variable {κ α : Type*} [DecidableEq κ]

/-- The value of a key. -/
def get? (d : Dict κ α) (k : κ) : Option α := (d.find? fun p => p.1 = k).map Prod.snd

/-- Change the value of a key in place; an absent key is first added at the end
with the value `init`. -/
def upsert (d : Dict κ α) (k : κ) (init : α) (f : α → α) : Dict κ α :=
  if d.any fun p => p.1 = k then d.map fun p => if p.1 = k then (p.1, f p.2) else p
  else d ++ [(k, f init)]

/-- Set the value of a key. -/
def set (d : Dict κ α) (k : κ) (v : α) : Dict κ α := d.upsert k v fun _ => v

/-- The dictionary of some items, of which a later one replaces the value of an earlier one. -/
def ofItems (items : List (κ × α)) : Dict κ α :=
  items.foldl (fun d item => d.set item.1 item.2) []

/-- Remove a key, if it is there. -/
def pop (d : Dict κ α) (k : κ) : Dict κ α := d.filter fun p => p.1 ≠ k

variable {d : Dict κ α} {k k' : κ} {v : α}

lemma get?_eq_none : get? d k = none ↔ ∀ p ∈ d, p.1 ≠ k := by
  simp [get?]

lemma get?_append {e : Dict κ α} : get? (d ++ e) k = (get? d k).or (get? e k) := by
  unfold get?
  rw [List.find?_append]
  cases d.find? fun p => p.1 = k <;> rfl

lemma get?_mapValue {g : α → α} :
    get? (d.map fun p => if p.1 = k then (p.1, g p.2) else p) k' =
      if k' = k then (get? d k).map g else get? d k' := by
  have hkey : (fun p : κ × α => decide ((if p.1 = k then (p.1, g p.2) else p).1 = k')) =
      fun p => decide (p.1 = k') := by
    funext p
    split <;> rfl
  unfold get?
  rw [List.find?_map, Function.comp_def, hkey, Option.map_map]
  split
  · next h =>
      subst h
      cases hfind : d.find? fun p => p.1 = k' with
      | none => rfl
      | some p =>
          have hp : p.1 = k' := by simpa using List.find?_some hfind
          simp [hp]
  · next h =>
      cases hfind : d.find? fun p => p.1 = k' with
      | none => rfl
      | some p =>
          have hp : p.1 = k' := by simpa using List.find?_some hfind
          simp [hp, h]

lemma upsert_of_known {init : α} {f : α → α} (h : ∃ p ∈ d, p.1 = k) :
    d.upsert k init f = d.map fun p => if p.1 = k then (p.1, f p.2) else p := by
  obtain ⟨p, hp, hpk⟩ := h
  exact if_pos (List.any_eq_true.2 ⟨p, hp, decide_eq_true hpk⟩)

lemma upsert_of_new {init : α} {f : α → α} (h : ∀ p ∈ d, p.1 ≠ k) :
    d.upsert k init f = d ++ [(k, f init)] := by
  refine if_neg fun hany => ?_
  obtain ⟨p, hp, hpk⟩ := List.any_eq_true.1 hany
  exact h p hp (of_decide_eq_true hpk)

/-- The value of a key that was changed, or of another one. -/
lemma get?_upsert {init : α} {f : α → α} :
    get? (d.upsert k init f) k' =
      if k' = k then some (f ((get? d k).getD init)) else get? d k' := by
  rw [upsert]
  split
  · next h =>
      obtain ⟨p, hp, hpk⟩ := List.any_eq_true.1 h
      have hsome : get? d k ≠ none := fun hnone =>
        get?_eq_none.1 hnone p hp (of_decide_eq_true hpk)
      obtain ⟨v, hv⟩ := Option.ne_none_iff_exists'.1 hsome
      rw [get?_mapValue, hv]
      rfl
  · next h =>
      have hnone : get? d k = none := get?_eq_none.2 fun p hp hpk =>
        h (List.any_eq_true.2 ⟨p, hp, decide_eq_true hpk⟩)
      rw [get?_append]
      split
      · next hk =>
          subst hk
          rw [hnone]
          simp [get?]
      · next hk =>
          simp [get?, Ne.symm hk]

lemma get?_set : get? (d.set k v) k' = if k' = k then some v else get? d k' := by
  rw [set, get?_upsert]

/-- Several keys that are set, each once. -/
lemma get?_foldl_set {items : Dict κ α} (hitems : (items.map Prod.fst).Nodup) :
    get? (items.foldl (fun d item => d.set item.1 item.2) d) k =
      (get? items k).or (get? d k) := by
  induction items generalizing d with
  | nil => rfl
  | cons item items ih =>
      obtain ⟨hnew, hitems⟩ := List.nodup_cons.1 hitems
      rw [List.foldl_cons, ih hitems, get?_set]
      by_cases hk : k = item.1
      · subst hk
        have hnone : get? items item.1 = none := get?_eq_none.2 fun p hp hpk =>
          hnew (List.mem_map.2 ⟨p, hp, hpk⟩)
        rw [hnone, if_pos rfl, get?, List.find?_cons_of_pos (by simp)]
        rfl
      · rw [if_neg hk]
        congr 1
        rw [get?, get?, List.find?_cons_of_neg (by simpa using Ne.symm hk)]

lemma ofItems_concat {items : List (κ × α)} {item : κ × α} :
    ofItems (items ++ [item]) = (ofItems items).set item.1 item.2 := List.foldl_append

/-- The last item of a key has its value. -/
lemma get?_ofItems {items : List (κ × α)} :
    get? (ofItems items) k = (items.filter fun p => p.1 = k).getLast?.map Prod.snd := by
  induction items using List.reverseRecOn with
  | nil => rfl
  | append_singleton items item ih =>
      rw [ofItems_concat, get?_set, List.filter_append, ih]
      by_cases h : k = item.1
      · simp [h]
      · simp [h, Ne.symm h]

lemma get?_ofItems_of_unique {items : List (κ × α)} (h : (k, v) ∈ items)
    (hunique : ∀ v', (k, v') ∈ items → v' = v) : get? (ofItems items) k = some v := by
  have hmem : (k, v) ∈ items.filter fun p => p.1 = k := List.mem_filter.2 ⟨h, by simp⟩
  obtain ⟨⟨k', v'⟩, hlast⟩ := Option.ne_none_iff_exists'.1
    (mt List.getLast?_eq_none_iff.1 (List.ne_nil_of_mem hmem))
  obtain ⟨hmem', hkey⟩ := List.mem_filter.1 (List.mem_of_getLast? hlast)
  obtain rfl : k' = k := of_decide_eq_true hkey
  rw [get?_ofItems, hlast, Option.map_some, hunique v' hmem']

lemma get?_ofItems_eq_none {items : List (κ × α)} (h : ∀ p ∈ items, p.1 ≠ k) :
    get? (ofItems items) k = none := by
  rw [get?_ofItems, List.filter_eq_nil_iff.2 fun p hp => by simpa using h p hp]
  rfl

/-- Items without repeated keys are a dictionary. -/
lemma ofItems_of_nodup {items : List (κ × α)} (h : (items.map Prod.fst).Nodup) :
    ofItems items = items := by
  induction items using List.reverseRecOn with
  | nil => rfl
  | append_singleton items item ih =>
      rw [List.map_append, List.map_singleton, ← List.concat_eq_append] at h
      obtain ⟨hnew, h⟩ := (List.nodup_concat _ _).1 h
      rw [ofItems_concat, ih h, set, upsert_of_new]
      exact fun p hp hkey => hnew (List.mem_map.2 ⟨p, hp, hkey⟩)

/-- The items whose keys satisfy a predicate. -/
lemma get?_filter {p : κ → Bool} :
    get? (d.filter fun item => p item.1) k = if p k then get? d k else none := by
  have hkey : ∀ item ∈ d, item.1 = k → p item.1 = p k := fun item _ h => h ▸ rfl
  split
  · next hp =>
      rw [get?, get?, List.find?_filter]
      congr 2
      funext item
      by_cases h : item.1 = k <;> simp [h, hp]
  · next hp =>
      refine get?_eq_none.2 fun item hitem h => hp ?_
      rw [← hkey item (List.mem_of_mem_filter hitem) h]
      exact (List.mem_filter.1 hitem).2

/-- The values of a dictionary, changed. -/
lemma get?_map {β : Type*} {g : α → β} :
    get? (d.map fun item => (item.1, g item.2)) k = (get? d k).map g := by
  rw [get?, get?, List.find?_map, Option.map_map, Option.map_map]
  rfl

lemma foldl_pop (names : List κ) (d : Dict κ α) :
    names.foldl pop d = d.filter fun p => p.1 ∉ names := by
  induction names generalizing d with
  | nil => simp
  | cons name names ih =>
      rw [List.foldl_cons, ih, pop, List.filter_filter]
      refine List.filter_congr fun p _ => ?_
      simp [Bool.and_comm]

/-! ### Items -/

lemma mem_of_get? (h : get? d k = some v) : (k, v) ∈ d := by
  obtain ⟨p, hfind, rfl⟩ := Option.map_eq_some_iff.1 h
  obtain rfl : p.1 = k := by simpa using List.find?_some hfind
  exact List.mem_of_find?_eq_some hfind

lemma exists_get? (h : (k, v) ∈ d) : ∃ v', get? d k = some v' := by
  refine Option.ne_none_iff_exists'.1 fun hnone => ?_
  exact get?_eq_none.1 hnone _ h rfl

/-- A key whose items have one value. -/
lemma get?_of_unique (h : (k, v) ∈ d) (hunique : ∀ v', (k, v') ∈ d → v' = v) :
    get? d k = some v := by
  obtain ⟨v', hv'⟩ := exists_get? h
  rw [hv', hunique v' (mem_of_get? hv')]

/-- A dictionary with a value for each of some keys. -/
lemma get?_map_of_mem {keys : List κ} {g : κ → α} (hk : k ∈ keys) :
    get? (keys.map fun key => (key, g key)) k = some (g k) := by
  refine get?_of_unique (List.mem_map.2 ⟨k, hk, rfl⟩) fun v' hv' => ?_
  obtain ⟨key, -, hkey⟩ := List.mem_map.1 hv'
  obtain ⟨rfl, rfl⟩ := Prod.mk.inj hkey
  rfl

/-- The items of a dictionary without repeated keys. -/
lemma mem_iff_get? (hd : (d.map Prod.fst).Nodup) : (k, v) ∈ d ↔ get? d k = some v := by
  refine ⟨fun h => get?_of_unique h fun v' h' => ?_, mem_of_get?⟩
  exact congrArg Prod.snd (List.inj_on_of_nodup_map hd h' h rfl)

/-- The order of the items does not matter if no key is repeated. -/
lemma get?_of_perm {d' : Dict κ α} (hd : (d.map Prod.fst).Nodup) (h : d.Perm d') :
    get? d k = get? d' k := by
  have hd' : (d'.map Prod.fst).Nodup := (h.map _).nodup_iff.1 hd
  refine Option.ext fun v => ?_
  rw [← mem_iff_get? hd, ← mem_iff_get? hd', h.mem_iff]

/-- The items after a change: those of the other keys, the changed ones, or a new one. -/
lemma mem_upsert {init : α} {f : α → α} {p : κ × α} : p ∈ d.upsert k init f ↔
    (p ∈ d ∧ p.1 ≠ k) ∨ (∃ q ∈ d, q.1 = k ∧ p = (k, f q.2)) ∨
      ((∀ q ∈ d, q.1 ≠ k) ∧ p = (k, f init)) := by
  rw [upsert]
  split
  · next h =>
    obtain ⟨q, hq, hqk⟩ := List.any_eq_true.1 h
    have hknown : ¬ ∀ q ∈ d, q.1 ≠ k := fun hall => hall q hq (of_decide_eq_true hqk)
    simp only [List.mem_map, hknown, false_and, or_false]
    constructor
    · rintro ⟨q, hq, rfl⟩
      by_cases hqk : q.1 = k
      · exact .inr ⟨q, hq, hqk, by simp [hqk]⟩
      · rw [if_neg hqk]
        exact .inl ⟨hq, hqk⟩
    · rintro (⟨hp, hpk⟩ | ⟨q, hq, hqk, rfl⟩)
      · exact ⟨p, hp, if_neg hpk⟩
      · exact ⟨q, hq, by simp [hqk]⟩
  · next h =>
    have hall : ∀ q ∈ d, q.1 ≠ k := fun q hq hqk =>
      h (List.any_eq_true.2 ⟨q, hq, decide_eq_true hqk⟩)
    rw [List.mem_append, List.mem_singleton]
    constructor
    · rintro (hp | rfl)
      · exact .inl ⟨hp, hall p hp⟩
      · exact .inr (.inr ⟨hall, rfl⟩)
    · rintro (⟨hp, -⟩ | ⟨q, hq, hqk, -⟩ | ⟨-, rfl⟩)
      · exact .inl hp
      · exact absurd hqk (hall q hq)
      · exact .inr rfl

/-- The keys after a change. -/
lemma exists_mem_upsert {init : α} {f : α → α} :
    (∃ p ∈ d.upsert k init f, p.1 = k') ↔ (∃ p ∈ d, p.1 = k') ∨ k' = k := by
  simp only [mem_upsert]
  constructor
  · rintro ⟨p, ⟨hp, -⟩ | ⟨q, -, -, rfl⟩ | ⟨-, rfl⟩, rfl⟩
    · exact .inl ⟨p, hp, rfl⟩
    · exact .inr rfl
    · exact .inr rfl
  · rintro (⟨p, hp, rfl⟩ | rfl)
    · by_cases hpk : p.1 = k
      · exact ⟨(k, f p.2), .inr (.inl ⟨p, hp, hpk, rfl⟩), hpk.symm⟩
      · exact ⟨p, .inl ⟨hp, hpk⟩, rfl⟩
    · by_cases hknown : ∃ q ∈ d, q.1 = k'
      · obtain ⟨q, hq, hqk⟩ := hknown
        exact ⟨(k', f q.2), .inr (.inl ⟨q, hq, hqk, rfl⟩), rfl⟩
      · exact ⟨(k', f init), .inr (.inr ⟨fun q hq hqk => hknown ⟨q, hq, hqk⟩, rfl⟩), rfl⟩

end Dict
