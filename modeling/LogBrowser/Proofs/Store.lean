import LogBrowser.Store
import Mathlib.Data.Set.Card
import Mathlib.Data.Finset.Card

/-!
# Sorted stores are finite maps

A `SortedStore` is read as a finite map from keys to records together with a reading direction
(`KeyMap`). Inserting puts a record under its key and hands back the record that was there,
retention restricts the map, and the direction is a flag that nothing but the snapshot reads.
A record under a key that no record holds goes in without replacing anything
(`insertSorted_perm_of_fresh`, `extend_perm_of_fresh`).

The refinement is carried by `SortedStore.Refines`: the records are listed by strictly increasing
key and hold a record under a key exactly when the map does. One lemma per request keeps it
(`Refines.perform`), and a whole run keeps it by induction on the requests
(`Refines.replay`). From it the snapshot is the map's records, once each, ascending or
descending as the direction says, and the store's size is the size of the map's domain.

Keys are compared by a linear order, the laws a total order on keys promises.
-/

namespace LogBrowser

/-- What a caller can ask of a sorted store. -/
inductive StoreRequest (α : Type) where
  | insert (v : α)
  | extend (vs : List α)
  | replaceAll (vs : List α)
  | removeAll
  | retain (keep : α → Bool)
  | toggleDirection

/-- Runs requests from a state, collecting what each request answers. -/
def replay {σ ρ β : Type} (step : σ → ρ → σ × β) : σ → List ρ → σ × List β
  | s, [] => (s, [])
  | s, r :: rs =>
      let t := step s r
      let u := replay step t.1 rs
      (u.1, t.2 :: u.2)

@[simp] theorem replay_nil {σ ρ β : Type} (step : σ → ρ → σ × β) (s : σ) :
    replay step s [] = (s, []) := rfl

theorem replay_cons {σ ρ β : Type} (step : σ → ρ → σ × β) (s : σ) (r : ρ) (rs : List ρ) :
    replay step s (r :: rs) =
      ((replay step (step s r).1 rs).1, (step s r).2 :: (replay step (step s r).1 rs).2) := rfl

/-- A finite map from keys to records, and the direction in which it is read. -/
structure KeyMap (κ α : Type) where
  find : κ → Option α
  ascending : Bool

namespace KeyMap

variable {κ α : Type} [DecidableEq κ]

/-- The map that holds nothing. -/
def empty (ascending : Bool) : KeyMap κ α := ⟨fun _ => none, ascending⟩

/-- Puts `v` under its key; answers what was held there before. -/
def insert (key : α → κ) (m : KeyMap κ α) (v : α) : KeyMap κ α × Option α :=
  ({ m with find := Function.update m.find (key v) (some v) }, m.find (key v))

/-- Puts the records under their keys from left to right, so a later one wins. -/
def extend (key : α → κ) (m : KeyMap κ α) (vs : List α) : KeyMap κ α :=
  vs.foldl (fun m v => (m.insert key v).1) m

/-- Forgets every record. -/
def clear (m : KeyMap κ α) : KeyMap κ α := { m with find := fun _ => none }

/-- Keeps the records that pass a test. -/
def retain (m : KeyMap κ α) (keep : α → Bool) : KeyMap κ α :=
  { m with find := fun k => (m.find k).filter keep }

/-- Answers a request; only an insertion answers something. -/
def perform (key : α → κ) (m : KeyMap κ α) : StoreRequest α → KeyMap κ α × Option α
  | .insert v => m.insert key v
  | .extend vs => (m.extend key vs, none)
  | .replaceAll vs => (m.clear.extend key vs, none)
  | .removeAll => (m.clear, none)
  | .retain keep => (m.retain keep, none)
  | .toggleDirection => ({ m with ascending := !m.ascending }, none)

end KeyMap

namespace SortedStore

variable {κ α : Type}

/-- Answers a request; only an insertion answers something. -/
def perform [Ord κ] (s : SortedStore κ α) : StoreRequest α → SortedStore κ α × Option α
  | .insert v => s.insert v
  | .extend vs => (s.extend vs, none)
  | .replaceAll vs => (s.replaceAll vs, none)
  | .removeAll => (s.removeAll, none)
  | .retain keep => (s.retain keep, none)
  | .toggleDirection => (s.toggleDirection, none)

theorem ascending_extend [Ord κ] (s : SortedStore κ α) (vs : List α) :
    (s.extend vs).ascending = s.ascending := by
  induction vs generalizing s with
  | nil => rfl
  | cons v vs ih => exact ih (s.insert v).1

theorem ascending_replaceAll [Ord κ] (s : SortedStore κ α) (vs : List α) :
    (s.replaceAll vs).ascending = s.ascending :=
  ascending_extend s.removeAll vs

section Order

variable [LinearOrder κ] (key : α → κ)

/-- A list of records holds the map `find`: its keys strictly increase, and it holds `v` with
key `k` exactly when the map holds `v` under `k`. -/
def Lists (l : List α) (find : κ → Option α) : Prop :=
  l.Pairwise (fun a b => key a < key b) ∧ ∀ k v, find k = some v ↔ v ∈ l ∧ key v = k

variable {key}

theorem insertSorted_mem {v w : α} {l : List α} (hl : l.Pairwise (fun a b => key a < key b)) :
    w ∈ (insertSorted key v l).1 ↔ w = v ∨ (w ∈ l ∧ key w ≠ key v) := by
  induction l with
  | nil => simp [insertSorted]
  | cons u us ih =>
      have hu : ∀ x ∈ us, key u < key x := (List.pairwise_cons.1 hl).1
      cases hc : compare (key v) (key u) with
      | lt =>
          have hlt : key v < key u := compare_lt_iff_lt.1 hc
          simp only [insertSorted, hc, List.mem_cons]
          constructor
          · rintro (rfl | rfl | hw)
            · exact .inl rfl
            · exact .inr ⟨.inl rfl, ne_of_gt hlt⟩
            · exact .inr ⟨.inr hw, ne_of_gt (hlt.trans (hu w hw))⟩
          · rintro (rfl | ⟨hw, -⟩)
            · exact .inl rfl
            · exact .inr hw
      | eq =>
          have heq : key v = key u := compare_eq_iff_eq.1 hc
          simp only [insertSorted, hc, List.mem_cons]
          constructor
          · rintro (rfl | hw)
            · exact .inl rfl
            · exact .inr ⟨.inr hw, ne_of_gt (heq ▸ hu w hw)⟩
          · rintro (rfl | ⟨rfl | hw, hne⟩)
            · exact .inl rfl
            · exact absurd heq.symm hne
            · exact .inr hw
      | gt =>
          have hgt : key u < key v := compare_gt_iff_gt.1 hc
          simp only [insertSorted, hc, List.mem_cons, ih (List.pairwise_cons.1 hl).2]
          constructor
          · rintro (rfl | rfl | ⟨hw, hne⟩)
            · exact .inr ⟨.inl rfl, ne_of_lt hgt⟩
            · exact .inl rfl
            · exact .inr ⟨.inr hw, hne⟩
          · rintro (rfl | ⟨rfl | hw, hne⟩)
            · exact .inr (.inl rfl)
            · exact .inl rfl
            · exact .inr (.inr ⟨hw, hne⟩)

theorem insertSorted_sorted {v : α} {l : List α} (hl : l.Pairwise (fun a b => key a < key b)) :
    (insertSorted key v l).1.Pairwise (fun a b => key a < key b) := by
  induction l with
  | nil => simp [insertSorted]
  | cons u us ih =>
      have hu : ∀ x ∈ us, key u < key x := (List.pairwise_cons.1 hl).1
      have hus := (List.pairwise_cons.1 hl).2
      cases hc : compare (key v) (key u) with
      | lt =>
          have hlt : key v < key u := compare_lt_iff_lt.1 hc
          simp only [insertSorted, hc]
          refine List.pairwise_cons.2 ⟨?_, hl⟩
          intro x hx
          rcases List.mem_cons.1 hx with rfl | hx
          · exact hlt
          · exact hlt.trans (hu x hx)
      | eq =>
          have heq : key v = key u := compare_eq_iff_eq.1 hc
          simp only [insertSorted, hc]
          exact List.pairwise_cons.2 ⟨fun x hx => heq ▸ hu x hx, hus⟩
      | gt =>
          have hgt : key u < key v := compare_gt_iff_gt.1 hc
          simp only [insertSorted, hc]
          refine List.pairwise_cons.2 ⟨?_, ih hus⟩
          intro x hx
          rcases (insertSorted_mem hus).1 hx with rfl | ⟨hx, -⟩
          · exact hgt
          · exact hu x hx

/-- The record that an insertion hands back is the one held under the inserted key. -/
theorem insertSorted_replaced {v w : α} {l : List α}
    (hl : l.Pairwise (fun a b => key a < key b)) :
    (insertSorted key v l).2 = some w ↔ w ∈ l ∧ key w = key v := by
  induction l with
  | nil => simp [insertSorted]
  | cons u us ih =>
      have hu : ∀ x ∈ us, key u < key x := (List.pairwise_cons.1 hl).1
      cases hc : compare (key v) (key u) with
      | lt =>
          have hlt : key v < key u := compare_lt_iff_lt.1 hc
          simp only [insertSorted, hc, List.mem_cons, reduceCtorEq, false_iff, not_and]
          rintro (rfl | hw) hkey
          · exact absurd hkey (ne_of_gt hlt)
          · exact absurd hkey (ne_of_gt (hlt.trans (hu w hw)))
      | eq =>
          have heq : key v = key u := compare_eq_iff_eq.1 hc
          simp only [insertSorted, hc, List.mem_cons, Option.some.injEq]
          constructor
          · rintro rfl
            exact ⟨.inl rfl, heq.symm⟩
          · rintro ⟨rfl | hw, hkey⟩
            · rfl
            · exact absurd (hkey.trans heq) (ne_of_gt (hu w hw))
      | gt =>
          have hgt : key u < key v := compare_gt_iff_gt.1 hc
          simp only [insertSorted, hc, List.mem_cons, ih (List.pairwise_cons.1 hl).2]
          constructor
          · rintro ⟨hw, hkey⟩
            exact ⟨.inr hw, hkey⟩
          · rintro ⟨rfl | hw, hkey⟩
            · exact absurd hkey (ne_of_lt hgt)
            · exact ⟨hw, hkey⟩

/-- Inserting into a list that holds `find` gives a list that holds `find` updated at the new
record's key, and hands back what `find` held there. -/
theorem Lists.insertSorted [DecidableEq κ] {l : List α} {find : κ → Option α}
    (h : Lists key l find) (v : α) :
    Lists key (insertSorted key v l).1 (Function.update find (key v) (some v)) ∧
      (insertSorted key v l).2 = find (key v) := by
  obtain ⟨hsorted, hfind⟩ := h
  refine ⟨⟨insertSorted_sorted hsorted, fun k w => ?_⟩, ?_⟩
  · rw [insertSorted_mem hsorted]
    by_cases hk : k = key v
    · subst hk
      simp only [Function.update_self, Option.some.injEq]
      constructor
      · rintro rfl
        exact ⟨.inl rfl, rfl⟩
      · rintro ⟨rfl | ⟨-, hne⟩, hkey⟩
        · rfl
        · exact absurd hkey hne
    · rw [Function.update_of_ne hk, hfind]
      constructor
      · rintro ⟨hw, rfl⟩
        exact ⟨.inr ⟨hw, hk⟩, rfl⟩
      · rintro ⟨rfl | ⟨hw, -⟩, hkey⟩
        · exact absurd hkey.symm hk
        · exact ⟨hw, hkey⟩
  · apply Option.ext
    intro w
    rw [insertSorted_replaced hsorted, hfind]

theorem Lists.filter {l : List α} {find : κ → Option α} (h : Lists key l find)
    (keep : α → Bool) : Lists key (l.filter keep) (fun k => (find k).filter keep) := by
  obtain ⟨hsorted, hfind⟩ := h
  refine ⟨hsorted.filter keep, fun k v => ?_⟩
  rw [Option.filter_eq_some_iff, hfind, List.mem_filter]
  constructor
  · rintro ⟨⟨hv, hk⟩, hkeep⟩
    exact ⟨⟨hv, hkeep⟩, hk⟩
  · rintro ⟨⟨hv, hkeep⟩, hk⟩
    exact ⟨⟨hv, hk⟩, hkeep⟩

theorem lists_nil (key : α → κ) : Lists key [] (fun _ => none) := by
  simp [Lists]

/-- A list that holds a map never holds two records of one key. -/
theorem Lists.nodup_map_key {l : List α} {find : κ → Option α} (h : Lists key l find) :
    (l.map key).Nodup :=
  (List.pairwise_map.2 h.1).imp fun hlt => ne_of_lt hlt

/-- A list that holds a map is as long as the map's domain is large. -/
theorem Lists.length_eq_ncard {l : List α} {find : κ → Option α} (h : Lists key l find) :
    l.length = {k | (find k).isSome}.ncard := by
  have hdom : {k | (find k).isSome} = ((l.map key).toFinset : Set κ) := by
    ext k
    simp only [Set.mem_ofPred_eq, Option.isSome_iff_exists, h.2, List.coe_toFinset,
      List.mem_map]
  rw [hdom, Set.ncard_coe_finset, List.toFinset_card_of_nodup h.nodup_map_key, List.length_map]

/-- Inserting a record whose key no record has adds it and replaces nothing. -/
theorem insertSorted_perm_of_fresh {v : α} {l : List α} (hv : ∀ w ∈ l, key w ≠ key v) :
    (insertSorted key v l).1.Perm (v :: l) := by
  induction l with
  | nil => simp [insertSorted]
  | cons u us ih =>
      have hu : key u ≠ key v := hv u List.mem_cons_self
      cases hc : compare (key v) (key u) with
      | lt =>
          simp only [insertSorted, hc]
          exact List.Perm.refl _
      | eq => exact absurd (compare_eq_iff_eq.1 hc).symm hu
      | gt =>
          simp only [insertSorted, hc]
          exact ((ih fun w hw => hv w (List.mem_cons_of_mem u hw)).cons u).trans
            (List.Perm.swap v u us)

/-- Extending a store by records of keys it does not hold, pairwise distinct, adds them all and
keeps the records sorted. -/
theorem extend_perm_of_fresh {s : SortedStore κ α} {vs : List α}
    (hs : s.records.Pairwise fun a b => s.key a < s.key b)
    (hvs : vs.Pairwise fun a b => s.key a ≠ s.key b)
    (hfresh : ∀ v ∈ vs, ∀ w ∈ s.records, s.key w ≠ s.key v) :
    (s.extend vs).records.Perm (s.records ++ vs) ∧
      (s.extend vs).records.Pairwise (fun a b => s.key a < s.key b) ∧ (s.extend vs).key = s.key := by
  induction vs generalizing s with
  | nil => exact ⟨by simp [extend], hs, rfl⟩
  | cons v vs ih =>
      obtain ⟨hv, hvs⟩ := List.pairwise_cons.1 hvs
      -- the first record goes in without replacing, then the rest extend the larger store
      have hperm : (s.insert v).1.records.Perm (v :: s.records) :=
        insertSorted_perm_of_fresh (hfresh v List.mem_cons_self)
      have hsorted : (s.insert v).1.records.Pairwise fun a b => s.key a < s.key b :=
        insertSorted_sorted hs
      have hfresh' : ∀ u ∈ vs, ∀ w ∈ (s.insert v).1.records, s.key w ≠ s.key u := by
        intro u hu w hw
        rcases List.mem_cons.1 (hperm.mem_iff.1 hw) with rfl | hw
        · exact hv u hu
        · exact hfresh u (List.mem_cons_of_mem v hu) w hw
      obtain ⟨hp, hs', hk⟩ := @ih (s.insert v).1 hsorted hvs hfresh'
      refine ⟨hp.trans ?_, hs', hk⟩
      exact (hperm.append_right vs).trans List.perm_middle.symm

/-- A store refines a key map: its records hold the map, in the same direction. -/
structure Refines (s : SortedStore κ α) (m : KeyMap κ α) : Prop where
  lists : Lists s.key s.records m.find
  ascending : s.ascending = m.ascending

variable {s : SortedStore κ α} {m : KeyMap κ α}

theorem refines_empty (key : α → κ) (ascending : Bool) :
    Refines (empty key ascending) (KeyMap.empty ascending) :=
  ⟨lists_nil key, rfl⟩

theorem Refines.insert (h : Refines s m) (v : α) :
    Refines (s.insert v).1 (m.insert s.key v).1 ∧ (s.insert v).2 = (m.insert s.key v).2 := by
  obtain ⟨hlists, hinsert⟩ := h.lists.insertSorted v
  exact ⟨⟨hlists, h.ascending⟩, hinsert⟩

/-- Extending inserts from left to right, and keeps the key. -/
theorem Refines.extend (h : Refines s m) (vs : List α) :
    Refines (s.extend vs) (m.extend s.key vs) ∧ (s.extend vs).key = s.key := by
  induction vs generalizing s m with
  | nil => exact ⟨h, rfl⟩
  | cons v vs ih =>
      have hstep := (h.insert v).1
      obtain ⟨hrest, hkey⟩ := ih hstep
      exact ⟨hrest, hkey⟩

theorem Refines.removeAll (h : Refines s m) : Refines s.removeAll m.clear :=
  ⟨lists_nil s.key, h.ascending⟩

theorem Refines.retain (h : Refines s m) (keep : α → Bool) :
    Refines (s.retain keep) (m.retain keep) :=
  ⟨h.lists.filter keep, h.ascending⟩

theorem Refines.toggleDirection (h : Refines s m) :
    Refines s.toggleDirection { m with ascending := !m.ascending } :=
  ⟨h.lists, by simp [SortedStore.toggleDirection, h.ascending]⟩

/-- One request keeps the refinement, answers what the map answers, and keeps the key. -/
theorem Refines.perform (h : Refines s m) (r : StoreRequest α) :
    Refines (s.perform r).1 (m.perform s.key r).1 ∧ (s.perform r).2 = (m.perform s.key r).2 ∧
      (s.perform r).1.key = s.key := by
  cases r with
  | insert v => exact ⟨(h.insert v).1, (h.insert v).2, rfl⟩
  | extend vs => exact ⟨(h.extend vs).1, rfl, (h.extend vs).2⟩
  | replaceAll vs => exact ⟨(h.removeAll.extend vs).1, rfl, (h.removeAll.extend vs).2⟩
  | removeAll => exact ⟨h.removeAll, rfl, rfl⟩
  | retain keep => exact ⟨h.retain keep, rfl, rfl⟩
  | toggleDirection => exact ⟨h.toggleDirection, rfl, rfl⟩

/-- A run of requests keeps the refinement, and every request answers what the map answers. -/
theorem Refines.replay (h : Refines s m) (rs : List (StoreRequest α)) :
    Refines (replay SortedStore.perform s rs).1 (replay (KeyMap.perform s.key) m rs).1 ∧
      (replay SortedStore.perform s rs).2 = (replay (KeyMap.perform s.key) m rs).2 ∧
      (replay SortedStore.perform s rs).1.key = s.key := by
  induction rs generalizing s m with
  | nil => exact ⟨h, rfl, rfl⟩
  | cons r rs ih =>
      obtain ⟨hstep, hout, hkey⟩ := h.perform r
      obtain ⟨hrun, houts, hkey'⟩ := ih hstep
      rw [hkey] at hrun houts hkey'
      refine ⟨hrun, ?_, hkey'⟩
      simp only [replay_cons, hout, houts]

theorem Refines.mem_snapshot (h : Refines s m) (k : κ) (v : α) :
    m.find k = some v ↔ v ∈ s.snapshot ∧ s.key v = k := by
  rw [h.lists.2 k v]
  unfold snapshot
  split <;> simp

theorem Refines.snapshot_sorted (h : Refines s m) :
    s.snapshot.Pairwise fun a b =>
      if m.ascending then s.key a < s.key b else s.key b < s.key a := by
  unfold snapshot
  rw [← h.ascending]
  cases s.ascending with
  | true => simpa using h.lists.1
  | false => simpa [List.pairwise_reverse] using h.lists.1

theorem Refines.size_eq (h : Refines s m) : s.size = {k | (m.find k).isSome}.ncard :=
  h.lists.length_eq_ncard

theorem Refines.nodup_snapshot_keys (h : Refines s m) : (s.snapshot.map s.key).Nodup := by
  unfold snapshot
  split
  · exact h.lists.nodup_map_key
  · simpa [List.map_reverse] using h.lists.nodup_map_key

end Order

/-- A sorted store is a finite map read in one direction. After any run of insertions,
extensions, replacements, removals, retentions and direction changes from an empty store, every
request has answered what the map answers (an insertion, the record held under its key), and
the snapshot lists the map's records once each, by strictly increasing key when ascending and
strictly decreasing key otherwise, so that toggling the direction reverses it; the store's size
is the size of the map's domain. -/
theorem replay_refines_keyMap [LinearOrder κ] (key : α → κ) (ascending : Bool)
    (rs : List (StoreRequest α)) :
    let run := replay perform (empty key ascending) rs
    let model := replay (KeyMap.perform key) (KeyMap.empty ascending) rs
    run.2 = model.2 ∧ run.1.ascending = model.1.ascending ∧
      run.1.size = {k | (model.1.find k).isSome}.ncard ∧
      (∀ k v, model.1.find k = some v ↔ v ∈ run.1.snapshot ∧ key v = k) ∧
      run.1.snapshot.Pairwise (fun a b =>
        if model.1.ascending then key a < key b else key b < key a) ∧
      (run.1.snapshot.map key).Nodup ∧
      run.1.toggleDirection.snapshot = run.1.snapshot.reverse := by
  intro run model
  obtain ⟨h, hout, hkey⟩ : Refines run.1 model.1 ∧ run.2 = model.2 ∧ run.1.key = key :=
    (refines_empty key ascending).replay rs
  refine ⟨hout, h.ascending, h.size_eq, ?_, ?_, ?_, snapshot_toggleDirection _⟩
  · rw [← hkey]
    exact h.mem_snapshot
  · rw [← hkey]
    exact h.snapshot_sorted
  · rw [← hkey]
    exact h.nodup_snapshot_keys

end SortedStore

end LogBrowser
