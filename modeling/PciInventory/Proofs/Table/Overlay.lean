import Mathlib.Data.List.Nodup
import PciInventory.Table

/-!
# Tables laid over tables

A table in which no key stands twice is determined by its keys, in their order, and by the value of
each. So what is said of keys and of values says all of a table. Laid over another, a table gives
its values to its keys and leaves the others as they are; where the values are tables themselves,
those are laid over each other in turn. Inserting into the upper table is inserting into what comes
of it.
-/
namespace PciInventory.Table

universe u v
variable {Key : Type u} {Value : Type v} [DecidableEq Key] {s t : Table Key Value}

/-- The rows of a table without repeated keys are the values of its keys. -/
theorem mem_rows_iff (distinct : t.keys.Nodup) {k : Key} {v : Value} :
    (k, v) ∈ t.rows ↔ t.get? k = some v := by
  rw [nodup_keys_iff] at distinct
  simp only [rows, List.mem_reverse, get?]
  generalize t.newestFirst = held at distinct
  induction held with
  | nil => simp
  | cons row rest ih =>
    rw [List.map_cons, List.nodup_cons] at distinct
    by_cases here : row.1 = k
    · have fresh : (k, v) ∉ rest := fun h => distinct.1 (List.mem_map.2 ⟨_, h, here.symm⟩)
      simp [here, fresh, Prod.ext_iff, eq_comm]
    · have other : row ≠ (k, v) := fun same => here (by rw [same])
      rw [List.mem_cons, or_iff_right (Ne.symm other), ih distinct.2, List.find?_cons_of_neg]
      simpa using here

theorem ext_of_get? (distinct : s.keys.Nodup) (keys : s.keys = t.keys)
    (same : ∀ k, s.get? k = t.get? k) : s = t := by
  have row (t : Table Key Value) (distinct : t.keys.Nodup) :
      t.rows = t.keys.filterMap fun k => (t.get? k).map (Prod.mk k) := by
    have each : ∀ row ∈ t.rows, (t.get? row.1).map (Prod.mk row.1) = some row := by
      intro row h
      rw [(mem_rows_iff distinct).1 h]
      rfl
    rw [Table.keys, List.filterMap_map]
    exact (List.filterMap_congr each).trans (List.filterMap_some) |>.symm
  have rows : s.rows = t.rows := by
    rw [row s distinct, row t (keys ▸ distinct), keys]
    simp only [same]
  have held := List.reverse_injective rows
  cases s
  cases t
  exact congrArg Table.mk held

theorem keys_insert (t : Table Key Value) (k : Key) (v : Value) :
    (t.insert k v).keys = if k ∈ t.keys then t.keys else t.keys ++ [k] := by
  by_cases old : k ∈ t.keys
  · rw [if_pos old, insert, if_pos ((get?_isSome_iff t k).2 old)]
    simp only [keys, rows, List.map_reverse, map_replaceRow]
  · rw [if_neg old, keys, rows_insert old, List.map_append]
    rfl

theorem keys_insert_congr (h : s.keys = t.keys) (k : Key) (v v' : Value) :
    (s.insert k v).keys = (t.insert k v').keys := by
  rw [keys_insert, keys_insert, h]

/-- A table with the rows of another put in, each with the value that `join` makes of the value
before and of its own. -/
def putAll (join : Option Value → Value → Value) (t : Table Key Value)
    (rows : List (Key × Value)) : Table Key Value :=
  rows.foldl (fun t row => t.insert row.1 (join (t.get? row.1) row.2)) t

variable {join : Option Value → Value → Value} {rows : List (Key × Value)}

theorem get?_putAll_of_not_mem {k : Key} (other : k ∉ rows.map (·.1)) :
    (putAll join t rows).get? k = t.get? k := by
  induction rows generalizing t with
  | nil => rfl
  | cons row rest ih =>
    rw [List.map_cons, List.mem_cons, not_or] at other
    rw [putAll, List.foldl_cons, ← putAll, ih other.2, get?_insert, if_neg (Ne.symm other.1)]

theorem get?_putAll_of_mem (distinct : (rows.map (·.1)).Nodup) {k : Key} {v : Value}
    (here : (k, v) ∈ rows) : (putAll join t rows).get? k = some (join (t.get? k) v) := by
  induction rows generalizing t with
  | nil => cases here
  | cons row rest ih =>
    rw [List.map_cons, List.nodup_cons] at distinct
    rw [putAll, List.foldl_cons, ← putAll]
    rcases List.mem_cons.1 here with rfl | later
    · rw [get?_putAll_of_not_mem distinct.1, get?_insert, if_pos rfl]
    · have other : row.1 ≠ k := fun same => distinct.1 (List.mem_map.2 ⟨_, later, same.symm⟩)
      rw [ih distinct.2 later, get?_insert, if_neg other]

theorem keys_putAll (distinct : (rows.map (·.1)).Nodup) :
    (putAll join t rows).keys = t.keys ++ (rows.map (·.1)).filter (· ∉ t.keys) := by
  induction rows generalizing t with
  | nil => simp [putAll]
  | cons row rest ih =>
    rw [List.map_cons, List.nodup_cons] at distinct
    rw [putAll, List.foldl_cons, ← putAll, ih distinct.2, keys_insert, List.map_cons]
    by_cases old : row.1 ∈ t.keys
    · simp [old]
    · have apart : ∀ k ∈ rest.map (·.1), k ≠ row.1 := by
        rintro k hk rfl
        exact distinct.1 hk
      rw [if_neg old, List.filter_cons_of_pos (by simpa using old), List.append_assoc,
        List.singleton_append]
      congr 2
      refine List.filter_congr fun k hk => ?_
      simp [apart k hk]

/-- A table over another; `join` makes one value of the value below and the value above. -/
def overlayWith (join : Option Value → Value → Value) (s t : Table Key Value) : Table Key Value :=
  putAll join s t.rows

theorem get?_overlayWith (distinct : t.keys.Nodup) (k : Key) :
    (overlayWith join s t).get? k =
      match t.get? k with
      | some v => some (join (s.get? k) v)
      | none => s.get? k := by
  cases found : t.get? k with
  | some v => exact get?_putAll_of_mem distinct ((mem_rows_iff distinct).2 found)
  | none =>
    refine get?_putAll_of_not_mem fun h => ?_
    rw [← keys, ← get?_isSome_iff, found] at h
    cases h

theorem keys_overlayWith (distinct : t.keys.Nodup) :
    (overlayWith join s t).keys = s.keys ++ t.keys.filter (· ∉ s.keys) := keys_putAll distinct

theorem nodup_keys_overlayWith (below : s.keys.Nodup) (distinct : t.keys.Nodup) :
    (overlayWith join s t).keys.Nodup := by
  rw [keys_overlayWith distinct]
  refine List.Nodup.append below (distinct.filter _) ?_
  intro k hs ht
  have := (List.mem_filter.1 ht).2
  simp [hs] at this

/-- What is inserted into the table above is inserted into what comes of it. -/
theorem overlayWith_insert (below : s.keys.Nodup) (distinct : t.keys.Nodup) (k : Key) (v : Value) :
    overlayWith join s (t.insert k v) = (overlayWith join s t).insert k (join (s.get? k) v) := by
  have inserted := nodup_keys_insert distinct k v
  refine ext_of_get? (nodup_keys_overlayWith below inserted) ?_ fun k' => ?_
  · rw [keys_overlayWith inserted, keys_insert, keys_insert, keys_overlayWith distinct]
    by_cases above : k ∈ t.keys
    · by_cases under : k ∈ s.keys <;> simp [above, under]
    · by_cases under : k ∈ s.keys <;> simp [above, under]
  · rw [get?_overlayWith inserted, get?_insert, get?_insert, get?_overlayWith distinct]
    by_cases same : k = k'
    · simp [same]
    · simp [same]

theorem overlayWith_self (distinct : t.keys.Nodup)
    (still : ∀ k v, t.get? k = some v → join (some v) v = v) : overlayWith join t t = t := by
  refine ext_of_get? (nodup_keys_overlayWith distinct distinct) ?_ fun k => ?_
  · rw [keys_overlayWith distinct]
    simp
  · rw [get?_overlayWith distinct]
    cases found : t.get? k with
    | some v => exact congrArg some (still k v found)
    | none => rfl

/-- A table over another, whose values it takes the place of. -/
def overlay (s t : Table Key Value) : Table Key Value := overlayWith (fun _ v => v) s t

theorem get?_overlay (distinct : t.keys.Nodup) (k : Key) :
    (overlay s t).get? k = (t.get? k).or (s.get? k) := by
  rw [overlay, get?_overlayWith distinct]
  cases t.get? k <;> rfl

theorem overlay_insert (below : s.keys.Nodup) (distinct : t.keys.Nodup) (k : Key) (v : Value) :
    overlay s (t.insert k v) = (overlay s t).insert k v := overlayWith_insert below distinct k v

theorem overlay_self (distinct : t.keys.Nodup) : overlay t t = t :=
  overlayWith_self distinct fun _ _ _ => rfl

end PciInventory.Table
