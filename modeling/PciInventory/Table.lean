/-!
# Tables

A table gives at most one value to a key and keeps its keys in the order in which they first came.
Giving a key a new value leaves the key in its place. Rows are held newest first, because the row
that was made last is the one most often asked for while a table is being filled.
-/
namespace PciInventory

universe u v

/-- Rows of a key and its value, the newest first. -/
structure Table (Key : Type u) (Value : Type v) where
  newestFirst : List (Key × Value)
  deriving DecidableEq

namespace Table

variable {Key : Type u} {Value : Type v}

def empty : Table Key Value := ⟨[]⟩

/-- The rows in the order in which their keys came. -/
def rows (t : Table Key Value) : List (Key × Value) := t.newestFirst.reverse

def size (t : Table Key Value) : Nat := t.newestFirst.length

/-- The keys in the order in which they came. -/
def keys (t : Table Key Value) : List Key := t.rows.map (·.1)

def isEmpty (t : Table Key Value) : Bool := t.newestFirst.isEmpty

/-- No key has two rows if none has in the order in which rows are held. -/
theorem nodup_keys_iff (t : Table Key Value) :
    t.keys.Nodup ↔ (t.newestFirst.map (·.1)).Nodup := by
  rw [keys, rows, List.map_reverse]
  exact (List.reverse_perm _).nodup_iff

variable [DecidableEq Key]

def get? (t : Table Key Value) (k : Key) : Option Value :=
  (t.newestFirst.find? fun row => decide (row.1 = k)).map (·.2)

/-- Rows in which a key has another value. -/
def replaceRow (k : Key) (v : Value) : List (Key × Value) → List (Key × Value)
  | [] => []
  | row :: rest => if row.1 = k then (k, v) :: rest else row :: replaceRow k v rest

def insert (t : Table Key Value) (k : Key) (v : Value) : Table Key Value :=
  if (t.get? k).isSome then ⟨replaceRow k v t.newestFirst⟩ else ⟨(k, v) :: t.newestFirst⟩

/-- The table of some rows; of two rows with one key the later gives the value. -/
def ofRows (rows : List (Key × Value)) : Table Key Value :=
  rows.foldl (fun t row => t.insert row.1 row.2) empty

def eraseWhere (t : Table Key Value) (p : Key → Bool) : Table Key Value :=
  ⟨t.newestFirst.filter fun row => !p row.1⟩

@[simp] theorem get?_empty (k : Key) : (empty : Table Key Value).get? k = none := rfl

/-- Replacing a row decides the value of its own key, if there is such a row, and of no other. -/
theorem find?_replaceRow (rows : List (Key × Value)) (k k' : Key) (v : Value) :
    ((replaceRow k v rows).find? fun row => decide (row.1 = k')).map (·.2) =
      if k = k' then ((rows.find? fun row => decide (row.1 = k)).map fun _ => v)
      else (rows.find? fun row => decide (row.1 = k')).map (·.2) := by
  induction rows with
  | nil => simp [replaceRow]
  | cons row rest ih =>
    by_cases hr : row.1 = k
    · by_cases h : k = k'
      · simp [replaceRow, hr, h]
      · simp [replaceRow, hr, h]
    · by_cases h : row.1 = k'
      · have apart : k ≠ k' := fun e => hr (h.trans e.symm)
        simp [replaceRow, h, apart, apart.symm]
      · simpa [replaceRow, hr, h] using ih

/-- Inserting decides the value of its own key and of no other. -/
theorem get?_insert (t : Table Key Value) (k k' : Key) (v : Value) :
    (t.insert k v).get? k' = if k = k' then some v else t.get? k' := by
  unfold insert
  split
  · rename_i present
    have row := find?_replaceRow t.newestFirst k k' v
    simp only [get?] at present ⊢
    rw [row]
    cases found : t.newestFirst.find? fun row => decide (row.1 = k) with
    | none => simp [found] at present
    | some _ => rfl
  · by_cases h : k = k' <;> simp [get?, h]

theorem get?_eraseWhere (t : Table Key Value) (p : Key → Bool) (k : Key) :
    (t.eraseWhere p).get? k = if p k then none else t.get? k := by
  have same : ∀ row : Key × Value,
      decide ((!p row.1) = true ∧ decide (row.1 = k) = true) = (!p k && decide (row.1 = k)) := by
    intro row
    by_cases h : row.1 = k
    · simp [h]
    · simp [h]
  simp only [get?, eraseWhere, List.find?_filter, same]
  cases p k <;> simp

/-- A key has a value when it is the key of some row. -/
theorem get?_isSome_iff (t : Table Key Value) (k : Key) : (t.get? k).isSome ↔ k ∈ t.keys := by
  simp [get?, keys, rows, List.find?_isSome]

omit [DecidableEq Key] in
theorem isEmpty_iff {t : Table Key Value} : t.isEmpty = true ↔ ∀ k, k ∉ t.keys := by
  rw [← List.eq_nil_iff_forall_not_mem]
  simp [isEmpty, keys, rows]

omit [DecidableEq Key] in
theorem exists_mem_keys {t : Table Key Value} (filled : t.isEmpty = false) : ∃ k, k ∈ t.keys := by
  have some : t.keys ≠ [] := by
    intro none
    rw [isEmpty_iff.2 (List.eq_nil_iff_forall_not_mem.1 none)] at filled
    cases filled
  exact List.exists_mem_of_ne_nil t.keys some

theorem mem_keys_insert (t : Table Key Value) (k k' : Key) (v : Value) :
    k' ∈ (t.insert k v).keys ↔ k' = k ∨ k' ∈ t.keys := by
  rw [← get?_isSome_iff, ← get?_isSome_iff, get?_insert]
  by_cases h : k = k'
  · simp [h]
  · simp [h, Ne.symm h]

theorem map_replaceRow (rows : List (Key × Value)) (k : Key) (v : Value) :
    (replaceRow k v rows).map (·.1) = rows.map (·.1) := by
  induction rows with
  | nil => rfl
  | cons row rest ih =>
    by_cases h : row.1 = k
    · simp [replaceRow, h]
    · simp [replaceRow, h, ih]

theorem nodup_keys_insert {t : Table Key Value} (distinct : t.keys.Nodup) (k : Key) (v : Value) :
    (t.insert k v).keys.Nodup := by
  rw [nodup_keys_iff] at distinct ⊢
  unfold insert
  split
  · rw [map_replaceRow]
    exact distinct
  · rename_i absent
    have fresh : k ∉ t.keys := fun h => absent ((get?_isSome_iff t k).2 h)
    rw [keys, rows, List.map_reverse, List.mem_reverse] at fresh
    exact List.nodup_cons.2 ⟨fresh, distinct⟩

/-- A new key gets its row behind all others. -/
theorem rows_insert {t : Table Key Value} {k : Key} (fresh : k ∉ t.keys) (v : Value) :
    (t.insert k v).rows = t.rows ++ [(k, v)] := by
  rw [insert, if_neg fun present => fresh ((t.get?_isSome_iff k).1 present)]
  simp [rows]

/-- The table of rows with different keys has these rows, in their order. -/
theorem rows_ofRows {rows : List (Key × Value)} (distinct : (rows.map (·.1)).Nodup) :
    (ofRows rows).rows = rows := by
  have further (t : Table Key Value) (fresh : ∀ row ∈ rows, row.1 ∉ t.keys) :
      (rows.foldl (fun t row => t.insert row.1 row.2) t).rows = t.rows ++ rows := by
    induction rows generalizing t with
    | nil => simp
    | cons row rest ih =>
      obtain ⟨apart, distinct⟩ := List.nodup_cons.1 distinct
      obtain ⟨here, later⟩ := List.forall_mem_cons.1 fresh
      rw [List.foldl_cons, ih distinct, rows_insert here, List.append_assoc, List.singleton_append]
      intro other mem old
      rcases (mem_keys_insert t row.1 other.1 row.2).1 old with same | old
      · exact apart (List.mem_map.2 ⟨other, mem, same⟩)
      · exact later other mem old
  exact further empty fun row _ => List.not_mem_nil

omit [DecidableEq Key] in
theorem nodup_keys_eraseWhere {t : Table Key Value} (distinct : t.keys.Nodup) (p : Key → Bool) :
    (t.eraseWhere p).keys.Nodup := by
  rw [nodup_keys_iff] at distinct ⊢
  exact distinct.sublist (List.filter_sublist.map _)

end Table

end PciInventory
