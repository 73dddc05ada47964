/-! # Dictionaries from text to text

The attributes of an element and the values read from one. Entries are kept in ascending order
of their keys, each key once, so two dictionaries that answer every look-up alike are equal. -/

namespace Gleaner

/-- Entries in strictly ascending order of their keys, which is the order of code points. -/
structure Dictionary where
  entries : List (String × String)
  ascending : entries.Pairwise fun a b => a.1 < b.1

namespace Dictionary

/-- The dictionary without entries. -/
def empty : Dictionary := ⟨[], .nil⟩

instance : Inhabited Dictionary := ⟨empty⟩

/-- The value under a key. -/
def get? (d : Dictionary) (key : String) : Option String := d.entries.lookup key

/-- Whether there is no entry. -/
def isEmpty (d : Dictionary) : Bool := d.entries.isEmpty

/-- Puts an entry in its place, instead of one with the same key. -/
def insertEntry (key value : String) : List (String × String) → List (String × String)
  | [] => [(key, value)]
  | (k, v) :: rest =>
    if key < k then (key, value) :: (k, v) :: rest
    else if key = k then (key, value) :: rest
    else (k, v) :: insertEntry key value rest

theorem mem_insertEntry {key value : String} {entry : String × String}
    {entries : List (String × String)} (member : entry ∈ insertEntry key value entries) :
    entry = (key, value) ∨ entry ∈ entries := by
  induction entries with
  | nil => simpa [insertEntry] using member
  | cons first rest ih =>
    obtain ⟨k, v⟩ := first
    simp only [insertEntry] at member
    split at member
    · simpa using member
    · split at member
      · rcases List.mem_cons.1 member with same | present
        · exact .inl same
        · exact .inr (List.mem_cons_of_mem _ present)
      · rcases List.mem_cons.1 member with rfl | present
        · exact .inr List.mem_cons_self
        · exact (ih present).imp_right (List.mem_cons_of_mem _)

theorem pairwise_insertEntry {key value : String} {entries : List (String × String)}
    (ascending : entries.Pairwise fun a b => a.1 < b.1) :
    (insertEntry key value entries).Pairwise fun a b => a.1 < b.1 := by
  induction entries with
  | nil => simp [insertEntry]
  | cons first rest ih =>
    obtain ⟨k, v⟩ := first
    obtain ⟨above, tail⟩ := List.pairwise_cons.1 ascending
    simp only [insertEntry]
    split
    · next smaller =>
      refine List.pairwise_cons.2 ⟨fun entry member => ?_, ascending⟩
      rcases List.mem_cons.1 member with rfl | present
      · exact smaller
      · exact String.lt_trans smaller (above entry present)
    · next notSmaller =>
      split
      · next same => subst same; exact List.pairwise_cons.2 ⟨above, tail⟩
      · next different =>
        refine List.pairwise_cons.2 ⟨fun entry member => ?_, ih tail⟩
        rcases mem_insertEntry member with rfl | present
        · exact Std.lt_of_le_of_ne (Std.not_lt.1 notSmaller) (Ne.symm different)
        · exact above entry present

/-- Puts a value under a key, replacing the one that was there. -/
def insert (d : Dictionary) (key value : String) : Dictionary :=
  ⟨insertEntry key value d.entries, pairwise_insertEntry d.ascending⟩

/-- The dictionary of a list of entries; of two with one key the later counts. -/
def ofList (entries : List (String × String)) : Dictionary :=
  entries.foldl (fun d entry => d.insert entry.1 entry.2) empty

theorem lookup_insertEntry (key value sought : String) (entries : List (String × String)) :
    (insertEntry key value entries).lookup sought =
      if sought = key then some value else entries.lookup sought := by
  induction entries with
  | nil =>
    by_cases h : sought = key
    · simp [insertEntry, h]
    · simp [insertEntry, List.lookup_cons, h, beq_false_of_ne h]
  | cons first rest ih =>
    obtain ⟨k, v⟩ := first
    simp only [insertEntry]
    split
    · by_cases h : sought = key
      · simp [h]
      · simp [List.lookup_cons, h, beq_false_of_ne h]
    · split
      · next same =>
        subst same
        by_cases h : sought = key
        · simp [h]
        · simp [List.lookup_cons, h, beq_false_of_ne h]
      · next different =>
        by_cases h : sought = k
        · subst h; simp [Ne.symm different]
        · simp [List.lookup_cons, beq_false_of_ne h, ih]

/-- After an insertion the key has the new value, and all other keys what they had. -/
theorem get?_insert (d : Dictionary) (key value sought : String) :
    (d.insert key value).get? sought = if sought = key then some value else d.get? sought :=
  lookup_insertEntry key value sought d.entries

@[simp] theorem get?_empty (sought : String) : empty.get? sought = none := rfl

end Dictionary

end Gleaner
