/-!
# Maps from text to text, in key order

A map keeps one value for each key, and its entries in ascending order of keys. The order is part of
the type, so two maps with the same entries are equal and every listing of a map is sorted.
-/

namespace StoreGate

/-- Entries with strictly ascending keys. -/
structure TextMap where
  entries : List (String × String)
  ascending : entries.Pairwise (·.1 < ·.1)
  deriving DecidableEq

namespace TextMap

@[ext]
theorem ext {first second : TextMap} (same : first.entries = second.entries) : first = second := by
  cases first
  cases second
  simpa using same

def empty : TextMap :=
  ⟨[], .nil⟩

instance : Inhabited TextMap := ⟨empty⟩

instance : Repr TextMap := ⟨fun map precedence => reprPrec map.entries precedence⟩

def isEmpty (map : TextMap) : Bool :=
  map.entries.isEmpty

def keys (map : TextMap) : List String :=
  map.entries.map (·.1)

/-- Puts an entry where its key belongs, in place of an entry with the same key. -/
def insertEntry (key value : String) : List (String × String) → List (String × String)
  | [] => [(key, value)]
  | entry :: rest =>
    if key < entry.1 then (key, value) :: entry :: rest
    else if key = entry.1 then (key, value) :: rest
    else entry :: insertEntry key value rest

theorem mem_insertEntry {key value : String} {entries : List (String × String)}
    {entry : String × String} (member : entry ∈ insertEntry key value entries) :
    entry = (key, value) ∨ entry ∈ entries := by
  induction entries with
  | nil => simpa [insertEntry] using member
  | cons first rest ih =>
    simp only [insertEntry] at member
    split at member
    · simpa using member
    · split at member
      · rcases List.mem_cons.1 member with here | there
        · exact .inl here
        · exact .inr (List.mem_cons_of_mem _ there)
      · rcases List.mem_cons.1 member with here | there
        · exact .inr (here ▸ List.mem_cons_self)
        · exact (ih there).imp id (List.mem_cons_of_mem _)

theorem pairwise_insertEntry {key value : String} {entries : List (String × String)}
    (ascending : entries.Pairwise (·.1 < ·.1)) :
    (insertEntry key value entries).Pairwise (·.1 < ·.1) := by
  induction entries with
  | nil => exact List.pairwise_singleton _ _
  | cons first rest ih =>
    rw [List.pairwise_cons] at ascending
    simp only [insertEntry]
    split
    · rename_i before
      refine List.pairwise_cons.2 ⟨fun entry member => ?_, List.pairwise_cons.2 ascending⟩
      rcases List.mem_cons.1 member with here | there
      · exact here ▸ before
      · exact String.lt_trans before (ascending.1 entry there)
    · split
      · rename_i same
        exact List.pairwise_cons.2 ⟨fun entry member => same ▸ ascending.1 entry member, ascending.2⟩
      · rename_i notBefore notSame
        refine List.pairwise_cons.2 ⟨fun entry member => ?_, ih ascending.2⟩
        rcases mem_insertEntry member with here | there
        · subst here
          have atMost : first.1 ≤ key := String.not_lt.1 notBefore
          exact Std.lt_of_le_of_ne atMost (fun same => notSame same.symm)
        · exact ascending.1 entry there

/-- The map with one more entry; the newest value of a key counts. -/
def insert (map : TextMap) (key value : String) : TextMap :=
  ⟨insertEntry key value map.entries, pairwise_insertEntry map.ascending⟩

/-- The map of a list of entries; the last value of a key counts. -/
def ofList (entries : List (String × String)) : TextMap :=
  entries.foldl (fun map entry => map.insert entry.1 entry.2) empty

def get? (map : TextMap) (key : String) : Option String :=
  map.entries.lookup key

theorem lookup_insertEntry (key value other : String) (entries : List (String × String)) :
    (insertEntry key value entries).lookup other =
      if other = key then some value else entries.lookup other := by
  induction entries with
  | nil =>
    by_cases same : other = key
    · simp [insertEntry, same]
    · have missed : (other == key) = false := by simpa using same
      simp [insertEntry, List.lookup_cons, missed, same]
  | cons first rest ih =>
    obtain ⟨firstKey, firstValue⟩ := first
    simp only [insertEntry]
    split
    · by_cases same : other = key
      · simp [same]
      · have missed : (other == key) = false := by simpa using same
        simp [List.lookup_cons, missed, same]
    · split
      · rename_i same
        by_cases here : other = key
        · simp [here]
        · have missed : (other == key) = false := by simpa using here
          have missedFirst : (other == firstKey) = false := by simpa [← same] using here
          simp [List.lookup_cons, missed, missedFirst, here]
      · rename_i differ
        by_cases here : other = firstKey
        · subst here
          simp [Ne.symm differ]
        · have missed : (other == firstKey) = false := by simpa using here
          simp [List.lookup_cons, missed, ih]

theorem get?_insert (map : TextMap) (key value other : String) :
    (map.insert key value).get? other = if other = key then some value else map.get? other :=
  lookup_insertEntry key value other map.entries

end TextMap

end StoreGate
