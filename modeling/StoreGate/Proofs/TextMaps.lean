import StoreGate.Json.Reader
/-!
# Maps are found again from their entries

The entries of a map ascend, so putting them in one after another appends each of them, and a map
written as an object is read as itself.
-/

namespace StoreGate

namespace TextMap

theorem insertEntry_of_greatest {key value : String} {entries : List (String × String)}
    (greatest : ∀ entry ∈ entries, entry.1 < key) :
    insertEntry key value entries = entries ++ [(key, value)] := by
  induction entries with
  | nil => rfl
  | cons first rest ih =>
      have before := greatest first List.mem_cons_self
      have others := ih fun entry member => greatest entry (List.mem_cons_of_mem _ member)
      have notAfter : ¬ key < first.1 := String.lt_asymm before
      have notSame : key ≠ first.1 := (String.ne_of_lt before).symm
      rw [insertEntry, if_neg notAfter, if_neg notSame, others, List.cons_append]

private theorem entries_foldl_insert (entries : List (String × String)) (map : TextMap)
    (ascending : (map.entries ++ entries).Pairwise (·.1 < ·.1)) :
    (entries.foldl (fun map entry => map.insert entry.1 entry.2) map).entries =
      map.entries ++ entries := by
  induction entries generalizing map with
  | nil => simp
  | cons entry rest ih =>
      have greatest : ∀ earlier ∈ map.entries, earlier.1 < entry.1 := fun earlier member =>
        (List.pairwise_append.mp ascending).2.2 earlier member entry List.mem_cons_self
      have appended : (map.insert entry.1 entry.2).entries = map.entries ++ [entry] :=
        insertEntry_of_greatest greatest
      rw [List.foldl_cons, ih, appended, List.append_assoc, List.singleton_append]
      rw [appended, List.append_assoc, List.singleton_append]
      exact ascending

theorem ofList_entries (map : TextMap) : ofList map.entries = map := by
  apply ext
  exact entries_foldl_insert map.entries empty map.ascending

private theorem mem_foldl_insert {entries : List (String × String)} {map : TextMap}
    {entry : String × String}
    (member : entry ∈
      (entries.foldl (fun map entry => map.insert entry.1 entry.2) map).entries) :
    entry ∈ map.entries ∨ entry ∈ entries := by
  induction entries generalizing map with
  | nil => exact .inl member
  | cons first rest ih =>
      rcases ih member with earlier | later
      · rcases mem_insertEntry earlier with rfl | before
        · exact .inr List.mem_cons_self
        · exact .inl before
      · exact .inr (List.mem_cons_of_mem first later)

/-- A map made of a list has entries of the list only. -/
theorem mem_of_mem_ofList {entry : String × String} {entries : List (String × String)}
    (member : entry ∈ (ofList entries).entries) : entry ∈ entries :=
  (mem_foldl_insert member).resolve_left List.not_mem_nil

end TextMap

namespace Json

theorem textMap?_ofTextMap (map : TextMap) : (ofTextMap map).textMap? = some map := by
  have read : ∀ entries : List (String × String),
      (entries.map fun entry => (entry.1, Json.string entry.2)).mapM
        (fun member => (text? member.2).map (member.1, ·)) = some entries := by
    intro entries
    induction entries with
    | nil => rfl
    | cons entry rest ih =>
        rw [List.map_cons, List.mapM_cons, ih]
        rfl
  simp [ofTextMap, textMap?, read, TextMap.ofList_entries]

end Json

end StoreGate
