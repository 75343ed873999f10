import StoreGate.Json.Reader
/-!
# Which fields a reader finds in an object

A reader that knows some names looks at the members with these names only, and refuses an object in
which one of them stands twice.
-/

namespace StoreGate.Json

/-- The members that have one of the given names. -/
def known (names : List String) (members : List (String × Json)) : List (String × Json) :=
  members.filter fun member => names.contains member.1

theorem fields?_object (names : List String) (members : List (String × Json)) :
    (Json.object members).fields? names =
      if ((known names members).map (·.1)).Nodup then some ⟨known names members⟩ else none := by
  have plain : members.map (canonical []) = members := by
    refine (List.map_congr_left fun member _ => ?_).trans (List.map_id members)
    rfl
  simp only [fields?, spelledFields?, plain]
  rfl

variable {names : List String} {name : String} {members : List (String × Json)}

theorem known_cons_of_mem {value : Json} (asked : name ∈ names) :
    known names ((name, value) :: members) = (name, value) :: known names members := by
  simp [known, asked]

theorem known_cons_of_not_mem {value : Json} (other : name ∉ names) :
    known names ((name, value) :: members) = known names members := by
  simp [known, other]

theorem lookup_known (asked : name ∈ names) :
    (known names members).lookup name = members.lookup name := by
  induction members with
  | nil => rfl
  | cons member members ih =>
      obtain ⟨given, value⟩ := member
      by_cases kept : given ∈ names
      · rw [known_cons_of_mem kept, List.lookup_cons, List.lookup_cons, ih]
      · have differ : (name == given) = false := by
          rw [beq_eq_false_iff_ne]
          rintro rfl
          exact kept asked
        rw [known_cons_of_not_mem kept, List.lookup_cons, differ, ih]

/-- Among members that a reader has found no two have one name, so those with a given name are the
one that is looked up. -/
theorem known_singleton (asked : name ∈ names) (once : ((known names members).map (·.1)).Nodup) :
    known [name] members = ((members.lookup name).map (name, ·)).toList := by
  induction members with
  | nil => rfl
  | cons member members ih =>
      obtain ⟨given, value⟩ := member
      by_cases same : given = name
      · subst same
        rw [known_cons_of_mem asked, List.map_cons, List.nodup_cons] at once
        have noOther : known [given] members = [] := by
          apply List.filter_eq_nil_iff.mpr
          rintro ⟨other, found⟩ isMember named
          have sameName : other = given := by simpa using named
          subst sameName
          have isKnown : (other, found) ∈ known names members :=
            List.mem_filter.mpr ⟨isMember, by simpa using asked⟩
          exact once.1 (List.mem_map.mpr ⟨_, isKnown, rfl⟩)
        rw [known_cons_of_mem List.mem_cons_self, noOther]
        simp
      · have differ : (name == given) = false := by simpa using Ne.symm same
        have others : ((known names members).map (·.1)).Nodup := by
          by_cases kept : given ∈ names
          · rw [known_cons_of_mem kept, List.map_cons, List.nodup_cons] at once
            exact once.2
          · rwa [known_cons_of_not_mem kept] at once
        rw [known_cons_of_not_mem (by simpa using same), List.lookup_cons, differ, ih others]

theorem fields?_eq_some {fields : Fields}
    (found : (Json.object members).fields? names = some fields) :
    fields = ⟨known names members⟩ ∧ ((known names members).map (·.1)).Nodup := by
  rw [fields?_object] at found
  split at found
  · rename_i once
    exact ⟨(Option.some.inj found).symm, once⟩
  · cases found

end StoreGate.Json
