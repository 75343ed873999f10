import StoreGate.Store
/-!
# The names of stores

Names tell stores apart.  None of them holds a mark that stands behind a name in a longer text, so a
name can be found again in such a text.
-/

namespace StoreGate.Store

theorem name_injective {first second : Store} (same : first.name = second.name) :
    first = second := by
  have found := ofName?_name first
  rw [same, ofName?_name] at found
  exact (Option.some.inj found).symm

/-- No name holds the slash that ends it in a link. -/
theorem slash_not_mem_name (store : Store) : '/' ∉ store.name.toList := by
  cases store <;> decide

/-- No name holds the colon that ends it in the key of a listing. -/
theorem colon_not_mem_name (store : Store) : ':' ∉ store.name.toList := by
  cases store <;> decide

end StoreGate.Store
