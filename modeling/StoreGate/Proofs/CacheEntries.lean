import StoreGate.Cache
/-!
# What a cache holds under a key

Erasing a key leaves nothing under it, and storing leaves exactly what was stored.  A look finds an
entry only as long as it is live, and leaves no other one behind.  Nothing of this reaches the
entries under other keys.
-/

namespace StoreGate.Cache

variable {α : Type} {cache : Cache α} {now : Instant} {key : String}

theorem find?_erase (cache : Cache α) (key : String) : (cache.erase key).find? key = none := by
  rw [find?, erase, filter, List.lookup_eq_none_iff]
  intro entry member
  have kept : entry.1 ≠ key := bne_iff_ne.mp (List.mem_filter.mp member).2
  simpa using kept.symm

theorem find?_put (cache : Cache α) (key : String) (entry : Entry α) :
    (cache.put key entry).find? key = some entry := by
  simp [find?, put]

theorem find?_erase_of_ne (cache : Cache α) {other : String} (differ : other ≠ key) :
    (cache.erase key).find? other = cache.find? other := by
  unfold find? erase filter
  dsimp only
  induction cache.entries with
  | nil => rfl
  | cons entry entries ih =>
      obtain ⟨name, value⟩ := entry
      by_cases same : name = key
      · subst same
        rw [List.filter_cons_of_neg (by simp), ih, List.lookup_cons, beq_false_of_ne differ]
      · rw [List.filter_cons_of_pos (by simpa using same), List.lookup_cons, List.lookup_cons, ih]

theorem find?_put_of_ne (cache : Cache α) (entry : Entry α) {other : String}
    (differ : other ≠ key) : (cache.put key entry).find? other = cache.find? other := by
  rw [← find?_erase_of_ne cache differ]
  unfold find? put
  rw [List.lookup_cons, beq_false_of_ne differ]

theorem get_of_live {entry : Entry α} (found : cache.find? key = some entry)
    (live : entry.isLive now = true) : cache.get now key = (some entry.value, cache) := by
  simp [get, look, found, live]

/-- Where no live entry is found, none is left. -/
theorem get_of_not_live
    (notLive : ∀ entry, cache.find? key = some entry → entry.isLive now = false) :
    (cache.get now key).1 = none ∧ (cache.get now key).2.find? key = none := by
  cases found : cache.find? key with
  | none => simp [get, look, found]
  | some entry =>
      have expired : cache.look now key = .expired := by
        simp [look, found, notLive entry found]
      simp [get, evict, expired, find?_erase]

theorem find?_get_of_ne (cache : Cache α) (now : Instant) {other : String} (differ : other ≠ key) :
    (cache.get now key).2.find? other = cache.find? other := by
  unfold get evict
  cases cache.look now key with
  | absent => rfl
  | live value => rfl
  | expired => exact find?_erase_of_ne cache differ

/-- Whether what is stored at a moment is live at that moment. -/
def Lasts (lifetime : Duration) (now : Instant) : Prop :=
  (expiry now lifetime).all (now < ·) = true

theorem isLive_expiry_iff {lifetime : Duration} {value : α} :
    Entry.isLive ⟨value, expiry now lifetime⟩ now = true ↔ Lasts lifetime now :=
  Iff.rfl

theorem lasts_of_positive {lifetime : Duration} (positive : 0 < lifetime.nanoseconds) :
    Lasts lifetime now := by
  unfold Lasts expiry
  dsimp only
  split
  · simp [positive]
  · rfl

/-- What is stored is live until its lifetime is over. -/
theorem isLive_of_lt_lifetime {lifetime : Duration} {later : Instant} (value : α)
    (inTime : later < now + lifetime.nanoseconds) :
    Entry.isLive ⟨value, expiry now lifetime⟩ later = true := by
  unfold Entry.isLive expiry
  dsimp only
  split
  · simpa using inTime
  · rfl

/-- What is live is no older than its lifetime, as far as the clock goes. -/
theorem lt_lifetime_of_isLive {lifetime : Duration} {later : Instant} {value : α}
    (live : Entry.isLive ⟨value, expiry now lifetime⟩ later = true)
    (bounded : later < bitLimit 63 * nanosecondsPerSecond) :
    later < now + lifetime.nanoseconds := by
  unfold Entry.isLive expiry at live
  dsimp only at live
  split at live
  · simpa using live
  · exact Nat.lt_of_lt_of_le bounded (Nat.le_of_not_lt ‹_›)

/-- An entry that has expired stays so. -/
theorem isLive_mono {entry : Entry α} {later : Instant} (forward : now ≤ later)
    (live : entry.isLive later = true) : entry.isLive now = true := by
  unfold Entry.isLive at *
  cases expires : entry.expires with
  | none => rfl
  | some moment =>
      rw [expires] at live
      simp only [Option.all_some, decide_eq_true_eq] at live ⊢
      exact Nat.lt_of_le_of_lt forward live

/-- The entry under a key if it is live at a moment. -/
def live? (cache : Cache α) (now : Instant) (key : String) : Option (Entry α) :=
  (cache.find? key).filter fun entry => entry.isLive now

theorem get_eq_live? (cache : Cache α) (now : Instant) (key : String) :
    (cache.get now key).1 = (cache.live? now key).map Entry.value := by
  unfold get look live?
  cases cache.find? key with
  | none => rfl
  | some entry => cases live : entry.isLive now <;> simp [Option.filter, live]

/-- A look evicts nothing that is live at some later moment. -/
theorem live?_get (cache : Cache α) {later : Instant} (forward : now ≤ later)
    (key other : String) :
    (cache.get now key).2.live? later other = cache.live? later other := by
  unfold live?
  by_cases differ : other = key
  · subst differ
    by_cases live : ∃ entry, cache.find? other = some entry ∧ entry.isLive now = true
    · obtain ⟨entry, found, live⟩ := live
      rw [get_of_live found live]
    · have notLive : ∀ entry, cache.find? other = some entry → entry.isLive now = false := by
        intro entry found
        rw [← Bool.not_eq_true]
        exact fun isLive => live ⟨entry, found, isLive⟩
      rw [(get_of_not_live notLive).2]
      cases found : cache.find? other with
      | none => rfl
      | some entry =>
          have expired : entry.isLive later = false := by
            rw [← Bool.not_eq_true]
            exact fun isLive => live ⟨entry, found, isLive_mono forward isLive⟩
          simp [Option.filter, expired]
  · rw [find?_get_of_ne cache now differ]

theorem live?_put (cache : Cache α) (later : Instant) (key other : String) (entry : Entry α) :
    (cache.put key entry).live? later other =
      if key = other then (some entry).filter fun entry => entry.isLive later
      else cache.live? later other := by
  unfold live?
  split
  · rename_i same
    rw [← same, find?_put]
  · rename_i differ
    rw [find?_put_of_ne cache entry (Ne.symm differ)]

theorem live?_erase (cache : Cache α) (later : Instant) (key other : String) :
    (cache.erase key).live? later other = if key = other then none else cache.live? later other := by
  unfold live?
  split
  · rename_i same
    rw [← same, find?_erase]
    rfl
  · rename_i differ
    rw [find?_erase_of_ne cache (Ne.symm differ)]

theorem evict_eq_get (cache : Cache α) (now : Instant) (key : String) :
    cache.evict now key = (cache.get now key).2 := by
  rw [get]
  cases found : cache.look now key with
  | absent => rw [evict, found]
  | live value => rw [evict, found]
  | expired => rfl

/-- Neither does the eviction of what a look has found expired. -/
theorem live?_evict (cache : Cache α) {later : Instant} (forward : now ≤ later)
    (key other : String) : (cache.evict now key).live? later other = cache.live? later other := by
  rw [evict_eq_get, live?_get cache forward]

/-- A look tells the live entry of a key from no entry and from one that has expired. -/
theorem look_cases (cache : Cache α) (now : Instant) (key : String) :
    (∃ entry, cache.live? now key = some entry ∧ cache.look now key = .live entry.value) ∨
    (cache.live? now key = none ∧
      (cache.look now key = .absent ∨ cache.look now key = .expired)) := by
  unfold look live?
  cases cache.find? key with
  | none => exact .inr ⟨rfl, .inl rfl⟩
  | some entry =>
      cases live : entry.isLive now with
      | true => exact .inl ⟨entry, by simp [live], by simp [live]⟩
      | false => exact .inr ⟨by simp [live], .inr (by simp [live])⟩

/-- What purging leaves is what is live. -/
theorem find?_purge (cache : Cache α) (now : Instant) (key : String) :
    (cache.purge now).find? key = cache.live? now key := by
  obtain ⟨entries, distinct⟩ := cache
  unfold find? live? purge filter find?
  dsimp only
  induction entries with
  | nil => rfl
  | cons first rest ih =>
      obtain ⟨name, entry⟩ := first
      obtain ⟨absent, distinct⟩ := List.nodup_cons.mp distinct
      have others := ih distinct
      by_cases same : key = name
      · subst same
        -- No other entry has the key, so nothing stands in for one that is purged.
        have alone : rest.lookup key = none := by
          rw [List.lookup_eq_none_iff]
          intro other member
          have differ : other.1 ≠ key := fun same =>
            absent (List.mem_map.mpr ⟨other, member, same⟩)
          simpa using differ.symm
        cases live : entry.isLive now with
        | true => simp [Option.filter, live]
        | false =>
            rw [alone] at others
            rw [List.filter_cons_of_neg (by simp [live]), others]
            simp [Option.filter, live]
      · cases live : entry.isLive now with
        | true => simpa [live, List.lookup_cons, beq_false_of_ne same] using others
        | false => simpa [live, List.lookup_cons, beq_false_of_ne same] using others

/-- A purge evicts nothing that is live at some later moment. -/
theorem live?_purge (cache : Cache α) {later : Instant} (forward : now ≤ later) (key : String) :
    (cache.purge now).live? later key = cache.live? later key := by
  rw [live?, find?_purge, live?, live?]
  cases cache.find? key with
  | none => rfl
  | some entry =>
      cases live : entry.isLive later with
      | true => simp [Option.filter, isLive_mono forward live, live]
      | false => cases earlier : entry.isLive now <;> simp [Option.filter, earlier, live]

end StoreGate.Cache
