import StoreGate.Listing
/-!
# Listings with the newest item first

A listing is sorted by the time at which its items were added, and items of one time stay in the
order in which they came.  Its pages of one size, laid end to end, give the listing again.  The ends
of a page may be worked out with words of any width: sums that do not fit stop at the largest word.
-/

namespace StoreGate

namespace Timestamp

variable {first second third : Timestamp}

theorem atMost_iff : first.atMost second = true ↔
    first.seconds < second.seconds ∨
      first.seconds = second.seconds ∧ first.nanoseconds ≤ second.nanoseconds := by
  simp [atMost]

theorem atMost_refl (time : Timestamp) : time.atMost time = true :=
  atMost_iff.mpr (.inr ⟨rfl, Nat.le_refl _⟩)

theorem atMost_trans (before : first.atMost second = true) (behind : second.atMost third = true) :
    first.atMost third = true := by
  rw [atMost_iff] at *
  omega

theorem atMost_total (first second : Timestamp) :
    first.atMost second = true ∨ second.atMost first = true := by
  rw [atMost_iff, atMost_iff]
  omega

theorem eq_of_atMost (before : first.atMost second = true)
    (behind : second.atMost first = true) : first = second := by
  rw [atMost_iff] at before behind
  obtain ⟨seconds, nanoseconds⟩ := first
  obtain ⟨others, parts⟩ := second
  rw [mk.injEq]
  dsimp only at before behind
  omega

end Timestamp

namespace Listing

/-- Whether a listing shows every item once, later times first, and items of the same time in
order. -/
structure IsNewestFirst (items listing : List ItemSummary) : Prop where
  shown : listing.Perm items
  descending : listing.Pairwise fun first second => second.addedAt.atMost first.addedAt = true
  ties : ∀ time, listing.filter (·.addedAt = time) = items.filter (·.addedAt = time)

theorem isNewestFirst (items : List ItemSummary) : IsNewestFirst items (newestFirst items) := by
  let newer (first second : ItemSummary) : Bool := second.addedAt.atMost first.addedAt
  have trans : ∀ first second third, newer first second = true → newer second third = true →
      newer first third = true :=
    fun _ _ _ before behind => Timestamp.atMost_trans behind before
  have total : ∀ first second, (newer first second || newer second first) = true := by
    intro first second
    rw [Bool.or_eq_true]
    exact Timestamp.atMost_total second.addedAt first.addedAt
  have shown : (newestFirst items).Perm items := List.mergeSort_perm items newer
  refine ⟨shown, List.pairwise_mergeSort trans total items, fun time => ?_⟩
  -- Items of one time are in order for the sort already, so it leaves their order alone.
  have inOrder : (items.filter (·.addedAt = time)).Pairwise fun first second =>
      newer first second = true := by
    refine List.pairwise_of_forall_mem_list fun first isFirst second isSecond => ?_
    have firstTime : first.addedAt = time := by simpa using (List.mem_filter.mp isFirst).2
    have secondTime : second.addedAt = time := by simpa using (List.mem_filter.mp isSecond).2
    show second.addedAt.atMost first.addedAt = true
    rw [firstTime, secondTime]
    exact Timestamp.atMost_refl time
  have stays : (items.filter (·.addedAt = time)).Sublist (newestFirst items) :=
    List.sublist_mergeSort trans total inOrder List.filter_sublist
  have inside : (items.filter (·.addedAt = time)).Sublist
      ((newestFirst items).filter (·.addedAt = time)) := by
    have filtered := stays.filter (·.addedAt = time)
    rwa [List.filter_filter, funext fun _ => Bool.and_self _] at filtered
  exact (inside.eq_of_length (shown.filter _).length_eq.symm).symm

/-- The first item of a listing with later times first is of its latest time. -/
theorem atMost_of_mem {item first : ItemSummary} {rest : List ItemSummary}
    (descending : (first :: rest).Pairwise fun first second =>
      second.addedAt.atMost first.addedAt = true)
    (member : item ∈ first :: rest) : item.addedAt.atMost first.addedAt = true := by
  rcases List.mem_cons.mp member with rfl | later
  · exact Timestamp.atMost_refl item.addedAt
  · exact List.rel_of_pairwise_cons descending later

theorem mem_iff_of_ties {listing other : List ItemSummary}
    (ties : ∀ time, listing.filter (·.addedAt = time) = other.filter (·.addedAt = time))
    (item : ItemSummary) : item ∈ listing ↔ item ∈ other := by
  simpa using congrArg (item ∈ ·) (ties item.addedAt)

/-- Listings with later times first are the same if they show the same items of each time. -/
theorem eq_of_ties {listing other : List ItemSummary}
    (descending : listing.Pairwise fun first second => second.addedAt.atMost first.addedAt = true)
    (alsoDescending : other.Pairwise fun first second => second.addedAt.atMost first.addedAt = true)
    (ties : ∀ time, listing.filter (·.addedAt = time) = other.filter (·.addedAt = time)) :
    listing = other := by
  induction listing generalizing other with
  | nil => exact (List.eq_nil_iff_forall_not_mem.mpr fun item => by
      simp [← mem_iff_of_ties ties]).symm
  | cons item rest ih =>
      cases other with
      | nil => exact absurd ((mem_iff_of_ties ties item).mp List.mem_cons_self) List.not_mem_nil
      | cons first others =>
          -- Both begin with their latest time, and what they show of it begins with them.
          have sameTime : item.addedAt = first.addedAt := Timestamp.eq_of_atMost
            (atMost_of_mem alsoDescending ((mem_iff_of_ties ties item).mp List.mem_cons_self))
            (atMost_of_mem descending ((mem_iff_of_ties ties first).mpr List.mem_cons_self))
          have begin := ties item.addedAt
          rw [List.filter_cons_of_pos (by simp), List.filter_cons_of_pos (by simp [sameTime]),
            List.cons.injEq] at begin
          obtain ⟨rfl, _⟩ := begin
          have restTies : ∀ time, rest.filter (·.addedAt = time) =
              others.filter (·.addedAt = time) := by
            intro time
            have both := ties time
            rw [List.filter_cons, List.filter_cons] at both
            split at both
            · exact (List.cons.inj both).2
            · exact both
          rw [ih descending.of_cons alsoDescending.of_cons restTies]

/-- There is one listing with the newest item first. -/
theorem IsNewestFirst.unique {items listing other : List ItemSummary}
    (first : IsNewestFirst items listing) (second : IsNewestFirst items other) :
    listing = other :=
  eq_of_ties first.descending second.descending fun time =>
    (first.ties time).trans (second.ties time).symm

end Listing

namespace PageRange

/-- A page and the ones behind it make up a longer stretch of the listing. -/
theorem slice_append (offset size count : Nat) (items : List ItemSummary) :
    (slice ⟨offset, size⟩ items).items ++ (items.drop (offset + size)).take (count * size) =
      (items.drop offset).take ((count + 1) * size) := by
  rw [Nat.succ_mul, Nat.add_comm (count * size), List.take_add, List.drop_drop]
  rfl

section Words

variable {bits : Nat}

/-- The sum of two words, or the largest word if the sum does not fit. -/
def saturatingSum (first second : BitVec bits) : BitVec bits :=
  if first.uaddOverflow second then BitVec.allOnes bits else first + second

def smallerWord (first second : BitVec bits) : BitVec bits :=
  if first ≤ second then first else second

theorem toNat_saturatingSum (first second : BitVec bits) :
    (saturatingSum first second).toNat =
      min (first.toNat + second.toNat) (BitVec.allOnes bits).toNat := by
  unfold saturatingSum
  rw [BitVec.toNat_allOnes]
  cases exceeds : first.uaddOverflow second with
  | true =>
      have large : 2 ^ bits ≤ first.toNat + second.toNat := by
        simpa [BitVec.uaddOverflow] using exceeds
      rw [if_pos rfl, BitVec.toNat_allOnes]
      omega
  | false =>
      have small : first.toNat + second.toNat < 2 ^ bits := by
        simpa [BitVec.uaddOverflow] using exceeds
      rw [if_neg (by decide), BitVec.toNat_add_of_not_uaddOverflow (by simp [exceeds])]
      omega

theorem toNat_smallerWord (first second : BitVec bits) :
    (smallerWord first second).toNat = min first.toNat second.toNat := by
  unfold smallerWord
  split <;> rename_i order <;> rw [BitVec.le_def] at order <;> omega

/-- Where a page begins whose ends are worked out with words, and where it ends. -/
def firstWord (offset total : BitVec bits) : BitVec bits :=
  smallerWord offset total

def lastWord (offset limit total : BitVec bits) : BitVec bits :=
  smallerWord (saturatingSum (firstWord offset total) limit) total

/-- The ends of a page lie within the listing, whatever words are given, and what is between them is
the page. -/
theorem slice_of_words (items : List ItemSummary) (offset limit total : BitVec bits)
    (counted : total.toNat = items.length) :
    (firstWord offset total).toNat ≤ (lastWord offset limit total).toNat ∧
    (lastWord offset limit total).toNat ≤ items.length ∧
    slice ⟨offset.toNat, limit.toNat⟩ items =
      ⟨items.extract (firstWord offset total).toNat (lastWord offset limit total).toNat,
        total.toNat⟩ := by
  have small := total.isLt
  have start : (firstWord offset total).toNat = min offset.toNat items.length := by
    rw [firstWord, toNat_smallerWord, counted]
  have stop : (lastWord offset limit total).toNat =
      min (min offset.toNat items.length + limit.toNat) items.length := by
    rw [lastWord, toNat_smallerWord, toNat_saturatingSum, start, BitVec.toNat_allOnes]
    omega
  refine ⟨by omega, by omega, ?_⟩
  rw [slice, start, stop, counted, List.extract_eq_take_drop]
  dsimp only
  congr 1
  -- Beyond the end of the listing there is nothing to drop or to take.
  by_cases inside : offset.toNat ≤ items.length
  · rw [Nat.min_eq_left inside, List.take_eq_take_iff, List.length_drop]
    omega
  · have beyond : items.length ≤ offset.toNat := by omega
    rw [Nat.min_eq_right beyond, List.drop_eq_nil_of_le beyond,
      List.drop_eq_nil_of_le (Nat.le_refl _), List.take_nil, List.take_nil]

end Words

end PageRange

end StoreGate
