import Mathlib.Data.List.Flatten
import StoreGate.Proofs.Url.WebAddresses
/-!
# Text behind the last slash of a path

A path is divided at its slashes and backslashes.  A text that is put behind the last slash becomes
one more segment, which means the text, only if nothing in it is read in another way: it has no
slashes, no marks that end a path, no escapes and nothing that the parser drops, and it is not one
or two dots.
-/

namespace StoreGate.Url

open PercentEncoding

section Characters

/-- What the parser of a path leaves as it is. -/
def IsPathChar (char : Char) : Prop :=
  char.toNat < 0x80 ∧ PercentEncoding.path char = false

instance : DecidablePred IsPathChar := fun char =>
  inferInstanceAs (Decidable (char.toNat < 0x80 ∧ PercentEncoding.path char = false))

theorem IsPathChar.visible {char : Char} (isPathChar : IsPathChar char) : 0x20 < char.toNat := by
  have kept := isPathChar.2
  simp only [PercentEncoding.path, PercentEncoding.fragment, controls, Bool.or_eq_false_iff,
    decide_eq_false_iff_not] at kept
  have notBlank : char ≠ ' ' := by
    rintro rfl
    exact absurd kept.1.2 (by decide)
  have notBlankCode : char.toNat ≠ 0x20 := fun same =>
    notBlank (Char.ext (UInt32.toNat_inj.mp same))
  omega

theorem IsPathChar.ne {char mark : Char} (isPathChar : IsPathChar char)
    (escapedMark : PercentEncoding.path mark = true) : char ≠ mark := by
  rintro rfl
  exact Bool.false_ne_true (isPathChar.2.symm.trans escapedMark)

/-- Only backslashes are read as something else. -/
theorem map_slash_of_plain {characters : List Char} (plain : '\\' ∉ characters) :
    (characters.map fun char => if isSlash true char then '/' else char) = characters := by
  refine Text.map_of_fixed fun char member => ?_
  have notBackslash : char ≠ '\\' := fun same => plain (same ▸ member)
  by_cases slash : char = '/' <;> simp [isSlash, slash, notBackslash]

end Characters

section Segments

theorem splitSegments_append {part : List Char} (noSlash : '/' ∉ part) (noBackslash : '\\' ∉ part)
    (rest : List Char) :
    splitSegments true (part ++ '/' :: rest) = part :: splitSegments true rest := by
  rw [splitSegments, List.map_append, map_slash_of_plain noBackslash]
  exact Text.fields_append noSlash _

theorem splitSegments_of_plain {part : List Char} (noSlash : '/' ∉ part)
    (noBackslash : '\\' ∉ part) : splitSegments true part = [part] := by
  rw [splitSegments, map_slash_of_plain noBackslash]
  exact Text.fields_of_not_mem noSlash

/-- A segment is a stretch of the text between slashes and backslashes. -/
theorem sublist_of_mem_splitSegments {text segment : List Char}
    (member : segment ∈ splitSegments true text) :
    segment.Sublist text ∧ '/' ∉ segment ∧ '\\' ∉ segment := by
  have noSlash : '/' ∉ segment := Text.not_mem_of_mem_fields member
  obtain ⟨stretch, inside, rfl⟩ := List.sublist_map_iff.mp (Text.sublist_of_mem_fields member)
  have noBackslash : '\\' ∉ stretch := fun isIn =>
    noSlash (List.mem_map.mpr ⟨'\\', isIn, rfl⟩)
  rw [map_slash_of_plain noBackslash] at noSlash ⊢
  exact ⟨inside, noSlash, noBackslash⟩

theorem head_addSegment (reversed : List String) (segment : String) :
    (addSegment true reversed segment).head? = some "" ∨
      (addSegment true reversed segment).head? = some segment ∧ ¬ IsDots segment := by
  by_cases isDots : IsDots segment
  · left
    rw [addSegment]
    split
    · rfl
    · rename_i notDouble
      rw [if_pos (isDots.resolve_right notDouble)]
      rfl
  · right
    rw [addSegment_of_plain isDots]
    exact ⟨rfl, isDots⟩

/-- The last segment of a path is empty, or it is the last one that was added and no dots. -/
theorem head_addSegments {segments : List String} {last : String}
    (isLast : segments.getLast? = some last) (reversed : List String) :
    (addSegments reversed segments).head? = some "" ∨
      (addSegments reversed segments).head? = some last ∧ ¬ IsDots last := by
  induction segments generalizing reversed with
  | nil => cases isLast
  | cons segment rest ih =>
      cases rest with
      | nil =>
          cases isLast
          exact head_addSegment reversed segment
      | cons second others =>
          rw [List.getLast?_cons_cons] at isLast
          exact ih isLast (addSegment false reversed segment)

end Segments

section Folders

/-- Whether a name can stand in a path as it is. -/
structure IsFolder (name : String) : Prop where
  pathChars : ∀ char ∈ name.toList, IsPathChar char
  noSlash : '/' ∉ name.toList
  noBackslash : '\\' ∉ name.toList
  notDots : ¬ IsDots name

/-- The names of some folders with a slash behind each of them. -/
def slashed (folders : List String) : List Char :=
  folders.flatMap fun folder => folder.toList ++ ['/']

variable {folders : List String} (named : ∀ folder ∈ folders, IsFolder folder)
include named

theorem pathChar_of_mem_slashed {char : Char} (member : char ∈ slashed folders) :
    IsPathChar char := by
  obtain ⟨folder, isFolder, inside⟩ := List.mem_flatMap.mp member
  rcases List.mem_append.mp inside with inName | slash
  · exact (named folder isFolder).pathChars char inName
  · rw [List.mem_singleton.mp slash]
    exact ⟨by decide, rfl⟩

theorem kept_slashed (text : List Char) :
    kept (slashed folders ++ text) = slashed folders ++ kept text :=
  kept_append (fun _ member => (pathChar_of_mem_slashed named member).visible) text

theorem path_spanParts_slashed (text : List Char) :
    (spanParts (slashed folders ++ text)).1 = slashed folders ++ (spanParts text).1 := by
  rw [path_spanParts, path_spanParts, List.takeWhile_append_of_pos]
  intro char member
  have isPathChar := pathChar_of_mem_slashed named member
  have noQuery : char ≠ '?' := isPathChar.ne rfl
  have noFragment : char ≠ '#' := isPathChar.ne rfl
  simp [noQuery, noFragment]

theorem splitSegments_slashed (text : List Char) :
    splitSegments true (slashed folders ++ text) =
      folders.map String.toList ++ splitSegments true text := by
  induction folders with
  | nil => rfl
  | cons folder rest ih =>
      have isFolder := named folder List.mem_cons_self
      have others := ih fun other member => named other (List.mem_cons_of_mem _ member)
      rw [slashed, List.flatMap_cons, List.append_assoc, List.append_assoc, List.singleton_append,
        splitSegments_append isFolder.noSlash isFolder.noBackslash]
      exact congrArg (folder.toList :: ·) others

theorem readSegments_slashed (text : List Char) :
    readSegments true (slashed folders ++ text) =
      (addSegments [] (folders ++
        (splitSegments true text).map (encodeChars PercentEncoding.path))).reverse := by
  have unchanged :
      (folders.map String.toList).map (encodeChars PercentEncoding.path) = folders := by
    rw [List.map_map]
    refine (List.map_congr_left fun folder member => ?_).trans (List.map_id _)
    rw [Function.comp_apply, encodeChars, encode_of_kept (named folder member).pathChars,
      String.ofList_toList]
    rfl
  rw [readSegments, splitSegments_slashed named, List.map_append, unchanged]

end Folders

section Endings

/-- Whether a text at the end of a path is read as one segment that means the text. -/
structure IsPlainEnding (text : String) : Prop where
  noMarks : ∀ mark ∈ ['/', '\\', '?', '#', '\t', '\n', '\r'], mark ∉ text.toList
  endsVisibly : ∀ last ∈ text.toList.getLast?, 0x20 < last.toNat
  notDots : text ≠ "." ∧ text ≠ ".."
  unescaped : decode text = Utf8.encode text

theorem decode_encodeChars (text : List Char) :
    decode (encodeChars PercentEncoding.path text) = decode (String.ofList text) :=
  decode_encode_of_keepsEscapes keepsEscapes_path _

namespace IsPlainEnding

variable {text : String} (plain : IsPlainEnding text)
include plain

theorem kept_eq : kept text.toList = text.toList :=
  kept_eq_self_iff.mpr ⟨plain.endsVisibly, plain.noMarks '\t' (by simp),
    plain.noMarks '\n' (by simp), plain.noMarks '\r' (by simp)⟩

theorem decode_encodeChars_eq :
    decode (encodeChars PercentEncoding.path text.toList) = Utf8.encode text := by
  rw [decode_encodeChars, String.ofList_toList, plain.unescaped]

theorem not_isDots : ¬ IsDots (encodeChars PercentEncoding.path text.toList) := by
  have meaning := plain.decode_encodeChars_eq.symm
  rintro (single | double)
  · exact plain.notDots.1 (Utf8.encode_injective (meaning.trans (decode_of_isSingleDot single)))
  · exact plain.notDots.2 (Utf8.encode_injective (meaning.trans (decode_of_isDoubleDot double)))

end IsPlainEnding

/-- A part of a text that means all of it, once escapes are read, is all of it. -/
theorem eq_of_decode_sublist {part : List Char} {text : String} (inside : part.Sublist text.toList)
    (meant : decode (String.ofList part) = Utf8.encode text) : part = text.toList := by
  have bytesInside : (Utf8.encode (String.ofList part)).Sublist (Utf8.encode text) := by
    rw [Utf8.encode_ofList, ← Utf8.encode_toList text]
    exact inside.flatMap _
  have enough : (Utf8.encode text).length ≤ (Utf8.encode (String.ofList part)).length :=
    meant ▸ length_decodeBytes_le _
  have same := Utf8.encode_injective (bytesInside.eq_of_length_le enough)
  rw [← same, String.toList_ofList]

/-- A text that is the last segment of itself has no marks. -/
theorem noMarks_of_mem {text : List Char}
    (member : text ∈ splitSegments true (spanParts (kept text)).1) :
    (∀ mark ∈ ['/', '\\', '?', '#', '\t', '\n', '\r'], mark ∉ text) ∧
      ∀ last ∈ text.getLast?, 0x20 < last.toNat := by
  -- Trimming, ending the path and dividing it only take away; here nothing is taken away.
  obtain ⟨inPath, noSlash, noBackslash⟩ := sublist_of_mem_splitSegments member
  have pathInside : (spanParts (kept text)).1.Sublist (kept text) := by
    rw [path_spanParts]
    exact List.takeWhile_sublist _
  have unchanged := (kept_sublist text).antisymm (inPath.trans pathInside)
  rw [unchanged] at inPath pathInside
  have unended := pathInside.antisymm inPath
  rw [path_spanParts, List.takeWhile_eq_self_iff] at unended
  have noQuery : '?' ∉ text := fun inside => by simpa using unended '?' inside
  have noFragment : '#' ∉ text := fun inside => by simpa using unended '#' inside
  obtain ⟨endsVisibly, noTab, noFeed, noReturn⟩ := kept_eq_self_iff.mp unchanged
  refine ⟨?_, endsVisibly⟩
  simp [noSlash, noBackslash, noQuery, noFragment, noTab, noFeed, noReturn]

variable {folders : List String} (named : ∀ folder ∈ folders, IsFolder folder)
include named

theorem reach_of_plainEnding {text : String} (plain : IsPlainEnding text) (home : Url) :
    home.reach (kept (slashed folders ++ text.toList)) =
      { home with
        path := .segments (folders ++ [encodeChars PercentEncoding.path text.toList])
        query := none, fragment := none } := by
  have absent := plain.noMarks
  have noMark : ∀ mark, PercentEncoding.path mark = true → mark ∉ text.toList →
      mark ∉ slashed folders ++ text.toList := by
    intro mark escapedMark notIn member
    rcases List.mem_append.mp member with inFront | inText
    · exact (pathChar_of_mem_slashed named inFront).ne escapedMark rfl
    · exact notIn inText
  rw [kept_slashed named, plain.kept_eq,
    reach_of_plain ⟨noMark '?' rfl (absent '?' (by simp)), noMark '#' rfl (absent '#' (by simp))⟩,
    readSegments_slashed named,
    splitSegments_of_plain (absent '/' (by simp)) (absent '\\' (by simp)), List.map_singleton,
    addSegments_of_plain, List.append_nil, List.reverse_reverse]
  intro segment member
  rcases List.mem_append.mp member with isFolder | isText
  · exact (named segment isFolder).notDots
  · rw [List.mem_singleton.mp isText]
    exact plain.not_isDots

/-- The last segment that is read of an address is empty, or stands at the end of what is kept. -/
theorem last_segment_eq {text : List Char} {segment : String} {home : Url}
    (path : (home.reach (kept (slashed folders ++ text))).path = .segments (folders ++ [segment])) :
    segment = "" ∨ ∃ last ∈ splitSegments true (spanParts (kept text)).1,
      segment = encodeChars PercentEncoding.path last ∧ ¬ IsDots segment := by
  rw [kept_slashed named] at path
  change Path.segments (readSegments true (spanParts _).1) = _ at path
  rw [path_spanParts_slashed named, readSegments_slashed named, Path.segments.injEq,
    List.reverse_eq_iff, List.reverse_append] at path
  obtain ⟨front, last, divided⟩ := (List.eq_nil_or_concat'
    (splitSegments true (spanParts (kept text)).1)).resolve_left (Text.fields_ne_nil _ _)
  rw [divided, List.map_append, List.map_singleton, ← List.append_assoc] at path
  rcases head_addSegments (List.getLast?_concat) [] with isEmpty | ⟨isHead, notDots⟩
  · rw [path] at isEmpty
    exact .inl (Option.some.inj isEmpty)
  · rw [path] at isHead
    obtain rfl := Option.some.inj isHead
    exact .inr ⟨last, by rw [divided]; simp, rfl, notDots⟩

theorem isPlainEnding_of_path {text segment : String} {home : Url}
    (path : (home.reach (kept (slashed folders ++ text.toList))).path =
      .segments (folders ++ [segment]))
    (meant : decode segment = Utf8.encode text) : IsPlainEnding text := by
  rcases last_segment_eq named path with rfl | ⟨last, member, rfl, notDots⟩
  · have isEmpty : "" = text := Utf8.encode_injective meant
    subst isEmpty
    exact ⟨by simp, by simp, by decide, rfl⟩
  · -- Reading escapes makes no text longer, so what means all of the text is all of it.
    rw [decode_encodeChars] at meant
    have inPath := (sublist_of_mem_splitSegments member).1
    rw [path_spanParts] at inPath
    have inside := (inPath.trans (List.takeWhile_sublist _)).trans (kept_sublist text.toList)
    obtain rfl := eq_of_decode_sublist inside meant
    obtain ⟨noMarks, endsVisibly⟩ := noMarks_of_mem member
    refine ⟨noMarks, endsVisibly, ⟨?_, ?_⟩, by rwa [String.ofList_toList] at meant⟩
    · rintro rfl
      exact notDots (.inl rfl)
    · rintro rfl
      exact notDots (.inr rfl)

/-- A text behind the last slash of a path becomes a segment of its own exactly if it is plain. -/
theorem isPlainEnding_iff (text : String) (home : Url) :
    (∃ segment, (home.reach (kept (slashed folders ++ text.toList))).path =
      .segments (folders ++ [segment]) ∧ decode segment = Utf8.encode text) ↔
        IsPlainEnding text := by
  constructor
  · rintro ⟨segment, path, meant⟩
    exact isPlainEnding_of_path named path meant
  · intro plain
    exact ⟨_, congrArg Url.path (reach_of_plainEnding named plain home),
      plain.decode_encodeChars_eq⟩

end Endings

/-- Pairs are the whole query of a URL that had none. -/
theorem query_withPairs {url : Url} (noQuery : url.query = none) (pair : String × String)
    (others : List (String × String)) : (url.withPairs (pair :: others)).query =
      some (String.ofList (formText (pair :: others))) := by
  simp [withPairs, noQuery]

namespace Origin

variable (origin : Origin)

/-- The address of a folder, given by the folders that lead to it. -/
def folderAddress (folders : List String) : String :=
  origin.address (folders.flatMap fun folder => '/' :: folder.toList)

theorem folderAddress_append (folders : List String) (text : String) :
    origin.folderAddress folders ++ "/" ++ text =
      origin.address ('/' :: (slashed folders ++ text.toList)) := by
  have moved : folders.flatMap (fun folder => '/' :: folder.toList) ++ ['/'] =
      '/' :: slashed folders := by
    induction folders with
    | nil => rfl
    | cons folder rest ih =>
        rw [List.flatMap_cons, List.append_assoc, ih, slashed, slashed, List.flatMap_cons]
        simp
  apply String.toList_inj.mp
  rw [← List.cons_append, ← moved]
  simp [folderAddress, address]

theorem folderAddress_concat (folders : List String) (name : String) :
    origin.folderAddress (folders ++ [name]) = origin.folderAddress folders ++ "/" ++ name := by
  apply String.toList_inj.mp
  simp [folderAddress, address]

end Origin

end StoreGate.Url
