import StoreGate.Proofs.Proxy.TokenRoundTrip
import StoreGate.Proofs.Url.PathSegments
/-!
# Segments of proxy links

What follows the base address of a proxy link is written segment by segment: the route, the token
and the file name.  A token has nothing that a path would change.  Of a file name everything is
escaped that ends a segment, apart from the backslash, at which the parser of a path divides it.
-/

namespace StoreGate

namespace ProxyLink

open PercentEncoding Url

section Segments

/-- A text as it is written in one segment of a path. -/
def segmentOf (part : String) : String :=
  String.ofList (encode pathSegment part)

theorem toList_segmentOf (part : String) :
    (segmentOf part).toList = part.toList.flatMap (encodeChar pathSegment) := by
  rw [segmentOf, String.toList_ofList, encode_eq]

theorem decode_segmentOf (part : String) : decode (segmentOf part) = Utf8.encode part :=
  decode_encode rfl part

theorem segmentOf_injective {first second : String} (same : segmentOf first = segmentOf second) :
    first = second := by
  have meant := decode_segmentOf first
  rw [same, decode_segmentOf] at meant
  exact (Utf8.encode_injective meant).symm

theorem isPathChar_of_written {char written : Char}
    (member : written ∈ encodeChar pathSegment char) : IsPathChar written ∧ written ≠ '/' := by
  rcases mem_encodeChar member with ⟨rfl, isAscii, kept⟩ | mark
  · simp only [pathSegment, Bool.or_eq_false_iff, decide_eq_false_iff_not] at kept
    exact ⟨⟨isAscii, kept.1.1⟩, kept.2⟩
  · exact mark.satisfies
      (fun char => (char.toNat < 0x80 ∧ PercentEncoding.path char = false) ∧ char ≠ '/')
      (by decide) (by decide)

theorem isPathChar_of_mem {part : String} {char : Char} (member : char ∈ (segmentOf part).toList) :
    IsPathChar char ∧ char ≠ '/' := by
  rw [toList_segmentOf] at member
  obtain ⟨origin, _, written⟩ := List.mem_flatMap.mp member
  exact isPathChar_of_written written

theorem encodeChars_segmentOf (part : String) :
    encodeChars PercentEncoding.path (segmentOf part).toList = segmentOf part := by
  rw [encodeChars, encode_of_kept fun char member => (isPathChar_of_mem member).1,
    String.ofList_toList]

/-- Only one or two dots are written as dots. -/
theorem isDots_segmentOf_iff {part : String} :
    IsDots (segmentOf part) ↔ part = "." ∨ part = ".." := by
  constructor
  · rintro (isSingle | isDouble)
    · exact .inl (Utf8.encode_injective
        ((decode_segmentOf part).symm.trans (decode_of_isSingleDot isSingle)))
    · exact .inr (Utf8.encode_injective
        ((decode_segmentOf part).symm.trans (decode_of_isDoubleDot isDouble)))
  · rintro (rfl | rfl)
    · exact .inl rfl
    · exact .inr rfl

/-- Slashes are escaped, so the parser divides what was written at the backslashes alone. -/
theorem splitSegments_written (characters : List Char) :
    splitSegments true (characters.flatMap (encodeChar pathSegment)) =
      (Text.fields '\\' characters).map (·.flatMap (encodeChar pathSegment)) := by
  -- A backslash begins a new field on both sides. What any other character is written as holds no
  -- separator and joins the field behind it.
  induction characters with
  | nil => rfl
  | cons char rest ih =>
      rw [splitSegments] at ih
      rw [splitSegments, List.flatMap_cons, List.map_append, Text.fields]
      split
      · rename_i backslash
        subst backslash
        have written : (encodeChar pathSegment '\\').map
            (fun char => if isSlash true char then '/' else char) = ['/'] := by decide
        rw [written, List.singleton_append, Text.fields, if_pos rfl, ih]
        rfl
      · rename_i differ
        have foreign : ¬ IsEscapeMark '\\' := fun mark =>
          mark.satisfies (· ≠ '\\') (by decide) (by decide) rfl
        have noSlash : '/' ∉ encodeChar pathSegment char := fun member =>
          (isPathChar_of_written member).2 rfl
        rw [map_slash_of_plain (not_mem_encodeChar differ foreign)]
        cases divided : Text.fields '\\' rest with
        | nil => exact absurd divided (Text.fields_ne_nil '\\' rest)
        | cons first others =>
            rw [divided, List.map_cons] at ih
            rw [Text.fields_append_of_fields noSlash ih]
            rfl

end Segments

section Tokens

/-- Whether a text consists of base64 symbols and dots, and begins with a symbol. -/
structure IsTokenText (token : String) : Prop where
  plain : ∀ char ∈ token.toList, char = '.' ∨ (Base64Url.value? char).isSome
  begins : ∃ first ∈ token.toList.head?, (Base64Url.value? first).isSome

/-- What holds for the symbols of all values holds for every symbol. -/
theorem symbol_satisfies {char : Char} (isSymbol : (Base64Url.value? char).isSome)
    (property : Char → Prop)
    (holds : ∀ value : Fin 64, property (Base64Url.symbol (UInt8.ofNat value.val))) :
    property char := by
  obtain ⟨value, known⟩ := Option.isSome_iff_exists.mp isSymbol
  obtain ⟨rfl, small⟩ := Base64Url.symbol_of_value? known
  have bound : value.toNat < 64 := UInt8.lt_iff_toNat_lt.mp small
  simpa using holds ⟨value.toNat, bound⟩

theorem isTokenText_unsigned (bytes : List UInt8) :
    IsTokenText (ProxyToken.unsignedMark ++ Base64Url.encode bytes) := by
  have spelled : ProxyToken.unsignedMark.toList = ['b', 'a', 's', 'e', '6', '4', '.'] := rfl
  refine ⟨fun char member => ?_, 'b', ?_, by decide⟩
  · rw [String.toList_append, Base64Url.encode, String.toList_ofList] at member
    rcases List.mem_append.mp member with inMark | inPayload
    · simp only [spelled, List.mem_cons, List.not_mem_nil, or_false] at inMark
      rcases inMark with rfl | rfl | rfl | rfl | rfl | rfl | rfl <;> decide
    · exact .inr (Base64Url.isSome_value?_of_mem inPayload)
  · rw [String.toList_append]
    rfl

theorem isTokenText_sign (secret : String) (claims : Json) :
    IsTokenText (SignedToken.sign secret claims) := by
  have written : Base64Url.encodeBytes (SignedToken.documentBytes SignedToken.headerJson) ≠ [] := by
    decide
  obtain ⟨first, rest, header⟩ := List.exists_cons_of_ne_nil written
  refine ⟨fun char member => ?_, first, ?_, ?_⟩
  · rw [SignedToken.sign, String.toList_ofList] at member
    simp only [List.mem_append, List.mem_cons] at member
    rcases member with inHeader | rfl | inClaims | rfl | inSignature
    · exact .inr (Base64Url.isSome_value?_of_mem inHeader)
    · exact .inl rfl
    · exact .inr (Base64Url.isSome_value?_of_mem inClaims)
    · exact .inl rfl
    · exact .inr (Base64Url.isSome_value?_of_mem inSignature)
  · rw [SignedToken.sign, String.toList_ofList, header]
    rfl
  · exact Base64Url.isSome_value?_of_mem (header ▸ List.mem_cons_self)

theorem isTokenText_of_create {now : Nat} {nonce : Nonce} {request : LinkRequest}
    (valid : request.validate = .ok ()) {token : String}
    (created : ProxyToken.create now nonce request = .ok token) : IsTokenText token := by
  cases isSigned : request.isSigned with
  | false =>
      rw [ProxyToken.create_of_unsigned valid isSigned] at created
      exact Except.ok.inj created ▸ isTokenText_unsigned _
  | true =>
      have countable := ProxyToken.isCountable_of_create created
      rw [ProxyToken.create_of_signed valid isSigned countable] at created
      exact Except.ok.inj created ▸ isTokenText_sign _ _

namespace IsTokenText

variable {token : String} (isToken : IsTokenText token)
include isToken

theorem kept {char : Char} (member : char ∈ token.toList) :
    (char.toNat < 0x80 ∧ pathSegment char = false) ∧ char ≠ '\\' := by
  rcases isToken.plain char member with rfl | isSymbol
  · decide
  · exact symbol_satisfies isSymbol
      (fun char => (char.toNat < 0x80 ∧ pathSegment char = false) ∧ char ≠ '\\') (by decide)

theorem segmentOf_eq : segmentOf token = token := by
  have unescaped := encode_of_kept fun char member => (isToken.kept member).1
  rw [segmentOf, ← String.ofList_toList (s := token), unescaped, String.ofList_toList]

theorem ne_of_begins {text : String}
    (foreign : ∀ first ∈ text.toList.head?, Base64Url.value? first = none) : token ≠ text := by
  rintro rfl
  obtain ⟨first, isFirst, isSymbol⟩ := isToken.begins
  simp [foreign first isFirst] at isSymbol

end IsTokenText

end Tokens

section Paths

variable {token : String} {filename : Option String}

/-- The parts from which the path of a link is put together, with the file name divided at its
backslashes. -/
def partsOf (token : String) (filename : Option String) : List String :=
  ["v0", "proxy", token] ++
    filename.toList.flatMap fun name => (Text.fields '\\' name.toList).map String.ofList

/-- What stands behind the first slash of the path of a link. -/
def innerOf (token : String) (filename : Option String) : List Char :=
  "v0".toList ++ '/' :: ("proxy".toList ++ '/' :: (token.toList ++
    filename.toList.flatMap fun name => '/' :: (segmentOf name).toList))

/-- Whether a file name is read back as one segment. -/
def IsOneSegment (name : String) : Prop :=
  '\\' ∉ name.toList ∧ name ≠ "." ∧ name ≠ ".."

theorem map_segmentOf_route (isToken : IsTokenText token) :
    ["v0", "proxy", token].map segmentOf = ["v0", "proxy", token] := by
  have route : segmentOf "v0" = "v0" ∧ segmentOf "proxy" = "proxy" := by decide
  rw [List.map_cons, List.map_cons, List.map_singleton, route.1, route.2, isToken.segmentOf_eq]

theorem splitSegments_innerOf (isToken : IsTokenText token) :
    splitSegments true (innerOf token filename) =
      ((partsOf token filename).map segmentOf).map String.toList := by
  have noSlash : '/' ∉ token.toList := fun member =>
    absurd (isToken.kept member).1.2 (by decide)
  have noBackslash : '\\' ∉ token.toList := fun member => (isToken.kept member).2 rfl
  rw [innerOf, splitSegments_append (by decide) (by decide),
    splitSegments_append (by decide) (by decide), partsOf, List.map_append,
    map_segmentOf_route isToken]
  cases filename with
  | none =>
      rw [Option.toList_none, List.flatMap_nil, List.append_nil,
        splitSegments_of_plain noSlash noBackslash]
      rfl
  | some name =>
      rw [Option.toList_some, List.flatMap_singleton, splitSegments_append noSlash noBackslash,
        toList_segmentOf, splitSegments_written, List.flatMap_singleton]
      simp [toList_segmentOf, Function.comp_def]

theorem isPathChar_of_mem_innerOf (isToken : IsTokenText token) {char : Char}
    (member : char ∈ innerOf token filename) : char = '/' ∨ IsPathChar char := by
  have written : ∀ part, char ∈ (segmentOf part).toList → char = '/' ∨ IsPathChar char :=
    fun part inside => .inr (isPathChar_of_mem inside).1
  rw [innerOf] at member
  simp only [List.mem_append, List.mem_cons, List.mem_flatMap] at member
  rcases member with inVersion | rfl | inProxy | rfl | inToken | ⟨name, _, rfl | inName⟩
  · exact written "v0" inVersion
  · exact .inl rfl
  · exact written "proxy" inProxy
  · exact .inl rfl
  · exact written token (isToken.segmentOf_eq.symm ▸ inToken)
  · exact .inl rfl
  · exact written name inName

theorem readSegments_innerOf (isToken : IsTokenText token) :
    readSegments true (innerOf token filename) =
      (addSegments [] ((partsOf token filename).map segmentOf)).reverse := by
  have unchanged : ∀ parts : List String, ((parts.map segmentOf).map String.toList).map
      (encodeChars PercentEncoding.path) = parts.map segmentOf := by
    intro parts
    rw [List.map_map, List.map_map]
    exact List.map_congr_left fun part _ => encodeChars_segmentOf part
  rw [readSegments, splitSegments_innerOf isToken, unchanged]

theorem not_mem_partsOf (isToken : IsTokenText token) {part : String}
    (member : part ∈ partsOf token filename) : '\\' ∉ part.toList := by
  simp only [partsOf, List.mem_append, List.mem_cons, List.not_mem_nil, or_false,
    List.mem_flatMap, List.mem_map] at member
  rcases member with (rfl | rfl | rfl) | ⟨name, _, field, isField, rfl⟩
  · decide
  · decide
  · exact fun inside => (isToken.kept inside).2 rfl
  · rw [String.toList_ofList]
    exact Text.not_mem_of_mem_fields isField

theorem partsOf_of_oneSegment (single : ∀ name ∈ filename, IsOneSegment name) :
    partsOf token filename = ["v0", "proxy", token] ++ filename.toList := by
  cases filename with
  | none => rfl
  | some name =>
      rw [partsOf, Option.toList_some, List.flatMap_singleton,
        Text.fields_of_not_mem (single name rfl).1, List.map_singleton, String.ofList_toList]

/-- A file name that is not divided, and no dots, leaves every part of a path in its place. -/
theorem addSegments_of_oneSegment (isToken : IsTokenText token)
    (single : ∀ name ∈ filename, IsOneSegment name) :
    (addSegments [] ((partsOf token filename).map segmentOf)).reverse =
      ["v0", "proxy", token] ++ filename.toList.map segmentOf := by
  have parts : partsOf token filename = _ := partsOf_of_oneSegment single
  have notDots : ∀ part ∈ partsOf token filename, part ≠ "." ∧ part ≠ ".." := by
    intro part member
    simp only [parts, List.mem_append, List.mem_cons, List.not_mem_nil, or_false,
      Option.mem_toList] at member
    rcases member with (rfl | rfl | rfl) | isName
    · decide
    · decide
    · have notSymbol : Base64Url.value? '.' = none := by decide
      exact ⟨isToken.ne_of_begins (by simp [notSymbol]), isToken.ne_of_begins (by simp [notSymbol])⟩
    · exact (single part isName).2
  rw [addSegments_of_plain, List.append_nil, List.reverse_reverse, parts, List.map_append,
    map_segmentOf_route isToken]
  intro segment member isDots
  obtain ⟨part, isPart, rfl⟩ := List.mem_map.mp member
  rcases isDots_segmentOf_iff.mp isDots with single | double
  · exact (notDots part isPart).1 single
  · exact (notDots part isPart).2 double

end Paths

end ProxyLink

end StoreGate
