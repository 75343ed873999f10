import StoreGate.Proofs.MagnetLinks
/-!
# What is accepted as an info hash

An input carries a text as its hash: all of it, or what the last topic of a link says.  The input
is accepted exactly if that text is made of forty hexadecimal digits or of thirty-two symbols of
base32, and it is the twenty bytes spelled so, not their spelling, that decide about the hash.
-/

namespace StoreGate

namespace Hexadecimal

theorem isDigit_iff {char : Char} : isDigit char = true ↔ char.toLower ∈ digits := by
  refine ⟨toLower_mem_digits, fun member => ?_⟩
  have ascii : char.toNat < 128 :=
    ascii_of_toLower (ascii_of_isDigit (of_mem_digits member).1.1)
  exact of_ascii (fun char => char.toLower ∈ digits → isDigit char = true) (by decide +kernel) ascii
    member

theorem value?_digit : ∀ value : Fin 16, value? (digit value) = some value.val := by
  decide

theorem digit_of_value? {char : Char} {value : Nat} (known : value? char = some value) :
    value < 16 ∧ digit value = char.toLower := by
  have ascii := ascii_of_isDigit (Option.isSome_iff_exists.mpr ⟨value, known⟩)
  exact of_ascii (fun char => ∀ value ∈ value? char, value < 16 ∧ digit value = char.toLower)
    (by decide) ascii value known

theorem decode?_encode (bytes : List UInt8) : decode? (encode bytes) = some bytes := by
  induction bytes with
  | nil => rfl
  | cons byte bytes ih =>
      have bound := byte.toNat_lt
      have high := value?_digit ⟨byte.toNat / 16, by omega⟩
      have low := value?_digit ⟨byte.toNat % 16, Nat.mod_lt _ (by decide)⟩
      have whole : UInt8.ofNat (16 * (byte.toNat / 16) + byte.toNat % 16) = byte := by
        rw [Nat.div_add_mod, UInt8.ofNat_toNat]
      have read : decode? (encode (byte :: bytes)) =
          value? (digit (byte.toNat / 16)) >>= fun high =>
            value? (digit (byte.toNat % 16)) >>= fun low =>
              decode? (encode bytes) >>= fun rest =>
                some (UInt8.ofNat (16 * high + low) :: rest) := rfl
      rw [read, high, low, ih]
      exact congrArg (fun own => some (own :: bytes)) whole

theorem encode_of_decode? {text : List Char} {bytes : List UInt8}
    (read : decode? text = some bytes) : encode bytes = text.map Char.toLower := by
  fun_induction decode? text generalizing bytes with
  | case1 =>
      cases read
      rfl
  | case2 => cases read
  | case3 high low rest ih =>
      obtain ⟨highValue, isHigh, read⟩ := Option.bind_eq_some_iff.mp read
      obtain ⟨lowValue, isLow, read⟩ := Option.bind_eq_some_iff.mp read
      obtain ⟨others, readOthers, same⟩ := Option.bind_eq_some_iff.mp read
      cases same
      obtain ⟨highSmall, highDigit⟩ := digit_of_value? isHigh
      obtain ⟨lowSmall, lowDigit⟩ := digit_of_value? isLow
      have byte : (UInt8.ofNat (16 * highValue + lowValue)).toNat = 16 * highValue + lowValue := by
        rw [UInt8.toNat_ofNat', Nat.mod_eq_of_lt (by omega)]
      have front : encodeByte (UInt8.ofNat (16 * highValue + lowValue)) =
          [high.toLower, low.toLower] := by
        rw [encodeByte, byte, show (16 * highValue + lowValue) / 16 = highValue by omega,
          show (16 * highValue + lowValue) % 16 = lowValue by omega, highDigit, lowDigit]
      have apart : encode (UInt8.ofNat (16 * highValue + lowValue) :: others) =
          encodeByte (UInt8.ofNat (16 * highValue + lowValue)) ++ encode others := rfl
      rw [apart, front, ih readOthers]
      rfl

theorem exists_decode? {text : List Char} (even : text.length % 2 = 0)
    (digits : ∀ char ∈ text, isDigit char = true) : ∃ bytes, decode? text = some bytes := by
  fun_induction decode? text with
  | case1 => exact ⟨[], rfl⟩
  | case2 => cases even
  | case3 high low rest ih =>
      obtain ⟨isHigh, isLow, others⟩ := by simpa only [List.forall_mem_cons] using digits
      obtain ⟨highValue, high⟩ := Option.isSome_iff_exists.mp isHigh
      obtain ⟨lowValue, low⟩ := Option.isSome_iff_exists.mp isLow
      obtain ⟨bytes, read⟩ := ih (by simp only [List.length_cons] at even; omega) others
      rw [high, low, read]
      exact ⟨_, rfl⟩

end Hexadecimal

namespace Base32

theorem symbol_of_value? {char : Char} {value : Nat} (known : value? char = some value) :
    value < 32 ∧ symbol value = char :=
  of_ascii (fun char => ∀ value ∈ value? char, value < 32 ∧ symbol value = char) (by decide)
    (ascii_of_value? known) value known

theorem map_symbol_of_mapM {characters : List Char} {values : List Nat}
    (read : characters.mapM value? = some values) :
    (∀ value ∈ values, value < 32) ∧ values.map symbol = characters := by
  induction characters generalizing values with
  | nil =>
      cases read
      exact ⟨by simp, rfl⟩
  | cons char characters ih =>
      rw [List.mapM_cons] at read
      obtain ⟨value, known, read⟩ := Option.bind_eq_some_iff.mp read
      obtain ⟨others, readOthers, same⟩ := Option.bind_eq_some_iff.mp read
      cases same
      obtain ⟨small, written⟩ := symbol_of_value? known
      obtain ⟨othersSmall, othersWritten⟩ := ih readOthers
      refine ⟨List.forall_mem_cons.mpr ⟨small, othersSmall⟩, ?_⟩
      rw [List.map_cons, written, othersWritten]

theorem groupValues_groupBytes {values : List Nat} (eight : values.length = 8)
    (small : ∀ value ∈ values, value < 32) : groupValues (groupBytes values) = values := by
  match values, eight with
  | [a, b, c, d, e, f, g, h], _ =>
    simp only [List.forall_mem_cons] at small
    obtain ⟨_, _, _, _, _, _, _, _, _⟩ := small
    let number := [a, b, c, d, e, f, g, h].foldl (fun sum value => 32 * sum + value) 0
    have written : number = 32 * (32 * (32 * (32 * (32 * (32 * (32 * a + b) + c) + d) + e) + f) +
        g) + h := by
      simp [number]
    -- The five bytes are the digits of the number to the base 256.
    have read : groupNumber (groupBytes [a, b, c, d, e, f, g, h]) = number := by
      have bytes : groupBytes [a, b, c, d, e, f, g, h] =
          [4294967296, 16777216, 65536, 256, 1].map fun unit => UInt8.ofNat (number / unit) := rfl
      rw [bytes]
      simp only [groupNumber, List.map_cons, List.map_nil, List.foldl_cons, List.foldl_nil,
        UInt8.toNat_ofNat']
      omega
    rw [groupValues, read]
    simp only [List.map_cons, List.map_nil, List.cons.injEq, and_true]
    clear_value number
    refine ⟨?_, ?_, ?_, ?_, ?_, ?_, ?_, ?_⟩ <;> omega

theorem encode_of_decode? {text : List Char} {bytes : List UInt8}
    (read : decode? text = some bytes) : encode bytes = text := by
  fun_induction decode? text generalizing bytes with
  | case1 =>
      cases read
      rfl
  | case2 a b c d e f g h rest ih =>
      obtain ⟨values, known, read⟩ := Option.bind_eq_some_iff.mp read
      obtain ⟨others, readOthers, same⟩ := Option.bind_eq_some_iff.mp read
      cases same
      obtain ⟨small, written⟩ := map_symbol_of_mapM known
      have eight : values.length = 8 := by
        rw [← List.length_map symbol, written]
        rfl
      have apart : encode (groupBytes values ++ others) =
          (groupValues (groupBytes values)).map symbol ++ encode others := rfl
      rw [apart, groupValues_groupBytes eight small, written, ih readOthers]
      rfl
  | case3 => cases read

theorem exists_mapM {characters : List Char} (symbols : ∀ char ∈ characters, char ∈ alphabet) :
    ∃ values, characters.mapM value? = some values := by
  have known : alphabet.all (fun char => (value? char).isSome) = true := by decide
  induction characters with
  | nil => exact ⟨[], rfl⟩
  | cons char characters ih =>
      obtain ⟨member, others⟩ := List.forall_mem_cons.mp symbols
      obtain ⟨value, isValue⟩ :=
        Option.isSome_iff_exists.mp (List.all_eq_true.mp known char member)
      obtain ⟨values, read⟩ := ih others
      rw [List.mapM_cons, isValue, read]
      exact ⟨_, rfl⟩

theorem exists_decode? {text : List Char} (whole : text.length % 8 = 0)
    (symbols : ∀ char ∈ text, char ∈ alphabet) : ∃ bytes, decode? text = some bytes := by
  fun_induction decode? text with
  | case1 => exact ⟨[], rfl⟩
  | case2 a b c d e f g h rest ih =>
      obtain ⟨own, others⟩ := List.forall_mem_append.mp
        (show ∀ char ∈ [a, b, c, d, e, f, g, h] ++ rest, char ∈ alphabet from symbols)
      obtain ⟨values, known⟩ := exists_mapM own
      obtain ⟨bytes, read⟩ := ih (by simp only [List.length_cons] at whole; omega) others
      rw [known, read]
      exact ⟨_, rfl⟩
  | case3 text isEmpty short =>
      rcases text with _ | ⟨a, _ | ⟨b, _ | ⟨c, _ | ⟨d, _ | ⟨e, _ | ⟨f, _ | ⟨g, _ | ⟨h, rest⟩⟩⟩⟩⟩⟩⟩⟩
      · exact absurd rfl isEmpty
      iterate 7 cases whole
      exact absurd rfl (short a b c d e f g h rest)

end Base32

namespace Magnet

/-- Whether a text is one of the two ways to write twenty bytes, in whichever case. -/
def IsSpelling (text : String) : Prop :=
  (text.toList.length = 40 ∧ ∀ char ∈ text.toList, char.toLower ∈ Hexadecimal.digits) ∨
    (text.toList.length = 32 ∧ ∀ char ∈ text.toList, char.toUpper ∈ Base32.alphabet)

/-- Whether a text writes bytes in one of the two ways. -/
def Spells (text : String) (bytes : List UInt8) : Prop :=
  text.toList.map Char.toLower = Hexadecimal.encode bytes ∨
    text.toList.map Char.toUpper = Base32.encode bytes

instance (text : String) : Decidable (IsSpelling text) :=
  inferInstanceAs (Decidable (_ ∨ _))

instance (text : String) (bytes : List UInt8) : Decidable (Spells text bytes) :=
  inferInstanceAs (Decidable (_ ∨ _))

theorem isSpelling_iff {text : String} :
    IsSpelling text ↔ ∃ bytes, bytes.length = 20 ∧ Spells text bytes := by
  constructor
  · rintro (⟨forty, digits⟩ | ⟨length, symbols⟩)
    · obtain ⟨bytes, read⟩ := Hexadecimal.exists_decode? (by rw [forty]) fun char member =>
        Hexadecimal.isDigit_iff.mpr (digits char member)
      have written := Hexadecimal.encode_of_decode? read
      refine ⟨bytes, ?_, .inl written.symm⟩
      have lengths := congrArg List.length written
      rw [Hexadecimal.length_encode, List.length_map] at lengths
      omega
    · obtain ⟨bytes, read⟩ := Base32.exists_decode? (by rw [List.length_map, length])
        (List.forall_mem_map.mpr symbols)
      refine ⟨bytes, ?_, .inr (Base32.encode_of_decode? read).symm⟩
      have lengths := (Base32.shape_of_decode? read).2
      rw [List.length_map] at lengths
      omega
  · rintro ⟨bytes, twenty, digits | symbols⟩
    · refine .inl ⟨?_, fun char member => ?_⟩
      · rw [← List.length_map Char.toLower, digits, Hexadecimal.length_encode, twenty]
      · have written := List.mem_map_of_mem (f := Char.toLower) member
        rw [digits] at written
        exact Hexadecimal.mem_digits_of_mem_encode written
    · have read : Base32.decode? (text.toList.map Char.toUpper) = some bytes := by
        rw [symbols]
        exact Base32.decode?_encode (by omega)
      refine .inr ⟨?_, fun char member => ?_⟩
      · have lengths := (Base32.shape_of_decode? read).2
        rw [List.length_map] at lengths
        omega
      · have written := List.mem_map_of_mem (f := Char.toUpper) member
        rw [symbols] at written
        exact Base32.mem_alphabet_of_mem_encode written

theorem hexHash_injective : Function.Injective hexHash := by
  intro bytes other same
  have encoded : Hexadecimal.encode bytes = Hexadecimal.encode other :=
    String.ofList_injective same
  have read := congrArg Hexadecimal.decode? encoded
  rwa [Hexadecimal.decode?_encode, Hexadecimal.decode?_encode, Option.some.injEq] at read

theorem normalizeHash_of_spells {text : String} {bytes : List UInt8} (twenty : bytes.length = 20)
    (spells : Spells text bytes) : normalizeHash text = .ok (hexHash bytes) := by
  rcases spells with digits | symbols
  · have length : text.toList.length = 40 := by
      rw [← List.length_map Char.toLower, digits, Hexadecimal.length_encode, twenty]
    rw [normalizeHash_of_digits length, digits, hexHash]
    intro char member
    have written := List.mem_map_of_mem (f := Char.toLower) member
    rw [digits] at written
    exact Hexadecimal.isDigit_iff.mpr (Hexadecimal.mem_digits_of_mem_encode written)
  · exact normalizeHash_of_symbols twenty symbols

theorem isSpelling_of_normalizeHash {text hash : String}
    (accepted : normalizeHash text = .ok hash) : IsSpelling text := by
  rcases normalizeHash_cases accepted with ⟨forty, digits, _⟩ | ⟨bytes, twenty, read, _⟩
  · exact .inl ⟨forty, fun char member => Hexadecimal.toLower_mem_digits (digits char member)⟩
  · exact isSpelling_iff.mpr ⟨bytes, twenty, .inr (Base32.encode_of_decode? read).symm⟩

theorem invalidInput_of_normalizeHash {text : String} {fault : Failure}
    (refused : normalizeHash text = .error fault) : ∃ reason, fault = .invalidInput reason := by
  unfold normalizeHash at refused
  split at refused
  · cases refused
  · split at refused
    · split at refused
      · cases refused
      · exact ⟨_, (Except.error.inj refused).symm⟩
    · exact ⟨_, (Except.error.inj refused).symm⟩

section Inputs

def Begins (beginning text : String) : Prop := ∃ rest, text = beginning ++ rest

/-- Whether a text is what the last topic of a query names, of those that name an info hash. -/
def IsLastTopic (pairs : List (String × String)) (text : String) : Prop :=
  ∃ before after, pairs = before ++ ("xt", topicMark ++ text) :: after ∧
    ∀ value, ("xt", value) ∈ after → ¬ Begins topicMark value

/-- Whether a text is what an input gives as its hash. -/
inductive Carries (input : String) : String → Prop where
  | bare (isBare : ¬ Begins scheme (Text.trim input)) : Carries input (Text.trim input)
  | link {url : Url} {text : String} (isLink : Begins scheme (Text.trim input))
      (isUrl : Url.parse (Text.trim input) = .ok url)
      (last : IsLastTopic (Url.queryPairs (url.query.getD "")) text) : Carries input text

/-- Whether an input spells an info hash of twenty bytes. -/
def Names (input : String) (bytes : List UInt8) : Prop :=
  bytes.length = 20 ∧ ∃ text, Carries input text ∧ Spells text bytes

theorem begins_iff {beginning text : String} :
    Begins beginning text ↔ (Text.afterText? beginning text).isSome = true := by
  simp only [Begins, Option.isSome_iff_exists, Text.afterText?_eq_some_iff]

theorem topic?_eq_some_iff {pair : String × String} {text : String} :
    topic? pair = some text ↔ pair = ("xt", topicMark ++ text) := by
  obtain ⟨key, value⟩ := pair
  unfold topic?
  by_cases isTopic : key = "xt"
  · simp [isTopic, Text.afterText?_eq_some_iff]
  · simp [isTopic]

theorem topic?_eq_none_iff {pair : String × String} :
    topic? pair = none ↔ ∀ value, ("xt", value) = pair → ¬ Begins topicMark value := by
  rw [Option.eq_none_iff_forall_ne_some]
  constructor
  · rintro none value rfl ⟨text, begins⟩
    exact none text (topic?_eq_some_iff.mpr (by rw [begins]))
  · intro noTopic text some
    exact noTopic _ (topic?_eq_some_iff.mp some).symm ⟨text, rfl⟩

theorem isLastTopic_iff {pairs : List (String × String)} {text : String} :
    IsLastTopic pairs text ↔ (pairs.filterMap topic?).getLast? = some text := by
  rw [List.getLast?_filterMap, List.findSome?_eq_some_iff]
  constructor
  · rintro ⟨before, after, rfl, noMore⟩
    refine ⟨after.reverse, _, before.reverse, by simp, topic?_eq_some_iff.mpr rfl, ?_⟩
    intro pair member
    refine topic?_eq_none_iff.mpr ?_
    rintro value rfl
    exact noMore value (List.mem_reverse.mp member)
  · rintro ⟨after, pair, before, divided, isTopic, noMore⟩
    rw [topic?_eq_some_iff] at isTopic
    subst isTopic
    refine ⟨before.reverse, after.reverse, ?_, fun value member => ?_⟩
    · rw [← List.reverse_inj, divided]
      simp
    · exact topic?_eq_none_iff.mp (noMore _ (List.mem_reverse.mp member)) value rfl

theorem carries_iff {input text : String} :
    Carries input text ↔ ∃ name, readInput input = .ok (text, name) := by
  unfold readInput
  constructor
  · rintro (isBare | ⟨isLink, isUrl, last⟩)
    · rw [begins_iff] at isBare
      exact ⟨"", if_neg isBare⟩
    · rw [begins_iff] at isLink
      obtain ⟨name, read⟩ := readLink_of_topics isUrl (isLastTopic_iff.mp last)
      exact ⟨name, (if_pos isLink).trans read⟩
  · rintro ⟨name, read⟩
    split at read
    · rename_i isLink
      obtain ⟨url, isUrl, found⟩ := readLink_eq_ok_iff.mp read
      rw [ofPairs_eq] at found
      exact .link (begins_iff.mpr isLink) isUrl (isLastTopic_iff.mpr (Prod.mk.inj found).1)
    · rename_i isBare
      cases read
      exact .bare fun isLink => isBare (begins_iff.mp isLink)

theorem Carries.unique {input text other : String} (carries : Carries input text)
    (carriesOther : Carries input other) : text = other := by
  obtain ⟨_, read⟩ := carries_iff.mp carries
  obtain ⟨_, readOther⟩ := carries_iff.mp carriesOther
  exact (Prod.mk.inj (Except.ok.inj (read.symm.trans readOther))).1

theorem invalidInput_of_readInput {input : String} {fault : Failure}
    (refused : readInput input = .error fault) : ∃ reason, fault = .invalidInput reason := by
  unfold readInput readLink at refused
  split at refused
  · split at refused
    · exact ⟨_, (Except.error.inj refused).symm⟩
    · split at refused
      · cases refused
      · exact ⟨_, (Except.error.inj refused).symm⟩
  · cases refused

theorem invalidInput_of_parse {input : String} {fault : Failure}
    (refused : parse input = .error fault) : ∃ reason, fault = .invalidInput reason := by
  rw [parse_eq] at refused
  rcases bind_eq_error_iff.mp refused with unread | ⟨found, _, refused⟩
  · exact invalidInput_of_readInput unread
  · rcases bind_eq_error_iff.mp refused with abnormal | ⟨hash, _, given⟩
    · exact invalidInput_of_normalizeHash abnormal
    · cases given

theorem accepts_iff {input : String} :
    (∃ magnet, parse input = .ok magnet) ↔ ∃ text, Carries input text ∧ IsSpelling text := by
  constructor
  · rintro ⟨magnet, accepted⟩
    obtain ⟨text, hash, name, read, normal, _⟩ := parse_eq_ok_iff.mp accepted
    exact ⟨text, carries_iff.mpr ⟨name, read⟩, isSpelling_of_normalizeHash normal⟩
  · rintro ⟨text, carries, spelling⟩
    obtain ⟨name, read⟩ := carries_iff.mp carries
    obtain ⟨bytes, twenty, spells⟩ := isSpelling_iff.mp spelling
    exact ⟨_, parse_eq_ok_iff.mpr
      ⟨text, _, name, read, normalizeHash_of_spells twenty spells, rfl⟩⟩

/-- An accepted input names bytes, no others beside them, and they are its hash. -/
theorem names_of_parse {input : String} {magnet : Magnet} (accepted : parse input = .ok magnet) :
    ∃ bytes, magnet.hash = hexHash bytes ∧ ∀ named, Names input named ↔ named = bytes := by
  obtain ⟨text, hash, name, read, normal, rfl⟩ := parse_eq_ok_iff.mp accepted
  have carried : Carries input text := carries_iff.mpr ⟨name, read⟩
  obtain ⟨bytes, twenty, spells⟩ := isSpelling_iff.mp (isSpelling_of_normalizeHash normal)
  have isHash : hash = hexHash bytes := by
    rw [normalizeHash_of_spells twenty spells] at normal
    exact (Except.ok.inj normal).symm
  refine ⟨bytes, isHash, fun named => ⟨?_, ?_⟩⟩
  · rintro ⟨namedTwenty, other, carries, otherSpells⟩
    obtain rfl : text = other := carried.unique carries
    have same := (normalizeHash_of_spells namedTwenty otherSpells).symm.trans normal
    rw [isHash, Except.ok.injEq] at same
    exact hexHash_injective same
  · rintro rfl
    exact ⟨twenty, text, carried, spells⟩

end Inputs

/-- An input is accepted if and only if the text that it carries as its hash is a spelling of twenty
bytes, and whatever is not accepted is an invalid input.  An accepted input names one string of
bytes, which are its hash, so that two of them have the same hash just if they spell the same
bytes. -/
theorem parse_accepts_spellings :
    (∀ input, (∃ magnet, parse input = .ok magnet) ↔
      ∃ text, Carries input text ∧ IsSpelling text) ∧
    (∀ input, (¬ ∃ text, Carries input text ∧ IsSpelling text) →
      ∃ reason, parse input = .error (.invalidInput reason)) ∧
    (∀ input magnet, parse input = .ok magnet →
      ∃ bytes, magnet.hash = hexHash bytes ∧ ∀ named, Names input named ↔ named = bytes) ∧
    ∀ input other magnet otherMagnet, parse input = .ok magnet → parse other = .ok otherMagnet →
      (magnet.hash = otherMagnet.hash ↔ ∃ bytes, Names input bytes ∧ Names other bytes) := by
  refine ⟨fun input => accepts_iff, fun input refused => ?_, fun input magnet => names_of_parse, ?_⟩
  · rw [← accepts_iff] at refused
    cases read : parse input with
    | ok magnet => exact absurd ⟨magnet, read⟩ refused
    | error fault =>
        obtain ⟨reason, rfl⟩ := invalidInput_of_parse read
        exact ⟨reason, rfl⟩
  · intro input other magnet otherMagnet accepted otherAccepted
    obtain ⟨bytes, isHash, named⟩ := names_of_parse accepted
    obtain ⟨otherBytes, isOtherHash, otherNamed⟩ := names_of_parse otherAccepted
    rw [isHash, isOtherHash, hexHash_injective.eq_iff]
    constructor
    · rintro rfl
      exact ⟨bytes, (named bytes).mpr rfl, (otherNamed bytes).mpr rfl⟩
    · rintro ⟨both, isNamed, isOtherNamed⟩
      exact ((named both).mp isNamed).symm.trans ((otherNamed both).mp isOtherNamed)

section Film

def filmDigits : String := "  C9E15763F722F23E98A29DECDFAE341B98D53056\n"

def twoTopics : String :=
  "magnet:?xt=urn:btih:zhqvoy7xelzd5gfctxwn7lrudomnkmcw&xt=urn:btih:bunny&xt=urn:sha1:bunny"

def twoTopicsUrl : Url :=
  ⟨"magnet", "", none, false, none, none, .opaqueText "",
    some "xt=urn:btih:zhqvoy7xelzd5gfctxwn7lrudomnkmcw&xt=urn:btih:bunny&xt=urn:sha1:bunny", none⟩

/-- A film has the same hash in a link, in base32, and bare, in capital digits; a link whose last
topic is no hash is refused, whatever stands before it. -/
theorem parse_accepts_spellings_film :
    (∃ magnet bare, parse filmLink = .ok magnet ∧ parse filmDigits = .ok bare ∧
      magnet.hash = bare.hash ∧ magnet.hash = hexHash filmBytes) ∧
    ∃ reason, parse twoTopics = .error (.invalidInput reason) := by
  obtain ⟨accepted, refused, hash, same⟩ := parse_accepts_spellings
  have inLink : Carries filmLink filmSymbols :=
    .link (begins_iff.mpr (by decide +kernel))
      (show Url.parse (Text.trim filmLink) = .ok filmUrl by decide +kernel)
      (isLastTopic_iff.mpr (by decide +kernel))
  have isBare : Carries filmDigits (Text.trim filmDigits) :=
    .bare fun begins => absurd (begins_iff.mp begins) (by decide +kernel)
  have last : Carries twoTopics "bunny" :=
    .link (begins_iff.mpr (by decide +kernel))
      (show Url.parse (Text.trim twoTopics) = .ok twoTopicsUrl by decide +kernel)
      (isLastTopic_iff.mpr (by decide +kernel))
  have symbols : Spells filmSymbols filmBytes := by decide +kernel
  have digits : Spells (Text.trim filmDigits) filmBytes := by decide +kernel
  have named : Names filmLink filmBytes := ⟨rfl, _, inLink, symbols⟩
  have bareNamed : Names filmDigits filmBytes := ⟨rfl, _, isBare, digits⟩
  refine ⟨?_, refused twoTopics ?_⟩
  · obtain ⟨magnet, given⟩ := (accepted filmLink).mpr
      ⟨_, inLink, isSpelling_iff.mpr ⟨_, rfl, symbols⟩⟩
    obtain ⟨bare, bareGiven⟩ := (accepted filmDigits).mpr
      ⟨_, isBare, isSpelling_iff.mpr ⟨_, rfl, digits⟩⟩
    obtain ⟨bytes, isHash, isNamed⟩ := hash filmLink magnet given
    obtain rfl := (isNamed filmBytes).mp named
    exact ⟨magnet, bare, given, bareGiven,
      (same _ _ _ _ given bareGiven).mpr ⟨filmBytes, named, bareNamed⟩, isHash⟩
  · rintro ⟨text, carries, spelling⟩
    rw [carries.unique last] at spelling
    exact absurd spelling (by decide +kernel)

end Film

end Magnet

end StoreGate
