import StoreGate.Proofs.InfoHashes
import StoreGate.Proofs.Url.WebAddresses
/-!
# Canonical magnet links

A canonical link holds a hash and a name, the name as escapes.  Reading it as a URL with a query
gives the two back, for whatever name: nothing in the link means anything to the reader of URLs but
the marks that the link was put together with.
-/

namespace StoreGate

namespace Text

theorem trim_of_visible {text : String} (visible : ∀ char ∈ text.toList, isBlank char = false) :
    trim text = text := by
  unfold trim trimEnd trimStart
  rw [dropWhile_of_kept visible,
    dropWhile_of_kept fun char member => visible char (List.mem_reverse.mp member),
    List.reverse_reverse, String.ofList_toList]

theorem trim_trim (text : String) : trim (trim text) = trim text := by
  have start : trimStart (trimEnd (trimStart text.toList)) = trimEnd (trimStart text.toList) := by
    -- What is left begins as it did before its end was trimmed.
    have isPart : trimEnd (trimStart text.toList) <+: trimStart text.toList := by
      rw [← List.reverse_suffix]
      unfold trimEnd
      rw [List.reverse_reverse]
      exact List.dropWhile_suffix isBlank
    cases left : trimEnd (trimStart text.toList) with
    | nil => rfl
    | cons first rest =>
        rw [left] at isPart
        obtain ⟨others, whole⟩ := isPart
        have visible : ¬ isBlank first = true := by
          have head := List.head?_dropWhile_not isBlank text.toList
          unfold trimStart at whole
          rw [← whole] at head
          simpa using head
        exact List.dropWhile_cons_of_neg visible
  unfold trim
  rw [String.toList_ofList, start]
  unfold trimEnd
  rw [List.reverse_reverse, List.dropWhile_idempotent]

end Text

namespace Url

variable {name value : List Char}

theorem queryPairs_of_pair (noEqual : '=' ∉ name) (noAnd : '&' ∉ name ++ '=' :: value) :
    queryPairs (String.ofList (name ++ '=' :: value)) =
      [(PercentEncoding.decodeForm name, PercentEncoding.decodeForm value)] := by
  have divided : Text.splitAt? '=' (name ++ '=' :: value) = some (name, value) :=
    Text.splitAt?_eq_some_iff.mpr ⟨noEqual, rfl⟩
  unfold queryPairs
  rw [String.toList_ofList, Text.fields_of_not_mem noAnd]
  simp [divided]

/-- A pair is read by itself, whatever stands behind the next separator. -/
theorem queryPairs_of_more (noEqual : '=' ∉ name) (noAnd : '&' ∉ name ++ '=' :: value)
    (rest : List Char) :
    queryPairs (String.ofList ((name ++ '=' :: value) ++ '&' :: rest)) =
      (PercentEncoding.decodeForm name, PercentEncoding.decodeForm value) ::
        queryPairs (String.ofList rest) := by
  have divided : Text.splitAt? '=' (name ++ '=' :: value) = some (name, value) :=
    Text.splitAt?_eq_some_iff.mpr ⟨noEqual, rfl⟩
  unfold queryPairs
  rw [String.toList_ofList, String.toList_ofList, Text.fields_append noAnd,
    List.filter_cons_of_pos (by simp), List.map_cons, divided]

end Url

namespace Magnet

/-- What stands in canonical links beside letters and digits. -/
def linkMarks : List Char := ":?=&%".toList

def isLinkChar (char : Char) : Bool := char.isAlphanum || linkMarks.contains char

/-- What readers of texts and of URLs leave as it is. -/
structure IsPlain (char : Char) : Prop where
  ascii : char.toNat < 0x80
  above : 0x20 < char.toNat
  visible : Text.isBlank char = false
  kept : PercentEncoding.query char = false
  noFragment : char ≠ '#'

theorem isPlain_of_isLinkChar {char : Char} (isLink : isLinkChar char = true) : IsPlain char := by
  have ascii : char.toNat < 128 := by
    rcases Bool.or_eq_true_iff.mp isLink with isAlphanum | mark
    · exact ascii_of_isAlphanum isAlphanum
    · have marks : linkMarks.all (·.toNat < 128) = true := by decide
      exact of_decide_eq_true (List.all_eq_true.mp marks char (List.contains_iff_mem.mp mark))
  have all := of_ascii (fun char => isLinkChar char = true →
      0x20 < char.toNat ∧ Text.isBlank char = false ∧
        PercentEncoding.query char = false ∧ char ≠ '#') (by decide +kernel) ascii
  obtain ⟨above, visible, kept, noFragment⟩ := all isLink
  exact ⟨ascii, above, visible, kept, noFragment⟩

def linkQuery (hash name : String) : List Char :=
  ("xt".toList ++ '=' :: (topicMark.toList ++ hash.toList)) ++
    if name.isEmpty then []
    else '&' :: ("dn".toList ++ '=' :: PercentEncoding.encode PercentEncoding.nonAlphanumeric name)

theorem toList_canonical (hash name : String) :
    (canonical hash name).toList = "magnet:?".toList ++ linkQuery hash name := by
  unfold canonical linkQuery topicMark
  cases name.isEmpty <;> simp

def IsAlphanumeric (hash : String) : Prop := ∀ char ∈ hash.toList, char.isAlphanum = true

section Links

variable {hash : String} (alphanumeric : IsAlphanumeric hash) (name : String)

include alphanumeric

theorem isLinkChar_of_mem_linkQuery {char : Char} (member : char ∈ linkQuery hash name) :
    isLinkChar char = true := by
  have key : "xt".toList.all isLinkChar = true := by decide
  have mark : topicMark.toList.all isLinkChar = true := by decide
  have title : "dn".toList.all isLinkChar = true := by decide
  have letters : ∀ char : Char, char.isAlphanum = true → isLinkChar char = true :=
    fun char isAlphanum => by rw [isLinkChar, isAlphanum, Bool.true_or]
  rw [List.all_eq_true] at key mark title
  unfold linkQuery at member
  rcases List.mem_append.mp member with front | back
  · simp only [List.mem_append, List.mem_cons] at front
    rcases front with inKey | rfl | inMark | inHash
    · exact key char inKey
    · decide
    · exact mark char inMark
    · exact letters char (alphanumeric char inHash)
  · split at back
    · cases back
    · simp only [List.mem_append, List.mem_cons] at back
      rcases back with rfl | inTitle | rfl | inName
      · decide
      · exact title char inTitle
      · decide
      · rcases PercentEncoding.alphanumeric_of_mem_encode inName with isAlphanum | rfl
        · exact letters char isAlphanum
        · decide

theorem isPlain_of_mem_canonical {char : Char} (member : char ∈ (canonical hash name).toList) :
    IsPlain char := by
  have words : "magnet:?".toList.all isLinkChar = true := by decide
  rw [toList_canonical] at member
  rcases List.mem_append.mp member with word | inQuery
  · exact isPlain_of_isLinkChar (List.all_eq_true.mp words char word)
  · exact isPlain_of_isLinkChar (isLinkChar_of_mem_linkQuery alphanumeric name inQuery)

theorem trim_canonical : Text.trim (canonical hash name) = canonical hash name :=
  Text.trim_of_visible fun _ member => (isPlain_of_mem_canonical alphanumeric name member).visible

/-- A canonical link is read as a URL with nothing but a query, and the query is kept as it is. -/
theorem parse_canonical_link : ∃ url, Url.parse (canonical hash name) = .ok url ∧
    url.query = some (String.ofList (linkQuery hash name)) := by
  have plain : ∀ char ∈ linkQuery hash name, IsPlain char :=
    fun char member => isPlain_of_isLinkChar (isLinkChar_of_mem_linkQuery alphanumeric name member)
  have readable : Url.readable (canonical hash name) =
      "magnet:?".toList ++ linkQuery hash name := by
    rw [← toList_canonical]
    exact Url.readable_of_visible fun _ member =>
      (isPlain_of_mem_canonical alphanumeric name member).above
  have scheme : Url.scheme? ("magnet:?".toList ++ linkQuery hash name) =
      some ("magnet", '?' :: linkQuery hash name) := by
    rfl
  have parts : Url.spanParts ('?' :: linkQuery hash name) =
      ([], some (linkQuery hash name), none) := by
    have noFragment : '#' ∉ '?' :: linkQuery hash name := by
      simp only [List.mem_cons, not_or]
      exact ⟨by decide, fun member => (plain _ member).noFragment rfl⟩
    rw [Url.spanParts, Text.splitAt?_of_not_mem noFragment]
    rfl
  have kept : Url.queryText false (linkQuery hash name) = String.ofList (linkQuery hash name) := by
    refine congrArg String.ofList (PercentEncoding.encode_of_kept fun char member => ?_)
    exact ⟨(plain char member).ascii, (plain char member).kept⟩
  refine ⟨Url.readPlain "magnet" ('?' :: linkQuery hash name), ?_, ?_⟩
  · rw [Url.parse, readable, scheme]
    rfl
  · rw [Url.readPlain, parts, ← kept]
    rfl

/-- The query of a canonical link holds the hash and, if there is one, the name. -/
theorem queryPairs_linkQuery : Url.queryPairs (String.ofList (linkQuery hash name)) =
    ("xt", topicMark ++ hash) :: if name.isEmpty then [] else [("dn", name)] := by
  let topic := topicMark.toList ++ hash.toList
  have lacks : ∀ mark : Char, mark ∉ topicMark.toList → mark.isAlphanum = false →
      mark ∉ topic := by
    intro mark absent isMark member
    rcases List.mem_append.mp member with word | inHash
    · exact absent word
    · exact absurd (alphanumeric mark inHash) (by simp [isMark])
  -- Neither the hash nor the escapes of the name hold what divides pairs or is decoded.
  have plus := lacks '+' (by decide) (by decide)
  have percent := lacks '%' (by decide) (by decide)
  have separator := lacks '&' (by decide) (by decide)
  have noAnd : '&' ∉ "xt".toList ++ '=' :: topic := by simpa using separator
  have key : PercentEncoding.decodeForm "xt".toList = "xt" :=
    PercentEncoding.decodeForm_of_plain (by decide) (by decide)
  have value : PercentEncoding.decodeForm topic = topicMark ++ hash := by
    rw [PercentEncoding.decodeForm_of_plain plus percent, String.ofList_append,
      String.ofList_toList, String.ofList_toList]
  cases unnamed : name.isEmpty with
  | true =>
      have query : linkQuery hash name = "xt".toList ++ '=' :: topic := by
        rw [linkQuery, unnamed, if_pos rfl, List.append_nil]
      rw [query, Url.queryPairs_of_pair (by decide) noAnd, key, value]
      rfl
  | false =>
      let written := PercentEncoding.encode PercentEncoding.nonAlphanumeric name
      have query : linkQuery hash name = ("xt".toList ++ '=' :: topic) ++
          '&' :: ("dn".toList ++ '=' :: written) := by
        rw [linkQuery, unnamed, if_neg Bool.false_ne_true]
      have title : PercentEncoding.decodeForm "dn".toList = "dn" :=
        PercentEncoding.decodeForm_of_plain (by decide) (by decide)
      have back : PercentEncoding.decodeForm written = name :=
        PercentEncoding.decodeForm_encode (by decide) (by decide) name
      have noAndBehind : '&' ∉ "dn".toList ++ '=' :: written := by
        intro member
        have inName : '&' ∈ written := by simpa using member
        rcases PercentEncoding.alphanumeric_of_mem_encode inName with letter | percent
        · exact absurd letter (by decide)
        · exact absurd percent (by decide)
      rw [query, Url.queryPairs_of_more (by decide) noAnd, Url.queryPairs_of_pair (by decide)
        noAndBehind, key, value, title, back]
      rfl

end Links

section Reading

/-- The hash that a pair of a query names. -/
def topic? (pair : String × String) : Option String :=
  if pair.1 = "xt" then Text.afterText? topicMark pair.2 else none

def title? (pair : String × String) : Option String :=
  if pair.1 = "dn" then some pair.2 else none

/-- One more pair takes the place of the hash or of the name, if it has one. -/
theorem ofPairs_concat (pairs : List (String × String)) (pair : String × String) :
    ofPairs (pairs ++ [pair]) =
      ((topic? pair).or (ofPairs pairs).1, (title? pair).getD (ofPairs pairs).2) := by
  obtain ⟨key, value⟩ := pair
  rw [ofPairs, List.foldl_append, ← ofPairs, List.foldl_cons, List.foldl_nil]
  unfold topic? title?
  by_cases isTopic : key = "xt"
  · subst isTopic
    cases Text.afterText? topicMark value <;> simp
  · by_cases isTitle : key = "dn" <;> simp [isTopic, isTitle]

/-- Of several hashes and of several names the last ones count. -/
theorem ofPairs_eq (pairs : List (String × String)) :
    ofPairs pairs =
      ((pairs.filterMap topic?).getLast?, (pairs.filterMap title?).getLast?.getD "") := by
  induction pairs using List.reverseRecOn with
  | nil => rfl
  | append_singleton pairs pair ih =>
      rw [ofPairs_concat, ih, List.filterMap_append, List.filterMap_append,
        List.getLast?_append, List.getLast?_append]
      cases named : topic? pair <;> cases titled : title? pair <;> simp [named, titled]

/-- The hashes that a URL names, one for each pair of its query that names one. -/
def topics (url : Url) : List String :=
  (Url.queryPairs (url.query.getD "")).filterMap topic?

theorem readLink_eq_ok_iff {link text name : String} : readLink link = .ok (text, name) ↔
    ∃ url, Url.parse link = .ok url ∧
      ofPairs (Url.queryPairs (url.query.getD "")) = (some text, name) := by
  unfold readLink
  cases Url.parse link with
  | error fault => simp
  | ok url =>
      cases found : ofPairs (Url.queryPairs (url.query.getD "")) with
      | mk given title => cases given <;> simp [found]

theorem readLink_of_topics {link hash : String} {url : Url} (isUrl : Url.parse link = .ok url)
    (last : (topics url).getLast? = some hash) : ∃ name, readLink link = .ok (hash, name) :=
  ⟨_, readLink_eq_ok_iff.mpr ⟨url, isUrl, (ofPairs_eq _).trans (congrArg (Prod.mk · _) last)⟩⟩

theorem readLink_canonical {hash : String} (alphanumeric : IsAlphanumeric hash) (name : String) :
    readLink (canonical hash name) = .ok (hash, name) := by
  obtain ⟨url, isUrl, query⟩ := parse_canonical_link alphanumeric name
  have mark : Text.afterText? topicMark (topicMark ++ hash) = some hash :=
    Text.afterText?_eq_some_iff.mpr rfl
  refine readLink_eq_ok_iff.mpr ⟨url, isUrl, ?_⟩
  rw [query, Option.getD_some, queryPairs_linkQuery alphanumeric, ofPairs_eq]
  cases unnamed : name.isEmpty with
  | true =>
      have isEmpty : name = "" := String.isEmpty_iff.mp unnamed
      simp [topic?, title?, mark, isEmpty]
  | false => simp [topic?, title?, mark]

/-- What is read as a hash and a name before the hash is brought into its canonical form. -/
def readInput (input : String) : Outcome (String × String) :=
  if (Text.afterText? scheme (Text.trim input)).isSome then readLink (Text.trim input)
  else .ok (Text.trim input, "")

def keptLink (input hash name : String) : String :=
  if (Text.afterText? scheme (Text.trim input)).isSome then Text.trim input
  else canonical hash name

theorem parse_eq (input : String) : parse input = readInput input >>= fun found =>
    normalizeHash found.1 >>= fun hash =>
      .ok ⟨hash, found.2, canonical hash found.2, keptLink input hash found.2⟩ := by
  -- Whether the input is a link decides twice: how it is read, and which link is kept.
  unfold parse readInput keptLink
  dsimp only
  generalize (Text.afterText? scheme (Text.trim input)).isSome = isLink
  generalize Text.trim input = text
  cases isLink with
  | true =>
      simp only [if_true]
      cases readLink text <;> rfl
  | false =>
      simp only [Bool.false_eq_true, if_false]
      rfl

theorem parse_eq_ok_iff {magnet : Magnet} : parse input = .ok magnet ↔
    ∃ rawHash hash name, readInput input = .ok (rawHash, name) ∧ normalizeHash rawHash = .ok hash ∧
      magnet = ⟨hash, name, canonical hash name, keptLink input hash name⟩ := by
  rw [parse_eq]
  constructor
  · intro accepted
    obtain ⟨⟨rawHash, name⟩, read, accepted⟩ := bind_eq_ok_iff.mp accepted
    obtain ⟨hash, normal, accepted⟩ := bind_eq_ok_iff.mp accepted
    cases accepted
    exact ⟨rawHash, hash, name, read, normal, rfl⟩
  · rintro ⟨rawHash, hash, name, read, normal, rfl⟩
    exact bind_eq_ok_iff.mpr ⟨_, read, bind_eq_ok_iff.mpr ⟨hash, normal, rfl⟩⟩

theorem parse_trim (input : String) : parse (Text.trim input) = parse input := by
  unfold parse
  rw [Text.trim_trim]

theorem isLink_canonical {hash : String} (alphanumeric : IsAlphanumeric hash) (name : String) :
    (Text.afterText? scheme (Text.trim (canonical hash name))).isSome = true := by
  have begins : canonical hash name =
      scheme ++ String.ofList ('?' :: linkQuery hash name) := by
    apply String.toList_inj.mp
    rw [toList_canonical, String.toList_append]
    simp only [String.toList_ofList]
    rfl
  have behind := Text.afterText?_eq_some_iff.mpr begins
  rw [trim_canonical alphanumeric, behind]
  rfl

/-- A canonical link gives back what it was made from, whatever the name is. -/
theorem parse_canonical {rawHash hash : String} (alphanumeric : IsAlphanumeric rawHash)
    (normal : normalizeHash rawHash = .ok hash) (name : String) :
    parse (canonical rawHash name) =
      .ok ⟨hash, name, canonical hash name, canonical rawHash name⟩ := by
  have isLink := isLink_canonical alphanumeric name
  have read : readInput (canonical rawHash name) = .ok (rawHash, name) := by
    rw [readInput, if_pos isLink, trim_canonical alphanumeric, readLink_canonical alphanumeric]
  refine parse_eq_ok_iff.mpr ⟨rawHash, hash, name, read, normal, ?_⟩
  rw [keptLink, if_pos isLink, trim_canonical alphanumeric]

theorem alphanumeric_of_isInfoHash {hash : String} (isHash : IsInfoHash hash) :
    IsAlphanumeric hash := by
  have letters : Hexadecimal.digits.all Char.isAlphanum = true := by decide
  exact fun char member => List.all_eq_true.mp letters char (isHash.digits char member)

theorem alphanumeric_of_mem_spellings {bytes : List UInt8} {text : String}
    (member : text ∈ spellings bytes) : IsAlphanumeric text := by
  have digits : Hexadecimal.digits.all (fun char => char.isAlphanum && char.toUpper.isAlphanum) =
      true := by decide
  have symbols : Base32.alphabet.all (fun char => char.isAlphanum && char.toLower.isAlphanum) =
      true := by decide
  have digit : ∀ char ∈ Hexadecimal.encode bytes,
      char.isAlphanum = true ∧ char.toUpper.isAlphanum = true := fun char isDigit =>
    Bool.and_eq_true_iff.mp
      (List.all_eq_true.mp digits char (Hexadecimal.mem_digits_of_mem_encode isDigit))
  have symbol : ∀ char ∈ Base32.encode bytes,
      char.isAlphanum = true ∧ char.toLower.isAlphanum = true := fun char isSymbol =>
    Bool.and_eq_true_iff.mp
      (List.all_eq_true.mp symbols char (Base32.mem_alphabet_of_mem_encode isSymbol))
  simp only [spellings, hexHash, List.mem_cons, List.not_mem_nil, or_false] at member
  unfold IsAlphanumeric
  rcases member with rfl | rfl | rfl | rfl <;> rw [String.toList_ofList]
  · exact fun char isDigit => (digit char isDigit).1
  · exact List.forall_mem_map.mpr fun char isDigit => (digit char isDigit).2
  · exact fun char isSymbol => (symbol char isSymbol).1
  · exact List.forall_mem_map.mpr fun char isSymbol => (symbol char isSymbol).2

/-- Whether a reading gives a magnet link with a hash. -/
def GivesHash (hash : String) (reading : Outcome Magnet) : Prop :=
  ∃ magnet, reading = .ok magnet ∧ magnet.hash = hash

theorem givesHash_bare {text hash : String} (alphanumeric : IsAlphanumeric text)
    (normal : normalizeHash text = .ok hash) : GivesHash hash (parse text) := by
  have trimmed : Text.trim text = text := Text.trim_of_visible fun char member => by
    have isLink : isLinkChar char = true := by rw [isLinkChar, alphanumeric char member]; rfl
    exact (isPlain_of_isLinkChar isLink).visible
  have isBare : ¬ (Text.afterText? scheme (Text.trim text)).isSome = true := by
    rw [trimmed, Option.isSome_iff_exists]
    rintro ⟨rest, begins⟩
    have colon : ':' ∈ text.toList := by
      rw [Text.afterText?_eq_some_iff.mp begins, String.toList_append]
      exact List.mem_append_left _ (by decide)
    exact absurd (alphanumeric ':' colon) (by decide)
  have read : readInput text = .ok (text, "") := by
    rw [readInput, if_neg isBare, trimmed]
  exact ⟨_, parse_eq_ok_iff.mpr ⟨text, hash, "", read, normal, rfl⟩, rfl⟩

theorem givesHash_of_topics {input rawHash hash : String} {url : Url}
    (isLink : (Text.afterText? scheme (Text.trim input)).isSome = true)
    (isUrl : Url.parse (Text.trim input) = .ok url)
    (last : (topics url).getLast? = some rawHash) (normal : normalizeHash rawHash = .ok hash) :
    GivesHash hash (parse input) := by
  obtain ⟨name, read⟩ := readLink_of_topics isUrl last
  have readAll : readInput input = .ok (rawHash, name) := by
    rw [readInput, if_pos isLink, read]
  exact ⟨_, parse_eq_ok_iff.mpr ⟨rawHash, hash, name, readAll, normal, rfl⟩, rfl⟩

end Reading

/-- Reading a magnet link brings it into a canonical form.  Whatever is accepted gives forty
lowercase hexadecimal digits; its canonical link gives the same hash and the same name, and itself as
the link that was read, for every name that there is; and the link that is kept gives the same once
more.  The bytes of a hash may be spelled in hexadecimal or base32, in lowercase or in capitals,
alone, in a canonical link with any name, or in any link whose last topic they are: all of these are
read as the same hash. -/
theorem parse_gives_canonical :
    (∀ input magnet, parse input = .ok magnet →
      IsInfoHash magnet.hash ∧
      parse magnet.link = .ok ⟨magnet.hash, magnet.name, magnet.link, magnet.link⟩ ∧
      parse magnet.rawLink = .ok magnet) ∧
    (∀ hash name, IsInfoHash hash → parse (canonical hash name) =
      .ok ⟨hash, name, canonical hash name, canonical hash name⟩) ∧
    ∀ bytes : List UInt8, bytes.length = 20 → ∀ text ∈ spellings bytes,
      GivesHash (hexHash bytes) (parse text) ∧
      (∀ name, GivesHash (hexHash bytes) (parse (canonical text name))) ∧
      ∀ input url, (Text.afterText? scheme (Text.trim input)).isSome = true →
        Url.parse (Text.trim input) = .ok url → (topics url).getLast? = some text →
        GivesHash (hexHash bytes) (parse input) := by
  -- A canonical link is read by way of its hash, which stays as it is.
  have canonicalLink : ∀ hash name, IsInfoHash hash → parse (canonical hash name) =
      .ok ⟨hash, name, canonical hash name, canonical hash name⟩ := fun hash name isHash =>
    parse_canonical (alphanumeric_of_isInfoHash isHash) (normalizeHash_of_isInfoHash isHash) name
  refine ⟨fun input magnet accepted => ?_, canonicalLink, fun bytes twenty text spelled => ?_⟩
  · obtain ⟨rawHash, hash, name, read, normal, rfl⟩ := parse_eq_ok_iff.mp accepted
    have isHash := isInfoHash_of_normalizeHash normal
    refine ⟨isHash, canonicalLink hash name isHash, ?_⟩
    dsimp only
    by_cases isLink : (Text.afterText? scheme (Text.trim input)).isSome = true
    · have kept : keptLink input hash name = Text.trim input := if_pos isLink
      rw [kept] at accepted ⊢
      rw [parse_trim, accepted]
    · have kept : keptLink input hash name = canonical hash name := if_neg isLink
      rw [kept, canonicalLink hash name isHash]
  · have alphanumeric := alphanumeric_of_mem_spellings spelled
    have normal := normalizeHash_of_mem_spellings twenty spelled
    refine ⟨givesHash_bare alphanumeric normal, fun name => ?_, ?_⟩
    · exact ⟨_, parse_canonical alphanumeric normal name, rfl⟩
    · exact fun input url isLink isUrl last => givesHash_of_topics isLink isUrl last normal

section Film

def filmBytes : List UInt8 :=
  [0xc9, 0xe1, 0x57, 0x63, 0xf7, 0x22, 0xf2, 0x3e, 0x98, 0xa2, 0x9d, 0xec, 0xdf, 0xae, 0x34, 0x1b,
    0x98, 0xd5, 0x30, 0x56]

def filmSymbols : String := "zhqvoy7xelzd5gfctxwn7lrudomnkmcw"

def filmLink : String := "magnet:?xt=urn:btih:zhqvoy7xelzd5gfctxwn7lrudomnkmcw&dn=Bunny+%26"

def filmUrl : Url :=
  ⟨"magnet", "", none, false, none, none, .opaqueText "",
    some "xt=urn:btih:zhqvoy7xelzd5gfctxwn7lrudomnkmcw&dn=Bunny+%26", none⟩

/-- The link of a film gives its hash, and its canonical link gives the same again. -/
theorem parse_gives_canonical_film :
    (filmBytes.length = 20 ∧ filmSymbols ∈ spellings filmBytes ∧
      hexHash filmBytes = "c9e15763f722f23e98a29decdfae341b98d53056" ∧
      Url.parse (Text.trim filmLink) = .ok filmUrl ∧
      (topics filmUrl).getLast? = some filmSymbols) ∧
    GivesHash (hexHash filmBytes) (parse filmSymbols) ∧
    ∃ magnet, parse filmLink = .ok magnet ∧ magnet.hash = hexHash filmBytes ∧
      IsInfoHash magnet.hash ∧
      parse magnet.link = .ok ⟨magnet.hash, magnet.name, magnet.link, magnet.link⟩ ∧
      parse magnet.rawLink = .ok magnet := by
  have isLink : (Text.afterText? scheme (Text.trim filmLink)).isSome = true := by decide +kernel
  have isUrl : Url.parse (Text.trim filmLink) = .ok filmUrl := by decide +kernel
  have spelled : filmSymbols ∈ spellings filmBytes := by decide +kernel
  have last : (topics filmUrl).getLast? = some filmSymbols := by decide +kernel
  obtain ⟨inputs, _, spelledBytes⟩ := parse_gives_canonical
  obtain ⟨bare, _, inLink⟩ := spelledBytes filmBytes rfl filmSymbols spelled
  obtain ⟨magnet, accepted, same⟩ := inLink filmLink filmUrl isLink isUrl last
  obtain ⟨isHash, again, kept⟩ := inputs filmLink magnet accepted
  exact ⟨⟨rfl, spelled, by decide +kernel, isUrl, last⟩, bare, magnet, accepted, same, isHash, again,
    kept⟩

end Film

end Magnet

end StoreGate
