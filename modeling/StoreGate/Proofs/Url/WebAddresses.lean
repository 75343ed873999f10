import Mathlib.Data.List.DropRight
import StoreGate.Proofs.AsciiCase
import StoreGate.Proofs.Outcomes
import StoreGate.Proofs.PercentEncodings
import StoreGate.Proofs.TextParts
import StoreGate.Url.Parser
/-!
# Addresses on the web are read part by part

Behind the scheme of the web and its slashes stands what names the host, up to the next slash, and
what stands behind that slash has no bearing on it.  A question mark or a hash sign ends the path.
A path is read one segment after another; only dot segments, and characters that count as slashes,
change which segments there are.
-/

namespace StoreGate.Url

section Beginnings

/-- Whether a character counts for nothing at the edges of a text, as blanks and controls do. -/
def isEdge (char : Char) : Bool := char.toNat ≤ 0x20

/-- What the parser keeps of a text that begins with something visible. -/
def kept (text : List Char) : List Char :=
  (text.rdropWhile isEdge).filter fun char => char ≠ '\t' && char ≠ '\n' && char ≠ '\r'

theorem readable_eq (text : String) : readable text = kept (text.toList.dropWhile isEdge) :=
  rfl

theorem isEdge_of_visible {char : Char} (visible : 0x20 < char.toNat) : isEdge char = false := by
  simpa [isEdge] using visible

theorem kept_sublist (text : List Char) : (kept text).Sublist text :=
  List.filter_sublist.trans (List.rdropWhile_prefix isEdge text).sublist

/-- Nothing is dropped from a text without tabs and line ends that ends with something visible. -/
theorem kept_eq_self_iff {text : List Char} : kept text = text ↔
    (∀ last ∈ text.getLast?, 0x20 < last.toNat) ∧ '\t' ∉ text ∧ '\n' ∉ text ∧ '\r' ∉ text := by
  have ends : text.rdropWhile isEdge = text ↔ ∀ last ∈ text.getLast?, 0x20 < last.toNat := by
    rw [List.rdropWhile_eq_self_iff]
    cases text using List.reverseRecOn <;> simp [isEdge]
  have unbroken : (text.filter fun char => char ≠ '\t' && char ≠ '\n' && char ≠ '\r') = text ↔
      '\t' ∉ text ∧ '\n' ∉ text ∧ '\r' ∉ text := by
    rw [List.filter_eq_self]
    constructor
    · intro all
      exact ⟨fun member => by simpa using all '\t' member,
        fun member => by simpa using all '\n' member, fun member => by simpa using all '\r' member⟩
    · rintro ⟨noTab, noFeed, noReturn⟩ char member
      simp [ne_of_mem_of_not_mem member noTab, ne_of_mem_of_not_mem member noFeed,
        ne_of_mem_of_not_mem member noReturn]
  constructor
  · intro same
    have inside : (kept text).Sublist (text.rdropWhile isEdge) := List.filter_sublist
    rw [same] at inside
    have untrimmed : text.rdropWhile isEdge = text :=
      (List.rdropWhile_prefix isEdge text).sublist.antisymm inside
    rw [kept, untrimmed] at same
    exact ⟨ends.mp untrimmed, unbroken.mp same⟩
  · rintro ⟨visible, noBreaks⟩
    rw [kept, ends.mpr visible, unbroken.mpr noBreaks]

/-- What stands in front is kept if all of it is visible. -/
theorem kept_append {front : List Char} (visible : ∀ char ∈ front, 0x20 < char.toNat)
    (behind : List Char) : kept (front ++ behind) = front ++ kept behind := by
  have differs : ∀ char ∈ front, ∀ blank : Char, blank.toNat ≤ 0x20 → char ≠ blank := by
    rintro _ member blank isBlank rfl
    exact absurd (visible _ member) (Nat.not_lt.mpr isBlank)
  have untrimmed : (front ++ behind).rdropWhile isEdge = front ++ behind.rdropWhile isEdge := by
    have edges : front.reverse.dropWhile isEdge = front.reverse :=
      Text.dropWhile_of_kept fun char member =>
        isEdge_of_visible (visible char (List.mem_reverse.mp member))
    rw [List.rdropWhile, List.reverse_append, List.dropWhile_append]
    -- Even if all that stands behind is dropped, dropping ends at the front.
    split
    · rename_i nothing
      rw [edges, List.reverse_reverse, List.rdropWhile, List.isEmpty_iff.mp nothing,
        List.reverse_nil, List.append_nil]
    · rw [List.reverse_append, List.reverse_reverse, List.rdropWhile]
  rw [kept, kept, untrimmed, List.filter_append, List.filter_eq_self.mpr]
  intro char member
  have differ := differs char member
  simp [differ '\t' (by decide), differ '\n' (by decide), differ '\r' (by decide)]

theorem kept_of_visible {text : List Char} (visible : ∀ char ∈ text, 0x20 < char.toNat) :
    kept text = text := by
  have whole := kept_append visible []
  rwa [List.append_nil, show kept [] = [] from rfl, List.append_nil] at whole

/-- Nothing is dropped from a text without blanks and control characters. -/
theorem readable_of_visible {text : String} (visible : ∀ char ∈ text.toList, 0x20 < char.toNat) :
    readable text = text.toList := by
  have begins := Text.dropWhile_of_kept fun char member => isEdge_of_visible (visible char member)
  rw [readable_eq, begins, kept_of_visible visible]

theorem isAlpha_of_toLower {char : Char} (isLetter : char.toLower.isAlpha = true) :
    char.isAlpha = true := by
  unfold Char.toLower at isLetter
  split at isLetter
  · rename_i capital
    exact isAlpha_iff.mpr (.inl (isUpper_iff.mpr capital))
  · exact isLetter

/-- Whether some characters are a scheme of the web, in whatever case. -/
def IsWebScheme (scheme : List Char) : Prop :=
  scheme.map Char.toLower = "http".toList ∨ scheme.map Char.toLower = "https".toList

theorem isWebScheme_https : IsWebScheme "https".toList :=
  .inr (by decide)

theorem isAlpha_of_web {scheme : List Char} (web : IsWebScheme scheme) {char : Char}
    (member : char ∈ scheme) : char.isAlpha = true := by
  have lowerLetters : ∀ lower ∈ scheme.map Char.toLower, lower.isAlpha = true := by
    rcases web with isHttp | isHttps
    · rw [isHttp]
      simp
    · rw [isHttps]
      simp
  exact isAlpha_of_toLower (lowerLetters _ (List.mem_map_of_mem member))

theorem scheme?_of_web {scheme : List Char} (web : IsWebScheme scheme) (rest : List Char) :
    scheme? (scheme ++ ':' :: rest) = some (String.ofList (scheme.map Char.toLower), rest) := by
  have schemeChars : ∀ char ∈ scheme, isSchemeChar char = true := by
    intro char member
    simp [isSchemeChar, Char.isAlphanum, isAlpha_of_web web member]
  cases scheme with
  | nil => simp [IsWebScheme] at web
  | cons first others =>
      have colon : isSchemeChar ':' = false := by decide
      have ends : (first :: others ++ ':' :: rest).dropWhile isSchemeChar = ':' :: rest := by
        rw [List.dropWhile_append_of_pos schemeChars, List.dropWhile_cons_of_neg (by simp [colon])]
      have begins : (first :: others ++ ':' :: rest).takeWhile isSchemeChar = first :: others := by
        rw [List.takeWhile_append_of_pos schemeChars, List.takeWhile_cons_of_neg (by simp [colon]),
          List.append_nil]
      rw [List.cons_append] at ends begins ⊢
      rw [scheme?, if_pos (isAlpha_of_web web List.mem_cons_self), ends, begins]
      rfl

end Beginnings

section Authorities

/-- Whether a character stands in the part of an address that names the host and nothing else. -/
def IsHostChar (char : Char) : Prop :=
  endsAuthority true char = false ∧ char ≠ '@'

/-- What names the host ends where a path begins. -/
theorem span_authority {authority behind : List Char} (host : ∀ char ∈ authority, IsHostChar char)
    (ends : ∀ char ∈ behind.head?, endsAuthority true char = true) :
    (authority ++ behind).takeWhile (!endsAuthority true ·) = authority ∧
      (authority ++ behind).dropWhile (!endsAuthority true ·) = behind := by
  have goesOn : ∀ char ∈ authority, (!endsAuthority true char) = true := by
    intro char member
    rw [(host char member).1]
    rfl
  rw [List.takeWhile_append_of_pos goesOn, List.dropWhile_append_of_pos goesOn]
  cases behind with
  | nil => exact ⟨List.append_nil _, rfl⟩
  | cons first others =>
      have isEnd := ends first rfl
      simp [isEnd]

theorem splitUserInfo?_of_host {authority : List Char}
    (host : ∀ char ∈ authority, IsHostChar char) : splitUserInfo? authority = none := by
  have absent : '@' ∉ authority.reverse := fun member =>
    (host '@' (List.mem_reverse.mp member)).2 rfl
  rw [splitUserInfo?, Text.splitAt?_of_not_mem absent, Option.map_none]

theorem spanParts_of_plain {text : List Char} (noQuery : '?' ∉ text) (noFragment : '#' ∉ text) :
    spanParts text = (text, none, none) := by
  rw [spanParts, Text.splitAt?_of_not_mem noFragment]
  dsimp only
  rw [Text.splitAt?_of_not_mem noQuery]

theorem spanParts_cons {char : Char} (noQuery : char ≠ '?') (noFragment : char ≠ '#')
    (rest : List Char) :
    spanParts (char :: rest) = (char :: (spanParts rest).1, (spanParts rest).2) := by
  unfold spanParts
  rw [Text.splitAt?, if_neg noFragment]
  cases Text.splitAt? '#' rest with
  | none =>
      dsimp only [Option.map_none]
      rw [Text.splitAt?, if_neg noQuery]
      cases Text.splitAt? '?' rest <;> rfl
  | some sides =>
      dsimp only [Option.map_some]
      rw [Text.splitAt?, if_neg noQuery]
      cases Text.splitAt? '?' sides.1 <;> rfl

/-- Question marks and hash signs end the path, and nothing else does. -/
theorem path_spanParts (text : List Char) :
    (spanParts text).1 = text.takeWhile fun char => char ≠ '?' && char ≠ '#' := by
  induction text with
  | nil => rfl
  | cons char rest ih =>
      by_cases ends : char = '?' ∨ char = '#'
      · rcases ends with rfl | rfl
        · unfold spanParts
          rw [Text.splitAt?, if_neg (by decide)]
          cases Text.splitAt? '#' rest <;> rfl
        · rfl
      · rw [not_or] at ends
        rw [spanParts_cons ends.1 ends.2, List.takeWhile_cons_of_pos (by simp [ends]), ih]

/-- Only a backslash may follow a port, and there is none in what names a host. -/
theorem behind_of_readPort {scheme : String} {text behind : List Char} {portNumber : Option Nat}
    (read : readPort scheme text = .ok (portNumber, behind)) (noBackslash : '\\' ∉ text) :
    behind = [] := by
  have kept : behind = text.dropWhile Char.isDigit ∧
      (text.dropWhile Char.isDigit).head?.any (· ≠ '\\') = false := by
    unfold readPort at read
    dsimp only at read
    split at read
    · cases read
    · rename_i onlyBackslash
      refine ⟨?_, Bool.not_eq_true _ ▸ onlyBackslash⟩
      split at read
      · cases read
        rfl
      · split at read
        · cases read
        · cases read
          rfl
  obtain ⟨rfl, onlyBackslash⟩ := kept
  cases rest : text.dropWhile Char.isDigit with
  | nil => rfl
  | cons first others =>
      rw [rest] at onlyBackslash
      have isBackslash : first = '\\' := by simpa using onlyBackslash
      have member : first ∈ text :=
        (List.dropWhile_sublist Char.isDigit).subset (rest ▸ List.mem_cons_self)
      exact absurd (isBackslash ▸ member) noBackslash

theorem spanHost_append (inBrackets : Bool) (text : List Char) :
    (spanHost inBrackets text).1 ++ (spanHost inBrackets text).2 = text := by
  induction text generalizing inBrackets with
  | nil => rfl
  | cons char rest ih =>
      rw [spanHost]
      split
      · rfl
      · exact congrArg (char :: ·) (ih _)

theorem backslash_not_mem_port {authority port : List Char}
    (host : ∀ char ∈ authority, IsHostChar char)
    (colon : (spanHost false authority).2 = ':' :: port) : '\\' ∉ port := by
  intro member
  have whole := spanHost_append false authority
  rw [colon] at whole
  have inside : '\\' ∈ authority :=
    whole ▸ List.mem_append_right _ (List.mem_cons_of_mem _ member)
  exact absurd (host _ inside).1 (by decide)

/-- The URL of a host with what is read behind its slash. -/
def reach (home : Url) (inner : List Char) : Url :=
  { home with
    path := .segments (readSegments true (spanParts inner).1)
    query := (spanParts inner).2.1.map (queryText true)
    fragment := (spanParts inner).2.2.map fragmentText }

/-- What is read of a host and its port does not depend on what stands behind them. -/
theorem readAuthority_with_path {scheme : String} {authority rest : List Char} {home : Url}
    (special : isSpecial scheme = true) (host : ∀ char ∈ authority, IsHostChar char)
    (ends : ∀ char ∈ rest.head?, endsAuthority true char = true)
    (read : readAuthority scheme (authority ++ rest) = .ok home) (inner : List Char) :
    readAuthority scheme (authority ++ '/' :: inner) = .ok (home.reach inner) := by
  have parts : spanParts ('/' :: inner) = ('/' :: (spanParts inner).1, (spanParts inner).2) :=
    spanParts_cons (by decide) (by decide) inner
  have pathEnds : ∀ char ∈ ('/' :: inner).head?, endsAuthority true char = true := by
    rintro char ⟨⟩
    decide
  obtain ⟨takenRest, droppedRest⟩ := span_authority host ends
  obtain ⟨takenPath, droppedPath⟩ := span_authority host pathEnds
  unfold readAuthority at read ⊢
  rw [special] at read ⊢
  dsimp only at read ⊢
  rw [takenRest, droppedRest, splitUserInfo?_of_host host] at read
  rw [takenPath, droppedPath, splitUserInfo?_of_host host]
  -- Both readings now take the same steps up to the port, and differ only in what lies behind it.
  simp only [pure_bind] at read ⊢
  rw [throw_bind_else_eq_ok_iff] at read ⊢
  obtain ⟨named, read⟩ := read
  refine ⟨named, ?_⟩
  obtain ⟨hostRead, isHost, read⟩ := bind_eq_ok_iff.mp read
  refine bind_eq_ok_iff.mpr ⟨hostRead, isHost, ?_⟩
  rw [throw_bind_else_eq_ok_iff] at read ⊢
  obtain ⟨present, read⟩ := read
  refine ⟨present, ?_⟩
  split at read
  · rename_i port colon
    obtain ⟨⟨portNumber, behind⟩, isPort, read⟩ := bind_eq_ok_iff.mp read
    cases behind_of_readPort isPort (backslash_not_mem_port host colon)
    rw [throw_bind_else_eq_ok_iff] at read
    obtain ⟨anonymous, read⟩ := read
    cases read
    refine bind_eq_ok_iff.mpr ⟨(portNumber, []), isPort, ?_⟩
    rw [throw_bind_else_eq_ok_iff]
    refine ⟨anonymous, ?_⟩
    rw [List.nil_append, parts]
    rfl
  · rw [throw_bind_else_eq_ok_iff] at read
    obtain ⟨anonymous, read⟩ := read
    cases read
    rw [throw_bind_else_eq_ok_iff]
    refine ⟨anonymous, ?_⟩
    rw [List.nil_append, parts]
    rfl

end Authorities

/-- A scheme of the web and what names a host, without blanks and control characters. -/
structure Origin where
  scheme : List Char
  authority : List Char
  web : IsWebScheme scheme
  named : authority ≠ []
  host : ∀ char ∈ authority, IsHostChar char
  visible : ∀ char ∈ authority, 0x20 < char.toNat

namespace Origin

variable (origin : Origin)

/-- The address that begins with an origin. -/
def address (behind : List Char) : String :=
  String.ofList (origin.scheme ++ ':' :: '/' :: '/' :: (origin.authority ++ behind))

theorem toLower_scheme : String.ofList (origin.scheme.map Char.toLower) = "http" ∨
    String.ofList (origin.scheme.map Char.toLower) = "https" := by
  rcases origin.web with isHttp | isHttps
  · exact .inl (isHttp ▸ String.ofList_toList)
  · exact .inr (isHttps ▸ String.ofList_toList)

theorem isSpecial_scheme : isSpecial (String.ofList (origin.scheme.map Char.toLower)) = true := by
  rcases origin.toLower_scheme with isHttp | isHttps
  · rw [isHttp]
    decide
  · rw [isHttps]
    decide

theorem visible_front :
    ∀ char ∈ origin.scheme ++ ':' :: '/' :: '/' :: origin.authority, 0x20 < char.toNat := by
  have letterVisible : ∀ char : Char, char.isAlpha = true → 0x20 < char.toNat := by
    intro char isLetter
    rcases isAlpha_iff.mp isLetter with isUpper | isLower
    · have bound := UInt32.le_iff_toNat_le.mp (isUpper_iff.mp isUpper).1
      exact Nat.lt_of_lt_of_le (by decide) bound
    · have bound := UInt32.le_iff_toNat_le.mp (isLower_iff.mp isLower).1
      exact Nat.lt_of_lt_of_le (by decide) bound
  intro char member
  simp only [List.mem_append, List.mem_cons] at member
  rcases member with inScheme | rfl | rfl | rfl | inAuthority
  · exact letterVisible char (isAlpha_of_web origin.web inScheme)
  · decide
  · decide
  · decide
  · exact origin.visible char inAuthority

/-- The parser sees an origin as it is, and what it keeps of the text behind. -/
theorem readable_address (behind : List Char) : readable (origin.address behind) =
    origin.scheme ++ ':' :: '/' :: '/' :: (origin.authority ++ kept behind) := by
  have begins : (origin.address behind).toList =
      (origin.scheme ++ ':' :: '/' :: '/' :: origin.authority) ++ behind := by
    simp [address]
  have firstVisible : (origin.address behind).toList.dropWhile isEdge =
      (origin.address behind).toList := by
    cases scheme : origin.scheme with
    | nil =>
        have web := origin.web
        simp [scheme, IsWebScheme] at web
    | cons first others =>
        have visible := origin.visible_front first (by simp [scheme])
        rw [begins, scheme, List.cons_append, List.cons_append,
          List.dropWhile_cons_of_neg (by simp [isEdge_of_visible visible])]
  rw [readable_eq, firstVisible, begins, kept_append origin.visible_front]
  simp

/-- Behind the scheme and two slashes, the parser reads the host. -/
theorem parse_address (behind : List Char) :
    parse (origin.address behind) =
      readAuthority (String.ofList (origin.scheme.map Char.toLower))
        (origin.authority ++ kept behind) := by
  have notFile : String.ofList (origin.scheme.map Char.toLower) ≠ "file" := by
    rcases origin.toLower_scheme with isHttp | isHttps
    · rw [isHttp]
      decide
    · rw [isHttps]
      decide
  have hostBegins : ('/' :: '/' :: (origin.authority ++ kept behind)).dropWhile (isSlash true) =
      origin.authority ++ kept behind := by
    cases authority : origin.authority with
    | nil => exact absurd authority origin.named
    | cons first others =>
        have isHost : IsHostChar first := origin.host first (authority ▸ List.mem_cons_self)
        have noSlash : isSlash true first = false := by
          have notEnds := isHost.1
          simp only [endsAuthority, Bool.or_eq_false_iff] at notEnds
          exact notEnds.1.1
        rw [List.dropWhile_cons_of_pos rfl, List.dropWhile_cons_of_pos rfl, List.cons_append,
          List.dropWhile_cons_of_neg (by simp [noSlash])]
  rw [parse, origin.readable_address, scheme?_of_web origin.web]
  dsimp only
  rw [if_neg notFile, if_pos origin.isSpecial_scheme, hostBegins]

/-- An address leads to the same host, whatever stands behind the slash that follows it. -/
theorem parse_behind_slash {slashes : Nat} {home : Url}
    (parsed : parse (origin.address (List.replicate slashes '/')) = .ok home) (inner : List Char) :
    parse (origin.address ('/' :: inner)) = .ok (home.reach (kept inner)) := by
  have slashEnds : ∀ char ∈ (List.replicate slashes '/').head?, endsAuthority true char = true := by
    intro char isFirst
    rw [List.eq_of_mem_replicate (List.mem_of_mem_head? isFirst)]
    decide
  have slashVisible : ∀ count, ∀ char ∈ List.replicate count '/', 0x20 < char.toNat := by
    intro count char member
    rw [List.eq_of_mem_replicate member]
    decide
  have keptSlash : kept ('/' :: inner) = '/' :: kept inner := kept_append (slashVisible 1) inner
  rw [origin.parse_address, kept_of_visible (slashVisible slashes)] at parsed
  rw [origin.parse_address, keptSlash]
  exact readAuthority_with_path origin.isSpecial_scheme origin.host slashEnds parsed (kept inner)

end Origin

theorem reach_of_plain {inner : List Char} (plain : '?' ∉ inner ∧ '#' ∉ inner) (home : Url) :
    home.reach inner = { home with
      path := .segments (readSegments true inner), query := none, fragment := none } := by
  rw [reach, spanParts_of_plain plain.1 plain.2]
  rfl

section Paths

/-- Whether a segment is one or two dots, in any spelling. -/
def IsDots (segment : String) : Prop :=
  isSingleDot segment = true ∨ isDoubleDot segment = true

instance : DecidablePred IsDots := fun segment =>
  inferInstanceAs (Decidable (isSingleDot segment = true ∨ isDoubleDot segment = true))

/-- Only dots are taken out of a path, or shorten it. -/
theorem addSegment_of_plain {segment : String} (plain : ¬ IsDots segment) (isLast : Bool)
    (reversed : List String) : addSegment isLast reversed segment = segment :: reversed := by
  rw [IsDots, not_or] at plain
  rw [addSegment, if_neg plain.2, if_neg plain.1]

theorem addSegments_of_plain {segments : List String}
    (plain : ∀ segment ∈ segments, ¬ IsDots segment) (reversed : List String) :
    addSegments reversed segments = segments.reverse ++ reversed := by
  induction segments generalizing reversed with
  | nil => rfl
  | cons segment rest ih =>
      have here := addSegment_of_plain (plain segment List.mem_cons_self)
      cases rest with
      | nil => exact here true reversed
      | cons second others =>
          have later := ih (fun other member => plain other (List.mem_cons_of_mem _ member))
            (segment :: reversed)
          change addSegments (addSegment false reversed segment) (second :: others) = _
          rw [here, later, ← List.reverseAux_eq, ← List.reverseAux_eq]
          rfl

/-- A segment of a path is empty, or it was there before, or it is the one that was added. -/
theorem mem_addSegment {isLast : Bool} {reversed : List String} {segment found : String}
    (member : found ∈ addSegment isLast reversed segment) :
    found = "" ∨ found ∈ reversed ∨ (found = segment ∧ ¬ IsDots segment) := by
  have shorter : ∀ other, other ∈ (if reversed.head?.any namesDrive = true then reversed
      else reversed.tail) → other ∈ reversed := by
    intro other isOther
    split at isOther
    · exact isOther
    · exact List.mem_of_mem_tail isOther
  unfold addSegment at member
  dsimp only at member
  split at member
  · generalize (if reversed.head?.any namesDrive = true then reversed else reversed.tail) = kept
      at shorter member
    split at member
    · exact (List.mem_cons.mp member).imp_right fun inside => .inl (shorter _ inside)
    · exact .inr (.inl (shorter _ member))
  · rename_i notDouble
    split at member
    · split at member
      · exact (List.mem_cons.mp member).imp_right .inl
      · exact .inr (.inl member)
    · rename_i notSingle
      rcases List.mem_cons.mp member with rfl | inside
      · exact .inr (.inr ⟨rfl, not_or.mpr ⟨notSingle, notDouble⟩⟩)
      · exact .inr (.inl inside)

theorem mem_addSegments {reversed segments : List String} {found : String}
    (member : found ∈ addSegments reversed segments) :
    found = "" ∨ found ∈ reversed ∨ (found ∈ segments ∧ ¬ IsDots found) := by
  induction segments generalizing reversed with
  | nil => exact .inr (.inl member)
  | cons segment rest ih =>
      have added : ∀ {isLast}, found ∈ addSegment isLast reversed segment →
          found = "" ∨ found ∈ reversed ∨ (found ∈ segment :: rest ∧ ¬ IsDots found) := by
        intro isLast inside
        rcases mem_addSegment inside with empty | before | ⟨rfl, plain⟩
        · exact .inl empty
        · exact .inr (.inl before)
        · exact .inr (.inr ⟨List.mem_cons_self, plain⟩)
      cases rest with
      | nil => exact added member
      | cons second others =>
          rcases ih member with empty | before | ⟨later, plain⟩
          · exact .inl empty
          · exact added before
          · exact .inr (.inr ⟨List.mem_cons_of_mem _ later, plain⟩)

theorem eq_of_toLower {char lower : Char} (same : char.toLower = lower)
    (notLower : lower.isLower = false) : char = lower := by
  by_cases isAscii : char.toNat < 128
  · have either : char.toLower = char ∨ char.toLower.isLower = true :=
      of_ascii (fun char => char.toLower = char ∨ char.toLower.isLower = true) (by decide) isAscii
    rcases either with stays | isLower
    · exact stays.symm.trans same
    · rw [same, notLower] at isLower
      cases isLower
  · exact (toLower_of_not_ascii isAscii).symm.trans same

theorem eq_of_toLower_e {char : Char} (same : char.toLower = 'e') : char = 'e' ∨ char = 'E' := by
  unfold Char.toLower at same
  split at same
  · rename_i capital
    have code := congrArg UInt32.toNat (congrArg Char.val same)
    refine .inr (Char.ext (UInt32.toNat_inj.mp ?_))
    simp [UInt32.le_iff_toNat_le] at code capital ⊢
    omega
  · exact .inl same

/-- Whether some characters are a dot, in any spelling. -/
def IsDot (characters : List Char) : Prop :=
  characters = ['.'] ∨ characters = ['%', '2', 'e'] ∨ characters = ['%', '2', 'E']

/-- What a text in lower case is made of. -/
theorem map_toLower_of_eq {segment lower : String}
    (same : String.ofList (segment.toList.map Char.toLower) = lower) :
    segment.toList.map Char.toLower = lower.toList := by
  rw [← same, String.toList_ofList]

theorem isDot_of_lower {characters : List Char}
    (lower : characters.map Char.toLower = ['.'] ∨
      characters.map Char.toLower = ['%', '2', 'e']) : IsDot characters := by
  rcases lower with plain | escaped
  · obtain ⟨dot, rfl, isDot⟩ := List.map_eq_singleton_iff.mp plain
    exact .inl (congrArg (· :: []) (eq_of_toLower isDot (by decide)))
  · obtain ⟨percent, _, rfl, isPercent, escaped⟩ := List.map_eq_cons_iff.mp escaped
    obtain ⟨two, _, rfl, isTwo, escaped⟩ := List.map_eq_cons_iff.mp escaped
    obtain ⟨last, rfl, isLast⟩ := List.map_eq_singleton_iff.mp escaped
    cases eq_of_toLower isPercent (by decide)
    cases eq_of_toLower isTwo (by decide)
    rcases eq_of_toLower_e isLast with rfl | rfl
    · exact .inr (.inl rfl)
    · exact .inr (.inr rfl)

theorem decode_of_isSingleDot {segment : String} (isSingle : isSingleDot segment = true) :
    PercentEncoding.decode segment = Utf8.encode "." := by
  have spelledOut : String.ofList (segment.toList.map Char.toLower) = "." ∨
      String.ofList (segment.toList.map Char.toLower) = "%2e" := by
    simpa [isSingleDot] using isSingle
  have lower := spelledOut.imp map_toLower_of_eq map_toLower_of_eq
  rw [← String.ofList_toList (s := segment)]
  rcases isDot_of_lower lower with spelled | spelled | spelled <;> rw [spelled] <;> decide

theorem decode_of_isDoubleDot {segment : String} (isDouble : isDoubleDot segment = true) :
    PercentEncoding.decode segment = Utf8.encode ".." := by
  obtain ⟨first, second, joined, isFirst, isSecond⟩ : ∃ first second,
      segment.toList = first ++ second ∧ IsDot first ∧ IsDot second := by
    have divided : ∀ {front back : List Char},
        (front = ['.'] ∨ front = ['%', '2', 'e']) → (back = ['.'] ∨ back = ['%', '2', 'e']) →
        segment.toList.map Char.toLower = front ++ back → ∃ first second,
          segment.toList = first ++ second ∧ IsDot first ∧ IsDot second := by
      intro front back isFront isBack lower
      obtain ⟨first, second, joined, rfl, rfl⟩ := List.map_eq_append_iff.mp lower
      exact ⟨first, second, joined, isDot_of_lower isFront, isDot_of_lower isBack⟩
    have spelledOut : let lower := String.ofList (segment.toList.map Char.toLower)
        lower = ".." ∨ lower = ".%2e" ∨ lower = "%2e." ∨ lower = "%2e%2e" := by
      simpa [isDoubleDot] using isDouble
    rcases spelledOut with spelled | spelled | spelled | spelled
    · exact divided (.inl rfl) (.inl rfl) (map_toLower_of_eq spelled)
    · exact divided (.inl rfl) (.inr rfl) (map_toLower_of_eq spelled)
    · exact divided (.inr rfl) (.inl rfl) (map_toLower_of_eq spelled)
    · exact divided (.inr rfl) (.inr rfl) (map_toLower_of_eq spelled)
  rw [← String.ofList_toList (s := segment), joined]
  rcases isFirst with rfl | rfl | rfl <;> rcases isSecond with rfl | rfl | rfl <;> decide

end Paths

end StoreGate.Url
