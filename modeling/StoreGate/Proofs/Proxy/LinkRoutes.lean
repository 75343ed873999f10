import StoreGate.Gateway.Route
import StoreGate.Proofs.Proxy.LinkSegments
import StoreGate.Proxy.Link
/-!
# Proxy links and the route they lead to

The address of a proxy link is read back as the segments that it was put together from, unless its
file name is divided at a backslash or is one or two dots, which a path resolves.  Under every other
file name the gateway is handed the token that was issued.
-/

namespace StoreGate

namespace ProxyLink

open PercentEncoding Url

section Links

/-- Whether an address asks for a token under a file name: its path is the route, the token and a
segment that means the file name. -/
structure LeadsTo (url : Url) (token : String) (filename : Option String) : Prop where
  query : url.query = none
  fragment : url.fragment = none
  path : ∃ names, url.path = .segments (["v0", "proxy", token] ++ names) ∧
    names.map decode = filename.toList.map Utf8.encode

variable {token : String} {filename : Option String} {url : Url}

theorem leadsTo_iff (isToken : IsTokenText token) (named : ∀ name ∈ filename, name ≠ "")
    (noQuery : url.query = none) (noFragment : url.fragment = none)
    (read : url.path = .segments (readSegments true (innerOf token filename))) :
    LeadsTo url token filename ↔ ∀ name ∈ filename, IsOneSegment name := by
  rw [readSegments_innerOf isToken] at read
  constructor
  · rintro leads name rfl
    obtain ⟨names, path, meant⟩ := leads.path
    rw [Option.toList_some, List.map_singleton, List.map_eq_singleton_iff] at meant
    obtain ⟨found, rfl, isName⟩ := meant
    rw [read, Path.segments.injEq] at path
    -- The segment that means the file name was written for one of the parts, and no other part is
    -- written like it, so the file name is a part.
    have member : found ∈ addSegments [] ((partsOf token (some name)).map segmentOf) := by
      rw [← List.mem_reverse, path]
      simp
    rcases mem_addSegments member with rfl | before | ⟨written, notDots⟩
    · exact absurd (Utf8.encode_injective (isName.symm.trans (decode_of_plain (by simp))))
        (named name rfl)
    · cases before
    · obtain ⟨part, isPart, rfl⟩ := List.mem_map.mp written
      rw [decode_segmentOf] at isName
      cases Utf8.encode_injective isName
      rw [isDots_segmentOf_iff, not_or] at notDots
      exact ⟨not_mem_partsOf isToken isPart, notDots⟩
  · intro single
    rw [addSegments_of_oneSegment isToken single] at read
    refine ⟨noQuery, noFragment, _, read, ?_⟩
    rw [List.map_map]
    exact List.map_congr_left fun name _ => decode_segmentOf name

theorem fields_pathText {segments : List String}
    (noSlash : ∀ segment ∈ segments, '/' ∉ segment.toList) :
    Text.fields '/' (Path.text (.segments segments)).toList =
      [] :: segments.map String.toList := by
  rw [Path.text, String.toList_join, List.flatMap_map]
  induction segments with
  | nil => rfl
  | cons segment rest ih =>
      have others := ih fun other member => noSlash other (List.mem_cons_of_mem _ member)
      have absent := noSlash segment List.mem_cons_self
      rw [List.flatMap_cons, String.toList_append]
      change Text.fields '/' ('/' :: (segment.toList ++ _)) = _
      rw [Text.fields, if_pos rfl, Text.fields_append_of_fields absent others, List.append_nil,
        List.map_cons]

theorem pathOf_pathText (parts : List String) :
    Gateway.pathOf (Path.text (.segments (parts.map segmentOf))) =
      (Path.text (.segments (parts.map segmentOf))).toList := by
  refine List.takeWhile_eq_self_iff.mpr fun char member => ?_
  rw [Path.text, String.toList_join, List.mem_flatMap] at member
  obtain ⟨_, isSegment, member⟩ := member
  obtain ⟨segment, isWritten, rfl⟩ := List.mem_map.mp isSegment
  obtain ⟨part, _, rfl⟩ := List.mem_map.mp isWritten
  rw [String.toList_append, List.mem_append] at member
  rcases member with slash | inside
  · rw [List.mem_singleton.mp (show char ∈ ['/'] from slash)]
    decide
  · have isPathChar := (isPathChar_of_mem inside).1
    have noQuery : char ≠ '?' := isPathChar.ne rfl
    have noFragment : char ≠ '#' := isPathChar.ne rfl
    simp [noQuery, noFragment]

/-- The gateway finds a token, and the file name as it was written, at their route. -/
theorem ofTarget?_of_path (isToken : IsTokenText token) (named : ∀ name ∈ filename, name ≠ "")
    (noQuery : url.query = none)
    (path : url.path = .segments (["v0", "proxy", token] ++ filename.toList.map segmentOf)) :
    Gateway.Route.ofTarget? url.target = some (.link token (filename.map segmentOf)) := by
  have target : url.target =
      Path.text (.segments ((["v0", "proxy", token] ++ filename.toList).map segmentOf)) := by
    rw [Url.target, noQuery, path, List.map_append, map_segmentOf_route isToken]
    exact String.append_empty
  have noSlash : ∀ segment ∈ (["v0", "proxy", token] ++ filename.toList).map segmentOf,
      '/' ∉ segment.toList := by
    intro segment isWritten inside
    obtain ⟨part, _, rfl⟩ := List.mem_map.mp isWritten
    exact (isPathChar_of_mem inside).2 rfl
  have notEmpty : token.isEmpty = false := by
    have differ : token ≠ "" := isToken.ne_of_begins nofun
    simpa using differ
  have copies : String.ofList ∘ String.toList = id := funext fun _ => String.ofList_toList
  rw [Gateway.Route.ofTarget?, target, pathOf_pathText, fields_pathText noSlash, List.map_cons,
    List.map_map, copies, List.map_id, List.map_append, map_segmentOf_route isToken]
  cases filename with
  | none =>
      change (if token.isEmpty then none else some (Gateway.Route.link token none)) = _
      rw [notEmpty]
      rfl
  | some name =>
      have written : (segmentOf name).isEmpty = false := by
        have empty : segmentOf "" = "" := rfl
        simpa using fun same => named name rfl (segmentOf_injective (same.trans empty.symm))
      change (if (segmentOf name).isEmpty then none else
        some (Gateway.Route.link token (some (segmentOf name)))) = _
      rw [written]
      rfl

theorem decodeLink_segmentOf (isToken : IsTokenText token) :
    Gateway.decodeLink token (filename.map segmentOf) = .ok token := by
  have read : ∀ purpose part, Gateway.decodeSegment purpose (segmentOf part) = .ok part := by
    intro purpose part
    rw [Gateway.decodeSegment, decode_segmentOf, Utf8.decode?_encode]
  have readToken := read "token" token
  rw [isToken.segmentOf_eq] at readToken
  rw [Gateway.decodeLink, readToken]
  cases filename with
  | none => rfl
  | some name =>
      dsimp only [Option.map_some]
      rw [read]
      rfl

theorem filename?_ne_empty {request : LinkRequest} {name : String}
    (isName : name ∈ filename? request) : name ≠ "" := by
  rintro rfl
  cases given : request.filename.filter (!·.isEmpty) with
  | some name =>
      rw [filename?, given] at isName
      cases isName
      simp at given
  | none =>
      rw [filename?, given] at isName
      obtain ⟨address, _, derived⟩ := Option.bind_eq_some_iff.mp isName
      obtain ⟨segments, _, derived⟩ := Option.bind_eq_some_iff.mp derived
      obtain ⟨segment, isLast, derived⟩ := Option.bind_eq_some_iff.mp derived
      have noBytes := (Utf8.encode_eq_of_decode? derived).symm
      simpa [eq_empty_of_decode noBytes] using List.find?_some isLast

theorem trimSlashes_address (origin : Origin) (slashes : Nat) :
    trimSlashes (origin.address (List.replicate slashes '/')) = origin.address [] := by
  have endSlashes : ∀ char ∈ List.replicate slashes '/', decide (char = '/') = true := by
    intro char member
    simpa using List.eq_of_mem_replicate member
  obtain ⟨front, last, authority⟩ := (List.eq_nil_or_concat _).resolve_left origin.named
  have isHost : IsHostChar last := origin.host last (by rw [authority]; simp)
  have notSlash : last ≠ '/' := by
    rintro rfl
    exact absurd isHost.1 (by decide)
  rw [trimSlashes, Origin.address, Origin.address, authority, String.toList_ofList]
  simp [List.dropWhile_append_of_pos endSlashes, notSlash]

theorem toList_address (origin : Origin) (behind : List Char) :
    (origin.address behind).toList = (origin.address []).toList ++ behind := by
  simp [Origin.address]

theorem ofToken_address (origin : Origin) (slashes : Nat) (request : LinkRequest)
    (token : String) :
    ofToken (origin.address (List.replicate slashes '/')) request token =
      origin.address ('/' :: innerOf token (filename? request)) := by
  rw [ofToken, trimSlashes_address, ← String.toList_inj, toList_address]
  cases filename? request with
  | none => simp [innerOf, route]
  | some name => simp [innerOf, route, segmentOf]

theorem exists_token {now : Nat} (nonce : Nonce) {request : LinkRequest}
    (valid : request.validate = .ok ())
    (countable : ProxyToken.isCountable now request.lifetime = true) :
    ∃ token, ProxyToken.create now nonce request = .ok token := by
  cases isSigned : request.isSigned with
  | false => exact ⟨_, ProxyToken.create_of_unsigned valid isSigned⟩
  | true => exact ⟨_, ProxyToken.create_of_signed valid isSigned countable⟩

/-- What is read of a link: the host of its base address, and the path behind it. -/
def addressOf (home : Url) (token : String) (filename : Option String) : Url :=
  { home with
    path := .segments (readSegments true (innerOf token filename))
    query := none, fragment := none }

theorem exists_link (origin : Origin) (slashes now : Nat) (nonce : Nonce) {request : LinkRequest}
    {home : Url}
    (reachable : Url.parse (origin.address (List.replicate slashes '/')) = .ok home)
    (valid : request.validate = .ok ())
    (countable : ProxyToken.isCountable now request.lifetime = true) :
    ∃ token link, ProxyToken.create now nonce request = .ok token ∧ IsTokenText token ∧
      create now nonce (origin.address (List.replicate slashes '/')) request = .ok link ∧
      Url.parse link = .ok (addressOf home token (filename? request)) := by
  obtain ⟨token, created⟩ := exists_token nonce valid countable
  have isToken := isTokenText_of_create valid created
  have pathChars : ∀ char ∈ innerOf token (filename? request), char = '/' ∨ IsPathChar char :=
    fun char member => isPathChar_of_mem_innerOf isToken member
  have visible : ∀ char ∈ innerOf token (filename? request), 0x20 < char.toNat := by
    intro char member
    rcases pathChars char member with rfl | isPathChar
    · decide
    · exact isPathChar.visible
  have absent : ∀ mark, PercentEncoding.path mark = true → mark ≠ '/' →
      mark ∉ innerOf token (filename? request) := by
    intro mark escapedMark notSlash member
    rcases pathChars mark member with slash | isPathChar
    · exact notSlash slash
    · exact isPathChar.ne escapedMark rfl
  refine ⟨token, ofToken (origin.address (List.replicate slashes '/')) request token, created,
    isToken, ?_, ?_⟩
  · rw [create, created]
    rfl
  · rw [ofToken_address]
    rw [origin.parse_behind_slash reachable, kept_of_visible visible,
      reach_of_plain ⟨absent '?' rfl (by decide), absent '#' rfl (by decide)⟩]
    rfl

/-- Under the address of an origin, the link of a valid request is read as an address of the same
host, with no query and no fragment.  It asks for the token under the file name exactly if the file
name has no backslash and is not one or two dots, and then the gateway is handed the token.  There
is no link only if the seconds until it expires cannot be counted. -/
theorem link_leads_to_route (origin : Origin) (slashes now : Nat) (nonce : Nonce)
    (request : LinkRequest) {home : Url}
    (reachable : Url.parse (origin.address (List.replicate slashes '/')) = .ok home)
    (valid : request.validate = .ok ()) :
    if request.lifetime.isZero = true ∨ now + max 1 request.lifetime.seconds < bitLimit 64 then
      ∃ token link url, ProxyToken.create now nonce request = .ok token ∧
        create now nonce (origin.address (List.replicate slashes '/')) request = .ok link ∧
        Url.parse link = .ok url ∧
        url = { home with path := url.path, query := none, fragment := none } ∧
        (LeadsTo url token (filename? request) ↔
          ∀ name ∈ filename? request, IsOneSegment name) ∧
        (LeadsTo url token (filename? request) → ∃ segment,
          Gateway.Route.ofTarget? url.target = some (.link token segment) ∧
          Gateway.decodeLink token segment = .ok token)
    else create now nonce (origin.address (List.replicate slashes '/')) request =
      .error .overflow := by
  split
  · rename_i room
    obtain ⟨token, link, created, isToken, isLink, parsed⟩ := exists_link origin slashes now
      nonce reachable valid (ProxyToken.isCountable_iff_room.mpr room)
    have named : ∀ name ∈ filename? request, name ≠ "" := fun name isName =>
      filename?_ne_empty isName
    have leads : LeadsTo (addressOf home token (filename? request)) token (filename? request) ↔
        ∀ name ∈ filename? request, IsOneSegment name := leadsTo_iff isToken named rfl rfl rfl
    refine ⟨token, link, _, created, isLink, parsed, rfl, leads, fun leadsTo => ?_⟩
    have read := (readSegments_innerOf isToken).trans
      (addSegments_of_oneSegment isToken (leads.mp leadsTo))
    exact ⟨_, ofTarget?_of_path isToken named rfl (congrArg Path.segments read),
      decodeLink_segmentOf isToken⟩
  · rename_i noRoom
    have uncountable := mt ProxyToken.isCountable_iff_room.mp noRoom
    rw [create, ProxyToken.create_of_overflow valid (Bool.not_eq_true _ ▸ uncountable)]
    rfl

end Links

section Titles

/-- An origin to which links are sent. -/
def gate : Origin where
  scheme := "https".toList
  authority := "gate.example".toList
  web := .inr (by decide)
  named := by simp
  host := by simp [IsHostChar, endsAuthority, isSlash]
  visible := by simp

/-- A request for a link that shows a title. -/
def titled (title : String) : LinkRequest :=
  ⟨"https://cdn.example.com/f", TextMap.empty, none, ⟨0⟩, "alice", "s3cret", false, some title⟩

set_option maxRecDepth 4096 in
theorem parse_gate : Url.parse (gate.address (List.replicate 0 '/')) =
    .ok ⟨"https", "", none, true, some (.domain "gate.example"), none, .segments [""], none, none⟩ :=
  rfl

/-- Blanks and percent signs in a title are read back. -/
theorem link_leads_to_route_percent :
    ∃ token link url, ProxyToken.create 1000 default (titled "100% Movie.mkv") = .ok token ∧
      create 1000 default "https://gate.example" (titled "100% Movie.mkv") = .ok link ∧
      Url.parse link = .ok url ∧ LeadsTo url token (some "100% Movie.mkv") ∧
      ∃ segment, Gateway.Route.ofTarget? url.target = some (.link token segment) ∧
        Gateway.decodeLink token segment = .ok token := by
  obtain ⟨token, link, url, created, isLink, parsed, _, leads, served⟩ :=
    (if_pos (.inl rfl)).mp
      (link_leads_to_route gate 0 1000 default (titled "100% Movie.mkv") parse_gate rfl)
  have single : LeadsTo url token (some "100% Movie.mkv") := by
    refine leads.mpr fun name isName => ?_
    cases isName
    exact ⟨by decide, by decide, by decide⟩
  exact ⟨token, link, url, created, isLink, parsed, single, served single⟩

/-- A backslash in a file name divides it, so that the link does not ask for the file name. -/
theorem link_of_backslash_leads_astray :
    ¬ ∃ token link url, ProxyToken.create 1000 default (titled "a\\b") = .ok token ∧
      create 1000 default "https://gate.example" (titled "a\\b") = .ok link ∧
      Url.parse link = .ok url ∧ LeadsTo url token (some "a\\b") := by
  rintro ⟨token, link, url, created, isLink, parsed, leads⟩
  obtain ⟨sameToken, sameLink, isCreated, isToken, isSameLink, isParsed⟩ :=
    exists_link gate 0 1000 default parse_gate
      (show (titled "a\\b").validate = .ok () from rfl) rfl
  obtain rfl := Except.ok.inj (isCreated.symm.trans created)
  obtain rfl := Except.ok.inj (isSameLink.symm.trans isLink)
  obtain rfl := Except.ok.inj (isParsed.symm.trans parsed)
  have named : ∀ name ∈ some "a\\b", name ≠ "" := by
    intro name isName
    cases isName
    decide
  have single := (leadsTo_iff isToken named rfl rfl rfl).mp leads "a\\b" rfl
  exact absurd single.1 (by decide)

end Titles

end ProxyLink

end StoreGate
