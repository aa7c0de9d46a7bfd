import Mathlib.Data.List.Basic
import HomeConsole.Backend.Address
import HomeConsole.Proofs.Url.Path

/-!
# The address of a request

The segments of a read are put below the path of the address, and nothing else of the address
changes. Whatever an id is, the request stays below `api`. An id that holds no tab and no line
break and is not made of one or two dots alone stands in a segment of its own, from which it can be
told; any other id gets lost on the way. So does one of the two empty segments when the path of the
address consists of nothing else.
-/

namespace HomeConsole

theorem Url.openEnd_concat (front : List String) (last : String) :
    openEnd (front ++ [last]) = if last = "" then front else front ++ [last] := by
  have h : openEnd (front ++ [last]) =
      if (front ++ [last]).getLast? = some "" then (front ++ [last]).dropLast
      else front ++ [last] := by
    cases front <;> rfl
  rw [h, List.getLast?_concat, List.dropLast_concat]
  simp only [Option.some.injEq]

namespace UrlPath

/-- A path as it is written, without one slash at its end. -/
def stem (path : UrlPath) : String :=
  let cs := path.text.toList
  String.ofList (if cs.getLast? = some '/' then cs.dropLast else cs)

theorem ofPieces_append (list more : List String) :
    (Route.ofPieces (list ++ more)).toList =
      (Route.ofPieces list).toList ++ (Route.ofPieces more).toList := by
  simp [Route.ofPieces]

theorem below_api_prefix (front : List String) {rest : List String} (h : rest ≠ []) :
    (Route.ofPieces front ++ "/api/").toList <+:
      (segments (front ++ "api" :: rest)).text.toList := by
  obtain ⟨first, more, rfl⟩ := List.exists_cons_of_ne_nil h
  refine ⟨first.toList ++ (Route.ofPieces more).toList, ?_⟩
  rw [text_segments, ofPieces_append]
  simp [Route.ofPieces]

/-- Without the slash at its end a path has one empty segment less. -/
theorem stem_segments {list : List String} (h : Clean list) :
    (segments list).stem = Route.ofPieces (Url.openEnd list) := by
  rcases List.eq_nil_or_concat' list with rfl | ⟨front, last, rfl⟩
  · rfl
  · have htext : (segments (front ++ [last])).text.toList =
        (Route.ofPieces front).toList ++ '/' :: last.toList := by
      rw [text_segments, ofPieces_append]
      simp [Route.ofPieces]
    unfold stem
    simp only [htext]
    rw [Url.openEnd_concat]
    by_cases hl : last = ""
    · simp [hl]
    · have hne : last.toList ≠ [] := by simpa using hl
      have hslash : last.toList.getLast? ≠ some '/' := by
        intro hs
        exact h last (by simp) (List.mem_of_getLast? hs)
      have hend : ((Route.ofPieces front).toList ++ '/' :: last.toList).getLast? =
          last.toList.getLast? := by
        rw [List.getLast?_append, List.getLast?_cons, List.getLast?_eq_some_getLast hne]
        rfl
      rw [hend, if_neg hslash, if_neg hl, ← htext, text_segments, String.ofList_toList]

end UrlPath

namespace Url

open UrlPath

variable {scheme : String} {list : List String}

/-! ## One segment more -/

/-- An id that is put into a segment as it is. -/
def isCarried (id : String) : Bool := id != "." && id != ".." && ! id.toList.any isDropped

/-- An id without what is dropped, escaped for a segment. -/
def written (special : Bool) (id : String) : String :=
  String.ofList (Percent.escape (keptInSegment special) (id.toList.filter (! isDropped ·)))

theorem keptInSegment_bounds {special : Bool} {b : UInt8} (h : keptInSegment special b = true) :
    (b.toNat < 128 ∧ b ≠ 0x25) ∧ b ≠ 0x2F := by
  simp only [keptInSegment, keptInPath, keptInFragment, isControl, Bool.and_eq_true] at h
  obtain ⟨⟨⟨⟨hcontrol, _⟩, _⟩, hmarks⟩, _⟩ := h
  refine ⟨⟨?_, ?_⟩, ?_⟩
  · simp only [Bool.not_eq_true', Bool.or_eq_false_iff, decide_eq_false_iff_not] at hcontrol
    omega
  · rintro rfl
    exact absurd hmarks (by decide)
  · rintro rfl
    exact absurd hmarks (by decide)

theorem slash_not_mem_written (special : Bool) (id : String) :
    '/' ∉ (written special id).toList := by
  intro h
  rw [written, String.toList_ofList] at h
  exact (keptInSegment_bounds (Percent.slash_of_mem_escape h).1).2 rfl

theorem decode?_written (special : Bool) (id : String) :
    Percent.decode? (written special id) =
      some (String.ofList (id.toList.filter (! isDropped ·))) :=
  Percent.decode?_escape (fun _ hb => (keptInSegment_bounds hb).1) _

/-- Dots are dots in any spelling. -/
theorem decode?_of_isDots {segment : String} :
    (isSingleDot segment = true → Percent.decode? segment = some ".") ∧
      (isDoubleDot segment = true → Percent.decode? segment = some "..") := by
  have key : (∀ s ∈ [".", "%2e", "%2E"], Percent.decode? s = some ".") ∧
      ∀ s ∈ ["..", "%2e%2e", "%2e%2E", "%2E%2e", "%2E%2E", "%2e.", "%2E.", ".%2e", ".%2E"],
        Percent.decode? s = some ".." := by decide +kernel
  exact ⟨fun h => key.1 segment (List.contains_iff_mem.mp h),
    fun h => key.2 segment (List.contains_iff_mem.mp h)⟩

/-- What becomes of an id behind segments that are not the empty one alone. -/
theorem pushSegment_eq (hw : isFile scheme = false) (hne : list ≠ [""]) (id : String) :
    pushSegment scheme list id =
      if id = "." ∨ id = ".." then list
      else if isDoubleDot (written (isSpecial scheme) id) then list.dropLast ++ [""]
      else if isSingleDot (written (isSpecial scheme) id) then list ++ [""]
      else list ++ [written (isSpecial scheme) id] := by
  unfold pushSegment
  split
  · rfl
  · simp only
    rw [settle_of_not_file hw]
    simp only [addSegment, hw, written]
    rfl

theorem clean_pushSegment (hw : isFile scheme = false) (hne : list ≠ [""]) (h : Clean list)
    (id : String) : Clean (pushSegment scheme list id) := by
  have hempty : Clean [""] := .singleton (by simp)
  rw [pushSegment_eq hw hne]
  split
  · exact h
  · split
    · exact h.dropLast.append hempty
    · split
      · exact h.append hempty
      · exact h.append (.singleton (slash_not_mem_written _ id))

theorem filter_of_isCarried {id : String} (h : isCarried id = true) :
    id.toList.filter (! isDropped ·) = id.toList := by
  simp only [isCarried, Bool.and_eq_true, Bool.not_eq_true', List.any_eq_false] at h
  rw [List.filter_eq_self]
  intro c hc
  simpa using h.2 c hc

theorem decode?_written_of_isCarried {id : String} (h : isCarried id = true) (special : Bool) :
    Percent.decode? (written special id) = some id := by
  rw [decode?_written, filter_of_isCarried h, String.ofList_toList]

theorem decode?_of_written_eq {word : String}
    (h : isCarried word = true ∧ written true word = word) :
    Percent.decode? word = some word := by
  have hdecode := decode?_written_of_isCarried h.1 true
  rwa [h.2] at hdecode

theorem written_word {word : String} (h : word ∈ ["", "api", "getmodule"]) (special : Bool) :
    isCarried word = true ∧ written special word = word := by
  have key : ∀ word ∈ ["", "api", "getmodule"], ∀ special,
      isCarried word = true ∧ written special word = word := by decide
  exact key word h special

theorem decode?_word {word : String} (h : word ∈ ["", "api", "getmodule"]) :
    Percent.decode? word = some word :=
  decode?_of_written_eq (written_word h true)

theorem pushSegment_of_isCarried (hw : isFile scheme = false) (hne : list ≠ [""]) {id : String}
    (h : isCarried id = true) :
    pushSegment scheme list id = list ++ [written (isSpecial scheme) id] := by
  have hdecode := decode?_written_of_isCarried h (isSpecial scheme)
  have hdots : id ≠ "." ∧ id ≠ ".." := by
    simp only [isCarried, Bool.and_eq_true, bne_iff_ne] at h
    exact h.1
  -- written dots would decode to dots, but the written id decodes to the id
  rw [pushSegment_eq hw hne, if_neg (by simp [hdots]), if_neg, if_neg]
  · intro hd
    rw [decode?_of_isDots.1 hd] at hdecode
    exact hdots.1 (Option.some.inj hdecode).symm
  · intro hd
    rw [decode?_of_isDots.2 hd] at hdecode
    exact hdots.2 (Option.some.inj hdecode).symm

/-- Where an id can be told from the last segment, it was put there as it is. -/
theorem isCarried_of_pushSegment (hw : isFile scheme = false) (hne : list ≠ [""])
    (hnil : list ≠ []) {id piece : String} (hid : id ≠ "")
    (h : pushSegment scheme list id = list ++ [piece]) (hd : Percent.decode? piece = some id) :
    isCarried id = true := by
  rw [pushSegment_eq hw hne] at h
  split at h
  · simp at h
  · rename_i hdots
    split at h
    · -- two dots take a segment away and leave the path as long as it was
      have := congrArg List.length h
      have hpos := List.length_pos_iff.mpr hnil
      simp only [List.length_append, List.length_dropLast, List.length_singleton] at this
      omega
    · split at h
      · obtain rfl : "" = piece := by simpa using h
        rw [decode?_word (by simp)] at hd
        exact absurd (Option.some.inj hd).symm hid
      · obtain rfl : written (isSpecial scheme) id = piece := by simpa using h
        rw [decode?_written, Option.some.injEq, ← String.toList_inj, String.toList_ofList,
          List.filter_eq_self] at hd
        simp only [isCarried, Bool.and_eq_true, bne_iff_ne, Bool.not_eq_true', List.any_eq_false]
        refine ⟨not_or.mp hdots, ?_⟩
        intro c hc
        simpa using hd c hc

/-! ## The segments of a read -/

/-- The segments of an address below which those of a read are put. -/
def trunk (list : List String) : List String := if list = ["", ""] then [] else openEnd list

theorem concat_ne_singleton (front : List String) {last : String} (h : last ≠ "") :
    front ++ [last] ≠ [""] := by
  intro he
  have hlast := congrArg List.getLast? he
  exact h (by simpa using hlast)

theorem words_ne_singleton (front : List String) : front ++ ["api", "getmodule"] ≠ [""] := by
  rw [List.append_cons]
  exact concat_ne_singleton _ (by decide)

theorem openEnd_eq_singleton : openEnd list = [""] ↔ list = ["", ""] := by
  rcases List.eq_nil_or_concat' list with rfl | ⟨front, last, rfl⟩
  · simp [openEnd]
  · rw [openEnd_concat]
    split
    · rename_i hl
      rw [hl, show ["", ""] = [""] ++ [""] from rfl, List.append_left_inj]
    · rename_i hl
      refine iff_of_false (concat_ne_singleton front hl) ?_
      intro he
      have hlast := congrArg List.getLast? he
      exact hl (by simpa using hlast)

theorem clean_trunk (h : Clean list) : Clean (trunk list) := by
  unfold trunk
  split
  · simp [Clean]
  · rcases List.eq_nil_or_concat' list with rfl | ⟨front, last, rfl⟩
    · exact h
    · rw [openEnd_concat]
      split
      · exact fun segment hm => h segment (List.mem_append_left _ hm)
      · exact h

/-- A word of a read is put behind an empty segment alone as it is put behind nothing. -/
theorem pushSegment_word (hw : isFile scheme = false) (list : List String) {word : String}
    (h : word ∈ ["api", "getmodule"]) :
    pushSegment scheme list word = (if list = [""] then [] else list) ++ [word] := by
  obtain ⟨hcarried, hwritten⟩ := written_word (List.mem_cons_of_mem "" h) (isSpecial scheme)
  split
  · rename_i hl
    have hempty : pushSegment scheme [""] word = pushSegment scheme [] word := by
      have hdots : ¬(word = "." ∨ word = "..") := by
        simp only [isCarried, Bool.and_eq_true, bne_iff_ne] at hcarried
        exact not_or.mpr hcarried.1
      simp only [pushSegment, if_neg hdots]
      rfl
    rw [hl, hempty, pushSegment_of_isCarried hw (by simp) hcarried, hwritten]
  · rename_i hl
    rw [pushSegment_of_isCarried hw hl hcarried, hwritten]

theorem extend_one {url : Url} (hw : isFile url.scheme = false) (hp : url.path = .segments list)
    (id : String) :
    url.extend (Endpoint.one id).segments =
      some { url with
        path := .segments (pushSegment url.scheme (trunk list ++ ["api", "getmodule"]) id) } := by
  have hstart : (if (if list = [""] then list else openEnd list) = [""] then []
      else if list = [""] then list else openEnd list) = trunk list := by
    unfold trunk
    by_cases hone : list = [""]
    · simp [hone, openEnd]
    · simp only [if_neg hone, openEnd_eq_singleton]
  have hne : trunk list ++ ["api"] ≠ [""] := concat_ne_singleton _ (by decide)
  have hapi (start : List String) := @pushSegment_word url.scheme hw start "api" (by simp)
  have hmodule (start : List String) := @pushSegment_word url.scheme hw start "getmodule" (by simp)
  simp only [extend, hp, Endpoint.segments, List.foldl_cons, List.foldl_nil]
  rw [hapi, hstart, hmodule, if_neg hne, List.append_assoc]
  rfl

/-- Whatever is put behind the words of a read, the first of them stays. -/
theorem pushSegment_below (hw : isFile scheme = false) (front : List String) (id : String) :
    ∃ rest, rest ≠ [] ∧
      pushSegment scheme (front ++ ["api", "getmodule"]) id = front ++ "api" :: rest := by
  have hdrop : (front ++ ["api", "getmodule"]).dropLast = front ++ ["api"] := by
    rw [List.dropLast_append_of_ne_nil (by simp)]
    rfl
  rw [pushSegment_eq hw (words_ne_singleton front), hdrop]
  split
  · exact ⟨["getmodule"], by simp, rfl⟩
  · split
    · exact ⟨[""], by simp, by simp⟩
    · rw [List.append_assoc, List.append_assoc]
      split
      · exact ⟨["getmodule", ""], by simp, rfl⟩
      · exact ⟨["getmodule", _], by simp, rfl⟩

theorem pushSegment_words (hw : isFile scheme = false) (list : List String) {id : String}
    (h : isCarried id = true) :
    pushSegment scheme (trunk list ++ ["api", "getmodule"]) id =
      trunk list ++ ["api", "getmodule", written (isSpecial scheme) id] := by
  rw [pushSegment_of_isCarried hw (words_ne_singleton _) h, List.append_assoc]
  rfl

/-- The id can be told from the segments just where it is carried and no segment before it is
lost. -/
theorem pushSegment_words_iff (hw : isFile scheme = false) (list : List String) {id : String}
    (hid : id ≠ "") :
    (∃ piece, pushSegment scheme (trunk list ++ ["api", "getmodule"]) id =
          openEnd list ++ ["api", "getmodule", piece] ∧ Percent.decode? piece = some id) ↔
      isCarried id = true ∧ list ≠ ["", ""] := by
  constructor
  · rintro ⟨piece, hsegments, hpiece⟩
    have hlist : list ≠ ["", ""] := by
      rintro rfl
      obtain ⟨rest, _, hrest⟩ := @pushSegment_below scheme hw (trunk ["", ""]) id
      rw [hrest] at hsegments
      simp [trunk, openEnd] at hsegments
    rw [trunk, if_neg hlist] at hsegments
    have hne := words_ne_singleton (openEnd list)
    refine ⟨isCarried_of_pushSegment hw hne (by simp) hid ?_ hpiece, hlist⟩
    rw [hsegments, List.append_assoc]
    rfl
  · rintro ⟨hcarried, hlist⟩
    refine ⟨_, ?_, decode?_written_of_isCarried hcarried (isSpecial scheme)⟩
    rw [pushSegment_words hw list hcarried, trunk, if_neg hlist]

end Url

namespace UrlPath

theorem text_eq_slashes {list : List String} (h : Clean list) :
    (segments list).text = "//" ↔ list = ["", ""] := by
  constructor
  · intro ht
    rw [← pieces_segments h, pieces, ht]
    decide
  · rintro rfl
    rfl

end UrlPath

namespace Address

open UrlPath

variable {text : String} {address : Address}

theorem parse_of_toOption (h : (parse text).toOption = some address) :
    parse text = .ok address := by
  cases hp : parse text with
  | error fault =>
      rw [hp] at h
      cases h
  | ok found =>
      rw [hp] at h
      cases h
      rfl

/-! ## Requests -/

/-- An address that was read is a URL whose path takes segments. -/
theorem url_of_parse (h : parse text = .ok address) :
    Url.parse (withoutSlashes text) = .ok address.url ∧
      ∃ list, address.url.path = .segments list := by
  unfold parse at h
  simp only at h
  split at h
  · cases h
  · rename_i url hurl
    split at h
    · cases h
    · rename_i list hp
      cases h
      exact ⟨hurl, list, hp⟩

theorem path_of_parse (h : parse text = .ok address)
    (hs : address.url.scheme ∈ ["http", "https"]) :
    Url.isFile address.url.scheme = false ∧
      ∃ list, address.url.path = .segments list ∧ Clean list := by
  have hkind : ∀ scheme ∈ ["http", "https"],
      Url.isFile scheme = false ∧ Url.isSpecial scheme = true := by decide
  obtain ⟨hw, hspecial⟩ := hkind _ hs
  obtain ⟨list, hp, hclean, _⟩ := Url.path_of_parse (url_of_parse h).1 hspecial hw
  exact ⟨hw, list, hp, hclean⟩

theorem endpointUrl_one {list : List String} (hw : Url.isFile address.url.scheme = false)
    (hp : address.url.path = .segments list) (id : String) :
    address.endpointUrl (.one id) = .ok { address.url with
      path := .segments
        (Url.pushSegment address.url.scheme (Url.trunk list ++ ["api", "getmodule"]) id) } := by
  rw [endpointUrl, Url.extend_one hw hp]

theorem pieces_request {list : List String} (hw : Url.isFile address.url.scheme = false)
    (h : Clean list) (id : String) :
    (segments (Url.pushSegment address.url.scheme
      (Url.trunk list ++ ["api", "getmodule"]) id)).pieces =
        Url.pushSegment address.url.scheme (Url.trunk list ++ ["api", "getmodule"]) id := by
  have hwords : Clean ["api", "getmodule"] := by simp [Clean]
  exact pieces_segments
    (Url.clean_pushSegment hw (Url.words_ne_singleton _) ((Url.clean_trunk h).append hwords) id)

/-- A request names the id that was asked for where the id can be carried by a segment and the path
of the address has not just two slashes. Different ids that can be carried make different requests,
and below the address the segments of each decode to those of its read. -/
theorem request_names_id_iff (h : parse text = .ok address)
    (hs : address.url.scheme ∈ ["http", "https"]) {id : String} (hid : id ≠ "") :
    ∃ url, address.endpointUrl (.one id) = .ok url ∧
      ((∃ piece, url.path.pieces =
            Url.openEnd address.url.path.pieces ++ ["api", "getmodule", piece] ∧
          Percent.decode? piece = some id) ↔
        Url.isCarried id = true ∧ address.url.path.text ≠ "//") ∧
      (Url.isCarried id = true →
        (∃ below, url.path.pieces = Url.trunk address.url.path.pieces ++ below ∧
          ("" :: below).mapM Percent.decode? =
            (Route.segments (Endpoint.one id).path).mapM Percent.decode?) ∧
        ∀ other, Url.isCarried other = true → address.endpointUrl (.one other) = .ok url →
          other = id) := by
  obtain ⟨hw, list, hp, hclean⟩ := path_of_parse h hs
  refine ⟨_, endpointUrl_one hw hp id, ?_, ?_⟩
  · rw [pieces_request hw hclean, hp, pieces_segments hclean, Ne, text_eq_slashes hclean]
    exact Url.pushSegment_words_iff hw list hid
  · intro hcarried
    rw [pieces_request hw hclean, hp, pieces_segments hclean]
    constructor
    · refine ⟨_, Url.pushSegment_words hw list hcarried, ?_⟩
      rw [Endpoint.decode_segments_path]
      simp [Endpoint.segments, Url.decode?_word, Url.decode?_written_of_isCarried hcarried]
    · intro other hother hsame
      rw [endpointUrl_one hw hp, Url.pushSegment_words hw list hother,
        Url.pushSegment_words hw list hcarried] at hsame
      have hwritten : Url.written (Url.isSpecial address.url.scheme) other =
          Url.written (Url.isSpecial address.url.scheme) id := by simpa using hsame
      have := Url.decode?_written_of_isCarried hother (Url.isSpecial address.url.scheme)
      rw [hwritten, Url.decode?_written_of_isCarried hcarried] at this
      exact (Option.some.inj this).symm

def shelf : Address :=
  ⟨"http://nas.local/domos", "http", some ⟨"", .name "nas.local", none⟩, .segments ["domos"], none,
    none⟩

theorem parse_shelf : parse "http://nas.local/domos/" = .ok shelf :=
  parse_of_toOption (by decide +kernel)

theorem shelf_names_id : ∃ url piece, shelf.endpointUrl (.one "a/b?c#d") = .ok url ∧
    url.path.pieces = ["domos", "api", "getmodule", piece] ∧
    Percent.decode? piece = some "a/b?c#d" := by
  obtain ⟨url, hurl, hnames, _⟩ := @request_names_id_iff _ _ parse_shelf (by decide) "a/b?c#d"
    (by decide)
  obtain ⟨piece, hpieces, hpiece⟩ := hnames.mpr ⟨by decide, by decide⟩
  have hfront : Url.openEnd shelf.url.path.pieces = ["domos"] := by decide
  rw [hfront] at hpieces
  exact ⟨url, piece, hurl, hpieces, hpiece⟩

def bare : Address := ⟨"http://h", "http", some ⟨"", .name "h", none⟩, .segments [""], none, none⟩

/-- A tab is dropped from an id, so that another id is asked for. -/
theorem tab_is_lost : parse "http://h" = .ok bare ∧
    bare.endpointUrl (.one "a\tb") = bare.endpointUrl (.one "ab") ∧
    ¬ ∃ url piece, bare.endpointUrl (.one "a\tb") = .ok url ∧
      url.path.pieces = Url.openEnd bare.url.path.pieces ++ ["api", "getmodule", piece] ∧
      Percent.decode? piece = some "a\tb" := by
  refine ⟨parse_of_toOption (by decide +kernel), rfl, ?_⟩
  rintro ⟨url, piece, hurl, hpieces, hpiece⟩
  have hvalue : (bare.endpointUrl (.one "a\tb")).toOption.map (·.path.pieces) =
      some ["api", "getmodule", "ab"] := by decide
  have hfront : Url.openEnd bare.url.path.pieces = [] := by decide
  rw [hurl, Except.toOption, Option.map_some, Option.some.injEq, hpieces, hfront] at hvalue
  obtain rfl : piece = "ab" := by simpa using hvalue
  rw [Url.decode?_of_written_eq (by decide)] at hpiece
  exact absurd hpiece (by decide)

/-- No id leads away from the pages below `api`, and nothing but the path depends on it. The path of
the address stays in front, without one slash at its end, unless it has just two slashes: then one
of these gives way. -/
theorem request_stays_below_iff (h : parse text = .ok address)
    (hs : address.url.scheme ∈ ["http", "https"]) (id : String) :
    ∃ url, address.endpointUrl (.one id) = .ok url ∧
      url.scheme = address.url.scheme ∧ url.authority = address.url.authority ∧
      url.query = address.url.query ∧ url.fragment = address.url.fragment ∧
      ((address.url.path.stem ++ "/api/").toList <+: url.path.text.toList ↔
        address.url.path.text ≠ "//") ∧
      (address.url.path.text = "//" → "/api/".toList <+: url.path.text.toList) := by
  obtain ⟨hw, list, hp, hclean⟩ := path_of_parse h hs
  obtain ⟨rest, hne, hrest⟩ := Url.pushSegment_below hw (Url.trunk list) id
  have hbelow := below_api_prefix (Url.trunk list) hne
  refine ⟨_, endpointUrl_one hw hp id, rfl, rfl, rfl, rfl, ?_, ?_⟩
  · rw [hp, stem_segments hclean, Ne, text_eq_slashes hclean, hrest]
    constructor
    · rintro ⟨more, hmore⟩ rfl
      rw [text_segments, ofPieces_append] at hmore
      simp [Url.trunk, Url.openEnd, Route.ofPieces] at hmore
    · intro hlist
      rw [Url.trunk, if_neg hlist] at hbelow ⊢
      exact hbelow
  · rw [hp, text_eq_slashes hclean, hrest]
    rintro rfl
    exact hbelow

theorem shelf_stays_below : ∃ url, shelf.endpointUrl (.one "..") = .ok url ∧
    url.authority = shelf.url.authority ∧ "/domos/api/".toList <+: url.path.text.toList := by
  obtain ⟨url, hurl, _, hauthority, _, _, hbelow, _⟩ :=
    request_stays_below_iff parse_shelf (by decide) ".."
  have hstem : shelf.url.path.stem ++ "/api/" = "/domos/api/" := by decide
  rw [hstem] at hbelow
  exact ⟨url, hurl, hauthority, hbelow.mpr (by decide)⟩

def slashes : Address :=
  ⟨"http://h//?q", "http", some ⟨"", .name "h", none⟩, .segments ["", ""], some "q", none⟩

/-- Of two slashes alone, both give way to the segments of a read. -/
theorem slash_is_lost : parse "http://h//?q" = .ok slashes ∧
    ¬ ∃ url, slashes.endpointUrl (.one "x") = .ok url ∧
      (slashes.url.path.stem ++ "/api/").toList <+: url.path.text.toList := by
  refine ⟨parse_of_toOption (by decide +kernel), ?_⟩
  rintro ⟨url, hurl, hbelow⟩
  have hvalue : (slashes.endpointUrl (.one "x")).toOption.map (·.path.text) =
      some "/api/getmodule/x" := by decide
  rw [hurl, Except.toOption, Option.map_some, Option.some.injEq] at hvalue
  rw [hvalue] at hbelow
  exact absurd hbelow (by decide)

end Address

end HomeConsole
