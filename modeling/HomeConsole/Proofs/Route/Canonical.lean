import HomeConsole.Proofs.Text.Blank
import HomeConsole.Route

/-!
# Canonical form

One path is written in many ways: with blanks around it, behind a hash, with or without slashes at
its ends, before a query or a fragment. All of them have the same canonical form and so lead to the
same place.
-/

namespace HomeConsole

namespace Route

variable {cs ds : List Char}

/-! ## The steps -/

theorem dropHash_of_ne (h : cs.head? ≠ some '#') : dropHash cs = cs := by
  unfold dropHash
  split
  · exact absurd rfl h
  · rfl

/-- A path ends where its query or its fragment begins. -/
theorem withoutQuery_append (h : ∀ c ∈ cs, c ≠ '?' ∧ c ≠ '#')
    (hd : ∀ c ∈ ds.head?, c = '?' ∨ c = '#') : withoutQuery (cs ++ ds) = cs := by
  have hkept : ∀ c ∈ cs, (c != '?' && c != '#') = true := by simpa using h
  rw [withoutQuery, List.takeWhile_append_of_pos hkept]
  cases ds with
  | nil => simp
  | cons d ds =>
      have hmark : (d != '?' && d != '#') = false := by
        rcases hd d rfl with rfl | rfl <;> rfl
      simp [hmark]

theorem withoutQuery_eq_self (h : ∀ c ∈ cs, c ≠ '?' ∧ c ≠ '#') : withoutQuery cs = cs := by
  simpa using @withoutQuery_append _ [] h (by simp)

theorem withSlash_of_ne (h : cs.head? ≠ some '/') : withSlash cs = '/' :: cs := by
  unfold withSlash
  split
  · exact absurd rfl h
  · rfl

theorem dropLastSlash_of_ne (h : cs.getLast? ≠ some '/') : dropLastSlash cs = cs :=
  if_neg fun hslash => h hslash.2

theorem dropLastSlash_concat (h : cs ≠ []) : dropLastSlash (cs ++ ['/']) = cs := by
  have hlength : (cs ++ ['/']).length > 1 := by
    simpa using List.length_pos_of_ne_nil h
  rw [dropLastSlash, if_pos ⟨hlength, by simp⟩, List.dropLast_concat]

theorem dropLastSlash_rooted (h : ∀ c ∈ cs.getLast?, c ≠ '/') :
    dropLastSlash ('/' :: cs) = '/' :: cs := by
  cases cs with
  | nil => rfl
  | cons c cs =>
      apply dropLastSlash_of_ne
      rw [List.getLast?_cons_cons]
      exact fun hslash => h '/' hslash rfl

/-! ## What is canonical -/

theorem dropLastSlash_cons (cs : List Char) :
    ∃ ds, dropLastSlash ('/' :: cs) = '/' :: ds ∧ ds.Sublist cs := by
  unfold dropLastSlash
  split
  · rename_i hslash
    obtain ⟨c, more, rfl⟩ := List.exists_cons_of_length_pos (Nat.lt_of_succ_lt_succ hslash.1)
    exact ⟨(c :: more).dropLast, rfl, List.dropLast_sublist _⟩
  · exact ⟨cs, rfl, .refl cs⟩

/-- A canonical path begins with a slash, and no query and no fragment begins in it. -/
theorem normalize_rooted (path : String) :
    ∃ cs, (normalize path).toList = '/' :: cs ∧ ∀ c ∈ cs, c ≠ '?' ∧ c ≠ '#' := by
  have hkept : ∀ c ∈ withoutQuery (dropHash (trim path.toList)), c ≠ '?' ∧ c ≠ '#' := by
    intro c hc
    simpa using List.mem_takeWhile_imp hc
  unfold normalize
  rw [String.toList_ofList]
  generalize withoutQuery (dropHash (trim path.toList)) = kept at hkept
  obtain ⟨cs, hslash, hcs⟩ : ∃ cs, withSlash kept = '/' :: cs ∧ cs ⊆ kept := by
    unfold withSlash
    split
    · exact ⟨_, rfl, List.subset_cons_self _ _⟩
    · exact ⟨kept, rfl, fun _ hc => hc⟩
  obtain ⟨ds, hlast, hds⟩ := dropLastSlash_cons cs
  refine ⟨ds, by rw [hslash, hlast], ?_⟩
  exact fun c hc => hkept c (hcs (hds.subset hc))

theorem normalize_of_rooted {path : String} (h : path.toList = '/' :: cs)
    (hinside : ∀ c ∈ cs, c ≠ '?' ∧ c ≠ '#') :
    (normalize path).toList = dropLastSlash ('/' :: trimEnd cs) := by
  have hkept : ∀ c ∈ '/' :: trimEnd cs, c ≠ '?' ∧ c ≠ '#' := by
    intro c hc
    rcases List.mem_cons.mp hc with rfl | hc
    · decide
    · exact hinside c ((trimEnd_sublist cs).subset hc)
  rw [normalize, String.toList_ofList, h, trim_cons rfl, dropHash_of_ne (by simp),
    withoutQuery_eq_self hkept]
  rfl

/-- A path that begins like a canonical one, and does not end in a slash, is its own canonical form
just where no blank is trimmed from its end. -/
theorem normalize_eq_self_iff {path : String} (h : path.toList = '/' :: cs)
    (hinside : ∀ c ∈ cs, c ≠ '?' ∧ c ≠ '#') (hlast : ∀ c ∈ cs.getLast?, c ≠ '/') :
    normalize path = path ↔ ∀ c ∈ path.toList.getLast?, isBlank c = false := by
  have hend : trimEnd path.toList = '/' :: trimEnd cs := by rw [h, trimEnd_cons rfl]
  rw [← trimEnd_eq_self_iff, ← String.toList_inj, normalize_of_rooted h hinside, hend, h]
  constructor
  · intro hself
    obtain ⟨ds, hslash, hds⟩ := dropLastSlash_cons (trimEnd cs)
    rw [hslash] at hself
    cases hself
    rw [(trimEnd_sublist cs).antisymm hds]
  · intro hself
    rw [hself, dropLastSlash_rooted hlast]

theorem resolve_congr {path other : String} (h : normalize path = normalize other) :
    resolve path = resolve other := by
  unfold resolve
  rw [h]

end Route

/-! ## Spellings -/

/-- A way to write a path: its body, and what may stand around that. -/
structure Spelling where
  before : String
  hash : Bool
  slash : Bool
  body : String
  slashBehind : Bool
  query : String
  after : String

namespace Spelling

/-- The path as it is written. -/
def text (spelling : Spelling) : String :=
  spelling.before ++ (if spelling.hash then "#" else "") ++ (if spelling.slash then "/" else "") ++
    spelling.body ++ (if spelling.slashBehind then "/" else "") ++ spelling.query ++ spelling.after

/-- What may stand where. Blanks stand around a path only, the body has no slash or blank at its
ends, and something marks a path whose body is empty. -/
structure Sound (spelling : Spelling) : Prop where
  before : ∀ c ∈ spelling.before.toList, isBlank c = true
  first : ∀ c ∈ spelling.body.toList.head?, c ≠ '/' ∧ isBlank c = false
  inside : ∀ c ∈ spelling.body.toList, c ≠ '?' ∧ c ≠ '#'
  last : ∀ c ∈ spelling.body.toList.getLast?, c ≠ '/' ∧ isBlank c = false
  query : ∀ c ∈ spelling.query.toList.head?, c = '?' ∨ c = '#'
  after : ∀ c ∈ spelling.after.toList, isBlank c = true
  marked : spelling.body = "" → (spelling.hash || spelling.slash || spelling.slashBehind) = true

/-- The body with the slashes at its ends. -/
def core (spelling : Spelling) : List Char :=
  (if spelling.slash then ['/'] else []) ++ spelling.body.toList ++
    (if spelling.slashBehind then ['/'] else [])

variable {spelling : Spelling}

theorem toList_text (spelling : Spelling) :
    spelling.text.toList = spelling.before.toList ++ ((if spelling.hash then ['#'] else []) ++
      spelling.core ++ (spelling.query.toList ++ spelling.after.toList)) := by
  unfold text core
  cases spelling.hash <;> cases spelling.slash <;> cases spelling.slashBehind <;> simp

theorem core_eq_nil : spelling.core = [] ↔
    spelling.slash = false ∧ spelling.body = "" ∧ spelling.slashBehind = false := by
  have hslash : ∀ written : Bool,
      (if written then ['/'] else ([] : List Char)) = [] ↔ written = false := by decide
  simp only [core, List.append_eq_nil_iff, String.toList_eq_nil_iff, hslash, and_assoc]

namespace Sound

theorem core_last (h : spelling.Sound) : ∀ c ∈ spelling.core.getLast?, isBlank c = false := by
  intro c hc
  unfold core at hc
  cases hbehind : spelling.slashBehind with
  | true =>
      rw [hbehind, if_pos rfl, List.getLast?_concat] at hc
      cases hc
      rfl
  | false =>
      rw [hbehind, if_neg Bool.false_ne_true, List.append_nil, List.getLast?_append] at hc
      cases hbody : spelling.body.toList.getLast? with
      | some d =>
          rw [hbody] at hc
          cases hc
          exact (h.last _ hbody).2
      | none =>
          rw [hbody] at hc
          cases hslash : spelling.slash <;> rw [hslash] at hc <;> cases hc
          rfl

theorem core_first (h : spelling.Sound) :
    ∀ c ∈ spelling.core.head?, isBlank c = false ∧ c ≠ '#' := by
  intro c hc
  unfold core at hc
  cases hslash : spelling.slash with
  | true =>
      rw [hslash] at hc
      cases hc
      decide
  | false =>
      rw [hslash, if_neg Bool.false_ne_true, List.nil_append] at hc
      cases hbody : spelling.body.toList with
      | cons d ds =>
          rw [hbody] at hc
          cases hc
          have hc : c ∈ spelling.body.toList := by simp [hbody]
          exact ⟨(h.first c (by simp [hbody])).2, (h.inside c hc).2⟩
      | nil =>
          rw [hbody] at hc
          cases hbehind : spelling.slashBehind <;> rw [hbehind] at hc <;> cases hc
          decide

/-- A path without a mark in front needs a slash where its body is empty. -/
theorem core_ne_nil (h : spelling.Sound) (hhash : spelling.hash = false) : spelling.core ≠ [] := by
  intro hcore
  obtain ⟨hslash, hbody, hbehind⟩ := core_eq_nil.mp hcore
  have hmarked := h.marked hbody
  rw [hhash, hslash, hbehind] at hmarked
  cases hmarked

theorem core_inside (h : spelling.Sound) : ∀ c ∈ spelling.core, c ≠ '?' ∧ c ≠ '#' := by
  intro c hc
  have hslash : ∀ b : Bool, c ∈ (if b then ['/'] else []) → c = '/' := by
    intro b hb
    cases b <;> simp_all
  simp only [core, List.mem_append] at hc
  rcases hc with (hc | hc) | hc
  · rw [hslash _ hc]
    decide
  · exact h.inside c hc
  · rw [hslash _ hc]
    decide

/-- The slashes around the body come to one slash in front of it. -/
theorem dropLastSlash_withSlash_core (h : spelling.Sound) :
    Route.dropLastSlash (Route.withSlash spelling.core) = '/' :: spelling.body.toList := by
  have hrooted := Route.dropLastSlash_rooted fun c hc => (h.last c hc).1
  have hfirst : spelling.body.toList.head? ≠ some '/' := fun hc => (h.first '/' hc).1 rfl
  have hconcat := Route.dropLastSlash_concat (List.cons_ne_nil '/' spelling.body.toList)
  unfold core
  cases spelling.slash with
  | true =>
      cases spelling.slashBehind with
      | true => exact hconcat
      | false =>
          show Route.dropLastSlash ('/' :: (spelling.body.toList ++ [])) = _
          rw [List.append_nil, hrooted]
  | false =>
      cases spelling.slashBehind with
      | true =>
          cases hbody : spelling.body.toList with
          | nil => rfl
          | cons c cs =>
              rw [hbody] at hfirst hconcat
              exact (congrArg _ (Route.withSlash_of_ne (by simpa using hfirst))).trans hconcat
      | false =>
          simp only [Bool.false_eq_true, if_false, List.nil_append, List.append_nil]
          rw [Route.withSlash_of_ne hfirst, hrooted]

end Sound

/-- What stands behind the path itself begins a query or a fragment, or is trimmed away. -/
theorem Sound.behind (h : spelling.Sound) :
    ∀ c ∈ (trimEnd (spelling.query.toList ++ spelling.after.toList)).head?, c = '?' ∨ c = '#' := by
  intro c hc
  cases hquery : spelling.query.toList with
  | nil =>
      rw [hquery, List.nil_append, trimEnd_eq_nil h.after] at hc
      cases hc
  | cons d ds =>
      have hmark : d = '?' ∨ d = '#' := h.query d (by simp [hquery])
      have hsolid : isBlank d = false := by rcases hmark with rfl | rfl <;> rfl
      rw [hquery, List.cons_append, trimEnd_cons hsolid] at hc
      cases hc
      exact hmark

theorem Sound.trim_text (h : spelling.Sound) :
    trim spelling.text.toList = (if spelling.hash then ['#'] else []) ++ spelling.core ++
      trimEnd (spelling.query.toList ++ spelling.after.toList) := by
  rw [toList_text, trim_append_of_blank h.before]
  cases hhash : spelling.hash with
  | false =>
      exact trim_append (h.core_ne_nil hhash) (fun c hc => (h.core_first c hc).1) h.core_last
  | true =>
      have hlast : ∀ c ∈ ('#' :: spelling.core).getLast?, isBlank c = false := by
        intro c hc
        rw [List.getLast?_cons] at hc
        cases hcore : spelling.core.getLast? with
        | none =>
            rw [hcore] at hc
            cases hc
            rfl
        | some d =>
            rw [hcore] at hc
            cases hc
            exact h.core_last _ hcore
      exact trim_append (List.cons_ne_nil _ _) (fun c hc => by cases hc; rfl) hlast

theorem Sound.dropHash_trim_text (h : spelling.Sound) :
    Route.dropHash (trim spelling.text.toList) =
      spelling.core ++ trimEnd (spelling.query.toList ++ spelling.after.toList) := by
  rw [h.trim_text]
  cases hhash : spelling.hash with
  | true => rfl
  | false =>
      obtain ⟨c, cs, hcore⟩ := List.exists_cons_of_ne_nil (h.core_ne_nil hhash)
      apply Route.dropHash_of_ne
      rw [if_neg Bool.false_ne_true, List.nil_append, hcore, List.cons_append, List.head?_cons]
      intro hc
      cases hc
      exact (h.core_first '#' (by simp [hcore])).2 rfl

/-- The canonical form of a path is its body behind a slash. -/
theorem Sound.normalize_text (h : spelling.Sound) :
    Route.normalize spelling.text = "/" ++ spelling.body := by
  rw [← String.toList_inj, Route.normalize, String.toList_ofList, h.dropHash_trim_text,
    Route.withoutQuery_append h.core_inside h.behind, h.dropLastSlash_withSlash_core]
  simp

/-- A body with nothing around it but perhaps a slash in front. -/
def bare (slash : Bool) (body : String) : Spelling := ⟨"", false, slash, body, false, "", ""⟩

theorem text_bare (slash : Bool) (body : String) :
    (bare slash body).text = (if slash then "/" else "") ++ body := by
  cases slash <;> simp [text, bare]

theorem sound_bare {slash : Bool} {body : String}
    (hfirst : ∀ c ∈ body.toList.head?, c ≠ '/' ∧ isBlank c = false)
    (hinside : ∀ c ∈ body.toList, c ≠ '?' ∧ c ≠ '#')
    (hlast : ∀ c ∈ body.toList.getLast?, c ≠ '/' ∧ isBlank c = false)
    (hmarked : body = "" → slash = true) : (bare slash body).Sound :=
  ⟨by simp [bare], hfirst, hinside, hlast, by simp [bare], by simp [bare], by simpa [bare]⟩

/-- However a path is spelled, its canonical form is its body behind a slash, and it leads to where
that leads. -/
theorem all_spellings_resolve_alike (h : spelling.Sound) :
    Route.normalize spelling.text = "/" ++ spelling.body ∧
      Route.resolve spelling.text = Route.resolve ("/" ++ spelling.body) := by
  have hrooted := (sound_bare h.first h.inside h.last fun _ => rfl).normalize_text
  rw [text_bare, if_pos rfl] at hrooted
  exact ⟨h.normalize_text, Route.resolve_congr (h.normalize_text.trans hrooted.symm)⟩

/-- The page of a record with everything around its path that may stand there. -/
def decorated : Spelling := ⟨"\u2003 ", true, true, "module/a%2Fb", true, "?x#y", " \t"⟩

theorem decorated_resolves : decorated.Sound ∧ Route.resolve decorated.text =
    ⟨⟨"/module/:id", .detail⟩, "/module/a%2Fb", [("id", "a/b")], none⟩ := by
  have hsound : decorated.Sound := by constructor <;> simp [decorated] <;> decide
  exact ⟨hsound, (all_spellings_resolve_alike hsound).2.trans (by decide +kernel)⟩

end Spelling

end HomeConsole
