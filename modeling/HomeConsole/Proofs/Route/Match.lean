import HomeConsole.Proofs.Route.Table

/-!
# What a pattern takes from a path

A route matches just the paths that its pattern fits segment by segment, and binds just the names
of the pattern, each to the segment that stands opposite its last occurrence, with the escapes
undone. No path matches two routes of the table, so the order of the table does not matter; one
that matches none leads to the root page.
-/

namespace HomeConsole

namespace Params

theorem mem_bind {params : Params} {name value other found : String} :
    (other, found) ∈ params.bind name value ↔
      other = name ∧ found = value ∨ other ≠ name ∧ (other, found) ∈ params := by
  by_cases h : other = name <;> simp [bind, h]

/-- Binding a name keeps the names apart. -/
theorem nodup_bind {params : Params} (h : (params.map Prod.fst).Nodup) (name value : String) :
    ((params.bind name value).map Prod.fst).Nodup := by
  rw [bind, List.map_cons, List.nodup_cons]
  constructor
  · simp
  · exact h.sublist (List.filter_sublist.map Prod.fst)

end Params

namespace Route

/-! ## Names -/

/-- The last occurrence of a name in a pattern stands opposite a segment of a path. -/
inductive Takes (name : String) : List String → List String → String → Prop
  | here {pattern path : List String} {segment : String} (hlast : ":" ++ name ∉ pattern) :
      Takes name ((":" ++ name) :: pattern) (segment :: path) segment
  | there {expected other segment : String} {pattern path : List String}
      (h : Takes name pattern path segment) :
      Takes name (expected :: pattern) (other :: path) segment

variable {name segment : String} {pattern path : List String}

theorem takes_cons {expected other : String} :
    Takes name (expected :: pattern) (other :: path) segment ↔
      Takes name pattern path segment ∨
        (expected = ":" ++ name ∧ ":" ++ name ∉ pattern) ∧ segment = other := by
  constructor
  · rintro (hlast | h)
    · exact Or.inr ⟨⟨rfl, hlast⟩, rfl⟩
    · exact Or.inl h
  · rintro (h | ⟨⟨rfl, hlast⟩, rfl⟩)
    · exact .there h
    · exact .here hlast

theorem Takes.mem (h : Takes name pattern path segment) : ":" ++ name ∈ pattern := by
  induction h with
  | here _ => exact List.mem_cons_self
  | there _ ih => exact List.mem_cons_of_mem _ ih

/-- Every name of a pattern that fits takes a segment. -/
theorem exists_takes (hfits : List.Forall₂ Fits pattern path) (hname : ":" ++ name ∈ pattern) :
    ∃ segment, Takes name pattern path segment := by
  induction hfits with
  | nil => cases hname
  | @cons expected other pattern path _ _ ih =>
      by_cases hlater : ":" ++ name ∈ pattern
      · obtain ⟨segment, h⟩ := ih hlater
        exact ⟨segment, .there h⟩
      · obtain rfl : ":" ++ name = expected := by
          rcases List.mem_cons.mp hname with h | h
          · exact h
          · exact absurd h hlater
        exact ⟨other, .here hlater⟩

/-! ## Bindings -/

theorem nodup_matchSegments {params taken : Params} (hparams : (params.map Prod.fst).Nodup)
    (h : matchSegments params pattern path = some taken) : (taken.map Prod.fst).Nodup := by
  fun_induction matchSegments params pattern path with
  | case1 params => exact Option.some.inj h ▸ hparams
  | case3 params expected pattern segment path name hname hne ih =>
      exact ih (Params.nodup_bind hparams _ _) h
  | case4 params pattern expected path hliteral ih => exact ih hparams h
  | case2 | case5 | case6 => cases h

/-- A name is bound to what stands opposite its last occurrence, or as it was before if it does not
occur. -/
theorem mem_matchSegments {params taken : Params} {value : String}
    (h : matchSegments params pattern path = some taken) :
    (name, value) ∈ taken ↔ (∃ segment, Takes name pattern path segment ∧
        Percent.decode segment = value) ∨
      ":" ++ name ∉ pattern ∧ (name, value) ∈ params := by
  fun_induction matchSegments params pattern path with
  | case1 params =>
      obtain rfl := Option.some.inj h
      have hnone : ∀ segment, ¬ Takes name [] [] segment := fun _ h => nomatch h
      simp [hnone]
  | case3 params expected pattern segment path other hother hne ih =>
      obtain rfl : expected = ":" ++ String.ofList other := by
        simp [← String.toList_inj, hother]
      rw [ih h, Params.mem_bind]
      by_cases hsame : name = String.ofList other
      · subst hsame
        simp [takes_cons, or_and_right, exists_or, and_assoc, eq_comm]
      · have hapart : ":" ++ String.ofList other ≠ ":" ++ name := by
          simpa [eq_comm] using hsame
        simp [takes_cons, hsame, hapart]
  | case4 params pattern expected path hliteral ih =>
      have hapart : expected ≠ ":" ++ name := by
        rintro rfl
        exact hliteral name.toList (by simp)
      rw [ih h]
      simp [takes_cons, hapart, Ne.symm hapart]
  | case2 | case5 | case6 => cases h

/-! ## The table -/

theorem length_filter_matchPath?_le (path : String) :
    (table.filter fun route => (route.matchPath? path).isSome).length ≤ 1 := by
  by_cases h : ∃ route ∈ table, (route.matchPath? path).isSome = true
  · obtain ⟨route, hroute, hmatch⟩ := h
    rw [filter_isSome_matchPath? hroute hmatch]
    exact Nat.le_refl 1
  · have hnone : (table.filter fun route => (route.matchPath? path).isSome) = [] :=
      List.filter_eq_nil_iff.mpr fun route hroute hmatch => h ⟨route, hroute, hmatch⟩
    rw [hnone]
    exact Nat.zero_le 1

/-- A route matches just the paths that its pattern fits segment by segment. Its bindings have just
the names of the pattern, each once, bound to what the segment opposite to the last occurrence
stands for. No path matches two routes of the table; a text leads to the one that its canonical
form matches, and to the root page if there is none. -/
theorem matches_what_fits (route : Route) (path text : String) :
    ((∃ params, route.matchPath? path = some params) ↔
        List.Forall₂ Fits (segments route.pattern) (segments path)) ∧
      (∀ params ∈ route.matchPath? path,
        (params.map Prod.fst).Nodup ∧
          (∀ name, name ∈ params.map Prod.fst ↔ ":" ++ name ∈ segments route.pattern) ∧
          ∀ name value, (name, value) ∈ params ↔
            ∃ segment, Takes name (segments route.pattern) (segments path) segment ∧
              Percent.StandsFor segment value) ∧
      (table.filter fun route => (route.matchPath? path).isSome).length ≤ 1 ∧
      ((∃ before route after params, table = before ++ route :: after ∧
          (∀ other ∈ before, other.matchPath? (normalize text) = none) ∧
          route.matchPath? (normalize text) = some params ∧
          resolve text = ⟨route, normalize text, params, none⟩) ∨
        (∀ route ∈ table, route.matchPath? (normalize text) = none) ∧
          resolve text = ⟨root, "/", [], some (normalize text)⟩) := by
  have hiff : (∃ params, route.matchPath? path = some params) ↔
      List.Forall₂ Fits (segments route.pattern) (segments path) := by
    rw [← Option.isSome_iff_exists, isSome_matchPath?]
  refine ⟨hiff, ?_, length_filter_matchPath?_le path, resolve_cases text⟩
  intro params hparams
  have hmem : ∀ name value, (name, value) ∈ params ↔
      ∃ segment, Takes name (segments route.pattern) (segments path) segment ∧
        Percent.StandsFor segment value := by
    intro name value
    simp only [mem_matchSegments hparams, Percent.standsFor_iff, List.not_mem_nil, and_false,
      or_false]
  have hnodup : (params.map Prod.fst).Nodup :=
    nodup_matchSegments (show (([] : Params).map Prod.fst).Nodup from List.nodup_nil) hparams
  refine ⟨hnodup, ?_, hmem⟩
  intro name
  rw [List.mem_map]
  constructor
  · rintro ⟨⟨_, value⟩, hbound, rfl⟩
    obtain ⟨segment, htakes, _⟩ := (hmem _ _).mp hbound
    exact htakes.mem
  · intro hname
    obtain ⟨segment, htakes⟩ := exists_takes (hiff.mp ⟨params, hparams⟩) hname
    exact ⟨(name, _), (hmem _ _).mpr ⟨segment, htakes, Percent.standsFor_iff.mpr rfl⟩, rfl⟩

example : (⟨"/:a/b/:a", .home⟩ : Route).matchPath? "/x/b/%2F%" = some [("a", "/%")] := by
  decide +kernel

end Route

end HomeConsole
