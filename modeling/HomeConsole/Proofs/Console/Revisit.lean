import HomeConsole.Proofs.Console.Coherence
import HomeConsole.Proofs.Route.Canonical

/-!
# Going to the same path again

A console that goes to its own path once more shows the same page anew and asks for the same read,
just as reloading does, because a path that was resolved resolves to itself. This fails for one kind
of path: a blank in front of a query or of the last slash is part of a canonical path, and is
trimmed off it the next time.
-/

namespace HomeConsole

namespace Route

/-- A canonical path that fits a route is canonical once more just where it does not end in a
blank. -/
theorem normalize_normalize_iff {path : String} {route : Route} (h : route ∈ table)
    (hm : (route.matchPath? (normalize path)).isSome = true) :
    normalize (normalize path) = normalize path ↔
      ∀ c ∈ (normalize path).toList.getLast?, isBlank c = false := by
  obtain ⟨cs, hcs, hinside⟩ := normalize_rooted path
  refine normalize_eq_self_iff hcs hinside ?_
  rintro c hc rfl
  rcases eq_root_or_getLast?_ne_slash h hm with hroot | hlast
  · rw [hroot] at hcs
    cases hcs
    cases hc
  · rw [hcs] at hlast
    cases cs with
    | nil => cases hc
    | cons d ds => exact hlast (List.getLast?_cons_cons.trans hc)

theorem path_resolve (path : String) :
    (resolve path).path = normalize path ∨ (resolve path).path = "/" := by
  rcases resolve_found_or_root path with ⟨_, _, _, _, hfound⟩ | hroot
  · left
    rw [hfound]
  · right
    rw [hroot]

theorem resolve_again {path : String}
    (h : ∀ c ∈ (resolve path).path.toList.getLast?, isBlank c = false) :
    resolve (resolve path).path = { resolve path with redirectedFrom := none } := by
  rcases resolve_found_or_root path with ⟨route, hroute, _, hmatch, hfound⟩ | hroot
  · rw [hfound] at h ⊢
    have hiff := normalize_normalize_iff hroute (Option.isSome_of_eq_some hmatch)
    exact (resolve_congr (hiff.mpr h)).trans hfound
  · rw [hroot]
    exact resolve_root

theorem solid_root : ∀ c ∈ "/".toList.getLast?, isBlank c = false := by
  rintro c ⟨⟩
  decide

theorem solid_of_path_resolve {path : String}
    (h : (resolve (resolve path).path).path = (resolve path).path) :
    ∀ c ∈ (resolve path).path.toList.getLast?, isBlank c = false := by
  rcases resolve_found_or_root path with ⟨route, hroute, _, hmatch, hfound⟩ | hroot
  · rw [hfound] at h ⊢
    show ∀ c ∈ (normalize path).toList.getLast?, isBlank c = false
    have hiff := normalize_normalize_iff hroute (Option.isSome_of_eq_some hmatch)
    rcases path_resolve (normalize path) with hpath | hpath
    · exact hiff.mp (hpath.symm.trans h)
    · rw [show normalize path = "/" from h.symm.trans hpath]
      exact solid_root
  · rw [hroot]
    exact solid_root

end Route

namespace Console

variable {console : Console}

theorem Reached.revisit (h : Reached console)
    (hsolid : ∀ c ∈ console.path.toList.getLast?, isBlank c = false) :
    (console.update (.navigate console.path)).effect = (console.update .reload).effect ∧
      (console.update (.navigate console.path)).console =
        { (console.update .reload).console with status := "" } := by
  obtain ⟨path, hpath, hpage, hview⟩ := h
  have hagain := Route.resolve_again (hpath ▸ hsolid)
  rw [← hpath] at hagain
  generalize Route.resolve path = found at hpath hpage hview hagain
  have harrive : console.arrive console.path =
      { console with view := View.activate found, status := "" } := by
    rw [arrive, hagain, ← hpath, ← hpage]
    rfl
  have hendpoint : (View.activate found).endpoint? = console.view.endpoint? := by
    rw [← View.endpoint?_loading, ← hview, View.endpoint?_loading]
  obtain ⟨hconsole, heffect⟩ := console.update_navigate console.path
  rw [hconsole, heffect, harrive, show console.update .reload = console.begin from rfl]
  simp only [begin_effect, begin_console, hendpoint, hview, and_self]

/-- A resolved path leads back to where it came from, and a console that goes to its own path again
is as it would be after reloading, but for the status that goes with it. Either holds just where
the path does not end in a blank. -/
theorem leads_back_iff (path : String) (run : List Action) :
    let found := Route.resolve path
    let console := new.takeAll run
    let again := console.update (.navigate console.path)
    let reloaded := console.update .reload
    (Route.resolve found.path = { found with redirectedFrom := none } ↔
        ∀ c ∈ found.path.toList.getLast?, isBlank c = false) ∧
      (again.effect = reloaded.effect ∧ again.console = { reloaded.console with status := "" } ↔
        ∀ c ∈ console.path.toList.getLast?, isBlank c = false) := by
  intro found console again reloaded
  have hreached : Reached console := reached_new.takeAll run
  refine ⟨⟨?_, Route.resolve_again⟩, ⟨?_, hreached.revisit⟩⟩
  · intro h
    apply Route.solid_of_path_resolve
    rw [h]
  · rintro ⟨-, hsame⟩
    obtain ⟨start, hstart, -⟩ := hreached
    have hpath : (Route.resolve console.path).path = console.path := by
      have hagain : again.console.path = (Route.resolve console.path).path := by
        rw [(console.update_navigate console.path).1, begin_path, arrive]
      rw [← hagain, hsame]
      exact begin_path console
    rw [hstart] at hpath ⊢
    exact Route.solid_of_path_resolve hpath

/-- A blank in front of a query is part of the path that is shown, and of the id, but is lost when
the path is typed again. -/
theorem blank_leads_elsewhere :
    Route.resolve (Route.resolve "/module/x ?q").path ≠
        { Route.resolve "/module/x ?q" with redirectedFrom := none } ∧
      let console := new.takeAll [.navigate "/module/x ?q"]
      (console.update (.navigate console.path)).effect = .fetch ⟨2, .one "x"⟩ ∧
        (console.update .reload).effect = .fetch ⟨2, .one "x "⟩ := by
  decide +kernel

end Console

end HomeConsole
