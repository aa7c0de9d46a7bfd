import HomeConsole.Proofs.Text.Utf8
import HomeConsole.Proofs.Toml.Remark
import HomeConsole.Settings.Home

/-!
# Loading the settings again

Loading writes only where nothing is found, and what it writes there are remarks, which set nothing.
So whatever has happened in the home directory, loading changes no settings file, and loading once
more gives the same and changes nothing at all.
-/

namespace HomeConsole

namespace Home

variable {home : Home} {content : List UInt8}

/-! ## The template -/

/-- The settings file with all settings commented out. -/
def templateFile : Home := .folder (.file (Utf8.encode template.toList))

theorem parse_template : Toml.parse template.toList = .ok [] := by
  unfold template
  rw [String.toList_intercalate, String.toList_ofList]
  refine Toml.parse_remarks ?_
  simp only [List.forall_mem_map, List.forall_mem_cons, List.not_mem_nil, false_implies,
    implies_true, and_true]
  refine ⟨?_, ?_, ?_, ?_, ?_, ?_, ?_, ?_, ?_, ?_, ?_, ?_⟩
  all_goals
    rw [String.toList_ofList]
    decide

/-- A settings file that binds no key sets nothing. -/
theorem load_bytes {text : List Char} (h : Toml.parse text = .ok []) :
    FileSettings.load (.bytes (Utf8.encode text)) = .ok {} := by
  have hread : Utf8.decode? (Utf8.encode text) = some text := Utf8.decode?_encode text
  simp only [FileSettings.load, hread, FileSettings.parse, String.toList_ofList, h]
  rfl

theorem load_template : FileSettings.load templateFile.find = .ok {} := load_bytes parse_template

/-! ## Loading -/

theorem load_of_found (h : home.hasSettings = true) :
    home.load = (home, FileSettings.load home.find) := by
  rw [load, if_pos h]

theorem load_of_missing (h : home.hasSettings = false) :
    home.load = ((home.write template).1, .ok {}) := by
  rw [load, if_neg (Bool.eq_false_iff.mp h)]

/-- Writing gives a file of that text, or changes nothing. -/
theorem write_fst (text : String) : (home.write text).1 =
    if (home.write text).2 then .folder (.file (Utf8.encode text.toList)) else home := by
  cases home with
  | bare => rfl
  | blocked => rfl
  | folder entry => cases entry <;> rfl

theorem hasSettings_of_content (h : home.content? = some content) : home.hasSettings = true := by
  cases home with
  | bare => cases h
  | blocked => cases h
  | folder entry => cases entry <;> first | rfl | cases h

/-- Loading once more gives the same and changes nothing. -/
theorem load_load (home : Home) : home.load.1.load = home.load := by
  cases hfound : home.hasSettings with
  | true => rw [load_of_found hfound, load_of_found hfound]
  | false =>
      have hwrite := @write_fst home template
      rw [load_of_missing hfound]
      split at hwrite
      · rw [hwrite]
        exact (load_of_found rfl).trans (congrArg _ load_template)
      · rw [hwrite, load_of_missing hfound, hwrite]

/-! ## What happens in the home directory -/

/-- Something that happens in the home directory. -/
inductive Change where
  | write (text : String)
  | delete
  | deleteFolder
  | block
  | makeFolder
  | dangle
  | load

/-- The home directory after something happened in it. -/
def undergo (home : Home) : Change → Home
  | .write text => (home.write text).1
  | .delete => home.delete.1
  | .deleteFolder => home.deleteFolder.1
  | .block => home.block.1
  | .makeFolder => home.makeFolder.1
  | .dangle => home.dangle.1
  | .load => home.load.1

/-- The home directory after all that happened in it. -/
def after (home : Home) (changes : List Change) : Home := changes.foldl undergo home

/-- The text that something that happens may write. -/
def Change.text? : Change → Option String
  | .write text => some text
  | .load => some template
  | _ => none

/-- A settings file is left as it was, or holds what was written just now. -/
theorem content_undergo (home : Home) (change : Change)
    (h : (home.undergo change).content? = some content) : home.content? = some content ∨
      ∃ text, change.text? = some text ∧ content = Utf8.encode text.toList := by
  have hwrite : ∀ text, (home.write text).1.content? = some content →
      home.content? = some content ∨ content = Utf8.encode text.toList := by
    intro text htext
    rw [write_fst] at htext
    split at htext
    · exact Or.inr (Option.some.inj htext).symm
    · exact Or.inl htext
  cases change with
  | write text => exact (hwrite text h).imp_right fun hcontent => ⟨text, rfl, hcontent⟩
  | load =>
      simp only [undergo] at h
      cases hfound : home.hasSettings with
      | true =>
          rw [load_of_found hfound] at h
          exact Or.inl h
      | false =>
          rw [load_of_missing hfound] at h
          exact (hwrite template h).imp_right fun hcontent => ⟨template, rfl, hcontent⟩
  | delete | deleteFolder | block | makeFolder | dangle =>
      cases home with
      | bare => cases h
      | blocked => cases h
      | folder entry => cases entry <;> first | exact Or.inl h | cases h

/-- What a settings file holds was there from the start, or was written, or is the template. -/
theorem content_after (start : Home) (changes : List Change)
    (h : (start.after changes).content? = some content) : start.content? = some content ∨
      content = Utf8.encode template.toList ∨
        ∃ text, Change.write text ∈ changes ∧ content = Utf8.encode text.toList := by
  induction changes generalizing start with
  | nil => exact Or.inl h
  | cons change changes ih =>
      rcases ih (start.undergo change) h with hbefore | htemplate | ⟨text, hmem, htext⟩
      · rcases content_undergo start change hbefore with hstart | ⟨text, hchange, htext⟩
        · exact Or.inl hstart
        · cases change with
          | write written =>
              cases hchange
              exact Or.inr (Or.inr ⟨text, List.mem_cons_self, htext⟩)
          | load =>
              cases hchange
              exact Or.inr (Or.inl htext)
          | delete | deleteFolder | block | makeFolder | dangle => cases hchange
      · exact Or.inr (Or.inl htemplate)
      · exact Or.inr (Or.inr ⟨text, List.mem_cons_of_mem _ hmem, htext⟩)

/-- Loading does no harm. Whatever has happened in a home directory, loading leaves a settings file
and anything else that is found at its place alone; where nothing is found it sets nothing, and the
template is there afterwards or, where it cannot be written, all is as before; loading once more
gives the same and changes nothing. So a settings file only ever holds what it held at first, what
was written, or the template. -/
theorem loading_does_no_harm (start : Home) (changes : List Change) :
    let home := start.after changes
    (∀ content, home.content? = some content → home.load.1.content? = some content) ∧
    (home.hasSettings = true → home.load.1 = home) ∧
    (home.hasSettings = false → home.load.2 = .ok {} ∧
      home.load.1 = if (home.write template).2 then templateFile else home) ∧
    home.load.1.load = home.load ∧
    ∀ content, home.content? = some content → start.content? = some content ∨
      content = Utf8.encode template.toList ∨
        ∃ text, Change.write text ∈ changes ∧ content = Utf8.encode text.toList := by
  intro home
  refine ⟨fun content hcontent => ?_, fun hfound => ?_, fun hmissing => ?_, home.load_load,
    fun content => content_after start changes⟩
  · rw [load_of_found (hasSettings_of_content hcontent), hcontent]
  · rw [load_of_found hfound]
  · rw [load_of_missing hmissing]
    exact ⟨rfl, write_fst template⟩

end Home

end HomeConsole
