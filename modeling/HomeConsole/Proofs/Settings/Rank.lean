import HomeConsole.Proofs.Text.Blank
import HomeConsole.Proofs.Text.Numeral
import HomeConsole.Settings.Basic

/-!
# Which source decides

Each setting has sources of its own, in a rank, and the first one that has a value decides. So
settings that agree on their sources down to there are alike, whatever else they come from. The
variable for the timeout counts as such a source just where it asks for a number of seconds;
otherwise it is rejected and changes nothing.
-/

namespace HomeConsole

namespace Settings

variable {α : Type} {sources sources' : List (Option α)} {value : α}

/-! ## The first source that has a value -/

/-- The first of some sources that has a value has this one. -/
inductive IsFirst : List (Option α) → α → Prop
  | here (value : α) (lower : List (Option α)) : IsFirst (some value :: lower) value
  | next {lower : List (Option α)} {value : α} (h : IsFirst lower value) :
      IsFirst (none :: lower) value

/-- Two rows of sources agree down to the first one that has a value. -/
inductive AgreeToFirst : List (Option α) → List (Option α) → Prop
  | here (value : α) (lower lower' : List (Option α)) :
      AgreeToFirst (some value :: lower) (some value :: lower')
  | next {lower lower' : List (Option α)} (h : AgreeToFirst lower lower') :
      AgreeToFirst (none :: lower) (none :: lower')

theorem IsFirst.unique (h : IsFirst sources value) {value' : α} (h' : IsFirst sources value') :
    value = value' := by
  induction h with
  | here => cases h' with | here => rfl
  | next _ ih => cases h' with | next h' => exact ih h'

theorem IsFirst.of_agree (h : IsFirst sources value) (hagree : AgreeToFirst sources sources') :
    IsFirst sources' value := by
  induction hagree with
  | here => cases h with | here => exact .here _ _
  | next _ ih => cases h with | next h => exact .next (ih h)

/-- Rows that agree down to their first value have the same first value. -/
theorem IsFirst.eq_of_agree (h : IsFirst sources value) {value' : α}
    (h' : IsFirst sources' value') (hagree : AgreeToFirst sources sources') : value = value' :=
  (h.of_agree hagree).unique h'

/-- One source and a default. -/
theorem isFirst_getD (source : Option α) (value : α) :
    IsFirst [source, some value] (source.getD value) := by
  cases source with
  | none => exact .next (.here _ _)
  | some value => exact .here _ _

/-- One more source above others. -/
theorem IsFirst.orElse {lower : Option α} (source : Option α)
    (h : IsFirst sources (lower.getD value)) :
    IsFirst (source :: sources) ((source <|> lower).getD value) := by
  cases source with
  | none => exact .next h
  | some value => exact .here _ _

/-! ## The variable for the timeout -/

/-- The value of a variable asks for a number of seconds: it is a numeral, perhaps between
blanks. -/
def Asks (value : String) (seconds : Nat) : Prop :=
  ∃ before text after, value.toList = before ++ text ++ after ∧
    (∀ c ∈ before, isBlank c = true) ∧ (∀ c ∈ after, isBlank c = true) ∧
      Numeral.Spells text seconds

theorem isBlank_of_digit {c : Char} (h : c.isDigit = true) : isBlank c = false := by
  have hlow : 48 ≤ c.toNat := (Char.isDigit_iff_toNat.mp h).1
  have hhigh : c.toNat ≤ 57 := (Char.isDigit_iff_toNat.mp h).2
  simp only [isBlank, Bool.or_eq_false_iff, Bool.and_eq_false_iff, decide_eq_false_iff_not,
    beq_eq_false_iff_ne]
  omega

theorem readSeconds_eq_ok {value : String} {seconds : Nat} :
    readSeconds value = .ok seconds ↔ Asks value seconds := by
  rw [readSeconds, Numeral.read_eq_ok]
  constructor
  · intro h
    obtain ⟨before, after, hvalue, hbefore, hafter⟩ := eq_append_trim value.toList
    exact ⟨before, _, after, hvalue, hbefore, hafter, h⟩
  · rintro ⟨before, text, after, hvalue, hbefore, hafter, h⟩
    obtain ⟨hne, hfirst, hlast⟩ := h.ends
    have hhead : ∀ c ∈ text.head?, isBlank c = false := by
      intro c hc
      rcases hfirst c hc with rfl | hdigit
      · rfl
      · exact isBlank_of_digit hdigit
    have htrim : trim value.toList = text := by
      rw [hvalue, List.append_assoc, trim_append_of_blank hbefore,
        trim_append hne hhead fun c hc => isBlank_of_digit (hlast c hc), trimEnd_eq_nil hafter,
        List.append_nil]
    rwa [htrim]

/-- A variable that asks for no number of seconds has a fault. -/
theorem readSeconds_eq_error {value : String} (h : ∀ seconds, ¬ Asks value seconds) :
    ∃ fault, readSeconds value = .error fault := by
  cases hread : readSeconds value with
  | error fault => exact ⟨fault, rfl⟩
  | ok seconds => exact absurd (readSeconds_eq_ok.mp hread) (h seconds)

theorem timeout_eq (seconds : Nat) :
    timeout seconds = if seconds = 0 then none else some seconds := by
  cases seconds with
  | zero => rfl
  | succ n => rfl

end Settings

/-! ## Settings and their sources -/

/-- What settings come from. -/
structure Sources where
  file : FileSettings
  overrides : Overrides
  environment : Environment

namespace Sources

open Settings

variable (sources : Sources)

/-- The settings that the sources agree on. -/
def settings : Settings := Settings.resolve sources.file sources.overrides sources.environment

/-- The sources of the address of the backend, the highest first. -/
def baseUrl : List (Option String) :=
  [sources.overrides.baseUrl, sources.environment baseUrlVariable, sources.file.baseUrl,
    some "http://localhost:5000"]

/-- The sources of the path to start at, the highest first. -/
def startPath : List (Option String) :=
  [sources.overrides.startPath, sources.environment startPathVariable, sources.file.startPath,
    some "/"]

/-- The sources of the name of the log file, the highest first. -/
def logFile : List (Option String) := [sources.file.logFile, some "domos.log"]

/-- The number of seconds that the environment asks for. -/
def askedSeconds : Option Nat :=
  (sources.environment timeoutVariable).bind fun value => (readSeconds value).toOption

/-- The sources of the number of seconds a read may take, the highest first. -/
def seconds : List (Option Nat) := [sources.askedSeconds, sources.file.timeoutSeconds, some 30]

/-- The sources with a variable that is not set. -/
def unset (name : String) : Sources :=
  { sources with
    environment := fun other => if other = name then none else sources.environment other }

theorem askedSeconds_eq_some {seconds : Nat} : sources.askedSeconds = some seconds ↔
    ∃ value, sources.environment timeoutVariable = some value ∧ Asks value seconds := by
  rw [askedSeconds, Option.bind_eq_some_iff]
  refine exists_congr fun value => and_congr_right fun _ => ?_
  rw [← readSeconds_eq_ok]
  cases readSeconds value <;> simp [Except.toOption]

theorem environmentSeconds_fst :
    (environmentSeconds sources.environment).1 = sources.askedSeconds := by
  unfold environmentSeconds askedSeconds
  split
  · rename_i hvalue
    rw [hvalue]
    rfl
  · rename_i value hvalue
    rw [hvalue, Option.bind_some]
    split <;> rename_i hread <;> rw [hread] <;> rfl

theorem isFirst_baseUrl : IsFirst sources.baseUrl sources.settings.baseUrl :=
  ((isFirst_getD _ _).orElse _).orElse _

theorem isFirst_startPath : IsFirst sources.startPath sources.settings.startPath :=
  ((isFirst_getD _ _).orElse _).orElse _

theorem isFirst_logFile : IsFirst sources.logFile sources.settings.logFile := isFirst_getD _ _

theorem isFirst_seconds : ∃ seconds, IsFirst sources.seconds seconds ∧
    sources.settings.timeoutSeconds = if seconds = 0 then none else some seconds := by
  refine ⟨_, (isFirst_getD sources.file.timeoutSeconds 30).orElse sources.askedSeconds, ?_⟩
  rw [← timeout_eq, ← environmentSeconds_fst]
  rfl

theorem timeoutSeconds_of_agree {sources sources' : Sources}
    (h : AgreeToFirst sources.seconds sources'.seconds) :
    sources.settings.timeoutSeconds = sources'.settings.timeoutSeconds := by
  obtain ⟨seconds, hfirst, heq⟩ := sources.isFirst_seconds
  obtain ⟨seconds', hfirst', heq'⟩ := sources'.isFirst_seconds
  rw [heq, heq', hfirst.eq_of_agree hfirst' h]

theorem timeoutSeconds_of_asks {value : String} {seconds : Nat}
    (hvalue : sources.environment timeoutVariable = some value) (h : Asks value seconds) :
    sources.settings.timeoutSeconds = (if seconds = 0 then none else some seconds) ∧
      sources.settings.rejected = [] := by
  have hread := readSeconds_eq_ok.mpr h
  have henvironment : environmentSeconds sources.environment = (some seconds, []) := by
    simp only [environmentSeconds, hvalue, hread]
  rw [← timeout_eq]
  simp only [settings, resolve, henvironment, and_true]
  rfl

theorem settings_unset : (sources.unset timeoutVariable).settings =
    { sources.settings with
      timeoutSeconds := timeout (sources.file.timeoutSeconds.getD defaultSeconds)
      rejected := [] } := by
  have hnone : environmentSeconds (sources.unset timeoutVariable).environment = (none, []) := by
    simp only [environmentSeconds, unset, if_true]
  have hother : ∀ other, other ≠ timeoutVariable →
      (sources.unset timeoutVariable).environment other = sources.environment other :=
    fun other hne => if_neg hne
  simp only [settings, resolve, hnone, hother baseUrlVariable (by decide),
    hother startPathVariable (by decide)]
  rfl

/-- A variable that asks for no number of seconds is the only thing that is rejected, and leaves
all other settings as they are without it. -/
theorem settings_of_fault {value : String}
    (hvalue : sources.environment timeoutVariable = some value)
    (h : ∀ seconds, ¬ Asks value seconds) : ∃ fault, sources.settings =
      { (sources.unset timeoutVariable).settings with
        rejected := [⟨timeoutVariable, value, fault⟩] } := by
  obtain ⟨fault, hread⟩ := readSeconds_eq_error h
  have henvironment : environmentSeconds sources.environment =
      (none, [⟨timeoutVariable, value, fault⟩]) := by
    simp only [environmentSeconds, hvalue, hread]
  refine ⟨fault, ?_⟩
  rw [sources.settings_unset]
  simp only [settings, resolve, henvironment]
  rfl

/-- The highest source that has a value decides, and no other one matters. The address and the path
to start at come from the command line, the environment, the file or the default, the log file from
the file or the default, and the timeout from the environment, the file or the default. The variable
for the timeout decides just where it asks for a number of seconds, of which none stands for no
timeout; where it is set otherwise it alone is rejected, and all else is as without it. -/
theorem highest_source_decides (sources sources' : Sources) :
    (IsFirst sources.baseUrl sources.settings.baseUrl ∧
      IsFirst sources.startPath sources.settings.startPath ∧
      IsFirst sources.logFile sources.settings.logFile ∧
      ∃ seconds, IsFirst sources.seconds seconds ∧
        sources.settings.timeoutSeconds = if seconds = 0 then none else some seconds) ∧
    ((AgreeToFirst sources.baseUrl sources'.baseUrl →
        sources.settings.baseUrl = sources'.settings.baseUrl) ∧
      (AgreeToFirst sources.startPath sources'.startPath →
        sources.settings.startPath = sources'.settings.startPath) ∧
      (AgreeToFirst sources.logFile sources'.logFile →
        sources.settings.logFile = sources'.settings.logFile) ∧
      (AgreeToFirst sources.seconds sources'.seconds →
        sources.settings.timeoutSeconds = sources'.settings.timeoutSeconds)) ∧
    (∀ seconds, sources.askedSeconds = some seconds ↔
      ∃ value, sources.environment timeoutVariable = some value ∧ Asks value seconds) ∧
    (sources.environment timeoutVariable = none → sources.settings.rejected = []) ∧
    ∀ value, sources.environment timeoutVariable = some value →
      (∀ seconds, Asks value seconds →
        sources.settings.timeoutSeconds = (if seconds = 0 then none else some seconds) ∧
          sources.settings.rejected = []) ∧
      ((∀ seconds, ¬ Asks value seconds) → ∃ fault, sources.settings =
        { (sources.unset timeoutVariable).settings with
          rejected := [⟨timeoutVariable, value, fault⟩] }) := by
  refine ⟨⟨sources.isFirst_baseUrl, sources.isFirst_startPath, sources.isFirst_logFile,
    sources.isFirst_seconds⟩, ⟨?_, ?_, ?_, timeoutSeconds_of_agree⟩,
    fun _ => sources.askedSeconds_eq_some, ?_, fun value hvalue =>
    ⟨fun seconds => sources.timeoutSeconds_of_asks hvalue, sources.settings_of_fault hvalue⟩⟩
  · exact sources.isFirst_baseUrl.eq_of_agree sources'.isFirst_baseUrl
  · exact sources.isFirst_startPath.eq_of_agree sources'.isFirst_startPath
  · exact sources.isFirst_logFile.eq_of_agree sources'.isFirst_logFile
  · intro hnone
    simp only [settings, resolve, environmentSeconds, hnone]

/-- Sources of which only the file, and the variable for the timeout, say something. -/
def waiting (value : String) : Sources where
  file := { baseUrl := some "http://pi:8080", timeoutSeconds := some 5 }
  overrides := {}
  environment name := if name = timeoutVariable then some value else none

/-- Seven seconds with a sign, zeros and blanks count; a word is rejected, and the address comes from
the file either way. -/
theorem padded_seconds_count :
    Asks " +007\n" 7 ∧ (waiting " +007\n").settings.timeoutSeconds = some 7 ∧
      (∀ seconds, ¬ Asks "soon" seconds) ∧
      (∃ fault, (waiting "soon").settings =
        { ((waiting "soon").unset timeoutVariable).settings with
          rejected := [⟨timeoutVariable, "soon", fault⟩] }) ∧
      AgreeToFirst (waiting " +007\n").baseUrl (waiting "soon").baseUrl ∧
      (waiting " +007\n").settings.baseUrl = (waiting "soon").settings.baseUrl := by
  have hasks : Asks " +007\n" 7 := readSeconds_eq_ok.mp (by decide)
  have hword : ∀ seconds, ¬ Asks "soon" seconds := by
    intro seconds hseconds
    have hread : readSeconds "soon" = .error .badDigit := by decide
    rw [← readSeconds_eq_ok, hread] at hseconds
    cases hseconds
  have hagree : AgreeToFirst (waiting " +007\n").baseUrl (waiting "soon").baseUrl :=
    .next (.next (.here _ _ _))
  obtain ⟨-, ⟨hsame, -⟩, -, -, hset⟩ :=
    highest_source_decides (waiting " +007\n") (waiting "soon")
  obtain ⟨-, -, -, -, hsoon⟩ := highest_source_decides (waiting "soon") (waiting " +007\n")
  exact ⟨hasks, ((hset " +007\n" rfl).1 7 hasks).1, hword, (hsoon "soon" rfl).2 hword, hagree,
    hsame hagree⟩

end Sources

end HomeConsole
