import HomeConsole.Proofs.Json.Integer
import HomeConsole.Proofs.Json.Shape
import Mathlib.Data.List.Forall2
import Mathlib.Data.List.Induction
import Mathlib.Data.List.TakeWhile
import Mathlib.Tactic.Choose

/-!
# Objects as they are written

The text of an object: its members between braces, with commas between them and blanks wherever they
may stand. Such a text is read as the object of its members, and where several members have one name
the last of them counts.
-/

namespace HomeConsole

namespace Json

variable {cs rest : List Char} {name : String} {written text : List Char} {v : Json}

/-! ## Texts -/

/-- Blanks between tokens, perhaps none. -/
def IsBlank (cs : List Char) : Prop := ∀ c ∈ cs, isSpace c = true

/-- What stands between quotes spells a name, perhaps with escapes. -/
def Spells (spelled : List Char) (name : String) : Prop :=
  ∀ rest, stringRest [] (spelled ++ '"' :: rest) = .ok (name, rest)

/-- What may follow the value of a member. -/
def EndsValue (c : Char) : Prop := isSpace c = true ∨ c = ',' ∨ c = '\x7d'

/-- A text stands for a value where a member has it. -/
def Denotes (written : List Char) (v : Json) : Prop :=
  ∀ c rest, EndsValue c →
    value (maxDepth - 1) (written ++ c :: rest) = .ok (v, c :: rest)

/-- The text of a member: its name, and its value as it is written. -/
inductive MemberText (name : String) (written : List Char) : List Char → Prop where
  | intro {lead spelled gap pad tail : List Char} (hlead : IsBlank lead) (hname : Spells spelled name)
      (hgap : IsBlank gap) (hpad : IsBlank pad) (htail : IsBlank tail) :
      MemberText name written
        (lead ++ '"' :: (spelled ++ '"' :: (gap ++ ':' :: (pad ++ (written ++ tail)))))

/-- The text of an object whose members have these names and are written so, in this order. -/
def ObjectText (members : List (String × List Char)) (text : List Char) : Prop :=
  ∃ lead texts tail, IsBlank lead ∧ IsBlank tail ∧ texts ≠ [] ∧
    List.Forall₂ (fun member text => MemberText member.1 member.2 text) members texts ∧
      text = lead ++ '\x7b' :: ([','].intercalate texts ++ '\x7d' :: tail)

/-- The text of an object in which the value of a member is written in some way. Where members have
the same name the last one is meant; what the other members have may be anything that can be read. -/
def HasMember (text : List Char) (name : String) (written : List Char) : Prop :=
  ∃ members, ObjectText members text ∧
    (members.filter (·.1 == name)).getLast? = some (name, written) ∧
      ∀ member ∈ members, member.2 = written ∨ ∃ v, Denotes member.2 v

/-! ## Tokens -/

theorem skipSpace_append {blanks : List Char} (h : IsBlank blanks) (cs : List Char) :
    skipSpace (blanks ++ cs) = skipSpace cs :=
  List.dropWhile_append_of_pos h

theorem skipSpace_cons {c : Char} (h : isSpace c = false) (cs : List Char) :
    skipSpace (c :: cs) = c :: cs :=
  List.dropWhile_cons_of_neg (by simp [h])

theorem skipSpace_token {blanks : List Char} {c : Char} (hb : IsBlank blanks)
    (hc : isSpace c = false) (cs : List Char) : skipSpace (blanks ++ c :: cs) = c :: cs := by
  rw [skipSpace_append hb, skipSpace_cons hc]

theorem skipSpace_blank {blanks : List Char} (h : IsBlank blanks) : skipSpace blanks = [] :=
  List.dropWhile_eq_nil_iff.mpr h

theorem value_append {blanks : List Char} (h : IsBlank blanks) (depth : Nat) (cs : List Char) :
    value (depth + 1) (blanks ++ cs) = value (depth + 1) cs := by
  rw [value, value, skipSpace_append h]

theorem EndsValue.endsNumber {c : Char} (h : EndsValue c) : EndsNumber (c :: rest) := by
  intro d hd
  obtain rfl : c = d := Option.some.inj hd
  rcases h with hspace | rfl | rfl
  · simp only [isSpace, Bool.or_eq_true, beq_iff_eq] at hspace
    rcases hspace with ((rfl | rfl) | rfl) | rfl <;> decide
  · decide
  · decide

theorem denotes_of_fits {n : Int} (h : Fits n) :
    Denotes (toString n).toList (.number (.integer n)) :=
  fun _ _ hend => value_of_fits h hend.endsNumber

/-! ## Members -/

/-- A binding, and the text of a member that makes it. -/
def Binds (binding : String × Json) (text : List Char) : Prop :=
  ∃ written, MemberText binding.1 written text ∧ Denotes written binding.2

/-- A character that comes after a member. -/
def EndsMember (c : Char) : Prop := c = ',' ∨ c = '\x7d'

theorem endsValue_head {tail : List Char} (h : IsBlank tail) {c : Char} (hc : EndsMember c)
    (rest : List Char) : ∃ d more, tail ++ c :: rest = d :: more ∧ EndsValue d := by
  cases tail with
  | nil => exact ⟨c, rest, rfl, Or.inr hc⟩
  | cons d tail => exact ⟨d, tail ++ c :: rest, rfl, Or.inl (h d List.mem_cons_self)⟩

theorem member_eq {item : List Char → Reading Json} {more : List Char}
    (hname : stringRest [] cs = .ok (name, rest)) (hcolon : skipSpace rest = ':' :: more) :
    member item cs = (item more).map fun read => ((name, read.1), read.2) := by
  simp only [member, hname, hcolon]
  cases item more <;> rfl

/-- The text of a member is read up to the blanks behind its value. -/
theorem MemberText.read (h : MemberText name written text) (hv : Denotes written v) {c : Char}
    (hc : EndsMember c) (rest : List Char) :
    ∃ front tail, IsBlank tail ∧ skipSpace (text ++ c :: rest) = '"' :: front ∧
      member (value (maxDepth - 1)) front = .ok ((name, v), tail ++ c :: rest) := by
  obtain @⟨lead, spelled, gap, pad, tail, hlead, hname, hgap, hpad, htail⟩ := h
  refine ⟨spelled ++ '"' :: (gap ++ ':' :: (pad ++ (written ++ (tail ++ c :: rest)))), tail, htail,
    ?_, ?_⟩
  · simp only [List.append_assoc, List.cons_append]
    exact skipSpace_token hlead rfl _
  · obtain ⟨d, more, hmore, hend⟩ := endsValue_head htail hc rest
    have hvalue : value (maxDepth - 1) (pad ++ (written ++ (tail ++ c :: rest))) =
        .ok (v, tail ++ c :: rest) := by
      rw [show maxDepth - 1 = 126 + 1 from rfl, value_append hpad, hmore]
      exact hv d more hend
    rw [member_eq (hname _) (skipSpace_token hgap rfl _), hvalue]
    rfl

/-! ## Objects -/

/-- Further members with the commas before them. -/
def further (texts : List (List Char)) : List Char := texts.flatMap (',' :: ·)

theorem intercalate_cons (first : List Char) (texts : List (List Char)) :
    [','].intercalate (first :: texts) = first ++ further texts := by
  induction texts generalizing first with
  | nil => simp [List.intercalate, further]
  | cons text texts ih =>
      have hnext := ih text
      simp only [List.intercalate, further, List.intersperse_cons_cons, List.flatten_cons,
        List.flatMap_cons, List.cons_append, List.nil_append] at hnext ⊢
      rw [hnext]

theorem further_cons (texts : List (List Char)) (tail : List Char) :
    ∃ c rest, further texts ++ '\x7d' :: tail = c :: rest ∧ EndsMember c := by
  cases texts with
  | nil => exact ⟨'\x7d', tail, rfl, Or.inr rfl⟩
  | cons text texts => exact ⟨',', _, rfl, Or.inl rfl⟩

theorem length_le_further (texts : List (List Char)) : texts.length ≤ (further texts).length := by
  induction texts with
  | nil => exact Nat.le_refl 0
  | cons text texts ih =>
      simp only [further, List.flatMap_cons, List.length_append, List.length_cons] at ih ⊢
      omega

/-- Takes a binding in. -/
def bind (members : List (String × Json)) (binding : String × Json) : List (String × Json) :=
  insertMember binding.1 binding.2 members

section Steps

variable {item : List Char → Reading Json} {done : List (String × Json)} {fuel : Nat}
  {more front : List Char}

theorem objectRest_close {first : Bool} (h : skipSpace cs = '\x7d' :: rest) :
    objectRest item done first (fuel + 1) cs = .ok (done, rest) := by
  simp [objectRest, h]

theorem objectRest_first (h : skipSpace cs = '"' :: front)
    (hmember : member item front = .ok ((name, v), rest)) :
    objectRest item done true (fuel + 1) cs =
      objectRest item (insertMember name v done) false fuel rest := by
  simp [objectRest, h, hmember]

theorem objectRest_fault {fault : Fault} (h : skipSpace cs = '"' :: front)
    (hmember : member item front = .error fault) :
    objectRest item done true (fuel + 1) cs = .error fault := by
  simp [objectRest, h, hmember]

theorem objectRest_next (hcomma : skipSpace cs = ',' :: more) (h : skipSpace more = '"' :: front)
    (hmember : member item front = .ok ((name, v), rest)) :
    objectRest item done false (fuel + 1) cs =
      objectRest item (insertMember name v done) false fuel rest := by
  simp [objectRest, hcomma, h, hmember]

theorem value_brace (h : skipSpace cs = '\x7b' :: more) :
    value maxDepth cs = (objectRest (value (maxDepth - 1)) [] true (more.length + 1) more).map
      fun read => (.object read.1, read.2) := by
  rw [show maxDepth = 127 + 1 from rfl, value, h]
  simp only [if_neg (show ¬ 127 = 0 by decide), Nat.add_sub_cancel]
  cases objectRest (value 127) [] true (more.length + 1) more <;> rfl

end Steps

variable {bindings : List (String × Json)} {texts : List (List Char)}

theorem objectRest_further (h : List.Forall₂ Binds bindings texts) {blanks : List Char}
    (hblanks : IsBlank blanks) {fuel : Nat} (hfuel : texts.length < fuel)
    (done : List (String × Json)) (tail : List Char) :
    objectRest (value (maxDepth - 1)) done false fuel
        (blanks ++ (further texts ++ '\x7d' :: tail)) =
      .ok (bindings.foldl bind done, tail) := by
  induction h generalizing done fuel blanks with
  | nil =>
      obtain ⟨fuel, rfl⟩ := Nat.exists_eq_add_one_of_ne_zero (Nat.ne_zero_of_lt hfuel)
      exact objectRest_close (skipSpace_token hblanks rfl tail)
  | @cons binding text bindings texts hbinds hmore ih =>
      obtain ⟨fuel, rfl⟩ := Nat.exists_eq_add_one_of_ne_zero (Nat.ne_zero_of_lt hfuel)
      obtain ⟨written, htext, hv⟩ := hbinds
      obtain ⟨c, rest, hnext, hc⟩ := further_cons texts tail
      obtain ⟨front, gap, hgap, hskip, hmember⟩ := htext.read hv hc rest
      have hfurther : further (text :: texts) ++ '\x7d' :: tail = ',' :: (text ++ c :: rest) := by
        rw [← hnext]
        simp [further]
      have hfuel' : texts.length < fuel := Nat.lt_of_succ_lt_succ hfuel
      rw [hfurther, objectRest_next (skipSpace_token hblanks rfl _) hskip hmember, ← hnext]
      exact ih hgap hfuel' _

theorem objectRest_members (h : List.Forall₂ Binds bindings texts) (hne : texts ≠ []) {fuel : Nat}
    (hfuel : texts.length < fuel) (tail : List Char) :
    objectRest (value (maxDepth - 1)) [] true fuel ([','].intercalate texts ++ '\x7d' :: tail) =
      .ok (bindings.foldl bind [], tail) := by
  cases h with
  | nil => exact absurd rfl hne
  | @cons binding text bindings texts hbinds hmore =>
      obtain ⟨fuel, rfl⟩ := Nat.exists_eq_add_one_of_ne_zero (Nat.ne_zero_of_lt hfuel)
      obtain ⟨written, htext, hv⟩ := hbinds
      obtain ⟨c, rest, hnext, hc⟩ := further_cons texts tail
      obtain ⟨front, gap, hgap, hskip, hmember⟩ := htext.read hv hc rest
      have hfuel' : texts.length < fuel := Nat.lt_of_succ_lt_succ hfuel
      rw [intercalate_cons, List.append_assoc, hnext, objectRest_first hskip hmember, ← hnext]
      exact objectRest_further hmore hgap hfuel' _ tail

/-- The text of an object is read as the object of the bindings that its members make. -/
theorem parseChars_object {lead tail : List Char} (hlead : IsBlank lead) (htail : IsBlank tail)
    (hne : texts ≠ []) (h : List.Forall₂ Binds bindings texts) :
    parseChars (lead ++ '\x7b' :: ([','].intercalate texts ++ '\x7d' :: tail)) =
      .ok (.object (bindings.foldl bind [])) := by
  have hlength : texts.length < ([','].intercalate texts ++ '\x7d' :: tail).length + 1 := by
    cases texts with
    | nil => exact absurd rfl hne
    | cons text texts =>
        have := length_le_further texts
        rw [intercalate_cons]
        simp only [List.length_append, List.length_cons]
        omega
  have hread := objectRest_members h hne hlength tail
  rw [parseChars, finish_eq_ok]
  refine ⟨tail, ?_, skipSpace_blank htail⟩
  rw [value_brace (skipSpace_token hlead rfl _), hread]
  rfl

/-! ## Names -/

theorem find?_insertMember (name : String) (v : Json) (members : List (String × Json))
    (wanted : String) : (insertMember name v members).find? (·.1 == wanted) =
      if name = wanted then some (name, v) else members.find? (·.1 == wanted) := by
  induction members with
  | nil =>
      by_cases h : name = wanted <;> simp [insertMember, h]
  | cons member members ih =>
      obtain ⟨name', v'⟩ := member
      rw [insertMember]
      split
      · rename_i hsame
        subst hsame
        by_cases h : name = wanted <;> simp [h]
      · rename_i hother
        split
        · by_cases h : name = wanted <;> simp [h]
        · rw [List.find?_cons, ih]
          by_cases h : name = wanted
          · have hne : (name' == wanted) = false := by
              simpa [h] using fun heq : name' = wanted => hother (h.trans heq.symm)
            simp [h, hne]
          · simp [List.find?_cons, h]

/-- Of bindings of one name the last one counts. -/
theorem find?_foldl_bind (bindings : List (String × Json)) (wanted : String) :
    (bindings.foldl bind []).find? (·.1 == wanted) =
      (bindings.filter (·.1 == wanted)).getLast? := by
  induction bindings using List.reverseRecOn with
  | nil => rfl
  | append_singleton bindings binding ih =>
      rw [List.foldl_append, List.filter_append, List.foldl_cons, List.foldl_nil, bind,
        find?_insertMember, ih]
      by_cases h : binding.1 = wanted
      · subst h
        simp
      · simp [h]

/-! ## One member -/

theorem Denotes.unique {v' : Json} (h : Denotes written v) (hother : Denotes written v') :
    v = v' := by
  have hend : EndsValue '\x7d' := Or.inr (Or.inr rfl)
  have hread := h _ [] hend
  rw [hother _ [] hend] at hread
  cases hread
  rfl

theorem eq_of_toString_eq {m n : Int} (hm : Fits m) (hn : Fits n) (h : toString m = toString n) :
    m = n := by
  have heq := (denotes_of_fits hm).unique (h ▸ denotes_of_fits hn)
  cases heq
  rfl

/-- The member that a text has is found in what is read of it. -/
theorem HasMember.read (h : HasMember text name written) (hv : Denotes written v) :
    ∃ object, parseChars text = .ok object ∧ object.get? name = some v := by
  obtain ⟨members, ⟨lead, texts, tail, hlead, htail, hne, htexts, rfl⟩, hlast, hreadable⟩ := h
  have hdenotes : ∀ member ∈ members, ∃ v, Denotes member.2 v := by
    intro member hmember
    rcases hreadable member hmember with heq | hread
    · exact ⟨v, heq ▸ hv⟩
    · exact hread
  choose! meaning hmeaning using hdenotes
  have hbinds : List.Forall₂ Binds (members.map fun member => (member.1, meaning member)) texts :=
    List.forall₂_map_left_iff.mpr
      (((List.forall₂_and_left _ _).mpr ⟨hmeaning, htexts⟩).imp
        fun member _ hm => ⟨member.2, hm.2, hm.1⟩)
  have hmem : (name, written) ∈ members :=
    (List.mem_filter.mp (List.mem_of_getLast? hlast)).1
  refine ⟨_, parseChars_object hlead htail hne hbinds, ?_⟩
  rw [get?, find?_foldl_bind, List.filter_map, List.getLast?_map]
  have hfilter : (fun binding : String × Json => binding.1 == name) ∘
      (fun member : String × List Char => (member.1, meaning member)) = (·.1 == name) := rfl
  rw [hfilter, hlast]
  exact congrArg some ((hmeaning _ hmem).unique hv)

end Json

end HomeConsole
