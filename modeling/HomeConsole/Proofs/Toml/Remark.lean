import HomeConsole.Toml.Document

/-!
# Files of remarks

A line that is empty or a comment says nothing, and leaves what has been read as it was. So a file of
nothing but such lines is read to its end, and binds no key.
-/

namespace HomeConsole.Toml

variable {line rest : List Char} {lines : List (List Char)}

/-- A line that says nothing: it is empty, or a comment. -/
def IsRemark : List Char → Prop
  | [] => True
  | c :: cs => c = '#' ∧ ∀ c ∈ cs, isCommentChar c = true

instance IsRemark.decide : (line : List Char) → Decidable (IsRemark line)
  | [] => isTrue trivial
  | c :: cs =>
    have := List.decidableBAll (isCommentChar · = true) cs
    inferInstanceAs (Decidable (c = '#' ∧ ∀ c ∈ cs, isCommentChar c = true))

/-! ## One line -/

/-- Blanks are skipped up to a line break or a comment. -/
theorem spaces_of_head (h : ∀ c ∈ rest.head?, c = '\n' ∨ c = '#') :
    spaces rest = .ok ((), rest) := by
  have hdrop : rest.dropWhile isSpace = rest := by
    cases rest with
    | nil => rfl
    | cons c cs =>
        refine List.dropWhile_cons_of_neg ?_
        rcases h c rfl with rfl | rfl <;> decide
  show Except.ok ((), rest.dropWhile isSpace) = _
  rw [hdrop]

/-- A comment ends where its line does. -/
theorem comment_append (h : ∀ c ∈ line, isCommentChar c = true)
    (hrest : ∀ c ∈ rest.head?, isCommentChar c = false) :
    Toml.comment ('#' :: (line ++ rest)) = .ok ((), rest) := by
  have hdrop : (line ++ rest).dropWhile isCommentChar = rest := by
    rw [List.dropWhile_append_of_pos h]
    cases rest with
    | nil => rfl
    | cons c cs => exact List.dropWhile_cons_of_neg (by simp [hrest c rfl])
  show Except.ok ((), (line ++ rest).dropWhile isCommentChar) = _
  rw [hdrop]

/-- A remark is taken in with its line break, and nothing changes. -/
theorem element_remark (h : IsRemark line) (draft : Draft) (rest : List Char) :
    element draft (line ++ '\n' :: rest) = .ok (draft, rest) := by
  cases line with
  | nil => rfl
  | cons c cs =>
      obtain ⟨rfl, hcs⟩ := h
      have hend : ∀ c ∈ ('\n' :: rest).head?, isCommentChar c = false := by
        intro c hc
        cases hc
        decide
      have hcomment := comment_append hcs hend
      simp only [List.cons_append, element, Reader.commit, bind, hcomment]
      rfl

/-- A comment at the end of the text needs no line break. -/
theorem element_last {cs : List Char} (h : ∀ c ∈ cs, isCommentChar c = true) (draft : Draft) :
    element draft ('#' :: cs) = .ok (draft, []) := by
  have hend : ∀ c ∈ ([] : List Char).head?, isCommentChar c = false := by simp
  have hcomment := comment_append h hend
  rw [List.append_nil] at hcomment
  simp only [element, Reader.commit, bind, hcomment]
  rfl

/-! ## Files -/

/-- Remarks begin with a line break or a comment, if with anything. -/
theorem head?_remarks (h : ∀ line ∈ lines, IsRemark line) :
    ∀ c ∈ (['\n'].intercalate lines).head?, c = '\n' ∨ c = '#' := by
  have hline : ∀ (line : List Char) (rest : List Char), IsRemark line →
      (∀ c ∈ rest.head?, c = '\n' ∨ c = '#') → ∀ c ∈ (line ++ rest).head?, c = '\n' ∨ c = '#' := by
    intro line rest hremark hrest
    cases line with
    | nil => exact hrest
    | cons c cs => simp [hremark.1]
  cases lines with
  | nil => simp
  | cons line lines =>
      obtain ⟨hfirst, -⟩ := List.forall_mem_cons.mp h
      cases lines with
      | nil =>
          rw [List.intercalate_singleton, ← List.append_nil line]
          exact hline line [] hfirst (by simp)
      | cons next lines =>
          rw [List.intercalate_cons_cons, List.append_assoc]
          exact hline line _ hfirst (by simp)

theorem elements_remarks (h : ∀ line ∈ lines, IsRemark line) {bound : Nat}
    (hbound : (['\n'].intercalate lines).length ≤ bound) (draft : Draft) :
    elements bound draft (['\n'].intercalate lines) = .ok (draft, []) := by
  have hend : ∀ bound, elements bound draft [] = .ok (draft, []) := by
    intro bound
    cases bound <;> rfl
  induction lines generalizing bound with
  | nil => exact hend bound
  | cons line lines ih =>
      obtain ⟨hline, hlines⟩ := List.forall_mem_cons.mp h
      cases lines with
      | nil =>
          rw [List.intercalate_singleton] at hbound ⊢
          cases line with
          | nil => exact hend bound
          | cons c cs =>
              obtain ⟨rfl, hcs⟩ := hline
              cases bound with
              | zero => cases hbound
              | succ bound =>
                  have helement := element_last hcs draft
                  rw [elements]
                  simp only [bind, Reader.optional, helement]
                  exact hend bound
      | cons next lines =>
          rw [List.intercalate_cons_cons, List.append_assoc, List.singleton_append] at hbound ⊢
          rw [List.length_append, List.length_cons] at hbound
          cases bound with
          | zero => cases hbound
          | succ bound =>
              have helement := element_remark hline draft (['\n'].intercalate (next :: lines))
              have hspaces := spaces_of_head (head?_remarks hlines)
              rw [elements]
              simp only [bind, Reader.optional, helement, hspaces, pure]
              exact ih hlines (by omega)

/-- A file of remarks binds no key. -/
theorem parse_remarks (h : ∀ line ∈ lines, IsRemark line) :
    parse (['\n'].intercalate lines) = .ok [] := by
  have hhead := head?_remarks h
  have helements := elements_remarks h (Nat.le_refl _) Draft.empty
  generalize ['\n'].intercalate lines = text at hhead helements
  have hmark : Reader.optional (Reader.char '\uFEFF') text = .ok (none, text) := by
    cases text with
    | nil => rfl
    | cons c cs => rcases hhead c rfl with rfl | rfl <;> rfl
  have hdocument : document text = .ok (Draft.empty, []) := by
    simp only [document, bind, hmark, spaces_of_head hhead, helements]
    rfl
  simp only [parse, hdocument]
  rfl

end HomeConsole.Toml
