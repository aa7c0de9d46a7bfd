import HomeConsole.Proofs.Text.MultiByte
import HomeConsole.Proofs.Text.Utf8
import HomeConsole.Text.Charset
import Mathlib.Data.List.Forall2

/-!
# Bodies read back

For every encoding, which bytes are a text in it. A body that is a text in the encoding that its
mark, its label or the default asks for is read as that text. Every other body is damaged: what is
left of a text in it is read, and U+FFFD stands for the damage.
-/

namespace HomeConsole.Utf8

open Charset (Takes Reader)

/-! ## UTF-8 -/

/-- What UTF-8 writes in one piece. -/
inductive Writes : List Char → List UInt8 → Prop where
  | char (c : Char) : Writes [c] (String.utf8EncodeChar c)

theorem takes_follow (acc k low high : Nat) (bytes : List UInt8) :
    Takes k bytes (follow acc k low high bytes).2 := by
  induction k generalizing acc low high bytes with
  | zero => exact .refl 0 bytes
  | succ k ih =>
      cases bytes with
      | nil => exact .refl _ []
      | cons b rest =>
          rw [follow]
          split
          · exact (ih ..).cons b
          · exact .refl _ _

theorem takes_step (b : UInt8) (rest : List UInt8) : Takes 3 rest (step b rest).2 := by
  cases hlead : lead? b with
  | none =>
      rw [step, hlead]
      exact .refl 3 rest
  | some lead =>
      obtain ⟨bits, k, low, high⟩ := lead
      have hle : k ≤ 3 := by
        rcases lead?_cases hlead with ⟨rfl, -⟩ | ⟨rfl, -⟩ | ⟨rfl, -⟩ | ⟨rfl, -⟩ <;> decide
      rw [step_of_lead hlead]
      exact (takes_follow ..).mono hle

/-- UTF-8 read piece by piece. -/
def reader : Reader where
  piece b rest := ((step b rest).1.map ([·]), (step b rest).2)
  takes := takes_step

end HomeConsole.Utf8

namespace HomeConsole.Charset

/-! ## Encodings -/

/-- Whether bytes are a text in an encoding, or, where they may be damaged, are read as one. -/
def Encoding.Writes (lossy : Bool) : Encoding → List Char → List UInt8 → Prop
  | utf8, cs, bytes => Spelled Utf8.Writes lossy cs bytes
  | utf16 bigEndian, cs, bytes => Spelled (Utf16.Writes bigEndian) lossy cs bytes
  | singleByte table, cs, bytes =>
    List.Forall₂ (fun c b => table.char b = c ∧ (c = '\uFFFD' → lossy = true)) cs bytes
  | paired code, cs, bytes => Spelled code.Writes lossy cs bytes
  | eucJp, cs, bytes => Spelled EucJp.Writes lossy cs bytes
  | gb18030, cs, bytes => Spelled Gb18030.Writes lossy cs bytes
  | iso2022Jp, cs, bytes => Iso2022.Writes lossy .ascii false cs bytes
  | refused, cs, bytes => cs = [] ∧ bytes = [] ∨ lossy = true ∧ cs = ['\uFFFD'] ∧ bytes ≠ []

namespace Encoding

variable {encoding : Encoding} {lossy : Bool} {cs : List Char} {bytes : List UInt8}

/-- Bytes were not damaged if nothing stands for damage. -/
theorem Writes.undamaged (h : encoding.Writes lossy cs bytes) (hr : '\uFFFD' ∉ cs) :
    encoding.Writes false cs bytes := by
  cases encoding with
  | utf8 | utf16 | paired | eucJp | gb18030 => exact Spelled.undamaged h hr
  | singleByte table =>
      rw [Writes] at h ⊢
      induction h with
      | nil => exact .nil
      | cons hc _ ih =>
          rw [List.mem_cons, not_or] at hr
          exact .cons ⟨hc.1, fun heq => absurd heq.symm hr.1⟩ (ih hr.2)
  | iso2022Jp => exact Iso2022.Writes.undamaged h hr
  | refused =>
      rcases h with hnone | ⟨-, rfl, -⟩
      · exact .inl hnone
      · exact absurd List.mem_cons_self hr

end Encoding

/-! ## Labels -/

/-- Characters that no content type is cut at. -/
def IsPlain (c : Char) : Prop := c ≠ ';' ∧ c ≠ '"'

/-- The marks of the order of bytes. -/
inductive Marks : Encoding → List UInt8 → Prop where
  | utf8 : Marks .utf8 [0xEF, 0xBB, 0xBF]
  | little : Marks (.utf16 false) [0xFF, 0xFE]
  | big : Marks (.utf16 true) [0xFE, 0xFF]

/-- Bytes that are a text: behind a mark in the encoding of the mark, and without one in the
encoding that the content type asks for. Some of them may be damaged if that is said. -/
inductive Carries (lossy : Bool) (contentType : Option String) : String → List UInt8 → Prop where
  | marked {encoding : Encoding} {mark rest : List UInt8} {text : String} :
      Marks encoding mark → encoding.Writes lossy text.toList rest →
        Carries lossy contentType text (mark ++ rest)
  | unmarked {bytes : List UInt8} {text : String} :
      (∀ encoding mark rest, Marks encoding mark → bytes ≠ mark ++ rest) →
        (chosen contentType).Writes lossy text.toList bytes →
          Carries lossy contentType text bytes

variable {contentType : Option String} {text : String} {bytes : List UInt8}

/-- A body was not damaged if nothing stands for damage. -/
theorem Carries.undamaged {lossy : Bool} (h : Carries lossy contentType text bytes)
    (hr : '\uFFFD' ∉ text.toList) : Carries false contentType text bytes := by
  cases h with
  | marked hm hw => exact .marked hm (hw.undamaged hr)
  | unmarked hm hw => exact .unmarked hm (hw.undamaged hr)

end HomeConsole.Charset
