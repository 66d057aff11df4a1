import Mathlib.Data.List.Chain
import Specimen.Proofs.Json.Printing
import Specimen.Proofs.Source.Mentions

/-! The examples of a field as they are shown in a comment: in one line, and in TypeScript without the end of a
comment (`noEnd_examplesText`). The slash that would end it is escaped in each example on its own; what is between
two examples neither begins nor completes an end. -/
namespace Specimen.Source

theorem printed_intercalate {texts : List String} (h : ∀ text ∈ texts, ∀ c ∈ text.toList, IsPrinted c) :
    ∀ c ∈ (String.intercalate ", " texts).toList, IsPrinted c := by
  intro c hc
  rw [String.toList_intercalate] at hc
  rcases mem_intercalate hc with hc | ⟨cs, hcs, hc⟩
  · exact printed_of_all (by decide) c hc
  · obtain ⟨text, htext, rfl⟩ := List.mem_map.mp hcs
    exact h text htext c hc

/-- A text without control characters is in one line. -/
theorem newline_not_mem_of_printed {cs : List Char} (h : ∀ c ∈ cs, IsPrinted c) :
    '\n' ∉ cs ∧ '\r' ∉ cs :=
  ⟨fun hc => absurd (h _ hc) (by decide), fun hc => absurd (h _ hc) (by decide)⟩

/-- Examples in the comment of a line. -/
theorem printed_compact_examples (examples : List Json) :
    ∀ c ∈ (String.intercalate ", " (examples.map Json.compact)).toList, IsPrinted c :=
  printed_intercalate (List.forall_mem_map.mpr fun x _ => Json.printed_compact x)

namespace TypeScript

/-! ### The end of a comment -/

/-- Nowhere is a star followed by a slash. -/
def NoEnd (cs : List Char) : Prop := cs.IsChain fun a b => ¬ (a = '*' ∧ b = '/')

theorem NoEnd.not_inside {cs : List Char} (h : NoEnd cs) : ¬ "*/".toList <:+: cs := fun hinfix => by
  have hend : NoEnd ['*', '/'] := List.IsChain.infix h hinfix
  simp [NoEnd] at hend

/-- Two texts make up an end between them only if the one ends in a star and the other begins with a slash. -/
theorem NoEnd.append {cs ds : List Char} (hcs : NoEnd cs) (hds : NoEnd ds)
    (h : cs.getLast? ≠ some '*' ∨ ds.head? ≠ some '/') : NoEnd (cs ++ ds) := by
  refine List.isChain_append.mpr ⟨hcs, hds, ?_⟩
  rintro a ha b hb ⟨rfl, rfl⟩
  exact h.elim (fun h => h ha) fun h => h hb

/-! ### Escaping -/

theorem head?_guardCommentEnd (cs : List Char) : (guardCommentEnd cs).head? = cs.head? := by
  unfold guardCommentEnd
  split <;> rfl

theorem noEnd_guardCommentEnd (cs : List Char) : NoEnd (guardCommentEnd cs) := by
  fun_induction guardCommentEnd cs with
  | case1 rest ih =>
    have hescape : NoEnd ['*', '\\'] := by simp [NoEnd]
    have hslash : NoEnd ('/' :: guardCommentEnd rest) := List.isChain_cons.mpr ⟨by simp, ih⟩
    exact hescape.append hslash (.inl (by decide))
  | case2 c rest hend ih =>
    refine List.isChain_cons.mpr ⟨fun d hd => ?_, ih⟩
    rintro ⟨rfl, rfl⟩
    rw [head?_guardCommentEnd] at hd
    obtain ⟨rest, rfl⟩ := List.head?_eq_some_iff.mp hd
    exact hend rest rfl rfl
  | case3 => exact .nil

theorem mem_of_mem_guardCommentEnd {cs : List Char} {c : Char} (h : c ∈ guardCommentEnd cs) :
    c = '\\' ∨ c ∈ cs := by
  fun_induction guardCommentEnd cs with
  | case1 rest ih => grind
  | case2 d rest hend ih => grind
  | case3 => cases h

theorem printed_exampleText (x : Json) : ∀ c ∈ (exampleText x).toList, IsPrinted c := by
  intro c hc
  rw [exampleText, String.toList_ofList] at hc
  rcases mem_of_mem_guardCommentEnd hc with rfl | hc
  · decide
  · exact Json.printed_compactChars x c hc

/-! ### Several examples -/

theorem noEnd_intercalate {texts : List (List Char)} (h : ∀ text ∈ texts, NoEnd text) :
    NoEnd (List.intercalate ", ".toList texts) := by
  have hseparator : NoEnd ", ".toList := by simp [NoEnd]
  induction texts with
  | nil => exact .nil
  | cons text texts ih =>
    obtain ⟨htext, htexts⟩ := List.forall_mem_cons.mp h
    cases texts with
    | nil => simpa [List.intercalate] using htext
    | cons next texts =>
      have hjoined : List.intercalate ", ".toList (text :: next :: texts) =
          text ++ (", ".toList ++ List.intercalate ", ".toList (next :: texts)) := by
        simp [List.intercalate]
      rw [hjoined]
      exact htext.append (hseparator.append (ih htexts) (.inl (by decide))) (.inr nofun)

/-- The examples of a field hold no end of a comment, neither in one of them nor across two. -/
theorem noEnd_examplesText (s : Settings) (f : FieldInfo) : NoEnd (examplesText s f).toList := by
  rw [examplesText, String.toList_intercalate]
  refine noEnd_intercalate ?_
  simp only [List.forall_mem_map, exampleText, String.toList_ofList]
  exact fun x _ => noEnd_guardCommentEnd x.compactChars

theorem printed_examplesText (s : Settings) (f : FieldInfo) :
    ∀ c ∈ (examplesText s f).toList, IsPrinted c :=
  printed_intercalate (List.forall_mem_map.mpr fun x _ => printed_exampleText x)

end TypeScript

end Specimen.Source
