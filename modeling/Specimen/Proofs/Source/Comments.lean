import Specimen.Proofs.Source.Examples
import Specimen.Proofs.Source.Identifiers

/-! Comments in generated source.

The definition of a class is that of the class without examples, with comments put between the lines
(`Annotates`). A comment in TypeScript is closed by the last mark in it and by no earlier one, and a comment in
Rust is a single line. So whatever the examples are, none of them becomes code (`examples_stay_in_comments`). -/
namespace Specimen

def FieldInfo.withoutExamples (f : FieldInfo) : FieldInfo := { f with examples := [] }

def ClassDef.withoutExamples (c : ClassDef) : ClassDef :=
  { c with fields := c.fields.map FieldInfo.withoutExamples }

namespace Source

/-! ### Lines with comments between them -/

/-- The second lines are the first with comments between them. -/
inductive Annotates (IsComment : List String → Prop) : List String → List String → Prop where
  | nil : Annotates IsComment [] []
  | line (line : String) {plain lines : List String} (h : Annotates IsComment plain lines) :
    Annotates IsComment (line :: plain) (line :: lines)
  | comment {block plain lines : List String} (hblock : IsComment block)
    (h : Annotates IsComment plain lines) : Annotates IsComment plain (block ++ lines)

namespace Annotates
variable {IsComment IsComment' : List String → Prop} {plain plain' lines lines' : List String}

theorem refl (lines : List String) : Annotates IsComment lines lines := by
  induction lines with
  | nil => exact .nil
  | cons line lines ih => exact .line line ih

theorem append (h : Annotates IsComment plain lines) (h' : Annotates IsComment plain' lines') :
    Annotates IsComment (plain ++ plain') (lines ++ lines') := by
  induction h with
  | nil => exact h'
  | line line _ ih => exact .line line ih
  | comment hblock _ ih =>
    rw [List.append_assoc]
    exact .comment hblock ih

theorem flatMap {α : Type} {f g : α → List String} {l : List α}
    (h : ∀ a ∈ l, Annotates IsComment (f a) (g a)) :
    Annotates IsComment (l.flatMap f) (l.flatMap g) := by
  induction l with
  | nil => exact .nil
  | cons a l ih =>
    obtain ⟨ha, hl⟩ := List.forall_mem_cons.mp h
    exact ha.append (ih hl)

theorem mono (h : Annotates IsComment plain lines) (hcomment : ∀ block, IsComment block → IsComment' block) :
    Annotates IsComment' plain lines := by
  induction h with
  | nil => exact .nil
  | line line _ ih => exact .line line ih
  | comment hblock _ ih => exact .comment (hcomment _ hblock) ih

theorem indented (h : Annotates IsComment plain lines)
    (hcomment : ∀ block, IsComment block → IsComment' (indent block)) :
    Annotates IsComment' (indent plain) (indent lines) := by
  induction h with
  | nil => exact .nil
  | line line _ ih => exact .line _ ih
  | @comment block _ lines hblock _ ih =>
    have hsplit : indent (block ++ lines) = indent block ++ indent lines := List.map_append
    rw [hsplit]
    exact .comment (hcomment _ hblock) ih

/-- Lines in a namespace are indented, and so are the comments. -/
theorem inNamespace (s : Settings) (root : Bool) (h : Annotates IsComment plain lines)
    (hcomment : ∀ block, IsComment block → IsComment' block ∧ IsComment' (indent block)) :
    Annotates IsComment' (inNamespace s root plain) (inNamespace s root lines) := by
  unfold Source.inNamespace
  split
  · exact h.indented fun block hblock => (hcomment block hblock).2
  · exact h.mono fun block hblock => (hcomment block hblock).1

end Annotates

theorem toList_unlines_cons (line : String) (lines : List String) :
    (unlines (line :: lines)).toList = line.toList ++ '\n' :: (unlines lines).toList := by
  simp [unlines, String.toList_append]

/-! ### TypeScript -/

namespace TypeScript

/-- After some blanks comes a comment. The mark at the end of the last line is the first that ends it. -/
def IsBlockComment (block : List String) : Prop :=
  ∃ blanks body, (unlines block).toList = blanks ++ '/' :: '*' :: (body ++ ['*', '/', '\n']) ∧
    (∀ c ∈ blanks, c.isWhitespace = true) ∧ NoEnd (body ++ ['*'])

/-- The lines that show the examples of a field. -/
def exampleLines (margin : String) (s : Settings) (f : FieldInfo) : List String :=
  ["", margin ++ "    /**", margin ++ "     * Examples: " ++ examplesText s f, margin ++ "     */"]

theorem isBlockComment_exampleLines {margin : String} (h : margin = "" ∨ margin = indentation)
    (s : Settings) (f : FieldInfo) : IsBlockComment (exampleLines margin s f) := by
  have hfirst : NoEnd ("*\n" ++ margin ++ "     * Examples: ").toList ∧
      ("*\n" ++ margin ++ "     * Examples: ").toList.getLast? ≠ some '*' := by
    rcases h with rfl | rfl <;> exact ⟨by simp [NoEnd, indentation], by decide⟩
  have hlast : NoEnd ("\n" ++ margin ++ "     *").toList ∧
      ("\n" ++ margin ++ "     *").toList.head? ≠ some '/' := by
    rcases h with rfl | rfl <;> exact ⟨by simp [NoEnd, indentation], by decide⟩
  have hblanks : ∀ c ∈ ("\n" ++ margin ++ "    ").toList, c.isWhitespace = true := by
    rcases h with rfl | rfl <;> exact List.all_eq_true.mp (by decide)
  refine ⟨("\n" ++ margin ++ "    ").toList, ("*\n" ++ margin ++ "     * Examples: ").toList ++
    ((examplesText s f).toList ++ ("\n" ++ margin ++ "     ").toList), ?_, hblanks, ?_⟩
  · have hnone : (unlines []).toList = [] := rfl
    simp only [exampleLines, toList_unlines_cons, hnone, String.toList_append]
    simp
  · have htext := (noEnd_examplesText s f).append hlast.1 (.inr hlast.2)
    have hbody := hfirst.1.append htext (.inl hfirst.2)
    simpa [String.toList_append] using hbody

theorem indent_exampleLines (s : Settings) (f : FieldInfo) :
    indent (exampleLines "" s f) = exampleLines indentation s f := by
  simp [exampleLines, indent, String.append_assoc]

section Class
variable (m : TypeModel) (s : Settings)

/-- A comment and a declaration. -/
theorem annotates_fieldLines (scope : Option String) (f : FieldInfo) :
    Annotates (fun block => ∃ f, block = exampleLines "" s f)
      (fieldLines m s scope f.withoutExamples) (fieldLines m s scope f) := by
  have hnone : showsExamples s f.withoutExamples = false := Bool.and_false _
  rw [fieldLines, fieldLines, hnone, if_neg Bool.false_ne_true]
  refine Annotates.append ?_ (.refl _)
  have hcomment : Annotates (fun block => ∃ f, block = exampleLines "" s f) [] (exampleLines "" s f ++ []) :=
    .comment ⟨f, rfl⟩ .nil
  split
  · exact hcomment
  · exact .nil

theorem annotates_classLines (c : ClassDef) :
    Annotates (fun block => ∃ f, block = exampleLines "" s f)
      (classLines m s c.withoutExamples) (classLines m s c) := by
  have hscope : scopeOf s c.withoutExamples = scopeOf s c := rfl
  have hfields : Annotates (fun block => ∃ f, block = exampleLines "" s f)
      (c.withoutExamples.fields.flatMap (fieldLines m s (scopeOf s c)))
      (c.fields.flatMap (fieldLines m s (scopeOf s c))) := by
    rw [ClassDef.withoutExamples, List.flatMap_map]
    exact .flatMap fun f _ => annotates_fieldLines m s _ f
  have hloads : c.withoutExamples.fields.map (constructorLine m (scopeOf s c)) =
      c.fields.map (constructorLine m (scopeOf s c)) := by
    rw [ClassDef.withoutExamples, List.map_map]
    rfl
  have hstores : c.withoutExamples.fields.map serviceLine = c.fields.map serviceLine := by
    rw [ClassDef.withoutExamples, List.map_map]
    rfl
  simp only [classLines, hscope, hloads, hstores, List.append_assoc]
  exact .append (.refl _) (hfields.append (.refl _))

theorem annotates_typeLines (c : ClassDef) :
    Annotates IsBlockComment (writer.typeLines m s c.withoutExamples) (writer.typeLines m s c) := by
  refine (annotates_classLines m s c).inNamespace s c.isRoot ?_
  rintro block ⟨f, rfl⟩
  rw [indent_exampleLines]
  exact ⟨isBlockComment_exampleLines (.inl rfl) s f, isBlockComment_exampleLines (.inr rfl) s f⟩

end Class

end TypeScript

/-! ### Rust -/

namespace Rust

/-- After some blanks comes a comment to the end of the line. -/
def IsLineComment (block : List String) : Prop :=
  ∃ blanks body, (unlines block).toList = blanks ++ '/' :: '/' :: (body ++ ['\n']) ∧
    (∀ c ∈ blanks, c.isWhitespace = true) ∧ '\n' ∉ body ∧ '\r' ∉ body

/-- The line that shows the examples of a field. -/
def exampleLine (margin : String) (s : Settings) (f : FieldInfo) : String :=
  margin ++ "    /// Examples: " ++ String.intercalate ", " ((shownExamples s f).map Json.compact)

theorem isLineComment_exampleLine {margin : String} (h : margin = "" ∨ margin = indentation)
    (s : Settings) (f : FieldInfo) : IsLineComment [exampleLine margin s f] := by
  have hbody : ∀ c ∈ "/ Examples: ".toList ++
      (String.intercalate ", " ((shownExamples s f).map Json.compact)).toList, IsPrinted c :=
    List.forall_mem_append.mpr ⟨printed_of_all (by decide), printed_compact_examples _⟩
  have hblanks : ∀ c ∈ (margin ++ "    ").toList, c.isWhitespace = true := by
    rcases h with rfl | rfl <;> exact List.all_eq_true.mp (by decide)
  refine ⟨_, _, ?_, hblanks, newline_not_mem_of_printed hbody⟩
  have hnone : (unlines []).toList = [] := rfl
  simp only [exampleLine, toList_unlines_cons, hnone, String.toList_append]
  simp

theorem indent_exampleLine (s : Settings) (f : FieldInfo) :
    indent [exampleLine "" s f] = [exampleLine indentation s f] := by
  simp [exampleLine, indent, String.append_assoc]

section Class
variable (m : TypeModel) (s : Settings) (c : ClassDef)

theorem annotates_fieldLines (f : FieldInfo) (ident : Ident) :
    Annotates (fun block => ∃ f, block = [exampleLine "" s f])
      (fieldLines m s c.withoutExamples f.withoutExamples ident) (fieldLines m s c f ident) := by
  have hnone : showsExamples s f.withoutExamples = false := Bool.and_false _
  rw [fieldLines, fieldLines, hnone, if_neg Bool.false_ne_true]
  simp only [List.append_assoc]
  refine Annotates.append ?_ (.refl _)
  have hcomment : Annotates (fun block => ∃ f, block = [exampleLine "" s f]) [] ([exampleLine "" s f] ++ []) :=
    .comment ⟨f, rfl⟩ .nil
  split
  · exact hcomment
  · exact .nil

theorem zip_withoutExamples : c.withoutExamples.fields.zip (fieldIdents c.withoutExamples) =
    (c.fields.zip (fieldIdents c)).map (Prod.map FieldInfo.withoutExamples id) := by
  have hidents : fieldIdents c.withoutExamples = fieldIdents c := by
    rw [fieldIdents, ClassDef.withoutExamples, List.map_map]
    rfl
  rw [hidents, ← List.zip_map_left]
  rfl

theorem annotates_structLines :
    Annotates (fun block => ∃ f, block = [exampleLine "" s f])
      (structLines m s c.withoutExamples) (structLines m s c) := by
  have hfields : Annotates (fun block => ∃ f, block = [exampleLine "" s f])
      ((c.withoutExamples.fields.zip (fieldIdents c.withoutExamples)).flatMap
        fun p => fieldLines m s c.withoutExamples p.1 p.2)
      ((c.fields.zip (fieldIdents c)).flatMap fun p => fieldLines m s c p.1 p.2) := by
    rw [zip_withoutExamples, List.flatMap_map]
    exact .flatMap fun p _ => annotates_fieldLines m s c p.1 p.2
  have haccessors : accessorBlock m s c.withoutExamples = accessorBlock m s c := by
    rw [accessorBlock, zip_withoutExamples, List.map_map]
    rfl
  rw [structLines, structLines, haccessors]
  simp only [List.append_assoc]
  exact .append (.refl _) (hfields.append (.refl _))

theorem annotates_typeLines :
    Annotates IsLineComment (writer.typeLines m s c.withoutExamples) (writer.typeLines m s c) := by
  refine (annotates_structLines m s c).inNamespace s c.isRoot ?_
  rintro block ⟨f, rfl⟩
  rw [indent_exampleLine]
  exact ⟨isLineComment_exampleLine (.inl rfl) s f, isLineComment_exampleLine (.inr rfl) s f⟩

end Class

end Rust

/-- In the definition of a class, whatever the examples of its fields, their number and the settings, the examples
are in comments that they do not end: in TypeScript their text holds no end of a comment and no line break, in Rust
no line break, and but for the comments the definition is that of the class without examples. -/
theorem examples_stay_in_comments (m : TypeModel) (s : Settings) (c : ClassDef) :
    (∀ f, ¬ "*/".toList <:+: (TypeScript.examplesText s f).toList ∧
      '\n' ∉ (TypeScript.examplesText s f).toList ∧ '\r' ∉ (TypeScript.examplesText s f).toList) ∧
    Annotates TypeScript.IsBlockComment (TypeScript.writer.typeLines m s c.withoutExamples)
      (TypeScript.writer.typeLines m s c) ∧
    (∀ f, '\n' ∉ (String.intercalate ", " ((shownExamples s f).map Json.compact)).toList ∧
      '\r' ∉ (String.intercalate ", " ((shownExamples s f).map Json.compact)).toList) ∧
    Annotates Rust.IsLineComment (Rust.writer.typeLines m s c.withoutExamples)
      (Rust.writer.typeLines m s c) := by
  refine ⟨fun f => ⟨?_, ?_⟩, TypeScript.annotates_typeLines m s c, fun f => ?_,
    Rust.annotates_typeLines m s c⟩
  · exact (TypeScript.noEnd_examplesText s f).not_inside
  · exact newline_not_mem_of_printed (TypeScript.printed_examplesText s f)
  · exact newline_not_mem_of_printed (printed_compact_examples _)

end Source

end Specimen
