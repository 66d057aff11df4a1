import Mathlib.Data.Bool.AllAny
import Specimen.Json.Printer
import Specimen.Proofs.Text.Names

/-! The compact text of a value holds no control character (`printed_compact`), so that it is a single line. -/
namespace Specimen
open Text

/-- The character is not below the space. -/
def IsPrinted (c : Char) : Prop := 0x20 ≤ c.toNat

instance (c : Char) : Decidable (IsPrinted c) := inferInstanceAs (Decidable (0x20 ≤ c.toNat))

theorem printed_of_all {cs : List Char} (h : (cs.all fun c => decide (IsPrinted c)) = true) :
    ∀ c ∈ cs, IsPrinted c :=
  List.all_iff_forall_prop.mp h

theorem printed_ite {p : Prop} [Decidable p] {cs ds : List Char} (hcs : p → ∀ c ∈ cs, IsPrinted c)
    (hds : ¬ p → ∀ c ∈ ds, IsPrinted c) : ∀ c ∈ if p then cs else ds, IsPrinted c := by
  by_cases h : p
  · rw [if_pos h]
    exact hcs h
  · rw [if_neg h]
    exact hds h

theorem printed_digits (n : Nat) : ∀ c ∈ digitsOf n, IsPrinted c := fun _ hc =>
  Nat.le_trans (by decide) (isAsciiDigit_iff.mp (isAsciiDigit_of_mem_digitsOf hc)).1

theorem printed_signedDecimal (n : Int) : ∀ c ∈ (signedDecimal n).toList, IsPrinted c := by
  cases n with
  | ofNat n =>
    rw [signedDecimal, decimal, String.toList_ofList]
    exact printed_digits n
  | negSucc n =>
    rw [signedDecimal, String.toList_ofList]
    exact List.forall_mem_cons.mpr ⟨by decide, printed_digits (n + 1)⟩

namespace Decimal

theorem printed_replicate_zero (n : Nat) : ∀ c ∈ List.replicate n '0', IsPrinted c := fun c hc => by
  rw [List.eq_of_mem_replicate hc]
  decide

theorem printed_plainText (d : Digits) : ∀ c ∈ plainText d, IsPrinted c := by
  have hdigits : ∀ c ∈ d.digits, IsPrinted c := printed_digits _
  unfold plainText
  split
  · simp only [List.forall_mem_append]
    exact ⟨⟨hdigits, printed_replicate_zero _⟩, printed_of_all (by decide)⟩
  · dsimp only
    split
    · simp only [List.forall_mem_append, List.forall_mem_cons]
      exact ⟨fun c hc => hdigits c (List.mem_of_mem_take hc), by decide,
        fun c hc => hdigits c (List.mem_of_mem_drop hc)⟩
    · simp only [List.cons_append, List.forall_mem_append, List.forall_mem_cons]
      exact ⟨by decide, by decide, printed_replicate_zero _, hdigits⟩

theorem printed_scientificText (plusSign : Bool) (d : Digits) :
    ∀ c ∈ scientificText plusSign d, IsPrinted c := by
  have hdigits : ∀ c ∈ d.digits, IsPrinted c := printed_digits _
  unfold scientificText
  generalize d.digits = digits at hdigits
  simp only [List.forall_mem_append, List.forall_mem_cons]
  refine ⟨⟨?_, by decide, ?_⟩, printed_signedDecimal _⟩
  · split
    · exact hdigits
    · simp only [List.forall_mem_cons] at hdigits ⊢
      exact ⟨hdigits.1, by decide, hdigits.2⟩
    · exact hdigits
  · split <;> exact printed_of_all (by decide)

theorem printed_text (layout : Layout) (x : Binary64) : ∀ c ∈ (layout.text x).toList, IsPrinted c := by
  have hmagnitude : ∀ c ∈ (if x.isZero then ['0', '.', '0'] else
      if layout.leastPlain ≤ (shortest layout.tie x).leading &&
        (shortest layout.tie x).leading ≤ layout.mostPlain then plainText (shortest layout.tie x)
      else scientificText layout.plusSign (shortest layout.tie x)), IsPrinted c := by
    split
    · exact printed_of_all (by decide)
    · split
      · exact printed_plainText _
      · exact printed_scientificText _ _
  rw [Layout.text, String.toList_ofList]
  dsimp only
  split
  · exact List.forall_mem_cons.mpr ⟨by decide, hmagnitude⟩
  · exact hmagnitude

end Decimal

namespace Json

theorem printed_escapedChar (c : Char) : ∀ d ∈ escapedChar c, IsPrinted d := by
  have hdigit : ∀ n < 16, IsPrinted (Nat.digitChar n) := by decide
  unfold escapedChar
  iterate 7 refine printed_ite (fun _ => printed_of_all (by decide)) fun _ => ?_
  refine printed_ite (fun hcontrol => ?_) fun hcontrol => ?_
  · simp only [controlDigits, List.cons_append, List.nil_append, List.forall_mem_cons]
    exact ⟨by decide, by decide, by decide, by decide, hdigit _ (by omega), hdigit _ (by omega), nofun⟩
  · exact List.forall_mem_singleton.mpr (Nat.le_of_not_lt hcontrol)

theorem printed_stringChars (s : String) : ∀ c ∈ stringChars s, IsPrinted c := by
  simp only [stringChars, List.cons_append, List.forall_mem_cons, List.forall_mem_append,
    List.forall_mem_flatMap]
  exact ⟨by decide, fun c _ => printed_escapedChar c, by decide, nofun⟩

mutual

theorem printed_compactChars : ∀ x : Json, ∀ c ∈ compactChars x, IsPrinted c
  | .null => printed_of_all (by decide +kernel)
  | .bool true => printed_of_all (by decide +kernel)
  | .bool false => printed_of_all (by decide +kernel)
  | .number (.int n) => printed_signedDecimal n
  | .number (.float x) => Decimal.printed_text _ x
  | .string s => printed_stringChars s
  | .array [] => printed_of_all (by decide)
  | .array (x :: xs) => by
    simp only [compactChars, List.cons_append, List.forall_mem_cons, List.forall_mem_append]
    exact ⟨by decide, printed_compactChars x, printed_compactItems xs⟩
  | .object [] => printed_of_all (by decide)
  | .object ((k, v) :: ms) => by
    simp only [compactChars, List.cons_append, List.append_assoc, List.forall_mem_cons,
      List.forall_mem_append]
    exact ⟨by decide, printed_stringChars k, by decide, printed_compactChars v,
      printed_compactMembers ms⟩
termination_by structural x => x

theorem printed_compactItems : ∀ xs : List Json, ∀ c ∈ compactItems xs, IsPrinted c
  | [] => printed_of_all (by decide)
  | x :: xs => by
    simp only [compactItems, List.cons_append, List.forall_mem_cons, List.forall_mem_append]
    exact ⟨by decide, printed_compactChars x, printed_compactItems xs⟩
termination_by structural xs => xs

theorem printed_compactMembers : ∀ ms : List (String × Json), ∀ c ∈ compactMembers ms, IsPrinted c
  | [] => printed_of_all (by decide)
  | (k, v) :: ms => by
    simp only [compactMembers, List.cons_append, List.append_assoc, List.forall_mem_cons,
      List.forall_mem_append]
    exact ⟨by decide, printed_stringChars k, by decide, printed_compactChars v,
      printed_compactMembers ms⟩
termination_by structural ms => ms

end

theorem printed_compact (x : Json) : ∀ c ∈ (compact x).toList, IsPrinted c := by
  rw [compact, String.toList_ofList]
  exact printed_compactChars x

end Json

end Specimen
