import Specimen.Proofs.Json.Numerals
import Specimen.Proofs.Json.Separators

/-! A document is read only if the whole of it is one value (`exists_isText_of_read`). -/
namespace Specimen.Json

/-- What is read is a value of the grammar. -/
def ReadsValues (readItem : Bytes → Scan Json) : Prop :=
  ∀ {input rest : Bytes} {value : Json}, readItem input = .ok (value, rest) →
    ∃ start tree, Blanks input start ∧ Value start tree rest

theorem items_of_readItems {readItem : Bytes → Scan Json} (hread : ReadsValues readItem) {fuel : Nat} {first : Bool}
    {input rest : Bytes} {values : List Json} (h : readItems readItem fuel first input = .ok (values, rest)) :
    ∃ items, Items first input items rest := by
  induction fuel generalizing first input values with
  | zero => cases h
  | succ fuel ih =>
    simp only [readItems, bind_eq_ok_iff] at h
    obtain ⟨⟨more, start⟩, hnext, h⟩ := h
    cases more with
    | false =>
      obtain ⟨-, rfl⟩ := Prod.mk.inj (Except.ok.inj h)
      exact ⟨[], .close (nextItem_eq_end_iff.mp hnext)⟩
    | true =>
      simp only [if_true, bind_eq_ok_iff] at h
      obtain ⟨⟨value, after⟩, hvalue, ⟨values, rest'⟩, hvalues, h⟩ := h
      obtain ⟨-, rfl⟩ := Prod.mk.inj (Except.ok.inj h)
      obtain ⟨item, tree, hblanks, htree⟩ := hread hvalue
      obtain ⟨items, hitems⟩ := ih hvalues
      exact ⟨tree :: items, .item ((lead_of_nextItem hnext).trans hblanks) htree hitems⟩

theorem members_of_readMembers {readItem : Bytes → Scan Json} (hread : ReadsValues readItem) {fuel : Nat}
    {first : Bool} {input rest : Bytes} {before values : List (String × Json)}
    (h : readMembers readItem fuel first before input = .ok (values, rest)) :
    ∃ members, Members first input members rest := by
  induction fuel generalizing first input before with
  | zero => cases h
  | succ fuel ih =>
    simp only [readMembers, bind_eq_ok_iff] at h
    obtain ⟨⟨key?, spelled⟩, hnext, h⟩ := h
    cases key? with
    | none =>
      obtain ⟨-, rfl⟩ := Prod.mk.inj (Except.ok.inj h)
      exact ⟨[], .close (nextKey_eq_end_iff.mp hnext)⟩
    | some key =>
      simp only [bind_eq_ok_iff] at h
      obtain ⟨after, hcolon, ⟨value, after'⟩, hvalue, h⟩ := h
      obtain ⟨start, hlead, hkey⟩ := nextKey_eq_key_iff.mp hnext
      obtain ⟨item, tree, hblanks, htree⟩ := hread hvalue
      obtain ⟨members, hmembers⟩ := ih h
      exact ⟨(key, tree) :: members,
        .member hlead hkey (colon_eq_ok_iff.mp hcolon) hblanks htree hmembers⟩

theorem value_of_scanNumber {negative : Bool} {input rest : Bytes} {x : Number}
    (h : scanNumber negative input = .ok (x, rest)) :
    ∃ tree, Value ((if negative then ascii "-" else []) ++ input) tree rest := by
  obtain ⟨whole, fraction, exponent, rfl, hwhole, hfraction, hexponent, -⟩ := scanNumber_sound h
  have hminus : (if negative then ascii "-" else []) = [] ∨ (if negative then ascii "-" else []) = ascii "-" := by
    cases negative <;> simp
  have hnumeral : IsNumeral ((if negative then ascii "-" else []) ++ (whole ++ (fraction ++ exponent))) :=
    ⟨_, whole, fraction, exponent, rfl, hminus, hwhole, hfraction, hexponent⟩
  exact ⟨_, by simpa only [List.append_assoc] using Value.number hnumeral rest⟩

theorem readsValues_readValue (most depth : Nat) : ReadsValues (readValue most depth) := by
  -- By induction on the depth: what is inside an array or object is read at the depth below.
  induction depth using Nat.strong_induction_on with
  | _ depth ih =>
    intro input rest value h
    unfold readValue at h
    dsimp only at h
    split at h
    case h_1 => cases h
    case h_2 b after hinput =>
      refine ⟨b :: after, ?_⟩
      suffices ∃ tree, Value (b :: after) tree rest from
        this.imp fun tree htree => ⟨(skipBlanks_eq_cons_iff.mp hinput).1, htree⟩
      split_ifs at h with hn ht hf hminus hdigit hquote hopen hbrace
      · obtain ⟨_, hscan, ⟨⟩⟩ := map_eq_ok_iff.mp h
        rw [isByte_iff.mp hn, scanWord_eq_ok_iff.mp hscan]
        exact ⟨.null, .null rest⟩
      · obtain ⟨_, hscan, ⟨⟩⟩ := map_eq_ok_iff.mp h
        rw [isByte_iff.mp ht, scanWord_eq_ok_iff.mp hscan]
        exact ⟨.bool true, .true rest⟩
      · obtain ⟨_, hscan, ⟨⟩⟩ := map_eq_ok_iff.mp h
        rw [isByte_iff.mp hf, scanWord_eq_ok_iff.mp hscan]
        exact ⟨.bool false, .false rest⟩
      · obtain ⟨_, hscan, ⟨⟩⟩ := map_eq_ok_iff.mp h
        rw [isByte_iff.mp hminus]
        exact value_of_scanNumber hscan
      · obtain ⟨_, hscan, ⟨⟩⟩ := map_eq_ok_iff.mp h
        rw [hinput] at hscan
        exact value_of_scanNumber hscan
      · obtain ⟨⟨text, _⟩, hscan, ⟨⟩⟩ := map_eq_ok_iff.mp h
        rw [isByte_iff.mp hquote]
        exact ⟨.string text, .string (scanString_eq_ok_iff.mp hscan)⟩
      · cases depth with
        | zero => cases h
        | succ depth =>
          obtain ⟨_, hitems, ⟨⟩⟩ := map_eq_ok_iff.mp h
          obtain ⟨items, hitems⟩ := items_of_readItems (ih depth (Nat.lt_succ_self depth)) hitems
          rw [isByte_iff.mp hopen]
          exact ⟨.array items, .array hitems⟩
      · cases depth with
        | zero => cases h
        | succ depth =>
          obtain ⟨_, hmembers, ⟨⟩⟩ := map_eq_ok_iff.mp h
          obtain ⟨members, hmembers⟩ := members_of_readMembers (ih depth (Nat.lt_succ_self depth)) hmembers
          rw [isByte_iff.mp hbrace]
          exact ⟨.object members, .object hmembers⟩
      · cases h

theorem exists_isText_of_read {whole : Bytes} {value : Json} (h : read whole = .ok value) :
    ∃ tree, IsText whole tree := by
  unfold read at h
  split at h
  case h_1 => cases h
  case h_2 value' rest hvalue =>
    obtain ⟨start, tree, hblanks, htree⟩ := readsValues_readValue _ _ hvalue
    split at h
    case h_1 hrest => exact ⟨tree, start, rest, hblanks, htree, skipBlanks_eq_nil_iff.mp hrest⟩
    case h_2 => cases h

end Specimen.Json
