import Mathlib.Data.List.Basic
import Specimen.Files.Path

/-! Names below a directory.

The pieces of a path that is joined from a directory and a name are those of the directory, then the name
(`pieces_join`), so that distinct names give distinct paths. -/
namespace Specimen

namespace Text

theorem parts_ne_nil (separator : Char) (cs : List Char) : parts separator cs ≠ [] := by
  cases cs with
  | nil => exact List.cons_ne_nil _ _
  | cons c cs =>
    rw [parts]
    split
    · exact List.cons_ne_nil _ _
    · split <;> exact List.cons_ne_nil _ _

theorem parts_append (separator : Char) (cs ds : List Char) :
    parts separator (cs ++ separator :: ds) = parts separator cs ++ parts separator ds := by
  induction cs with
  | nil => simp [parts]
  | cons c cs ih =>
    rw [List.cons_append, parts, parts, ih]
    split
    · rfl
    · obtain ⟨part, rest, hparts⟩ := List.exists_cons_of_ne_nil (parts_ne_nil separator cs)
      rw [hparts]
      rfl

theorem parts_of_not_mem {separator : Char} {cs : List Char} (h : separator ∉ cs) :
    parts separator cs = [cs] := by
  induction cs with
  | nil => rfl
  | cons c cs ih =>
    obtain ⟨hc, hcs⟩ := List.ne_and_not_mem_of_not_mem_cons h
    rw [parts, if_neg hc.symm, ih hcs]

theorem not_mem_of_mem_parts {separator : Char} {cs part : List Char}
    (h : part ∈ parts separator cs) : separator ∉ part := by
  induction cs generalizing part with
  | nil =>
    cases List.mem_singleton.mp h
    exact List.not_mem_nil
  | cons c cs ih =>
    obtain ⟨first, rest, hparts⟩ := List.exists_cons_of_ne_nil (parts_ne_nil separator cs)
    rw [hparts] at ih
    rw [parts, hparts] at h
    split at h
    case isTrue =>
      rcases List.mem_cons.mp h with rfl | h
      · exact List.not_mem_nil
      · exact ih h
    case isFalse hc =>
      rcases List.mem_cons.mp h with rfl | h
      · exact List.not_mem_cons_of_ne_of_not_mem (Ne.symm hc) (ih (List.mem_cons_self ..))
      · exact ih (List.mem_cons_of_mem _ h)

end Text

namespace Files

theorem not_mem_of_mem_pieces {path piece : String} (h : piece ∈ pieces path) : '/' ∉ piece.toList := by
  obtain ⟨part, hpart, rfl⟩ := List.mem_map.mp h
  rw [String.toList_ofList]
  exact Text.not_mem_of_mem_parts hpart

/-! ### Names -/

/-- A name that leads from a directory to an entry in it. -/
structure IsEntryName (name : String) : Prop where
  noSlash : '/' ∉ name.toList
  nonempty : name ≠ ""
  notHere : name ≠ "."
  notUp : name ≠ ".."

theorem mem_pieces_of_component {first : Bool} {piece name : String}
    (h : component? first piece = some (.name name)) : piece = name := by
  unfold component? at h
  split at h
  · cases h
  · split at h
    · split at h <;> cases h
    · split at h <;> cases h
      rfl

theorem mem_pieces_of_mem_components {path name : String} (h : .name name ∈ components path) :
    name ∈ pieces path := by
  have hrest : ∀ {rest : List String}, .name name ∈ rest.filterMap (component? false) →
      name ∈ rest := by
    intro rest h
    obtain ⟨piece, hpiece, hname⟩ := List.mem_filterMap.mp h
    exact mem_pieces_of_component hname ▸ hpiece
  unfold components at h
  split at h
  · cases h
  · split at h
    case h_1 rest hpieces =>
      rw [hpieces]
      rcases List.mem_cons.mp h with h | h
      · cases h
      · exact List.mem_cons_of_mem _ (hrest h)
    case h_2 first rest _ hpieces =>
      rw [hpieces]
      rcases List.mem_append.mp h with h | h
      · rw [Option.mem_toList] at h
        exact mem_pieces_of_component h ▸ List.mem_cons_self ..
      · exact List.mem_cons_of_mem _ (hrest h)
    case h_3 => cases h

theorem mem_of_mem_stem {name : String} {c : Char} (h : c ∈ (stem name).toList) : c ∈ name.toList := by
  unfold stem at h
  split at h
  case h_1 point before hdrop =>
    split at h
    · exact h
    · rw [String.toList_ofList, List.mem_reverse] at h
      have hsuffix := List.dropWhile_suffix (l := name.toList.reverse) (· != '.')
      rw [hdrop] at hsuffix
      exact List.mem_reverse.mp (hsuffix.subset (List.mem_cons_of_mem _ h))
  case h_2 => exact h

theorem not_mem_fileStem {path name : String} (h : fileStem? path = some name) : '/' ∉ name.toList := by
  obtain ⟨n, hn, rfl⟩ := Option.map_eq_some_iff.mp h
  unfold fileName? at hn
  split at hn
  case h_1 last hlast =>
    cases hn
    have hmem := mem_pieces_of_mem_components (List.mem_of_getLast? hlast)
    exact fun hslash => not_mem_of_mem_pieces hmem (mem_of_mem_stem hslash)
  case h_2 => cases hn

/-! ### Joining -/

/-- The pieces that lead to a directory. -/
def way (directory : String) : List String :=
  if directory = "" then []
  else if directory.toList.getLast? = some '/' then (pieces directory).dropLast
  else pieces directory

theorem isAbsolute_of_noSlash {name : String} (h : '/' ∉ name.toList) : isAbsolute name = false := by
  unfold isAbsolute
  refine decide_eq_false fun hhead => h ?_
  exact List.mem_of_head? hhead

theorem join_eq (directory : String) {name : String} (h : '/' ∉ name.toList) : join directory name =
    if directory = "" ∨ directory.toList.getLast? = some '/' then directory ++ name
    else directory ++ "/" ++ name := by
  simp [join, isAbsolute_of_noSlash h]

theorem join_inj {directory a b : String} (ha : '/' ∉ a.toList) (hb : '/' ∉ b.toList) :
    join directory a = join directory b ↔ a = b := by
  rw [join_eq directory ha, join_eq directory hb]
  split <;> simp

theorem pieces_join {directory name : String} (h : '/' ∉ name.toList) :
    pieces (join directory name) = way directory ++ [name] := by
  have hname : pieces name = [name] := by
    rw [pieces, Text.parts_of_not_mem h]
    simp
  rw [join_eq directory h, way]
  by_cases hempty : directory = ""
  · rw [if_pos (.inl hempty), if_pos hempty, hempty, String.empty_append, hname]
    rfl
  by_cases hlast : directory.toList.getLast? = some '/'
  · rw [if_pos (.inr hlast), if_neg hempty, if_pos hlast]
    obtain ⟨before, hbefore⟩ := List.getLast?_eq_some_iff.mp hlast
    simp only [pieces, String.toList_append, hbefore, List.append_assoc, List.singleton_append,
      Text.parts_append, Text.parts_of_not_mem h, List.map_append]
    simp [Text.parts]
  · rw [if_neg (not_or.mpr ⟨hempty, hlast⟩), if_neg hempty, if_neg hlast]
    have hslash : "/".toList = ['/'] := rfl
    simp only [pieces, String.toList_append, hslash, List.append_assoc, List.singleton_append,
      Text.parts_append, Text.parts_of_not_mem h, List.map_append]
    simp

theorem isAbsolute_join {directory name : String} (h : '/' ∉ name.toList) :
    isAbsolute (join directory name) = isAbsolute directory := by
  rw [join_eq directory h]
  by_cases hempty : directory = ""
  · rw [if_pos (.inl hempty), hempty, String.empty_append, isAbsolute_of_noSlash h]
    rfl
  · obtain ⟨c, cs, hcs⟩ := List.exists_cons_of_ne_nil (l := directory.toList) (by simpa using hempty)
    split <;> simp [isAbsolute, hcs]

end Files

end Specimen
