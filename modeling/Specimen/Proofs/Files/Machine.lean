import Specimen.Files.Machine
import Specimen.Proofs.Files.Path

/-! What a machine holds after it has been written to.

Making directories only adds to a machine, and writing a file changes the one entry. So the ways through the
machine stay as they are (`Covers.walk`), and a file that was written is read back until it is written again
(`holds_of_writeFile`, `Holds.of_writeFile`). -/
namespace Specimen.Files.Machine
open Json (Bytes)

/-! ### Entries -/

theorem lookup_setEntry (place q : Place) (entry : Entry) (entries : List (Place × Entry)) :
    (setEntry place entry entries).lookup q = if q = place then some entry else entries.lookup q := by
  induction entries with
  | nil =>
    rw [setEntry, List.lookup_cons]
    by_cases h : q = place
    · simp [h]
    · simp [h, beq_eq_false_iff_ne.mpr h]
  | cons e rest ih =>
    obtain ⟨p, e⟩ := e
    rw [setEntry]
    split
    case isTrue h =>
      subst h
      rw [List.lookup_cons, List.lookup_cons]
      by_cases h : q = p
      · simp [h]
      · simp [h, beq_eq_false_iff_ne.mpr h]
    case isFalse h =>
      rw [List.lookup_cons, List.lookup_cons, ih]
      by_cases hq : q = p
      · subst hq
        simp [h]
      · simp [beq_eq_false_iff_ne.mpr hq]

theorem entry?_put (machine : Machine) {place : Place} (h : place ≠ []) (entry : Entry) (q : Place) :
    Machine.entry? (machine.put place entry) q = if q = place then some entry else machine.entry? q := by
  unfold entry? put
  by_cases hq : q = []
  · subst hq
    simp [h.symm]
  · simp [hq, lookup_setEntry]

/-- What is there is there on the other machine as well, and directories are directories. -/
structure Covers (machine after : Machine) : Prop where
  current : after.current = machine.current
  there : ∀ {place}, (machine.entry? place).isSome = true → (after.entry? place).isSome = true
  directory : ∀ {place}, machine.entry? place = some .directory →
    after.entry? place = some .directory

/-- The other machine has only more. -/
structure Extends (machine after : Machine) : Prop where
  current : after.current = machine.current
  entry : ∀ {place e}, machine.entry? place = some e → after.entry? place = some e

variable {machine after : Machine}

theorem Extends.refl (machine : Machine) : machine.Extends machine := ⟨rfl, id⟩

theorem Extends.trans {final : Machine} (h : machine.Extends after)
    (h' : after.Extends final) : machine.Extends final :=
  ⟨h'.current.trans h.current, fun he => h'.entry (h.entry he)⟩

theorem Extends.covers (h : machine.Extends after) : machine.Covers after where
  current := h.current
  there hsome := by
    obtain ⟨e, he⟩ := Option.isSome_iff_exists.mp hsome
    rw [h.entry he]
    rfl
  directory he := h.entry he

theorem extends_put {place : Place} (hne : place ≠ []) (h : machine.entry? place = none) (e : Entry) :
    machine.Extends (machine.put place e) where
  current := rfl
  entry {q e'} hq := by
    have hqp : q ≠ place := by
      rintro rfl
      cases h.symm.trans hq
    rw [entry?_put machine hne, if_neg hqp, hq]

/-- Only a file may take the place of a file. -/
theorem covers_put {place : Place} (hne : place ≠ []) (h : machine.entry? place ≠ some .directory)
    (content : Bytes) : machine.Covers (machine.put place (.file content)) where
  current := rfl
  there {q} hq := by
    rw [entry?_put machine hne]
    split
    · rfl
    · exact hq
  directory {q} hq := by
    have hqp : q ≠ place := by
      rintro rfl
      exact h hq
    rw [entry?_put machine hne, if_neg hqp, hq]

/-! ### Ways -/

theorem walk_append (machine : Machine) (place : Place) (steps steps' : List String) :
    machine.walk place (steps ++ steps') = machine.walk place steps >>= (machine.walk · steps') := by
  induction steps generalizing place with
  | nil => rfl
  | cons step steps ih =>
    rw [List.cons_append, walk, walk]
    split
    · rfl
    · rfl
    · split
      · exact ih _
      · split
        · exact ih _
        · split
          · exact ih _
          · rfl

/-- A way through the one machine is a way through the other. -/
theorem Covers.walk (h : machine.Covers after) {place q : Place} {steps : List String}
    (hwalk : machine.walk place steps = .ok q) : after.walk place steps = .ok q := by
  induction steps generalizing place with
  | nil => exact hwalk
  | cons step steps ih =>
    rw [Machine.walk] at hwalk ⊢
    split at hwalk
    case h_1 => cases hwalk
    case h_2 => cases hwalk
    case h_3 hdirectory =>
      rw [h.directory hdirectory]
      dsimp only
      split at hwalk
      case isTrue hsilent =>
        rw [if_pos hsilent]
        exact ih hwalk
      case isFalse hsilent =>
        rw [if_neg hsilent]
        split at hwalk
        case isTrue hup =>
          rw [if_pos hup]
          exact ih hwalk
        case isFalse hup =>
          rw [if_neg hup]
          split at hwalk
          case isTrue hthere =>
            rw [if_pos (h.there hthere)]
            exact ih hwalk
          case isFalse => cases hwalk

theorem extends_makeWay {place : Place} {steps : List String}
    (h : machine.makeWay place steps = .ok after) : machine.Extends after := by
  induction steps generalizing machine place with
  | nil =>
    cases h
    exact .refl _
  | cons step steps ih =>
    rw [makeWay] at h
    split at h
    · exact ih h
    · split at h
      · exact ih h
      · split at h
        case h_1 => exact ih h
        case h_2 => cases h
        case h_3 hnone => exact (extends_put (List.concat_ne_nil _ _) hnone _).trans (ih h)

/-! ### Files in a directory -/

/-- The path leads to a directory, which is at the place. -/
structure LeadsTo (machine : Machine) (directory : String) (place : Place) : Prop where
  walk : machine.walk (machine.start directory) (way directory) = .ok place
  entry : machine.entry? place = some .directory

/-- There is a file of the name in the directory, with the content. -/
def Holds (machine : Machine) (directory name : String) (content : Bytes) : Prop :=
  ∃ place, machine.LeadsTo directory place ∧ machine.entry? (place ++ [name]) = some (.file content)

variable {directory name : String} {content : Bytes}

theorem LeadsTo.unique {p q : Place} (hp : machine.LeadsTo directory p)
    (hq : machine.LeadsTo directory q) : p = q := by
  cases hp.walk.symm.trans hq.walk
  rfl

theorem LeadsTo.of_covers {place : Place} (h : machine.LeadsTo directory place)
    (hcovers : machine.Covers after) : after.LeadsTo directory place where
  walk := by
    have hstart : after.start directory = machine.start directory := by
      rw [start, start, hcovers.current]
    rw [hstart]
    exact hcovers.walk h.walk
  entry := hcovers.directory h.entry

theorem Holds.of_extends (h : machine.Holds directory name content)
    (hextends : machine.Extends after) : after.Holds directory name content := by
  obtain ⟨place, hplace, hentry⟩ := h
  exact ⟨place, hplace.of_covers hextends.covers, hextends.entry hentry⟩

section Name
variable (hname : IsEntryName name)
include hname

theorem start_join (machine : Machine) (directory : String) :
    machine.start (join directory name) = machine.start directory := by
  rw [start, start, isAbsolute_join hname.noSlash]

theorem join_ne_empty (directory : String) : join directory name ≠ "" := by
  intro h
  have hpieces : pieces (join directory name) = way directory ++ [name] := pieces_join hname.noSlash
  rw [h] at hpieces
  have hempty : pieces "" = [""] := rfl
  rw [hempty] at hpieces
  have hlast := congrArg List.getLast? hpieces
  rw [List.getLast?_append] at hlast
  exact hname.nonempty (by simpa using hlast.symm)

theorem LeadsTo.find {place : Place} (h : machine.LeadsTo directory place)
    (hthere : (machine.entry? (place ++ [name])).isSome = true) :
    machine.find (join directory name) = .ok (place ++ [name]) := by
  rw [Machine.find, if_neg (join_ne_empty hname directory), start_join hname, pieces_join hname.noSlash,
    walk_append, h.walk]
  change machine.walk place [name] = _
  simp [Machine.walk, h.entry, hname.nonempty, hname.notHere, hname.notUp, hthere]

/-- What is held is read back. -/
theorem Holds.readFile (h : machine.Holds directory name content) :
    machine.readFile (join directory name) = .ok content := by
  obtain ⟨place, hplace, hentry⟩ := h
  have hfind := hplace.find hname (by rw [hentry]; rfl)
  rw [Machine.readFile, hfind]
  dsimp only [bind, Except.bind]
  rw [hentry]
  rfl

/-- To write a file is to change its entry. -/
theorem writeFile_join (h : machine.writeFile (join directory name) content = .ok after) :
    ∃ place, machine.LeadsTo directory place ∧ machine.entry? (place ++ [name]) ≠ some .directory ∧
      after = machine.put (place ++ [name]) (.file content) := by
  have hnamed : (((way directory ++ [name]).reverse.dropWhile (· = "")).reverse) =
      way directory ++ [name] := by
    simp [hname.nonempty]
  unfold writeFile at h
  rw [pieces_join hname.noSlash] at h
  simp only [hnamed, List.dropLast_concat, start_join hname, List.getLast?_concat] at h
  cases hwalk : machine.walk (machine.start directory) (way directory) with
  | error fault =>
    rw [hwalk] at h
    cases h
  | ok place =>
    have hsteps : (decide (name = ".") || decide (name = "..")) = false := by
      simp [hname.notHere, hname.notUp]
    rw [hwalk] at h
    change (if (decide (name = ".") || decide (name = "..")) = true then _ else _) = _ at h
    rw [hsteps, if_neg Bool.false_ne_true, if_neg (not_not.mpr rfl)] at h
    split at h
    case h_1 => cases h
    case h_2 => cases h
    case h_3 hdirectory =>
      split at h
      case h_1 => cases h
      case h_2 hfree =>
        cases h
        exact ⟨place, ⟨hwalk, hdirectory⟩, hfree, rfl⟩

/-- What is written is held. -/
theorem holds_of_writeFile (h : machine.writeFile (join directory name) content = .ok after) :
    after.Holds directory name content := by
  obtain ⟨place, hplace, hfree, rfl⟩ := writeFile_join hname h
  have hne : place ++ [name] ≠ [] := List.concat_ne_nil _ _
  refine ⟨place, hplace.of_covers (covers_put hne hfree content), ?_⟩
  rw [entry?_put machine hne, if_pos rfl]

/-- A file of another name in the directory is held as before. -/
theorem Holds.of_writeFile {other : String} {kept : Bytes} (hheld : machine.Holds directory other kept)
    (hother : other ≠ name) (h : machine.writeFile (join directory name) content = .ok after) :
    after.Holds directory other kept := by
  obtain ⟨place, hplace, hfree, rfl⟩ := writeFile_join hname h
  obtain ⟨place', hplace', hentry⟩ := hheld
  cases hplace'.unique hplace
  have hne : place ++ [name] ≠ [] := List.concat_ne_nil _ _
  have hapart : place ++ [other] ≠ place ++ [name] := by simpa using hother
  refine ⟨place, hplace.of_covers (covers_put hne hfree content), ?_⟩
  rw [entry?_put machine hne, if_neg hapart, hentry]

end Name

end Specimen.Files.Machine
