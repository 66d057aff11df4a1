import Specimen.Command.Run
import Specimen.Proofs.Files.Machine

/-! One file for every input.

A run that writes a file for every source leaves in each file what is made of the last source that the file is
for (`runGenerate_separate`). The name of a file keeps the stem of the source and nothing else, so a source
without a namesake after it is found in its file, and one with a namesake is not: its file is written over
without a word (`output_lost`). -/
namespace Specimen.Command
open Files (Fault Host Machine IsEntryName)
open Source (Language)

/-! ### Runs on a machine -/

/-- How a command ends on a machine, and what the machine is then. -/
def runOn {α : Type} (x : ExceptT Failure (StateM Machine) α) (machine : Machine) :
    Except Failure α × Machine := x.run.run machine

variable {machine machine' : Machine}

theorem runOn_bind {α β : Type} (x : ExceptT Failure (StateM Machine) α)
    (f : α → ExceptT Failure (StateM Machine) β) (machine : Machine) : runOn (x >>= f) machine =
      match runOn x machine with
      | (.ok a, between) => runOn (f a) between
      | (.error failure, between) => (.error failure, between) := by
  change (match runOn x machine with
    | (result, between) => (ExceptT.bindCont f result : StateM Machine _) between) = _
  rcases runOn x machine with ⟨_ | _, _⟩ <;> rfl

/-- A run that ends well has gone through its steps one after the other. -/
theorem exists_of_runOn_bind {α β : Type} {x : ExceptT Failure (StateM Machine) α}
    {f : α → ExceptT Failure (StateM Machine) β} {b : β}
    (h : runOn (x >>= f) machine = (.ok b, machine')) :
    ∃ a between, runOn x machine = (.ok a, between) ∧ runOn (f a) between = (.ok b, machine') := by
  rw [runOn_bind] at h
  split at h
  case h_1 a between hx => exact ⟨a, between, hx, h⟩
  case h_2 => cases h

theorem runOn_change (f : Machine → Except Fault Machine) (machine : Machine) :
    runOn (liftM (Machine.change f)) machine =
      match f machine with
      | .ok changed => (.ok (.ok ()), changed)
      | .error fault => (.ok (.error fault), machine) := by
  change (match (Machine.change f : StateM Machine _) machine with
    | (result, between) => (Except.ok result, between)) = _
  have hchange : (Machine.change f : StateM Machine _) machine =
      match f machine with
      | .ok changed => (.ok (), changed)
      | .error fault => (.error fault, machine) := by
    unfold Machine.change
    change (match f machine with
      | .ok _ => _
      | .error _ => _ : StateM Machine _) machine = _
    cases f machine <;> rfl
  rw [hchange]
  cases f machine <;> rfl

/-- How a refusal is taken is known only where there is one. -/
theorem exists_of_runOn_change {α : Type} {f : Machine → Except Fault Machine}
    {next : Except Fault Unit → ExceptT Failure (StateM Machine) α}
    (hrefused : ∀ fault, ∃ failure, ∀ machine,
      runOn (next (.error fault)) machine = (.error failure, machine))
    {a : α} (h : runOn (liftM (Machine.change f) >>= next) machine = (.ok a, machine')) :
    ∃ changed, f machine = .ok changed ∧ runOn (next (.ok ())) changed = (.ok a, machine') := by
  obtain ⟨result, changed, hresult, h⟩ := exists_of_runOn_bind h
  rw [runOn_change] at hresult
  cases hf : f machine with
  | ok changed' =>
    rw [hf] at hresult
    cases hresult
    exact ⟨_, rfl, h⟩
  | error fault =>
    rw [hf] at hresult
    cases hresult
    obtain ⟨failure, hfailure⟩ := hrefused fault
    rw [hfailure] at h
    cases h

/-- Writing a text makes the directories around it, then writes the file. -/
theorem exists_of_writeText {path content : String}
    (h : runOn (writeText path content) machine = (.ok (), machine')) :
    ∃ made, machine.Extends made ∧ made.writeFile path (Json.toUtf8 content) = .ok machine' := by
  unfold writeText at h
  dsimp only at h
  split at h
  case h_1 directory _ =>
    obtain ⟨made, hmade, h⟩ := exists_of_runOn_change (fun fault => ⟨_, fun _ => rfl⟩) h
    obtain ⟨changed, hwrite, h⟩ := exists_of_runOn_change (fun fault => ⟨_, fun _ => rfl⟩) h
    cases h
    exact ⟨made, Machine.extends_makeWay hmade, hwrite⟩
  case h_2 =>
    obtain ⟨changed, hwrite, h⟩ := exists_of_runOn_change (fun fault => ⟨_, fun _ => rfl⟩) h
    cases h
    exact ⟨machine, .refl machine, hwrite⟩

/-! ### Files written one after the other -/

section Written
variable {directory : String}

/-- Writes texts to files in a directory, by their names. -/
def writeAll (directory : String) (files : List (String × String)) :
    ExceptT Failure (StateM Machine) Unit :=
  files.forM fun file => writeText (Files.join directory file.1) file.2

variable {files : List (String × String)} (hnames : ∀ file ∈ files, IsEntryName file.1)
include hnames

/-- A file that is not written again is held as before. -/
theorem holds_of_writeAll (h : runOn (writeAll directory files) machine = (.ok (), machine'))
    {name : String} (hother : name ∉ files.map Prod.fst) {kept : Json.Bytes}
    (hheld : machine.Holds directory name kept) : machine'.Holds directory name kept := by
  induction files generalizing machine with
  | nil =>
    cases h
    exact hheld
  | cons file files ih =>
    obtain ⟨hname, hnames⟩ := List.forall_mem_cons.mp hnames
    obtain ⟨hne, hother⟩ := List.ne_and_not_mem_of_not_mem_cons hother
    obtain ⟨⟨⟩, between, hfirst, h⟩ := exists_of_runOn_bind h
    obtain ⟨made, hextends, hwrite⟩ := exists_of_writeText hfirst
    exact ih hnames h hother ((hheld.of_extends hextends).of_writeFile hname hne hwrite)

/-- The last text that goes to a name is held. -/
theorem holds_last_of_writeAll {earlier later : List (String × String)} {file : String × String}
    (hfiles : files = earlier ++ file :: later) (hlast : file.1 ∉ later.map Prod.fst)
    (h : runOn (writeAll directory files) machine = (.ok (), machine')) :
    machine'.Holds directory file.1 (Json.toUtf8 file.2) := by
  induction earlier generalizing machine files with
  | nil =>
    subst hfiles
    obtain ⟨hname, hnames⟩ := List.forall_mem_cons.mp hnames
    obtain ⟨⟨⟩, between, hfirst, h⟩ := exists_of_runOn_bind h
    obtain ⟨made, _, hwrite⟩ := exists_of_writeText hfirst
    exact holds_of_writeAll hnames h hlast (Machine.holds_of_writeFile hname hwrite)
  | cons _ earlier ih =>
    subst hfiles
    obtain ⟨⟨⟩, between, _, h⟩ := exists_of_runOn_bind h
    exact ih (List.forall_mem_cons.mp hnames).2 rfl h

end Written

/-! ### The file of a source -/

/-- What the file of a source is named after. -/
def outputStem (source : String) : String := (Files.fileStem? source).getD "stdin"

def outputName (language : Language) (source : String) : String :=
  outputStem source ++ "." ++ language.writer.fileExtension

theorem separatePath_eq (language : Language) (directory source : String) :
    separatePath language directory source = Files.join directory (outputName language source) := rfl

theorem outputStem_noSlash (source : String) : '/' ∉ (outputStem source).toList := by
  unfold outputStem
  cases h : Files.fileStem? source with
  | none => decide
  | some stem => exact Files.not_mem_fileStem h

theorem isEntryName_outputName (language : Language) (source : String) :
    IsEntryName (outputName language source) := by
  have hlength : 3 ≤ (outputName language source).length := by
    have hextension : language.writer.fileExtension.length = 2 := by cases language <;> rfl
    have hpoint : ".".length = 1 := rfl
    rw [outputName, String.length_append, String.length_append]
    omega
  refine ⟨?_, ?_, ?_, ?_⟩
  · have hstem := outputStem_noSlash source
    cases language <;>
      simp [outputName, Language.writer, Source.TypeScript.writer, Source.Rust.writer, hstem]
  all_goals
    intro h
    rw [h] at hlength
    revert hlength
    decide

theorem outputName_inj (language : Language) {a b : String} :
    outputName language a = outputName language b ↔ outputStem a = outputStem b := by
  simp [outputName]

theorem separatePath_inj (language : Language) (directory : String) {a b : String} :
    separatePath language directory a = separatePath language directory b ↔
      outputStem a = outputStem b := by
  rw [separatePath_eq, separatePath_eq, Files.join_inj (isEntryName_outputName language a).noSlash
    (isEntryName_outputName language b).noSlash, outputName_inj]

/-- What is made of a source by itself. -/
def rendering (language : Language) (s : Settings) (samples : List Json) : String :=
  Source.render language (inferValues s samples) s

theorem separateFiles_eq (language : Language) (s : Settings) (directory : String)
    (sources : List (String × List Json)) : separateFiles language s directory sources =
      sources.map fun source =>
        (separatePath language directory source.1, rendering language s source.2) := by
  rw [separateFiles, inferSets, List.map_map, List.zip_map', List.map_map]
  rfl

theorem writeAll_separateFiles (language : Language) (s : Settings) (directory : String)
    (sources : List (String × List Json)) :
    ((separateFiles language s directory sources).forM fun (path, content) =>
        (writeText path content : ExceptT Failure (StateM Machine) Unit)) =
      writeAll directory (sources.map fun source =>
        (outputName language source.1, rendering language s source.2)) := by
  rw [separateFiles_eq, writeAll]
  induction sources with
  | nil => rfl
  | cons source sources ih =>
    exact congrArg (writeText (separatePath language directory source.1)
      (rendering language s source.2) >>= fun _ => ·) ih

/-- In separate mode two sources have one path just if they have one stem. A run that ends well leaves the
rendering of each source in its file, if no later source has the same stem. So where the stems are distinct
every source is found in a file of its own. -/
theorem runGenerate_separate {o : Options} {directory : String} (hseparate : o.separate = true)
    (hdirectory : o.outDirectory = some directory)
    (h : runOn (runGenerate o) machine = (.ok (), machine')) :
    ∃ s sources before between, runOn (settingsFor o.model) machine = (.ok s, before) ∧
      runOn (readSources o.input) before = (.ok sources, between) ∧
      ((sources.map fun source => separatePath o.language directory source.1).Nodup ↔
        (sources.map fun source => outputStem source.1).Nodup) ∧
      (∀ earlier source later, sources = earlier ++ source :: later →
        (∀ other ∈ later, outputStem other.1 ≠ outputStem source.1) →
          machine'.readFile (separatePath o.language directory source.1) =
            .ok (Json.toUtf8 (rendering o.language s source.2))) ∧
      ((sources.map fun source => outputStem source.1).Nodup → ∀ source ∈ sources,
        machine'.readFile (separatePath o.language directory source.1) =
          .ok (Json.toUtf8 (rendering o.language s source.2))) := by
  unfold runGenerate at h
  obtain ⟨s, before, hs, h⟩ := exists_of_runOn_bind h
  obtain ⟨sources, between, hsources, h⟩ := exists_of_runOn_bind h
  rw [hseparate, hdirectory] at h
  dsimp only at h
  rw [writeAll_separateFiles] at h
  have hnames : ∀ file ∈ sources.map fun source =>
      (outputName o.language source.1, rendering o.language s source.2), IsEntryName file.1 :=
    List.forall_mem_map.mpr fun source _ => isEntryName_outputName o.language source.1
  have hlast : ∀ earlier source later, sources = earlier ++ source :: later →
      (∀ other ∈ later, outputStem other.1 ≠ outputStem source.1) →
        machine'.readFile (separatePath o.language directory source.1) =
          .ok (Json.toUtf8 (rendering o.language s source.2)) := by
    rintro earlier source later rfl hlater
    refine (holds_last_of_writeAll hnames (List.map_append ..) ?_ h).readFile
      (isEntryName_outputName o.language source.1)
    rw [List.map_map, List.mem_map]
    rintro ⟨other, hother, hname⟩
    exact hlater other hother ((outputName_inj o.language).mp hname)
  refine ⟨s, sources, before, between, hs, hsources, ?_, hlast, fun hdistinct source hsource => ?_⟩
  · simp only [List.Nodup, List.pairwise_map, ne_eq, separatePath_inj]
  · obtain ⟨earlier, later, rfl⟩ := List.append_of_mem hsource
    refine hlast earlier source later rfl fun other hother hstem => ?_
    rw [List.map_append, List.map_cons] at hdistinct
    have hnot := (List.nodup_cons.mp (List.nodup_append.mp hdistinct).2.1).1
    exact hnot (List.mem_map.mpr ⟨other, hother, hstem⟩)

/-- Three files, two of them of one name. -/
def namesakes : Machine :=
  .holding [("a.json", Json.toUtf8 "\x7b\x7d"), ("b.json", Json.toUtf8 "true"),
    ("d/a.json", Json.toUtf8 "1")] []

def separately (inputs : List String) : Options where
  input := { inputs }
  language := .rust
  separate := true
  outDirectory := some "o"

theorem eq_of_isOk {ε : Type} {x : Except ε Unit} (h : x.isOk = true) : x = .ok () := by
  cases x with
  | ok _ => rfl
  | error _ => cases h

theorem runGenerate_separate_apart :
    ∃ (s : Settings) (sources : List (String × List Json)),
      sources.map Prod.fst = ["a.json", "b.json"] ∧ ∀ source ∈ sources,
      (runOn (runGenerate (separately ["a.json", "b.json"])) namesakes).2.readFile
        (separatePath .rust "o" source.1) = .ok (Json.toUtf8 (rendering .rust s source.2)) := by
  have hok : (runOn (runGenerate (separately ["a.json", "b.json"])) namesakes).1.isOk = true := by
    decide +kernel
  obtain ⟨s, sources, before, between, hs, hsources, _, _, hheld⟩ :=
    runGenerate_separate rfl rfl (Prod.ext (eq_of_isOk hok) rfl)
  have hpaths : (runOn (readSources (separately ["a.json", "b.json"]).input)
      (runOn (settingsFor (separately ["a.json", "b.json"]).model) namesakes).2).1.toOption.map
        (List.map Prod.fst) = some ["a.json", "b.json"] := by decide +kernel
  rw [hs, hsources] at hpaths
  have hpaths : sources.map Prod.fst = ["a.json", "b.json"] := Option.some.inj hpaths
  refine ⟨s, sources, hpaths, hheld ?_⟩
  have hstems : (sources.map fun source => outputStem source.1) =
      ["a.json", "b.json"].map outputStem := by
    rw [← hpaths, List.map_map]
    rfl
  rw [hstems]
  decide +kernel

/-- Of two inputs with one stem the first has no output, and the run ends well. -/
theorem output_lost :
    let inputs := ["a.json", "d/a.json"]
    let ending := runOn (runGenerate (separately inputs)) namesakes
    inputs.Nodup ∧ ¬ (inputs.map (separatePath .rust "o")).Nodup ∧ ending.1.isOk = true ∧
      ending.2.files.map Prod.fst = ["a.json", "b.json", "d/a.json", "o/a.rs"] ∧
      ending.2.files.lookup "o/a.rs" = some (Json.toUtf8 (rendering .rust {} [.number (.int 1)])) ∧
      Json.toUtf8 (rendering .rust {} [.object []]) ≠
        Json.toUtf8 (rendering .rust {} [.number (.int 1)]) := by
  decide +kernel

end Specimen.Command
