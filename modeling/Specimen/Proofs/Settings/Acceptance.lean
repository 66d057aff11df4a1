import Specimen.Proofs.Command.Separate
import Specimen.Proofs.Inference.Soundness
import Specimen.Proofs.Json.Texts
import Specimen.Proofs.Settings.Records

/-! Which texts are accepted as settings.

Settings are read from the value that a text begins with (`read_eq_ok_iff`), and what comes after it is never looked
at: a text that begins with settings does so with anything behind it (`Begins.append`). A text that is accepted is a
configuration exactly if nothing but blanks comes after the value (`isConfiguration_iff_read`). Documents are read
to their end. -/
namespace Specimen.Settings
open Json
open Command (loadSettings runOn)
open Files (Machine)

theorem reads_dictionaryFields : List.Forall₂ Reads dictionaryFields dictionaryEntries :=
  .cons (reads_of decodes_readFlag) <| .cons (reads_of decodes_readCount) <|
    .cons (reads_of decodes_readFlag) .nil

theorem decodes_readDictionaryPolicy :
    Decodes (readRecord "struct DictionaryDetection" dictionaryFields {}) dictionaryPolicy? where
  sound h := by
    simpa only [record?_dictionaryEntries] using
      (readRecord_eq_ok_iff reads_dictionaryFields independent_dictionaryEntries).mp h
  complete hblanks hvalue _ hdecode := by
    refine (readRecord_eq_ok_iff reads_dictionaryFields independent_dictionaryEntries).mpr ?_
    exact ⟨_, _, hblanks, hvalue, (record?_dictionaryEntries _).trans hdecode⟩

theorem reads_settingsFields : List.Forall₂ Reads settingsFields settingsEntries :=
  .cons (reads_of decodes_readText) <| .cons (reads_of decodes_readOptionalText) <|
    .cons (reads_of decodes_readOptionalText) <| .cons (reads_of decodes_readFlag) <|
    .cons (reads_of decodes_readFlag) <| .cons (reads_of decodes_readFlag) <|
    .cons (reads_of decodes_readCount) <| .cons (reads_of decodes_readTexts) <|
    .cons (reads_of decodes_readDictionaryPolicy) .nil

/-! ### Beginnings -/

/-- The value is settings with a name for the root. -/
def IsSettings (tree : Tree) (s : Settings) : Prop :=
  settings? tree = some s ∧ Text.isBlankText s.rootName = false

/-- The first value is settings, and the rest comes after it. -/
def Begins (bytes : Bytes) (s : Settings) (rest : Bytes) : Prop :=
  ∃ start tree, Blanks bytes start ∧ Value start tree rest ∧ IsSettings tree s

/-- The one value, blanks around it aside, is settings. -/
def IsConfiguration (bytes : Bytes) (s : Settings) : Prop :=
  ∃ tree, IsText bytes tree ∧ IsSettings tree s

theorem isConfiguration_iff {bytes : Bytes} {s : Settings} :
    IsConfiguration bytes s ↔ ∃ rest, Begins bytes s rest ∧ Blanks rest [] := by
  constructor
  · rintro ⟨tree, ⟨start, rest, hblanks, hvalue, hrest⟩, hs⟩
    exact ⟨rest, ⟨start, tree, hblanks, hvalue, hs⟩, hrest⟩
  · rintro ⟨rest, ⟨start, tree, hblanks, hvalue, hs⟩, hrest⟩
    exact ⟨tree, ⟨start, rest, hblanks, hvalue, hrest⟩, hs⟩

theorem begins_iff {bytes rest : Bytes} {s : Settings} :
    Begins bytes s rest ↔
      readRecord "struct Config" settingsFields {} bytes = .ok (s, rest) ∧ Text.isBlankText s.rootName = false := by
  rw [readRecord_eq_ok_iff reads_settingsFields independent_settingsEntries]
  simp only [record?_settingsEntries, Begins, IsSettings]
  constructor
  · rintro ⟨start, tree, hblanks, hvalue, hs, hname⟩
    exact ⟨⟨start, tree, hblanks, hvalue, hs⟩, hname⟩
  · rintro ⟨⟨start, tree, hblanks, hvalue, hs⟩, hname⟩
    exact ⟨start, tree, hblanks, hvalue, hs, hname⟩

/-- A text begins with settings in one way only. -/
theorem Begins.unique {bytes rest rest' : Bytes} {s s' : Settings} (h : Begins bytes s rest)
    (h' : Begins bytes s' rest') : s = s' ∧ rest = rest' :=
  Prod.mk.inj (Except.ok.inj ((begins_iff.mp h).1.symm.trans (begins_iff.mp h').1))

theorem validate_eq_ok_iff {s s' : Settings} :
    validate s = .ok s' ↔ s = s' ∧ Text.isBlankText s.rootName = false := by
  unfold validate
  split_ifs with hblank
  · exact iff_of_false nofun fun ⟨_, hname⟩ => Bool.false_ne_true (hname.symm.trans hblank)
  · simp [hblank]

theorem read_eq_ok_iff {bytes : Bytes} {s : Settings} : read bytes = .ok s ↔ ∃ rest, Begins bytes s rest := by
  simp only [begins_iff]
  unfold read
  cases hread : readRecord "struct Config" settingsFields {} bytes with
  | error refusal => exact iff_of_false nofun nofun
  | ok found =>
    obtain ⟨s', rest⟩ := found
    simp only [validate_eq_ok_iff, Except.ok.injEq, Prod.mk.injEq]
    constructor
    · rintro ⟨rfl, hname⟩
      exact ⟨rest, ⟨rfl, rfl⟩, hname⟩
    · rintro ⟨_, ⟨rfl, -⟩, hname⟩
      exact ⟨rfl, hname⟩

theorem Begins.append {bytes rest : Bytes} {s : Settings} (h : Begins bytes s rest) (more : Bytes) :
    Begins (bytes ++ more) s (rest ++ more) := by
  obtain ⟨start, tree, hblanks, hvalue, hs⟩ := h
  exact ⟨start ++ more, tree, hblanks.append more, hvalue.append more, hs⟩

theorem isConfiguration_iff_read {bytes : Bytes} {s : Settings} :
    IsConfiguration bytes s ↔ read bytes = .ok s ∧ ∀ rest, Begins bytes s rest → Blanks rest [] := by
  rw [isConfiguration_iff, read_eq_ok_iff]
  constructor
  · rintro ⟨rest, hbegins, hrest⟩
    exact ⟨⟨rest, hbegins⟩, fun rest' hbegins' => (hbegins.unique hbegins').2 ▸ hrest⟩
  · rintro ⟨⟨rest, hbegins⟩, hrest⟩
    exact ⟨rest, hbegins, hrest rest hbegins⟩

/-! ### Loading -/

theorem runOn_readBytes (machine : Machine) (path : String) :
    runOn (Command.readBytes path) machine = ((machine.readFile path).mapError (.unread path), machine) := by
  have hread : runOn (liftM (Files.Host.readFile path : StateM Machine _)) machine =
      (.ok (machine.readFile path), machine) := rfl
  unfold Command.readBytes
  rw [Command.runOn_bind, hread]
  cases machine.readFile path <;> rfl

theorem runOn_loadSettings {machine : Machine} {path : String} {bytes : Bytes}
    (h : machine.readFile path = .ok bytes) :
    runOn (loadSettings path) machine = ((read bytes).mapError .settings, machine) := by
  unfold loadSettings
  rw [Command.runOn_bind, runOn_readBytes, h]
  dsimp only [Except.mapError]
  cases read bytes <;> rfl

/-! ### Texts -/

theorem exists_isText_of_inferTexts {s : Settings} {documents : List (String × String)} {m : TypeModel}
    {origin text : String} (hdocument : (origin, text) ∈ documents) (h : inferTexts s documents = .ok m) :
    ∃ tree, IsText (toUtf8 text) tree := by
  obtain ⟨values, hvalues, -⟩ := bind_eq_ok_iff.mp h
  obtain ⟨value, hvalue⟩ := exists_of_mapM hvalues (origin, text) hdocument
  exact exists_isText_of_read (mapError_eq_ok_iff.mp hvalue)

/-- A text is accepted exactly if it begins with settings, in itself and in a file. It is a configuration if besides
nothing but blanks is left, but what is left is not looked at: more of it changes nothing. A text is accepted as a
document only if it is one value. -/
theorem accepts_beginnings (text : String) :
    (∀ s, parse text = .ok s ↔ ∃ rest, Begins (toUtf8 text) s rest) ∧
      (∀ s, IsConfiguration (toUtf8 text) s ↔
        parse text = .ok s ∧ ∀ rest, Begins (toUtf8 text) s rest → Blanks rest []) ∧
      (∀ s more, parse text = .ok s → parse (text ++ more) = .ok s) ∧
      (∀ (machine : Machine) path, machine.readFile path = .ok (toUtf8 text) →
        runOn (loadSettings path) machine = ((parse text).mapError .settings, machine)) ∧
      ∀ s documents m origin, (origin, text) ∈ documents → inferTexts s documents = .ok m →
        ∃ tree, IsText (toUtf8 text) tree := by
  refine ⟨fun s => read_eq_ok_iff, fun s => isConfiguration_iff_read, fun s more h => ?_,
    fun machine path => runOn_loadSettings, fun s documents m origin => exists_isText_of_inferTexts⟩
  obtain ⟨rest, hbegins⟩ := read_eq_ok_iff.mp h
  rw [parse, toUtf8_append]
  exact read_eq_ok_iff.mpr ⟨_, hbegins.append (toUtf8 more)⟩

theorem eq_ok_of_toOption {ε α : Type} {x : Except ε α} {a : α} (h : x.toOption = some a) : x = .ok a := by
  cases x with
  | error e => cases h
  | ok b => exact congrArg _ (Option.some.inj h)

/-- A name for the root and one setting inside another record. The others are left out. -/
def payloadText : String :=
  "\x7b \"root_name\": \"Payload\", \"dictionaries\": \x7b \"max_fields\": 10 \x7d \x7d\n"

def payloadSettings : Settings where
  rootName := "Payload"
  dictionaries := { maxFields := 10 }

theorem accepts_beginnings_payload :
    let machine : Machine := .holding [("settings.json", toUtf8 payloadText)] []
    parse payloadText = .ok payloadSettings ∧ IsConfiguration (toUtf8 payloadText) payloadSettings ∧
      parse (payloadText ++ "x") = .ok payloadSettings ∧
      runOn (loadSettings "settings.json") machine = (.ok payloadSettings, machine) ∧
      ∃ tree, IsText (toUtf8 payloadText) tree := by
  obtain ⟨hparse, hconfiguration, hmore, hload, hdocument⟩ := accepts_beginnings payloadText
  have hbegins : Begins (toUtf8 payloadText) payloadSettings (ascii "\n") :=
    begins_iff.mpr ⟨eq_ok_of_toOption (by decide +kernel), by decide⟩
  have haccepted := (hparse payloadSettings).mpr ⟨_, hbegins⟩
  have hfile : ((Machine.holding [("settings.json", toUtf8 payloadText)] []).readFile
      "settings.json").toOption = some (toUtf8 payloadText) := by decide +kernel
  obtain ⟨m, hm⟩ := Option.isSome_iff_exists.mp
    (by decide +kernel : (inferTexts {} [("a", payloadText)]).toOption.isSome = true)
  refine ⟨haccepted, (hconfiguration _).mpr ⟨haccepted, fun rest hrest => ?_⟩, hmore _ "x" haccepted, ?_,
    hdocument {} _ m "a" List.mem_cons_self (eq_ok_of_toOption hm)⟩
  · obtain ⟨-, rfl⟩ := hbegins.unique hrest
    exact skipBlanks_eq_nil_iff.mp (by decide)
  · rw [hload _ _ (eq_ok_of_toOption hfile), haccepted]
    rfl

/-- An object without members leaves all defaults. -/
theorem begins_default (rest : Bytes) : Begins (ascii "\x7b\x7d" ++ rest) {} rest :=
  ⟨_, .object [], .refl _, .object (.close (.refl _)), rfl, by decide⟩

/-- What comes after the settings is taken for nothing, where a document is refused for it. -/
theorem trailing_accepted :
    parse "\x7b\x7d x" = .ok {} ∧ (∀ s, ¬IsConfiguration (toUtf8 "\x7b\x7d x") s) ∧
      (inferTexts {} [("a", "\x7b\x7d x")]).toOption.isSome = false := by
  have htext : toUtf8 "\x7b\x7d x" = ascii "\x7b\x7d" ++ ascii " x" := by decide +kernel
  have hbegins : Begins (toUtf8 "\x7b\x7d x") {} (ascii " x") := htext ▸ begins_default _
  refine ⟨read_eq_ok_iff.mpr ⟨_, hbegins⟩, fun s hs => ?_, by decide +kernel⟩
  obtain ⟨rest, hbegins', hrest⟩ := isConfiguration_iff.mp hs
  obtain ⟨-, rfl⟩ := hbegins.unique hbegins'
  exact absurd (skipBlanks_eq_nil_iff.mpr hrest) (by decide)

end Specimen.Settings
