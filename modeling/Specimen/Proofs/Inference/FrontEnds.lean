import Specimen.Proofs.Inference.Soundness

/-! The front ends of a run.

A run takes values and texts one after another; a text that is no JSON is answered with an error and leaves
the run as it was. So a run is what the documents among its feeds make of it (`feedAll_eq`), and they are
observed sample by sample: how the samples are grouped into documents makes no difference. Reading all
texts first fails on the first malformed one, and otherwise gives the model of the run on them
(`inferTexts_eq`). -/
namespace Specimen

/-- What a run is given in one call: a document, or a text and its origin. -/
inductive Feed where
  | value (document : Json)
  | text (origin source : String)

namespace Feed

/-- The document, unless the feed is a malformed text. -/
def document? : Feed → Option Json
  | value document => some document
  | text _ source => (Json.parse source).toOption

/-- The error of a malformed text, with its origin. -/
def fault? : Feed → Option MalformedInput
  | value _ => none
  | text origin source =>
    match Json.parse source with
    | .ok _ => none
    | .error error => some ⟨origin, error⟩

/-- A feed is a document or malformed. -/
theorem document_or_fault (f : Feed) :
    (∃ document, f.document? = some document ∧ f.fault? = none) ∨
      ∃ error, f.document? = none ∧ f.fault? = some error := by
  cases f with
  | value document => exact .inl ⟨document, rfl, rfl⟩
  | text origin source =>
    simp only [document?, fault?]
    cases Json.parse source with
    | ok document => exact .inl ⟨document, rfl, rfl⟩
    | error error => exact .inr ⟨⟨origin, error⟩, rfl, rfl⟩

/-- The documents among the feeds. -/
def documents (feeds : List Feed) : List Json := feeds.filterMap document?

/-- The feeds of some texts with their origins. -/
def texts (sources : List (String × String)) : List Feed :=
  sources.map fun (origin, source) => .text origin source

variable {f : Feed} {rest : List Feed} {origin source : String}

theorem documents_cons_of_document {document : Json} (h : f.document? = some document) :
    documents (f :: rest) = document :: documents rest :=
  List.filterMap_cons_some h

theorem documents_cons_of_fault {error : MalformedInput} (h : f.fault? = some error) :
    documents (f :: rest) = documents rest := by
  rcases f.document_or_fault with ⟨_, _, hfault⟩ | ⟨_, hdocument, _⟩
  · rw [h] at hfault
    cases hfault
  · exact List.filterMap_cons_none hdocument

theorem parseDocument_of_document {document : Json} (h : (text origin source).document? = some document) :
    parseDocument origin source = .ok document := by
  simp only [document?] at h
  unfold parseDocument
  cases hparse : Json.parse source with
  | ok _ =>
    rw [hparse] at h
    cases h
    rfl
  | error _ =>
    rw [hparse] at h
    cases h

theorem parseDocument_of_fault {error : MalformedInput} (h : (text origin source).fault? = some error) :
    parseDocument origin source = .error error := by
  simp only [fault?] at h
  unfold parseDocument
  cases hparse : Json.parse source with
  | ok _ =>
    rw [hparse] at h
    cases h
  | error _ =>
    rw [hparse] at h
    cases h
    rfl

end Feed

namespace Inference
variable (s : Settings)

/-- Gives the run a feed. The answer is the error if there is one; the run is then still as it was. -/
def feed (run : Inference) : Feed → Option MalformedInput × Inference
  | .value document => (none, run.observeValue s document)
  | .text origin source =>
    match run.observeText s origin source with
    | .ok run => (none, run)
    | .error error => (some error, run)

/-- Gives the run one feed after another, whatever the answers. -/
def feedAll (run : Inference) : List Feed → List (Option MalformedInput) × Inference
  | [] => ([], run)
  | f :: rest =>
    let (answer, run) := run.feed s f
    let (answers, run) := feedAll run rest
    (answer :: answers, run)

variable {s} {run : Inference} {f : Feed}

theorem feed_of_document {document : Json} (h : f.document? = some document) :
    run.feed s f = (none, run.observeValue s document) := by
  cases f with
  | value _ =>
    cases h
    rfl
  | text origin source =>
    rw [feed, observeText, Feed.parseDocument_of_document h]
    rfl

/-- A malformed text is answered with the error, and nothing changes. -/
theorem feed_of_fault {error : MalformedInput} (h : f.fault? = some error) :
    run.feed s f = (some error, run) := by
  cases f with
  | value _ => cases h
  | text origin source =>
    rw [feed, observeText, Feed.parseDocument_of_fault h]
    rfl

/-- Each feed has its own answer, and the run is that of the documents. -/
theorem feedAll_eq (run : Inference) (feeds : List Feed) :
    run.feedAll s feeds = (feeds.map Feed.fault?, run.observeValues s (Feed.documents feeds)) := by
  induction feeds generalizing run with
  | nil => rfl
  | cons f rest ih =>
    rw [List.map_cons, feedAll]
    rcases f.document_or_fault with ⟨document, hdocument, hfault⟩ | ⟨error, _, hfault⟩
    · rw [Feed.documents_cons_of_document hdocument, hfault, feed_of_document hdocument]
      simp only [ih]
      rfl
    · rw [Feed.documents_cons_of_fault hfault, hfault, feed_of_fault hfault]
      simp only [ih]

theorem documents_observeSamples (run : Inference) (samples : List Json) :
    (samples.foldl (observeSample s) run).documents = run.documents + samples.length := by
  induction samples generalizing run with
  | nil => rfl
  | cons x rest ih =>
    rw [List.foldl_cons, ih, List.length_cons]
    exact Nat.add_right_comm ..

/-- The run on documents counts their samples. -/
theorem documents_observeValues (ds : List Json) :
    (observeValues s {} ds).documents = (samplesOf ds).length := by
  rw [observeValues_eq_foldl, documents_observeSamples, Nat.zero_add]

/-- The samples alone tell what the run has seen and counted. -/
theorem observeValues_of_samples {ds ds' : List Json} (h : samplesOf ds = samplesOf ds') :
    observeValues s run ds = observeValues s run ds' := by
  rw [observeValues_eq_foldl, observeValues_eq_foldl, h]

end Inference

/-- Reading texts stops at the first that is malformed. -/
theorem mapM_parseDocument (sources : List (String × String)) :
    (sources.mapM fun (origin, source) => parseDocument origin source) =
      match (Feed.texts sources).findSome? Feed.fault? with
      | some error => .error error
      | none => .ok (Feed.documents (Feed.texts sources)) := by
  induction sources with
  | nil => rfl
  | cons head rest ih =>
    obtain ⟨origin, source⟩ := head
    have htexts : Feed.texts ((origin, source) :: rest) = .text origin source :: Feed.texts rest := rfl
    rw [List.mapM_cons, ih, htexts, List.findSome?_cons]
    rcases (Feed.text origin source).document_or_fault with
      ⟨document, hdocument, hfault⟩ | ⟨error, _, hfault⟩
    · rw [Feed.documents_cons_of_document hdocument, hfault]
      dsimp only
      rw [Feed.parseDocument_of_document hdocument]
      cases (Feed.texts rest).findSome? Feed.fault? with
      | some _ => rfl
      | none => rfl
    · rw [hfault]
      dsimp only
      rw [Feed.parseDocument_of_fault hfault]
      rfl

/-- Reading all texts first fails with the error of the first malformed one, and otherwise gives the model
of a run on them. -/
theorem inferTexts_eq (s : Settings) (sources : List (String × String)) :
    inferTexts s sources =
      match (Feed.texts sources).findSome? Feed.fault? with
      | some error => .error error
      | none => .ok ((Inference.feedAll s {} (Feed.texts sources)).2.solve s) := by
  unfold inferTexts
  rw [mapM_parseDocument, Inference.feedAll_eq]
  cases (Feed.texts sources).findSome? Feed.fault? with
  | some error => rfl
  | none => rfl

/-- Every malformed text is answered with its error and leaves no trace: at the end of a run are the model
and the count of its documents alone, the same for all ways to group their samples into documents. Reading
all texts first gives that model too, or the error of the first malformed one. -/
theorem front_ends_agree (s : Settings) (feeds : List Feed) :
    (∀ run f error, f.fault? = some error → Inference.feed s run f = (some error, run)) ∧
      (Inference.feedAll s {} feeds).1 = feeds.map Feed.fault? ∧
      (Inference.feedAll s {} feeds).2 = Inference.observeValues s {} (Feed.documents feeds) ∧
      (Inference.feedAll s {} feeds).2.solve s = inferValues s (Feed.documents feeds) ∧
      (Inference.feedAll s {} feeds).2.documents =
        (Inference.samplesOf (Feed.documents feeds)).length ∧
      (∀ feeds', Inference.samplesOf (Feed.documents feeds') =
          Inference.samplesOf (Feed.documents feeds) →
        (Inference.feedAll s {} feeds').2 = (Inference.feedAll s {} feeds).2) ∧
      ∀ sources, inferTexts s sources =
        match (Feed.texts sources).findSome? Feed.fault? with
        | some error => .error error
        | none => .ok ((Inference.feedAll s {} (Feed.texts sources)).2.solve s) := by
  refine ⟨fun run f error => Inference.feed_of_fault, ?_, ?_, ?_, ?_, fun feeds' h => ?_,
    inferTexts_eq s⟩
  · rw [Inference.feedAll_eq]
  · rw [Inference.feedAll_eq]
  · rw [Inference.feedAll_eq]
    rfl
  · rw [Inference.feedAll_eq]
    exact Inference.documents_observeValues _
  · rw [Inference.feedAll_eq, Inference.feedAll_eq]
    exact Inference.observeValues_of_samples h

/-- A malformed text and a list, then what another run is given as one list. -/
theorem front_ends_agree_malformed :
    Inference.feed {} {} (.text "a" "[") = (some ⟨"a", ⟨.endInList, .after (Json.toUtf8 "[")⟩⟩, {}) ∧
      (Inference.feedAll {} {} [.text "a" "[", .value (.array [.bool true, .null]), .value .null]).2 =
        (Inference.feedAll {} {} [.value (.array [.bool true, .null, .null])]).2 := by
  obtain ⟨hanswer, _, _, _, _, hgroups, _⟩ :=
    front_ends_agree {} [.value (.array [.bool true, .null, .null])]
  have hfault : (Feed.text "a" "[").fault? =
      some ⟨"a", ⟨.endInList, .after (Json.toUtf8 "[")⟩⟩ := by decide +kernel
  refine ⟨hanswer {} _ _ hfault, hgroups _ ?_⟩
  rw [Feed.documents_cons_of_fault hfault]
  rfl

end Specimen
