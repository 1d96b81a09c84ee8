import GraphSchema.Proofs.CommandLine.Sessions
import GraphSchema.Proofs.Files.Replacement
import GraphSchema.Proofs.Graph.Contents

/-! The two streams of a command that generates. The output has the document, or the one line that
names its file, or nothing; all else that is told is told apart from it. The disk changes only where
the document goes. -/
namespace GraphSchema

/-- A file whose path is sound refuses a document without halves only when it cannot be written. -/
theorem FileTarget.cannotWrite_of_take {path : Path} {d : Disk} {document : String}
    {e : DeliveryError} (hsound : path.hasNull = false) (hwhole : Text.Whole document.toList)
    (h : (FileTarget.take ⟨path, .utf8⟩ d document).2 = .error e) :
    ∃ x, e = .cannotWrite path x := by
  obtain ⟨bytes, hfits⟩ : ∃ bytes, FileTarget.content ⟨path, .utf8⟩ document = .ok bytes :=
    Text.exists_utf8_line_iff.mpr hwhole
  have hcourse := FileTarget.take_course ⟨path, .utf8⟩ d document
  generalize FileTarget.take ⟨path, .utf8⟩ d document = r at hcourse h
  cases hcourse with
  | arrived => simp at h
  | closed => exact ⟨_, (Except.error.inj h).symm⟩
  | nullInPath escape => exact (escape.elim hsound hfits).elim
  | emptied escape => exact (escape.elim hsound hfits).elim

namespace CommandLine
variable {w : Surroundings} {settings : Settings} {level : Level} {o : GenerateOptions}

/-- The graph is loaded and its document is generated. -/
def Made (w : Surroundings) (settings : Settings) (o : GenerateOptions) (g : Generated) : Prop :=
  ∃ store, loadGraph w.disk (Path.ofString o.graph) o.strict = .ok store ∧
    ((Session.diagnosisOf settings o).generate store.provider).outcome = .ok g

/-- A failure of one of the three steps. -/
inductive Stops (w : Surroundings) (settings : Settings) (o : GenerateOptions) : Failure → Prop
  | load {f : Failure} (load : loadGraph w.disk (Path.ofString o.graph) o.strict = .error f) :
    Stops w settings o f
  | generation {store : Store} {e : GenerationError}
      (load : loadGraph w.disk (Path.ofString o.graph) o.strict = .ok store)
      (generation : ((Session.diagnosisOf settings o).generate store.provider).outcome =
        .error e) : Stops w settings o (.run (.generation e))
  | delivery {g : Generated} {e : DeliveryError} (made : Made w settings o g)
      (delivery : (handing w.disk g (Session.outputOf settings o)).2 = .error e) :
    Stops w settings o (.run (.delivery e))

section Makings
variable {g : Generated} {f : Failure}

theorem outcome_of_made (h : Made w settings o g) :
    (Making.of w.disk settings o).outcome = .ok g := by
  obtain ⟨store, hload, hgen⟩ := h
  rw [Making.outcome_of_loaded settings hload, hgen]
  rfl

theorem made_of_outcome (h : (Making.of w.disk settings o).outcome = .ok g) :
    Made w settings o g := by
  cases hload : loadGraph w.disk (Path.ofString o.graph) o.strict with
  | error f => simp [Making.of_unloaded settings hload] at h
  | ok store =>
    rw [Making.outcome_of_loaded settings hload] at h
    refine ⟨store, hload, ?_⟩
    cases hgen : ((Session.diagnosisOf settings o).generate store.provider).outcome with
    | error e => simp [hgen, Except.mapError] at h
    | ok g' =>
      rw [hgen] at h
      exact congrArg Except.ok (Except.ok.inj h)

theorem stops_of_outcome (h : (Making.of w.disk settings o).outcome = .error f) :
    Stops w settings o f := by
  cases hload : loadGraph w.disk (Path.ofString o.graph) o.strict with
  | error x =>
    rw [Making.of_unloaded settings hload] at h
    obtain rfl := Except.error.inj h
    exact .load hload
  | ok store =>
    rw [Making.outcome_of_loaded settings hload] at h
    cases hgen : ((Session.diagnosisOf settings o).generate store.provider).outcome with
    | error e =>
      rw [hgen] at h
      obtain rfl := Except.error.inj h
      exact .generation hload hgen
    | ok g => simp [hgen, Except.mapError] at h

/-- No text that the graph file has holds a half. -/
def WholeGraph (w : Surroundings) (o : GenerateOptions) : Prop :=
  ∀ v, w.disk.readGraph (Path.ofString o.graph) = .ok v → v.All Value.Whole

theorem Made.whole (h : Made w settings o g) (hwhole : WholeGraph w o) :
    Text.Whole g.document.toList := by
  obtain ⟨store, hload, hgen⟩ := h
  obtain ⟨v, hread, hload⟩ := exists_of_loadGraph hload
  have hgap := Store.linked_iff.mp (Store.linked_of_generate hgen).1
  have hedges := Provider.resolveAll_edges (Store.resolveAll_of_firstGap? hgap)
  rw [(Store.generate_outline hgen).2.2]
  exact (Store.whole_text_iff (Store.valid_of_document hload) hedges).mpr
    (Store.whole_of_document (hwhole v hread) hload)

theorem Stops.isExpected (h : Stops w settings o f)
    (hload : ∀ x, loadGraph w.disk (Path.ofString o.graph) o.strict = .error x → Documented x)
    (hsound : ∀ path, Session.outputOf settings o = some path →
      (Path.ofString path).hasNull = false) (hwhole : WholeGraph w o) :
    f.isExpected = true ∨ ∃ limit, f = .run (.generation (.field (.beyond limit))) := by
  cases h with
  | load load => exact .inl (hload _ load).isExpected
  | @generation _ e =>
    cases e with
    | field e =>
      cases e with
      | unsupported => exact .inl rfl
      | beyond limit => exact .inr ⟨limit, rfl⟩
    | _ => exact .inl rfl
  | delivery made delivery =>
    have hdocument := made.whole hwhole
    cases houtput : Session.outputOf settings o with
    | none =>
      rw [houtput, handing_none.mpr hdocument] at delivery
      simp at delivery
    | some path =>
      simp only [houtput, handing] at delivery
      obtain ⟨x, rfl⟩ := FileTarget.cannotWrite_of_take (hsound path houtput) hdocument delivery
      exact .inl rfl

end Makings

/-- The streams of a command that generates are kept apart. The output has what is shown of a
document that has arrived, and nothing in all other cases; the log, the warnings and the failure are
told on the other stream; and the disk is changed by no more than the delivery of a document. A file
that loads as documented, with no halves in it, breaks the run only by a value that cannot be written.
-/
structure Clean (w : Surroundings) (settings : Settings) (level : Level) (o : GenerateOptions)
    (r : Outcome) : Prop where
  zero : r.exit = .code 0 ↔ ∃ g, Made w settings o g ∧
    (handing w.disk g (Session.outputOf settings o)).2 = .ok ()
  coded : (∀ f, loadGraph w.disk (Path.ofString o.graph) o.strict = .error f → Documented f) →
    (∀ path, Session.outputOf settings o = some path → (Path.ofString path).hasNull = false) →
    WholeGraph w o → r.exit = .code 0 ∨ r.exit = .code 1 ∨
      ∃ limit, r.exit = .broken (.run (.generation (.field (.beyond limit))))
  done : r.exit = .code 0 → ∃ g, Made w settings o g ∧
    r.out = shown g (Session.outputOf settings o) ∧
    r.disk = (handing w.disk g (Session.outputOf settings o)).1 ∧
    r.err = told w level ((Making.of w.disk settings o).events ++
      [.delivered (targetOf (Session.outputOf settings o)).name]) ++ warningLines g
  silent : r.exit ≠ .code 0 → r.out = ""
  failed : r.exit = .code 1 → ∃ f, Stops w settings o f ∧
    r.err = told w level (Making.of w.disk settings o).events ++
      ("❌ Error: " ++ f.message ++ "\n")
  broken : ∀ f, r.exit = .broken f →
    Stops w settings o f ∧ r.err = told w level (Making.of w.disk settings o).events
  untouched : (∀ g, ¬Made w settings o g) → r.disk = w.disk

variable {r : Outcome}

/-- A command that one of its steps stops keeps its streams apart. -/
theorem clean_halted {f : Failure} {disk : Disk} (hstops : Stops w settings o f)
    (hunfit : ∀ g, Made w settings o g →
      (handing w.disk g (Session.outputOf settings o)).2 ≠ .ok ())
    (hdisk : (∀ g, ¬Made w settings o g) → disk = w.disk) :
    Clean w settings level o
      (halted disk (told w level (Making.of w.disk settings o).events) f) where
  zero := ⟨fun h => absurd h (halted_exit _ _ _), fun ⟨g, hmade, harrives⟩ =>
    absurd harrives (hunfit g hmade)⟩
  coded := by
    intro hload hsound hwhole
    rcases hstops.isExpected hload hsound hwhole with hexpected | ⟨limit, rfl⟩
    · exact .inr (.inl (halted_expected hexpected))
    · exact .inr (.inr ⟨limit, rfl⟩)
  done := fun h => absurd h (halted_exit _ _ _)
  silent := fun _ => halted_out ..
  failed := fun h => ⟨f, hstops, halted_err h⟩
  broken := by
    intro x hx
    obtain ⟨rfl, herr⟩ := halted_broken hx
    exact ⟨hstops, herr⟩
  untouched := fun h => (halted_disk ..).trans (hdisk h)

theorem Course.clean (h : Course w settings level o r) : Clean w settings level o r := by
  cases h with
  | unmade making =>
    refine clean_halted (stops_of_outcome making) (fun g hmade => ?_) fun _ => rfl
    simp [outcome_of_made hmade] at making
  | undelivered making delivery =>
    have hmade := made_of_outcome making
    refine clean_halted (.delivery hmade (by rw [delivery])) (fun g' hmade' => ?_) fun h => ?_
    · obtain rfl := Except.ok.inj (making.symm.trans (outcome_of_made hmade'))
      simp [delivery]
    · exact absurd hmade (h _)
  | finished making delivery =>
    have hmade := made_of_outcome making
    have harrives : (handing w.disk _ (Session.outputOf settings o)).2 = .ok () :=
      congrArg Prod.snd delivery
    have hdisk := (congrArg Prod.fst delivery).symm
    constructor
    case zero => exact ⟨fun _ => ⟨_, hmade, harrives⟩, fun _ => rfl⟩
    case coded => exact fun _ _ _ => .inl rfl
    case done => exact fun _ => ⟨_, hmade, rfl, hdisk, rfl⟩
    case silent => exact fun h => absurd rfl h
    case failed => exact fun h => absurd h (by simp)
    case broken => exact fun _ h => absurd h (by simp)
    case untouched => exact fun h => absurd hmade (h _)

/-- With valid settings and no log file, every command that generates keeps its streams apart. -/
theorem run_clean {arguments : List String}
    (hvalid : (Settings.load [] w.environment w.disk).outcome = .ok settings)
    (hlog : settings.logFile = none) (hrequest : Request.ofArguments arguments = .generate o) :
    ∃ level : Level, level.name = settings.effectiveLevel ∧
      Clean w settings level o (run w arguments) := by
  obtain ⟨level, hlevel⟩ := Level.exists_of_known (Settings.level_known hvalid)
  exact ⟨level, hlevel, (run_course hvalid hlog hlevel hrequest).clean⟩

/-- A node whose label begins with a digit, so that its names are no identifiers. -/
def sodaText : String := "\x7b\"nodes\":[\x7b\"id\":\"p\",\"label\":\"7up\"\x7d]\x7d"

def soda : Value :=
  .object [("nodes", .list [.object [("id", .text "p"), ("label", .text "7up")]])]

def sodaStore : Store where
  nodes := [("p", { id := "p", label := "7up" })]

def sodaBytes : Text.Bytes := sodaText.toList.map fun c => c.toNat.toUInt8

/-- The environment asks for the full log and names the file to write. -/
def verboseDesk : Surroundings where
  environment := [("GRAPH_DESIGNER_LOG_LEVEL", "debug"),
    ("GRAPH_DESIGNER_DEFAULT_OUTPUT_FILE", "out/s.graphql")]
  disk := { entries := [(["g.json"], .file sodaBytes)] }

def verboseSettings : Settings where
  logLevel := "DEBUG"
  defaultOutputFile := some (Path.ofString "out/s.graphql")

def verboseOptions : GenerateOptions where
  graph := "g.json"
  strict := true

theorem read_soda : Json.read sodaText.toList = .ok soda := by decide +kernel

theorem readGraph_soda : verboseDesk.disk.readGraph (Path.ofString "g.json") = .ok soda :=
  readGraph_ascii Session.sound_path rfl (by decide) read_soda

theorem whole_soda : WholeGraph verboseDesk verboseOptions := by
  intro v hv
  obtain rfl := Except.ok.inj (readGraph_soda.symm.trans hv)
  exact (by decide : ∀ w ∈ soda.inner, w.Whole)

theorem made_soda : ∃ g, Made verboseDesk verboseSettings verboseOptions g ∧
    g.warnings = sodaStore.warnings (Session.diagnosisOf verboseSettings verboseOptions) := by
  have hload : loadGraph verboseDesk.disk (Path.ofString "g.json") true = .ok sodaStore := by
    rw [loadGraph_of_read readGraph_soda]
    rfl
  have hends : sodaStore.Ends (Session.diagnosisOf verboseSettings verboseOptions) (.ok _) :=
    .generated (fun _ he => absurd he List.not_mem_nil) (fun h => CollisionPolicy.noConfusion h)
      fun _ hp => absurd hp List.not_mem_nil
  exact ⟨_, ⟨sodaStore, hload, hends.eq_generate⟩, rfl⟩

/-- The document goes to its file, the log and two warnings go to the other stream. -/
theorem run_clean_verbose :
    (Settings.load [] verboseDesk.environment verboseDesk.disk).outcome = .ok verboseSettings ∧
      (∃ g, Made verboseDesk verboseSettings verboseOptions g ∧ g.warnings.length = 2 ∧
        (handing verboseDesk.disk g (Session.outputOf verboseSettings verboseOptions)).2 = .ok ()) ∧
      ∃ level : Level, level.name = verboseSettings.effectiveLevel ∧
        Clean verboseDesk verboseSettings level verboseOptions
          (run verboseDesk ["generate", "--strict", "g.json"]) := by
  have hvalid : (Settings.load [] verboseDesk.environment verboseDesk.disk).outcome =
      .ok verboseSettings := by decide +kernel
  have hrequest : Request.ofArguments ["generate", "--strict", "g.json"] =
      .generate verboseOptions := rfl
  have hopens : FileTarget.Opens ⟨Path.ofString "out/s.graphql", .utf8⟩ verboseDesk.disk :=
    ⟨_, _, rfl, rfl⟩
  obtain ⟨g, hmade, hwarnings⟩ := made_soda
  obtain ⟨bytes, hbytes⟩ := Text.exists_utf8_line_iff.mpr (hmade.whole whole_soda)
  refine ⟨hvalid, ⟨g, hmade, ?_, FileTarget.take_of_opens (by decide) hopens hbytes⟩,
    run_clean hvalid rfl hrequest⟩
  rw [hwarnings]
  decide +kernel

end CommandLine
end GraphSchema
