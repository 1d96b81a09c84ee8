import GraphSchema.Proofs.CommandLine.FileLoading
import GraphSchema.Proofs.Graph.Validity
import GraphSchema.Proofs.Schema.WholeText

/-! The course of a session whose settings are valid and name no log file. The log then goes to the
console and nowhere else, so that the output has what the commands say and the disk changes only
where a document is written. -/
namespace GraphSchema

namespace Settings
variable {fields : List (String × Value)} {s : Settings}

theorem known_of_checkLogLevel {v : Value} {level : String} (h : checkLogLevel v = .ok level) :
    level ∈ logLevels := by
  unfold checkLogLevel at h
  split at h
  next => simp at h
  next =>
    simp only at h
    split at h
    next hc =>
      obtain rfl := Except.ok.inj h
      exact List.contains_iff_mem.mp hc
    next => simp [Checked.fault] at h

theorem logLevel_known (h : check fields = .ok s) : s.logLevel ∈ logLevels := by
  obtain ⟨_, output, h₁, -, rfl⟩ := Checked.andAlso_eq_ok.mp h
  obtain ⟨_, identifiers, h₂, -, rfl⟩ := Checked.andAlso_eq_ok.mp h₁
  obtain ⟨_, policy, h₃, -, rfl⟩ := Checked.andAlso_eq_ok.mp h₂
  obtain ⟨_, file, h₄, -, rfl⟩ := Checked.andAlso_eq_ok.mp h₃
  obtain ⟨_, level, h₅, hlevel, rfl⟩ := Checked.andAlso_eq_ok.mp h₄
  obtain ⟨_, debug, h₆, -, rfl⟩ := Checked.andAlso_eq_ok.mp h₅
  obtain ⟨_, version, h₇, -, rfl⟩ := Checked.andAlso_eq_ok.mp h₆
  obtain ⟨_, name, h₈, -, rfl⟩ := Checked.andAlso_eq_ok.mp h₇
  obtain rfl := Except.ok.inj h₈
  have hstandard : ({} : Settings).logLevel ∈ logLevels := by decide
  exact FieldName.optional_elim hlevel hstandard known_of_checkLogLevel

theorem check_of_load {environment : Environment} {d : Disk}
    (h : (load [] environment d).outcome = .ok s) : ∃ fields, check fields = .ok s := by
  unfold load at h
  split at h
  next => simp at h
  next =>
    unfold ofSources Checked.refuseAs at h
    split at h
    next t ht => exact ⟨_, Except.ok.inj h ▸ ht⟩
    next => simp [Except.mapError] at h

theorem level_known {environment : Environment} {d : Disk}
    (h : (load [] environment d).outcome = .ok s) : s.effectiveLevel ∈ logLevels := by
  obtain ⟨_, hcheck⟩ := check_of_load h
  rw [effectiveLevel]
  split
  next => decide
  next => exact logLevel_known hcheck

end Settings

namespace Level

theorem exists_of_known {name : String} (h : name ∈ Settings.logLevels) :
    ∃ level : Level, level.name = name := by
  have hall : ∀ name ∈ Settings.logLevels,
      name ∈ [debug, info, warning, error, critical].map Level.name := by decide
  obtain ⟨level, -, hname⟩ := List.mem_map.mp (hall name h)
  exact ⟨level, hname⟩

theorem ofName_name (level : Level) : ofName level.name = .ok level.severity := by
  cases level <;> decide

theorem severity_pos (level : Level) : level.severity ≠ 0 := by
  cases level <;> decide

end Level

theorem Event.covers_source (e : Event) : Logger.covers e.source = true := by
  have hsource : e.source = storeSource ∨ e.source = generationSource := by
    cases e <;> simp [source]
  rcases hsource with h | h
  · rw [h]
    decide
  · rw [h]
    decide

namespace Logger

/-- The logger with the console for its only handler. -/
def console (level : Level) : Logger where
  level := level.severity
  handlers := [⟨.console, level.severity, true⟩]
  remembered := [{}]

theorem setUp_console {s : Settings} {level : Level} (hlog : s.logFile = none)
    (hlevel : level.name = s.effectiveLevel) (d : Disk) :
    Logger.setUp {} s {} d = (console level, d, .ok ()) := by
  have hname : Level.ofName (SetUp.levelName {} s) = .ok level.severity := by
    rw [← Level.ofName_name, hlevel]
    rfl
  have hpath : SetUp.path? {} s = none := hlog
  unfold Logger.setUp
  simp only [hname, hpath, replaceHandlers]
  rfl

end Logger

namespace CommandLine
variable {w : Surroundings} {settings : Settings} {level : Level} {v : Value} {store : Store}
  {d : Diagnosis} {path : Path} {strict : Bool}

/-- The lines that events leave on the console: those of the level and above. -/
def logged (w : Surroundings) (level : Level) (es : List Event) : String :=
  String.join ((es.filter fun e => level.severity ≤ e.level.severity).map fun e =>
    Handler.line ⟨.console, level.severity, true⟩ w.stamp (e.record w.elapsed))

@[simp] theorem logged_append (w : Surroundings) (level : Level) (es es' : List Event) :
    logged w level (es ++ es') = logged w level es ++ logged w level es' := by
  simp [logged, String.join_append]

theorem emit_console (w : Surroundings) (level : Level) (disk : Disk) (err : String) (e : Event) :
    (Logger.console level).emit w.stamp (disk, err) (e.record w.elapsed) =
      (disk, err ++ logged w level [e]) := by
  have hcovers : Logger.covers (e.record w.elapsed).source = true := e.covers_source
  have hthreshold : (Logger.console level).threshold = level.severity := if_neg level.severity_pos
  have hlevel : (e.record w.elapsed).level = e.level := rfl
  simp only [Logger.emit, hcovers, hthreshold, hlevel, if_true]
  by_cases h : level.severity ≤ e.level.severity
  · simp [Logger.console, Logger.handle, logged, h, Nat.not_lt.mpr h, hlevel]
  · simp [logged, h, Nat.not_le.mp h]

/-- What has been told when events are logged: complaints about the settings come first. -/
def told (w : Surroundings) (level : Level) (es : List Event) : String :=
  String.join (Settings.load [] w.environment w.disk).complaints ++ logged w level es

/-- The events of the load of a graph file. -/
def loadEvents (d : Disk) (path : Path) (strict : Bool) : List Event :=
  match d.readGraph path with
  | .error _ => []
  | .ok v => (Load.document strict 0 v).events

theorem loadGraph_of_read (hread : w.disk.readGraph path = .ok v) (strict : Bool) :
    loadGraph w.disk path strict = (Load.document strict 0 v).outcome.mapError .load := by
  rw [loadGraph, hread]

theorem exists_of_loadGraph (h : loadGraph w.disk path strict = .ok store) :
    ∃ v, w.disk.readGraph path = .ok v ∧ (Load.document strict 0 v).outcome = .ok store := by
  cases hread : w.disk.readGraph path with
  | error e => simp [loadGraph, hread] at h
  | ok v =>
    rw [loadGraph_of_read hread] at h
    cases hload : (Load.document strict 0 v).outcome with
    | error x => simp [hload, Except.mapError] at h
    | ok t =>
      rw [hload] at h
      obtain rfl := Except.ok.inj h
      exact ⟨v, rfl, hload⟩

namespace Session
variable {s : Session}

section Printing
variable {text : String} {texts : List String}

theorem print_whole (h : Text.Whole text.toList) : s.print text = (s.say text, .ok ()) := by
  obtain ⟨bytes, hbytes⟩ := Text.exists_utf8_iff.mpr h
  rw [print, hbytes]

theorem print_broken (h : ¬Text.Whole text.toList) : ∃ e, s.print text = (s, .error (.output e)) := by
  obtain ⟨e, he⟩ := Text.exists_utf8_error h
  exact ⟨e, by rw [print, he]⟩

theorem printAll_whole (h : WholeLines texts) :
    s.printAll texts = (s.say (String.join texts), .ok ()) := by
  induction texts generalizing s with
  | nil => simp [printAll, say]
  | cons text texts ih =>
    obtain ⟨htext, htexts⟩ := wholeLines_cons.mp h
    rw [printAll, print_whole htext]
    simp only [ih htexts, say, String.join_cons, String.append_assoc]

theorem printAll_broken (h : ¬WholeLines texts) :
    ∃ t e, s.printAll texts = (t, .error (.output e)) := by
  induction texts generalizing s with
  | nil => exact absurd wholeLines_nil h
  | cons text texts ih =>
    rw [printAll]
    by_cases htext : Text.Whole text.toList
    · rw [print_whole htext]
      exact ih fun htexts => h (wholeLines_cons.mpr ⟨htext, htexts⟩)
    · obtain ⟨e, he⟩ := print_broken (s := s) htext
      exact ⟨s, e, by rw [he]⟩

end Printing

theorem log_console (hlogger : s.logger = .console level) (es : List Event) :
    s.log w es = s.warn (logged w level es) := by
  induction es generalizing s with
  | nil => simp [log, warn, logged]
  | cons e es ih =>
    have hone : s.logOne w e = s.warn (logged w level [e]) := by
      have hemit := emit_console w level s.disk s.err e
      rw [← hlogger] at hemit
      simp only [logOne, hemit, warn]
    have hlogger' : (s.logOne w e).logger = .console level := by rw [hone]; exact hlogger
    have hcons : logged w level (e :: es) = logged w level [e] ++ logged w level es :=
      logged_append w level [e] es
    show (s.logOne w e).log w es = _
    rw [ih hlogger', hone, hcons]
    simp only [warn, String.append_assoc]

/-- The session in which a run has asked for its settings. -/
def settled (w : Surroundings) (settings : Settings) : Session where
  settings? := some settings
  disk := w.disk
  err := String.join (Settings.load [] w.environment w.disk).complaints

/-- The session in which the log has been set up and has had some events. -/
def listening (w : Surroundings) (settings : Settings) (level : Level) (es : List Event) :
    Session where
  settings? := some settings
  logger := .console level
  disk := w.disk
  err := told w level es

@[simp] theorem log_listening (es es' : List Event) :
    (listening w settings level es).log w es' = listening w settings level (es ++ es') := by
  rw [log_console rfl]
  simp only [warn, listening, told, logged_append, String.append_assoc]

theorem settle_start (h : (Settings.load [] w.environment w.disk).outcome = .ok settings) :
    settle w { disk := w.disk } = (settled w settings, .ok settings) := by
  simp only [settle, h]
  simp [warn, settled]

theorem settle_settled : (settled w settings).settle w = (settled w settings, .ok settings) := rfl

section Loads
variable (hsettle : s.settle w = (settled w settings, .ok settings)) (hdisk : s.disk = w.disk)
  (hlog : settings.logFile = none) (hlevel : level.name = settings.effectiveLevel)
include hsettle hdisk hlog hlevel

theorem load_object {fields : List (String × Value)}
    (hread : w.disk.readGraph path = .ok (.object fields)) (strict : Bool) :
    s.load w path strict = (listening w settings level (loadEvents w.disk path strict),
      loadGraph w.disk path strict) := by
  have hevents : loadEvents w.disk path strict =
      (Load.document strict 0 (.object fields)).events := by rw [loadEvents, hread]
  have hsetUp : (settled w settings).logger.setUp settings {} (settled w settings).disk =
      (.console level, w.disk, .ok ()) := Logger.setUp_console hlog hlevel w.disk
  have hbare : ({ settled w settings with logger := .console level, disk := w.disk } : Session) =
      listening w settings level [] := by
    simp [settled, listening, told, logged]
  rw [loadGraph_of_read hread, hevents]
  simp only [load, hdisk, hread, hsettle, hsetUp, hbare, log_listening, List.nil_append]

theorem load_ok (h : loadGraph w.disk path strict = .ok store) :
    s.load w path strict =
      (listening w settings level (loadEvents w.disk path strict), .ok store) := by
  cases hread : w.disk.readGraph path with
  | error e => simp [loadGraph, hread] at h
  | ok v =>
    cases v with
    | object fields => rw [load_object hsettle hdisk hlog hlevel hread, h]
    | _ =>
      rw [loadGraph_of_read hread] at h
      simp [Load.document, Load.outcome, Except.mapError] at h

end Loads

/-- A load that fails has told no more than its events. -/
theorem load_error {f : Failure} (hlog : settings.logFile = none)
    (hlevel : level.name = settings.effectiveLevel)
    (h : loadGraph w.disk path strict = .error f) :
    ∃ t : Session, t.out = "" ∧ t.disk = w.disk ∧
      t.err = told w level (loadEvents w.disk path strict) ∧
      (settled w settings).load w path strict = (t, .error f) := by
  have hquiet (hevents : loadEvents w.disk path strict = []) :
      (settled w settings).err = told w level (loadEvents w.disk path strict) := by
    simp [settled, told, logged, hevents]
  have hdisk : (settled w settings).disk = w.disk := rfl
  cases hread : w.disk.readGraph path with
  | error e =>
    have hf : f = .file e := by simpa [loadGraph, hread, eq_comm] using h
    have hevents : loadEvents w.disk path strict = [] := by rw [loadEvents, hread]
    refine ⟨settled w settings, rfl, rfl, hquiet hevents, ?_⟩
    simp only [load, hdisk, hread, hf]
  | ok v =>
    cases v with
    | object fields =>
      exact ⟨_, rfl, rfl, rfl, by rw [load_object settle_settled hdisk hlog hlevel hread, h]⟩
    | _ =>
      rw [loadGraph_of_read hread] at h
      have hevents : loadEvents w.disk path strict = [] := by rw [loadEvents, hread]; rfl
      refine ⟨settled w settings, rfl, rfl, hquiet hevents, ?_⟩
      simp only [load, hdisk, hread]
      rw [← Except.error.inj h]

end Session

/-- What a command has logged by the time it has a document or has failed to make one. -/
structure Making where
  events : List Event
  outcome : Except Failure Generated

/-- The load and the generation that a command asks for. -/
def Making.of (disk : Disk) (settings : Settings) (o : GenerateOptions) : Making :=
  let loading := loadEvents disk (Path.ofString o.graph) o.strict
  match loadGraph disk (Path.ofString o.graph) o.strict with
  | .error f => ⟨loading, .error f⟩
  | .ok store =>
    let journal := (Session.diagnosisOf settings o).generate store.provider
    ⟨loading ++ journal.events, journal.outcome.mapError fun e => .run (.generation e)⟩

namespace Making
variable {o : GenerateOptions} (settings)

theorem of_unloaded {f : Failure}
    (h : loadGraph w.disk (Path.ofString o.graph) o.strict = .error f) :
    Making.of w.disk settings o =
      ⟨loadEvents w.disk (Path.ofString o.graph) o.strict, .error f⟩ := by
  rw [Making.of, h]

variable (h : loadGraph w.disk (Path.ofString o.graph) o.strict = .ok store)
include h

theorem events_of_loaded : (Making.of w.disk settings o).events =
    loadEvents w.disk (Path.ofString o.graph) o.strict ++
      ((Session.diagnosisOf settings o).generate store.provider).events := by
  rw [Making.of, h]

theorem outcome_of_loaded : (Making.of w.disk settings o).outcome =
    ((Session.diagnosisOf settings o).generate store.provider).outcome.mapError
      fun e => .run (.generation e) := by
  rw [Making.of, h]

end Making

/-- The end of a command that has told something and then failed. -/
def halted (disk : Disk) (err : String) (f : Failure) : Outcome :=
  conclude (fun _ : Unit => 0) ({ disk, err }, .error f)

section Halts
variable (disk : Disk) (err : String) (f : Failure)

theorem halted_eq : halted disk err f =
    if f.isExpected then ⟨.code 1, "", err ++ ("❌ Error: " ++ f.message ++ "\n"), disk⟩
    else ⟨.broken f, "", err, disk⟩ := rfl

theorem halted_out : (halted disk err f).out = "" := by
  rw [halted_eq]
  split <;> rfl

theorem halted_disk : (halted disk err f).disk = disk := by
  rw [halted_eq]
  split <;> rfl

theorem halted_exit : (halted disk err f).exit ≠ .code 0 := by
  rw [halted_eq]
  split <;> simp

variable {disk err f}

theorem halted_expected (h : f.isExpected = true) : (halted disk err f).exit = .code 1 := by
  rw [halted_eq, if_pos h]

theorem halted_err (h : (halted disk err f).exit = .code 1) :
    (halted disk err f).err = err ++ ("❌ Error: " ++ f.message ++ "\n") := by
  rw [halted_eq] at h ⊢
  split at h
  next hf => rw [if_pos hf]
  next => simp at h

theorem halted_broken {x : Failure} (h : (halted disk err f).exit = .broken x) :
    x = f ∧ (halted disk err f).err = err := by
  rw [halted_eq] at h ⊢
  split at h
  next => simp at h
  next hf =>
    obtain rfl := Exit.broken.inj h
    rw [if_neg hf]
    exact ⟨rfl, rfl⟩

end Halts

def warningLines (g : Generated) : String := String.join (g.warnings.map Session.warningLine)

/-- Where a document goes. -/
def targetOf : Option String → Target
  | none => .stream {}
  | some path => .file ⟨Path.ofString path, .utf8⟩

/-- What becomes of the disk when a document is handed over, and whether the document arrives. -/
def handing (disk : Disk) (g : Generated) : Option String → Disk × Except DeliveryError Unit
  | none =>
    match Text.encode .utf8 (g.document ++ "\n").toList with
    | .error e => (disk, .error (.cannotEncode e))
    | .ok _ => (disk, .ok ())
  | some path => FileTarget.take ⟨Path.ofString path, .utf8⟩ disk g.document

theorem handing_none {disk : Disk} {g : Generated} :
    (handing disk g none).2 = .ok () ↔ Text.Whole g.document.toList := by
  rw [handing, ← Text.exists_utf8_line_iff]
  cases Text.encode .utf8 (g.document ++ "\n").toList <;> simp

/-- What is shown of a document that has arrived: itself, or where it is. -/
def shown (g : Generated) : Option String → String
  | none => g.document ++ "\n"
  | some path => Session.writtenLine g path

/-- The ways in which a command that generates can go. -/
inductive Course (w : Surroundings) (settings : Settings) (level : Level) (o : GenerateOptions) :
    Outcome → Prop
  | unmade {f : Failure} (making : (Making.of w.disk settings o).outcome = .error f) :
    Course w settings level o
      (halted w.disk (told w level (Making.of w.disk settings o).events) f)
  | undelivered {g : Generated} {disk : Disk} {e : DeliveryError}
      (making : (Making.of w.disk settings o).outcome = .ok g)
      (delivery : handing w.disk g (Session.outputOf settings o) = (disk, .error e)) :
    Course w settings level o
      (halted disk (told w level (Making.of w.disk settings o).events) (.run (.delivery e)))
  | finished {g : Generated} {disk : Disk}
      (making : (Making.of w.disk settings o).outcome = .ok g)
      (delivery : handing w.disk g (Session.outputOf settings o) = (disk, .ok ())) :
    Course w settings level o {
      exit := .code 0
      out := shown g (Session.outputOf settings o)
      err := told w level ((Making.of w.disk settings o).events ++
        [.delivered (targetOf (Session.outputOf settings o)).name]) ++ warningLines g
      disk }

section Courses
variable {arguments : List String} {o : GenerateOptions} {es : List Event}

theorem conclude_error {t : Session} (hout : t.out = "") (f : Failure) :
    conclude (fun _ : Unit => 0) (t, .error f) = halted t.disk t.err f := by
  simp [halted, conclude, Session.finish, Session.warn, hout]

/-- The last that a command tells of a document that has arrived. -/
theorem closing {t : Session} (hlogger : t.logger = .console level) (herr : t.err = told w level es)
    (target : String) (g : Generated) :
    (t.log w [.delivered target]).warn (warningLines g) =
      { t with err := told w level (es ++ [.delivered target]) ++ warningLines g } := by
  rw [Session.log_console hlogger]
  simp only [Session.warn, herr, told, logged_append, String.append_assoc]

theorem produce_error {e : GenerationError} (output : Option String)
    (hgen : (d.generate store.provider).outcome = .error e) :
    (Session.listening w settings level es).produce w store d output =
      (Session.listening w settings level (es ++ (d.generate store.provider).events),
        .error (.run (.generation e))) := by
  simp only [Session.produce, Session.log_listening, hgen]

theorem produce_ok {g : Generated} (output : Option String)
    (hgen : (d.generate store.provider).outcome = .ok g) :
    let events := es ++ (d.generate store.provider).events
    (Session.listening w settings level es).produce w store d output =
      match handing w.disk g output with
      | (disk, .error e) =>
        ({ Session.listening w settings level events with disk }, .error (.run (.delivery e)))
      | (disk, .ok ()) =>
        ({ Session.listening w settings level events with
          out := shown g output
          err := told w level (events ++ [.delivered (targetOf output).name]) ++ warningLines g
          disk }, .ok ()) := by
  simp only [Session.produce, Session.log_listening, hgen]
  cases output with
  | none =>
    have hout : ((Stream.mk "").take g.document).written = shown g none := by
      rw [Stream.take, String.empty_append, shown]
    simp only [Option.map_none, Session.hand, handing]
    cases Text.encode .utf8 (g.document ++ "\n").toList with
    | error e => rfl
    | ok _ =>
      simp only
      rw [← warningLines, closing rfl rfl]
      simp only [Session.listening, hout]
      rfl
  | some path =>
    simp only [Option.map_some, Session.hand, handing]
    cases hdelivery : FileTarget.take ⟨Path.ofString path, .utf8⟩ w.disk g.document with
    | mk disk delivery =>
      have htake (es : List Event) : FileTarget.take ⟨Path.ofString path, .utf8⟩
          (Session.listening w settings level es).disk g.document = (disk, delivery) := hdelivery
      cases delivery with
      | error e => simp only [htake]
      | ok _ =>
        simp only [htake]
        rw [← warningLines, closing rfl rfl]
        rfl

/-- Every command that generates goes in one of these ways. -/
theorem run_course (hvalid : (Settings.load [] w.environment w.disk).outcome = .ok settings)
    (hlog : settings.logFile = none) (hlevel : level.name = settings.effectiveLevel)
    (hrequest : Request.ofArguments arguments = .generate o) :
    Course w settings level o (run w arguments) := by
  have hrun : run w arguments =
      conclude (fun _ => 0) (Session.generate w { disk := w.disk } o) := by
    simp only [run, hrequest]
  rw [hrun, Session.generate, Session.settle_start hvalid]
  cases hload : loadGraph w.disk (Path.ofString o.graph) o.strict with
  | error f =>
    obtain ⟨t, hout, hdisk, herr, ht⟩ := Session.load_error hlog hlevel hload
    have hmaking := Making.of_unloaded settings hload
    have hevents : loadEvents w.disk (Path.ofString o.graph) o.strict =
        (Making.of w.disk settings o).events := by rw [hmaking]
    simp only [ht, conclude_error hout, hdisk, herr, hevents]
    exact .unmade (by rw [hmaking])
  | ok store =>
    have hmaking := Making.outcome_of_loaded settings hload
    have hevents := (Making.events_of_loaded settings hload).symm
    simp only [Session.load_ok Session.settle_settled rfl hlog hlevel hload]
    cases hgen : ((Session.diagnosisOf settings o).generate store.provider).outcome with
    | error e =>
      rw [hgen] at hmaking
      simp only [produce_error _ hgen, hevents]
      exact .unmade hmaking
    | ok g =>
      rw [hgen] at hmaking
      simp only [produce_ok _ hgen, hevents]
      cases hhanding : handing w.disk g (Session.outputOf settings o) with
      | mk disk delivery =>
        cases delivery with
        | error e => exact .undelivered hmaking hhanding
        | ok _ => exact .finished hmaking hhanding

namespace Course
variable {r : Outcome}

theorem of_unmade {f : Failure} (h : Course w settings level o r)
    (hmaking : (Making.of w.disk settings o).outcome = .error f) :
    r = halted w.disk (told w level (Making.of w.disk settings o).events) f := by
  cases h with
  | unmade making =>
    obtain rfl := Except.error.inj (making.symm.trans hmaking)
    rfl
  | undelivered making _ => simp [hmaking] at making
  | finished making _ => simp [hmaking] at making

/-- A document that arrives is shown. -/
theorem of_handing {g : Generated} (h : Course w settings level o r)
    (hmaking : (Making.of w.disk settings o).outcome = .ok g)
    (hhanding : (handing w.disk g (Session.outputOf settings o)).2 = .ok ()) :
    r.exit = .code 0 ∧ r.out = shown g (Session.outputOf settings o) := by
  cases h with
  | unmade making => simp [hmaking] at making
  | undelivered making delivery =>
    obtain rfl := Except.ok.inj (making.symm.trans hmaking)
    simp [delivery] at hhanding
  | finished making _ =>
    obtain rfl := Except.ok.inj (making.symm.trans hmaking)
    exact ⟨rfl, rfl⟩

/-- A document that does not arrive leaves no success behind. -/
theorem exit_of_not_handed {g : Generated} (h : Course w settings level o r)
    (hmaking : (Making.of w.disk settings o).outcome = .ok g)
    (hhanding : (handing w.disk g (Session.outputOf settings o)).2 ≠ .ok ()) :
    r.exit ≠ .code 0 := by
  cases h with
  | unmade => exact halted_exit _ _ _
  | undelivered => exact halted_exit _ _ _
  | finished making delivery =>
    obtain rfl := Except.ok.inj (making.symm.trans hmaking)
    exact absurd (congrArg Prod.snd delivery) hhanding

end Course
end Courses

/-- The settings are valid and name no log file, and the file of the graph holds this value. -/
structure Ready (w : Surroundings) (settings : Settings) (graph : String) (v : Value) : Prop where
  valid : (Settings.load [] w.environment w.disk).outcome = .ok settings
  log : settings.logFile = none
  file : w.disk.readGraph (Path.ofString graph) = .ok v

namespace Ready
variable {graph : String} {o : GenerateOptions} {arguments : List String}

theorem loaded (h : Ready w settings graph v)
    (hload : (Load.document strict 0 v).outcome = .ok store) :
    loadGraph w.disk (Path.ofString graph) strict = .ok store := by
  rw [loadGraph_of_read h.file, hload]
  rfl

theorem exists_level (h : Ready w settings graph v) :
    ∃ level : Level, level.name = settings.effectiveLevel :=
  Level.exists_of_known (Settings.level_known h.valid)

theorem exists_course (h : Ready w settings o.graph v)
    (hrequest : Request.ofArguments arguments = .generate o) :
    ∃ level, Course w settings level o (run w arguments) := by
  obtain ⟨level, hlevel⟩ := h.exists_level
  exact ⟨level, run_course h.valid h.log hlevel hrequest⟩

end Ready

section Runs
variable {arguments : List String} {graph : String} {o : GenerateOptions}

section Inspection
variable (h : Ready w settings graph v) (hrequest : Request.ofArguments arguments = .inspect graph)
  (hload : (Load.document false 0 v).outcome = .ok store)
include h hrequest hload

/-- An inspection prints its lines one after the other in a session that has been loaded. -/
theorem exists_inspection : ∃ s : Session, s.out = "" ∧
    run w arguments = conclude (fun fine => if fine then 0 else 1)
      (match s.printAll (Session.summary store) with
      | (s, .error f) => (s, .error f)
      | (s, .ok ()) => (s, .ok (Session.dangling store).isEmpty)) := by
  obtain ⟨level, hlevel⟩ := h.exists_level
  have hsession := Session.load_ok (s := { disk := w.disk }) (Session.settle_start h.valid) rfl
    h.log hlevel (h.loaded hload)
  refine ⟨Session.listening w settings level (loadEvents w.disk (Path.ofString graph) false), rfl, ?_⟩
  have hrun : run w arguments = conclude (fun fine => if fine then 0 else 1)
      (Session.inspect w { disk := w.disk } graph) := by
    simp only [run, hrequest]
  rw [Session.inspect, hsession] at hrun
  exact hrun

theorem run_inspect (hlines : WholeLines (Session.summary store)) :
    (run w arguments).exit = .code (if (Session.dangling store).isEmpty then 0 else 1) ∧
      (run w arguments).out = String.join (Session.summary store) := by
  obtain ⟨s, hout, hrun⟩ := exists_inspection h hrequest hload
  rw [hrun, Session.printAll_whole hlines]
  refine ⟨rfl, ?_⟩
  show s.out ++ _ = _
  rw [hout, String.empty_append]

theorem run_inspect_broken (hlines : ¬WholeLines (Session.summary store)) :
    ∃ e, (run w arguments).exit = .broken (.output e) := by
  obtain ⟨s, -, hrun⟩ := exists_inspection h hrequest hload
  obtain ⟨t, e, hprint⟩ := s.printAll_broken hlines
  rw [hrun, hprint]
  exact ⟨e, rfl⟩

/-- An inspection that ends with a code has shown every line. -/
theorem run_inspect_exit_iff {n : Nat} : (run w arguments).exit = .code n ↔
    WholeLines (Session.summary store) ∧
      n = if (Session.dangling store).isEmpty then 0 else 1 := by
  by_cases hlines : WholeLines (Session.summary store)
  · rw [(run_inspect h hrequest hload hlines).1, and_iff_right hlines, Exit.code.injEq, eq_comm]
  · obtain ⟨e, hexit⟩ := run_inspect_broken h hrequest hload hlines
    rw [hexit]
    exact iff_of_false Exit.noConfusion fun hwhole => hlines hwhole.1

end Inspection

/-- An error of the store, which a strict load may meet, is told in one line. -/
theorem run_generate_refused {x : StoreError} (h : Ready w settings o.graph v)
    (hrequest : Request.ofArguments arguments = .generate o)
    (hload : (Load.document o.strict 0 v).outcome = .error (.store x)) :
    (run w arguments).exit = .code 1 := by
  obtain ⟨level, hcourse⟩ := h.exists_course hrequest
  have hfailed : loadGraph w.disk (Path.ofString o.graph) o.strict = .error (.load (.store x)) := by
    rw [loadGraph_of_read h.file, hload]
    rfl
  rw [hcourse.of_unmade (by rw [Making.of_unloaded settings hfailed])]
  rfl

section Loaded
variable (h : Ready w settings o.graph v) (hrequest : Request.ofArguments arguments = .generate o)
  (hload : (Load.document o.strict 0 v).outcome = .ok store)
include h hrequest hload

theorem run_generate_ok {g : Generated} (hout : Session.outputOf settings o = none)
    (hgen : ((Session.diagnosisOf settings o).generate store.provider).outcome = .ok g)
    (hwhole : Text.Whole g.document.toList) :
    (run w arguments).exit = .code 0 ∧ (run w arguments).out = g.document ++ "\n" := by
  obtain ⟨level, hcourse⟩ := h.exists_course hrequest
  have hmaking := Making.outcome_of_loaded settings (h.loaded hload)
  rw [hgen] at hmaking
  have hshown := hcourse.of_handing hmaking (by rw [hout]; exact handing_none.mpr hwhole)
  rw [hout] at hshown
  exact hshown

/-- A document that the output cannot write breaks the run. -/
theorem run_generate_unwritten {g : Generated} (hout : Session.outputOf settings o = none)
    (hgen : ((Session.diagnosisOf settings o).generate store.provider).outcome = .ok g)
    (hwhole : ¬Text.Whole g.document.toList) : (run w arguments).exit ≠ .code 0 := by
  obtain ⟨level, hcourse⟩ := h.exists_course hrequest
  have hmaking := Making.outcome_of_loaded settings (h.loaded hload)
  rw [hgen] at hmaking
  refine hcourse.exit_of_not_handed hmaking ?_
  rw [hout]
  exact fun harrives => hwhole (handing_none.mp harrives)

theorem run_generate_error {x : GenerationError}
    (hgen : ((Session.diagnosisOf settings o).generate store.provider).outcome = .error x) :
    ∃ log, run w arguments = halted w.disk log (.run (.generation x)) := by
  obtain ⟨level, hcourse⟩ := h.exists_course hrequest
  have hmaking := Making.outcome_of_loaded settings (h.loaded hload)
  rw [hgen] at hmaking
  exact ⟨_, hcourse.of_unmade hmaking⟩

end Loaded
end Runs
end CommandLine
end GraphSchema
