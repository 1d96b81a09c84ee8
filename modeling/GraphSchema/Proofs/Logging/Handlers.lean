import GraphSchema.Logging.Logger
import GraphSchema.Proofs.Files.Changes

/-! What a set-up of the logger leaves: a configuration as a whole, or the logger as it was. Once the
handlers have been installed, every later set-up, whether it is skipped, fails or is carried out,
leaves one console and at most one file, with one level and one layout. -/
namespace GraphSchema

/-- A set-up that is asked for, with the settings and the disk that it meets. Where no settings can be
loaded, nothing is set up, so there is no call. -/
structure Call where
  settings : Settings := {}
  request : SetUp := {}
  disk : Disk := {}

/-- What a logger can be set up to: a level, a file besides the console, and the layout of lines. -/
structure Configuration where
  level : Nat
  file? : Option Path
  stamped : Bool
  deriving DecidableEq, Repr

def Configuration.handlers (k : Configuration) : List Handler :=
  ⟨.console, k.level, k.stamped⟩ :: (k.file?.map fun path => ⟨.file path, k.level, k.stamped⟩).toList

/-- A call gets to the handlers if it is not skipped and its level is one. -/
structure Call.Installs (c : Call) (l : Logger) : Prop where
  new : c.request ∉ l.remembered
  leveled : ∃ level, Level.ofName (c.request.levelName c.settings) = .ok level

namespace Logger
variable {l : Logger} {k k' : Configuration} {c : Call}

/-- The logger after a call, also one that fails. -/
def after (l : Logger) (c : Call) : Logger := (l.setUp c.settings c.request c.disk).1

/-- The logger after calls, the latest of which stands first. -/
def afterAll (l : Logger) : List Call → Logger
  | [] => l
  | c :: earlier => (l.afterAll earlier).after c

/-- The level and the handlers are those of a configuration. -/
structure Has (l : Logger) (k : Configuration) : Prop where
  level : l.level = k.level
  handlers : l.handlers = k.handlers

instance (l : Logger) (k : Configuration) : Decidable (l.Has k) :=
  decidable_of_iff (l.level = k.level ∧ l.handlers = k.handlers)
    ⟨fun h => ⟨h.1, h.2⟩, fun h => ⟨h.level, h.handlers⟩⟩

theorem Has.unique (h : l.Has k) (h' : l.Has k') : k = k' := by
  obtain ⟨level, file, stamped⟩ := k
  obtain ⟨level', file', stamped'⟩ := k'
  have hhandlers := h.handlers.symm.trans h'.handlers
  simp only [Configuration.handlers, List.cons.injEq, Handler.mk.injEq, true_and] at hhandlers
  obtain ⟨⟨rfl, rfl⟩, hfiles⟩ := hhandlers
  cases file <;> cases file' <;> simp_all

/-- One console and at most one file, all with the level of the logger and with one layout. -/
structure Uniform (l : Logger) : Prop where
  console : l.handlers.countP (·.outlet = .console) = 1
  file : l.handlers.countP (·.outlet ≠ .console) ≤ 1
  level : ∀ h ∈ l.handlers, h.level = l.level
  layout : ∀ h ∈ l.handlers, ∀ h' ∈ l.handlers,
    h.pattern = h'.pattern ∧ h.timePattern? = h'.timePattern?

theorem Has.uniform (h : l.Has k) : l.Uniform := by
  obtain ⟨level, file, stamped⟩ := k
  obtain ⟨hlevel, hhandlers⟩ := h
  cases file with
  | none => constructor <;> simp [hhandlers, hlevel, Configuration.handlers]
  | some path =>
    constructor <;> simp [hhandlers, hlevel, Configuration.handlers, Handler.pattern,
      Handler.timePattern?]

/-- The handlers are replaced as a whole: where the file cannot be opened, there is none. -/
theorem exists_has_replaceHandlers (l : Logger) (level : Nat) (stamped : Bool)
    (path? : Option Path) (d : Disk) :
    ∃ file?, (l.replaceHandlers level stamped path? d).1.Has ⟨level, file?, stamped⟩ := by
  unfold replaceHandlers
  cases path? with
  | none => exact ⟨none, rfl, rfl⟩
  | some path =>
    simp only
    split
    next => exact ⟨none, rfl, rfl⟩
    next full _ => exact ⟨some full, rfl, rfl⟩

/-- A call that gets to the handlers leaves a configuration. -/
theorem exists_has_after (h : c.Installs l) : ∃ k, (l.after c).Has k := by
  obtain ⟨level, hlevel⟩ := h.leveled
  obtain ⟨file?, hhas⟩ := exists_has_replaceHandlers l level c.request.isStamped
    (c.request.path? c.settings) c.disk
  have hnew : l.remembered.contains c.request = false := by simpa using h.new
  refine ⟨⟨level, file?, c.request.isStamped⟩, ?_⟩
  unfold after setUp
  simp only [hnew, hlevel, Bool.false_eq_true, if_false]
  split
  next hreplaced =>
    rw [hreplaced] at hhas
    exact hhas
  next hreplaced =>
    rw [hreplaced] at hhas
    exact ⟨hhas.level, hhas.handlers⟩

/-- Any other call leaves the level and the handlers as they were. -/
theorem untouched_of_after (h : ¬c.Installs l) :
    (l.after c).level = l.level ∧ (l.after c).handlers = l.handlers := by
  unfold after setUp
  split
  next => exact ⟨rfl, rfl⟩
  next hnew =>
    split
    next => exact ⟨rfl, rfl⟩
    next level hlevel => exact absurd ⟨by simpa using hnew, level, hlevel⟩ h

/-- What a logger has been set up to stays a configuration. -/
theorem Has.after (h : l.Has k) (c : Call) : ∃ k', (l.after c).Has k' := by
  by_cases hc : c.Installs l
  · exact exists_has_after hc
  · obtain ⟨hlevel, hhandlers⟩ := untouched_of_after hc
    exact ⟨k, hlevel.trans h.level, hhandlers.trans h.handlers⟩

theorem Has.afterAll (h : l.Has k) (calls : List Call) : ∃ k', (l.afterAll calls).Has k' := by
  induction calls with
  | nil => exact ⟨k, h⟩
  | cons c earlier ih =>
    obtain ⟨k', hk'⟩ := ih
    exact hk'.after c

theorem afterAll_append (l : Logger) (later earlier : List Call) :
    l.afterAll (later ++ earlier) = (l.afterAll earlier).afterAll later := by
  induction later with
  | nil => rfl
  | cons c later ih => exact congrArg (Logger.after · c) ih

/-- Once a call has got to the handlers, there is one console and at most one file after any calls,
skipped and failed ones included, and all handlers have the level of the logger and one layout. -/
theorem uniform_of_installs (l : Logger) {later earlier : List Call} {c : Call}
    (h : c.Installs (l.afterAll earlier)) : (l.afterAll (later ++ c :: earlier)).Uniform := by
  obtain ⟨k, hk⟩ := exists_has_after h
  obtain ⟨k', hk'⟩ := hk.afterAll later
  rw [afterAll_append]
  exact hk'.uniform

/-- A call, one with a directory for its file, which fails, and the first again, which is skipped. -/
theorem uniform_of_installs_debug :
    Call.Installs { request := { level := some (some "debug") } } (Logger.afterAll {} []) ∧
      (Logger.afterAll {} ([{ request := { level := some (some "debug") } },
        { request := { file := some (some "/") } }] ++
          { request := { level := some (some "debug") } } :: [])).Uniform := by
  have h : Call.Installs { request := { level := some (some "debug") } } (Logger.afterAll {} []) :=
    ⟨by decide, 10, by decide⟩
  exact ⟨h, uniform_of_installs {} h⟩

end Logger
end GraphSchema
