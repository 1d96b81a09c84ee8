import GraphSchema.Proofs.Logging.Handlers
import Mathlib.Data.List.Dedup

/-! Which set-up of the logger is in force. The arguments of the latest set-ups are remembered, and a
set-up with arguments that are remembered is skipped, whatever has been set up since. So the last call
is in force if its arguments are new or were used long ago; otherwise what was in force stays. -/
namespace GraphSchema

section Recent
variable {α : Type} [DecidableEq α] {a b : α} {since before : List α} {n : Nat}

/-- The members of a history, of which the latest stands first, each at its latest place. -/
def recent : List α → List α
  | [] => []
  | a :: before => a :: (recent before).erase a

theorem nodup_recent (history : List α) : (recent history).Nodup := by
  induction history with
  | nil => exact List.nodup_nil
  | cons a before ih => exact List.nodup_cons.mpr ⟨ih.not_mem_erase, ih.erase a⟩

theorem mem_recent {history : List α} : a ∈ recent history ↔ a ∈ history := by
  induction history with
  | nil => rfl
  | cons b before ih =>
    by_cases hab : a = b
    · simp [recent, hab]
    · simp [recent, hab, List.mem_erase_of_ne hab, ih]

theorem length_recent (history : List α) : (recent history).length = history.dedup.length := by
  refine ((List.perm_ext_iff_of_nodup (nodup_recent history) (List.nodup_dedup history)).mpr
    fun a => ?_).length_eq
  rw [mem_recent, List.mem_dedup]

/-- What has occurred since the last time of a member stands before it. -/
theorem exists_recent_append (h : a ∉ since) (before : List α) :
    ∃ rest, recent (since ++ a :: before) = recent since ++ a :: rest := by
  induction since with
  | nil => exact ⟨_, rfl⟩
  | cons b since ih =>
    obtain ⟨hab, hsince⟩ := not_or.mp (mt List.mem_cons.mpr h)
    obtain ⟨rest, hrest⟩ := ih hsince
    rw [List.cons_append, recent, hrest]
    by_cases hb : b ∈ recent since
    · exact ⟨rest, by rw [List.erase_append_left _ hb, recent, List.cons_append]⟩
    · refine ⟨rest.erase b, ?_⟩
      rw [List.erase_append_right _ hb, List.erase_cons_tail (by simpa using hab), recent,
        List.erase_of_not_mem hb, List.cons_append]

/-- The latest members are those that few others have followed. -/
theorem mem_take_recent {history : List α} : a ∈ (recent history).take n ↔
    ∃ since before, history = since ++ a :: before ∧ a ∉ since ∧ since.dedup.length < n := by
  -- cut at its latest place, a history has the member behind the distinct ones since
  have hplace : ∀ {since before}, a ∉ since → (a ∈ (recent (since ++ a :: before)).take n ↔
      since.dedup.length < n) := by
    intro since before hsince
    obtain ⟨rest, hrest⟩ := exists_recent_append hsince before
    have hbefore : a ∉ (recent since).take n := fun h =>
      hsince (mem_recent.mp (List.mem_of_mem_take h))
    rw [hrest, ← length_recent, List.take_append, List.mem_append, or_iff_right hbefore]
    cases h : n - (recent since).length with
    | zero =>
      simp only [List.take_zero, List.not_mem_nil, false_iff]
      omega
    | succ m =>
      simp only [List.take_succ_cons, List.mem_cons, true_or, true_iff]
      omega
  constructor
  · intro h
    obtain ⟨since, before, rfl, hsince⟩ :=
      List.eq_append_cons_of_mem (mem_recent.mp (List.mem_of_mem_take h))
    exact ⟨since, before, rfl, hsince, (hplace hsince).mp h⟩
  · rintro ⟨since, before, rfl, hsince, hfew⟩
    exact (hplace hsince).mpr hfew

/-- To have `n` members left after one is erased, it is enough to look at one more. -/
theorem take_erase (l : List α) (a : α) (n : Nat) :
    ((l.take (n + 1)).erase a).take n = (l.erase a).take n := by
  induction l generalizing n with
  | nil => rfl
  | cons b l ih =>
    rw [List.take_succ_cons]
    -- where the head is erased one member is given up, and else the head stays in front
    by_cases hba : b = a
    · subst hba
      rw [List.erase_cons_head, List.erase_cons_head, List.take_take, Nat.min_self]
    · have hbeq : ¬(b == a) = true := by simpa using hba
      rw [List.erase_cons_tail hbeq, List.erase_cons_tail hbeq]
      cases n with
      | zero => rfl
      | succ n => rw [List.take_succ_cons, List.take_succ_cons, ih]

/-- The latest members once there is another one. -/
theorem take_recent_cons (a : α) (history : List α) (hn : 0 < n) :
    (a :: ((recent history).take n).erase a).take n = (recent (a :: history)).take n := by
  obtain ⟨m, rfl⟩ := Nat.exists_eq_add_of_lt hn
  rw [Nat.zero_add, List.take_succ_cons, take_erase, recent, List.take_succ_cons]

end Recent

namespace Level

/-- The number of a name in any case, if it is the name of a level. -/
def number? (name : String) : Option Nat :=
  numbers.lookup (String.ofList (Text.upper name.toList))

theorem ofName_of_number? {name : String} {n : Nat} (h : number? name = some n) :
    ofName name = .ok n := by
  have hlayout : numbers.lookup "BASIC_FORMAT" = none := by decide
  have htable : numbers.lookup "_STYLES" = none := by decide
  unfold number? at h
  unfold ofName
  simp only
  split
  next hraised => simp [hraised, hlayout] at h
  next =>
    split
    next hraised => simp [hraised, htable] at h
    next => rw [h, Option.getD_some]

end Level

namespace Call

/-- The level is given by a name of one, and the file, if there is one, can be opened. -/
structure Sound (c : Call) : Prop where
  known : (Level.number? (c.request.levelName c.settings)).isSome = true
  openable : ∀ path, c.request.path? c.settings = some path →
    ∃ d full, Logger.openLog c.disk path = (d, .ok full)

/-- What the arguments ask for, completed from the settings. -/
def asked (c : Call) : Configuration where
  level := (Level.number? (c.request.levelName c.settings)).getD Level.info.severity
  file? := (c.request.path? c.settings).map fun path => Path.ofString (c.disk.absolute path)
  stamped := c.request.isStamped

/-- The arguments were used before, and fewer others than can be remembered have been used since. -/
def Recalled (c : Call) (earlier : List Call) : Prop :=
  ∃ since before, earlier.map (·.request) = since ++ c.request :: before ∧
    c.request ∉ since ∧ since.dedup.length < Logger.memory

end Call

/-- The call that is in force after calls, the latest of which stands first: the latest one that was
not skipped. -/
inductive InForce : List Call → Call → Prop
  | carriedOut {c : Call} {earlier : List Call} (new : ¬c.Recalled earlier) :
    InForce (c :: earlier) c
  | skipped {c x : Call} {earlier : List Call} (recalled : c.Recalled earlier)
      (before : InForce earlier x) : InForce (c :: earlier) x

theorem exists_inForce (c : Call) (earlier : List Call) : ∃ x, InForce (c :: earlier) x := by
  induction earlier generalizing c with
  | nil =>
    refine ⟨c, .carriedOut ?_⟩
    rintro ⟨since, before, h, -⟩
    simp at h
  | cons b earlier ih =>
    by_cases hc : c.Recalled (b :: earlier)
    · obtain ⟨x, hx⟩ := ih b
      exact ⟨x, .skipped hc hx⟩
    · exact ⟨c, .carriedOut hc⟩

namespace Logger
variable {l : Logger} {c x : Call} {calls : List Call}

theorem absolute_of_openLog {d d' : Disk} {path full : Path}
    (h : openLog d path = (d', .ok full)) : full = Path.ofString (d.absolute path) := by
  unfold openLog at h
  split at h
  next => simp at h
  next =>
    split at h
    next => simp at h
    next made hmade =>
      have hsame : made.absolute path = d.absolute path := by
        unfold Disk.absolute
        rw [(Disk.keepsFiles_of_ensureDirectory hmade).working]
      simp only [hsame] at h
      split at h
      next => simp at h
      next =>
        split at h
        next => simp at h
        next => exact (Except.ok.inj (Prod.mk.inj h).2).symm

/-- A call whose arguments are remembered is skipped. -/
theorem after_of_remembered (h : c.request ∈ l.remembered) : l.after c = l.remember c.request := by
  unfold after setUp
  rw [if_pos (List.contains_iff_mem.mpr h)]

/-- Any other call sets the logger up as it asks. -/
theorem after_of_new (hsound : c.Sound) (h : c.request ∉ l.remembered) :
    (l.after c).Has c.asked ∧ (l.after c).remembered = (l.remember c.request).remembered := by
  obtain ⟨level, hlevel⟩ := Option.isSome_iff_exists.mp hsound.known
  have hnew : l.remembered.contains c.request = false := by simpa using h
  unfold after setUp Call.asked
  simp only [hnew, Level.ofName_of_number? hlevel, hlevel, Bool.false_eq_true, if_false]
  cases hpath : c.request.path? c.settings with
  | none => exact ⟨⟨rfl, rfl⟩, rfl⟩
  | some path =>
    obtain ⟨d, full, hopen⟩ := hsound.openable path hpath
    simp only [replaceHandlers, hopen, absolute_of_openLog hopen]
    exact ⟨⟨rfl, rfl⟩, rfl⟩

/-- What is remembered are the latest arguments. -/
theorem remembered_afterAll (h : ∀ c ∈ calls, c.Sound) :
    (afterAll {} calls).remembered = (recent (calls.map (·.request))).take memory := by
  induction calls with
  | nil => rfl
  | cons c earlier ih =>
    obtain ⟨hsound, hearlier⟩ := List.forall_mem_cons.mp h
    have hstep : ((afterAll {} earlier).after c).remembered =
        ((afterAll {} earlier).remember c.request).remembered := by
      by_cases hc : c.request ∈ (afterAll {} earlier).remembered
      · rw [after_of_remembered hc]
      · exact (after_of_new hsound hc).2
    rw [afterAll, hstep, remember, ih hearlier, List.map_cons]
    exact take_recent_cons c.request _ (by decide)

theorem recalled_iff (h : ∀ x ∈ calls, x.Sound) :
    c.Recalled calls ↔ c.request ∈ (afterAll {} calls).remembered := by
  rw [remembered_afterAll h, mem_take_recent]
  rfl

theorem has_of_inForce (h : ∀ c ∈ calls, c.Sound) (hx : InForce calls x) :
    (afterAll {} calls).Has x.asked := by
  induction hx with
  | carriedOut new =>
    obtain ⟨hsound, hearlier⟩ := List.forall_mem_cons.mp h
    exact (after_of_new hsound (mt (recalled_iff hearlier).mpr new)).1
  | skipped recalled before ih =>
    obtain ⟨-, hearlier⟩ := List.forall_mem_cons.mp h
    have hhas := ih hearlier
    rw [afterAll, after_of_remembered ((recalled_iff hearlier).mp recalled)]
    exact ⟨hhas.level, hhas.handlers⟩

/-- After calls of known levels and with files that can be opened, the logger has the level, the file
and the layout of the latest call that was not skipped. They are what the last call asks for just if
its arguments have not been used before, or not for as many others as are remembered, or if what it
finds in force asks for the same. -/
theorem has_asked_iff (h : ∀ x ∈ c :: calls, x.Sound) :
    (∃ x, InForce (c :: calls) x ∧ (afterAll {} (c :: calls)).Has x.asked) ∧
      ((afterAll {} (c :: calls)).Has c.asked ↔
        ¬c.Recalled calls ∨ ∃ x, InForce calls x ∧ x.asked = c.asked) := by
  obtain ⟨x, hx⟩ := exists_inForce c calls
  have hhas := has_of_inForce h hx
  refine ⟨⟨x, hx, hhas⟩, fun hasked => ?_, ?_⟩
  · cases hx with
    | carriedOut new => exact .inl new
    | skipped _ before => exact .inr ⟨x, before, hhas.unique hasked⟩
  · rintro (hnew | ⟨y, hy, hsame⟩)
    · exact has_of_inForce h (.carriedOut hnew)
    · by_cases hc : c.Recalled calls
      · exact hsame ▸ has_of_inForce h (.skipped hc hy)
      · exact has_of_inForce h (.carriedOut hc)

end Logger

/-- A call that names a level and nothing else. -/
def Call.forLevel (name : String) : Call := { request := { level := some (some name) } }

theorem Call.sound_forLevel {name : String} (h : (Level.number? name).isSome = true)
    (hname : name ≠ "") : (forLevel name).Sound := by
  have hlevel : (forLevel name).request.levelName {} = name := by
    simp [forLevel, SetUp.levelName, nonempty, Option.filter, hname]
  have hpath : (forLevel name).request.path? {} = none := rfl
  refine ⟨?_, fun path hsome => ?_⟩
  · exact (congrArg (fun n => (Level.number? n).isSome) hlevel).trans h
  · exact absurd (hpath.symm.trans hsome) (by simp)

/-- Two levels, the latest first. -/
def twoLevels : List Call := [.forLevel "info", .forLevel "debug"]

theorem sound_twoLevels : ∀ x ∈ Call.forLevel "debug" :: twoLevels, x.Sound := by
  have hdebug : (Call.forLevel "debug").Sound := Call.sound_forLevel (by decide) (by decide)
  have hinfo : (Call.forLevel "info").Sound := Call.sound_forLevel (by decide) (by decide)
  simp [twoLevels, hdebug, hinfo]

namespace Logger

theorem has_asked_iff_debug :
    (∀ x ∈ Call.forLevel "debug" :: twoLevels, x.Sound) ∧
      (∃ x, InForce (.forLevel "debug" :: twoLevels) x ∧
        (afterAll {} (.forLevel "debug" :: twoLevels)).Has x.asked) ∧
      ((afterAll {} (.forLevel "debug" :: twoLevels)).Has (Call.forLevel "debug").asked ↔
        ¬(Call.forLevel "debug").Recalled twoLevels ∨
          ∃ x, InForce twoLevels x ∧ x.asked = (Call.forLevel "debug").asked) :=
  ⟨sound_twoLevels, has_asked_iff sound_twoLevels⟩

/-- The first level is asked for again, and the second stays. -/
theorem level_not_asked :
    (∀ x ∈ Call.forLevel "debug" :: twoLevels, x.Sound) ∧
      (Call.forLevel "debug").asked.level = 10 ∧
      (afterAll {} (.forLevel "debug" :: twoLevels)).level = 20 ∧
      ¬(afterAll {} (.forLevel "debug" :: twoLevels)).Has (Call.forLevel "debug").asked := by
  have hasked : (Call.forLevel "debug").asked.level = 10 := by decide
  have hlevel : (afterAll {} (.forLevel "debug" :: twoLevels)).level = 20 := by decide
  refine ⟨sound_twoLevels, hasked, hlevel, fun h => ?_⟩
  simpa [hasked, hlevel] using h.level

end Logger
end GraphSchema
