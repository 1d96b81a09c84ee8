import GraphSchema.Logging.Logger
import GraphSchema.Proofs.Schema.Outcome

/-! How far settings reach into generation: they decide whether it is refused and what is reported,
and never what is printed. What is reported is in the log before any text is made. -/
namespace GraphSchema

/-- The records at the level of warnings that events leave. -/
def warningRecords (elapsed : String) (events : List Event) : List Record :=
  (events.map (Event.record elapsed)).filter (·.level = .warning)

section Records
variable {elapsed : String}

theorem warningRecords_append (es fs : List Event) :
    warningRecords elapsed (es ++ fs) = warningRecords elapsed es ++ warningRecords elapsed fs := by
  rw [warningRecords, List.map_append, List.filter_append]
  rfl

theorem warningRecords_eq_nil {es : List Event} (h : ∀ e ∈ es, e.level ≠ .warning) :
    warningRecords elapsed es = [] := by
  rw [warningRecords, List.filter_eq_nil_iff]
  intro r hr
  obtain ⟨e, he, rfl⟩ := List.mem_map.mp hr
  rw [decide_eq_true_eq]
  exact h e he

theorem warningRecords_warned (texts : List String) :
    warningRecords elapsed (texts.map .warned) =
      texts.map fun text => ⟨.warning, Event.generationSource, text⟩ := by
  induction texts with
  | nil => rfl
  | cons text texts ih => exact congrArg _ ih

/-- Making text warns of nothing. -/
theorem warningRecords_render (p : Provider) (links : List Link) (outgoing : Outgoing) :
    warningRecords elapsed (render p links outgoing).events = [] := by
  apply warningRecords_eq_nil
  unfold render
  split
  next => exact fun e he => absurd he List.not_mem_nil
  next nodeTexts _ =>
    split
    next =>
      refine List.forall_mem_singleton.mpr ?_
      simp [Event.level]
    next edgeTexts _ => simp [Event.level]

end Records

namespace Store
variable {s : Store} {d : Diagnosis} {j : Journal Generated} {g : Generated} {e : GenerationError}

def started (s : Store) : Event := .generationStarted s.allNodes.length s.allEdges.length

/-- How generation goes: it stops at an endpoint that is missing or at the collisions, or else it
reports its warnings and only then makes text. -/
inductive Goes (s : Store) (d : Diagnosis) : Journal Generated → Prop where
  | missing {g : Gap} (found : s.firstGap? = some g) : Goes s d ⟨[s.started], .error g.error⟩
  | collisions (whole : s.firstGap? = none) (policy : d.collisions = .error)
      (found : s.collisions ≠ []) : Goes s d ⟨[s.started], .error (.collisions s.collisions)⟩
  | rendered (whole : s.firstGap? = none) (allowed : d.collisions = .error → s.collisions = []) :
      Goes s d {
        events := s.started :: (s.warnings d).map .warned ++
          (render s.provider s.links s.outgoing).events
        outcome := (render s.provider s.links s.outgoing).outcome.map fun document =>
          ⟨document, s.allNodes.length, s.allEdges.length, s.warnings d⟩ }

theorem goes_generate (s : Store) (d : Diagnosis) : s.Goes d (d.generate s.provider) := by
  unfold Diagnosis.generate
  rw [plan_eq]
  cases hg : s.firstGap? with
  | some g => exact .missing hg
  | none =>
    by_cases hc : d.collisions = .error ∧ s.collisions ≠ []
    · simp only [if_pos hc]
      exact .collisions hg hc.1 hc.2
    · simp only [if_neg hc]
      exact .rendered hg fun policy => not_not.mp fun found => hc ⟨policy, found⟩

/-- Where a document is made, the settings are left in the warnings alone. -/
theorem Goes.of_ok (h : s.Goes d j) (hg : j.outcome = .ok g) :
    s.firstGap? = none ∧ (d.collisions = .error → s.collisions = []) ∧
      (render s.provider s.links s.outgoing).outcome = .ok g.document ∧
      g = ⟨g.document, s.allNodes.length, s.allEdges.length, s.warnings d⟩ := by
  cases h with
  | missing found => simp at hg
  | collisions whole policy found => simp at hg
  | rendered whole allowed =>
    obtain ⟨document, hdocument, rfl⟩ := map_eq_ok.mp hg
    exact ⟨whole, allowed, hdocument, rfl⟩

/-- Text is made in two cases only: a document comes of it or a property stops it. -/
theorem Goes.events_of_rendered (h : s.Goes d j)
    (hj : (∃ g, j.outcome = .ok g) ∨ ∃ e, j.outcome = .error (.field e)) :
    j.events = s.started :: (s.warnings d).map .warned ++
      (render s.provider s.links s.outgoing).events := by
  cases h with
  | missing found => simp [Gap.error] at hj
  | collisions whole policy found => simp at hj
  | rendered whole allowed => rfl

theorem Goes.events_of_stopped (h : s.Goes d j) (he : j.outcome = .error e)
    (hstopped : ∀ x, e ≠ .field x) : j.events = [s.started] := by
  cases h with
  | missing found => rfl
  | collisions whole policy found => rfl
  | rendered whole allowed =>
    dsimp only at he
    rw [render_eq whole] at he
    cases hx : firstFault? s.properties with
    | none => simp [hx, Except.map] at he
    | some x =>
      rw [hx] at he
      exact absurd (Except.error.inj he).symm (hstopped x)

/-- Under any two settings under which generation succeeds, the documents and the counts are the
same. The warnings are the collisions unless these are ignored, of which there are none where they
are forbidden, and then the names that are no identifiers if these are wanted. All of them, in this
order, and no others are recorded as warnings, in front of everything that making text records; so
it is where a property stops the making. Where an endpoint is missing or collisions are refused,
nothing is recorded as a warning. -/
theorem settings_reach (s : Store) (a : Settings) (elapsed : String) :
    let journal := a.diagnosis.generate s.provider
    let text := render s.provider s.links s.outgoing
    let collisions := namingCollisions s.allNodes s.links s.outgoing
    let warnings := (if a.collisionPolicy = .ignore then [] else collisions) ++
      if a.checkIdentifiers then invalidIdentifiers s.allNodes s.links else []
    (∀ (b : Settings) (g h : Generated), journal.outcome = .ok g →
      (b.diagnosis.generate s.provider).outcome = .ok h →
        g.document = h.document ∧ g.nodeCount = h.nodeCount ∧ g.edgeCount = h.edgeCount) ∧
    (∀ g, journal.outcome = .ok g →
      s.provider.resolveAll s.allEdges = .ok s.links ∧
        s.provider.outgoing s.links = .ok s.outgoing ∧ text.outcome = .ok g.document ∧
        g.warnings = warnings ∧ (a.collisionPolicy = .error → collisions = [])) ∧
    ((∃ g, journal.outcome = .ok g) ∨ (∃ x, journal.outcome = .error (.field x)) →
      journal.events = s.started :: warnings.map .warned ++ text.events ∧
        warningRecords elapsed journal.events =
          warnings.map (fun w => ⟨.warning, Event.generationSource, w⟩) ∧
        warningRecords elapsed text.events = []) ∧
    ∀ e, journal.outcome = .error e → (∀ x, e ≠ .field x) →
      warningRecords elapsed journal.events = [] := by
  intro journal text collisions warnings
  have hgoes : s.Goes a.diagnosis journal := s.goes_generate a.diagnosis
  have hstarted : warningRecords elapsed [s.started] = [] := rfl
  refine ⟨?_, ?_, ?_, ?_⟩
  · intro b g h hg hh
    obtain ⟨-, -, hdocument, hg⟩ := hgoes.of_ok hg
    obtain ⟨-, -, hsame, hh⟩ := (s.goes_generate b.diagnosis).of_ok hh
    have hdocuments : g.document = h.document := Except.ok.inj (hdocument.symm.trans hsame)
    rw [hg, hh]
    exact ⟨hdocuments, rfl, rfl⟩
  · intro g hg
    obtain ⟨whole, allowed, hdocument, hg⟩ := hgoes.of_ok hg
    have hlinks := resolveAll_of_firstGap? whole
    exact ⟨hlinks, outgoing_eq hlinks, hdocument, congrArg Generated.warnings hg, allowed⟩
  · intro hrendered
    have hevents := hgoes.events_of_rendered hrendered
    refine ⟨hevents, ?_, warningRecords_render ..⟩
    rw [hevents, ← List.singleton_append, warningRecords_append, warningRecords_append, hstarted,
      warningRecords_warned, warningRecords_render, List.nil_append, List.append_nil]
    rfl
  · intro e he hstopped
    rw [hgoes.events_of_stopped he hstopped, hstarted]

end Store
end GraphSchema
