import GraphSchema.CommandLine.Run
import GraphSchema.Proofs.Graph.Faults
import GraphSchema.Proofs.Graph.Loading
import GraphSchema.Proofs.Text.Whole

/-! How the load of a graph file fails. Most failures are told to the user in one line; the others
are a path with a null character, bytes that are not UTF-8, JSON beyond its limits, and nodes or
edges that are a number or a truth value. An integer that cannot be written would be another, but
none is read from a file. -/
namespace GraphSchema

/-- A value that counts but has no parts to go through, and what it is. -/
inductive Unlisted : Value → String → Prop
  | bool : Unlisted (.bool true) "bool"
  | int {n : Int} (nonzero : n ≠ 0) : Unlisted (.int n) "int"
  | float {x : Binary64} (nonzero : x.isZero = false) : Unlisted (.float x) "float"

namespace Load
variable {l : Load} {v : Value} {x : LoadError} {s : Store} {strict : Bool}

theorem parts_of_unlisted {kind : String} (h : Unlisted v kind) :
    parts v = .error (.notList kind) := by
  cases h with
  | bool => rfl
  | int nonzero => simp [parts, Value.counts, nonzero]
  | float nonzero => simp [parts, Value.counts, nonzero]

theorem unlisted_of_parts (h : parts v = .error x) :
    ∃ kind, Unlisted v kind ∧ x = .notList kind := by
  unfold parts at h
  split at h
  next => simp at h
  next hcounts =>
    split at h
    next => simp at h
    next => simp at h
    next => simp at h
    next b =>
      have hb : b = true := by simpa [Value.counts] using hcounts
      exact ⟨_, hb ▸ .bool, (Except.error.inj h).symm⟩
    next n =>
      have hn : n ≠ 0 := by simpa [Value.counts] using hcounts
      exact ⟨_, .int hn, (Except.error.inj h).symm⟩
    next a =>
      have ha : a.isZero = false := by simpa [Value.counts] using hcounts
      exact ⟨_, .float ha, (Except.error.inj h).symm⟩
    next => simp at h

/-- The characters of a text and the names of an object are texts. -/
theorem short_of_parts {vs : List Value} (h : parts v = .ok vs) (hv : v.All Value.Short) :
    ∀ w ∈ vs, w.All Value.Short := by
  rcases parts_cases h with rfl | htexts
  · exact (Value.all_list.mp hv).2
  · intro w hw
    obtain ⟨s, rfl⟩ := htexts w hw
    exact Value.all_of_plain rfl fun _ hn => by simp at hn

/-- What can be wrong with a single node or edge: the entity itself, or its place in the store. -/
inductive EntityError : LoadError → Prop
  | refused (r : Refusal) : EntityError (.refused r)
  | nodeExists (id : String) : EntityError (.store (.nodeExists id))
  | edgeExists (id : String) : EntityError (.store (.edgeExists id))
  | noNode (id : String) : EntityError (.store (.noNode id))

/-- A load that has stopped at an entity, if it has stopped at all. -/
def AtEntity (l : Load) : Prop := ∀ x, l.failure = some x → EntityError x

theorem atEntity_of_running (h : l.failure = none) : l.AtEntity := by
  intro x hx
  simp [h] at hx

theorem atEntity_fail (h : EntityError x) : (l.fail x).AtEntity := by
  rintro _ ⟨⟩
  exact h

theorem entityError_of_addNode {n : Node} {e : StoreError} (h : s.addNode n = .error e) :
    EntityError (.store e) := by
  unfold Store.addNode at h
  split at h
  next =>
    obtain rfl := Except.error.inj h
    exact .nodeExists _
  next => simp at h

theorem entityError_of_registerEdge {f : Edge} {e : StoreError} (h : s.registerEdge f = .error e) :
    EntityError (.store e) := by
  unfold Store.registerEdge at h
  split at h
  next =>
    obtain rfl := Except.error.inj h
    exact .edgeExists _
  next => simp at h

theorem entityError_of_insertEdge {f : Edge} {e : StoreError}
    (h : insertEdge strict s f = .error e) : EntityError (.store e) := by
  cases strict with
  | false => exact entityError_of_registerEdge h
  | true =>
    have hadd := s.addEdge_eq f
    cases hgap : s.gap? f with
    | none =>
      rw [hgap] at hadd
      exact entityError_of_registerEdge (hadd.symm.trans h)
    | some g =>
      rw [hgap] at hadd
      obtain rfl := Except.error.inj (hadd.symm.trans h)
      exact .noNode _

/-- Faults that are reported refuse the entity. -/
theorem atEntity_ofFaults {model : Model} {fs : List Fault} (h : Fault.breaksOff fs = false)
    (l : Load) : (l.fail (.ofFaults model fs)).AtEntity := by
  rw [LoadError.ofFaults, h]
  exact atEntity_fail (.refused _)

theorem AtEntity.takeNode (h : l.AtEntity) (hv : v.All Value.Short) : (l.takeNode v).AtEntity := by
  simp only [Load.takeNode]
  split
  next => exact h
  next hl =>
    have hrunning : l.failure = none := by simpa using hl
    split
    next hfs => exact atEntity_ofFaults (Node.reports_check hv _ hfs) _
    next =>
      split
      next he => exact atEntity_fail (entityError_of_addNode he)
      next => exact atEntity_of_running hrunning

theorem AtEntity.takeEdge (h : l.AtEntity) (hv : v.All Value.Short) :
    (l.takeEdge strict v).AtEntity := by
  simp only [Load.takeEdge]
  split
  next => exact h
  next hl =>
    have hrunning : l.failure = none := by simpa using hl
    split
    next hfs => exact atEntity_ofFaults (Edge.reports_check hv _ hfs) _
    next =>
      split
      next he => exact atEntity_fail (entityError_of_insertEdge he)
      next => exact atEntity_of_running hrunning

section All
variable {take : Load → Value → Load}
  (each : ∀ l v, v.All Value.Short → AtEntity l → AtEntity (take l v))
include each

theorem AtEntity.foldl {vs : List Value} (hvs : ∀ v ∈ vs, v.All Value.Short) (h : l.AtEntity) :
    (vs.foldl take l).AtEntity := by
  induction vs generalizing l with
  | nil => exact h
  | cons v vs ih =>
    obtain ⟨hv, hvs⟩ := List.forall_mem_cons.mp hvs
    exact ih hvs (each l v hv h)

/-- Where a list is missing a load stops at once; otherwise it stops at entities only. -/
theorem takeAll_cases (hl : l.failure = none) (hv : v.All Value.Short) :
    (∃ kind, Unlisted v kind ∧ takeAll take v l = l.fail (.notList kind)) ∨
      (∀ kind, ¬Unlisted v kind) ∧ (takeAll take v l).AtEntity := by
  cases hparts : parts v with
  | error x =>
    obtain ⟨kind, hkind, rfl⟩ := unlisted_of_parts hparts
    exact .inl ⟨kind, hkind, by simp [takeAll, hl, hparts]⟩
  | ok vs =>
    refine .inr ⟨fun kind hkind => ?_, ?_⟩
    · simp [parts_of_unlisted hkind] at hparts
    · rw [takeAll_parts hl hparts]
      exact AtEntity.foldl each (short_of_parts hparts hv) (atEntity_of_running hl)

end All

section Documents
variable {used : Nat} {fields : List (String × Value)} {kind : String}

/-- A document whose nodes are no list, or whose nodes would load but whose edges are no list. -/
inductive Stuck (used : Nat) (fields : List (String × Value)) : String → Prop
  | nodes {kind : String} (unlisted : Unlisted ((fields.lookup "nodes").getD .null) kind) :
    Stuck used fields kind
  | edges {kind : String} {s : Store}
      (nodes : (document false used
        (.object [("nodes", (fields.lookup "nodes").getD .null)])).outcome = .ok s)
      (unlisted : Unlisted ((fields.lookup "edges").getD .null) kind) : Stuck used fields kind

/-- The load of a document before its edges. -/
def withNodes (used : Nat) (fields : List (String × Value)) : Load :=
  takeAll takeNode ((fields.lookup "nodes").getD .null) { used }

theorem withNodes_running : (withNodes used fields).failure = none ↔ ∃ s, (document false used
    (.object [("nodes", (fields.lookup "nodes").getD .null)])).outcome = .ok s := by
  have hsame : withNodes used [("nodes", (fields.lookup "nodes").getD .null)] =
      withNodes used fields := rfl
  rw [document_outcome]
  show _ ↔ ∃ s, (takeAll (takeEdge false) .null
    (withNodes used [("nodes", (fields.lookup "nodes").getD .null)])).outcome = .ok s
  rw [hsame]
  cases h : (withNodes used fields).failure with
  | none =>
    rw [takeAll_parts h rfl, List.foldl_nil]
    simp [outcome, h]
  | some x => simp [takeAll, outcome, h]

theorem withNodes_cases (used : Nat) (hfields : (Value.object fields).All Value.Short) :
    (∃ kind, Unlisted ((fields.lookup "nodes").getD .null) kind ∧
      (withNodes used fields).failure = some (.notList kind)) ∨
      (∀ kind, ¬Unlisted ((fields.lookup "nodes").getD .null) kind) ∧
        (withNodes used fields).AtEntity := by
  have hstart : ({ used } : Load).failure = none := rfl
  have hnodes := hfields.of_lookup_getD "nodes" fun _ hn => by simp at hn
  rcases takeAll_cases (fun _ v hv h => h.takeNode hv) hstart hnodes with ⟨kind, hkind, h⟩ | h
  · exact .inl ⟨kind, hkind, congrArg failure h⟩
  · exact .inr h

theorem document_of_stuck (h : Stuck used fields kind) (strict : Bool) :
    (document strict used (.object fields)).outcome = .error (.notList kind) := by
  rw [document_outcome, ← withNodes]
  cases h with
  | nodes unlisted =>
    have hstop : (withNodes used fields).failure = some (.notList kind) := by
      simp [withNodes, takeAll, parts_of_unlisted unlisted, fail]
    simp [takeAll, outcome, hstop]
  | edges nodes unlisted =>
    have hrunning := withNodes_running.mpr ⟨_, nodes⟩
    simp [takeAll, outcome, hrunning, parts_of_unlisted unlisted, fail]

/-- A load of an object that is not stuck stops at an entity, if it stops. -/
theorem stuck_of_document (hfields : (Value.object fields).All Value.Short)
    (h : (document strict used (.object fields)).outcome = .error x) :
    EntityError x ∨ ∃ kind, Stuck used fields kind ∧ x = .notList kind := by
  rw [document_outcome, ← withNodes] at h
  rcases withNodes_cases used hfields with ⟨kind, hkind, hstop⟩ | ⟨-, hentity⟩
  · have hx : x = .notList kind := by
      simpa [takeAll, outcome, hstop, eq_comm] using h
    exact .inr ⟨kind, .nodes hkind, hx⟩
  · cases hl : (withNodes used fields).failure with
    | some y =>
      have hx : x = y := by simpa [takeAll, outcome, hl, eq_comm] using h
      exact .inl (hx ▸ hentity y hl)
    | none =>
      obtain ⟨s, hs⟩ := withNodes_running.mp hl
      have hedges := hfields.of_lookup_getD "edges" fun _ hn => by simp at hn
      rcases takeAll_cases (fun _ v hv h => h.takeEdge hv) hl hedges with
        ⟨kind, hkind, hstop⟩ | ⟨-, hentity⟩
      · rw [hstop] at h
        exact .inr ⟨kind, .edges hs hkind, (Except.error.inj h).symm⟩
      · refine .inl (hentity x ?_)
        unfold outcome at h
        split at h
        next y hy => rw [hy, Except.error.inj h]
        next => simp at h

end Documents
end Load

namespace CommandLine
open Load

/-- How the load of a graph file ends, as the disk has it. -/
def loadGraph (d : Disk) (path : Path) (strict : Bool) : Except Failure Store :=
  match d.readGraph path with
  | .error e => .error (.file e)
  | .ok v => (Load.document strict 0 v).outcome.mapError .load

/-- The failures of a load that are told in one line: the file cannot be read or holds no JSON, its
value is no object, or a node or an edge in it is at fault. -/
inductive Documented : Failure → Prop
  | cannotRead (path : Path) (error : DiskError) : Documented (.file (.cannotRead path error))
  | notJson (path : Path) (text : List Char) (fault : Json.Fault) (position : Nat) :
    Documented (.file (.notJson path text fault position))
  | notObject : Documented (.load .notObject)
  | entity {x : LoadError} (error : EntityError x) : Documented (.load x)

/-- The other failures of a load, each with what leads to it. -/
inductive Escape (d : Disk) (path : Path) : Failure → Prop
  | nullInPath (null : path.hasNull = true) : Escape d path (.file .nullInPath)
  | undecodable {bytes : Text.Bytes} {e : Text.DecodeError} (sound : path.hasNull = false)
      (read : d.read path = .ok bytes) (decode : Text.decode bytes = .error e) :
    Escape d path (.file (.undecodable e))
  | beyond {bytes : Text.Bytes} {cs : List Char} {x : Json.Excess} (sound : path.hasNull = false)
      (read : d.read path = .ok bytes) (decode : Text.decode bytes = .ok cs)
      (parse : Json.read (Text.unifyNewlines cs) = .error (.beyond x)) :
    Escape d path (.file (.beyond x))
  | notList {fields : List (String × Value)} {kind : String}
      (read : d.readGraph path = .ok (.object fields)) (stuck : Stuck 0 fields kind) :
    Escape d path (.load (.notList kind))

section Files
variable {d : Disk} {path : Path} {strict : Bool} {f : Failure}

theorem Documented.isExpected (h : Documented f) : f.isExpected = true := by
  cases h with
  | entity error => cases error <;> rfl
  | _ => rfl

theorem Escape.isExpected (h : Escape d path f) : f.isExpected = false := by
  cases h <;> rfl

/-- Integers that are read can be written. -/
theorem short_of_readGraph {v : Value} (h : d.readGraph path = .ok v) : v.All Value.Short := by
  unfold Disk.readGraph at h
  split at h
  next => simp at h
  next =>
    split at h
    next => simp at h
    next =>
      split at h
      next => simp at h
      next =>
        simp only at h
        split at h
        next => simp at h
        next => simp at h
        next hread =>
          obtain rfl := Except.ok.inj h
          exact Json.short_of_read hread

/-- A file of ASCII text without carriage returns. -/
theorem readGraph_ascii {v : Value} {text : String} (hnull : path.hasNull = false)
    (hread : d.read path = .ok (Text.asciiBytes text.toList))
    (hascii : (text.toList.all fun c => c.toNat < 128 && c ≠ '\r') = true)
    (hparse : Json.read text.toList = .ok v) : d.readGraph path = .ok v := by
  simp only [List.all_eq_true, Bool.and_eq_true, decide_eq_true_eq] at hascii
  have hdecode : Text.decode (Text.asciiBytes text.toList) = .ok text.toList :=
    Text.decodeFrom_asciiBytes (fun c hc => (hascii c hc).1) 0
  have hnewlines : Text.unifyNewlines text.toList = text.toList :=
    Text.unifyNewlines_of_no_return fun hreturn => (hascii _ hreturn).2 rfl
  simp [Disk.readGraph, hnull, hread, hdecode, hnewlines, hparse]

theorem readGraph_cases {e : FileError} (h : d.readGraph path = .error e) :
    Documented (.file e) ∨ Escape d path (.file e) := by
  unfold Disk.readGraph at h
  split at h
  next hnull =>
    obtain rfl := Except.error.inj h
    exact .inr (.nullInPath hnull)
  next hnull =>
    have hsound : path.hasNull = false := by simpa using hnull
    split at h
    next =>
      obtain rfl := Except.error.inj h
      exact .inl (.cannotRead ..)
    next bytes hread =>
      split at h
      next hdecode =>
        obtain rfl := Except.error.inj h
        exact .inr (.undecodable hsound hread hdecode)
      next cs hdecode =>
        simp only at h
        split at h
        next =>
          obtain rfl := Except.error.inj h
          exact .inl (.notJson ..)
        next hparse =>
          obtain rfl := Except.error.inj h
          exact .inr (.beyond hsound hread hdecode hparse)
        next => simp at h

theorem loadGraph_cases (h : loadGraph d path strict = .error f) :
    Documented f ∨ Escape d path f := by
  unfold loadGraph at h
  split at h
  next e he =>
    obtain rfl := Except.error.inj h
    exact readGraph_cases he
  next v hv =>
    cases v with
    | object fields =>
      cases hload : (Load.document strict 0 (.object fields)).outcome with
      | ok s => simp [hload, Except.mapError] at h
      | error x =>
        rw [hload] at h
        obtain rfl := Except.error.inj h
        rcases stuck_of_document (short_of_readGraph hv) hload with hentity | ⟨kind, hstuck, rfl⟩
        · exact .inl (.entity hentity)
        · exact .inr (.notList hv hstuck)
    | _ =>
      obtain rfl := Except.error.inj h
      exact .inl .notObject

theorem Escape.loadGraph (h : Escape d path f) (strict : Bool) :
    loadGraph d path strict = .error f := by
  unfold CommandLine.loadGraph
  cases h with
  | nullInPath null => simp [Disk.readGraph, null]
  | undecodable sound read decode => simp [Disk.readGraph, sound, read, decode]
  | beyond sound read decode parse => simp [Disk.readGraph, sound, read, decode, parse]
  | notList read stuck => simp [read, document_of_stuck stuck, Except.mapError]

end Files

namespace Session

/-- The settings are known, and the log has been set up by them. -/
structure LogSetUp (s : Session) : Prop where
  settled : s.settings?.isSome = true
  remembered : s.logger.remembered.contains {} = true

variable {s : Session}

theorem load_of_logSetUp (h : s.LogSetUp) (w : Surroundings) (path : Path) (strict : Bool) :
    (s.load w path strict).2 = loadGraph s.disk path strict := by
  obtain ⟨settings, hsettled⟩ := Option.isSome_iff_exists.mp h.settled
  have hsettle : s.settle w = (s, .ok settings) := by simp [settle, hsettled]
  have hsetUp (d : Disk) : s.logger.setUp settings {} d = (s.logger.remember {}, d, .ok ()) := by
    rw [Logger.setUp, if_pos h.remembered]
  unfold load loadGraph
  split
  next he => rw [he]
  next hv => simp only [hsettle, hsetUp, hv]
  next v hno hv =>
    rw [hv]
    cases v with
    | object fields => exact absurd rfl (hno fields)
    | _ => rfl

/-- A session with its log set up, on a disk with one graph file. -/
def holding (bytes : Text.Bytes) : Session where
  settings? := some {}
  logger := { remembered := [{}] }
  disk := { entries := [(["g.json"], .file bytes)] }

theorem logSetUp_holding (bytes : Text.Bytes) : (holding bytes).LogSetUp := ⟨rfl, rfl⟩

def numberText : String := "\x7b\"nodes\": 5\x7d"

def numberBytes : Text.Bytes := numberText.toList.map fun c => c.toNat.toUInt8

theorem sound_path : (Path.ofString "g.json").hasNull = false := by decide

theorem read_holding (bytes : Text.Bytes) :
    (holding bytes).disk.read (Path.ofString "g.json") = .ok bytes := rfl

theorem readGraph_number : (holding numberBytes).disk.readGraph (Path.ofString "g.json") =
    .ok (.object [("nodes", .int 5)]) :=
  readGraph_ascii sound_path (read_holding _) (by decide) (by decide +kernel)

end Session
end CommandLine
end GraphSchema
