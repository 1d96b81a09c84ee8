import GraphSchema.Delivery
import GraphSchema.Graph.Edit
import Mathlib.Data.List.Basic

/-! Delivery over whole runs of edits and calls: a buffer and a stream hold what the calls that
succeeded have returned, and a call that fails leaves no trace in them. -/
namespace GraphSchema

/-- The targets in memory. -/
inductive Sink where
  | buffer | stream
  deriving DecidableEq, Repr

/-- A step of a run: the store is edited, another store is taken up, or a document is generated from
the store and delivered. -/
inductive Action where
  | edit (e : Edit)
  | load (s : Store)
  | deliver (sink : Sink) (d : Diagnosis)

/-- What a call returned. -/
structure Reply where
  sink : Sink
  outcome : Except RunError Generated

/-- The document of a call for a sink that succeeded. -/
def Reply.document? (sink : Sink) (r : Reply) : Option String :=
  if r.sink = sink then
    match r.outcome with
    | .ok g => some g.document
    | .error _ => none
  else none

def documents (sink : Sink) (rs : List Reply) : List String := rs.filterMap (Reply.document? sink)

/-- A store with a buffer and a stream. -/
structure Desk where
  store : Store
  buffer : Buffer := {}
  stream : Stream := {}
  disk : Disk

namespace Desk

def target (k : Desk) : Sink → Target
  | .buffer => .buffer k.buffer
  | .stream => .stream k.stream

def put (k : Desk) : Target → Desk
  | .buffer b => { k with buffer := b }
  | .stream s => { k with stream := s }
  | .file _ => k

def step (k : Desk) : Action → Desk × List Reply
  | .edit e => ({ k with store := k.store.after e }, [])
  | .load s => ({ k with store := s }, [])
  | .deliver sink d =>
    let r := d.deliver k.store.provider (k.target sink) k.disk
    ({ k.put r.target with disk := r.disk }, [⟨sink, r.outcome⟩])

def run (k : Desk) : List Action → Desk × List Reply
  | [] => (k, [])
  | a :: as =>
    let (next, replies) := k.step a
    let (last, rest) := next.run as
    (last, replies ++ rest)

/-- A document arrives at a sink. -/
def receive (k : Desk) (document : String) : Sink → Desk
  | .buffer => { k with buffer := k.buffer.take document }
  | .stream => { k with stream := k.stream.take document }

end Desk

namespace Store

/-- The store after an action, which no call changes. -/
def next (s : Store) : Action → Store
  | .edit e => s.after e
  | .load t => t
  | .deliver _ _ => s

/-- What an action has to return: a call, what generation says of the store. -/
def reply (s : Store) : Action → List Reply
  | .edit _ => []
  | .load _ => []
  | .deliver sink d => [⟨sink, (d.generate s.provider).outcome.mapError .generation⟩]

def replies (s : Store) : List Action → List Reply
  | [] => []
  | a :: as => s.reply a ++ (s.next a).replies as

end Store

section Documents
variable {sink : Sink} {rs : List Reply}

@[simp] theorem documents_append (rs' : List Reply) :
    documents sink (rs ++ rs') = documents sink rs ++ documents sink rs' :=
  List.filterMap_append

theorem content_of_takes (b : Buffer) (ds : List String) :
    (ds.foldl Buffer.take b).content = ds.getLast?.or b.content := by
  induction ds generalizing b with
  | nil => rfl
  | cons d ds ih =>
    rw [List.foldl_cons, ih, List.getLast?_cons]
    cases ds.getLast? <;> rfl

theorem count_of_takes (b : Buffer) (ds : List String) :
    (ds.foldl Buffer.take b).count = b.count + ds.length := by
  induction ds generalizing b with
  | nil => rfl
  | cons d ds ih =>
    rw [List.foldl_cons, ih, List.length_cons, Buffer.take, Nat.add_right_comm, Nat.add_assoc]

theorem written_of_takes (s : Stream) (ds : List String) :
    (ds.foldl Stream.take s).written = s.written ++ String.join (ds.map (· ++ "\n")) := by
  induction ds generalizing s with
  | nil => exact (String.append_empty).symm
  | cons d ds ih =>
    rw [List.foldl_cons, ih, List.map_cons, String.join_cons, Stream.take, String.append_assoc,
      String.append_assoc, String.append_assoc]

end Documents

namespace Desk

/-- A call whose generation fails changes nothing, and one that succeeds delivers the document of the
result that it returns. -/
theorem step_deliver (k : Desk) (sink : Sink) (d : Diagnosis) :
    k.step (.deliver sink d) =
      match (d.generate k.store.provider).outcome with
      | .error e => (k, [⟨sink, .error (.generation e)⟩])
      | .ok g => (k.receive g.document sink, [⟨sink, .ok g⟩]) := by
  simp only [step, Diagnosis.deliver]
  cases (d.generate k.store.provider).outcome with
  | error e => cases sink <;> rfl
  | ok g => cases sink <;> rfl

/-- The desk once calls have returned: each sink has taken what was returned for it. -/
def after (k : Desk) (s : Store) (rs : List Reply) : Desk where
  store := s
  buffer := (documents .buffer rs).foldl Buffer.take k.buffer
  stream := (documents .stream rs).foldl Stream.take k.stream
  disk := k.disk

theorem step_eq (k : Desk) (a : Action) :
    k.step a = (k.after (k.store.next a) (k.store.reply a), k.store.reply a) := by
  cases a with
  | edit e => rfl
  | load s => rfl
  | deliver sink d =>
    rw [step_deliver, Store.reply]
    cases (d.generate k.store.provider).outcome with
    | error e => cases sink <;> rfl
    | ok g => cases sink <;> rfl

theorem after_after (k : Desk) (s t : Store) (rs rs' : List Reply) :
    (k.after s rs).after t rs' = k.after t (rs ++ rs') := by
  simp only [after, documents_append, List.foldl_append]

theorem run_eq (k : Desk) (as : List Action) :
    k.run as = (k.after (as.foldl Store.next k.store) (k.store.replies as), k.store.replies as) := by
  induction as generalizing k with
  | nil => rfl
  | cons a as ih =>
    rw [run, step_eq]
    simp only [ih, after_after]
    rfl

/-- After any run of edits and calls, failed ones included, the buffer holds the last document that
was returned for it and counts all of them, and the stream has every document that was returned for
it, each with a line feed. Each call returns what generation says of the store of that moment, and
touches nothing but its own sink. -/
theorem run_delivers (s : Store) (disk : Disk) (as : List Action) :
    let r := run { store := s, disk } as
    (r.2 = s.replies as ∧
      r.1.store = as.foldl Store.next s ∧
      r.1.buffer.content = (documents .buffer r.2).getLast? ∧
      r.1.buffer.count = (documents .buffer r.2).length ∧
      r.1.stream.written = String.join ((documents .stream r.2).map (· ++ "\n")) ∧
      r.1.disk = disk) ∧
    ∀ (sink : Sink) (d : Diagnosis), r.1.step (.deliver sink d) =
      match (d.generate r.1.store.provider).outcome with
      | .error e => (r.1, [⟨sink, .error (.generation e)⟩])
      | .ok g => (r.1.receive g.document sink, [⟨sink, .ok g⟩]) := by
  rw [run_eq]
  refine ⟨⟨rfl, rfl, ?_, ?_, ?_, rfl⟩, fun sink d => step_deliver _ sink d⟩
  · exact (content_of_takes {} _).trans Option.or_none
  · exact (count_of_takes {} _).trans (Nat.zero_add _)
  · exact (written_of_takes {} _).trans String.empty_append

end Desk
end GraphSchema
