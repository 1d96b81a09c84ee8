import GraphSchema.Delivery
import GraphSchema.Proofs.Files.Changes

/-! Delivery to a file as all or nothing. A document that arrives is all that the file holds, and a
file that cannot be written leaves all files as they were. Between the two stand the documents that
do not fit the encoding: they are found out when the file has been emptied. -/
namespace GraphSchema
open Text (Bytes Encoding EncodeError)

namespace FileTarget
variable {t : FileTarget} {d : Disk} {document : String} {e : DeliveryError}

/-- What a file is to hold once a document has arrived. -/
def content (t : FileTarget) (document : String) : Except EncodeError Bytes :=
  Text.encode t.encoding (document ++ "\n").toList

/-- The directory of the file is there or can be made, and the file can be opened in it. -/
def Opens (t : FileTarget) (d : Disk) : Prop :=
  ∃ made opened, d.ensureDirectory t.path.parent = (made, .ok ()) ∧ made.write t.path [] = .ok opened

/-- The failures other than that the file cannot be written, each with what leads to it. -/
inductive Escape (t : FileTarget) (d : Disk) (document : String) : DeliveryError → Prop
  | nullAbove (null : t.path.parent.hasNull = true) : Escape t d document .nullInPath
  | nullInName {d' : Disk} (made : d.ensureDirectory t.path.parent = (d', .ok ()))
      (null : t.path.hasNull = true) : Escape t d document .nullInPath
  | unfit {e : EncodeError} (sound : t.path.hasNull = false) (opens : t.Opens d)
      (unfit : t.content document = .error e) : Escape t d document (.cannotEncode e)

/-- How the delivery of a document to a file can go, with what is left on the disk. -/
inductive Course (t : FileTarget) (d : Disk) (document : String) :
    Disk × Except DeliveryError Unit → Prop
  | arrived {after : Disk} {bytes : Bytes} (sound : t.path.hasNull = false) (opens : t.Opens d)
      (fits : t.content document = .ok bytes) (replaced : d.Replaced after t.path bytes) :
    Course t d document (after, .ok ())
  | closed {after : Disk} {error : DiskError} (closed : ¬t.Opens d) (kept : d.KeepsFiles after) :
    Course t d document (after, .error (.cannotWrite t.path error))
  | nullInPath {after : Disk} (escape : Escape t d document .nullInPath)
      (kept : d.KeepsFiles after) : Course t d document (after, .error .nullInPath)
  | emptied {after : Disk} {e : EncodeError} (escape : Escape t d document (.cannotEncode e))
      (replaced : d.Replaced after t.path []) :
    Course t d document (after, .error (.cannotEncode e))

theorem not_opens_of_made {made : Disk} {r : Except DiskError Unit}
    (hmade : d.ensureDirectory t.path.parent = (made, r))
    (hclosed : r = .ok () → ∀ opened, made.write t.path [] ≠ .ok opened) : ¬t.Opens d := by
  rintro ⟨made', opened, hmade', hopened⟩
  rw [hmade] at hmade'
  obtain ⟨rfl, rfl⟩ := Prod.mk.inj hmade'
  exact hclosed rfl opened hopened

/-- From the moment at which the directory of the file is there. -/
theorem course_replace {made : Disk} (hmade : d.ensureDirectory t.path.parent = (made, .ok ()))
    (hsound : t.path.hasNull = false) (document : String) :
    Course t d document (t.replace made document) := by
  have hkept := Disk.keepsFiles_of_ensureDirectory hmade
  unfold replace
  split
  next hwrite =>
    refine .closed (not_opens_of_made hmade fun _ opened hopened => ?_) hkept
    simp [hwrite] at hopened
  next opened hwrite =>
    have hopens : t.Opens d := ⟨made, opened, hmade, hwrite⟩
    split
    -- the file is open by now, so what it held is gone
    next hunfit =>
      exact .emptied (.unfit hsound hopens hunfit) (hkept.replaced (Disk.replaced_of_write hwrite))
    next bytes hfits =>
      obtain ⟨written, hagain, hreplaced⟩ := Disk.exists_rewritten hwrite bytes
      rw [hagain]
      exact .arrived hsound hopens hfits (hkept.replaced hreplaced)

theorem take_course (t : FileTarget) (d : Disk) (document : String) :
    Course t d document (t.take d document) := by
  unfold take
  split
  next hnull => exact .nullInPath (.nullAbove hnull) (.refl d)
  next =>
    split
    next hfailed =>
      exact .closed (not_opens_of_made hfailed (by simp))
        (Disk.keepsFiles_of_ensureDirectory hfailed)
    next hmade =>
      split
      next hnull =>
        exact .nullInPath (.nullInName hmade hnull) (Disk.keepsFiles_of_ensureDirectory hmade)
      next hnull => exact course_replace hmade (by simpa using hnull) document

/-- A document that fits its encoding arrives where the path is sound and the file opens. -/
theorem take_of_opens {bytes : Bytes} (hsound : t.path.hasNull = false) (hopens : t.Opens d)
    (hfits : t.content document = .ok bytes) : (t.take d document).2 = .ok () := by
  obtain ⟨made, opened, hmade, hopened⟩ := hopens
  obtain ⟨written, hagain, -⟩ := Disk.exists_rewritten hopened bytes
  rw [content] at hfits
  simp only [take, replace, Path.hasNull_parent hsound, hsound, hmade, hopened, hfits, hagain,
    Bool.false_eq_true, if_false]

namespace Escape

theorem take (h : Escape t d document e) : (t.take d document).2 = .error e := by
  cases h with
  | nullAbove null => simp [FileTarget.take, null]
  | nullInName made null =>
    by_cases habove : t.path.parent.hasNull
    · simp [FileTarget.take, habove]
    · simp [FileTarget.take, habove, made, null]
  | unfit sound opens unfit =>
    obtain ⟨made, opened, hmade, hopened⟩ := opens
    rw [content] at unfit
    simp only [FileTarget.take, replace, Path.hasNull_parent sound, sound, hmade, hopened, unfit,
      Bool.false_eq_true, if_false]

theorem ne_cannotWrite (h : Escape t d document e) (path : Path) (error : DiskError) :
    e ≠ .cannotWrite path error := by
  cases h <;> simp

/-- Where the path is sound, what fits the encoding does not escape. -/
theorem elim {bytes : Bytes} (h : Escape t d document e) (hsound : t.path.hasNull = false)
    (hfits : t.content document = .ok bytes) : False := by
  cases h with
  | nullAbove null => simp [Path.hasNull_parent hsound] at null
  | nullInName _ null => simp [hsound] at null
  | unfit _ _ unfit => simp [hfits] at unfit

end Escape

/-- A delivery returns just if the path is sound, the file opens and the document fits; the file then
holds the document and its line feed in the encoding, and no other file has changed. If the file
cannot be written, every file is as it was. Any other failure is an escape, met just where its
condition holds: a null character in the path, which leaves every file as it was, or a document that
does not fit the encoding, which leaves the file empty. -/
theorem take_ends (t : FileTarget) (d : Disk) (document : String) :
    let r := t.take d document
    (r.2 = .ok () ↔ t.path.hasNull = false ∧ t.Opens d ∧ ∃ bytes, t.content document = .ok bytes) ∧
      (r.2 = .ok () → ∃ bytes, t.content document = .ok bytes ∧ d.Replaced r.1 t.path bytes) ∧
      (∀ path error, r.2 = .error (.cannotWrite path error) →
        path = t.path ∧ ¬t.Opens d ∧ d.KeepsFiles r.1) ∧
      (∀ e, Escape t d document e ↔
        r.2 = .error e ∧ ∀ path error, e ≠ .cannotWrite path error) ∧
      (r.2 = .error .nullInPath → d.KeepsFiles r.1) ∧
      ∀ e, r.2 = .error (.cannotEncode e) → d.Replaced r.1 t.path [] := by
  have harrives : (t.path.hasNull = false ∧ t.Opens d ∧ ∃ bytes, t.content document = .ok bytes) →
      (t.take d document).2 = .ok () := fun ⟨hsound, hopens, _, hfits⟩ =>
    take_of_opens hsound hopens hfits
  have hescapes : ∀ e, Escape t d document e → (t.take d document).2 = .error e ∧
      ∀ path error, e ≠ .cannotWrite path error := fun _ h => ⟨h.take, h.ne_cannotWrite⟩
  have hcourse := take_course t d document
  generalize t.take d document = r at harrives hescapes hcourse ⊢
  cases hcourse with
  | arrived sound opens fits replaced =>
    exact ⟨⟨fun _ => ⟨sound, opens, _, fits⟩, harrives⟩, fun _ => ⟨_, fits, replaced⟩, by simp,
      fun e => ⟨hescapes e, by simp⟩, by simp, by simp⟩
  | closed closed kept =>
    refine ⟨⟨by simp, harrives⟩, by simp, fun path error h => ⟨?_, closed, kept⟩,
      fun e => ⟨hescapes e, fun ⟨h, hother⟩ => ?_⟩, by simp, by simp⟩
    · cases h
      rfl
    · exact absurd (Except.error.inj h).symm (hother _ _)
  | nullInPath escape kept =>
    refine ⟨⟨by simp, harrives⟩, by simp, by simp, fun e => ⟨hescapes e, fun ⟨h, _⟩ => ?_⟩,
      fun _ => kept, by simp⟩
    exact Except.error.inj h ▸ escape
  | emptied escape replaced =>
    refine ⟨⟨by simp, harrives⟩, by simp, by simp, fun e => ⟨hescapes e, fun ⟨h, _⟩ => ?_⟩,
      by simp, fun _ _ => replaced⟩
    exact Except.error.inj h ▸ escape

/-- A disk with one file, and a target for it in ASCII. -/
def shelf : Disk := { entries := [(["schema"], .file [0x6f, 0x6c, 0x64])] }

def asciiTarget : FileTarget := ⟨Path.ofString "schema", .ascii⟩

/-- A character beyond ASCII: the delivery fails, and not for want of a file that can be written, and
the old content is gone. -/
theorem take_unfit :
    shelf.content? ["schema"] = some [0x6f, 0x6c, 0x64] ∧
      (asciiTarget.take shelf "é").2 = .error (.cannotEncode ⟨.ascii, 128, 0, 'é', 1⟩) ∧
      (asciiTarget.take shelf "é").1.content? ["schema"] = some [] := by
  decide

end FileTarget
end GraphSchema
