/-
# PartitionedRollout.Proofs.Workload.Faithful -- written forms lose nothing

What is written for a workload set or for a template tells all of it, for any texts and any numbers
in it: it reads back as what was written. So no two templates share a written form, and the bytes
that a revision is a digest of are those of one template only. Environments count as maps, since a
map has one list of entries.
-/

import PartitionedRollout.Proofs.Store.Entry
import PartitionedRollout.Proofs.Text.ByteOrder
import PartitionedRollout.Workload.Revision

namespace PartitionedRollout

namespace Template

variable {t t' : Template}

/-- A written template reads back as the template. -/
@[simp]
theorem ofChars?_toChars (t : Template) : ofChars? t.toChars = some t := by
  rw [ofChars?, toChars, Json.ofChars?_compactChars t.plain_toJson, Option.bind_some,
    ofJson?_toJson]

theorem toChars_inj : t.toChars = t'.toChars ↔ t = t' := by
  constructor
  · intro h
    exact Option.some.inj ((ofChars?_toChars t).symm.trans (h ▸ ofChars?_toChars t'))
  · rintro rfl
    rfl

/-- The digest of a template is taken of bytes that no other template has. -/
theorem bytesOf_toChars_inj :
    Sha256.bytesOf t.toChars = Sha256.bytesOf t'.toChars ↔ t = t' :=
  Text.flatMap_utf8EncodeChar_inj.trans toChars_inj

/-- Templates are compared by their image, their arguments in order, and what their environments
say of each name. -/
theorem eq_iff : t = t' ↔
    t.image = t'.image ∧ t.args = t'.args ∧ ∀ name, t.env.get? name = t'.env.get? name := by
  constructor
  · rintro rfl
    exact ⟨rfl, rfl, fun _ => rfl⟩
  · rintro ⟨himage, hargs, henv⟩
    obtain ⟨image, args, env⟩ := t
    obtain ⟨image', args', env'⟩ := t'
    obtain rfl : image = image' := himage
    obtain rfl : args = args' := hargs
    obtain rfl : env = env' := TextMap.eq_of_get? henv
    rfl

end Template

/-- **Written forms lose nothing.** The text of a workload set reads back as the set, and so does
what a store keeps of it. The text of a template reads back as the template. The bytes that the
revision of a template is computed from are the same for two templates exactly if these have the
same image, the same arguments in the same order, and the same value for each name of the
environment. -/
theorem written_forms_faithful :
    (∀ w : WorkloadSet, WorkloadSet.decode? w.encode = some w ∧ Store.decode w.toChars = .ok w) ∧
    (∀ t : Template, Template.decode? t.encode = some t) ∧
    ∀ t t' : Template, Sha256.bytesOf t.toChars = Sha256.bytesOf t'.toChars ↔
      t.image = t'.image ∧ t.args = t'.args ∧ ∀ name, t.env.get? name = t'.env.get? name := by
  refine ⟨?_, ?_, ?_⟩
  · intro w
    refine ⟨?_, Store.decode_toChars w⟩
    rw [WorkloadSet.decode?, WorkloadSet.encode, String.toList_ofList, WorkloadSet.ofChars?_toChars]
  · intro t
    rw [Template.decode?, Template.encode, String.toList_ofList, Template.ofChars?_toChars]
  · intro t t'
    rw [Template.bytesOf_toChars_inj, Template.eq_iff]

end PartitionedRollout
