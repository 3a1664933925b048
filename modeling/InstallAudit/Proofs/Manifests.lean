import Mathlib.Data.List.Sort
import InstallAudit.Report

/-!
# Manifests as sets

A manifest is held as an increasing list.  To compare manifests it is enough to compare their
entries, and to count entries it is enough to count lists.

* `Manifest.ext_mem` — manifests with the same entries are equal.
* `size_filter_add`, `size_add_difference` — the sizes of parts.
* `eq_empty_iff`, `isEmpty_iff` — manifests without entries.
-/

namespace InstallAudit

namespace Manifest

/-! ## Equality -/

lemma nodup_toList (m : Manifest) : m.toList.Nodup :=
  m.increasing.imp (by rintro p q hlt rfl; exact List.lt_irrefl p hlt)

lemma toList_injective : Function.Injective toList := by
  rintro ⟨l, -⟩ ⟨l', -⟩ rfl
  rfl

/-- **Extensionality.**  Manifests with the same entries are equal. -/
lemma ext_mem {m m' : Manifest} (h : ∀ p, p ∈ m ↔ p ∈ m') : m = m' :=
  toList_injective (m.increasing.eq_of_mem_iff m'.increasing h)

/-- A manifest is empty when it has no entry. -/
lemma eq_empty_iff {m : Manifest} : m = empty ↔ ∀ p, p ∉ m := by
  constructor
  · rintro rfl p
    exact not_mem_empty p
  · intro h
    exact ext_mem fun p => iff_of_false (h p) (not_mem_empty p)

lemma isEmpty_iff {m : Manifest} : m.isEmpty = true ↔ ∀ p, p ∉ m := by
  rw [isEmpty, List.isEmpty_iff, List.eq_nil_iff_forall_not_mem]
  rfl

@[simp] lemma difference_self (m : Manifest) : m.difference m = empty := by
  refine eq_empty_iff.2 fun p hp => ?_
  rw [mem_difference] at hp
  exact hp.2 hp.1

@[simp] lemma filter_empty (keep : Path → Bool) : empty.filter keep = empty :=
  rfl

/-! ## Size -/

/-- A test divides a manifest into two parts. -/
lemma size_filter_add (m : Manifest) (keep : Path → Bool) :
    (m.filter fun p => !keep p).size + (m.filter keep).size = m.size := by
  rw [Nat.add_comm]
  exact (List.length_eq_length_filter_add keep).symm

/-- Either manifest has as many entries as it shares with the other one and keeps for itself, so the
sizes differ by what is kept. -/
lemma size_add_difference (m m' : Manifest) :
    m.size + (m'.difference m).size = m'.size + (m.difference m').size := by
  have hcommon : m.filter m'.contains = m'.filter m.contains :=
    ext_mem fun p => by simp [and_comm]
  have hm : (m.difference m').size + (m.filter m'.contains).size = m.size :=
    m.size_filter_add m'.contains
  have hm' : (m'.difference m).size + (m'.filter m.contains).size = m'.size :=
    m'.size_filter_add m.contains
  rw [hcommon] at hm
  omega

end Manifest

end InstallAudit
