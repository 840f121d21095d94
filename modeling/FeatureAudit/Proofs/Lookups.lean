import FeatureAudit.Audit.Section
import Mathlib.Data.List.Nodup

/-! Looking up ids. Where ids are distinct, the places that a section keeps for them lead to the
features that a search of the list would find. -/
namespace FeatureAudit

variable {f : Feature} {fs gs : List Feature} {id : String}

theorem find?_eq_some_of_unique {α : Type} {p : α → Bool} {xs : List α} {x : α} (hx : x ∈ xs)
    (hp : p x) (hu : ∀ y ∈ xs, p y → y = x) : xs.find? p = some x := by
  obtain ⟨y, hy⟩ := Option.isSome_iff_exists.1 (List.find?_isSome.2 ⟨x, hx, hp⟩)
  rw [hy, hu y (List.mem_of_find?_eq_some hy) (List.find?_some hy)]

theorem find?_id_eq_some_iff (hn : (fs.map (·.id)).Nodup) :
    fs.find? (·.id = id) = some f ↔ f ∈ fs ∧ f.id = id := by
  constructor
  · intro h
    exact ⟨List.mem_of_find?_eq_some h, by simpa using List.find?_some h⟩
  · rintro ⟨hf, rfl⟩
    refine find?_eq_some_of_unique hf (by simp) fun g hg he => ?_
    exact List.inj_on_of_nodup_map hn hg hf (by simpa using he)

theorem find?_id_of_perm (hn : (fs.map (·.id)).Nodup) (hp : fs.Perm gs) :
    fs.find? (·.id = id) = gs.find? (·.id = id) := by
  have hn' : (gs.map (·.id)).Nodup := (hp.map _).nodup_iff.1 hn
  ext f
  rw [find?_id_eq_some_iff hn, find?_id_eq_some_iff hn', hp.mem_iff]

theorem find?_id_filter (hn : (fs.map (·.id)).Nodup) (keep : Feature → Bool) :
    (fs.filter keep).find? (·.id = id) = (fs.find? (·.id = id)).filter keep := by
  have hn' : ((fs.filter keep).map (·.id)).Nodup := (List.filter_sublist.map _).nodup hn
  ext f
  simp only [find?_id_eq_some_iff hn', List.mem_filter, Option.filter_eq_some_iff,
    find?_id_eq_some_iff hn, and_right_comm]

namespace Section

variable {build : Search.Builder} {k : Kind} {s : Section}

theorem lookup_placesOf : (placesOf fs).lookup id =
    (List.finRange fs.length).reverse.find? fun i => (fs.get i).id = id := by
  rw [placesOf, ← List.map_reverse]
  induction (List.finRange fs.length).reverse with
  | nil => rfl
  | cons i is ih =>
    have htest : (id == (fs.get i).id) = decide ((fs.get i).id = id) := by
      rw [Bool.eq_iff_iff, beq_iff_eq, decide_eq_true_eq, eq_comm]
    rw [List.map_cons, List.lookup_cons, List.find?_cons, ih, htest]

theorem lookup_id_get (hn : (fs.map (·.id)).Nodup) (i : Fin fs.length) :
    (placesOf fs).lookup (fs.get i).id = some i := by
  rw [lookup_placesOf]
  refine find?_eq_some_of_unique (by simp) (by simp) fun j _ he => ?_
  have hfeature : fs.get j = fs.get i :=
    List.inj_on_of_nodup_map hn (List.get_mem fs j) (List.get_mem fs i) (by simpa using he)
  exact List.nodup_iff_injective_get.1 (hn.of_map _) hfeature

/-- Of features with one id the last is found. -/
theorem get?_ofFeatures : (ofFeatures build k fs).get? id = fs.reverse.find? (·.id = id) := by
  have hreverse : fs.reverse = (List.finRange fs.length).reverse.map fs.get := by
    rw [List.map_reverse, List.map_get_finRange]
  change ((placesOf fs).lookup id).map fs.get = _
  rw [lookup_placesOf, hreverse, List.find?_map]
  rfl

theorem get?_of_nodup (hn : (fs.map (·.id)).Nodup) :
    (ofFeatures build k fs).get? id = fs.find? (·.id = id) := by
  rw [get?_ofFeatures]
  exact (find?_id_of_perm hn (List.reverse_perm fs).symm).symm

theorem contains_eq_isSome : s.contains id = (s.get? id).isSome := by
  rw [contains, get?, Option.isSome_map]

end Section
end FeatureAudit
