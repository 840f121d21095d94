import FeatureAudit.Proofs.Nesting

/-! A reader that lets lists and objects nest deeper reads whatever another one reads, and reads the
same. -/
namespace FeatureAudit.Json

variable {α σ : Type} {first : Bool} {fuel depth limit : Nat} {x : α} {j : Json} {text : String}
  {gather : Members → Members}

/-- The second reader takes whatever the first one takes, for the same. -/
def Widens (r r' : Reader α) : Prop := ∀ s x, r s = .ok x → r' s = .ok x

section

variable {item item' body body' : Reader α} {member member' : σ → String → Reader σ} {y : σ}

theorem Widens.items (h : Widens item item') :
    Widens (items item fuel first) (items item' fuel first) := by
  induction fuel generalizing first with
  | zero => exact fun s x hx => hx
  | succ fuel ih =>
    intro s x hx
    rw [Json.items, bind_eq_ok] at hx ⊢
    obtain ⟨next, hnext, hx⟩ := hx
    refine ⟨next, hnext, ?_⟩
    cases next with
    | none => exact hx
    | some t =>
      simp only [bind_eq_ok] at hx ⊢
      obtain ⟨a, ha, as, has, hx⟩ := hx
      exact ⟨a, h _ _ ha, as, ih _ _ has, hx⟩

theorem Widens.members (h : ∀ y k, Widens (member y k) (member' y k)) :
    Widens (members member fuel first y) (members member' fuel first y) := by
  induction fuel generalizing first y with
  | zero => exact fun s x hx => hx
  | succ fuel ih =>
    intro s x hx
    rw [Json.members, bind_eq_ok] at hx ⊢
    obtain ⟨next, hnext, hx⟩ := hx
    refine ⟨next, hnext, ?_⟩
    cases next with
    | none => exact hx
    | some t =>
      simp only [bind_eq_ok] at hx ⊢
      obtain ⟨k, hk, z, hz, hx⟩ := hx
      exact ⟨k, hk, z, h _ _ _ _ hz, ih _ _ hx⟩

theorem Widens.listOf (h : Widens body body') : Widens (listOf body) (listOf body') := by
  intro s x hx
  unfold Json.listOf at hx ⊢
  cases hb : body s with
  | error f => simp only [hb] at hx; cases hx
  | ok a =>
    simp only [hb] at hx
    simp only [h s a hb, hx]

theorem Widens.objectOf (h : Widens body body') : Widens (objectOf body) (objectOf body') := by
  intro s x hx
  unfold Json.objectOf at hx ⊢
  cases hb : body s with
  | error f => simp only [hb] at hx; cases hx
  | ok a =>
    simp only [hb] at hx
    simp only [h s a hb, hx]

end

/-- Only in lists and objects does it matter how deep these may nest. -/
theorem widens_readValue_succ (gather : Members → Members) (depth : Nat) :
    Widens (readValue gather depth) (readValue gather (depth + 1)) := by
  induction depth with
  | zero =>
    intro s x hx
    rw [readValue.eq_def] at hx ⊢
    split at hx <;> first | exact hx | cases hx
  | succ depth ih =>
    intro s x hx
    rw [readValue.eq_def] at hx ⊢
    split at hx
    case h_7 r =>
      obtain ⟨y, hy, hx⟩ := bind_eq_ok.1 hx
      exact bind_eq_ok.2 ⟨y, ih.items.listOf _ _ hy, hx⟩
    case h_8 r =>
      obtain ⟨y, hy, hx⟩ := bind_eq_ok.1 hx
      refine bind_eq_ok.2 ⟨y, Widens.objectOf (Widens.members fun ms k s x hx => ?_) _ _ hy, hx⟩
      simp only [bind_eq_ok] at hx ⊢
      obtain ⟨t, ht, v, hv, hx⟩ := hx
      exact ⟨t, ht, v, ih _ _ hv, hx⟩
    all_goals exact hx

theorem widens_readValue (h : depth ≤ limit) :
    Widens (readValue gather depth) (readValue gather limit) := by
  induction h with
  | refl => exact fun s x hx => hx
  | step _ ih => exact fun s x hx => widens_readValue_succ gather _ s x (ih s x hx)

theorem readAll_of_widens {r r' : Reader α} (hr : Widens r r') (h : readAll r text = .ok x) :
    readAll r' text = .ok x := by
  simp only [readAll, mapError_eq_ok, bind_eq_ok] at h ⊢
  obtain ⟨a, ha, h⟩ := h
  exact ⟨a, hr _ _ ha, h⟩

theorem regular_of_le (h : Regular depth j) (hle : depth ≤ limit) : Regular limit j := by
  induction hle with
  | refl => exact h
  | step _ ih => exact regular_succ ih

/-- If a text is read wherever its value may nest as deep as it does, it is read nowhere else, and
never as another value. -/
theorem readAll_eq_ok_iff {k : Json} (hk : Regular depth k)
    (h : ∀ limit, Regular limit k → readAll (readValue ofWritten limit) text = .ok k) :
    readAll (readValue ofWritten limit) text = .ok j ↔ j = k ∧ Regular limit k := by
  constructor
  · intro hj
    have hwide : readAll (readValue ofWritten (max depth limit)) text = .ok j :=
      readAll_of_widens (widens_readValue (Nat.le_max_right _ _)) hj
    have hsame : Except.ok j = Except.ok k :=
      hwide.symm.trans (h _ (regular_of_le hk (Nat.le_max_left _ _)))
    obtain rfl : j = k := Except.ok.inj hsame
    obtain ⟨t, ht⟩ := of_readAll hj
    exact ⟨rfl, regular_of_readValue ht⟩
  · rintro ⟨rfl, hr⟩
    exact h limit hr

end FeatureAudit.Json
