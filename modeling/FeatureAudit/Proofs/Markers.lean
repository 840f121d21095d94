import FeatureAudit.Proofs.Tags

/-! Constructs that all start with the same letters, and texts in which these letters do not occur. -/
namespace FeatureAudit.Markup

variable {β : Type} {c d : Char} {f : List Char → Option β} {m name body s t r : List Char}

/-! Marks. -/

/-- A mark that a text starts with does not reach up to a character that is not in it. -/
theorem prefix_of_prefix_append (hd : d ∉ m) (h : m <+: s ++ d :: r) : m <+: s := by
  induction m generalizing s with
  | nil => exact List.nil_prefix
  | cons c m ih =>
    cases s with
    | nil =>
      rw [List.nil_append, List.cons_prefix_cons] at h
      exact (hd (by simp [h.1])).elim
    | cons c' s =>
      rw [List.cons_append, List.cons_prefix_cons] at h
      rw [List.cons_prefix_cons]
      exact ⟨h.1, ih (fun hm => hd (by simp [hm])) h.2⟩

/-- What is read where a text starts is read behind the mark, whatever the case of its letters. -/
def Marked (f : List Char → Option β) (m : List Char) : Prop :=
  ∀ s, f s ≠ none → m <+: s.map foldCase

theorem Marked.unread (hf : Marked f (c :: m)) (hd : foldCase d ∉ m)
    (hs : ¬ c :: m <:+: s.map foldCase) : Unread f s (d :: r) := by
  induction s with
  | nil => trivial
  | cons b s ih =>
    refine ⟨?_, ih fun h => hs (List.infix_cons h)⟩
    by_contra hread
    have hmark : c :: m <+: foldCase b :: (s.map foldCase ++ foldCase d :: r.map foldCase) := by
      simpa using hf _ hread
    rw [List.cons_prefix_cons] at hmark
    have hprefix : c :: m <+: (b :: s).map foldCase := by
      rw [List.map_cons, List.cons_prefix_cons]
      exact ⟨hmark.1, prefix_of_prefix_append hd hmark.2⟩
    exact hs hprefix.isInfix

theorem prefix_of_afterName (h : afterName name s ≠ none) : name <+: s.map foldCase := by
  obtain ⟨t, ht⟩ := Option.ne_none_iff_exists'.1 h
  obtain ⟨word, rfl, hword⟩ := eq_append_of_afterName ht
  exact ⟨t.map foldCase, by rw [← hword, List.map_append]⟩

theorem marked_startTag : Marked (startTag name) ('<' :: name) := by
  intro s h
  unfold startTag at h
  split at h
  · next s =>
    cases ha : afterName name s with
    | none => simp [ha] at h
    | some t =>
      have hname : name <+: s.map foldCase := prefix_of_afterName (by simp [ha])
      simpa [List.cons_prefix_cons, show foldCase '<' = '<' from by decide] using hname
  · exact (h rfl).elim

theorem marked_afterEndTag : Marked (afterEndTag name) ('<' :: '/' :: name) := by
  intro s h
  unfold afterEndTag at h
  split at h
  · next s =>
    cases ha : afterName name s with
    | none => simp [ha] at h
    | some t =>
      have hname : name <+: s.map foldCase := prefix_of_afterName (by simp [ha])
      simpa [List.cons_prefix_cons, show foldCase '<' = '<' from by decide,
        show foldCase '/' = '/' from by decide] using hname
  · exact (h rfl).elim

theorem eq_bracket_of_foldCase (h : foldCase c = '<') : c = '<' := by
  unfold foldCase at h
  split at h
  · exact absurd h (by decide)
  · split at h
    · exact absurd h (by decide)
    · by_cases hu : c.isUpper = true
      · have hl : c.toLower.isAlpha = true := by simp [Char.isAlpha, hu]
        rw [h] at hl
        exact absurd hl (by decide)
      · rwa [Char.toLower_eq_of_not_isUpper hu] at h

theorem not_infix_of_bracket_notMem (h : '<' ∉ s) : ¬ '<' :: m <:+: s.map foldCase := by
  intro hm
  have hfold : '<' ∈ s.map foldCase := hm.subset (by simp)
  obtain ⟨c, hc, he⟩ := List.mem_map.1 hfold
  exact h (eq_bracket_of_foldCase he ▸ hc)

/-! Comments inside texts. -/

/-- Every comment that starts in a text ends in it. -/
def ClosesComments (s : List Char) : Prop :=
  ∀ t ∈ s.tails, "<!--".toList <+: t → "-->".toList <:+: t.drop 4

instance (s : List Char) : Decidable (ClosesComments s) :=
  inferInstanceAs (Decidable (∀ t ∈ s.tails, _ → _))

theorem closesComments_of_absent (h : ¬ "<!--".toList <:+: s) : ClosesComments s :=
  fun _ ht hm => (h (hm.isInfix.trans ((List.mem_tails _ _).1 ht).isInfix)).elim

theorem ClosesComments.of_suffix (h : ClosesComments s) (ht : t <:+ s) : ClosesComments t :=
  fun u hu => h u ((List.mem_tails _ _).2 (((List.mem_tails _ _).1 hu).trans ht))

theorem afterComment_ne_none (h : "-->".toList <:+: s) : afterComment s ≠ none := by
  fun_induction afterComment s with
  | case1 t => simp
  | case2 c t hc ih =>
    rcases List.infix_cons_iff.1 h with hp | hi
    · obtain ⟨u, hu⟩ := hp
      exact (hc u (List.cons.inj hu).1.symm (List.cons.inj hu).2.symm).elim
    · exact ih hi
  | case3 => simp at h

theorem eq_of_afterComment (h : afterComment s = some t) :
    ∃ body, s = body ++ '-' :: '-' :: '>' :: t ∧ ¬ "-->".toList <:+: body := by
  fun_induction afterComment s with
  | case1 u =>
    cases h
    exact ⟨[], rfl, by simp⟩
  | case2 c u hc ih =>
    obtain ⟨body, rfl, hbody⟩ := ih h
    refine ⟨c :: body, rfl, fun hm => ?_⟩
    rcases List.infix_cons_iff.1 hm with ⟨v, hv⟩ | hi
    · refine hc (v ++ '-' :: '-' :: '>' :: t) (List.cons.inj hv).1.symm ?_
      rw [← (List.cons.inj hv).2]
      rfl
    · exact hbody hi
  | case3 => cases h

/-- A comment that ends in a text ends there whatever follows the text. -/
theorem readComment_append_right (h : readComment s = some ((), t)) :
    readComment (s ++ r) = some ((), t ++ r) := by
  unfold readComment at h
  split at h
  · next u =>
    obtain ⟨t', ht, he⟩ := Option.map_eq_some_iff.1 h
    cases he
    obtain ⟨body, rfl, hbody⟩ := eq_of_afterComment ht
    simpa using readComment_append (r := t ++ r) hbody
  · cases h

theorem prefix_of_readComment (h : readComment s ≠ none) : "<!--".toList <+: s := by
  unfold readComment at h
  split at h
  · next u => exact ⟨u, rfl⟩
  · exact (h rfl).elim

theorem replace_comment_of_absent (h : ¬ "<!--".toList <:+: s) : comment.replace [] s = s := by
  induction s with
  | nil => exact Construct.replace_nil comment
  | cons c s ih =>
    have hread : readComment (c :: s) = none := by
      by_contra hread
      exact h (prefix_of_readComment hread).isInfix
    have hplain : comment.replace [] (c :: s) = c :: comment.replace [] s :=
      Construct.replace_cons_of_none hread
    rw [hplain, ih fun hm => h (List.infix_cons hm)]

theorem readComment_cons_append (hs : ClosesComments (c :: s)) (h : readComment (c :: s) = none) :
    readComment (c :: (s ++ '<' :: r)) = none := by
  by_contra hread
  have hmark : "<!--".toList <+: c :: (s ++ '<' :: r) := prefix_of_readComment hread
  have hopen : "<!--".toList <+: c :: s := by
    rw [show "<!--".toList = '<' :: "!--".toList from rfl, List.cons_prefix_cons] at hmark ⊢
    exact ⟨hmark.1, prefix_of_prefix_append (by decide) hmark.2⟩
  have hclose := hs _ (by simp) hopen
  obtain ⟨u, hu⟩ := hopen
  rw [← hu] at h hclose
  exact afterComment_ne_none hclose (by simpa [readComment] using h)

/-- Comments are taken out of a text that closes them as if the text stood alone. -/
theorem replace_comment_append (h : ClosesComments s) : comment.replace [] (s ++ '<' :: r) =
    comment.replace [] s ++ comment.replace [] ('<' :: r) := by
  -- a comment takes many characters off at once, so the induction is on the length
  induction hn : s.length using Nat.strong_induction_on generalizing s with
  | h n ih =>
    cases s with
    | nil => rw [Construct.replace_nil]; rfl
    | cons c s =>
      cases hread : readComment (c :: s) with
      | none =>
        have hplain : comment.replace [] (c :: s) = c :: comment.replace [] s :=
          Construct.replace_cons_of_none hread
        have happend : comment.replace [] (c :: (s ++ '<' :: r)) =
            c :: comment.replace [] (s ++ '<' :: r) :=
          Construct.replace_cons_of_none (readComment_cons_append h hread)
        have hrest := ih s.length (by simp [← hn]) (h.of_suffix (List.suffix_cons c s)) rfl
        rw [List.cons_append, happend, hplain, hrest]
        rfl
      | some x =>
        obtain ⟨⟨⟩, t⟩ := x
        obtain ⟨⟨u, hu⟩, hne⟩ := readComment_suffix hread
        have hlt : t.length < (c :: s).length := Construct.length_lt (k := comment) hread
        have hrest := ih t.length (hn ▸ hlt) (h.of_suffix ⟨u, hu⟩) rfl
        have hall : comment.read (u ++ t) = some ((), t) := hu ▸ hread
        have happend : comment.read (u ++ (t ++ '<' :: r)) = some ((), t ++ '<' :: r) := by
          rw [← List.append_assoc, hu]
          exact readComment_append_right hread
        rw [← hu, List.append_assoc, Construct.replace_of_read happend,
          Construct.replace_of_read hall, hrest]
        rfl

end FeatureAudit.Markup
