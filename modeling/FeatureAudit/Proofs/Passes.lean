import FeatureAudit.Proofs.Items

/-! What is left of a page written out item by item when comments and what scripts and styles hold
have been taken out: no pass over the page takes anything from another item. -/
namespace FeatureAudit.Item

open Markup

variable {name r : List Char} {as : Attributes} {i : Item} {items : List Item} {kind : Enclosing}

/-- What is left of an item without comments. -/
def cleared : Item → Item
  | comment _ => text []
  | element kind as body => element kind as (Markup.comment.replace [] body)
  | i => i

def emptied (kind : Enclosing) : Item → Item
  | element k as body => if k = kind then startTag kind.name [] else element k as body
  | i => i

/-- What is left of an item that is stripped of comments and of what scripts and styles hold. -/
def bare : Item → Item
  | comment _ => text []
  | element kind _ _ => startTag kind.name []
  | i => i

theorem outlined_cleared (h : i.Outlined) : i.cleared.Outlined := by
  cases i with
  | comment => simp [cleared, Outlined]
  | _ => exact h

theorem outlined_emptied (h : i.Outlined) : (i.emptied kind).Outlined := by
  cases i with
  | element k as body =>
    by_cases hk : k = kind
    · simp [emptied, hk, Outlined, isName_name]
    · simpa [emptied, hk] using h
  | _ => exact h

theorem emptied_emptied_cleared (i : Item) : (i.cleared.emptied .script).emptied .style = i.bare := by
  cases i with
  | element kind => cases kind <;> rfl
  | _ => rfl

/-! Comments. -/

theorem unread_comment_renderStartTag (hname : IsName name) (has : ∀ a ∈ as, WrittenAttribute a) :
    Unread readComment (renderStartTag name as) r := by
  refine unread_renderStartTag atBracket_readComment hname has ?_
  obtain ⟨c, t, rfl, hc, -⟩ := hname.exists_cons
  exact readComment_cons_of_ne fun he => absurd (he ▸ hc) (by decide)

theorem unread_comment_renderEndTag (hname : IsName name) :
    Unread readComment (renderEndTag name) r :=
  unread_renderEndTag atBracket_readComment hname.bracket_notMem fun _ =>
    readComment_cons_of_ne (by decide)

theorem replace_comment_render (h : i.Outlined)
    (hc : ∀ kind as body, i = element kind as body → ClosesComments body) :
    Markup.comment.replace [] (i.render ++ r) = i.cleared.render ++ Markup.comment.replace [] r := by
  cases i with
  | text => exact Construct.replace_of_unread (atBracket_readComment.unread h.1)
  | endTag => exact Construct.replace_of_unread (unread_comment_renderEndTag h)
  | comment cs =>
    have hread : readComment ((comment cs).render ++ r) = some ((), r) := by
      simpa [render] using readComment_append (r := r) h
    exact Construct.replace_of_read hread
  | startTag => exact Construct.replace_of_unread (unread_comment_renderStartTag h.1 h.bracketed.2)
  | element kind as body =>
    have hopen : Unread readComment (renderStartTag kind.name as)
        (body ++ (renderEndTag kind.name ++ r)) :=
      unread_comment_renderStartTag (isName_name kind) h.bracketed
    have hclose : Unread readComment (renderEndTag kind.name) r :=
      unread_comment_renderEndTag (isName_name kind)
    have hbody : Markup.comment.replace [] (body ++ (renderEndTag kind.name ++ r)) =
        Markup.comment.replace [] body ++
          Markup.comment.replace [] (renderEndTag kind.name ++ r) :=
      replace_comment_append (hc kind as body rfl)
    simp only [render, cleared, List.append_assoc]
    rw [Construct.replace_of_unread hopen, hbody, Construct.replace_of_unread hclose]

theorem replace_comment (h : ∀ i ∈ items, i.Outlined)
    (hc : ∀ kind as body, element kind as body ∈ items → ClosesComments body) :
    Markup.comment.replace [] (items.flatMap render) = (items.map cleared).flatMap render := by
  rw [List.flatMap_map]
  refine flatMap_of_parts (Construct.replace_nil _) fun i hi r => ?_
  exact replace_comment_render (h i hi) fun kind as body he => hc kind as body (he ▸ hi)

/-! Elements. -/

theorem replace_element (h : ∀ i ∈ items, i.Outlined ∧ i.Guarded kind) :
    (Markup.element kind.name).replace (renderStartTag kind.name []) (items.flatMap render) =
      (items.map (emptied kind)).flatMap render := by
  rw [Construct.replace_flatMap (pieces_flatMap_element kind h), List.flatMap_map]
  refine congrArg (List.flatMap · items) (funext fun i => ?_)
  cases i with
  | element k as body => by_cases hk : k = kind <;> simp [parts, emptied, hk, render]
  | _ => rfl

/-! Legible items. -/

/-- A body can do no harm in which none of the letters occur that the passes look for. -/
theorem contained_of_absent {body : List Char} (hcomment : ¬ "<!--".toList <:+: body)
    (hend : ¬ '<' :: '/' :: kind.name <:+: body.map foldCase)
    (hscript : kind = .style → ¬ '<' :: Enclosing.script.name <:+: body.map foldCase) :
    Contained kind body where
  comments := closesComments_of_absent hcomment
  ending := by rwa [replace_comment_of_absent hcomment]
  script := by rwa [replace_comment_of_absent hcomment]

theorem Clean.legible (h : i.Clean) : i.Legible := by
  refine ⟨h.1.outlined, ?_⟩
  cases i with
  | startTag name as => exact ⟨h.2, fun a ha => .inr (h.1.2 a ha).equals_notMem⟩
  | element kind as body =>
    have hbody : '<' ∉ body := h.1.2
    exact contained_of_absent (fun hm => hbody (hm.subset (by decide)))
      (not_infix_of_bracket_notMem hbody) fun _ => not_infix_of_bracket_notMem hbody
  | _ => trivial

theorem guarded_of_held (hheld : i.held = none) (ht : i.tagName? ≠ some kind.name) :
    i.Guarded kind where
  ending := by
    intro x hx
    cases i <;> simp_all [held, parts]
  start := fun _ => ⟨fun s hs => (by simp [hheld] at hs), ht⟩

theorem guarded_of_plain (hheld : i.held = none) (ht : i.tagName? = none) : i.Guarded kind :=
  guarded_of_held hheld (by simp [ht])

/-- Scripts are found before styles, and no script is left when styles are. -/
theorem Legible.guarded (h : i.Legible) :
    i.cleared.Guarded .script ∧ (i.cleared.emptied .script).Guarded .style := by
  cases i with
  | text => exact ⟨guarded_of_plain rfl rfl, guarded_of_plain rfl rfl⟩
  | endTag => exact ⟨guarded_of_plain rfl rfl, guarded_of_plain rfl rfl⟩
  | comment => exact ⟨guarded_of_plain rfl rfl, guarded_of_plain rfl rfl⟩
  | startTag name as =>
    have hname : ∀ kind : Enclosing, (startTag name as).tagName? ≠ some kind.name := by
      intro kind ht
      refine h.2.1 ?_
      rw [show Text.asciiLower name = kind.name from Option.some.inj ht]
      cases kind <;> simp
    exact ⟨guarded_of_held rfl (hname _), guarded_of_held rfl (hname _)⟩
  | element kind as body =>
    have hbody : Contained kind body := h.2
    cases kind with
    | script =>
      have hother : (startTag Enclosing.script.name []).tagName? ≠ some Enclosing.style.name := by
        decide
      refine ⟨⟨?_, fun hk => by cases hk⟩, guarded_of_held rfl hother⟩
      intro x hx
      obtain rfl : (renderAttributes as, Markup.comment.replace [] body) = x := by
        simpa [parts, cleared] using hx
      exact hbody.ending
    | style =>
      have hother : some Enclosing.style.name ≠ some Enclosing.script.name := by decide
      refine ⟨⟨?_, fun _ => ⟨?_, hother⟩⟩, ?_, fun hk => by cases hk⟩
      · intro x hx
        cases hx
      · intro s hs
        obtain rfl : Markup.comment.replace [] body = s := Option.some.inj hs
        exact hbody.script rfl
      · intro x hx
        obtain rfl : (renderAttributes as, Markup.comment.replace [] body) = x := by
          simpa [parts, cleared, emptied] using hx
        exact hbody.ending

theorem bare_flatMap_render_of_legible (h : ∀ i ∈ items, i.Legible) :
    Markup.bare (items.flatMap render) = items.flatMap fun i => i.bare.render := by
  have hscript : ∀ i ∈ items.map cleared, i.Outlined ∧ i.Guarded .script := by
    intro j hj
    obtain ⟨i, hi, rfl⟩ := List.mem_map.1 hj
    exact ⟨outlined_cleared (h i hi).1, (h i hi).guarded.1⟩
  have hstyle : ∀ i ∈ (items.map cleared).map (emptied .script), i.Outlined ∧ i.Guarded .style := by
    intro j hj
    obtain ⟨k, hk, rfl⟩ := List.mem_map.1 hj
    obtain ⟨i, hi, rfl⟩ := List.mem_map.1 hk
    exact ⟨outlined_emptied (outlined_cleared (h i hi).1), (h i hi).guarded.2⟩
  have hreplace : Markup.bare (items.flatMap render) =
      (((items.map cleared).map (emptied .script)).map (emptied .style)).flatMap render := by
    rw [← replace_element hstyle, ← replace_element hscript,
      ← replace_comment (fun i hi => (h i hi).1) fun kind as body hi => (h _ hi).2.comments]
    rfl
  rw [hreplace]
  simp [List.flatMap_map, emptied_emptied_cleared]

theorem bare_flatMap_render (h : ∀ i ∈ items, i.Clean) :
    Markup.bare (items.flatMap render) = items.flatMap fun i => i.bare.render :=
  bare_flatMap_render_of_legible fun i hi => (h i hi).legible

end FeatureAudit.Item
