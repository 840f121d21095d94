import FeatureAudit.Proofs.Extraction

/-! Markup in comments and in what scripts and styles hold. Scripts, styles and links are searched
for in the whole page, each by themselves, so what a comment or one of them holds may be taken for
another. -/
namespace FeatureAudit

open Markup

namespace Markup

variable {α : Type} {k : Construct α} {a : α} {c d : Char} {name s t r : List Char}

/-- In a text stands a bracket and behind it the name, in any case, and there a word ends. -/
def Opens (name s : List Char) : Prop :=
  ∃ front word rest, s = front ++ '<' :: (word ++ rest) ∧ word.map foldCase = name ∧
    Text.endsWord rest = true

theorem opens_iff : Opens name s ↔
    ∃ t ∈ s.tails, t.head? = some '<' ∧ ∃ r ∈ afterName name t.tail, Text.endsWord r = true := by
  constructor
  · rintro ⟨front, word, rest, rfl, hword, hrest⟩
    refine ⟨_, (List.mem_tails _ _).2 (List.suffix_append _ _), rfl, rest, ?_, hrest⟩
    exact afterName_of_map_foldCase hword
  · rintro ⟨t, ht, hhead, r, hr, hend⟩
    obtain ⟨front, rfl⟩ := (List.mem_tails _ _).1 ht
    obtain ⟨u, rfl⟩ : ∃ u, t = '<' :: u := by
      cases t with
      | nil => simp at hhead
      | cons c u => exact ⟨u, by simpa using hhead⟩
    obtain ⟨word, hword, hfold⟩ := eq_append_of_afterName hr
    exact ⟨front, word, r, by simpa using hword, hfold, hend⟩

instance (name s : List Char) : Decidable (Opens name s) := decidable_of_iff _ opens_iff.symm

theorem exists_of_startTag (h : startTag name s ≠ none) :
    ∃ word rest, s = '<' :: (word ++ rest) ∧ word.map foldCase = name ∧
      Text.endsWord rest = true := by
  unfold startTag at h
  split at h
  · next t =>
    split at h
    · next u hu =>
      obtain ⟨word, rfl, hword⟩ := eq_append_of_afterName hu
      split at h
      · next hend => exact ⟨word, u, rfl, hword, hend⟩
      · exact (h rfl).elim
    · exact (h rfl).elim
  · exact (h rfl).elim

theorem endsWord_of_append (h : Text.endsWord (s ++ r) = true) : Text.endsWord s = true := by
  cases s with
  | nil => rfl
  | cons c s => exact h

/-- A mark of which the name has nothing ends a start tag that is not in front of the mark. -/
theorem unread_startTag_of_not_opens (hd : foldCase d ∉ name) (h : ¬ Opens name s) :
    Unread (startTag name) s (d :: r) := by
  refine unread_of_suffixes fun t ht hne => ?_
  by_contra hread
  obtain ⟨word, rest, he, hword, hend⟩ := exists_of_startTag hread
  obtain ⟨front, rfl⟩ := ht
  cases t with
  | nil => exact hne rfl
  | cons c t =>
    obtain ⟨rfl, htail⟩ := List.cons.inj he
    -- the mark is no letter of the name, so the name ends in front of it
    have hnot : d ∉ word := fun hm => hd (hword ▸ List.mem_map_of_mem hm)
    have hprefix : word <+: t ++ d :: r := ⟨rest, htail.symm⟩
    obtain ⟨later, rfl⟩ := prefix_of_prefix_append hnot hprefix
    obtain rfl : later ++ d :: r = rest := by simpa using htail
    exact h ⟨front, word, later, rfl, hword, endsWord_of_append hend⟩

/-- Behind its end nothing matters to a tag. -/
theorem startTag_concat_append (hn : ∀ c ∈ name, c.isLower = true) :
    startTag name (s ++ ['>'] ++ r) =
      (startTag name (s ++ ['>'])).map fun x => (x.1, x.2 ++ r) := by
  have hclose : foldCase '>' ∉ name := fun hm => absurd (hn _ hm) (by decide)
  cases s with
  | nil => rfl
  | cons c s =>
    by_cases hc : c = '<'
    · subst hc
      rw [List.append_assoc]
      simp only [List.cons_append, List.nil_append, startTag, afterName_append hclose]
      by_cases hp : name <+: s.map foldCase
      · have hend : Text.endsWord (s.drop name.length ++ '>' :: r) =
            Text.endsWord (s.drop name.length ++ ['>']) := by
          cases s.drop name.length <;> rfl
        have hmark := upTo_append_of_mem (m := '>') (u := s.drop name.length ++ ['>']) (r := r)
          (by simp)
        rw [List.append_assoc, List.singleton_append] at hmark
        simp only [if_pos hp, hend]
        by_cases hw : Text.endsWord (s.drop name.length ++ ['>']) = true
        · simpa only [if_pos hw] using hmark
        · simp only [if_neg hw, Option.map_none]
      · simp only [if_neg hp, Option.map_none]
    · simp only [List.cons_append, startTag_of_ne hc, Option.map_none]

end Markup

namespace Item

variable {i : Item} {items : List Item} {kind : Enclosing} {r : List Char}

/-- A comment or an element that ends where it is said to, or text and tags of other names; no tag
has attributes. -/
def Simple : Item → Prop
  | text cs => '<' ∉ cs
  | endTag name => IsName name
  | comment cs => ¬ "-->".toList <:+: cs
  | startTag name as => IsName name ∧ as = [] ∧
      Text.asciiLower name ∉ ["script".toList, "style".toList, "link".toList]
  | element kind as body => as = [] ∧ ¬ '<' :: '/' :: kind.name <:+: body.map foldCase

instance (i : Item) : Decidable i.Simple :=
  match i with
  | text cs => inferInstanceAs (Decidable ('<' ∉ cs))
  | endTag name => inferInstanceAs (Decidable (IsName name))
  | comment cs => inferInstanceAs (Decidable (¬ "-->".toList <:+: cs))
  | startTag .. => inferInstanceAs (Decidable (IsName _ ∧ _ = [] ∧ _ ∉ _))
  | element .. => inferInstanceAs (Decidable (_ = [] ∧ ¬ _ <:+: _))

/-- Neither a comment nor a body holds the start of a script or a style other than its own, or a link
to a style sheet. -/
@[mk_iff] structure Discreet (i : Item) : Prop where
  elements : ∀ kind : Enclosing, i.parts kind = none → ∀ s ∈ i.held, ¬ Opens kind.name s
  links : ∀ t ∈ i.render.tails, ∀ x ∈ Markup.startTag "link".toList t, linksStylesheet x.1 = false

instance (i : Item) : Decidable i.Discreet :=
  decidable_of_iff ((∀ kind ∈ [Enclosing.script, .style], i.parts kind = none →
      ∀ s ∈ i.held, ¬ Opens kind.name s) ∧ ∀ t ∈ i.render.tails,
        ∀ x ∈ Markup.startTag "link".toList t, linksStylesheet x.1 = false) <| by
    rw [discreet_iff]
    refine and_congr_left' ⟨fun h kind => h kind ?_, fun h kind _ => h kind⟩
    cases kind <;> simp

/-- What an element of a kind holds. -/
def body? (kind : Enclosing) : Item → Option (List Char)
  | element k _ body => if k = kind then some body else none
  | _ => none

theorem Simple.bracketed (h : i.Simple) : i.Bracketed := by
  cases i with
  | text => exact h
  | endTag => exact h
  | comment => trivial
  | startTag => exact ⟨h.1, by simp [h.2.1]⟩
  | element => simp [Bracketed, h.1]

theorem Simple.pieces_element (h : i.Simple) (hi : i.Discreet) :
    (Markup.element kind.name).pieces (i.render ++ r) =
      Construct.whole (i.parts kind) i.render ++ (Markup.element kind.name).pieces r := by
  cases hp : i.parts kind with
  | none =>
    rw [← hp]
    refine pieces_of_parts_eq_none h.bracketed hp ?_ (tagName?_ne_of_parts hp ?_)
    · intro s hs d hd r
      have hmark : foldCase d ∉ kind.name :=
        foldCase_notMem (isLower_name kind) (by rcases List.mem_pair.1 hd with rfl | rfl <;> simp)
      exact unread_startTag_of_not_opens hmark (hi.elements kind hp s hs)
    · rintro name as rfl hname
      refine h.2.2 ?_
      rw [hname]
      cases kind <;> decide
  | some x =>
    rw [← hp]
    refine pieces_of_mem_parts h.bracketed hp ?_
    cases i with
    | element k as body =>
      obtain ⟨rfl, rfl⟩ : k = kind ∧ (renderAttributes as, body) = x := by simpa [parts] using hp
      exact h.2
    | _ => cases hp

/-- An item is text or ends with a bracket. -/
theorem Simple.bracket (h : i.Simple) : '<' ∉ i.render ∨ ∃ s, i.render = s ++ ['>'] := by
  cases i with
  | text cs => exact .inl h
  | endTag name => exact .inr ⟨'<' :: '/' :: name, by simp [render, renderEndTag]⟩
  | comment cs => exact .inr ⟨"<!--".toList ++ (cs ++ ['-', '-']), by simp [render]⟩
  | startTag name as =>
    exact .inr ⟨'<' :: (name ++ renderAttributes as), by simp [render, renderStartTag]⟩
  | element kind as body =>
    refine .inr ⟨renderStartTag kind.name as ++ (body ++ '<' :: '/' :: kind.name), ?_⟩
    simp [render, renderEndTag]

/-- No link to a style sheet starts in an item, whatever is behind it. -/
theorem Simple.unread_sheetLinks (h : i.Simple) (hi : i.Discreet) :
    Unread (fun t => (Markup.startTag "link".toList t).filter fun x => linksStylesheet x.1)
      i.render r := by
  rcases h.bracket with hopen | ⟨s, hs⟩
  · have hstart : Unread (Markup.startTag "link".toList) i.render r :=
      atBracket_startTag.unread hopen
    exact hstart.mono fun t ht => by rw [ht, Option.filter_none]
  · refine unread_of_suffixes fun t ht hne => ?_
    obtain ⟨u, rfl⟩ : ∃ u, t = u ++ ['>'] := by
      rw [hs] at ht
      rcases List.suffix_concat_iff.1 ht with rfl | ⟨u, rfl, -⟩
      · exact (hne rfl).elim
      · exact ⟨u, by simp⟩
    have hlink := hi.links _ ((List.mem_tails _ _).2 ht)
    rw [startTag_concat_append (List.all_eq_true.1 (by decide))]
    cases hread : Markup.startTag "link".toList (u ++ ['>']) with
    | none => rfl
    | some x => simp [Option.filter, hlink x hread]

theorem map_parts (kind : Enclosing) (i : Item) : (i.parts kind).map Prod.snd = i.body? kind := by
  cases i with
  | element k as body => by_cases hk : k = kind <;> simp [body?, parts, hk]
  | _ => rfl

theorem all_element_of_discreet (kind : Enclosing) (h : ∀ i ∈ items, i.Simple ∧ i.Discreet) :
    (Markup.element kind.name).all (items.flatMap render) = items.filterMap (parts kind) :=
  Construct.all_flatMap (Construct.pieces_flatMap_whole fun i hi _ =>
    (h i hi).1.pieces_element (h i hi).2)

theorem links_of_discreet (h : ∀ i ∈ items, i.Simple ∧ i.Discreet) :
    ∀ l ∈ links.all (items.flatMap render), linksStylesheet l = false := by
  have hpage : Unread (fun t => (Markup.startTag "link".toList t).filter fun x =>
      linksStylesheet x.1) (items.flatMap render) [] :=
    unread_flatMap fun i hi _ => (h i hi).1.unread_sheetLinks (h i hi).2
  intro l hl
  obtain ⟨t, ht, r, hread⟩ := Construct.exists_suffix_of_mem_all hl
  have hne : t ≠ [] := by
    rintro rfl
    cases hread
  have hnone := hpage.of_suffix ht hne
  have hlink : Markup.startTag "link".toList (t ++ []) = some (l, r) :=
    (List.append_nil t).symm ▸ hread
  simp only [hlink] at hnone
  by_contra hsheet
  simp [Option.filter, hsheet] at hnone

theorem Simple.scriptOf (h : i.Simple) {x : List Char × List Char} (hx : x ∈ i.parts .script)
    (address : String → String) : Artifacts.scriptOf address x = .inline (String.ofList x.2) := by
  cases i with
  | element k as body =>
    obtain ⟨rfl, rfl⟩ : k = .script ∧ (renderAttributes as, body) = x := by simpa [parts] using hx
    obtain rfl : as = [] := h.1
    rfl
  | _ => cases hx

end Item

theorem locatedSheets_of_no_links {cs : List Char} (address : String → String)
    (h : ∀ l ∈ links.all cs, linksStylesheet l = false) :
    (Artifacts.locatedSheets address cs).map Prod.snd =
      (styles.all cs).map Artifacts.sheetOfStyle := by
  have hnone : (links.located cs).filter (fun l => linksStylesheet l.2) = [] := by
    rw [List.filter_eq_nil_iff]
    intro l hl
    have hmem : l.2 ∈ links.all cs := Construct.map_snd_located ▸ List.mem_map_of_mem hl
    simp [h _ hmem]
  rw [Artifacts.locatedSheets, hnone, List.map_nil, List.merge_right, List.map_map,
    ← Construct.map_snd_located, List.map_map]
  rfl

/-- Of a page of discreet items the scripts and the style sheets are those of its elements, in their
order, and nothing else is. -/
theorem resources_of_discreet {items : List Item} (base : Option String)
    (h : ∀ i ∈ items, i.Simple ∧ i.Discreet) :
    let a := Batch.artifactsOf base (String.ofList (items.flatMap Item.render))
    a.scripts = (items.filterMap (Item.body? .script)).map (fun s => .inline (String.ofList s)) ∧
      a.stylesheets =
        (items.filterMap (Item.body? .style)).map fun t => .readable none [String.ofList t] := by
  have hscripts : scripts.all (items.flatMap Item.render) = items.filterMap (Item.parts .script) :=
    Item.all_element_of_discreet .script h
  have hstyles : styles.all (items.flatMap Item.render) = items.filterMap (Item.parts .style) :=
    Item.all_element_of_discreet .style h
  have hlinks := Item.links_of_discreet h
  intro a
  constructor
  · have hinline : ∀ i ∈ items, (i.parts .script).map (Artifacts.scriptOf
        (Url.resolve (base.bind fun b => (Url.parse b).toOption))) =
        (i.body? .script).map fun s => .inline (String.ofList s) := by
      intro i hi
      rw [← Item.map_parts, Option.map_map]
      exact Option.map_congr fun x hx => (h i hi).1.scriptOf hx _
    simp only [a, Batch.artifactsOf, Artifacts.ofMarkup, String.toList_ofList, hscripts,
      List.map_filterMap]
    exact List.filterMap_congr hinline
  · simp only [a, Batch.artifactsOf, Artifacts.ofMarkup, String.toList_ofList,
      locatedSheets_of_no_links _ hlinks, hstyles, List.map_filterMap, ← Item.map_parts,
      Option.map_map]
    rfl

/-- Comments and bodies with names that begin like those of scripts and styles, with links that lead
elsewhere, and with ends of comments and of other elements. -/
def quotations : List Item := [
  .comment " <scripts> </style> <link rel=icon> script ".toList,
  .startTag "p".toList [],
  .element .script [] "if (a<b) w('<!-- <styles> </style> <link href=stylesheet>')".toList,
  .text "script > style".toList,
  .element .style [] "/* </script> --> <linked rel=stylesheet> */".toList,
  .element .script [] []]

theorem resources_of_discreet_quotations :
    (∀ i ∈ quotations, i.Simple ∧ i.Discreet) ∧
      let a := Batch.artifactsOf none (String.ofList (quotations.flatMap Item.render))
      a.scripts =
          [.inline "if (a<b) w('<!-- <styles> </style> <link href=stylesheet>')", .inline ""] ∧
        a.stylesheets = [.readable none ["/* </script> --> <linked rel=stylesheet> */"]] := by
  have hdiscreet : ∀ i ∈ quotations, i.Simple ∧ i.Discreet := by decide +kernel
  obtain ⟨hscripts, hsheets⟩ := resources_of_discreet none hdiscreet
  exact ⟨hdiscreet, hscripts.trans (by decide), hsheets.trans (by decide)⟩

/-- A script that has been put into a comment is still one of the page. -/
theorem script_in_comment :
    let page : List Item := [.comment " <script src=old.js></script> ".toList]
    (∀ i ∈ page, i.Simple) ∧ page.filterMap (Item.body? .script) = [] ∧
      (Batch.artifactsOf none (String.ofList (page.flatMap Item.render))).scripts =
        [.external "old.js"] := by
  decide +kernel

end FeatureAudit
