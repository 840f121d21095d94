import FeatureAudit.Page.Extract
import FeatureAudit.Proofs.CleanPage

/-! The constructs that are found in a page written out item by item: none of them starts in one
item and ends in another. -/
namespace FeatureAudit

open Markup

variable {β : Type} {f : List Char → Option β} {n name s r : List Char} {as : Attributes} {i : Item}
  {items : List Item} {kind : Enclosing}

/-! Constructs that start with a bracket. -/

def AtBracket (f : List Char → Option β) : Prop := ∀ c r, c ≠ '<' → f (c :: r) = none

theorem atBracket_readComment : AtBracket readComment := fun _ _ => readComment_of_ne

theorem atBracket_startTag : AtBracket (startTag n) := fun _ _ => startTag_of_ne

theorem atBracket_readTagName : AtBracket readTagName := fun _ _ => readTagName_of_ne

theorem atBracket_afterEndTag : AtBracket (afterEndTag n) := fun _ _ => afterEndTag_of_ne

theorem AtBracket.unread (hf : AtBracket f) (hs : '<' ∉ s) : Unread f s r :=
  unread_of_forall (p := fun c => c != '<') (fun c r hc => hf c r (by simpa using hc))
    fun c hc => by simpa using fun he : c = '<' => hs (he ▸ hc)

theorem AtBracket.unread_cons (hf : AtBracket f) (h : f ('<' :: (s ++ r)) = none) (hs : '<' ∉ s) :
    Unread f ('<' :: s) r := ⟨h, hf.unread hs⟩

theorem AtBracket.unread_cons_iff (hf : AtBracket f) (hs : '<' ∉ s) :
    Unread f ('<' :: s) r ↔ f ('<' :: (s ++ r)) = none :=
  ⟨fun h => h.1, fun h => hf.unread_cons h hs⟩

/-! Names and tags. -/

namespace Item

theorem IsName.bracket_notMem (h : IsName s) : '<' ∉ s := fun hm => absurd (h.all _ hm) (by decide)

theorem IsName.exists_cons (h : IsName s) :
    ∃ c t, s = c :: t ∧ c.isAlpha = true ∧ ∀ d ∈ t, d.isAlphanum = true :=
  exists_cons_of_head h.head h.all

/-- In other letters a name is a name as well. -/
theorem isName_of_asciiLower (h : IsName (Text.asciiLower s)) : IsName s := by
  have halpha {c : Char} (hc : c.toLower.isAlpha = true) : c.isAlpha = true := by
    by_cases hu : c.isUpper = true
    · simp [Char.isAlpha, hu]
    · rwa [Char.toLower_eq_of_not_isUpper hu] at hc
  have halphanum {c : Char} (hc : c.toLower.isAlphanum = true) : c.isAlphanum = true := by
    by_cases hu : c.isUpper = true
    · simp [Char.isAlphanum, Char.isAlpha, hu]
    · rwa [Char.toLower_eq_of_not_isUpper hu] at hc
  refine ⟨?_, fun c hc => halphanum (h.all _ (List.mem_map_of_mem hc))⟩
  obtain ⟨d, hd, ha⟩ := h.head
  obtain ⟨c, hc, rfl⟩ : ∃ c ∈ s.head?, c.toLower = d := by
    simpa [Text.asciiLower, List.head?_map] using hd
  exact ⟨c, hc, halpha ha⟩

theorem isLower_name (kind : Enclosing) : ∀ c ∈ kind.name, c.isLower = true :=
  List.all_eq_true.1 (by cases kind <;> decide)

theorem isName_name (kind : Enclosing) : IsName kind.name := by cases kind <;> decide

theorem asciiLower_name (kind : Enclosing) : Text.asciiLower kind.name = kind.name := by
  cases kind <;> decide

/-- The tag with which an item starts. -/
def opening : Item → Option (List Char × Attributes)
  | startTag name as => some (name, as)
  | element kind as _ => some (kind.name, as)
  | _ => none

theorem tagName?_eq (i : Item) : i.tagName? = i.opening.map fun x => Text.asciiLower x.1 := by
  cases i <;> simp [tagName?, opening, asciiLower_name]

theorem WellFormed.outlined (h : i.WellFormed) : i.Outlined := by
  cases i with
  | startTag name as => exact ⟨h.1, fun a ha => (h.2 a ha).quoted⟩
  | element kind as body => exact fun a ha => (h.1 a ha).quoted
  | comment cs => exact h.2
  | _ => exact h

/-- An item whose tags end with their brackets, whatever stands between the tags. -/
def Bracketed : Item → Prop
  | text cs => '<' ∉ cs
  | endTag name => IsName name
  | comment _ => True
  | startTag name as => IsName name ∧ ∀ a ∈ as, WrittenAttribute a
  | element _ as _ => ∀ a ∈ as, WrittenAttribute a

theorem Outlined.bracketed (h : i.Outlined) : i.Bracketed := by
  cases i with
  | text => exact h.1
  | endTag => exact h
  | comment => trivial
  | startTag => exact ⟨h.1, fun a ha => (h.2 a ha).written⟩
  | element => exact fun a ha => (h a ha).written

theorem Bracketed.opening (h : i.Bracketed) (hx : (name, as) ∈ i.opening) :
    IsName name ∧ ∀ a ∈ as, WrittenAttribute a := by
  cases i with
  | startTag => simp_all [Item.opening, Bracketed]
  | element kind =>
    obtain ⟨rfl, rfl⟩ : kind.name = name ∧ _ = as := by simpa [Item.opening] using hx
    exact ⟨isName_name kind, h⟩
  | _ => simp [Item.opening] at hx

theorem unread_renderStartTag (hf : AtBracket f) (hname : IsName name)
    (has : ∀ a ∈ as, WrittenAttribute a) (h : f (renderStartTag name as ++ r) = none) :
    Unread f (renderStartTag name as) r := by
  have hattributes := bracket_notMem_renderAttributes has (Or.inl rfl)
  exact hf.unread_cons h (by simp [hname.bracket_notMem, hattributes])

theorem unread_renderEndTag (hf : AtBracket f) (hname : '<' ∉ name)
    (h : ∀ s, f ('<' :: '/' :: s) = none) : Unread f (renderEndTag name) r :=
  hf.unread_cons (h _) (by simp [hname])

/-- What a comment or an element holds. -/
def held : Item → Option (List Char)
  | comment cs => some cs
  | element _ _ body => some body
  | _ => none

theorem WellFormed.bracket_notMem (h : i.WellFormed) (hs : s ∈ i.held) : '<' ∉ s := by
  cases i with
  | comment cs => exact Option.some.inj hs ▸ h.1
  | element kind as body => exact Option.some.inj hs ▸ h.2
  | _ => cases hs

/-- Nothing is read in an item in which nothing is read where it starts, nor in what it holds. -/
theorem unread_render (hf : AtBracket f) (h : i.Bracketed) (hend : ∀ s, f ('<' :: '/' :: s) = none)
    (hcomment : ∀ cs, i = comment cs → ∀ s, f ('<' :: '!' :: s) = none)
    (hopen : ∀ x ∈ i.opening, ∀ r, f (renderStartTag x.1 x.2 ++ r) = none)
    (hheld : ∀ s ∈ i.held, ∀ d ∈ ['<', '-'], ∀ r, Unread f s (d :: r)) :
    Unread f i.render r := by
  cases i with
  | text cs => exact hf.unread h
  | endTag name => exact unread_renderEndTag hf h.bracket_notMem hend
  | comment cs =>
    have hmark : Unread f "<!--".toList (cs ++ '-' :: ['-', '>'] ++ r) :=
      hf.unread_cons (hcomment cs rfl _) (by decide)
    have hbody : Unread f cs ('-' :: (['-', '>'] ++ r)) := hheld cs rfl '-' (by simp) _
    exact unread_append.2 ⟨hmark, unread_append.2 ⟨hbody, hf.unread (by decide)⟩⟩
  | startTag name as => exact unread_renderStartTag hf h.1 h.2 (hopen (name, as) rfl r)
  | element kind as body =>
    refine unread_append.2 ⟨?_, unread_append.2 ⟨hheld body rfl '<' (by simp) _, ?_⟩⟩
    · exact unread_renderStartTag hf (isName_name kind) h (hopen (kind.name, as) rfl _)
    · exact unread_renderEndTag hf (isName_name kind).bracket_notMem hend

/-! Start tags with a given name. -/

theorem startTag_renderStartTag (hn : ∀ c ∈ n, c.isLower = true) (hname : IsName name)
    (has : ∀ a ∈ as, WrittenAttribute a) :
    Markup.startTag n (renderStartTag name as ++ r) =
      if Text.asciiLower name = n then some (renderAttributes as, r) else none := by
  simpa [renderStartTag] using
    startTag_append (r := r) hn hname.all (insideTag_renderAttributes has)

/-- What an item holds has no start tag with the name in it. -/
def Silent (n : List Char) (i : Item) : Prop := ∀ s ∈ i.held, ¬ '<' :: n <:+: s.map foldCase

theorem WellFormed.silent (h : i.WellFormed) : i.Silent n :=
  fun _ hs => not_infix_of_bracket_notMem (h.bracket_notMem hs)

/-- What an item holds has no start tag with the name in it, with any mark behind it. -/
def Closed (n : List Char) (i : Item) : Prop :=
  ∀ s ∈ i.held, ∀ d ∈ ['<', '-'], ∀ r, Unread (Markup.startTag n) s (d :: r)

theorem foldCase_notMem (hn : ∀ c ∈ n, c.isLower = true) {c : Char}
    (hc : c ∈ ['/', '!', '<', '-']) : foldCase c ∉ n := by
  intro hm
  have := hn _ hm
  simp only [List.mem_cons, List.not_mem_nil, or_false] at hc
  rcases hc with rfl | rfl | rfl | rfl <;> exact absurd this (by decide)

theorem Silent.closed (h : i.Silent n) (hn : ∀ c ∈ n, c.isLower = true) : i.Closed n := by
  intro s hs d hd r
  have hfold : foldCase d ∉ n :=
    foldCase_notMem hn (by rcases List.mem_pair.1 hd with rfl | rfl <;> simp)
  exact marked_startTag.unread hfold (h s hs)

theorem unread_startTag (hn : ∀ c ∈ n, c.isLower = true) (hnil : n ≠ []) (h : i.Bracketed)
    (hs : i.Closed n) (ht : i.tagName? ≠ some n) : Unread (Markup.startTag n) i.render r := by
  refine unread_render atBracket_startTag h ?_ ?_ ?_ hs
  · exact fun s => startTag_cons_of_ne (foldCase_notMem hn (by simp)) hnil
  · exact fun _ _ s => startTag_cons_of_ne (foldCase_notMem hn (by simp)) hnil
  · intro x hx r
    have hne : Text.asciiLower x.1 ≠ n := by
      intro he
      rw [tagName?_eq, Option.mem_def.1 hx, Option.map_some, he] at ht
      exact ht rfl
    rw [startTag_renderStartTag hn (h.opening hx).1 (h.opening hx).2, if_neg hne]

/-! Elements with bodies. -/

/-- The attributes and the body of an element of a kind. -/
def parts (kind : Enclosing) : Item → Option (List Char × List Char)
  | element k as body => if k = kind then some (renderAttributes as, body) else none
  | _ => none

theorem name_injective {k : Enclosing} (h : k.name = kind.name) : k = kind := by
  revert h
  cases k <;> cases kind <;> decide

/-- Of the items that are no elements of a kind only start tags may have its name. -/
theorem tagName?_ne_of_parts (hp : i.parts kind = none)
    (hn : ∀ name as, i = startTag name as → Text.asciiLower name ≠ kind.name) :
    i.tagName? ≠ some kind.name := by
  intro ht
  cases i with
  | startTag name as => exact hn name as rfl (Option.some.inj ht)
  | element k =>
    obtain rfl : k = kind := name_injective (Option.some.inj ht)
    simp [parts] at hp
  | _ => simp [tagName?] at ht

theorem pieces_of_parts_eq_none (h : i.Bracketed) (hp : i.parts kind = none)
    (hs : i.Closed kind.name) (ht : i.tagName? ≠ some kind.name) :
    (Markup.element kind.name).pieces (i.render ++ r) =
      Construct.whole (i.parts kind) i.render ++ (Markup.element kind.name).pieces r := by
  rw [hp, Construct.whole_none]
  have hstart : Unread (Markup.startTag kind.name) i.render r :=
    unread_startTag (isLower_name kind) (by cases kind <;> decide) h hs ht
  exact Construct.pieces_of_unread (hstart.mono fun _ => readElement_of_startTag)

theorem pieces_of_mem_parts (h : i.Bracketed) {x : List Char × List Char} (hp : x ∈ i.parts kind)
    (hend : ¬ '<' :: '/' :: kind.name <:+: x.2.map foldCase) :
    (Markup.element kind.name).pieces (i.render ++ r) =
      Construct.whole (i.parts kind) i.render ++ (Markup.element kind.name).pieces r := by
  cases i with
  | element k as body =>
    obtain ⟨rfl, rfl⟩ : k = kind ∧ (renderAttributes as, body) = x := by simpa [parts] using hp
    have hslash : foldCase '<' ∉ '/' :: k.name := by cases k <;> decide
    have hbody : Unread (afterEndTag k.name) body ('<' :: '/' :: (k.name ++ '>' :: r)) :=
      marked_afterEndTag.unread hslash hend
    have hread : readElement k.name ((element k as body).render ++ r) =
        some ((renderAttributes as, body), r) := by
      simpa [render, renderStartTag, renderEndTag] using
        readElement_append (isLower_name k) (insideTag_renderAttributes h) hbody
    rw [Option.mem_def.1 hp]
    exact Construct.pieces_of_read hread
  | _ => cases hp

/-- The elements of a kind end with their own end tags, and nothing else starts like one. -/
structure Guarded (kind : Enclosing) (i : Item) : Prop where
  ending : ∀ x ∈ i.parts kind, ¬ '<' :: '/' :: kind.name <:+: x.2.map foldCase
  start : i.parts kind = none → i.Silent kind.name ∧ i.tagName? ≠ some kind.name

theorem pieces_element (kind : Enclosing) (h : i.Outlined) (hg : i.Guarded kind) :
    (Markup.element kind.name).pieces (i.render ++ r) =
      Construct.whole (i.parts kind) i.render ++ (Markup.element kind.name).pieces r := by
  cases hp : i.parts kind with
  | none =>
    rw [← hp]
    exact pieces_of_parts_eq_none h.bracketed hp ((hg.start hp).1.closed (isLower_name kind))
      (hg.start hp).2
  | some x =>
    rw [← hp]
    exact pieces_of_mem_parts h.bracketed hp (hg.ending x hp)

theorem pieces_flatMap_element (kind : Enclosing)
    (h : ∀ i ∈ items, i.Outlined ∧ i.Guarded kind) :
    (Markup.element kind.name).pieces (items.flatMap render) =
      items.flatMap fun i => Construct.whole (i.parts kind) i.render :=
  Construct.pieces_flatMap_whole fun i hi _ => pieces_element kind (h i hi).1 (h i hi).2

theorem Clean.guarded (h : i.Clean) : i.Guarded kind where
  ending := by
    intro x hx
    cases i with
    | element k as body =>
      obtain ⟨rfl, rfl⟩ : k = kind ∧ (renderAttributes as, body) = x := by
        simpa [parts] using hx
      exact not_infix_of_bracket_notMem h.1.2
    | _ => cases hx
  start := by
    intro hp
    refine ⟨h.1.silent, tagName?_ne_of_parts hp ?_⟩
    rintro name as rfl hname
    refine h.2 ?_
    cases kind <;> simp [hname]

/-! Links. -/

/-- The attributes of a link. -/
def linkAttributes? : Item → Option (List Char)
  | startTag name as =>
    if Text.asciiLower name = "link".toList then some (renderAttributes as) else none
  | _ => none

theorem pieces_link (h : i.WellFormed) :
    links.pieces (i.render ++ r) =
      Construct.whole i.linkAttributes? i.render ++ links.pieces r := by
  have hlower : ∀ c ∈ "link".toList, c.isLower = true := List.all_eq_true.1 (by decide)
  by_cases ht : i.tagName? = some "link".toList
  · cases i with
    | startTag name as =>
      have hname : Text.asciiLower name = "link".toList := Option.some.inj ht
      have hread : Markup.startTag "link".toList ((startTag name as).render ++ r) =
          some (renderAttributes as, r) := by
        rw [render, startTag_renderStartTag hlower h.outlined.1 h.outlined.bracketed.2, if_pos hname]
      rw [linkAttributes?, if_pos hname]
      exact Construct.pieces_of_read hread
    | element kind => cases kind <;> exact absurd (Option.some.inj ht) (by decide)
    | _ => simp [tagName?] at ht
  · have hnone : i.linkAttributes? = none := by cases i <;> simp_all [linkAttributes?, tagName?]
    rw [hnone, Construct.whole_none]
    have hunread : Unread (Markup.startTag "link".toList) i.render r :=
      unread_startTag hlower (by decide) h.outlined.bracketed (h.silent.closed hlower) ht
    exact Construct.pieces_of_unread hunread

end Item

end FeatureAudit
