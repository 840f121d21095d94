import FeatureAudit.Proofs.Pieces
import FeatureAudit.Proofs.Words

/-! How tags, elements and comments are read where they are written out in full. -/
namespace FeatureAudit.Markup

variable {c d m : Char} {name s u body attributes r : List Char}

/-! Characters and names. -/

theorem foldCase_of_ascii (h : c.toNat < 128) : foldCase c = c.toLower := by
  have h1 : (c.toNat == 0x17F) = false := by simp; omega
  have h2 : (c.toNat == 0x212A) = false := by simp; omega
  simp [foldCase, h1, h2]

theorem toNat_lt_of_isAlphanum (h : c.isAlphanum = true) : c.toNat < 128 := by
  rw [Text.isAlphanum_iff] at h
  omega

theorem foldCase_of_isLower (h : c.isLower = true) : foldCase c = c := by
  rw [Text.isLower_iff] at h
  have hu : ¬ c.isUpper = true := by
    rw [Text.isUpper_iff]
    omega
  rw [foldCase_of_ascii (by omega), Char.toLower_eq_of_not_isUpper hu]

theorem map_foldCase_of_isAlphanum (h : ∀ c ∈ s, c.isAlphanum = true) :
    s.map foldCase = Text.asciiLower s :=
  List.map_congr_left fun c hc => foldCase_of_ascii (toNat_lt_of_isAlphanum (h c hc))

theorem isWordChar_of_isAlphanum (h : c.isAlphanum = true) : Text.isWordChar c = true := by
  simp [Text.isWordChar, toNat_lt_of_isAlphanum h, h]

theorem afterName_append (h : foldCase d ∉ name) : afterName name (s ++ d :: r) =
    if name <+: s.map foldCase then some (s.drop name.length ++ d :: r) else none := by
  induction s generalizing name with
  | nil =>
    cases name with
    | nil => simp [afterName]
    | cons n ns =>
      have hne : foldCase d ≠ n := fun he => h (by simp [he])
      simp [afterName, hne]
  | cons c s ih =>
    cases name with
    | nil => simp [afterName]
    | cons n ns =>
      have hns : foldCase d ∉ ns := fun he => h (by simp [he])
      by_cases hc : foldCase c = n
      · simp [afterName, hc, ih hns]
      · simp [afterName, hc, Ne.symm hc]

theorem afterName_of_map_foldCase (h : s.map foldCase = name) : afterName name (s ++ r) = some r := by
  subst h
  induction s with
  | nil => rfl
  | cons c s ih => simp [afterName, ih]

theorem eq_append_of_afterName (h : afterName name s = some r) :
    ∃ word, s = word ++ r ∧ word.map foldCase = name := by
  induction name generalizing s with
  | nil => exact ⟨[], Option.some.inj h, rfl⟩
  | cons n ns ih =>
    cases s with
    | nil => cases h
    | cons c s =>
      rw [afterName] at h
      split at h
      · next hc =>
        obtain ⟨word, rfl, hword⟩ := ih h
        exact ⟨c :: word, rfl, by simp [hc, hword]⟩
      · cases h

theorem upTo_append (h : m ∉ u) : upTo m (u ++ m :: r) = some (u, r) := by
  have hall : ∀ c ∈ u, (c != m) = true := by
    intro c hc
    simpa using fun he : c = m => h (he ▸ hc)
  simp [upTo, List.dropWhile_append_of_pos hall, List.takeWhile_append_of_pos hall]

theorem upTo_cons : upTo m (c :: s) =
    if c = m then some ([], s) else (upTo m s).map fun x => (c :: x.1, x.2) := by
  by_cases hc : c = m
  · simp [upTo, hc]
  · have hpass : (c != m) = true := by simpa using hc
    simp only [upTo, List.dropWhile_cons, List.takeWhile_cons, hpass, if_true, if_neg hc]
    cases s.dropWhile (· != m) <;> rfl

/-- Behind a mark nothing matters. -/
theorem upTo_append_of_mem (h : m ∈ u) :
    upTo m (u ++ r) = (upTo m u).map fun x => (x.1, x.2 ++ r) := by
  induction u with
  | nil => cases h
  | cons c u ih =>
    rw [List.cons_append, upTo_cons, upTo_cons]
    by_cases hc : c = m
    · simp [hc]
    · rw [if_neg hc, if_neg hc, ih ((List.mem_cons.1 h).resolve_left (Ne.symm hc)),
        Option.map_map, Option.map_map]
      rfl

/-! Start tags. -/

/-- What may stand between the name of a start tag and its end. -/
structure InsideTag (attributes : List Char) : Prop where
  open_notMem : '<' ∉ attributes
  close_notMem : '>' ∉ attributes
  head : ∀ c ∈ attributes.head?, c = ' '

theorem isNameChar_iff : isNameChar c = true ↔ c.isAlphanum = true ∨ c = '-' := by
  simp [isNameChar]

theorem isNameChar_of_isAlphanum (h : c.isAlphanum = true) : isNameChar c = true :=
  isNameChar_iff.2 (.inl h)

theorem notMem_of_isNameChar (h : ∀ c ∈ s, isNameChar c = true) (hd : isNameChar d = false) :
    d ∉ s := by
  intro hm
  simp [h d hm] at hd

theorem map_foldCase_of_isNameChar (h : ∀ c ∈ s, isNameChar c = true) :
    s.map foldCase = Text.asciiLower s := by
  refine List.map_congr_left fun c hc => ?_
  rcases isNameChar_iff.1 (h c hc) with ha | rfl
  · exact foldCase_of_ascii (toNat_lt_of_isAlphanum ha)
  · decide

theorem exists_cons_of_head {p : Char → Bool} (hhead : ∃ c ∈ s.head?, c.isAlpha = true)
    (hall : ∀ c ∈ s, p c = true) :
    ∃ c t, s = c :: t ∧ c.isAlpha = true ∧ ∀ d ∈ t, p d = true := by
  obtain ⟨c, hc, ha⟩ := hhead
  cases s with
  | nil => simp at hc
  | cons d t =>
    obtain rfl : d = c := by simpa using hc
    exact ⟨d, t, rfl, ha, fun e he => hall e (by simp [he])⟩

theorem toLower_ne_hyphen (h : c.isAlphanum = true) : c.toLower ≠ '-' := by
  intro he
  by_cases hu : c.isUpper = true
  · have hl : c.toLower.isAlpha = true := by simp [Char.isAlpha, hu]
    rw [he] at hl
    exact absurd hl (by decide)
  · rw [Char.toLower_eq_of_not_isUpper hu] at he
    subst he
    exact absurd h (by decide)

/-- Blanks are no letters in any case. -/
theorem foldCase_notMem_of_isBlank (hn : ∀ c ∈ name, c.isLower = true)
    (h : Text.isBlank c = true) : foldCase c ∉ name := by
  intro hm
  have hlower := hn _ hm
  have hne : ¬ (c.toNat == 0x17F) = true ∧ ¬ (c.toNat == 0x212A) = true := by
    simp [Text.isBlank] at h ⊢
    omega
  rw [foldCase, if_neg hne.1, if_neg hne.2] at hlower
  have hblank : Text.isBlank c.toLower = false :=
    Text.isBlank_of_isAlphanum (by simp [Char.isAlphanum, Char.isAlpha, hlower])
  simp [Text.isBlank_toLower, h] at hblank

/-- A name is taken for another that it is in any case, and for one that it starts with if a hyphen
follows. -/
def TakenFor (name s : List Char) : Prop :=
  Text.asciiLower s = name ∨ name ++ ['-'] <+: Text.asciiLower s

instance (name s : List Char) : Decidable (TakenFor name s) :=
  inferInstanceAs (Decidable (_ ∨ _ <+: _))

/-- The name of a start tag is read as a whole or up to a hyphen. -/
theorem startTag_append_of_isNameChar (hn : ∀ c ∈ name, c.isLower = true)
    (hs : ∀ c ∈ s, isNameChar c = true) (hclose : '>' ∉ attributes)
    (hhead : ∀ c ∈ attributes.head?, Text.isBlank c = true)
    (hend : Text.asciiLower s = name → Text.endsWord (attributes ++ '>' :: r) = true) :
    startTag name ('<' :: (s ++ (attributes ++ '>' :: r))) =
      if TakenFor name s then some (s.drop name.length ++ attributes, r) else none := by
  obtain ⟨d, t, hd, ht⟩ : ∃ d t, foldCase d ∉ name ∧ attributes ++ '>' :: r = d :: t := by
    cases hat : attributes with
    | nil => exact ⟨'>', r, fun hm => absurd (hn _ hm) (by decide), rfl⟩
    | cons c as =>
      exact ⟨c, as ++ '>' :: r, foldCase_notMem_of_isBlank hn (hhead c (by simp [hat])), rfl⟩
  have hup : upTo '>' (s.drop name.length ++ d :: t) =
      some (s.drop name.length ++ attributes, r) := by
    rw [← ht, ← List.append_assoc]
    apply upTo_append
    have hname : '>' ∉ s := notMem_of_isNameChar hs (by decide)
    simpa [hclose] using fun hm => hname (List.mem_of_mem_drop hm)
  rw [ht] at hend ⊢
  simp only [startTag, afterName_append hd, map_foldCase_of_isNameChar hs]
  by_cases hp : name <+: Text.asciiLower s
  · have hsplit : Text.asciiLower s = name ++ Text.asciiLower (s.drop name.length) := by
      obtain ⟨u, hu⟩ := hp
      have hdrop : Text.asciiLower (s.drop name.length) = (Text.asciiLower s).drop name.length :=
        List.map_drop
      rw [hdrop, ← hu, List.drop_left]
    simp only [if_pos hp, hup]
    -- what is left of the name decides whether a word ends behind the other one
    cases hrest : s.drop name.length with
    | nil =>
      have hsame : Text.asciiLower s = name := by simpa [hrest, Text.asciiLower] using hsplit
      simp [TakenFor, hsame, hend hsame]
    | cons c cs =>
      have hcons : Text.asciiLower s = name ++ c.toLower :: Text.asciiLower cs := by
        rw [hsplit, hrest]
        rfl
      have hmem : c ∈ s := List.mem_of_mem_drop (hrest ▸ List.mem_cons_self)
      rcases isNameChar_iff.1 (hs c hmem) with hc | rfl
      · have hnot : ¬ TakenFor name s := by
          simpa [TakenFor, hcons] using (toLower_ne_hyphen hc).symm
        simp [hnot, Text.endsWord, isWordChar_of_isAlphanum hc]
      · have htaken : TakenFor name s := by
          rw [TakenFor, hcons]
          exact .inr (by simp [show '-'.toLower = '-' from by decide])
        have hhyphen : Text.isWordChar '-' = false := by decide
        simp [htaken, Text.endsWord, hhyphen]
  · have hnot : ¬ TakenFor name s := by
      rintro (he | hh)
      · exact hp (he ▸ List.prefix_rfl)
      · exact hp ((List.prefix_append _ _).trans hh)
    simp only [if_neg hp, if_neg hnot]

theorem hyphen_notMem_asciiLower (h : ∀ c ∈ s, c.isAlphanum = true) : '-' ∉ Text.asciiLower s := by
  intro hm
  obtain ⟨c, hc, he⟩ := List.mem_map.1 hm
  exact toLower_ne_hyphen (h c hc) he

/-- A name without hyphens is read as a whole, so tags with longer and shorter names are others. -/
theorem startTag_append (hn : ∀ c ∈ name, c.isLower = true) (hs : ∀ c ∈ s, c.isAlphanum = true)
    (ha : InsideTag attributes) :
    startTag name ('<' :: (s ++ (attributes ++ '>' :: r))) =
      if Text.asciiLower s = name then some (attributes, r) else none := by
  have hhead : ∀ c ∈ attributes.head?, Text.isBlank c = true := by
    intro c hc
    rw [ha.head c hc]
    decide
  have hend : Text.endsWord (attributes ++ '>' :: r) = true := by
    cases hat : attributes with
    | nil => simp [Text.endsWord, Text.isWordChar]
    | cons c as =>
      obtain rfl : c = ' ' := ha.head c (by simp [hat])
      simp [Text.endsWord, Text.isWordChar]
  rw [startTag_append_of_isNameChar hn (fun c hc => isNameChar_of_isAlphanum (hs c hc))
    ha.close_notMem hhead fun _ => hend]
  have hhyphen : ¬ name ++ ['-'] <+: Text.asciiLower s :=
    fun hp => hyphen_notMem_asciiLower hs (hp.subset (by simp))
  by_cases he : Text.asciiLower s = name
  · have hlen : s.length = name.length := by simpa [Text.asciiLower] using congrArg List.length he
    simp [TakenFor, he, ← hlen]
  · simp [TakenFor, he, hhyphen]

theorem startTag_of_ne (h : c ≠ '<') : startTag name (c :: r) = none := by
  unfold startTag
  split
  · next he => exact (h (List.cons.inj he).1).elim
  · rfl

/-- A tag whose name cannot start with the character is another. -/
theorem startTag_cons_of_ne (h : foldCase c ∉ name) (hn : name ≠ []) :
    startTag name ('<' :: c :: r) = none := by
  cases name with
  | nil => exact (hn rfl).elim
  | cons n ns =>
    have hne : foldCase c ≠ n := fun he => h (by simp [he])
    simp [startTag, afterName, hne]

/-! Elements. -/

theorem map_foldCase_of_isLower (hn : ∀ c ∈ name, c.isLower = true) :
    name.map foldCase = name :=
  (List.map_congr_left fun c hc => foldCase_of_isLower (hn c hc)).trans (List.map_id' name)

theorem afterEndTag_append (hn : ∀ c ∈ name, c.isLower = true) :
    afterEndTag name ('<' :: '/' :: (name ++ '>' :: r)) = some r := by
  have hclose : foldCase '>' ∉ name := fun hm => absurd (hn _ hm) (by decide)
  have hblank : Text.isBlank '>' = false := by decide
  simp [afterEndTag, afterName_append hclose, map_foldCase_of_isLower hn, afterBlanks, hblank]

theorem afterEndTag_of_ne (h : c ≠ '<') : afterEndTag name (c :: r) = none := by
  unfold afterEndTag
  split
  · next he => exact (h (List.cons.inj he).1).elim
  · rfl

theorem afterEndTag_cons_of_ne (h : c ≠ '/') : afterEndTag name ('<' :: c :: r) = none := by
  unfold afterEndTag
  split
  · next he => exact (h (List.cons.inj (List.cons.inj he).2).1).elim
  · rfl

theorem upToEndTag_eq_none_iff : upToEndTag name s = none ↔ Unread (afterEndTag name) s [] := by
  induction s with
  | nil => simp [upToEndTag, Unread]
  | cons c s ih =>
    rw [Unread, List.append_nil, ← ih, upToEndTag]
    cases afterEndTag name (c :: s) with
    | some t => simp
    | none => cases upToEndTag name s <;> simp

theorem upToEndTag_append (hb : Unread (afterEndTag name) body s)
    (h : afterEndTag name s = some r) : upToEndTag name (body ++ s) = some (body, r) := by
  induction body with
  | nil =>
    cases s with
    | nil => simp [afterEndTag] at h
    | cons c s => simp [upToEndTag, h]
  | cons c body ih =>
    have hc : afterEndTag name (c :: (body ++ s)) = none := hb.1
    simp [upToEndTag, hc, ih hb.2]

theorem readElement_append (hn : ∀ c ∈ name, c.isLower = true) (ha : InsideTag attributes)
    (hb : Unread (afterEndTag name) body ('<' :: '/' :: (name ++ '>' :: r))) :
    readElement name ('<' :: (name ++ (attributes ++ '>' ::
        (body ++ '<' :: '/' :: (name ++ '>' :: r))))) = some ((attributes, body), r) := by
  have hs : ∀ c ∈ name, c.isAlphanum = true := by
    intro c hc
    simp [Char.isAlphanum, Char.isAlpha, hn c hc]
  have hlower : Text.asciiLower name = name := by
    rw [← map_foldCase_of_isAlphanum hs]
    exact map_foldCase_of_isLower hn
  simp only [readElement, startTag_append hn hs ha, hlower, if_true]
  rw [upToEndTag_append hb (afterEndTag_append hn)]

theorem readElement_of_startTag (h : startTag name s = none) : readElement name s = none := by
  simp [readElement, h]

/-! Tag names. -/

theorem readTagName_append (hc : c.isAlpha = true) (hs : ∀ c ∈ s, isNameChar c = true)
    (hd : isNameChar d = false) :
    readTagName ('<' :: c :: (s ++ d :: r)) = some (c :: s, d :: r) := by
  simp [readTagName, hc, List.takeWhile_append_of_pos hs, List.dropWhile_append_of_pos hs, hd]

theorem readTagName_of_ne (h : c ≠ '<') : readTagName (c :: r) = none := by
  unfold readTagName
  split
  · next he => exact (h (List.cons.inj he).1).elim
  · rfl

theorem readTagName_of_not_isAlpha (h : c.isAlpha = false) :
    readTagName ('<' :: c :: r) = none := by
  simp [readTagName, h]

/-! Comments. -/

/-- The first end of a comment is its own: one that starts inside of it ends inside of it, or else
at the same place. -/
theorem afterComment_append (h : ¬ "-->".toList <:+: body) :
    afterComment (body ++ '-' :: '-' :: '>' :: r) = some r := by
  induction body with
  | nil => simp [afterComment]
  | cons c body ih =>
    have hrest := ih fun hm => h (List.infix_cons hm)
    rw [List.cons_append, afterComment]
    · exact hrest
    · intro t he ht
      subst he
      match body, ht with
      | [], ht => simp at ht
      | [_], ht => simp at ht
      | x :: y :: body, ht =>
        obtain ⟨rfl, rfl⟩ : x = '-' ∧ y = '>' := by simp_all
        exact h (List.IsPrefix.isInfix ⟨body, rfl⟩)

theorem readComment_append (h : ¬ "-->".toList <:+: body) :
    readComment ('<' :: '!' :: '-' :: '-' :: (body ++ '-' :: '-' :: '>' :: r)) = some ((), r) := by
  simp [readComment, afterComment_append h]

theorem readComment_of_ne (h : c ≠ '<') : readComment (c :: r) = none := by
  unfold readComment
  split
  · next he => exact (h (List.cons.inj he).1).elim
  · rfl

theorem readComment_cons_of_ne (h : c ≠ '!') : readComment ('<' :: c :: r) = none := by
  unfold readComment
  split
  · next he => exact (h (List.cons.inj (List.cons.inj he).2).1).elim
  · rfl

end FeatureAudit.Markup
