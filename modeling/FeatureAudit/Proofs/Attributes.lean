import FeatureAudit.Proofs.Markers

/-! How attributes are read whose values stand between double quotes: a name that is read as one of
an attribute is one, unless a value in front of it holds the name and a sign of equality. -/
namespace FeatureAudit.Markup

variable {c : Char} {name s t u r : List Char} {a : List Char × List Char}
  {as : List (List Char × List Char)}

def renderAttribute (a : List Char × List Char) : List Char :=
  ' ' :: (a.1 ++ '=' :: '"' :: (a.2 ++ ['"']))

def renderAttributes (as : List (List Char × List Char)) : List Char := as.flatMap renderAttribute

/-- A name of letters and hyphens, and a value that its quotes enclose inside its tag. -/
@[mk_iff] structure WrittenAttribute (a : List Char × List Char) : Prop where
  name : ∀ c ∈ a.1, c.isAlpha = true ∨ c = '-'
  value : ∀ c ∈ a.2, c ∉ ['"', '<', '>']

instance (a : List Char × List Char) : Decidable (WrittenAttribute a) :=
  decidable_of_iff ((a.1.all fun c => c.isAlpha || c == '-') = true ∧
      (a.2.all fun c => c ∉ ['"', '<', '>']) = true)
    (by simp [writtenAttribute_iff])

/-- A written attribute whose name is in small letters. -/
@[mk_iff] structure QuotedAttribute (a : List Char × List Char) : Prop where
  name : ∀ c ∈ a.1, c.isLower = true ∨ c = '-'
  value : ∀ c ∈ a.2, c ∉ ['"', '<', '>']

instance (a : List Char × List Char) : Decidable (QuotedAttribute a) :=
  decidable_of_iff ((a.1.all fun c => c.isLower || c == '-') = true ∧
      (a.2.all fun c => c ∉ ['"', '<', '>']) = true)
    (by simp [quotedAttribute_iff])

/-- A name of small letters and hyphens, and a value without quotes, brackets and equals signs. -/
@[mk_iff] structure CleanAttribute (a : List Char × List Char) : Prop where
  name : ∀ c ∈ a.1, c.isLower = true ∨ c = '-'
  value : ∀ c ∈ a.2, c ∉ ['"', '\'', '<', '>', '=']

instance (a : List Char × List Char) : Decidable (CleanAttribute a) :=
  decidable_of_iff ((a.1.all fun c => c.isLower || c == '-') = true ∧
      (a.2.all fun c => c ∉ ['"', '\'', '<', '>', '=']) = true)
    (by simp [cleanAttribute_iff])

theorem QuotedAttribute.written (h : QuotedAttribute a) : WrittenAttribute a where
  name c hc := (h.name c hc).imp_left fun hl => by simp [Char.isAlpha, hl]
  value := h.value

theorem CleanAttribute.quoted (h : CleanAttribute a) : QuotedAttribute a :=
  ⟨h.name, fun c hc hm => h.value c hc (by simp at hm ⊢; tauto)⟩

theorem CleanAttribute.equals_notMem (h : CleanAttribute a) : '=' ∉ a.2 :=
  fun hm => by simpa using h.value _ hm

theorem bracket_notMem_renderAttributes (h : ∀ a ∈ as, WrittenAttribute a)
    (hc : c = '<' ∨ c = '>') : c ∉ renderAttributes as := by
  intro hm
  obtain ⟨a, ha, hm⟩ := List.mem_flatMap.1 hm
  have hname : c ∉ a.1 := by
    intro hn
    have := (h a ha).name c hn
    rcases hc with rfl | rfl <;> simp [Char.isAlpha, Char.isLower, Char.isUpper] at this
  have hvalue : c ∉ a.2 := by
    intro hv
    have := (h a ha).value c hv
    rcases hc with rfl | rfl <;> simp at this
  rcases hc with rfl | rfl <;> simp [renderAttribute, hname, hvalue] at hm

theorem insideTag_renderAttributes (h : ∀ a ∈ as, WrittenAttribute a) :
    InsideTag (renderAttributes as) where
  open_notMem := bracket_notMem_renderAttributes h (Or.inl rfl)
  close_notMem := bracket_notMem_renderAttributes h (Or.inr rfl)
  head := by cases as <;> simp [renderAttributes, renderAttribute]

/-! Places where no attribute starts. -/

/-- The first sign of equality comes behind a quote or the start of a tag. -/
def Signless (s : List Char) : Prop :=
  s.find? (fun c => c == '=' || c == '<' || c == '"') ≠ some '='

theorem signless_nil : Signless [] := by simp [Signless]

theorem signless_cons_open : Signless ('<' :: r) := by simp [Signless]

theorem signless_cons_quote : Signless ('"' :: r) := by simp [Signless]

theorem signless_append (hu : '=' ∉ u) (hr : Signless r) : Signless (u ++ r) := by
  simp only [Signless, List.find?_append]
  cases hf : u.find? fun c => c == '=' || c == '<' || c == '"' with
  | none => simpa [Signless] using hr
  | some c =>
    have hc : c ≠ '=' := fun he => hu (he ▸ List.mem_of_find?_eq_some hf)
    simpa using hc

theorem signless_of_cons (h : Signless (c :: r)) (hc : c ≠ '<' ∧ c ≠ '"') : Signless r := by
  by_cases he : c = '='
  · simp [Signless, he] at h
  · simpa [Signless, he, hc.1, hc.2] using h

theorem signless_afterName (hn : ∀ n ∈ name, n.isLower = true) (hs : Signless s)
    (h : afterName name s = some t) : Signless t := by
  induction name generalizing s with
  | nil => exact Option.some.inj h ▸ hs
  | cons n ns ih =>
    cases s with
    | nil => simp [afterName] at h
    | cons c s =>
      simp only [afterName] at h
      split at h
      · next hc =>
        refine ih (fun m hm => hn m (by simp [hm])) (signless_of_cons hs ⟨?_, ?_⟩) h
        · rintro rfl
          exact absurd (hn n (by simp)) (hc ▸ by decide)
        · rintro rfl
          exact absurd (hn n (by simp)) (hc ▸ by decide)
      · simp at h

theorem signless_afterBlanks (hs : Signless s) : Signless (afterBlanks s) := by
  induction s with
  | nil => exact hs
  | cons c s ih =>
    by_cases hc : Text.isBlank c = true
    · have hstop : c ≠ '<' ∧ c ≠ '"' := by constructor <;> rintro rfl <;> simp [Text.isBlank] at hc
      simpa [afterBlanks, hc] using ih (signless_of_cons hs hstop)
    · simpa [afterBlanks, hc] using hs

theorem afterEquals_of_signless (hn : ∀ n ∈ name, n.isLower = true) (h : Signless r) :
    afterEquals name (c :: r) = none := by
  simp only [afterEquals]
  split
  · cases ht : afterName name r with
    | none => rfl
    | some t =>
      have hb := signless_afterBlanks (signless_afterName hn h ht)
      simp only
      split
      · next he => simp [Signless, he] at hb
      · rfl
  · rfl

theorem afterEquals_of_not_blank (h : Text.isBlank c = false) :
    afterEquals name (c :: r) = none := by
  simp [afterEquals, h]

theorem unread_of_signless (hn : ∀ n ∈ name, n.isLower = true) (hu : '=' ∉ u) (hr : Signless r) :
    Unread (afterEquals name) u r := by
  induction u with
  | nil => trivial
  | cons c u ih =>
    have hu' : '=' ∉ u := fun hm => hu (by simp [hm])
    exact ⟨afterEquals_of_signless hn (signless_append hu' hr), ih hu'⟩

theorem unread_of_not_blank (h : ∀ c ∈ s, Text.isBlank c = false) :
    Unread (afterEquals name) s r :=
  unread_of_forall (p := fun c => !Text.isBlank c)
    (fun _ _ hc => afterEquals_of_not_blank (by simpa using hc)) (by simpa using h)

/-! Attributes in their places. -/

theorem WrittenAttribute.not_blank (h : WrittenAttribute a) : ∀ c ∈ a.1, Text.isBlank c = false := by
  intro c hc
  rcases h.name c hc with ha | rfl
  · exact Text.isBlank_of_isAlphanum (by simp [Char.isAlphanum, ha])
  · decide

theorem WrittenAttribute.map_foldCase (h : WrittenAttribute a) :
    a.1.map foldCase = Text.asciiLower a.1 := by
  refine List.map_congr_left fun c hc => ?_
  rcases h.name c hc with ha | rfl
  · exact foldCase_of_ascii (toNat_lt_of_isAlphanum (by simp [Char.isAlphanum, ha]))
  · decide

theorem QuotedAttribute.asciiLower (h : QuotedAttribute a) : Text.asciiLower a.1 = a.1 := by
  rw [← h.written.map_foldCase]
  refine (List.map_congr_left fun c hc => ?_).trans (List.map_id' a.1)
  rcases h.name c hc with hl | rfl
  · exact foldCase_of_isLower hl
  · decide

/-- The name of an attribute is read as a whole and in any case. -/
theorem afterEquals_renderAttribute (hn : ∀ n ∈ name, n.isLower = true) (h : WrittenAttribute a) :
    afterEquals name (renderAttribute a ++ r) =
      if Text.asciiLower a.1 = name then some ('"' :: (a.2 ++ '"' :: r)) else none := by
  have hsign : foldCase '=' ∉ name := fun hm => absurd (hn _ hm) (by decide)
  have hspace : Text.isBlank ' ' = true := by decide
  have hquote : Text.isBlank '"' = false := by decide
  simp only [renderAttribute, List.cons_append, List.append_assoc, afterEquals, hspace, if_true,
    afterName_append hsign, h.map_foldCase, List.nil_append]
  by_cases hp : name <+: Text.asciiLower a.1
  · rw [if_pos hp]
    cases hrest : a.1.drop name.length with
    | nil =>
      have hlen : (Text.asciiLower a.1).length ≤ name.length := by
        simpa [Text.asciiLower] using List.drop_eq_nil_iff.1 hrest
      have heq : Text.asciiLower a.1 = name := (hp.eq_of_length_le hlen).symm
      have hequals : Text.isBlank '=' = false := by decide
      simp [afterBlanks, heq, hequals, hquote]
    | cons c cs =>
      have hmem : c ∈ a.1 := List.mem_of_mem_drop (hrest ▸ List.mem_cons_self)
      have hne : Text.asciiLower a.1 ≠ name := by
        intro he
        have hlen : a.1.length = name.length := by
          simpa [Text.asciiLower] using congrArg List.length he
        simp [← hlen] at hrest
      have hc : c ≠ '=' := by
        rintro rfl
        simpa [Char.isAlpha, Char.isLower, Char.isUpper] using h.name _ hmem
      simp [afterBlanks, h.not_blank c hmem, hne, hc]
  · have hne : Text.asciiLower a.1 ≠ name := fun he => hp (he ▸ List.prefix_rfl)
    simp [hp, hne]

theorem afterEquals_attribute (hn : ∀ n ∈ name, n.isLower = true) (h : QuotedAttribute a) :
    afterEquals name (renderAttribute a ++ r) =
      if a.1 = name then some ('"' :: (a.2 ++ '"' :: r)) else none := by
  rw [afterEquals_renderAttribute hn h.written, h.asciiLower]

/-- An attribute with another name is passed over if its value is. -/
theorem unread_renderAttribute (hn : ∀ n ∈ name, n.isLower = true) (h : WrittenAttribute a)
    (hvalue : Unread (afterEquals name) a.2 ('"' :: r)) (hne : Text.asciiLower a.1 ≠ name) :
    Unread (afterEquals name) (renderAttribute a) r := by
  refine ⟨?_, unread_append.2 ⟨unread_of_not_blank h.not_blank, ?_, ?_, ?_⟩⟩
  · simpa [hne, renderAttribute] using afterEquals_renderAttribute (r := r) hn h
  · exact afterEquals_of_not_blank (by decide)
  · exact afterEquals_of_not_blank (by decide)
  · exact unread_append.2 ⟨hvalue, afterEquals_of_not_blank (by decide), trivial⟩

/-- An attribute with another name is passed over, if its value holds no sign of equality. -/
theorem unread_attribute (hn : ∀ n ∈ name, n.isLower = true) (h : QuotedAttribute a)
    (hvalue : '=' ∉ a.2) (hne : a.1 ≠ name) :
    Unread (afterEquals name) (renderAttribute a) r :=
  unread_renderAttribute hn h.written (unread_of_signless hn hvalue signless_cons_quote)
    (by rwa [h.asciiLower])

theorem quotedValue_attribute (h : WrittenAttribute a) :
    quotedValue ('"' :: (a.2 ++ '"' :: r)) = some (a.2, r) :=
  upTo_append fun hm => by simpa using h.value _ hm

/-! Values that look like attributes. -/

/-- Behind a blank the name stands in a text, in any case, and behind it, with blanks or without, a
sign of equality. -/
def Mentions (name s : List Char) : Prop :=
  ∃ front c word gap rest, s = front ++ c :: (word ++ (gap ++ '=' :: rest)) ∧
    Text.isBlank c = true ∧ word.map foldCase = name ∧ ∀ g ∈ gap, Text.isBlank g = true

/-- An attribute starts where a blank stands and a mention follows. -/
theorem afterEquals_ne_none_iff : afterEquals name s ≠ none ↔
    ∃ c word gap rest, s = c :: (word ++ (gap ++ '=' :: rest)) ∧ Text.isBlank c = true ∧
      word.map foldCase = name ∧ ∀ g ∈ gap, Text.isBlank g = true := by
  constructor
  · intro h
    unfold afterEquals at h
    split at h
    · next c t =>
      split at h
      · next hc =>
        cases ha : afterName name t with
        | none => simp [ha] at h
        | some u =>
          obtain ⟨word, rfl, hword⟩ := eq_append_of_afterName ha
          cases hb : afterBlanks u with
          | nil => simp [ha, hb] at h
          | cons d rest =>
            obtain rfl : d = '=' := by
              by_contra hd
              simp [ha, hb, hd] at h
            refine ⟨c, word, u.takeWhile Text.isBlank, rest, ?_, hc, hword, ?_⟩
            · have hsplit : u.takeWhile Text.isBlank ++ afterBlanks u = u :=
                List.takeWhile_append_dropWhile
              rw [← hb, hsplit]
            · exact fun g hg => List.mem_takeWhile_imp hg
      · exact (h rfl).elim
    · exact (h rfl).elim
  · rintro ⟨c, word, gap, rest, rfl, hc, hword, hgap⟩
    have hequals : Text.isBlank '=' = false := by decide
    have hblanks : afterBlanks (gap ++ '=' :: rest) = '=' :: rest := by
      rw [afterBlanks, List.dropWhile_append_of_pos hgap]
      simp [hequals]
    simp [afterEquals, hc, afterName_of_map_foldCase hword, hblanks]

theorem mentions_iff : Mentions name s ↔ ∃ t ∈ s.tails, afterEquals name t ≠ none := by
  simp only [afterEquals_ne_none_iff, List.mem_tails]
  constructor
  · rintro ⟨front, c, word, gap, rest, rfl, h⟩
    exact ⟨_, List.suffix_append _ _, c, word, gap, rest, rfl, h⟩
  · rintro ⟨t, ⟨front, rfl⟩, c, word, gap, rest, rfl, h⟩
    exact ⟨front, c, word, gap, rest, rfl, h⟩

instance (name s : List Char) : Decidable (Mentions name s) := decidable_of_iff _ mentions_iff.symm

theorem Mentions.equals_mem (h : Mentions name s) : '=' ∈ s := by
  obtain ⟨front, c, word, gap, rest, rfl, -⟩ := h
  simp

/-- A value ends with a quote, which no mention goes beyond. -/
theorem unread_of_not_mentions (hn : ∀ n ∈ name, n.isLower = true) (h : ¬ Mentions name u) :
    Unread (afterEquals name) u ('"' :: r) := by
  refine unread_of_suffixes fun t ht _ => ?_
  by_contra hread
  obtain ⟨c, word, gap, rest, he, hc, hword, hgap⟩ := afterEquals_ne_none_iff.1 hread
  have hquote : '"' ∉ c :: (word ++ (gap ++ ['='])) := by
    have hblank : Text.isBlank '"' = false := by decide
    have hcq : '"' ≠ c := by
      rintro rfl
      simp [hblank] at hc
    have hwq : '"' ∉ word := by
      intro hm
      have hfold : foldCase '"' ∈ name := hword ▸ List.mem_map_of_mem hm
      exact absurd (hn _ hfold) (by decide)
    have hgq : '"' ∉ gap := by
      intro hm
      simpa [hblank] using hgap _ hm
    simp [hcq, hwq, hgq]
  have hprefix : c :: (word ++ (gap ++ ['='])) <+: t := by
    apply prefix_of_prefix_append (r := r) hquote
    rw [he]
    exact ⟨rest, by simp⟩
  obtain ⟨later, rfl⟩ := hprefix
  obtain ⟨front, rfl⟩ := ht
  exact h ⟨front, c, word, gap, later, by simp, hc, hword, hgap⟩

/-- The value of the first attribute with a name, in any case. -/
def firstValue? (name : List Char) (as : List (List Char × List Char)) : Option (List Char) :=
  (as.find? fun a => Text.asciiLower a.1 = name).map Prod.snd

/-- The name is not mentioned by a value in front of the first attribute that has it. -/
def Unmentioned (name : List Char) (as : List (List Char × List Char)) : Prop :=
  ∀ a ∈ as.takeWhile fun a => Text.asciiLower a.1 ≠ name, ¬ Mentions name a.2

instance (name : List Char) (as : List (List Char × List Char)) : Decidable (Unmentioned name as) :=
  inferInstanceAs (Decidable (∀ a ∈ as.takeWhile _, ¬ Mentions name a.2))

theorem firstValue?_cons : firstValue? name (a :: as) =
    if Text.asciiLower a.1 = name then some a.2 else firstValue? name as := by
  by_cases he : Text.asciiLower a.1 = name
  · rw [if_pos he, firstValue?, List.find?_cons_of_pos (by simpa using he), Option.map_some]
  · rw [if_neg he, firstValue?, List.find?_cons_of_neg (by simpa using he), firstValue?]

theorem unmentioned_cons (he : Text.asciiLower a.1 ≠ name) :
    Unmentioned name (a :: as) ↔ ¬ Mentions name a.2 ∧ Unmentioned name as := by
  rw [Unmentioned, List.takeWhile_cons_of_pos (by simpa using he), List.forall_mem_cons,
    Unmentioned]

/-- The value of an attribute is that of the first one with the name. -/
theorem attribute?_of_unmentioned (hn : ∀ n ∈ name, n.isLower = true)
    (h : ∀ a ∈ as, WrittenAttribute a) (hm : Unmentioned name as) :
    attribute? name (renderAttributes as) = (firstValue? name as).map Text.trim := by
  rw [attribute?]
  congr 1
  induction as with
  | nil => rfl
  | cons a as ih =>
    have ha := h a (by simp)
    rw [renderAttributes, List.flatMap_cons, ← renderAttributes]
    rw [firstValue?_cons]
    by_cases he : Text.asciiLower a.1 = name
    · have hread := afterEquals_renderAttribute (r := renderAttributes as) hn ha
      have hvalue : attributeValue ('"' :: (a.2 ++ '"' :: renderAttributes as)) = some a.2 := by
        simp only [attributeValue, quotedValue_attribute ha]
      rw [if_pos he] at hread ⊢
      exact firstRead_of_some (by rw [hread, Option.bind_some, hvalue]) (by simp [renderAttribute])
    · obtain ⟨hvalue, hlater⟩ := (unmentioned_cons he).1 hm
      have hunread : Unread (afterEquals name) (renderAttribute a) (renderAttributes as) :=
        unread_renderAttribute hn ha (unread_of_not_mentions hn hvalue) he
      rw [if_neg he, firstRead_append_of_unread (unread_bind hunread)]
      exact ih (fun b hb => h b (by simp [hb])) hlater

theorem firstValue?_eq_lookup (h : ∀ a ∈ as, QuotedAttribute a) :
    firstValue? name as = as.lookup name := by
  induction as with
  | nil => rfl
  | cons a as ih =>
    have hrest : firstValue? name as = as.lookup name := ih fun b hb => h b (by simp [hb])
    rw [firstValue?_cons, (h a (by simp)).asciiLower, hrest]
    by_cases he : a.1 = name
    · simp [List.lookup, he]
    · simp [List.lookup, he, beq_eq_false_iff_ne.2 (Ne.symm he)]

theorem unmentioned_of_clean (h : ∀ a ∈ as, CleanAttribute a) : Unmentioned name as :=
  fun a ha hm => (h a ((List.takeWhile_sublist _).subset ha)).equals_notMem hm.equals_mem

/-- The attributes with the name are found, with their values, which alone may hold signs of
equality. -/
theorem all_renderAttributes (hn : ∀ n ∈ name, n.isLower = true)
    (h : ∀ a ∈ as, QuotedAttribute a) (hs : ∀ a ∈ as, a.1 = name ∨ '=' ∉ a.2) :
    (quotedAttribute name).all (renderAttributes as ++ r) =
      (as.filterMap fun a => if a.1 = name then some a.2 else none) ++
        (quotedAttribute name).all r := by
  rw [List.filterMap_eq_flatMap_toList]
  refine flatMap_append_of_parts (fun _ => True) trivial (fun _ _ _ _ => trivial) ?_
  intro a ha r _
  by_cases he : a.1 = name
  · have hread : (quotedAttribute name).read (renderAttribute a ++ r) = some (a.2, r) := by
      change (afterEquals name (renderAttribute a ++ r)).bind quotedValue = _
      rw [afterEquals_attribute hn (h a ha), if_pos he, Option.bind_some,
        quotedValue_attribute (h a ha).written]
    rw [if_pos he]
    exact Construct.all_of_read hread
  · rw [if_neg he]
    have hvalue : '=' ∉ a.2 := (hs a ha).resolve_left he
    exact Construct.all_of_unread (unread_bind (unread_attribute hn (h a ha) hvalue he))

end FeatureAudit.Markup
