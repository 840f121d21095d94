import FeatureAudit.Text.Word

/-! Constructs of markup, found by their spelling alone: a text is read from left to right, and where
a construct starts it is taken as a whole. Names are compared without regard to case, where the long
s counts as an s and the sign for kelvin as a k. -/
namespace FeatureAudit.Markup

/-- A kind of construct: what stands at the start of a text and what follows it, if one starts
there. -/
structure Construct (α : Type) where
  read : List Char → Option (α × List Char)
  suffix : ∀ {s a r}, read s = some (a, r) → r <:+ s ∧ r ≠ s

/-- A stretch of a text: a character that starts no construct, or a construct with its text. -/
inductive Piece (α : Type) where
  | plain (c : Char)
  | found (what : α) (text : List Char)

def Piece.text : Piece α → List Char
  | .plain c => [c]
  | .found _ cs => cs

namespace Construct

theorem length_lt {k : Construct α} {s r : List Char} {a : α} (h : k.read s = some (a, r)) :
    r.length < s.length := by
  obtain ⟨hs, hne⟩ := k.suffix h
  rcases Nat.lt_or_ge r.length s.length with hl | hl
  · exact hl
  · exact absurd (hs.eq_of_length (Nat.le_antisymm hs.length_le hl)) hne

/-- The stretches of a text. -/
def pieces (k : Construct α) (s : List Char) : List (Piece α) :=
  match s with
  | [] => []
  | c :: r =>
    match h : k.read (c :: r) with
    | some (a, t) =>
      have := length_lt h
      .found a ((c :: r).take ((c :: r).length - t.length)) :: k.pieces t
    | none => .plain c :: k.pieces r
termination_by s.length
decreasing_by all_goals (simp only [List.length_cons] at *; omega)

/-- The constructs of a text. -/
def all (k : Construct α) (s : List Char) : List α :=
  (k.pieces s).filterMap fun
    | .found a _ => some a
    | .plain _ => none

/-- The text with every construct replaced. -/
def replace (k : Construct α) (new : List Char) (s : List Char) : List Char :=
  (k.pieces s).flatMap fun
    | .found _ _ => new
    | .plain c => [c]

/-- The constructs among stretches, each with the offset at which it starts. -/
def locate (offset : Nat) : List (Piece α) → List (Nat × α)
  | [] => []
  | .plain _ :: ps => locate (offset + 1) ps
  | .found a cs :: ps => (offset, a) :: locate (offset + cs.length) ps

/-- The constructs of a text, each with the offset at which it starts. -/
def located (k : Construct α) (s : List Char) : List (Nat × α) := locate 0 (k.pieces s)

end Construct

/-! Names. -/

/-- The representative of the characters that differ in case only. -/
def foldCase (c : Char) : Char :=
  if c.toNat == 0x17F then 's' else if c.toNat == 0x212A then 'k' else c.toLower

/-- What follows a name, if the text starts with it. -/
def afterName : List Char → List Char → Option (List Char)
  | [], s => some s
  | _ :: _, [] => none
  | n :: ns, c :: r => if foldCase c = n then afterName ns r else none

/-- What follows the blanks at the start. -/
def afterBlanks (s : List Char) : List Char := s.dropWhile Text.isBlank

/-- The text up to a mark and what follows the mark. -/
def upTo (mark : Char) (s : List Char) : Option (List Char × List Char) :=
  match s.dropWhile (· != mark) with
  | [] => none
  | _ :: r => some (s.takeWhile (· != mark), r)

theorem afterName_suffix {n s r : List Char} (h : afterName n s = some r) : r <:+ s := by
  induction n generalizing s with
  | nil => simp only [afterName, Option.some.injEq] at h; exact h ▸ List.suffix_rfl
  | cons x n ih =>
    cases s with
    | nil => simp [afterName] at h
    | cons c t =>
      simp only [afterName] at h
      split at h
      · exact (ih h).trans (List.suffix_cons c t)
      · simp at h

theorem afterBlanks_suffix (s : List Char) : afterBlanks s <:+ s := List.dropWhile_suffix _

theorem upTo_suffix {m : Char} {s a r : List Char} (h : upTo m s = some (a, r)) : r <:+ s := by
  unfold upTo at h
  split at h
  · simp at h
  · next c t heq =>
    simp only [Option.some.injEq, Prod.mk.injEq] at h
    have := List.dropWhile_suffix (p := (· != m)) (l := s)
    rw [heq] at this
    exact h.2 ▸ (List.suffix_cons c t).trans this

theorem suffix_of_cons {c : Char} {r s t : List Char} (h : r <:+ t) (hs : s = c :: t) :
    r <:+ s ∧ r ≠ s := by
  subst hs
  refine ⟨h.trans (List.suffix_cons c t), fun he => ?_⟩
  have := h.length_le
  rw [he, List.length_cons] at this
  omega

/-! Tags and elements. -/

/-- The attributes of a start tag with a given name, and what follows the tag. The name ends where a
word ends, and the tag at the next `>`. -/
def startTag (name s : List Char) : Option (List Char × List Char) :=
  match s with
  | '<' :: r =>
    match afterName name r with
    | some t => if Text.endsWord t then upTo '>' t else none
    | none => none
  | _ => none

/-- What follows an end tag with a given name. -/
def afterEndTag (name s : List Char) : Option (List Char) :=
  match s with
  | '<' :: '/' :: r =>
    match afterName name r with
    | some t =>
      match afterBlanks t with
      | '>' :: u => some u
      | _ => none
    | none => none
  | _ => none

/-- The text up to the first end tag with a given name, and what follows that tag. -/
def upToEndTag (name : List Char) : List Char → Option (List Char × List Char)
  | [] => none
  | c :: r =>
    match afterEndTag name (c :: r) with
    | some t => some ([], t)
    | none =>
      match upToEndTag name r with
      | some (body, t) => some (c :: body, t)
      | none => none

/-- The attributes and the body of an element with a given name, and what follows it. -/
def readElement (name s : List Char) : Option ((List Char × List Char) × List Char) :=
  match startTag name s with
  | some (attributes, r) =>
    match upToEndTag name r with
    | some (body, t) => some ((attributes, body), t)
    | none => none
  | none => none

theorem startTag_suffix {n s a r : List Char} (h : startTag n s = some (a, r)) :
    r <:+ s ∧ r ≠ s := by
  unfold startTag at h
  split at h
  · next t =>
    split at h
    · next u hu =>
      split at h
      · exact suffix_of_cons ((upTo_suffix h).trans (afterName_suffix hu)) rfl
      · simp at h
    · simp at h
  · simp at h

theorem afterEndTag_suffix {n s r : List Char} (h : afterEndTag n s = some r) : r <:+ s := by
  unfold afterEndTag at h
  split at h
  · next t =>
    split at h
    · next u hu =>
      split at h
      · next v hv =>
        simp only [Option.some.injEq] at h
        have h1 := afterBlanks_suffix u
        rw [hv] at h1
        exact h ▸ ((List.suffix_cons _ v).trans h1).trans ((afterName_suffix hu).trans
          ((List.suffix_cons _ _).trans (List.suffix_cons _ _)))
      · simp at h
    · simp at h
  · simp at h

theorem upToEndTag_suffix {n s b r : List Char} (h : upToEndTag n s = some (b, r)) : r <:+ s := by
  induction s generalizing b with
  | nil => simp [upToEndTag] at h
  | cons c t ih =>
    unfold upToEndTag at h
    split at h
    · next u hu =>
      simp only [Option.some.injEq, Prod.mk.injEq] at h
      exact h.2 ▸ afterEndTag_suffix hu
    · split at h
      · next body u hu =>
        simp only [Option.some.injEq, Prod.mk.injEq] at h
        exact (ih (h.2 ▸ hu)).trans (List.suffix_cons c t)
      · simp at h

theorem readElement_suffix {n s r : List Char} {a : List Char × List Char}
    (h : readElement n s = some (a, r)) : r <:+ s ∧ r ≠ s := by
  unfold readElement at h
  split at h
  · next attributes t ht =>
    obtain ⟨h1, h2⟩ := startTag_suffix ht
    split at h
    · next body u hu =>
      simp only [Option.some.injEq, Prod.mk.injEq] at h
      have h3 := h.2 ▸ upToEndTag_suffix hu
      refine ⟨h3.trans h1, fun he => h2 ?_⟩
      exact h1.eq_of_length (Nat.le_antisymm h1.length_le (he ▸ h3.length_le))
    · simp at h
  · simp at h

/-- Elements with a given name: their attributes and their body. -/
def element (name : List Char) : Construct (List Char × List Char) :=
  ⟨readElement name, readElement_suffix⟩

/-- Start tags with a given name: their attributes. -/
def tag (name : List Char) : Construct (List Char) := ⟨startTag name, startTag_suffix⟩

/-! Tag names. -/

def isNameChar (c : Char) : Bool := c.isAlphanum || c == '-'

/-- The name of a start tag, which begins with a letter. -/
def readTagName (s : List Char) : Option (List Char × List Char) :=
  match s with
  | '<' :: c :: r =>
    if c.isAlpha then some (c :: r.takeWhile isNameChar, r.dropWhile isNameChar) else none
  | _ => none

theorem readTagName_suffix {s a r : List Char} (h : readTagName s = some (a, r)) :
    r <:+ s ∧ r ≠ s := by
  unfold readTagName at h
  split at h
  · split at h
    · simp only [Option.some.injEq, Prod.mk.injEq] at h
      exact h.2 ▸ suffix_of_cons ((List.dropWhile_suffix _).trans (List.suffix_cons _ _)) rfl
    · simp at h
  · simp at h

/-- The names of start tags, as they are written. -/
def tagName : Construct (List Char) := ⟨readTagName, readTagName_suffix⟩

/-! Comments. -/

/-- What follows the first end of a comment. -/
def afterComment : List Char → Option (List Char)
  | '-' :: '-' :: '>' :: r => some r
  | _ :: r => afterComment r
  | [] => none

def readComment (s : List Char) : Option (Unit × List Char) :=
  match s with
  | '<' :: '!' :: '-' :: '-' :: r => (afterComment r).map ((), ·)
  | _ => none

theorem afterComment_suffix {s r : List Char} (h : afterComment s = some r) : r <:+ s := by
  fun_induction afterComment s with
  | case1 t =>
    simp only [Option.some.injEq] at h
    exact h ▸ (List.suffix_cons _ _).trans ((List.suffix_cons _ _).trans (List.suffix_cons _ _))
  | case2 c t _ ih => exact (ih h).trans (List.suffix_cons _ _)
  | case3 => simp at h

theorem readComment_suffix {s r : List Char} {a : Unit} (h : readComment s = some (a, r)) :
    r <:+ s ∧ r ≠ s := by
  unfold readComment at h
  split at h
  · simp only [Option.map_eq_some_iff, Prod.mk.injEq] at h
    obtain ⟨t, ht, _, hr⟩ := h
    exact hr ▸ suffix_of_cons ((afterComment_suffix ht).trans ((List.suffix_cons _ _).trans
      ((List.suffix_cons _ _).trans (List.suffix_cons _ _)))) rfl
  · simp at h

def comment : Construct Unit := ⟨readComment, readComment_suffix⟩

/-! Attributes. -/

/-- What follows a blank, a name and the sign of equality, with blanks around the sign. -/
def afterEquals (name s : List Char) : Option (List Char) :=
  match s with
  | c :: r =>
    if Text.isBlank c then
      match afterName name r with
      | some t =>
        match afterBlanks t with
        | '=' :: u => some (afterBlanks u)
        | _ => none
      | none => none
    else none
  | [] => none

/-- A value between quotes of one sort, and what follows it. -/
def quotedValue (s : List Char) : Option (List Char × List Char) :=
  match s with
  | '"' :: r => upTo '"' r
  | '\'' :: r => upTo '\'' r
  | _ => none

/-- A value between quotes, or else the characters up to a blank or `>`. -/
def attributeValue (s : List Char) : Option (List Char) :=
  match quotedValue s with
  | some (v, _) => some v
  | none =>
    match s.takeWhile fun c => !Text.isBlank c && c != '>' with
    | [] => none
    | v => some v

/-- What is read at the first place of a text where anything is. -/
def firstRead (f : List Char → Option α) : List Char → Option α
  | [] => none
  | c :: r =>
    match f (c :: r) with
    | some a => some a
    | none => firstRead f r

/-- The value of the first attribute with a given name, without blanks around it. -/
def attribute? (name s : List Char) : Option (List Char) :=
  (firstRead (fun t => (afterEquals name t).bind attributeValue) s).map Text.trim

theorem afterEquals_suffix {n s r : List Char} (h : afterEquals n s = some r) : r <:+ s ∧ r ≠ s := by
  unfold afterEquals at h
  split at h
  · split at h
    · split at h
      · next t ht =>
        split at h
        · next u hu =>
          simp only [Option.some.injEq] at h
          have h1 := afterBlanks_suffix t
          rw [hu] at h1
          exact h ▸ suffix_of_cons (((afterBlanks_suffix u).trans (List.suffix_cons _ u)).trans
            (h1.trans (afterName_suffix ht))) rfl
        · simp at h
      · simp at h
    · simp at h
  · simp at h

theorem quotedValue_suffix {s v r : List Char} (h : quotedValue s = some (v, r)) : r <:+ s := by
  unfold quotedValue at h
  split at h
  · exact (upTo_suffix h).trans (List.suffix_cons _ _)
  · exact (upTo_suffix h).trans (List.suffix_cons _ _)
  · simp at h

/-- Attributes with a given name and a value between quotes: the value. -/
def readQuotedAttribute (name s : List Char) : Option (List Char × List Char) :=
  (afterEquals name s).bind quotedValue

theorem readQuotedAttribute_suffix {n s v r : List Char}
    (h : readQuotedAttribute n s = some (v, r)) : r <:+ s ∧ r ≠ s := by
  unfold readQuotedAttribute at h
  obtain ⟨t, ht, hq⟩ := Option.bind_eq_some_iff.1 h
  obtain ⟨h1, h2⟩ := afterEquals_suffix ht
  have h3 := quotedValue_suffix hq
  refine ⟨h3.trans h1, fun he => h2 ?_⟩
  exact h1.eq_of_length (Nat.le_antisymm h1.length_le (he ▸ h3.length_le))

def quotedAttribute (name : List Char) : Construct (List Char) :=
  ⟨readQuotedAttribute name, readQuotedAttribute_suffix⟩

end FeatureAudit.Markup
