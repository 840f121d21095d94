import FeatureAudit.Json.Reader
import FeatureAudit.Proofs.Layouts
import FeatureAudit.Proofs.Lexemes
import Mathlib.Data.List.Forall2

/-! Values are read back as they were written, in every layout: lists and objects if their items and
members are, and by the reader of any shape all values that do not nest too deep. -/
namespace FeatureAudit.Json

variable {α σ : Type} {b r s t rest : List Char} {c : Char} {l : Layout} {level depth fuel : Nat}

/-! Blanks. -/

def Blank (b : List Char) : Prop := ∀ c ∈ b, isSpace c = true

theorem Layout.blank_gap (l : Layout) (level : Nat) : Blank (l.gap level) := l.isSpace_gap level

theorem Layout.blank_space (l : Layout) : Blank l.space := l.isSpace_space

theorem blank_nil : Blank [] := by simp [Blank]

/-- A text that starts with a character which is neither a blank nor closes a list. -/
def Solid (s : List Char) : Prop := ∃ c t, s = c :: t ∧ isSpace c = false ∧ c ≠ ']'

theorem Solid.append (h : Solid s) (t : List Char) : Solid (s ++ t) := by
  obtain ⟨c, r, rfl, hc⟩ := h
  exact ⟨c, r ++ t, rfl, hc⟩

theorem solid_cons (h : isSpace c = false ∧ c ≠ ']') : Solid (c :: r) := ⟨c, r, rfl, h⟩

theorem skipSpace_cons (h : isSpace c = false) : skipSpace (c :: r) = c :: r := by
  simp [skipSpace, h]

theorem skipSpace_append (hb : Blank b) (s : List Char) : skipSpace (b ++ s) = skipSpace s :=
  List.dropWhile_append_of_pos hb

theorem stops_cons (h : c ∈ [',', ']', '\x7d']) : Stops (c :: r) := by
  intro d hd
  cases hd
  exact .inr h

theorem Stops.blank_append (hr : Stops r) (hb : Blank b) : Stops (b ++ r) := by
  cases b with
  | nil => exact hr
  | cons c b =>
    intro d hd
    cases hd
    exact .inl (hb c (by simp))

theorem stops_items (hr : Stops rest) (xs : List Json) : Stops (l.items level xs ++ rest) := by
  cases xs with
  | nil => exact hr
  | cons x xs => exact stops_cons (by simp)

theorem stops_members (hr : Stops rest) (ms : Members) : Stops (l.members level ms ++ rest) := by
  cases ms with
  | nil => exact hr
  | cons m ms => exact stops_cons (by simp)

/-! Readers. -/

/-- A reader takes a text for a value, whatever blanks stand before it, and stops behind it. -/
structure Reads (reader : Reader α) (s : List Char) (x : α) : Prop where
  solid : Solid s
  read : ∀ b rest, Blank b → Stops rest → reader (b ++ (s ++ rest)) = .ok (x, rest)

theorem Reads.read' {reader : Reader α} {x : α} (h : Reads reader s x) (hr : Stops rest) :
    reader (s ++ rest) = .ok (x, rest) := h.read [] rest blank_nil hr

/-! Lists. -/

theorem nextItem_close (first : Bool) (hb : Blank b) (rest : List Char) :
    nextItem first (b ++ ']' :: rest) = .ok none := by
  simp [nextItem, skipSpace_append hb, skipSpace_cons (c := ']') (by decide)]

theorem nextItem_first (hb : Blank b) (hs : Solid s) : nextItem true (b ++ s) = .ok (some s) := by
  obtain ⟨c, t, rfl, hc, hne⟩ := hs
  simp [nextItem, skipSpace_append hb, skipSpace_cons hc]

theorem nextItem_comma (hb : Blank b) (hs : Solid s) :
    nextItem false (',' :: (b ++ s)) = .ok (some s) := by
  obtain ⟨c, t, rfl, hc, hne⟩ := hs
  simp [nextItem, skipSpace_cons (c := ',') (by decide), skipSpace_append hb, skipSpace_cons hc,
    hne]

theorem endList_close (hb : Blank b) (rest : List Char) :
    endList (b ++ ']' :: rest) = .ok rest := by
  simp [endList, skipSpace_append hb, skipSpace_cons (c := ']') (by decide)]

/-- The items behind the first, up to the closing bracket. -/
theorem items_of_reads {item : Reader α} {js : List Json} {xs : List α}
    (h : List.Forall₂ (fun j x => Reads item (l.value level j) x) js xs) (hb : Blank b)
    (hf : js.length < fuel) (rest : List Char) :
    items item fuel false (l.items level js ++ (b ++ ']' :: rest)) =
      .ok (xs, b ++ ']' :: rest) := by
  induction h generalizing fuel with
  | nil =>
    obtain ⟨fuel, rfl⟩ := Nat.exists_eq_succ_of_ne_zero (Nat.ne_of_gt hf)
    simp [items, Layout.items, nextItem_close false hb, bind, Except.bind]
  | @cons j x js xs hx _ ih =>
    obtain ⟨fuel, rfl⟩ := Nat.exists_eq_succ_of_ne_zero (Nat.ne_of_gt (Nat.zero_lt_of_lt hf))
    have hstop : Stops (l.items level js ++ (b ++ ']' :: rest)) :=
      stops_items ((stops_cons (by simp)).blank_append hb) js
    have hnext := nextItem_comma (l.blank_gap level)
      (hx.solid.append (l.items level js ++ (b ++ ']' :: rest)))
    simp only [Layout.items, List.cons_append, List.append_assoc]
    simp only [items, hnext, hx.read' hstop, ih (Nat.lt_of_succ_lt_succ hf), bind, Except.bind]

theorem length_le_items (l : Layout) (level : Nat) (js : List Json) :
    js.length ≤ (l.items level js).length := by
  induction js with
  | nil => exact Nat.zero_le _
  | cons j js ih => simp [Layout.items]; omega

/-- A list is read if its items are. The length of the text is fuel enough. -/
theorem listOf_of_reads {item : Reader α} {js : List Json} {xs : List α}
    (h : List.Forall₂ (fun j x => Reads item (l.value (level + 1) j) x) js xs) (rest : List Char) :
    let s := l.listBody level js ++ rest
    listOf (items item (s.length + 1) true) s = .ok (xs, rest) := by
  intro s
  cases h with
  | nil =>
    have hnext := nextItem_close true blank_nil rest
    have hend := endList_close blank_nil rest
    simp only [List.nil_append] at hnext hend
    simp [s, listOf, items, Layout.listBody, hnext, hend, bind, Except.bind]
  | @cons j x js xs hx hxs =>
    have hstop : Stops (l.items (level + 1) js ++ (l.gap level ++ ']' :: rest)) :=
      stops_items ((stops_cons (by simp)).blank_append (l.blank_gap level)) js
    have hnext := nextItem_first (l.blank_gap (level + 1))
      (hx.solid.append (l.items (level + 1) js ++ (l.gap level ++ ']' :: rest)))
    have hfuel : js.length < s.length := by
      have := length_le_items l (level + 1) js
      simp only [s, Layout.listBody, List.length_append, List.length_cons]
      omega
    have hrest := items_of_reads hxs (l.blank_gap level) hfuel rest
    have hs : s = l.gap (level + 1) ++ (l.value (level + 1) j ++
        (l.items (level + 1) js ++ (l.gap level ++ ']' :: rest))) := by
      simp [s, Layout.listBody]
    rw [hs] at hrest ⊢
    simp only [listOf, items, hnext, hx.read' hstop, hrest, endList_close (l.blank_gap level), bind,
      Except.bind]

/-! Objects. -/

theorem nextName_close (first : Bool) (hb : Blank b) (rest : List Char) :
    nextName first (b ++ '\x7d' :: rest) = .ok none := by
  simp [nextName, skipSpace_append hb, skipSpace_cons (c := '\x7d') (by decide)]

theorem nextName_first (hb : Blank b) : nextName true (b ++ '"' :: s) = .ok (some s) := by
  simp [nextName, skipSpace_append hb, skipSpace_cons (c := '"') (by decide)]

theorem nextName_comma (hb : Blank b) : nextName false (',' :: (b ++ '"' :: s)) = .ok (some s) := by
  simp [nextName, skipSpace_cons (c := ',') (by decide), skipSpace_append hb,
    skipSpace_cons (c := '"') (by decide)]

theorem colon_cons : colon (':' :: s) = .ok s := by
  simp [colon, skipSpace_cons (c := ':') (by decide)]

theorem endObject_close (hb : Blank b) (rest : List Char) :
    endObject (b ++ '\x7d' :: rest) = .ok rest := by
  simp [endObject, skipSpace_append hb, skipSpace_cons (c := '\x7d') (by decide)]

theorem objectOf_ok {body : Reader α} {x : α} (h : body s = .ok (x, t))
    (hend : endObject t = .ok rest) : objectOf body s = .ok (x, rest) := by
  simp [objectOf, h, hend, bind, Except.bind]

/-- One member after the other is taken up, from one state of what has been gathered to the next.
`text` is how a value stands behind the name it belongs to. -/
inductive Gathers (member : σ → String → Reader σ) (text : Json → List Char) :
    σ → Members → σ → Prop
  | nil (x : σ) : Gathers member text x [] x
  | cons {x y z : σ} {k : String} {v : Json} {ms : Members}
    (read : ∀ rest, Stops rest → member x k (text v ++ rest) = .ok (y, rest))
    (tail : Gathers member text y ms z) : Gathers member text x ((k, v) :: ms) z

/-- How a value stands behind the name of a member. -/
def Layout.behind (l : Layout) (level : Nat) (v : Json) : List Char :=
  ':' :: (l.space ++ l.value level v)

/-- The members behind the first, up to the closing brace. -/
theorem members_of_gathers {member : σ → String → Reader σ} {ms : Members} {x y : σ}
    (h : Gathers member (l.behind level) x ms y) (hb : Blank b) (hf : ms.length < fuel)
    (rest : List Char) :
    members member fuel false x (l.members level ms ++ (b ++ '\x7d' :: rest)) =
      .ok (y, b ++ '\x7d' :: rest) := by
  induction h generalizing fuel with
  | nil x =>
    obtain ⟨fuel, rfl⟩ := Nat.exists_eq_succ_of_ne_zero (Nat.ne_of_gt hf)
    simp [members, Layout.members, nextName_close false hb, bind, Except.bind]
  | @cons x y z k v ms hread _ ih =>
    obtain ⟨fuel, rfl⟩ := Nat.exists_eq_succ_of_ne_zero (Nat.ne_of_gt (Nat.zero_lt_of_lt hf))
    have hstop : Stops (l.members level ms ++ (b ++ '\x7d' :: rest)) :=
      stops_members ((stops_cons (by simp)).blank_append hb) ms
    have hvalue := hread _ hstop
    simp only [Layout.behind, List.cons_append, List.append_assoc] at hvalue
    simp only [Layout.members, writeText, List.cons_append, List.append_assoc, List.nil_append]
    simp only [members, nextName_comma (l.blank_gap level), readString_writeText, hvalue,
      ih (Nat.lt_of_succ_lt_succ hf), bind, Except.bind]

theorem length_le_members (l : Layout) (level : Nat) (ms : Members) :
    ms.length ≤ (l.members level ms).length := by
  induction ms with
  | nil => exact Nat.zero_le _
  | cons m ms ih => simp [Layout.members]; omega

/-- All members are read if each is, up to a place where the object ends. -/
theorem members_read {member : σ → String → Reader σ} {ms : Members} {x y : σ}
    (h : Gathers member (l.behind (level + 1)) x ms y) (rest : List Char) :
    let s := l.objectBody level ms ++ rest
    ∃ t, members member (s.length + 1) true x s = .ok (y, t) ∧ endObject t = .ok rest := by
  intro s
  cases h with
  | nil x =>
    have hnext := nextName_close true blank_nil rest
    have hend := endObject_close blank_nil rest
    simp only [List.nil_append] at hnext hend
    exact ⟨'\x7d' :: rest, by
      simp [s, members, Layout.objectBody, hnext, bind, Except.bind], hend⟩
  | @cons x y z k v ms hread hms =>
    have hstop : Stops (l.members (level + 1) ms ++ (l.gap level ++ '\x7d' :: rest)) :=
      stops_members ((stops_cons (by simp)).blank_append (l.blank_gap level)) ms
    have hvalue := hread _ hstop
    simp only [Layout.behind, List.cons_append, List.append_assoc] at hvalue
    have hfuel : ms.length < s.length := by
      have := length_le_members l (level + 1) ms
      simp only [s, Layout.objectBody, List.length_append, List.length_cons]
      omega
    have hrest := members_of_gathers hms (l.blank_gap level) hfuel rest
    have hs : s = l.gap (level + 1) ++ '"' :: (k.toList.flatMap writeChar ++
        '"' :: ':' :: (l.space ++ (l.value (level + 1) v ++
          (l.members (level + 1) ms ++ (l.gap level ++ '\x7d' :: rest))))) := by
      simp [s, Layout.objectBody, writeText]
    rw [hs] at hrest ⊢
    refine ⟨l.gap level ++ '\x7d' :: rest, ?_, endObject_close (l.blank_gap level) rest⟩
    simp only [members, nextName_first (l.blank_gap (level + 1)), readString_writeText, hvalue,
      hrest, bind, Except.bind]

/-! Values of any shape. -/

mutual

/-- The numbers in a value. -/
def numbers : Json → List Number
  | .number n => [n]
  | .list xs => numbersOfItems xs
  | .object ms => numbersOfMembers ms
  | .null | .bool _ | .text _ => []

def numbersOfItems : List Json → List Number
  | [] => []
  | x :: xs => numbers x ++ numbersOfItems xs

def numbersOfMembers : Members → List Number
  | [] => []
  | (_, v) :: ms => numbers v ++ numbersOfMembers ms

end

theorem numbers_list (xs : List Json) : (Json.list xs).numbers = xs.flatMap numbers := by
  rw [numbers]
  induction xs with
  | nil => rfl
  | cons x xs ih => rw [numbersOfItems, ih, List.flatMap_cons]

theorem numbers_object (ms : Members) : (Json.object ms).numbers = ms.flatMap (numbers ·.2) := by
  rw [numbers]
  induction ms with
  | nil => rfl
  | cons m ms ih => rw [numbersOfMembers, ih, List.flatMap_cons]

mutual

/-- A value with other numbers in it. -/
def mapNumbers (g : Number → Number) : Json → Json
  | .number n => .number (g n)
  | .list xs => .list (mapNumbersOfItems g xs)
  | .object ms => .object (mapNumbersOfMembers g ms)
  | .null => .null
  | .bool b => .bool b
  | .text s => .text s

def mapNumbersOfItems (g : Number → Number) : List Json → List Json
  | [] => []
  | x :: xs => mapNumbers g x :: mapNumbersOfItems g xs

def mapNumbersOfMembers (g : Number → Number) : Members → Members
  | [] => []
  | (k, v) :: ms => (k, mapNumbers g v) :: mapNumbersOfMembers g ms

end

variable {g : Number → Number}

theorem mapNumbers_list (g : Number → Number) (xs : List Json) :
    (Json.list xs).mapNumbers g = .list (xs.map (mapNumbers g)) := by
  rw [mapNumbers]
  congr 1
  induction xs with
  | nil => rfl
  | cons x xs ih => rw [mapNumbersOfItems, ih, List.map_cons]

theorem mapNumbers_object (g : Number → Number) (ms : Members) :
    (Json.object ms).mapNumbers g = .object (ms.map fun m => (m.1, m.2.mapNumbers g)) := by
  rw [mapNumbers]
  congr 1
  induction ms with
  | nil => rfl
  | cons m ms ih => rw [mapNumbersOfMembers, ih, List.map_cons]

mutual

theorem mapNumbers_of_forall : ∀ {j : Json}, (∀ n ∈ j.numbers, g n = n) → j.mapNumbers g = j
  | .null, _ | .bool _, _ | .text _, _ => rfl
  | .number n, h => by rw [mapNumbers, h n (by simp [numbers])]
  | .list xs, h => by rw [mapNumbers, mapNumbersOfItems_of_forall h]
  | .object ms, h => by rw [mapNumbers, mapNumbersOfMembers_of_forall h]

theorem mapNumbersOfItems_of_forall :
    ∀ {xs : List Json}, (∀ n ∈ numbersOfItems xs, g n = n) → mapNumbersOfItems g xs = xs
  | [], _ => rfl
  | x :: xs, h => by
    rw [numbersOfItems, List.forall_mem_append] at h
    rw [mapNumbersOfItems, mapNumbers_of_forall h.1, mapNumbersOfItems_of_forall h.2]

theorem mapNumbersOfMembers_of_forall :
    ∀ {ms : Members}, (∀ n ∈ numbersOfMembers ms, g n = n) → mapNumbersOfMembers g ms = ms
  | [], _ => rfl
  | (k, v) :: ms, h => by
    rw [numbersOfMembers, List.forall_mem_append] at h
    rw [mapNumbersOfMembers, mapNumbers_of_forall h.1, mapNumbersOfMembers_of_forall h.2]

end

/-- Lists and objects nest at most so deep, and the names in an object are distinct. -/
def Regular : Nat → Json → Prop
  | depth + 1, .list xs => ∀ x ∈ xs, Regular depth x
  | depth + 1, .object ms => (ms.map Prod.fst).Nodup ∧ ∀ m ∈ ms, Regular depth m.2
  | 0, .list _ | 0, .object _ => False
  | _, .null | _, .bool _ | _, .number _ | _, .text _ => True

instance decidableRegular : ∀ (depth : Nat) (j : Json), Decidable (Regular depth j)
  | depth + 1, .list xs =>
    have := decidableRegular depth
    inferInstanceAs (Decidable (∀ x ∈ xs, Regular depth x))
  | depth + 1, .object ms =>
    have := decidableRegular depth
    inferInstanceAs (Decidable ((ms.map Prod.fst).Nodup ∧ ∀ m ∈ ms, Regular depth m.2))
  | 0, .list _ | 0, .object _ => isFalse id
  | 0, .null | 0, .bool _ | 0, .number _ | 0, .text _ => isTrue trivial
  | _ + 1, .null | _ + 1, .bool _ | _ + 1, .number _ | _ + 1, .text _ => isTrue trivial

section

variable {gather : Members → Members}

theorem reads_null : Reads (readValue gather depth) (l.value level .null) .null := by
  refine ⟨solid_cons (by decide), fun b rest hb _ => ?_⟩
  rw [readValue.eq_def, skipSpace_append hb]
  simp [Layout.value, skipSpace_cons (c := 'n') (by decide), word, bind, Except.bind]

theorem reads_bool (x : Bool) :
    Reads (readValue gather depth) (l.value level (.bool x)) (.bool x) := by
  cases x
  · refine ⟨solid_cons (by decide), fun b rest hb _ => ?_⟩
    rw [readValue.eq_def, skipSpace_append hb]
    simp [Layout.value, skipSpace_cons (c := 'f') (by decide), word, bind, Except.bind]
  · refine ⟨solid_cons (by decide), fun b rest hb _ => ?_⟩
    rw [readValue.eq_def, skipSpace_append hb]
    simp [Layout.value, skipSpace_cons (c := 't') (by decide), word, bind, Except.bind]

theorem reads_text (s : String) :
    Reads (readValue gather depth) (l.value level (.text s)) (.text s) := by
  refine ⟨solid_cons (by decide), fun b rest hb _ => ?_⟩
  rw [readValue.eq_def, skipSpace_append hb]
  simp [Layout.value, writeText, skipSpace_cons (c := '"') (by decide), readString_writeText, bind,
    Except.bind]

theorem reads_number {x y : Number} (hx : ReadAs x y) :
    Reads (readValue gather depth) (l.value level (.number x)) (.number y) := by
  simp only [Layout.value]
  rcases hx with ⟨s, hs, hread⟩ | ⟨c, s, hs, hc, hread⟩
  · rw [hs]
    refine ⟨solid_cons (by decide), fun b rest hb hr => ?_⟩
    rw [readValue.eq_def, skipSpace_append hb, List.cons_append, skipSpace_cons (by decide)]
    simp [hread rest hr, bind, Except.bind]
  · have hne {d : Char} (hd : d.isDigit = false) : c ≠ d := by
      rintro rfl
      exact absurd hc (by simp [hd])
    have hspace : isSpace c = false := by
      simp [isSpace, hne (d := ' ') rfl, hne (d := '\n') rfl, hne (d := '\t') rfl,
        hne (d := '\r') rfl]
    have hnumber (rest : List Char) (hr : Stops rest) :
        readNumber false (c :: (s ++ rest)) = .ok (y, rest) := hread rest hr
    rw [hs]
    refine ⟨solid_cons ⟨hspace, hne rfl⟩, fun b rest hb hr => ?_⟩
    rw [readValue.eq_def, skipSpace_append hb, List.cons_append, skipSpace_cons hspace]
    have hn := hne (d := 'n') rfl
    have ht := hne (d := 't') rfl
    have hf := hne (d := 'f') rfl
    have hm := hne (d := '-') rfl
    have hq := hne (d := '"') rfl
    have hl := hne (d := '[') rfl
    have ho := hne (d := '\x7b') rfl
    simp [hc, hnumber rest hr, bind, Except.bind]

/-- The members of an object are gathered as they are written. -/
theorem gathers_of_reads {reader : Reader Json} {view : Json → Json} {ms : Members}
    (done : Members) (h : ∀ m ∈ ms, Reads reader (l.value level m.2) (view m.2)) :
    Gathers (fun ms name s => do
      let (v, t) ← reader (← colon s)
      .ok (ms ++ [(name, v)], t)) (l.behind level) done ms
        (done ++ ms.map fun m => (m.1, view m.2)) := by
  induction ms generalizing done with
  | nil => simpa using Gathers.nil done
  | cons m ms ih =>
    have hrest := ih (done ++ [(m.1, view m.2)]) fun m hm => h m (by simp [hm])
    rw [List.append_assoc] at hrest
    refine .cons (fun rest hr => ?_) hrest
    have hvalue := (h m (by simp)).read _ rest l.blank_space hr
    simp [Layout.behind, colon_cons, hvalue, bind, Except.bind]

/-- Any value whose objects have distinct names is read, each number as what its text is read as,
unless the value nests too deep. -/
theorem reads_mapNumbers {j : Json}
    (hg : ∀ ms : Members, (ms.map Prod.fst).Nodup → gather ms = ms) (hd : Regular depth j)
    (hn : ∀ n ∈ j.numbers, ReadAs n (g n)) :
    Reads (readValue gather depth) (l.value level j) (j.mapNumbers g) := by
  induction depth generalizing j level with
  | zero =>
    cases j with
    | null => exact reads_null
    | bool x => exact reads_bool x
    | number x => exact reads_number (hn x (by simp [numbers]))
    | text s => exact reads_text s
    | list xs => exact hd.elim
    | object ms => exact hd.elim
  | succ depth ih =>
    cases j with
    | null => exact reads_null
    | bool x => exact reads_bool x
    | number x => exact reads_number (hn x (by simp [numbers]))
    | text s => exact reads_text s
    | list xs =>
      have hitems : List.Forall₂
          (fun j x => Reads (readValue gather depth) (l.value (level + 1) j) x) xs
            (xs.map (mapNumbers g)) := by
        rw [List.forall₂_map_right_iff, List.forall₂_same]
        intro x hx
        exact ih (hd x hx) fun n hm =>
          hn n (by rw [numbers_list]; exact List.mem_flatMap.2 ⟨x, hx, hm⟩)
      refine ⟨solid_cons (by decide), fun b rest hb _ => ?_⟩
      rw [readValue.eq_def, skipSpace_append hb, mapNumbers_list]
      simp only [Layout.value, List.cons_append, skipSpace_cons (c := '[') (by decide),
        listOf_of_reads hitems rest, bind, Except.bind]
    | object ms =>
      obtain ⟨hdistinct, hd⟩ := hd
      have hreads : ∀ m ∈ ms,
          Reads (readValue gather depth) (l.value (level + 1) m.2) (m.2.mapNumbers g) :=
        fun m hm => ih (hd m hm) fun n hn' =>
          hn n (by rw [numbers_object]; exact List.mem_flatMap.2 ⟨m, hm, hn'⟩)
      have hmembers := gathers_of_reads [] hreads
      have hnames : ((ms.map fun m => (m.1, m.2.mapNumbers g)).map Prod.fst).Nodup := by
        simpa [Function.comp_def] using hdistinct
      refine ⟨solid_cons (by decide), fun b rest hb hr => ?_⟩
      obtain ⟨t, hread, hend⟩ := members_read (l := l) hmembers rest
      have hobject := objectOf_ok hread hend
      rw [readValue.eq_def, skipSpace_append hb, mapNumbers_object]
      simp only [Layout.value, List.cons_append, skipSpace_cons (c := '\x7b') (by decide), hobject]
      simp [hg _ hnames, bind, Except.bind]

/-- If its numbers are of 64 bits, such a value is read back. -/
theorem reads_value {j : Json} (hg : ∀ ms : Members, (ms.map Prod.fst).Nodup → gather ms = ms)
    (hd : Regular depth j) (hn : ∀ n ∈ j.numbers, n.IsWord) :
    Reads (readValue gather depth) (l.value level j) j := by
  have hread : Reads (readValue gather depth) (l.value level j) (j.mapNumbers id) :=
    reads_mapNumbers hg hd fun n hm => readAs_of_isWord (hn n hm)
  rwa [mapNumbers_of_forall (fun _ _ => rfl : ∀ n ∈ j.numbers, id n = n)] at hread

end

end FeatureAudit.Json
