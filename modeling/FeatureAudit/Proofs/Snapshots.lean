import FeatureAudit.Proofs.Nesting

/-! A catalog is read back from its snapshot. -/
namespace FeatureAudit

variable {α : Type} {s rest : List Char} {l : Json.Layout} {level depth : Nat} {ms : Json.Members}

namespace Json

/-! Readers of known shapes. -/

theorem stops_nil : Stops [] := by simp [Stops]

theorem reads_expectString {expected : String} (x : String) :
    Reads (expectString expected) (l.value level (.text x)) x := by
  refine ⟨solid_cons (by decide), fun b rest hb _ => ?_⟩
  rw [expectString, skipSpace_append hb]
  simp [Layout.value, writeText, skipSpace_cons (c := '"') (by decide), readString_writeText]

theorem reads_optional {reader : Reader α} {x : α} (h : Reads reader s x)
    (hn : s.head? ≠ some 'n') : Reads (optional reader) s (some x) := by
  refine ⟨h.solid, fun b rest hb hr => ?_⟩
  obtain ⟨c, t, rfl, hc, _⟩ := h.solid
  rw [optional, skipSpace_append hb, List.cons_append, skipSpace_cons hc]
  split
  · next he =>
    cases he
    exact absurd rfl hn
  · rw [← List.cons_append, h.read b rest hb hr]
    rfl

theorem reads_variant {known : List (String × α)} {name : String} {x : α}
    (h : known.lookup name = some x) :
    Reads (variant known depth) (l.value level (.text name)) x := by
  refine ⟨solid_cons (by decide), fun b rest hb hr => ?_⟩
  have hexpect : Reads (expectString "variant identifier") (l.value level (.text name)) name :=
    reads_expectString name
  have hname := hexpect.read' hr
  rw [variant, skipSpace_append hb]
  simp only [Layout.value, writeText, List.cons_append, skipSpace_cons (c := '"') (by decide)]
    at hname ⊢
  simp only [variantName, hname, h, bind, Except.bind]

theorem reads_anyObject (hd : Regular depth (.object ms))
    (hn : ∀ n ∈ (object ms).numbers, n.IsWord) :
    Reads (anyObject depth) (l.value level (.object ms)) ms := by
  have hvalue : Reads (readValue ofWritten depth) (l.value level (.object ms)) (.object ms) :=
    reads_value (fun _ => ofWritten_of_nodup) hd hn
  refine ⟨hvalue.solid, fun b rest hb hr => ?_⟩
  have hread := hvalue.read b rest hb hr
  rw [anyObject, skipSpace_append hb]
  simp only [Layout.value, List.cons_append, skipSpace_cons (c := '\x7b') (by decide)] at hread ⊢
  simp [hread, bind, Except.bind]

theorem reads_sequence {item : Nat → Reader α} {js : List Json} {xs : List α}
    (h : List.Forall₂ (fun j x => Reads (item depth) (l.value (level + 1) j) x) js xs) :
    Reads (sequence item (depth + 1)) (l.value level (.list js)) xs := by
  refine ⟨solid_cons (by decide), fun b rest hb _ => ?_⟩
  rw [sequence, skipSpace_append hb]
  simp only [Layout.value, List.cons_append, skipSpace_cons (c := '[') (by decide),
    listOf_of_reads h rest]

theorem onlyOnce_behind {name : String} {reader : Reader α} {v : Json} {x : α}
    (h : Reads reader (l.value level v) x) (hr : Stops rest) :
    onlyOnce name none reader (l.behind level v ++ rest) = .ok (some x, rest) := by
  have hread := h.read _ rest l.blank_space hr
  simp [onlyOnce, Layout.behind, colon_cons, hread, bind, Except.bind]

theorem readAll_of_reads {reader : Reader α} {text : String} {x : α}
    (h : Reads reader text.toList x) : readAll reader text = .ok x := by
  have hread := h.read' stops_nil
  rw [List.append_nil] at hread
  simp [readAll, hread, skipSpace, bind, Except.bind, Except.mapError]

/-- A text is read as the value of which it is the text in a layout. -/
theorem parse_of_layout {j : Json} {text : String} (hd : Regular maxDepth j)
    (hn : ∀ n ∈ j.numbers, n.IsWord) (ht : text.toList = l.value level j) : parse text = .ok j := by
  refine readAll_of_reads ?_
  rw [ht]
  exact reads_value (fun _ => ofWritten_of_nodup) hd hn

end Json

open Json

theorem Kind.lookup_name (k : Kind) : Kind.named.lookup k.name = some k := by cases k <;> decide

theorem Maturity.lookup_name (m : Maturity) : Maturity.named.lookup m.name = some m := by
  cases m <;> decide

namespace Feature

/-- The numbers in what browsers support are integers of 64 bits. -/
def Whole (f : Feature) : Prop := ∀ n ∈ (Json.object f.browserSupport).numbers, n.IsWord

instance (f : Feature) : Decidable f.Whole :=
  inferInstanceAs (Decidable (∀ n ∈ (Json.object f.browserSupport).numbers, n.IsWord))

/-! The members of a feature, one by one. -/

section

variable {d : Draft}

/-- A member that is not given yet goes where its name says. -/
theorem gathers_onlyOnce {name : String} {given : Option α} {reader : Reader α} {v : Json} {x : α}
    (put : Option α → Draft) (hd : given = none) (h : Reads reader (l.value level v) x) :
    ∀ rest, Stops rest →
      (do
        let (x, t) ← onlyOnce name given reader (l.behind level v ++ rest)
        Except.ok (put x, t)) = .ok (put (some x), rest) := by
  intro rest hr
  rw [hd, onlyOnce_behind h hr]
  rfl

theorem readMember_id (hd : d.id = none) (x : String) : ∀ rest, Stops rest →
    readMember depth d "id" (l.behind level (.text x) ++ rest) =
      .ok ({ d with id := some x }, rest) :=
  gathers_onlyOnce (fun x => { d with id := x }) hd (reads_expectString x)

theorem readMember_name (hd : d.name = none) (x : String) : ∀ rest, Stops rest →
    readMember depth d "name" (l.behind level (.text x) ++ rest) =
      .ok ({ d with name := some x }, rest) :=
  gathers_onlyOnce (fun x => { d with name := x }) hd (reads_expectString x)

theorem readMember_description (hd : d.description = none) (x : String) : ∀ rest, Stops rest →
    readMember depth d "description" (l.behind level (.text x) ++ rest) =
      .ok ({ d with description := some x }, rest) :=
  gathers_onlyOnce (fun x => { d with description := x }) hd (reads_expectString x)

theorem readMember_specLink (hd : d.specLink = none) (x : String) : ∀ rest, Stops rest →
    readMember depth d "specLink" (l.behind level (.text x) ++ rest) =
      .ok ({ d with specLink := some (some x) }, rest) :=
  gathers_onlyOnce (fun x => { d with specLink := x }) hd
    (reads_optional (reads_expectString x) (by simp [Layout.value, writeText]))

theorem readMember_kind (hd : d.kind = none) (k : Kind) : ∀ rest, Stops rest →
    readMember depth d "kind" (l.behind level (.text k.name) ++ rest) =
      .ok ({ d with kind := some k }, rest) :=
  gathers_onlyOnce (fun x => { d with kind := x }) hd (reads_variant k.lookup_name)

theorem readMember_maturity (hd : d.maturity = none) (m : Maturity) : ∀ rest, Stops rest →
    readMember depth d "maturity" (l.behind level (.text m.name) ++ rest) =
      .ok ({ d with maturity := some m }, rest) :=
  gathers_onlyOnce (fun x => { d with maturity := x }) hd (reads_variant m.lookup_name)

theorem readMember_browserSupport (hd : d.browserSupport = none)
    (hms : Regular depth (.object ms)) (hn : ∀ n ∈ (Json.object ms).numbers, n.IsWord) :
    ∀ rest, Stops rest →
    readMember depth d "browserSupport" (l.behind level (.object ms) ++ rest) =
      .ok ({ d with browserSupport := some ms }, rest) :=
  gathers_onlyOnce (fun x => { d with browserSupport := x }) hd (reads_anyObject hms hn)

end

/-- The draft that the members of a feature make up. -/
def draft (f : Feature) : Draft :=
  { id := some f.id
    name := some f.name
    description := some f.description
    specLink := f.specLink.map some
    kind := some f.kind
    maturity := some f.maturity
    browserSupport := some f.browserSupport }

theorem complete_draft (f : Feature) : f.draft.complete = .ok f := by
  obtain ⟨id, name, description, link, kind, maturity, support⟩ := f
  cases link <;> rfl

theorem reads_toJson {f : Feature} (hs : f.Storable) (hw : f.Whole) :
    Reads (Feature.read (maxDepth - 1)) (l.value level f.toJson) f := by
  have hmembers : ∃ ms, f.toJson = .object ms ∧
      Gathers (readMember (maxDepth - 2)) (l.behind (level + 1)) {} ms f.draft := by
    obtain ⟨id, name, description, link, kind, maturity, support⟩ := f
    cases link with
    | none =>
      exact ⟨_, rfl,
        .cons (readMember_id rfl id) <| .cons (readMember_name rfl name) <|
        .cons (readMember_description rfl description) <|
        .cons (readMember_kind rfl kind) <| .cons (readMember_maturity rfl maturity) <|
        .cons (readMember_browserSupport rfl hs hw) <| .nil _⟩
    | some link =>
      exact ⟨_, rfl,
        .cons (readMember_id rfl id) <| .cons (readMember_name rfl name) <|
        .cons (readMember_description rfl description) <| .cons (readMember_specLink rfl link) <|
        .cons (readMember_kind rfl kind) <| .cons (readMember_maturity rfl maturity) <|
        .cons (readMember_browserSupport rfl hs hw) <| .nil _⟩
  obtain ⟨ms, hms, hgathers⟩ := hmembers
  rw [hms]
  refine ⟨solid_cons (by decide), fun b rest hb hr => ?_⟩
  obtain ⟨t, hread, hend⟩ := members_read hgathers rest
  have hobject : fromObject (maxDepth - 2) (l.objectBody level ms ++ rest) = .ok (f, t) := by
    simp only [fromObject, hread, complete_draft, bind, Except.bind]
  rw [Feature.read, record, skipSpace_append hb]
  simp only [Layout.value, List.cons_append, skipSpace_cons (c := '\x7b') (by decide)]
  exact objectOf_ok hobject hend

end Feature

theorem Snapshot.parse_of_layout {fs : List Feature} {text : String}
    (hs : ∀ f ∈ fs, f.Storable ∧ f.Whole) (ht : text.toList = l.value 0 (Snapshot.toJson fs)) :
    Snapshot.parse text = .ok fs := by
  have hitems : List.Forall₂ (fun j f => Reads (Feature.read (maxDepth - 1)) (l.value 1 j) f)
      (fs.map Feature.toJson) fs := by
    rw [List.forall₂_map_left_iff, List.forall₂_same]
    exact fun f hf => Feature.reads_toJson (hs f hf).1 (hs f hf).2
  refine readAll_of_reads ?_
  rw [ht]
  exact reads_sequence hitems

theorem Catalog.ofSnapshot_of_layout {c : Catalog} {text : String} (hc : c.WellFormed)
    (hs : ∀ f ∈ c.features, f.Storable ∧ f.Whole) (ht : text.toList = l.value 0 c.toSnapshot) :
    Catalog.ofSnapshot text = .ok c := by
  rw [ofSnapshot, Snapshot.parse_of_layout hs ht]
  simp only [ofFeatures_features hc]

end FeatureAudit
