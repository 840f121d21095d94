import FeatureAudit.Page.Json
import FeatureAudit.Proofs.Snapshots

/-! Artifacts are read back from their JSON, whichever of the members that hold nothing it leaves
out. -/
namespace FeatureAudit

variable {α : Type} {l : Json.Layout} {level depth : Nat} {name : String} {v j : Json}
  {m : String × Json} {ms ns : Json.Members} {s : Stylesheet} {a : Artifacts}

namespace Json

/-! Members that are left out. -/

/-- The second object is the first without some of its members, all of which have one value. -/
inductive Without (v : Json) : Members → Members → Prop
  | nil : Without v [] []
  | keep (m : String × Json) {ms ns : Members} (h : Without v ms ns) : Without v (m :: ms) (m :: ns)
  | leave (k : String) {ms ns : Members} (h : Without v ms ns) : Without v ((k, v) :: ms) ns

/-- A member that is there, or is left out for its value. -/
def KeptUnless (v : Json) (m : String × Json) (kept : Option (String × Json)) : Prop :=
  kept = some m ∨ kept = none ∧ m.2 = v

theorem without_refl (v : Json) (ms : Members) : Without v ms ms := by
  induction ms with
  | nil => exact .nil
  | cons m ms ih => exact ih.keep m

theorem Without.exists_option (h : Without v (m :: ms) ns) :
    ∃ (kept : Option (String × Json)) (ns' : Members), ns = kept.toList ++ ns' ∧ Without v ms ns' ∧
      KeptUnless v m kept := by
  cases h with
  | keep _ h => exact ⟨some m, _, rfl, h, .inl rfl⟩
  | leave k h => exact ⟨none, _, rfl, h, .inr ⟨rfl, rfl⟩⟩

theorem Without.exists_cons (h : Without v (m :: ms) ns) (hm : m.2 ≠ v) :
    ∃ ns', ns = m :: ns' ∧ Without v ms ns' := by
  cases h with
  | keep _ h => exact ⟨_, rfl, h⟩
  | leave k h => exact (hm rfl).elim

theorem Gathers.append {σ : Type} {member : σ → String → Reader σ} {text : Json → List Char}
    {x y z : σ} (hms : Gathers member text x ms y) (hns : Gathers member text y ns z) :
    Gathers member text x (ms ++ ns) z := by
  induction hms with
  | nil => exact hns
  | cons read _ ih => exact .cons read (ih hns)

theorem Without.eq_nil (h : Without v [] ns) : ns = [] := by
  cases h
  rfl

/-! Texts. -/

theorem asTexts_textsJson (xs : List String) : asTexts (textsJson xs) = .ok xs := by
  change (xs.map Json.text).mapM asText = .ok xs
  induction xs with
  | nil => rfl
  | cons x xs ih =>
    rw [List.map_cons, List.mapM_cons, ih]
    rfl

theorem asOptionalText_optionalTextJson (x : Option String) :
    asOptionalText (optionalTextJson x) = .ok x := by
  cases x <;> rfl

theorem reads_flat (hj : Flat j) (hn : j.numbers = []) :
    Reads (readValue id depth) (l.value level j) j :=
  reads_value (fun _ _ => rfl) (regular_of_flat hj) (by simp [hn])

theorem reads_optionalTextJson (x : Option String) :
    Reads (readValue id depth) (l.value level (optionalTextJson x)) (optionalTextJson x) := by
  cases x <;> exact reads_flat trivial rfl

theorem reads_textsJson (xs : List String) :
    Reads (readValue id (depth + 1)) (l.value level (textsJson xs)) (textsJson xs) := by
  refine reads_value (fun _ _ => rfl) (fun j hj => ?_) ?_
  · obtain ⟨x, -, rfl⟩ := List.mem_map.1 hj
    exact regular_of_flat trivial
  · rw [textsJson, numbers_list, List.flatMap_map]
    simp [numbers]

/-! Values of several shapes. -/

theorem reads_variantName {known : List (String × α)} {x : α} (h : known.lookup name = some x) :
    Reads (variantName known) (l.value level (.text name)) x := by
  have hname : Reads (expectString "variant identifier") (l.value level (.text name)) name :=
    reads_expectString name
  refine ⟨hname.solid, fun b rest hb hr => ?_⟩
  simp only [variantName, hname.read b rest hb hr, h, bind, Except.bind]

/-- How the members of a value of several shapes are gathered: the shape apart from the others. -/
def tagMember (known : List (String × α)) (depth : Nat) :
    Option α × Members → String → Reader (Option α × Members) := fun (tag, ms) name s =>
  if name = "type" then do
    let (tag, t) ← onlyOnce "type" tag (variantName known) s
    .ok ((tag, ms), t)
  else do
    let (v, t) ← readValue id depth (← colon s)
    .ok ((tag, ms ++ [(name, v)]), t)

theorem gathers_tagMember {known : List (String × α)} {tag : Option α} (done : Members)
    (h : ∀ m ∈ ms, m.1 ≠ "type" ∧ Reads (readValue id depth) (l.value level m.2) m.2) :
    Gathers (tagMember known depth) (l.behind level) (tag, done) ms (tag, done ++ ms) := by
  induction ms generalizing done with
  | nil => simpa using Gathers.nil (tag, done)
  | cons m ms ih =>
    obtain ⟨hname, hvalue⟩ := h m (by simp)
    have hrest := ih (done ++ [m]) fun m hm => h m (by simp [hm])
    rw [List.append_assoc] at hrest
    refine .cons (fun rest hr => ?_) hrest
    have hread := hvalue.read _ rest l.blank_space hr
    simp [tagMember, hname, Layout.behind, colon_cons, hread, bind, Except.bind]

/-- A value is read with its shape apart if that comes first and the other members are read. -/
theorem reads_tagged {expected : String} {known : List (String × α)} {x : α}
    (h : known.lookup name = some x)
    (hms : ∀ m ∈ ms, m.1 ≠ "type" ∧ Reads (readValue id depth) (l.value (level + 1) m.2) m.2) :
    Reads (tagged expected known (depth + 1))
      (l.value level (.object (("type", .text name) :: ms))) (x, .object ms) := by
  have hgathers : Gathers (tagMember known depth) (l.behind (level + 1)) (none, [])
      (("type", .text name) :: ms) (some x, ms) := by
    refine .cons (fun rest hr => ?_) (gathers_tagMember [] hms)
    simp [tagMember, onlyOnce_behind (reads_variantName h) hr, bind, Except.bind]
  refine ⟨solid_cons (by decide), fun b rest hb hr => ?_⟩
  obtain ⟨t, hread, hend⟩ := members_read hgathers rest
  rw [tagged, skipSpace_append hb]
  simp only [Layout.value, List.cons_append, skipSpace_cons (c := '\x7b') (by decide)]
  refine objectOf_ok ?_ hend
  exact congrArg (· >>= _) hread

end Json

open Json

namespace Artifacts

theorem reads_readTagged {expected : String} {shapes : List (String × (Json → Except Cause α))}
    {shape : Json → Except Cause α} {x : α} (h : shapes.lookup name = some shape)
    (hms : ∀ m ∈ ms, m.1 ≠ "type" ∧ Reads (readValue id depth) (l.value (level + 1) m.2) m.2)
    (hx : shape (.object ms) = .ok x) :
    Reads (readTagged expected shapes (depth + 1))
      (l.value level (.object (("type", .text name) :: ms))) x := by
  have htagged : Reads (tagged expected shapes (depth + 1)) _ _ := reads_tagged h hms
  refine ⟨htagged.solid, fun b rest hb hr => ?_⟩
  simp only [readTagged, htagged.read b rest hb hr, Except.map, hx, bind, Except.bind]

end Artifacts

namespace Stylesheet

/-- JSON of a style sheet, from which an address that is none may be left out. -/
def WrittenAs (s : Stylesheet) (j : Json) : Prop :=
  ∃ full ms, s.toJson = .object full ∧ Without .null full ms ∧ j = .object ms

theorem writtenAs_toJson (s : Stylesheet) : s.WrittenAs s.toJson := by
  cases s <;> exact ⟨_, _, rfl, without_refl _ _, rfl⟩

section Kept

variable {href : Option String} {rules : List String} {kept : Option (String × Json)}

theorem readableOf_of_members (h : KeptUnless .null ("href", optionalTextJson href) kept) :
    readableOf (.object (kept.toList ++ [("rules", textsJson rules)])) =
      .ok (.readable href rules) := by
  have hrules := asTexts_textsJson rules
  rcases h with rfl | ⟨rfl, hnull⟩
  · have hhref := asOptionalText_optionalTextJson href
    simp [readableOf, takeUp, demand, hhref, hrules, bind, Except.bind, pure, Except.pure,
      Except.map]
  · obtain rfl : href = none := by cases href <;> simp_all [optionalTextJson]
    simp [readableOf, takeUp, demand, hrules, bind, Except.bind, pure, Except.pure, Except.map]

theorem closedOf_of_members (h : KeptUnless .null ("href", optionalTextJson href) kept) :
    closedOf (.object kept.toList) = .ok (.closed href) := by
  rcases h with rfl | ⟨rfl, hnull⟩
  · have hhref := asOptionalText_optionalTextJson href
    simp [closedOf, takeUp, hhref, bind, Except.bind, pure, Except.pure, Except.map]
  · obtain rfl : href = none := by cases href <;> simp_all [optionalTextJson]
    rfl

theorem reads_of_mem_kept (h : KeptUnless .null ("href", optionalTextJson href) kept)
    (hm : m ∈ kept.toList) :
    m.1 ≠ "type" ∧ Reads (readValue id depth) (l.value level m.2) m.2 := by
  rcases h with rfl | ⟨rfl, -⟩
  · cases List.mem_singleton.1 hm
    exact ⟨by simp, reads_optionalTextJson href⟩
  · cases hm

end Kept

theorem reads_of_writtenAs {expected : String} (h : s.WrittenAs j) :
    Reads (Artifacts.readTagged expected shapes (depth + 2)) (l.value level j) s := by
  obtain ⟨full, ms, hfull, hall, rfl⟩ := h
  cases s with
  | readable href rules =>
    obtain rfl := Json.object.inj hfull
    obtain ⟨_, rfl, hmembers⟩ := hall.exists_cons (by simp)
    obtain ⟨kept, _, rfl, hlast, hkept⟩ := hmembers.exists_option
    obtain ⟨_, rfl, hnone⟩ := hlast.exists_cons (by simp [textsJson])
    obtain rfl := hnone.eq_nil
    refine Artifacts.reads_readTagged (by rfl) (fun m hm => ?_) (readableOf_of_members hkept)
    rcases List.mem_append.1 hm with hm | hm
    · exact reads_of_mem_kept hkept hm
    · cases List.mem_singleton.1 hm
      exact ⟨by simp, reads_textsJson rules⟩
  | closed href =>
    obtain rfl := Json.object.inj hfull
    obtain ⟨_, rfl, hmembers⟩ := hall.exists_cons (by simp)
    obtain ⟨kept, _, rfl, hnone, hkept⟩ := hmembers.exists_option
    obtain rfl := hnone.eq_nil
    rw [List.append_nil]
    exact Artifacts.reads_readTagged (by rfl) (fun _ => reads_of_mem_kept hkept)
      (closedOf_of_members hkept)

end Stylesheet

theorem Script.reads_toJson {expected : String} (s : Script) :
    Reads (Artifacts.readTagged expected shapes (depth + 1)) (l.value level s.toJson) s := by
  cases s with
  | inline text =>
    refine Artifacts.reads_readTagged (by rfl) (fun m hm => ?_) (by rfl)
    cases List.mem_singleton.1 hm
    exact ⟨by simp, reads_flat trivial rfl⟩
  | external src =>
    refine Artifacts.reads_readTagged (by rfl) (fun m hm => ?_) (by rfl)
    cases List.mem_singleton.1 hm
    exact ⟨by simp, reads_flat trivial rfl⟩

namespace Artifacts

/-- The members of artifacts whose style sheets are written in some way. -/
def members (a : Artifacts) (sheets : List Json) : Members :=
  [("inlineStyles", textsJson a.inlineStyles), ("stylesheets", .list sheets),
    ("tagNames", textsJson a.tagNames), ("scripts", .list (a.scripts.map Script.toJson))]

/-- JSON of artifacts, from which lists that are empty and addresses that are none may be left
out. -/
def WrittenAs (a : Artifacts) (j : Json) : Prop :=
  ∃ sheets ms, List.Forall₂ Stylesheet.WrittenAs a.stylesheets sheets ∧
    Without (.list []) (a.members sheets) ms ∧ j = .object ms

theorem writtenAs_toJson (a : Artifacts) : a.WrittenAs a.toJson := by
  refine ⟨a.stylesheets.map Stylesheet.toJson, _, ?_, without_refl _ _, rfl⟩
  rw [List.forall₂_map_right_iff, List.forall₂_same]
  exact fun s _ => s.writtenAs_toJson

/-! The members, one by one. -/

theorem reads_readTexts (xs : List String) :
    Reads (readTexts (depth + 1)) (l.value level (textsJson xs)) xs := by
  refine reads_sequence ?_
  rw [List.forall₂_map_left_iff, List.forall₂_same]
  exact fun x _ => reads_expectString x

theorem reads_readSheets {sheets : List Json}
    (h : List.Forall₂ Stylesheet.WrittenAs a.stylesheets sheets) :
    Reads (readSheets (depth + 3)) (l.value level (.list sheets)) a.stylesheets :=
  reads_sequence (h.flip.imp fun _ _ hs => Stylesheet.reads_of_writtenAs hs)

theorem reads_readScripts (scripts : List Script) :
    Reads (readScripts (depth + 2)) (l.value level (.list (scripts.map Script.toJson)))
      scripts := by
  refine reads_sequence ?_
  rw [List.forall₂_map_left_iff, List.forall₂_same]
  exact fun s _ => s.reads_toJson

/-- A member that may be left out if it holds nothing is gathered in either case. -/
theorem gathers_option {reader : Reader (List α)} {xs : List α} {kept : Option (String × Json)}
    (put : Option (List α) → Draft)
    (hmember : ∀ s, readMember depth (put none) name s = (do
      let (x, t) ← onlyOnce name none reader s
      Except.ok (put x, t)))
    (hread : Reads reader (l.value level v) xs)
    (hkept : KeptUnless (.list []) (name, v) kept)
    (hempty : v = .list [] → xs = []) :
    ∃ given, given.getD [] = xs ∧
      Gathers (readMember depth) (l.behind level) (put none) kept.toList (put given) := by
  rcases hkept with rfl | ⟨rfl, hv⟩
  · refine ⟨some xs, rfl, .cons (fun rest hr => ?_) (.nil _)⟩
    simp only [hmember, onlyOnce_behind hread hr, bind, Except.bind]
  · exact ⟨none, (hempty hv).symm, .nil _⟩

theorem textsJson_eq_empty {xs : List String} (h : textsJson xs = .list []) : xs = [] :=
  List.map_eq_nil_iff.1 (Json.list.inj h)

/-- Whichever members have been left out, what is gathered is completed to the artifacts. -/
theorem exists_gathers {sheets : List Json}
    (hsheets : List.Forall₂ Stylesheet.WrittenAs a.stylesheets sheets)
    (h : Without (.list []) (a.members sheets) ms) :
    ∃ d, d.complete = a ∧ Gathers (readMember (depth + 3)) (l.behind level) {} ms d := by
  have hnosheets : Json.list sheets = .list [] → a.stylesheets = [] := by
    intro he
    obtain rfl := Json.list.inj he
    exact List.forall₂_nil_right_iff.1 hsheets
  have hnoscripts : Json.list (a.scripts.map Script.toJson) = .list [] → a.scripts = [] :=
    fun he => List.map_eq_nil_iff.1 (Json.list.inj he)
  obtain ⟨keptStyles, _, rfl, hrest, hstyles⟩ := h.exists_option
  obtain ⟨keptSheets, _, rfl, hrest, hlinked⟩ := hrest.exists_option
  obtain ⟨keptNames, _, rfl, hrest, hnames⟩ := hrest.exists_option
  obtain ⟨keptScripts, _, rfl, hrest, hscripts⟩ := hrest.exists_option
  obtain rfl := hrest.eq_nil
  obtain ⟨x, hx, hgatherStyles⟩ : ∃ x, x.getD [] = a.inlineStyles ∧
      Gathers (readMember (depth + 3)) (l.behind level) ⟨none, none, none, none⟩
        keptStyles.toList ⟨x, none, none, none⟩ :=
    gathers_option (fun x => ⟨x, none, none, none⟩) (fun _ => rfl)
      (reads_readTexts _) hstyles textsJson_eq_empty
  obtain ⟨y, hy, hgatherSheets⟩ : ∃ y, y.getD [] = a.stylesheets ∧
      Gathers (readMember (depth + 3)) (l.behind level) ⟨x, none, none, none⟩
        keptSheets.toList ⟨x, y, none, none⟩ :=
    gathers_option (fun y => ⟨x, y, none, none⟩) (fun _ => rfl)
      (reads_readSheets hsheets) hlinked hnosheets
  obtain ⟨z, hz, hgatherNames⟩ : ∃ z, z.getD [] = a.tagNames ∧
      Gathers (readMember (depth + 3)) (l.behind level) ⟨x, y, none, none⟩
        keptNames.toList ⟨x, y, z, none⟩ :=
    gathers_option (fun z => ⟨x, y, z, none⟩) (fun _ => rfl)
      (reads_readTexts _) hnames textsJson_eq_empty
  obtain ⟨w, hw, hgatherScripts⟩ : ∃ w, w.getD [] = a.scripts ∧
      Gathers (readMember (depth + 3)) (l.behind level) ⟨x, y, z, none⟩
        keptScripts.toList ⟨x, y, z, w⟩ :=
    gathers_option (fun w => ⟨x, y, z, w⟩) (fun _ => rfl)
      (reads_readScripts _) hscripts hnoscripts
  refine ⟨⟨x, y, z, w⟩, by rw [Draft.complete, hx, hy, hz, hw], ?_⟩
  exact hgatherStyles.append (hgatherSheets.append (hgatherNames.append
    (hgatherScripts.append (.nil _))))

theorem reads_of_writtenAs (h : a.WrittenAs j) : Reads (read maxDepth) (l.value level j) a := by
  obtain ⟨sheets, ms, hsheets, hms, rfl⟩ := h
  obtain ⟨d, rfl, hgathers⟩ : ∃ d, d.complete = a ∧
      Gathers (readMember (maxDepth - 1)) (l.behind (level + 1)) {} ms d :=
    exists_gathers hsheets hms
  refine ⟨solid_cons (by decide), fun b rest hb hr => ?_⟩
  obtain ⟨t, hread, hend⟩ := members_read hgathers rest
  have hobject : fromObject (maxDepth - 1) (l.objectBody level ms ++ rest) =
      .ok (d.complete, t) := by
    simp only [fromObject, hread, bind, Except.bind]
  rw [read, record, skipSpace_append hb]
  simp only [Layout.value, List.cons_append, skipSpace_cons (c := '\x7b') (by decide)]
  exact objectOf_ok hobject hend

theorem parse_of_layout {text : String} (h : a.WrittenAs j) (ht : text.toList = l.value level j) :
    parse text = .ok a := by
  refine readAll_of_reads ?_
  rw [ht]
  exact reads_of_writtenAs h

/-- Artifacts are read back from their JSON in either layout, as it is and with any lists left out
that are empty and any addresses that are none. -/
theorem parse_of_writtenAs (a : Artifacts) :
    (parse a.toJson.compact = .ok a ∧ parse a.toJson.pretty = .ok a) ∧
      ∀ j, a.WrittenAs j → parse j.compact = .ok a ∧ parse j.pretty = .ok a := by
  have hread : ∀ j, a.WrittenAs j → parse j.compact = .ok a ∧ parse j.pretty = .ok a :=
    fun j hj => ⟨parse_of_layout hj (toList_compact j), parse_of_layout hj (toList_pretty j)⟩
  exact ⟨hread _ a.writtenAs_toJson, hread⟩

/-- Signs that have to be escaped, lists that are empty inside of others, and addresses that are
none, of which one is left out in each shape. -/
theorem parse_of_writtenAs_partial :
    let a : Artifacts := ⟨["\"a\\b\n", ""], [.readable none [], .readable (some "null") ["c", ""],
      .closed none, .closed none], [], [.inline "</script>", .external "\u0001"]⟩
    let j : Json := .object [("inlineStyles", textsJson a.inlineStyles),
      ("stylesheets", .list [.object [("type", .text "readable"), ("rules", .list [])],
        (Stylesheet.readable (some "null") ["c", ""]).toJson, .object [("type", .text "opaque")],
        (Stylesheet.closed none).toJson]),
      ("scripts", .list (a.scripts.map Script.toJson))]
    a.WrittenAs j ∧ parse j.compact = .ok a ∧ parse j.pretty = .ok a := by
  intro a j
  have hwritten : a.WrittenAs j := by
    refine ⟨_, _, .cons ⟨_, _, rfl, .keep _ (.leave _ (.keep _ .nil)), rfl⟩ <|
      .cons (Stylesheet.writtenAs_toJson _) <|
      .cons ⟨_, _, rfl, .keep _ (.leave _ .nil), rfl⟩ <|
      .cons (Stylesheet.writtenAs_toJson _) .nil, ?_, rfl⟩
    exact .keep _ (.keep _ (.leave _ (.keep _ .nil)))
  exact ⟨hwritten, (parse_of_writtenAs a).2 j hwritten⟩

end Artifacts

end FeatureAudit
