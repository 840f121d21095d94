import FeatureAudit.Proofs.Detection

/-! Which features style texts and scripts show, said feature by feature and without patterns, and
that scans report exactly these. -/
namespace FeatureAudit

variable {build : Search.Builder} {fs : List Feature} {i : Fin fs.length} {text id rest : List Char}

/-- A style text shows a feature if its small letters hold the id, or the id without `css-` if that
leaves more than two characters. -/
def ShownInStyle (text : String) (f : Feature) : Prop :=
  let lower := Text.lowercase text.toList
  (f.id.toList ≠ [] ∧ f.id.toList <:+: lower) ∨
    ∃ rest, f.id.toList = "css-".toList ++ rest ∧ 2 < rest.length ∧ rest <:+: lower

/-- A script shows a feature whose id has more than two characters if it holds the id, or the id
without hyphens in letters A to Z of any case. -/
def ShownInScript (text : String) (f : Feature) : Prop :=
  let joined := f.id.toList.filter (· != '-')
  2 < f.id.toList.length ∧ (f.id.toList <:+: text.toList ∨
    joined ≠ [] ∧ ∃ piece, piece <:+: text.toList ∧ Text.sameAscii piece joined)

theorem withoutCss_eq_some_iff :
    Section.withoutCss id = some rest ↔ id = "css-".toList ++ rest := by
  unfold Section.withoutCss
  split
  · simp [eq_comm]
  · next hid =>
    refine ⟨fun h => by simp at h, fun h => ?_⟩
    exact (hid rest (by simpa using h)).elim

instance (text : String) (f : Feature) : Decidable (ShownInStyle text f) :=
  decidable_of_iff (let lower := Text.lowercase text.toList
    (f.id.toList ≠ [] ∧ f.id.toList <:+: lower) ∨
      ∃ rest ∈ Section.withoutCss f.id.toList, 2 < rest.length ∧ rest <:+: lower)
    (by simp only [ShownInStyle, Option.mem_def, withoutCss_eq_some_iff])

theorem finds_loose_iff : Search.Finds true id text ↔
    ∃ piece, piece <:+: text ∧ Text.sameAscii piece id := by
  simp [Search.Finds, Search.reduce, Text.sameAscii]

theorem finds_exact_iff : Search.Finds false id text ↔ id <:+: text := by
  simp [Search.Finds, Search.reduce]

instance (text : String) (f : Feature) : Decidable (ShownInScript text f) :=
  decidable_of_iff (let joined := f.id.toList.filter (· != '-')
    2 < f.id.toList.length ∧ (f.id.toList <:+: text.toList ∨
      joined ≠ [] ∧ Text.asciiLower joined <:+: Text.asciiLower text.toList))
    (by simp only [ShownInScript, ← finds_loose_iff, Search.finds_iff, Search.reduce, if_true])

/-! The forms of ids. -/

theorem mem_ids : (id, i) ∈ Section.ids fs ↔ (fs.get i).id.toList = id := by
  simp [Section.ids]

theorem mem_unprefixed : (id, i) ∈ Section.unprefixed fs ↔
    (fs.get i).id.toList = "css-".toList ++ id ∧ Section.shortForm < id.length := by
  simp only [Section.unprefixed, List.mem_filter, List.mem_filterMap,
    Option.map_eq_some_iff, Prod.exists, Prod.mk.injEq, decide_eq_true_eq]
  refine and_congr_left fun _ => ?_
  constructor
  · rintro ⟨whole, j, hid, _, hw, rfl, rfl⟩
    exact withoutCss_eq_some_iff.1 (mem_ids.1 hid ▸ hw)
  · intro hw
    exact ⟨_, i, mem_ids.2 rfl, id, withoutCss_eq_some_iff.2 hw, rfl, rfl⟩

theorem mem_long : (id, i) ∈ Section.long fs ↔
    (fs.get i).id.toList = id ∧ Section.shortForm < id.length := by
  simp [Section.long, mem_ids]

theorem mem_joined : (id, i) ∈ Section.joined fs ↔
    (fs.get i).id.toList.filter (· != '-') = id ∧ Section.shortForm < (fs.get i).id.toList.length := by
  simp only [Section.joined, List.mem_map, Prod.exists, Prod.mk.injEq]
  constructor
  · rintro ⟨whole, j, hm, rfl, rfl⟩
    obtain ⟨rfl, hl⟩ := mem_long.1 hm
    exact ⟨rfl, hl⟩
  · rintro ⟨rfl, hl⟩
    exact ⟨_, i, mem_long.2 ⟨rfl, hl⟩, rfl, rfl⟩

/-! The places of a section. -/

theorem sorted_placesIn {s : Section} : (s.placesIn text).Pairwise (· < ·) :=
  List.foldlRecOn (motive := List.Pairwise (· < ·)) s.matchers _ .nil
    fun _ h _ _ => Matcher.sorted_collect h

theorem placesIn_nil {s : Section} : s.placesIn [] = [] :=
  List.foldlRecOn (motive := (· = [])) s.matchers _ rfl fun _ h _ _ => Matcher.collect_nil.trans h

theorem mem_placesIn_css (h : build.Complete) :
    i ∈ (Section.ofFeatures build .css fs).placesIn text ↔
      ((fs.get i).id.toList ≠ [] ∧ (fs.get i).id.toList <:+: text) ∨
        ∃ rest, (fs.get i).id.toList = "css-".toList ++ rest ∧ Section.shortForm < rest.length ∧
          rest <:+: text := by
  change i ∈ (Section.matchersOf build fs .css).foldl (fun places m => m.collect text places) [] ↔ _
  simp only [Section.matchersOf, List.foldl_cons, List.foldl_nil,
    Matcher.mem_collect_ofPatterns h, finds_exact_iff, mem_ids, mem_unprefixed, List.not_mem_nil,
    false_or, exists_eq_left']
  refine or_congr_right (exists_congr fun rest => ?_)
  constructor
  · rintro ⟨⟨hid, hl⟩, -, ho⟩
    exact ⟨hid, hl, ho⟩
  · rintro ⟨hid, hl, ho⟩
    exact ⟨⟨hid, hl⟩, List.ne_nil_of_length_pos (by omega), ho⟩

theorem mem_placesIn_js (h : build.Complete) :
    i ∈ (Section.ofFeatures build .js fs).placesIn text ↔
      Section.shortForm < (fs.get i).id.toList.length ∧ ((fs.get i).id.toList <:+: text ∨
        (fs.get i).id.toList.filter (· != '-') ≠ [] ∧
          ∃ piece, piece <:+: text ∧ Text.sameAscii piece ((fs.get i).id.toList.filter (· != '-'))) := by
  change i ∈ (Section.matchersOf build fs .js).foldl (fun places m => m.collect text places) [] ↔ _
  simp only [Section.matchersOf, List.foldl_cons, List.foldl_nil,
    Matcher.mem_collect_ofPatterns h, finds_exact_iff, finds_loose_iff, mem_long, mem_joined,
    List.not_mem_nil, false_or, and_assoc, exists_eq_left']
  rw [and_or_left]
  refine or_congr_left (and_congr_right fun hl => and_iff_right ?_)
  exact List.ne_nil_of_length_pos (by omega)

/-! The scans. -/

/-- Texts that are empty show nothing, so that they are skipped makes no difference. -/
theorem inOrder_detect_placesIn {shows : String → Feature → Prop}
    [∀ text f, Decidable (shows text f)] (s : Section) (view : List Char → List Char)
    (hview : view [] = [])
    (hm : ∀ text i, i ∈ s.placesIn (view text.toList) ↔ shows text (s.features.get i))
    (texts : List String) : InOrder shows texts s.features
      (s.detect String.isEmpty (fun text => s.placesIn (view text.toList)) texts) := by
  apply inOrder_detect
  · exact fun _ => sorted_placesIn
  · exact hm
  · intro text he
    have hnil : text.toList = [] := by simpa using he
    rw [hnil, hview]
    exact placesIn_nil

theorem inOrder_detectInStyles (h : build.Complete) (fs : List Feature) (texts : List String) :
    InOrder ShownInStyle texts fs (detectInStyles (.ofFeatures build .css fs) texts) := by
  apply inOrder_detect_placesIn (.ofFeatures build .css fs) Text.lowercase rfl
  exact fun _ _ => mem_placesIn_css h

/-- Ids inside one another, and one that is too short without `css-`; the scan stops
before the last text. -/
theorem inOrder_detectInStyles_overlapping :
    let fs : List Feature := ["css-grid", "grid", "subgrid", "css-at"].map
      fun id => ⟨id, id, "", none, .css, .limited, []⟩
    let texts := ["", "a: GRID at", "x: subgrid", "css-at", "grid"]
    Search.overlapping.Complete ∧
      InOrder ShownInStyle texts fs
        (detectInStyles (.ofFeatures Search.overlapping .css fs) texts) ∧
      (detectInStyles (.ofFeatures Search.overlapping .css fs) texts).map (·.id) =
        ["css-grid", "grid", "subgrid", "css-at"] :=
  ⟨Search.complete_overlapping, inOrder_detectInStyles Search.complete_overlapping _ _,
    by decide +kernel⟩

theorem inOrder_detectInScripts (h : build.Complete) (fs : List Feature) (texts : List String) :
    InOrder ShownInScript texts fs (detectInScripts (.ofFeatures build .js fs) texts) := by
  apply inOrder_detect_placesIn (.ofFeatures build .js fs) id rfl
  exact fun _ _ => mem_placesIn_js h

/-- A short id, two ids that are one without hyphens, and an id of hyphens only. -/
theorem inOrder_detectInScripts_joined :
    let fs : List Feature := ["js", "a-bc", "ab-c", "---", "Fetch"].map
      fun id => ⟨id, id, "", none, .js, .limited, []⟩
    let texts := ["js", "fetch(ABC)", "", "a-bc---"]
    Search.overlapping.Complete ∧
      InOrder ShownInScript texts fs
        (detectInScripts (.ofFeatures Search.overlapping .js fs) texts) ∧
      (detectInScripts (.ofFeatures Search.overlapping .js fs) texts).map (·.id) =
        ["a-bc", "ab-c", "Fetch", "---"] :=
  ⟨Search.complete_overlapping, inOrder_detectInScripts Search.complete_overlapping _ _,
    by decide +kernel⟩

end FeatureAudit
