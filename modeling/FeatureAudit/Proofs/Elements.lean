import FeatureAudit.Batch.Writer
import FeatureAudit.Proofs.Limits
import FeatureAudit.Proofs.Ranges
import FeatureAudit.Proofs.Snapshots

/-! Reports that a batch has written are read back as elements of one list, which show them. -/
namespace FeatureAudit

/-- A catalog that can be written and read: its numbers are of 64 bits, names in an object are
distinct, and objects and lists nest at most so deep. -/
structure Catalog.Legible (depth : Nat) (c : Catalog) : Prop where
  size_le : c.features.length ≤ Json.maxWord
  regular : ∀ f ∈ c.features, Json.Regular depth (.object f.browserSupport)
  inRange : ∀ f ∈ c.features, ∀ n ∈ (Json.object f.browserSupport).numbers, n.InRange

/-- Whatever text a catalog comes from, it can be written and read, unless it has more features than
can be counted. -/
theorem Catalog.legible_of_text {c : Catalog} (hc : c.features.length ≤ Json.maxWord)
    (h : (∃ text tally, ofDatasetText text = .ok (c, tally)) ∨ ∃ text, ofSnapshot text = .ok c) :
    c.Legible (Json.maxDepth - 2) :=
  ⟨hc, (has_of_text Json.ensured_regular h).2, (has_of_text Json.ensured_inRange h).2⟩

namespace Batch

open Json

variable {depth : Nat} {c : Catalog} {r : Report} {name : String} {g : Number → Number}

/-! Elements. -/

theorem numbers_finding (f : Finding) :
    f.toJson.numbers = (Json.object f.browserSupport).numbers := by
  simp [Finding.toJson, numbers, numbersOfMembers]

theorem numbers_pageJson : (Writer.pageJson name r).numbers =
    r.findings.flatMap (fun f => (Json.object f.browserSupport).numbers) ++
      r.summary.toJson.numbers := by
  have htarget : (Json.text name).numbers = [] := rfl
  have hfindings : (Json.list (r.findings.map Finding.toJson)).numbers =
      r.findings.flatMap fun f => (Json.object f.browserSupport).numbers := by
    simp only [numbers_list, List.flatMap_map, numbers_finding]
  rw [Writer.pageJson, numbers_object]
  simp [Report.members, htarget, hfindings]

theorem regular_finding {f : Finding} (h : Regular depth (.object f.browserSupport)) :
    Regular (depth + 1) f.toJson := by
  refine ⟨by simp, fun m hm => ?_⟩
  simp only [List.mem_cons, List.not_mem_nil, or_false] at hm
  rcases hm with rfl | rfl | rfl | rfl | rfl | rfl
  on_goal 6 => exact h
  all_goals exact regular_of_flat trivial

theorem regular_summary (s : Summary) : Regular (depth + 1) s.toJson := by
  refine ⟨by simp, fun m hm => ?_⟩
  simp only [List.mem_cons, List.not_mem_nil, or_false] at hm
  rcases hm with rfl | rfl | rfl | rfl
  all_goals exact regular_of_flat trivial

theorem regular_pageJson (h : ∀ f ∈ r.findings, Regular depth (.object f.browserSupport)) :
    Regular (depth + 3) (Writer.pageJson name r) := by
  refine ⟨by simp [Report.members], fun m hm => ?_⟩
  simp only [Report.members, List.mem_cons, List.not_mem_nil, or_false] at hm
  rcases hm with rfl | rfl | rfl
  · trivial
  · intro j hj
    obtain ⟨f, hf, rfl⟩ := List.mem_map.1 hj
    exact regular_finding (h f hf)
  · exact regular_summary r.summary

/-- The findings that an element lists. -/
def foundIn (j : Json) : List Json :=
  match j.get? "matches" with
  | some (.list found) => found
  | _ => []

/-- An element shows the report on a page. It is that report with the name of the page, except that
a number in what browsers support, unless it is whole, may be read as another. -/
structure Shows (name : String) (r : Report) (j : Json) : Prop where
  target : j.get? "target" = some (.text name)
  ids : (foundIn j).map (·.get? "id") = r.findings.map fun f => some (.text f.id)
  summary : j.get? "summary" = some r.summary.toJson
  same : ∃ g : Number → Number, (∀ n : Number, n.IsWord → g n = n) ∧
    (∀ n ∈ (Writer.pageJson name r).numbers, ReadAs n (g n)) ∧
    j = (Writer.pageJson name r).mapNumbers g

theorem get?_id_finding (f : Finding) :
    (f.toJson.mapNumbers g).get? "id" = some (.text f.id) := by
  rw [Finding.toJson, mapNumbers_object]
  rfl

theorem shows_mapNumbers (hg : ∀ n : Number, n.IsWord → g n = n)
    (hread : ∀ n ∈ (Writer.pageJson name r).numbers, ReadAs n (g n))
    (hr : ∀ n ∈ r.summary.toJson.numbers, n.IsWord) :
    Shows name r ((Writer.pageJson name r).mapNumbers g) := by
  have hsummary : r.summary.toJson.mapNumbers g = r.summary.toJson :=
    mapNumbers_of_forall fun n hn => hg n (hr n hn)
  have hpage : (Writer.pageJson name r).mapNumbers g = .object [("target", .text name),
      ("matches", .list (r.findings.map fun f => f.toJson.mapNumbers g)),
      ("summary", r.summary.toJson)] := by
    rw [Writer.pageJson, mapNumbers_object]
    simp only [Report.members, List.map_cons, List.map_nil, mapNumbers_list, hsummary,
      List.map_map, Function.comp_def]
    rfl
  refine ⟨by rw [hpage]; rfl, ?_, by rw [hpage]; rfl, g, hg, hread, rfl⟩
  have hfound : foundIn ((Writer.pageJson name r).mapNumbers g) =
      r.findings.map fun f => f.toJson.mapNumbers g := by
    rw [hpage]
    rfl
  simp only [hfound, List.map_map, Function.comp_def, get?_id_finding]

/-- As many findings are listed as there are in the report. -/
theorem Shows.length_foundIn {j : Json} (h : Shows name r j) :
    (foundIn j).length = r.findings.length := by
  simpa using congrArg List.length h.ids

/-! Reports of a catalog. -/

/-- A report on features of a catalog. -/
def Reports (c : Catalog) (r : Report) : Prop :=
  ∃ fs : List Feature, fs.Subperm c.features ∧ r = .ofFindings (fs.map .ofFeature)

theorem isWord_summary (hc : c.Legible depth) (h : Reports c r) :
    ∀ n ∈ r.summary.toJson.numbers, n.IsWord := by
  obtain ⟨fs, hfs, rfl⟩ := h
  have hle : fs.length ≤ maxWord := hfs.length_le.trans hc.size_le
  have hcount (p : Finding → Bool) : (fs.map Finding.ofFeature).countP p ≤ maxWord := by
    refine List.countP_le_length.trans ?_
    rwa [List.length_map]
  have hword {k : Nat} (hk : k ≤ maxWord) : Number.IsWord (.int k) :=
    ⟨(by omega : -(Nat.pow 2 63 : Nat) ≤ (k : Int)), by exact_mod_cast hk⟩
  intro n hn
  have hn : n ∈ [Number.int (fs.map Finding.ofFeature).length, _, _, _] := hn
  simp only [List.mem_cons, List.not_mem_nil, or_false] at hn
  rcases hn with rfl | rfl | rfl | rfl
  · exact hword (by rwa [List.length_map])
  all_goals exact hword (hcount _)

theorem exists_feature_of_reports (h : Reports c r) {f : Finding} (hf : f ∈ r.findings) :
    ∃ feature ∈ c.features, f = .ofFeature feature := by
  obtain ⟨fs, hfs, rfl⟩ := h
  obtain ⟨feature, hm, rfl⟩ := List.mem_map.1 hf
  exact ⟨feature, hfs.subset hm, rfl⟩

theorem inRange_pageJson (hc : c.Legible depth) (h : Reports c r) :
    ∀ n ∈ (Writer.pageJson name r).numbers, n.InRange := by
  intro n hn
  rw [numbers_pageJson] at hn
  rcases List.mem_append.1 hn with hn | hn
  · obtain ⟨f, hf, hn⟩ := List.mem_flatMap.1 hn
    obtain ⟨feature, hm, rfl⟩ := exists_feature_of_reports h hf
    exact hc.inRange feature hm n hn
  · exact inRange_of_isWord (isWord_summary hc h n hn)

/-- The list that reports are written as. -/
def jsonOf (reports : List (String × Report)) : Json :=
  .list (reports.map fun p => Writer.pageJson p.1 p.2)

/-- The text of reports. -/
def textOf (reports : List (String × Report)) : String := (jsonOf reports).compact

/-- Reports nest at most four levels deeper than what browsers support. -/
theorem regular_jsonOf {reports : List (String × Report)} (hc : c.Legible depth)
    (h : ∀ p ∈ reports, Reports c p.2) : Regular (depth + 4) (jsonOf reports) := by
  intro j hj
  obtain ⟨p, hp, rfl⟩ := List.mem_map.1 hj
  refine regular_pageJson fun f hf => ?_
  obtain ⟨feature, hm, rfl⟩ := exists_feature_of_reports (h p hp) hf
  exact hc.regular feature hm

/-- Reports are read back from their text as elements that show them, exactly where these may nest as
deep as they do. -/
theorem exists_elements {reports : List (String × Report)} (hc : c.Legible depth)
    (h : ∀ p ∈ reports, Reports c p.2) :
    ∃ elements, (∀ limit, Regular limit (.list elements) ↔ Regular limit (jsonOf reports)) ∧
      (∀ limit j, readAll (readValue ofWritten limit) (textOf reports) = .ok j ↔
        j = .list elements ∧ Regular limit (.list elements)) ∧
      List.Forall₂ (fun p j => Shows p.1 p.2 j) reports elements := by
  obtain ⟨g, hread, hsame⟩ := exists_reading
  have hnumbers : ∀ p ∈ reports, ∀ n ∈ (Writer.pageJson p.1 p.2).numbers, ReadAs n (g n) :=
    fun p hp n hn => hread n (inRange_pageJson hc (h p hp) n hn)
  let elements := (reports.map fun p => Writer.pageJson p.1 p.2).map (mapNumbers g)
  have hmap : (jsonOf reports).mapNumbers g = .list elements := mapNumbers_list g _
  have hnested : ∀ limit, Regular limit (.list elements) ↔ Regular limit (jsonOf reports) := by
    intro limit
    rw [← hmap]
    exact regular_mapNumbers
  have hreads : ∀ limit, Regular limit (.list elements) →
      readAll (readValue ofWritten limit) (textOf reports) = .ok (.list elements) := by
    intro limit hlimit
    apply readAll_of_reads
    rw [textOf, toList_compact, ← hmap]
    refine reads_mapNumbers (fun _ => ofWritten_of_nodup) ((hnested limit).1 hlimit) ?_
    intro n hn
    rw [jsonOf, numbers_list, List.flatMap_map, List.mem_flatMap] at hn
    obtain ⟨p, hp, hn⟩ := hn
    exact hnumbers p hp n hn
  have hdepth : Regular (depth + 4) (.list elements) := (hnested _).2 (regular_jsonOf hc h)
  refine ⟨elements, hnested, fun limit j => readAll_eq_ok_iff hdepth hreads, ?_⟩
  simp only [elements, List.map_map]
  rw [List.forall₂_map_right_iff, List.forall₂_same]
  intro p hp
  exact shows_mapNumbers hsame (hnumbers p hp) (isWord_summary hc (h p hp))

end Batch
end FeatureAudit
