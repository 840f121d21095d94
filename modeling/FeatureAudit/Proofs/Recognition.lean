import FeatureAudit.Proofs.Datasets
import FeatureAudit.Proofs.Growth
import FeatureAudit.Proofs.Words

/-! A feature of a dataset shows by its own id, in an artifact of the kind that the id, the name and
the specifications speak for, unless the search of that kind cannot meet the id: it is blank, too
short, or not in the small letters to which styles are brought. -/
namespace FeatureAudit

/-! Small letters. -/

namespace Text

variable {c d : Char} {cs ds before front : List Char}

/-- Whether the forms that a run of capitals gives leave out the capital I with a dot above. -/
def Undotted : List Nat → Prop
  | [first, last, _, target] => 0x130 < target ∨ target + (last - first) < 0x130
  | _ => True

instance : DecidablePred Undotted := fun run => by
  unfold Undotted
  split <;> infer_instance

-- row by row: a row as a list of characters is computed with far faster than as a text
theorem undotted_capitalRuns : ∀ run ∈ capitalRuns, Undotted run := by
  simp only [capitalRuns, CodeTable.entries, List.flatMap_cons, List.flatMap_nil, List.append_nil,
    List.forall_mem_append]
  and_intros <;> (rw [String.toList_ofList]; decide +kernel)

theorem toNat_ofNat_ne {m n : Nat} (hm : m ≠ 0) (h : n ≠ m) : (Char.ofNat n).toNat ≠ m := by
  rw [Char.toNat_ofNat]
  split <;> omega

theorem toNat_lowerChar_ne (h : c.toNat ≠ 0x130) : (lowerChar c).toNat ≠ 0x130 := by
  unfold lowerChar
  split
  · next hc =>
    by_cases hu : c.isUpper = true
    · rw [Char.toLower_eq_of_isUpper hu]
      exact toNat_ofNat_ne (by omega) (by omega)
    · rw [Char.toLower_eq_of_not_isUpper hu]
      exact h
  · dsimp only
    split
    · next first last step target hit =>
      have hclear := undotted_capitalRuns _ (List.mem_of_find?_eq_some hit)
      have hrange := List.find?_some hit
      simp only [Bool.and_eq_true, decide_eq_true_eq] at hrange
      simp only [Undotted] at hclear
      exact toNat_ofNat_ne (by omega) (by omega)
    · exact h

/-- What becomes of a character: a capital sigma does not stay what it is, and any other character
has one small form. -/
def Lowers (c d : Char) : Prop := if c.toNat = 0x3A3 then d.toNat ≠ 0x3A3 else d = lowerChar c

/-- A character that stays what it is in one place does so everywhere. -/
theorem Lowers.eq_of_stays (hc : Lowers c c) (h : Lowers c d) : d = c := by
  by_cases hs : c.toNat = 0x3A3
  · simp [Lowers, hs] at hc
  · simp only [Lowers, hs, if_false] at hc h
    rw [h, ← hc]

theorem lowers_lowercaseAfter (h : ∀ c ∈ cs, c.toNat ≠ 0x130) :
    List.Forall₂ Lowers cs (lowercaseAfter before cs) := by
  induction cs generalizing before with
  | nil => exact .nil
  | cons c cs ih =>
    obtain ⟨hc, hcs⟩ := List.forall_mem_cons.1 h
    by_cases hs : c.toNat = 0x3A3
    · have hne {n : Nat} (hn : n = 0x3C2 ∨ n = 0x3C3) : Lowers c (Char.ofNat n) := by
        rw [Lowers, if_pos hs]
        exact toNat_ofNat_ne (by omega) (by omega)
      simp only [lowercaseAfter, hs]
      exact .cons (hne (by split <;> simp)) (ih hcs)
    · simp [lowercaseAfter, hs, hc, Lowers, ih hcs]

theorem toNat_ne_of_mem_lowercaseAfter (h : d ∈ lowercaseAfter before cs) : d.toNat ≠ 0x130 := by
  induction cs generalizing before with
  | nil => cases h
  | cons c cs ih =>
    rw [lowercaseAfter, List.mem_append] at h
    rcases h with h | h
    · split at h
      · simp only [List.mem_cons, List.not_mem_nil, or_false] at h
        rcases h with rfl | rfl <;> decide
      · next hc =>
        split at h
        · rw [List.mem_singleton] at h
          subst h
          exact toNat_ofNat_ne (by omega) (by split <;> omega)
        · rw [List.mem_singleton] at h
          subst h
          exact toNat_lowerChar_ne (by simpa using hc)
    · exact ih h

/-- A text that its own small letters start with is in small letters, also if characters that stay
what they are come before these. -/
theorem eq_of_prefix_lowers (hfront : ∀ e ∈ front, Lowers e e) (h : List.Forall₂ Lowers cs ds)
    (hp : cs <+: front ++ ds) : cs = ds := by
  induction h generalizing front with
  | nil => rfl
  | @cons c d cs ds hcd hrest ih =>
    cases front with
    | nil =>
      obtain ⟨rfl, htail⟩ := List.cons_prefix_cons.1 hp
      rw [htail.eq_of_length hrest.length_eq]
    | cons e front =>
      obtain ⟨rfl, htail⟩ := List.cons_prefix_cons.1 hp
      obtain ⟨hc, hothers⟩ := List.forall_mem_cons.1 hfront
      obtain rfl : d = c := hc.eq_of_stays hcd
      have hnext : ∀ e ∈ front ++ [d], Lowers e e :=
        List.forall_mem_append.2 ⟨hothers, by simpa using hc⟩
      rw [ih hnext (by simpa using htail)]

theorem eq_of_infix_lowers (hfront : ∀ e ∈ front, Lowers e e) (h : List.Forall₂ Lowers cs ds)
    (hi : cs <:+: front ++ ds) : cs = ds := by
  obtain ⟨before, after, he⟩ := hi
  have hbefore : before.length ≤ front.length := by
    have hl := congrArg List.length he
    simp only [List.length_append, h.length_eq] at hl
    omega
  rw [List.append_assoc] at he
  obtain ⟨rest, rfl⟩ := List.prefix_of_prefix_length_le ⟨_, he⟩ ⟨_, rfl⟩ hbefore
  rw [List.append_assoc, List.append_cancel_left_eq] at he
  exact eq_of_prefix_lowers (fun e hm => hfront e (List.mem_append_right _ hm)) h ⟨after, he⟩

theorem lowercase_css (cs : List Char) :
    ∃ ds, lowercase ("css-".toList ++ cs) = "css-".toList ++ ds ∧
      ((∀ c ∈ cs, c.toNat ≠ 0x130) → List.Forall₂ Lowers cs ds) :=
  ⟨lowercaseAfter "-ssc".toList cs, by simp [lowercase, lowercaseAfter, lowerChar],
    lowers_lowercaseAfter⟩

/-- A style text that is an id, or an id behind `css-`, shows it in small letters only. -/
theorem lowercase_eq_of_infix (h : cs <:+: lowercase cs ∨
    ∃ rest, cs = "css-".toList ++ rest ∧ rest <:+: lowercase cs) : lowercase cs = cs := by
  rcases h with h | ⟨rest, rfl, h⟩
  · have hplain : ∀ c ∈ cs, c.toNat ≠ 0x130 :=
      fun c hc => toNat_ne_of_mem_lowercaseAfter (h.subset hc)
    have hnone : ∀ e ∈ ([] : List Char), Lowers e e := by simp
    exact (eq_of_infix_lowers hnone (lowers_lowercaseAfter hplain) h).symm
  · have hplain : ∀ c ∈ rest, c.toNat ≠ 0x130 :=
      fun c hc => toNat_ne_of_mem_lowercaseAfter (h.subset hc)
    obtain ⟨ds, hds, hlowers⟩ := lowercase_css rest
    rw [hds] at h ⊢
    have hcss : ∀ e ∈ "css-".toList, Lowers e e := by simp [Lowers, lowerChar]
    rw [eq_of_infix_lowers hcss (hlowers hplain) h]

end Text

variable {f : Feature} {fs : List Feature} {c : Catalog} {tally : Dataset.Tally}
  {o : Options} {d : Dataset.Source} {id name : String} {specs : List String} {k : Kind}

/-! Kinds. -/

theorem kind_of_readEntry {entry : Json} (h : Dataset.readEntry id entry = .built f) :
    ∃ specs, f.kind = .infer f.id f.name specs := by
  unfold Dataset.readEntry at h
  split at h
  · split at h
    · cases h
    · split at h
      · cases h
      · cases h
        exact ⟨_, rfl⟩
  · cases h

/-- A feature of a dataset has the kind that its id, its name and its specifications speak for. -/
theorem kind_of_ofSource (h : Catalog.ofSource d = .ok (c, tally)) (hf : f ∈ c.features) :
    ∃ specs, f.kind = .infer f.id f.name specs := by
  obtain ⟨data, fs, hn, rfl⟩ := Catalog.exists_normalize_of_ofSource h
  obtain ⟨es, -, -, rfl⟩ := Dataset.normalize_eq_ok hn
  have hm := Catalog.keepFirst_sublist.subset (Catalog.features_ofFeatures_perm.subset hf)
  obtain ⟨⟨id, entry⟩, -, hb⟩ := List.mem_filterMap.1 hm
  cases ho : Dataset.readEntry id entry with
  | built g =>
    rw [ho] at hb
    cases hb
    exact kind_of_readEntry ho
  | noStatus => rw [ho] at hb; cases hb
  | malformed => rw [ho] at hb; cases hb

/-- The id of a feature that shows in tags is of small letters, digits and hyphens. -/
theorem plain_of_infer_html (h : Kind.infer id name specs = .html) :
    ∀ c ∈ id.toList, c.toNat = 45 ∨ (48 ≤ c.toNat ∧ c.toNat ≤ 57) ∨
      (97 ≤ c.toNat ∧ c.toNat ≤ 122) := by
  have hhtml : Kind.isHtml id name = true := by
    unfold Kind.infer at h
    split at h
    · cases h
    · split at h
      · assumption
      · cases h
  intro c hc
  simp only [Kind.isHtml, Bool.and_eq_true, List.all_eq_true] at hhtml
  have hplain := hhtml.1.1.2 c hc
  simp only [Bool.or_eq_true, Bool.and_eq_true, decide_eq_true_eq, beq_iff_eq, Char.le_def,
    UInt32.le_iff_toNat_le] at hplain
  rcases hplain with (hletter | hdigit) | rfl
  · exact .inr (.inr hletter)
  · exact .inr (.inl hdigit)
  · exact .inl rfl

/-! Pages. -/

/-- The page whose only artifact is an id, where features of a kind show. -/
def Artifacts.onlyId (id : String) : Kind → Artifacts
  | .css => { empty with inlineStyles := [id] }
  | .html => { empty with tagNames := [id] }
  | .js => { empty with scripts := [.inline id] }

/-- What an id has to be like for the search of its kind to meet it. -/
structure Feature.Recognizable (f : Feature) : Prop where
  ne_empty : f.id ≠ ""
  small : f.kind = .css → Text.lowercase f.id.toList = f.id.toList
  long : f.kind = .js → 2 < f.id.toList.length

theorem recognizable_iff : f.Recognizable ↔ f.id ≠ "" ∧
    (f.kind = .css → Text.lowercase f.id.toList = f.id.toList) ∧
      (f.kind = .js → 2 < f.id.toList.length) := by
  constructor
  · intro h
    exact ⟨h.ne_empty, h.small, h.long⟩
  · rintro ⟨hne, hsmall, hlong⟩
    exact ⟨hne, hsmall, hlong⟩

instance : Decidable f.Recognizable := decidable_of_iff _ recognizable_iff.symm

/-- Nothing has to be fetched for such a page. -/
theorem audit_onlyId {m : Type → Type} [Monad m] [LawfulMonad m] (fetch : String → m Fetch.Answer)
    (processors : Nat) (c : Catalog) (o : Options) (id : String) (k : Kind) :
    audit fetch processors c o (.onlyId id k) = pure (report c o (.onlyId id k) []) := by
  have hplan : o.plan (.onlyId id k) = [] := by cases k <;> rfl
  simp [audit, hplan, Fetch.fetchAll, Fetch.workers]

theorem shownInStyle_id_iff : ShownInStyle f.id f ↔
    f.id ≠ "" ∧ Text.lowercase f.id.toList = f.id.toList := by
  constructor
  · rintro (⟨hne, h⟩ | ⟨rest, hid, -, h⟩)
    · exact ⟨by simpa using hne, Text.lowercase_eq_of_infix (.inl h)⟩
    · refine ⟨fun he => ?_, Text.lowercase_eq_of_infix (.inr ⟨rest, hid, h⟩)⟩
      simp [he] at hid
  · rintro ⟨hne, h⟩
    refine .inl ⟨by simpa using hne, ?_⟩
    rw [h]

theorem shownInScript_id_iff : ShownInScript f.id f ↔ 2 < f.id.toList.length :=
  and_iff_left (.inl (List.infix_refl _))

/-- A feature of a catalog shows where features of its kind do, and nowhere else. -/
theorem mem_shown_iff (h : c.WellFormed) (hf : f ∈ c.features) {styles tags scripts : List String} :
    f ∈ c.shown styles tags scripts ↔
      (f.kind = .css ∧ ∃ text ∈ styles, ShownInStyle text f) ∨
        (f.kind = .html ∧ ∃ tag ∈ tags, ShownByTag tag f) ∨
          (f.kind = .js ∧ ∃ text ∈ scripts, ShownInScript text f) := by
  have hmem : ∀ k, f ∈ c.ofKind k ↔ f.kind = k := by
    intro k
    refine ⟨h.kind_eq k f, ?_⟩
    rintro rfl
    obtain ⟨k, -, hk⟩ := List.mem_flatMap.1 hf
    rwa [h.kind_eq k f hk]
  have hcss : f ∈ c.css ↔ f.kind = .css := hmem .css
  have hhtml : f ∈ c.html ↔ f.kind = .html := hmem .html
  have hjs : f ∈ c.js ↔ f.kind = .js := hmem .js
  simp only [Catalog.shown, List.mem_append, mem_firstShown, hcss, hhtml, hjs, or_assoc]

/-- A finding tells which feature of a catalog it is about. -/
theorem ofFeature_mem_findings_iff (h : c.WellFormed) (hf : f ∈ c.features)
    {styles tags scripts : List String} :
    Finding.ofFeature f ∈ (c.shown styles tags scripts).map .ofFeature ↔
      f ∈ c.shown styles tags scripts := by
  refine ⟨fun hm => ?_, List.mem_map_of_mem⟩
  obtain ⟨g, hg, he⟩ := List.mem_map.1 hm
  have hid : g.id = f.id := congrArg Finding.id he
  have hget := Catalog.get?_of_mem h (shown_subperm.subset hg)
  rw [hid, Catalog.get?_of_mem h hf, Option.some.injEq] at hget
  rwa [hget]

theorem styles_onlyId : (o.sourcesOf (.onlyId id k)).styles.filterMap (Source.text? []) =
    if k = .css then [id] else [] := by cases k <;> rfl

theorem scripts_onlyId : (o.sourcesOf (.onlyId id k)).scripts.filterMap (Source.text? []) =
    if k = .js then [id] else [] := by cases k <;> rfl

/-- Neither trimming nor lower-casing changes the id of a feature that shows in tags. -/
theorem distinctTags_onlyId (h : k = .html → Kind.infer id name specs = .html) :
    (Artifacts.onlyId id k).distinctTags = if k = .html ∧ id ≠ "" then [id] else [] := by
  cases k with
  | css => rfl
  | js => rfl
  | html =>
    have hplain := plain_of_infer_html (h rfl)
    have htrim : Text.trim id.toList = id.toList :=
      Text.trim_of_forall fun c hc => by
        have := hplain c hc
        simp [Text.isBlank]
        omega
    have hlower : Text.lowercase id.toList = id.toList := by
      rw [Text.lowercase_of_ascii fun c hc => by have := hplain c hc; omega]
      refine (List.map_congr_left fun c hc => ?_).trans (List.map_id _)
      have := hplain c hc
      exact Char.toLower_eq_of_not_isUpper fun hu => by have := Text.isUpper_iff.1 hu; omega
    by_cases hne : id = ""
    · subst hne
      simp [Artifacts.onlyId, Artifacts.distinctTags, Artifacts.firsts, Text.trim, Text.lowercase,
        Text.lowercaseAfter]
    · simp [Artifacts.onlyId, Artifacts.distinctTags, Artifacts.firsts, htrim, hlower, hne]

theorem mem_report_onlyId_iff (h : Catalog.ofSource d = .ok (c, tally)) (hf : f ∈ c.features) :
    Finding.ofFeature f ∈ (report c o (.onlyId f.id f.kind) []).findings ↔ f.Recognizable := by
  obtain ⟨specs, hkind⟩ := kind_of_ofSource h hf
  obtain ⟨fs, rfl, -⟩ := Catalog.exists_features_of_ofSource h
  have hwell := Catalog.wellFormed_ofFeatures fs
  rw [report_eq_ofFindings_shown, Report.ofFindings, ofFeature_mem_findings_iff hwell hf,
    mem_shown_iff hwell hf, styles_onlyId, scripts_onlyId,
    distinctTags_onlyId fun hk => hkind.symm.trans hk, recognizable_iff]
  cases f.kind with
  | css => simp [shownInStyle_id_iff]
  | html => simp [ShownByTag]
  | js =>
    have hne : 2 < f.id.toList.length → f.id ≠ "" := by
      rintro hl he
      simp [he] at hl
    simpa [shownInScript_id_iff] using hne

/-- A feature of a dataset is reported for the page that holds nothing but its id, whatever can be
fetched, just if the search of its kind can meet the id. -/
theorem mem_findings_onlyId_iff {m : Type → Type} [Monad m] [LawfulMonad m]
    (h : Catalog.ofSource d = .ok (c, tally)) (hf : f ∈ c.features)
    (fetch : String → m Fetch.Answer) (processors : Nat) (o : Options) :
    ∃ r, audit fetch processors c o (.onlyId f.id f.kind) = pure r ∧
      (Finding.ofFeature f ∈ r.findings ↔ f.Recognizable) :=
  ⟨_, audit_onlyId fetch processors c o f.id f.kind, mem_report_onlyId_iff h hf⟩

/-- An id in capitals that is a feature of style sheets by its name does not show by itself. -/
theorem findings_onlyId_capital :
    let data := Json.object [("Grid", .object [("name", .text "CSS Grid"), ("status", .object [])])]
    let f : Feature := ⟨"Grid", "CSS Grid", "CSS Grid", none, .css, .limited, []⟩
    let answer (_ : String) : Fetch.Answer := .error (.status 404)
    ∃ c tally, Catalog.ofSource (.value data) = .ok (c, tally) ∧ f ∈ c.features ∧ f.id ≠ "" ∧
      (Id.run (audit answer 1 c .default (.onlyId f.id f.kind))).findings = [] := by
  intro data f answer
  exact ⟨.ofFeatures [f], ⟨1, 1, 0, 0⟩, by decide +kernel, by decide +kernel, by decide,
    by decide +kernel⟩

/-- One feature of each kind: a selector, a tag with a digit, and an id of hyphens alone. -/
theorem mem_findings_onlyId_kinds :
    let entry (name : String) : Json := .object [("name", .text name), ("status", .object [])]
    let data := Json.object [("css-:at", entry "x"), ("h-1", entry "x element"), ("---", entry "x")]
    let feature (id name : String) (kind : Kind) : Feature :=
      ⟨id, name, name, none, kind, .limited, []⟩
    let fs := [feature "css-:at" "x" .css, feature "h-1" "x element" .html, feature "---" "x" .js]
    let answer (_ : String) : Fetch.Answer := .error (.status 404)
    let c := Catalog.ofFeatures fs
    Catalog.ofSource (.value data) = .ok (c, ⟨3, 3, 0, 0⟩) ∧ ∀ f ∈ fs, f ∈ c.features ∧
      f.Recognizable ∧ ∃ r, audit (m := Id) answer 1 c .default (.onlyId f.id f.kind) = pure r ∧
        Finding.ofFeature f ∈ r.findings := by
  intro entry data feature fs answer c
  have h : Catalog.ofSource (.value data) = .ok (c, ⟨3, 3, 0, 0⟩) := by decide +kernel
  have hc : ∀ f ∈ fs, f ∈ c.features := by decide +kernel
  have hr : ∀ f ∈ fs, f.Recognizable := by decide +kernel
  refine ⟨h, fun f hf => ⟨hc f hf, hr f hf, ?_⟩⟩
  obtain ⟨r, haudit, hfound⟩ := mem_findings_onlyId_iff (m := Id) h (hc f hf) answer 1 .default
  exact ⟨r, haudit, hfound.2 (hr f hf)⟩

end FeatureAudit
