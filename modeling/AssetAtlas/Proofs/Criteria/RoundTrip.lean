import AssetAtlas.Criteria.Wire
import AssetAtlas.Proofs.Text.Trimming
import AssetAtlas.Query.Compilation

/-!
Criteria that are written and read again. Every criterion can be read back, whatever texts are in it,
since its record never asks for both directions and for whole paths. One that was read itself comes
back as it was: reading trims its texts, drops the blank ones and recognizes the wildcards, and doing
this twice is doing it once. The main statement is `criteria_survive_wire`.
-/

namespace AssetAtlas

theorem Mode.ofFlags_flags (m : Mode) :
    Mode.ofFlags (m = .singleNode) (m = .fullGraph) (m = .bidirectional) = m := by
  cases m <;> rfl

theorem Selector.text_ofText (wildcard s : String) :
    (Selector.ofText wildcard s).text wildcard = s := by
  unfold Selector.ofText
  split
  · next hwildcard => exact hwildcard.symm
  · rfl

theorem Text.bind_nonBlank?_bind_nonBlank? (s : Option String) :
    (s.bind Text.nonBlank?).bind Text.nonBlank? = s.bind Text.nonBlank? := by
  cases hs : s.bind Text.nonBlank? with
  | none => rfl
  | some t =>
      obtain ⟨s, -, ht⟩ := Option.bind_eq_some_iff.mp hs
      rw [Option.bind_some]
      exact nonBlank?_eq_some_self ht

/-! ## Records -/

/-- What becomes of a criterion when its record is read. -/
def Criterion.reloaded (c : Criterion) : Criterion :=
  .ofTexts (c.source.map (·.text anyResource)) (c.relationship.map (·.text anyRelationship))
    (c.target.map (·.text anyResource)) c.filters.severity c.filters.package c.filters.cve c.mode

theorem Criterion.reloaded_ofTexts (source relationship target severity package cve : Option String)
    (mode : Mode) :
    (Criterion.ofTexts source relationship target severity package cve mode).reloaded =
      .ofTexts source relationship target severity package cve mode := by
  have hselector (wildcard : String) (s : Option String) :
      (s.map (Selector.ofText wildcard)).map (·.text wildcard) = s := by
    rw [Option.map_map]
    exact (Option.map_congr fun t _ => Selector.text_ofText wildcard t).trans Option.map_id'
  simp only [reloaded, ofTexts, hselector, Text.bind_nonBlank?_bind_nonBlank?]

namespace WireCriterion

theorem not_bidirectional_and_fullGraph (c : Criterion) :
    ((ofCriterion c).bidirectional && (ofCriterion c).fullGraph) = false := by
  obtain ⟨source, relationship, target, filters, mode⟩ := c
  cases mode <;> rfl

theorem criterion_ofCriterion (c : Criterion) : (ofCriterion c).criterion = .ok c.reloaded := by
  have hmode : Mode.ofFlags (ofCriterion c).single (ofCriterion c).fullGraph
      (ofCriterion c).bidirectional = c.mode :=
    c.mode.ofFlags_flags
  rw [criterion, not_bidirectional_and_fullGraph, if_neg Bool.false_ne_true, hmode]
  rfl

theorem reloaded_eq_self {w : WireCriterion} {c : Criterion} (h : w.criterion = .ok c) :
    c.reloaded = c := by
  unfold criterion at h
  split at h
  · exact nomatch h
  · obtain rfl := Except.ok.inj h
    exact Criterion.reloaded_ofTexts ..

theorem text?_textValue (s : Option String) :
    Draft.format.text? (Draft.ofJson (textValue s)) = some s := by
  cases s <;> rfl

theorem columns?_toJson (w : WireCriterion) :
    Draft.format.columns? columns (Draft.ofJson w.toJson) =
      some ([textValue w.source, textValue w.relationship, textValue w.target,
        textValue w.severity, textValue w.package, textValue w.cve, .bool w.single,
        .bool w.bidirectional, .bool w.fullGraph].map (some ∘ Draft.ofJson)) := by
  rfl

theorem read?_toJson (w : WireCriterion) : read? Draft.format (Draft.ofJson w.toJson) = some w := by
  rw [read?, columns?_toJson]
  simp only [List.map_cons, List.map_nil, Function.comp_apply, textColumn?, text?_textValue]
  rfl

end WireCriterion

namespace Criterion

def ofJson (j : Json) : Except WireFault Criterion :=
  read Draft.format (Draft.ofJson j)

theorem ofJson_toJson (c : Criterion) : ofJson c.toJson = .ok c.reloaded := by
  rw [ofJson, read, toJson, WireCriterion.read?_toJson]
  exact WireCriterion.criterion_ofCriterion c

/-- A name with blanks around it can be built, but it does not come back as it was. -/
example : ofJson (toJson { source := some (.named " host ") }) =
    .ok { source := some (.named "host") } := by
  rfl

theorem reloaded_eq_self_of_read {σ : Type} {f : TreeFormat σ} {s : σ} {c : Criterion}
    (h : read f s = .ok c) : c.reloaded = c := by
  unfold read at h
  split at h
  · exact WireCriterion.reloaded_eq_self h
  · exact nomatch h

end Criterion

/-! ## Lists -/

namespace Criteria

def ofJson (j : Json) : Except WireFault Criteria :=
  read Draft.format (Draft.ofJson j)

def reloaded (cs : Criteria) : Criteria :=
  ofList (cs.list.map Criterion.reloaded)

theorem exists_of_mem_mapM {ε α β : Type} {f : α → Except ε β} {l : List α} {l' : List β}
    (h : l.mapM f = .ok l') : ∀ b ∈ l', ∃ a, f a = .ok b := by
  induction l generalizing l' with
  | nil =>
      obtain rfl := Except.ok.inj h
      exact nofun
  | cons a l ih =>
      rw [List.mapM_cons] at h
      cases ha : f a with
      | error e => exact nomatch (ha ▸ h)
      | ok b =>
          cases hl : l.mapM f with
          | error e => exact nomatch (hl ▸ ha ▸ h)
          | ok bs =>
              rw [ha, hl] at h
              obtain rfl := Except.ok.inj h
              exact List.forall_mem_cons.mpr ⟨⟨a, ha⟩, ih hl⟩

theorem ofItems_eq_map (js : List Json) : Draft.ofItems js = js.map Draft.ofJson := by
  induction js with
  | nil => rfl
  | cons j js ih => rw [Draft.ofItems, ih, List.map_cons]

theorem ofJson_toJson (cs : Criteria) : ofJson cs.toJson = .ok cs.reloaded := by
  have hitems : Draft.format.items? (Draft.ofJson cs.toJson) =
      some (cs.list.map fun c => Draft.ofJson c.toJson) := by
    change some (Draft.ofItems (cs.list.map Criterion.toJson)) = _
    rw [ofItems_eq_map, List.map_map]
    rfl
  have hread : (cs.list.map fun c => Draft.ofJson c.toJson).mapM (Criterion.read Draft.format) =
      .ok (cs.list.map Criterion.reloaded) := by
    have hentry : (Criterion.read Draft.format ∘ fun c : Criterion => Draft.ofJson c.toJson) =
        fun c : Criterion => pure c.reloaded :=
      funext Criterion.ofJson_toJson
    rw [List.mapM_map, hentry, List.mapM_pure]
    rfl
  rw [ofJson, read, hitems]
  dsimp only
  rw [readItems, hread]
  rfl

theorem reloaded_entries_of_read {σ : Type} {f : TreeFormat σ} {s : σ} {cs : Criteria}
    (h : read f s = .ok cs) : ∀ c ∈ cs.list, c.reloaded = c := by
  unfold read at h
  split at h
  · next items _ =>
      unfold readItems at h
      cases hitems : items.mapM (Criterion.read f) with
      | error fault => exact nomatch (hitems ▸ h)
      | ok l =>
          rw [hitems] at h
          obtain rfl := Except.ok.inj h
          intro c hc
          cases l with
          | nil =>
              obtain rfl := List.mem_singleton.mp hc
              rfl
          | cons first rest =>
              obtain ⟨s, hs⟩ := exists_of_mem_mapM hitems c hc
              exact Criterion.reloaded_eq_self_of_read hs
  · exact nomatch h

theorem reloaded_eq_self_of_read {σ : Type} {f : TreeFormat σ} {s : σ} {cs : Criteria}
    (h : read f s = .ok cs) : cs.reloaded = cs := by
  rw [reloaded, List.map_congr_left (reloaded_entries_of_read h), List.map_id', ofList_list]

end Criteria

/-! ## Both -/

/-- Whatever is written can be read back, and what was read before comes back as it was. -/
structure SurvivesWriting {σ α : Type} (read : σ → Except WireFault α) (write : α → Json)
    (readBack : Json → Except WireFault α) (reloaded : α → α) : Prop where
  readable : ∀ a, readBack (write a) = .ok (reloaded a)
  unchanged : ∀ s a, read s = .ok a → readBack (write a) = .ok a
  injective : ∀ s s' a a', read s = .ok a → read s' = .ok a' → write a = write a' → a = a'

theorem SurvivesWriting.of_reloaded {σ α : Type} {read : σ → Except WireFault α} {write : α → Json}
    {readBack : Json → Except WireFault α} {reloaded : α → α}
    (hback : ∀ a, readBack (write a) = .ok (reloaded a))
    (hread : ∀ s a, read s = .ok a → reloaded a = a) :
    SurvivesWriting read write readBack reloaded where
  readable := hback
  unchanged s a h := by
    rw [hback, hread s a h]
  injective s s' a a' h h' hwrite := by
    have hsame : readBack (write a) = readBack (write a') := congrArg readBack hwrite
    rw [hback, hback, hread s a h, hread s' a' h'] at hsame
    exact Except.ok.inj hsame

/-- Criteria survive being written and read again, in whatever format they were read the first time.
No record of a criterion asks for both directions and for whole paths, an empty list is read as one
blank criterion, and the programs are the same as before. -/
theorem criteria_survive_wire {σ : Type} (f : TreeFormat σ) :
    (∀ c, ¬ ((WireCriterion.ofCriterion c).bidirectional = true ∧
      (WireCriterion.ofCriterion c).fullGraph = true)) ∧
      SurvivesWriting (Criterion.read f) Criterion.toJson Criterion.ofJson Criterion.reloaded ∧
      SurvivesWriting (Criteria.read f) Criteria.toJson Criteria.ofJson Criteria.reloaded ∧
      (∀ s, f.items? s = some [] → Criteria.read f s = .ok (.single .blank)) ∧
      ∀ s cs, Criteria.read f s = .ok cs → ∃ cs', Criteria.ofJson cs.toJson = .ok cs' ∧
        ∀ purpose limit showInternet,
          Query.program purpose cs'.list limit showInternet =
            Query.program purpose cs.list limit showInternet := by
  have hcriterion : SurvivesWriting (Criterion.read f) Criterion.toJson Criterion.ofJson
      Criterion.reloaded :=
    .of_reloaded Criterion.ofJson_toJson fun _ _ => Criterion.reloaded_eq_self_of_read
  have hcriteria : SurvivesWriting (Criteria.read f) Criteria.toJson Criteria.ofJson
      Criteria.reloaded :=
    .of_reloaded Criteria.ofJson_toJson fun _ _ => Criteria.reloaded_eq_self_of_read
  refine ⟨fun c => ?_, hcriterion, hcriteria, fun s hs => ?_, fun s cs hcs => ?_⟩
  · rw [← Bool.and_eq_true, WireCriterion.not_bidirectional_and_fullGraph]
    exact Bool.false_ne_true
  · rw [Criteria.read, hs]
    rfl
  · exact ⟨cs, hcriteria.unchanged s cs hcs, fun _ _ _ => rfl⟩

end AssetAtlas
