import Mathlib.Algebra.BigOperators.Group.List.Lemmas
import AssetAtlas.Proofs.Dictionary
import AssetAtlas.Proofs.Report.Reading
import AssetAtlas.Proofs.Report.SeverityOrder
import AssetAtlas.Proofs.Text.ByteOrder

/-!
What the text of a summary says about a graph as a whole. The tables of counts, the table of
vulnerabilities and the list of exposed assets are made one by one from the nodes and the edges; the
main statement, `accounts_for_all`, says what is read of them in the text. The tables leave nothing
out and show nothing twice, whatever the graph holds. The list of exposed assets does so if and only
if all types in it are single lines, since nothing is done about line feeds there.
-/

namespace AssetAtlas

/-! ## Stable order -/

section StableOrder

variable {α : Type} {rank : α → Nat} {l l' : List α}

theorem filter_eq_of_sublist {p : α → Bool} (hperm : l'.Perm l) (hsub : (l.filter p).Sublist l') :
    l'.filter p = l.filter p := by
  have hfiltered : (l.filter p).Sublist (l'.filter p) := by
    simpa using hsub.filter p
  exact (hfiltered.eq_of_length (hperm.filter p).length_eq.symm).symm

theorem mem_iff_of_filter_rank_eq (h : ∀ r, l.filter (rank · = r) = l'.filter (rank · = r))
    (a : α) : a ∈ l ↔ a ∈ l' := by
  have hsame : a ∈ l.filter (rank · = rank a) ↔ a ∈ l'.filter (rank · = rank a) := by rw [h]
  simpa using hsame

/-- Lists in the order of their ranks are the same if the elements of each rank stand in the same
order in both. -/
theorem eq_of_filter_rank_eq (hl : l.Pairwise fun a b => rank a ≤ rank b)
    (hl' : l'.Pairwise fun a b => rank a ≤ rank b)
    (h : ∀ r, l.filter (rank · = r) = l'.filter (rank · = r)) : l = l' := by
  induction l generalizing l' with
  | nil =>
      refine (List.eq_nil_iff_forall_not_mem.mpr fun a ha => ?_).symm
      exact List.not_mem_nil ((mem_iff_of_filter_rank_eq h a).mpr ha)
  | cons a l ih =>
      have hmem := (mem_iff_of_filter_rank_eq h a).mp List.mem_cons_self
      cases l' with
      | nil => exact absurd hmem List.not_mem_nil
      | cons b l' =>
          have hmem' := (mem_iff_of_filter_rank_eq h b).mpr List.mem_cons_self
          obtain ⟨ha, hrest⟩ := List.pairwise_cons.mp hl
          obtain ⟨hb, hrest'⟩ := List.pairwise_cons.mp hl'
          -- neither of the two that stand first has a greater rank than the other
          have hrank : rank b = rank a := by
            rcases List.mem_cons.mp hmem with rfl | hlater
            · rfl
            · rcases List.mem_cons.mp hmem' with rfl | hlater'
              · rfl
              · exact Nat.le_antisymm (hb a hlater) (ha b hlater')
          have hfirst := h (rank a)
          rw [List.filter_cons_of_pos (by simp), List.filter_cons_of_pos (by simpa using hrank)]
            at hfirst
          obtain ⟨rfl, -⟩ := List.cons.inj hfirst
          refine congrArg (a :: ·) (ih hrest hrest' fun r => ?_)
          have hr := h r
          rw [List.filter_cons, List.filter_cons] at hr
          split at hr
          · exact (List.cons.inj hr).2
          · exact hr

theorem rank_le_trans (rank : α → Nat) (a b c : α) :
    decide (rank a ≤ rank b) → decide (rank b ≤ rank c) → decide (rank a ≤ rank c) := by
  simpa using Nat.le_trans

theorem rank_le_total (rank : α → Nat) (a b : α) :
    decide (rank a ≤ rank b) || decide (rank b ≤ rank a) := by
  simpa using Nat.le_total (rank a) (rank b)

theorem filter_mergeSort_rank (rank : α → Nat) (l : List α) (r : Nat) :
    (l.mergeSort fun a b => rank a ≤ rank b).filter (rank · = r) = l.filter (rank · = r) := by
  have hequal : (l.filter (rank · = r)).Pairwise fun a b => decide (rank a ≤ rank b) := by
    refine List.pairwise_of_forall_mem_list fun a ha b hb => decide_eq_true ?_
    have harank := of_decide_eq_true (List.mem_filter.mp ha).2
    have hbrank := of_decide_eq_true (List.mem_filter.mp hb).2
    omega
  exact filter_eq_of_sublist (List.mergeSort_perm _ _)
    (List.sublist_mergeSort (rank_le_trans rank) (rank_le_total rank) hequal List.filter_sublist)

/-- To list what has each rank, one rank after the other, is to sort by rank and to keep the order
within each. -/
theorem flatMap_filter_eq_mergeSort {bound : Nat} (h : ∀ a ∈ l, rank a < bound) :
    ((List.range bound).flatMap fun r => l.filter (rank · = r)) =
      l.mergeSort fun a b => rank a ≤ rank b := by
  have hperm := perm_flatMap_filter rank l bound
  rw [List.filter_eq_self.mpr fun a ha => decide_eq_true (h a ha)] at hperm
  apply eq_of_filter_rank_eq (pairwise_flatMap_filter rank l bound)
  · exact (List.pairwise_mergeSort (rank_le_trans rank) (rank_le_total rank) l).imp of_decide_eq_true
  · intro r
    rw [filter_mergeSort_rank]
    refine filter_eq_of_sublist hperm ?_
    by_cases hr : r < bound
    · exact List.sublist_flatten_of_mem (List.mem_map.mpr ⟨r, List.mem_range.mpr hr, rfl⟩)
    · -- nothing has a rank beyond the bound
      have hnone : l.filter (rank · = r) = [] := by
        refine List.filter_eq_nil_iff.mpr fun a ha hrank => hr ?_
        rw [← of_decide_eq_true hrank]
        exact h a ha
      rw [hnone]
      exact List.nil_sublist _

end StableOrder

namespace Summary

/-! ## Counts -/

/-- The number that a text spells in decimal digits. -/
def number? (s : String) : Option Nat :=
  if s.toList.all Char.isDigit then some (Nat.ofDigitChars 10 s.toList 0) else none

/-- The name and the number in a row of a table of counts. -/
def readCount? : List String → Option (String × Nat)
  | [name, count] => (number? count).map (name, ·)
  | _ => none

/-- What a table of counts shows. -/
def readCounts? (title text : String) : Option (List (String × Nat)) :=
  (readTable title text).mapM readCount?

/-- Counts that account for a list of names. Each name that occurs is listed once, on one line, in
the ascending order of the bytes of the names; and nothing is missing from the sum. -/
structure AccountsFor (names : List String) (listed : List (String × Nat)) : Prop where
  exists_eq : ∃ distinct : List String,
    distinct.Pairwise (fun a b => Text.utf8 a < Text.utf8 b) ∧
    (∀ name, name ∈ distinct ↔ name ∈ names) ∧
    listed = distinct.map fun name => (asLine name, names.count name)
  sum_eq : (listed.map (·.2)).sum = names.length

theorem find?_tally (names : List String) (name : String) :
    (tally names).find? name = if name ∈ names then some (names.count name) else none := by
  induction names using List.reverseRecOn with
  | nil => rfl
  | append_singleton names last ih =>
      rw [tally, List.foldl_concat, ← tally, Dictionary.find?_insert]
      by_cases hlast : name = last
      · subst hlast
        rw [if_pos rfl, if_pos (by simp), ih]
        split
        · simp
        · next hnew => simp [List.count_eq_zero_of_not_mem hnew]
      · rw [if_neg hlast, ih]
        simp [hlast, Ne.symm hlast]

theorem mem_keys_tally (names : List String) (name : String) :
    name ∈ (tally names).entries.map (·.1) ↔ name ∈ names := by
  rw [← not_iff_not, ← Dictionary.find?_eq_none_iff, find?_tally]
  simp

theorem eq_count_of_mem_tally {names : List String} {e : String × Nat}
    (h : e ∈ (tally names).entries) : e.2 = names.count e.1 := by
  have hfind := Dictionary.find?_eq_some_iff.mpr h
  rw [find?_tally] at hfind
  split at hfind
  · exact (Option.some.inj hfind).symm
  · exact nomatch hfind

theorem sum_count_tally (names : List String) :
    (((tally names).entries.map (·.1)).map names.count).sum = names.length := by
  -- the keys are the names without repetition, in another order
  have hkeys : ((tally names).entries.map (·.1)).Perm names.dedup := by
    refine (List.perm_ext_iff_of_nodup (Dictionary.nodup_keys_entries _) names.nodup_dedup).mpr ?_
    intro name
    rw [mem_keys_tally, List.mem_dedup]
  rw [(hkeys.map _).sum_eq]
  exact List.sum_map_count_dedup_eq_length names

theorem number?_toString (n : Nat) : number? (toString n) = some n := by
  have hdigits : ∀ c ∈ Nat.toDigits 10 n, c.isDigit = true := fun c hc =>
    Nat.isDigit_of_mem_toDigits (by decide) (by decide) hc
  have hlist : (toString n).toList = Nat.toDigits 10 n := by simp
  rw [number?, hlist, if_pos (List.all_eq_true.mpr hdigits), Nat.ofDigitChars_ten_toDigits]

theorem readCounts?_countTable {s : Snapshot} {title column : String} {names : List String}
    (h : countTable title column names ∈ tables s) :
    readCounts? title (text s) = some
      (((tally names).entries.map (·.1)).map fun name => (asLine name, names.count name)) := by
  have hread := readTable_of_mem h
  change readTable title (text s) = ((tally names).entries.map _).map _ at hread
  have hrow (e : String × Nat) :
      readCount? ([e.1, toString e.2].map asLine) = some (asLine e.1, e.2) := by
    have hnumber : asLine (toString e.2) = toString e.2 :=
      asLine_of_not_mem (by simp [newline_not_mem_toDigits])
    rw [List.map_cons, List.map_singleton, hnumber, readCount?, number?_toString]
    rfl
  rw [readCounts?, hread, List.map_map, List.mapM_map]
  simp only [Function.comp_def, hrow]
  rw [List.map_map]
  refine List.mapM_pure.trans (congrArg some (List.map_congr_left fun e he => ?_))
  rw [eq_count_of_mem_tally he]
  rfl

theorem countTable_mem_tables (s : Snapshot) :
    countTable "Node Types" "Type" (s.graph.nodes.map (·.kind)) ∈ tables s ∧
      countTable "Relationships" "Relationship" (s.graph.edges.map (·.kind)) ∈ tables s := by
  simp [tables]

theorem accountsFor_tally (names : List String) : AccountsFor names
    (((tally names).entries.map (·.1)).map fun name => (asLine name, names.count name)) where
  exists_eq := ⟨_, List.pairwise_map.mpr ((tally names).ordered.imp Text.utf8_lt_utf8),
    mem_keys_tally names, rfl⟩
  sum_eq := by
    rw [List.map_map]
    exact sum_count_tally names

theorem asLine_eq_iff {s name : String} (hspace : ' ' ∉ name.toList) (hline : '\n' ∉ name.toList) :
    asLine s = name ↔ s = name := by
  constructor
  · rintro rfl
    refine (asLine_of_not_mem fun hmem => hspace ?_).symm
    rw [asLine, String.toList_ofList]
    exact List.mem_map.mpr ⟨'\n', hmem, rfl⟩
  · rintro rfl
    exact asLine_of_not_mem hline

theorem lookup_map_asLine {name : String} (hspace : ' ' ∉ name.toList)
    (hline : '\n' ∉ name.toList) (count : String → Nat) (distinct : List String) :
    (distinct.map fun s => (asLine s, count s)).lookup name =
      if name ∈ distinct then some (count name) else none := by
  induction distinct with
  | nil => rfl
  | cons s distinct ih =>
      rw [List.map_cons, List.lookup_cons, ih]
      by_cases hs : s = name
      · subst hs
        simp [(asLine_eq_iff hspace hline).mpr rfl]
      · have hne : (name == asLine s) = false :=
          beq_false_of_ne fun heq => hs ((asLine_eq_iff hspace hline).mp heq.symm)
        simp [hne, Ne.symm hs]

theorem AccountsFor.lookup_getD {names : List String} {listed : List (String × Nat)}
    (h : AccountsFor names listed) {name : String} (hspace : ' ' ∉ name.toList)
    (hline : '\n' ∉ name.toList) : (listed.lookup name).getD 0 = names.count name := by
  obtain ⟨distinct, -, hmem, rfl⟩ := h.exists_eq
  rw [lookup_map_asLine hspace hline]
  split
  · rfl
  · next hnew => exact (List.count_eq_zero_of_not_mem (mt (hmem name).mpr hnew)).symm

/-! ## Vulnerabilities -/

theorem rankedVulnerabilities_eq_mergeSort (g : Graph) : rankedVulnerabilities g =
    (g.nodes.filter (·.kind = "vulnerability")).mergeSort fun a b =>
      severityRank (shown a "severity") ≤ severityRank (shown b "severity") :=
  flatMap_filter_eq_mergeSort fun _ _ => Nat.lt_succ_of_le (severityRank_le _)

theorem readTable_vulnerabilities (s : Snapshot) : readTable "Vulnerabilities" (text s) =
    (rankedVulnerabilities s.graph).map fun n => (vulnerabilityTexts n).map asLine := by
  have ht : vulnerabilityTable (rankedVulnerabilities s.graph) ∈ tables s := by simp [tables]
  have hread := readTable_of_mem ht
  change readTable "Vulnerabilities" (text s) = (List.map _ _).map _ at hread
  rw [hread, List.map_map]
  rfl

theorem length_rankedVulnerabilities (g : Graph) :
    (rankedVulnerabilities g).length = (g.nodes.map (·.kind)).count "vulnerability" := by
  rw [(rankedVulnerabilities_perm g).length_eq, List.count, List.countP_map,
    List.countP_eq_length_filter]
  rfl

/-! ## Exposed assets -/

/-- The edges from the internet whose targets are in the graph. -/
def accessEdges (g : Graph) : List Edge :=
  g.edges.filter fun e =>
    e.source = "internet" ∧ e.kind = "internet_access" ∧ g.hasNode e.target

/-- A line that shows a node in the list of exposed assets: first its name, on one line and with its
bars marked, and then its type. -/
def IsEntryOf (line : String) (n : Node) : Prop :=
  ∃ label : String, pieces label.toList = [(asLine n.label).toList] ∧
    line = "- **" ++ label ++ "** (\x60" ++ n.kind ++ "\x60)"

/-- The list of exposed assets in a text shows the targets of these edges one by one. -/
def ListsTargets (g : Graph) (text : String) : Prop :=
  List.Forall₂ (fun e line => ∃ n, g.node? e.target = some n ∧ IsEntryOf line n)
    (accessEdges g) (readEntries text)

theorem forall₂_filterMap {α β : Type} (f : α → Option β) (l : List α) :
    List.Forall₂ (fun a b => f a = some b) (l.filter fun a => (f a).isSome) (l.filterMap f) := by
  induction l with
  | nil => exact .nil
  | cons a l ih =>
      cases h : f a with
      | none => simpa [h] using ih
      | some b => simpa [h] using ih

theorem forall_mem_of_forall₂ {α β : Type} {R : α → β → Prop} {p : β → Prop} {as : List α}
    {bs : List β} (h : List.Forall₂ R as bs) (hp : ∀ a ∈ as, ∀ b, R a b → p b) :
    ∀ b ∈ bs, p b := by
  induction h with
  | nil => exact nofun
  | cons hab _ ih =>
      obtain ⟨ha, hrest⟩ := List.forall_mem_cons.mp hp
      exact List.forall_mem_cons.mpr ⟨ha _ hab, ih hrest⟩

theorem forall₂_exposedNodes (g : Graph) :
    List.Forall₂ (fun e n => g.node? e.target = some n) (accessEdges g) (exposedNodes g) := by
  have h := forall₂_filterMap (fun e : Edge => g.node? e.target)
    (g.edges.filter fun e => e.source == Internet.nodeId && e.kind == Internet.edgeKind)
  rw [List.filter_filter] at h
  have hfilter : (fun e : Edge => decide
      (e.source = "internet" ∧ e.kind = "internet_access" ∧ g.hasNode e.target)) =
      fun e => (g.node? e.target).isSome &&
        (e.source == Internet.nodeId && e.kind == Internet.edgeKind) := by
    funext e
    rw [Graph.hasNode, ← List.isSome_find?, Bool.and_comm, Bool.and_assoc, Bool.decide_and,
      Bool.decide_and, Bool.decide_coe]
    rfl
  rw [accessEdges, hfilter]
  exact h

theorem isEntryOf_exposureEntry (n : Node) : IsEntryOf (exposureEntry n) n := by
  refine ⟨escapeCell n.label, ?_, rfl⟩
  have hend : ([] : List Char).head? ≠ some '|' := nofun
  have hlabel := pieces_escape n.label.toList hend
  rw [List.append_nil, ← toList_escapeCell] at hlabel
  rw [hlabel]
  simp [pieces, asLine]

/-- The list of exposed assets has an entry for each edge if and only if no type in it is broken into
lines. -/
theorem listsTargets_iff (s : Snapshot) : ListsTargets s.graph (text s) ↔
    ∀ e ∈ accessEdges s.graph, ∀ n ∈ s.graph.node? e.target, '\n' ∉ n.kind.toList := by
  constructor
  · intro h
    -- what is read as an entry is one line, and a type stands in it as it is
    have hsingle : ∀ line ∈ readEntries (text s), '\n' ∉ line.toList := fun line hline =>
      newline_not_mem_of_mem_linesOf (mem_of_mem_linesBelow hline)
    refine forall_mem_of_forall₂ h.flip fun line hline e hentry n hn => ?_
    obtain ⟨n', hn', label, -, rfl⟩ := hentry
    obtain rfl := Option.some.inj (hn.symm.trans hn')
    have hline := hsingle _ hline
    intro hmem
    simp [hmem] at hline
  · intro h
    have hexposed := forall₂_exposedNodes s.graph
    have hkinds := forall_mem_of_forall₂ hexposed fun e he n hn => h e he n hn
    rw [ListsTargets, readEntries_text hkinds, List.forall₂_map_right_iff]
    exact hexposed.imp fun e n hn => ⟨n, hn, isEntryOf_exposureEntry n⟩

/-! ## All sections -/

/-- What is read in the text of a summary gives an account of all nodes and edges of a graph. -/
structure Accounts (g : Graph) (text : String) : Prop where
  kinds : ∃ listed, readCounts? "Node Types" text = some listed ∧
    AccountsFor (g.nodes.map (·.kind)) listed ∧
    (readTable "Vulnerabilities" text).length = (listed.lookup "vulnerability").getD 0
  relations : ∃ listed, readCounts? "Relationships" text = some listed ∧
    AccountsFor (g.edges.map (·.kind)) listed
  vulnerabilities : readTable "Vulnerabilities" text =
    ((g.nodes.filter (·.kind = "vulnerability")).mergeSort fun a b =>
      severityRank (shown a "severity") ≤ severityRank (shown b "severity")).map fun n =>
        [n.label, shown n "severity", shown n "package_name", shown n "package_version",
          shown n "fixed_version", if isFlagged n then "⚠️ yes" else "no"].map asLine
  exposed_iff : ListsTargets g text ↔
    ∀ e ∈ accessEdges g, ∀ n ∈ g.node? e.target, '\n' ∉ n.kind.toList

/-- Whatever graph is reported, the tables of a Markdown report give an account of all its nodes and
edges, and the list of exposed assets does so unless a type in it is broken into lines. -/
theorem accounts_for_all (r : Report) : Accounts r.snapshot.graph (r.text .markdown) where
  kinds := by
    have hread := readCounts?_countTable (countTable_mem_tables r.snapshot).1
    have haccounts := accountsFor_tally (r.snapshot.graph.nodes.map (·.kind))
    refine ⟨_, hread, haccounts, ?_⟩
    rw [haccounts.lookup_getD (by decide) (by decide), ← length_rankedVulnerabilities]
    exact (congrArg List.length (readTable_vulnerabilities r.snapshot)).trans (List.length_map _)
  relations :=
    ⟨_, readCounts?_countTable (countTable_mem_tables r.snapshot).2, accountsFor_tally _⟩
  vulnerabilities := by
    rw [← rankedVulnerabilities_eq_mergeSort]
    exact readTable_vulnerabilities r.snapshot
  exposed_iff := listsTargets_iff r.snapshot

/-- A graph with public buckets, connected to the internet. A bucket is given by its number and its
labels. -/
def bucketGraph (buckets : List (String × List String)) : Graph :=
  let rows := buckets.map fun (id, labels) => Row.ofNode
    { id := .string id
      labels
      properties := .ofList [("bucket_policy_is_public", .bool true)] }
  (normalize rows).1.withInternet

/-- A single bucket, whose type ends one entry and begins another. -/
def forgedGraph : Graph :=
  bucketGraph [("1", ["aws_s3_bucket\x60)\n- **2** (\x60aws_s3_bucket", "aws_s3_bucket"])]

/-- The bucket with that type is listed as two, in the same words as two buckets with plain types. -/
theorem forged_type_lists_two :
    (accessEdges forgedGraph).length = 1 ∧
      readEntries (text { Snapshot.empty 25 1 ⟨0, 0⟩ with graph := forgedGraph }) =
        ["- **1** (\x60aws_s3_bucket\x60)", "- **2** (\x60aws_s3_bucket\x60)"] ∧
      ¬ ListsTargets forgedGraph (text { Snapshot.empty 25 1 ⟨0, 0⟩ with graph := forgedGraph }) ∧
      let plain := bucketGraph [("1", ["aws_s3_bucket"]), ("2", ["aws_s3_bucket"])]
      (accessEdges plain).length = 2 ∧ exposureSection forgedGraph = exposureSection plain := by
  have hentries :
      readEntries (text { Snapshot.empty 25 1 ⟨0, 0⟩ with graph := forgedGraph }) =
        ["- **1** (\x60aws_s3_bucket\x60)", "- **2** (\x60aws_s3_bucket\x60)"] := by
    rw [readEntries, linesOf_text]
    decide +kernel
  have hedges : (accessEdges forgedGraph).length = 1 := by decide +kernel
  refine ⟨hedges, hentries, fun hlists => ?_, by decide +kernel⟩
  have hlength := hlists.length_eq
  rw [hedges, hentries] at hlength
  exact absurd hlength (by decide)

end Summary

end AssetAtlas
