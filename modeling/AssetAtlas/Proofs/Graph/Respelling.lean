import Mathlib.Data.List.Forall2
import AssetAtlas.Proofs.Graph.Confluence
import AssetAtlas.Proofs.Record.Identifier

/-!
How a store writes identifiers does not matter. A number and its decimal text are the same
identifier wherever one stands, and the ends of a relationship may come under either pair of names.
The main statement is `normalize_respells`: rows that differ only in this give the same graph and the
same issues, and so the same names and texts in them.
-/

namespace AssetAtlas

/-- An identifier is as it was, or it was a number and is now the decimal text of that number. -/
inductive Json.Respells : Json → Json → Prop where
  | refl (id : Json) : Respells id id
  | asText (n : Number) : Respells (.number n) (.string n.text)

theorem Json.Respells.identifier?_eq {id id' : Json} (h : id.Respells id') :
    identifier? id' = identifier? id := by
  cases h with
  | refl => rfl
  | asText n =>
      have hfilled : ¬ n.text.isEmpty = true := by
        rw [String.isEmpty_iff]
        exact n.text_ne_empty
      exact if_neg hfilled

structure RawNode.Respells (n n' : RawNode) : Prop where
  id : n.id.Respells n'.id
  labels : n'.labels = n.labels
  properties : n'.properties = n.properties

/-- The ends of a relationship are where they were. Or they stood under the first pair of names
alone and stand now under the second one alone, whether or not they can be read. -/
inductive RawLink.EndsRespell (l l' : RawLink) : Prop where
  | sameNames (start_node : Option.Rel Json.Respells l.start_node l'.start_node)
      (end_node : Option.Rel Json.Respells l.end_node l'.end_node)
      (startNode : Option.Rel Json.Respells l.startNode l'.startNode)
      (endNode : Option.Rel Json.Respells l.endNode l'.endNode)
  | otherNames (unused_before : l.startNode = none ∧ l.endNode = none)
      (unused_after : l'.start_node = none ∧ l'.end_node = none)
      (start : Option.Rel Json.Respells l.start_node l'.startNode)
      (finish : Option.Rel Json.Respells l.end_node l'.endNode)

structure RawLink.Respells (l l' : RawLink) : Prop where
  id : l.id.Respells l'.id
  kind : l'.kind = l.kind
  ends : l.EndsRespell l'
  properties : l'.properties = l.properties

structure Row.Respells (row row' : Row) : Prop where
  n : Option.Rel RawNode.Respells row.n row'.n
  r : Option.Rel RawLink.Respells row.r row'.r
  m : Option.Rel RawNode.Respells row.m row'.m

/-! ## What is read -/

theorem RawNode.Respells.id?_eq {n n' : RawNode} (h : n.Respells n') : n'.id? = n.id? :=
  h.id.identifier?_eq

theorem RawNode.Respells.classify_eq {n n' : RawNode} (h : n.Respells n') :
    n'.classify = n.classify :=
  RawNode.classify_congr h.id?_eq h.labels h.properties

theorem RawLink.pair?_eq {source source' target target' : Option Json}
    (hsource : Option.Rel Json.Respells source source')
    (htarget : Option.Rel Json.Respells target target') :
    pair? source' target' = pair? source target := by
  cases hsource with
  | none => rfl
  | some hsource =>
      cases htarget with
      | none => simp [pair?]
      | some htarget => simp [pair?, hsource.identifier?_eq, htarget.identifier?_eq]

theorem RawLink.Respells.id?_eq {l l' : RawLink} (h : l.Respells l') : l'.id? = l.id? :=
  h.id.identifier?_eq

theorem RawLink.Respells.endpoints?_eq {l l' : RawLink} (h : l.Respells l') :
    l'.endpoints? = l.endpoints? := by
  unfold endpoints?
  cases h.ends with
  | sameNames start_node end_node startNode endNode =>
      rw [pair?_eq start_node end_node, pair?_eq startNode endNode]
  | otherNames unused_before unused_after start finish =>
      -- the pair that is not used cannot be read, on either side
      have hunused : pair? none none = none := rfl
      rw [unused_before.1, unused_before.2, unused_after.1, unused_after.2, hunused,
        pair?_eq start finish]
      cases pair? l.start_node l.end_node <;> rfl

/-! ## What is made of it -/

namespace Assembly

theorem addNode_respells {n n' : RawNode} (h : n.Respells n') (row : Nat) (a : Assembly) :
    addNode row a n' = addNode row a n := by
  unfold addNode
  rw [h.id?_eq, h.classify_eq, h.labels]

theorem addLink_respells {l l' : RawLink} (h : l.Respells l') (row : Nat) (a : Assembly) :
    addLink row a l' = addLink row a l := by
  unfold addLink
  rw [h.endpoints?_eq, h.id?_eq, h.kind, h.properties]

theorem foldl_toList_respells {α : Type} {R : α → α → Prop} {step : Assembly → α → Assembly}
    (hstep : ∀ x x', R x x' → ∀ a, step a x' = step a x) {x x' : Option α}
    (h : Option.Rel R x x') (a : Assembly) :
    x'.toList.foldl step a = x.toList.foldl step a := by
  cases h with
  | none => rfl
  | some h => exact hstep _ _ h a

theorem addRow_respells {row row' : Row} (h : row.Respells row') (i : Nat) (a : Assembly) :
    addRow a (row', i) = addRow a (row, i) := by
  have hnode (n n' : RawNode) (hn : n.Respells n') (a : Assembly) :
      addNode i a n' = addNode i a n :=
    addNode_respells hn i a
  have hlink (l l' : RawLink) (hl : l.Respells l') (a : Assembly) :
      addLink i a l' = addLink i a l :=
    addLink_respells hl i a
  have hnodes : (row'.n.toList ++ row'.m.toList).foldl (addNode i) a =
      (row.n.toList ++ row.m.toList).foldl (addNode i) a := by
    rw [List.foldl_append, List.foldl_append,
      foldl_toList_respells hnode h.n, foldl_toList_respells hnode h.m]
  have hempty {x x' : Option RawNode} (hx : Option.Rel RawNode.Respells x x') :
      x'.isNone = x.isNone := by
    cases hx <;> rfl
  unfold addRow
  dsimp only
  rw [hempty h.n, hempty h.m, hnodes]
  split
  · rfl
  · exact foldl_toList_respells hlink h.r _

theorem foldl_addRow_respells {rows rows' : List Row} (h : List.Forall₂ Row.Respells rows rows')
    (start : Nat) (a : Assembly) :
    (rows'.zipIdx start).foldl addRow a = (rows.zipIdx start).foldl addRow a := by
  induction h generalizing start a with
  | nil => rfl
  | cons hrow _ ih =>
      rw [List.zipIdx_cons, List.zipIdx_cons, List.foldl_cons, List.foldl_cons,
        addRow_respells hrow]
      exact ih (start + 1) _

end Assembly

/-- Rows in which identifiers are respelled, each occurrence for itself, give the same graph and the
same issues. -/
theorem normalize_respells {rows rows' : List Row} (h : List.Forall₂ Row.Respells rows rows') :
    normalize rows' = normalize rows := by
  unfold normalize Assembly.ofRows
  rw [Assembly.foldl_addRow_respells h 0 {}]

def numberedRows : List Row :=
  [.ofTriple { id := .number (.natural 1), labels := ["aws_ec2_instance"] }
      { id := .number (.natural 7)
        kind := "uses"
        start_node := some (.number (.natural 1))
        end_node := some (.number (.negative (-2))) }
      { id := .number (.negative (-2))
        labels := ["dockerimage"]
        properties := .ofList [("vulnerabilities", .string "many")] },
    { n := some { id := .number (.natural 1) }
      r := some
        { kind := "uses"
          start_node := some (.number (.natural 1))
          end_node := some (.number (.natural 3)) } }]

/-- The same rows with some of the numbers as texts, and with some of the ends under other names. -/
def respelledRows : List Row :=
  [.ofTriple { id := .string "1", labels := ["aws_ec2_instance"] }
      { id := .number (.natural 7)
        kind := "uses"
        startNode := some (.string "1")
        endNode := some (.number (.negative (-2))) }
      { id := .string "-2"
        labels := ["dockerimage"]
        properties := .ofList [("vulnerabilities", .string "many")] },
    { n := some { id := .number (.natural 1) }
      r := some
        { kind := "uses"
          start_node := some (.number (.natural 1))
          end_node := some (.string "3") } }]

theorem normalize_respells_numbers :
    List.Forall₂ Row.Respells numberedRows respelledRows ∧
      normalize respelledRows = normalize numberedRows ∧
      (normalize respelledRows).1.edges.map (fun e => (e.id, e.source, e.target)) =
        [("7", "1", "-2")] ∧
      (normalize respelledRows).2.length = 2 := by
  have hone : (Json.number (.natural 1)).Respells (.string "1") := .asText (.natural 1)
  have htwo : (Json.number (.negative (-2))).Respells (.string "-2") := .asText (.negative (-2))
  have hthree : (Json.number (.natural 3)).Respells (.string "3") := .asText (.natural 3)
  have hrows : List.Forall₂ Row.Respells numberedRows respelledRows := by
    refine .cons ⟨.some ⟨hone, rfl, rfl⟩, .some ⟨.refl _, rfl, ?_, rfl⟩, .some ⟨htwo, rfl, rfl⟩⟩
      (.cons ⟨.some ⟨.refl _, rfl, rfl⟩, .some ⟨.refl _, rfl, ?_, rfl⟩, .none⟩ .nil)
    · exact .otherNames ⟨rfl, rfl⟩ ⟨rfl, rfl⟩ (.some hone) (.some (.refl _))
    · exact .sameNames (.some (.refl _)) (.some hthree) .none .none
  exact ⟨hrows, normalize_respells hrows, by decide, by decide⟩

end AssetAtlas
