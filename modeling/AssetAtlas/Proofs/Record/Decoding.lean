import AssetAtlas.Proofs.Dictionary
import AssetAtlas.Record.Basic

/-!
Rows that are decoded, written and decoded again. Decoding forgives missing columns, columns that
nobody asked for and endpoints that are null; writing leaves out the endpoints that are absent.
Whatever a row was like, one decoding brings it into a form that the next one keeps, because all that
a written record can lose are endpoints that are null. The main statement is `decoding_settles`.
-/

namespace AssetAtlas

theorem texts?_map_string (labels : List String) :
    texts? (.array (labels.map .string)) = some labels := by
  have hread : (Json.string? ∘ Json.string : String → Option String) = pure := rfl
  rw [texts?, List.mapM_map, hread, List.mapM_pure, List.map_id']
  rfl

theorem Json.properties?_ofProperties (p : Properties) : (ofProperties p).properties? = some p :=
  congrArg some p.ofList_entries

/-! ## Nodes -/

namespace RawNode

theorem columns?_toJson (n : RawNode) :
    n.toJson.columns? columns =
      some [some n.id, some (.array (n.labels.map .string)), some (.ofProperties n.properties)] := by
  simp [toJson, Json.columns?, columns, Dictionary.find?_ofList_cons]

theorem ofJson?_toJson (n : RawNode) : ofJson? n.toJson = some n := by
  rw [ofJson?, columns?_toJson]
  simp [texts?_map_string, Json.properties?_ofProperties]

theorem decode?_toJson (n : RawNode) : decode? n.toJson = some n := by
  have hlabels : n.toJson.member? "labels" = some (.array (n.labels.map .string)) := by
    simp [toJson, Json.member?, Json.properties?, Dictionary.find?_ofList_cons]
  rw [decode?, hlabels]
  exact n.ofJson?_toJson

theorem decode?_column (n : Option RawNode) : decode? ((n.map toJson).getD .null) = n := by
  cases n with
  | none => rfl
  | some n => exact n.decode?_toJson

end RawNode

/-! ## Relationships -/

namespace RawLink

/-- The relationship without the endpoints that are null. -/
def settled (l : RawLink) : RawLink :=
  { l with
    start_node := endpoint l.start_node
    end_node := endpoint l.end_node
    startNode := endpoint l.startNode
    endNode := endpoint l.endNode }

theorem endpoint_endpoint (e : Option Json) : endpoint (endpoint e) = endpoint e := by
  rcases e with _ | j
  · rfl
  · cases j <;> rfl

theorem find?_optionalMember (key : String) (e : Option Json) (other : String) :
    (Dictionary.ofList (optionalMember key e)).find? other = if other = key then e else none := by
  cases e with
  | none => exact (ite_self none).symm
  | some j => rw [optionalMember, Dictionary.find?_ofList_cons]; rfl

theorem columns?_toJson (l : RawLink) :
    l.toJson.columns? columns =
      some [some l.id, some (.string l.kind), l.start_node, l.end_node, l.startNode, l.endNode,
        some (.ofProperties l.properties)] := by
  simp [toJson, Json.columns?, columns, Dictionary.find?_ofList_cons,
    Dictionary.find?_ofList_append, find?_optionalMember]

theorem ofJson?_toJson (l : RawLink) : ofJson? l.toJson = some l.settled := by
  rw [ofJson?, columns?_toJson]
  simp [settled, Json.string?, Json.properties?_ofProperties]

theorem decode?_toJson (l : RawLink) : decode? l.toJson = some l.settled := by
  have hkind : l.toJson.member? "type" = some (.string l.kind) := by
    simp [toJson, Json.member?, Json.properties?, Dictionary.find?_ofList_cons,
      Dictionary.find?_ofList_append, find?_optionalMember]
  rw [decode?, hkind]
  exact l.ofJson?_toJson

theorem decode?_column (l : Option RawLink) :
    decode? ((l.map toJson).getD .null) = l.map settled := by
  cases l with
  | none => rfl
  | some l => exact l.decode?_toJson

theorem settled_of_ofJson? {j : Json} {l : RawLink} (h : ofJson? j = some l) : l.settled = l := by
  unfold ofJson? at h
  split at h
  · next id kind start_node end_node startNode endNode properties _ =>
      have hparts : ∃ kind properties, l =
          { id := id.getD .null, kind, start_node := endpoint start_node
            end_node := endpoint end_node, startNode := endpoint startNode
            endNode := endpoint endNode, properties } := by
        cases kind <;> cases properties <;>
          simp only [Option.pure_def, Option.bind_eq_bind, Option.bind_some,
            Option.bind_eq_some_iff, Option.some.injEq] at h
        · exact ⟨_, _, h.symm⟩
        · obtain ⟨properties, -, h⟩ := h
          exact ⟨_, _, h.symm⟩
        · obtain ⟨kind, -, h⟩ := h
          exact ⟨_, _, h.symm⟩
        · obtain ⟨kind, -, properties, -, h⟩ := h
          exact ⟨_, _, h.symm⟩
      obtain ⟨kind, properties, rfl⟩ := hparts
      simp [settled, endpoint_endpoint]
  · exact nomatch h

theorem settled_of_decode? {j : Json} {l : RawLink} (h : decode? j = some l) : l.settled = l := by
  unfold decode? at h
  split at h
  · exact settled_of_ofJson? h
  · exact nomatch h

end RawLink

/-! ## Rows -/

namespace Row

/-- The row without endpoints that are null. -/
def settled (row : Row) : Row :=
  { row with r := row.r.map RawLink.settled }

theorem settled_ofProperties (row : Properties) : (ofProperties row).settled = ofProperties row := by
  have hlink : (ofProperties row).r.map RawLink.settled = (ofProperties row).r := by
    cases hr : (ofProperties row).r with
    | none => rfl
    | some l =>
        obtain ⟨j, -, hj⟩ := Option.bind_eq_some_iff.mp hr
        rw [Option.map_some, RawLink.settled_of_decode? hj]
  rw [settled, hlink]

/-- Whatever a row was made of, writing and decoding it loses nothing but endpoints that are null. -/
theorem ofProperties_toProperties (row : Row) : ofProperties row.toProperties = row.settled := by
  have hn : row.toProperties.find? "n" = some ((row.n.map RawNode.toJson).getD .null) := by
    simp [toProperties, Dictionary.find?_ofList_cons]
  have hr : row.toProperties.find? "r" = some ((row.r.map RawLink.toJson).getD .null) := by
    simp [toProperties, Dictionary.find?_ofList_cons]
  have hm : row.toProperties.find? "m" = some ((row.m.map RawNode.toJson).getD .null) := by
    simp [toProperties, Dictionary.find?_ofList_cons]
  rw [ofProperties, hn, hr, hm, Option.bind_some, Option.bind_some, Option.bind_some,
    RawNode.decode?_column, RawLink.decode?_column, RawNode.decode?_column]
  rfl

theorem ofProperties_insert_n (row : Properties) (j : Json) :
    ofProperties (row.insert "n" j) = { ofProperties row with n := RawNode.decode? j } := by
  simp [ofProperties, Dictionary.find?_insert]

theorem ofProperties_insert_r (row : Properties) (j : Json) :
    ofProperties (row.insert "r" j) = { ofProperties row with r := RawLink.decode? j } := by
  simp [ofProperties, Dictionary.find?_insert]

theorem ofProperties_insert_m (row : Properties) (j : Json) :
    ofProperties (row.insert "m" j) = { ofProperties row with m := RawNode.decode? j } := by
  simp [ofProperties, Dictionary.find?_insert]

/-- A decoded row is decoded to itself when it is written. Whatever stands in one column, and whether
it can be decoded or not, the other two columns are what they were. -/
theorem decoding_settles (row : Properties) :
    ofProperties (ofProperties row).toProperties = ofProperties row ∧
      ∀ j, ofProperties (row.insert "n" j) = { ofProperties row with n := RawNode.decode? j } ∧
        ofProperties (row.insert "r" j) = { ofProperties row with r := RawLink.decode? j } ∧
        ofProperties (row.insert "m" j) = { ofProperties row with m := RawNode.decode? j } := by
  constructor
  · rw [ofProperties_toProperties, settled_ofProperties]
  · intro j
    exact ⟨ofProperties_insert_n row j, ofProperties_insert_r row j, ofProperties_insert_m row j⟩

end Row

end AssetAtlas
